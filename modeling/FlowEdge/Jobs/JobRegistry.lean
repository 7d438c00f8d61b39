import FlowEdge.Jobs.CooperativeJob
import FlowEdge.Protocol.JobMessages

/-!
# Job adapters

A registry maps the route of a request, its kind, model and state schema, to the
callbacks of one backend. Binding a request to a registration gives the job that a
worker lane runs.
-/

namespace FlowEdge

/-- `JobRoute`: what an adapter serves. -/
structure JobRoute where
  kind : JobKind := .unknown
  modelDigest : ModelDigest := Vector.replicate 16 0
  stateSchema : UInt64 := 0
  deriving DecidableEq

/-- `job_route`: the route of a job. -/
def jobRoute (descriptor : JobDescriptor) : JobRoute where
  kind := descriptor.kind
  modelDigest := descriptor.modelDigest
  stateSchema := descriptor.stateSchema

/-- `RoutedJobOps`: the callbacks of an adapter. -/
structure RoutedJobOps (κ : Type) where
  cooperative : CooperativeJobOps κ
  prepare : κ → List UInt8 → Bool × κ
  result : κ → List UInt8

/-- A registration. All registrations of a lane act on the one state `κ` of its backends. -/
structure JobAdapterRegistration (κ : Type) where
  route : JobRoute
  operations : RoutedJobOps κ
  maxRequestBytes : UInt64
  maxResultBytes : UInt64

/-- `JobRouteErrorCode`. -/
inductive JobRouteErrorCode where
  | invalidRegistration
  | duplicateRoute
  | capacityExceeded
  | registryFrozen
  | registryNotFrozen
  | invalidRequest
  | adapterNotFound
  | payloadTooLarge
  | prepareFailed
  | invalidBinding
  deriving DecidableEq

structure JobRouteError where
  code : JobRouteErrorCode
  message : String
  deriving DecidableEq

/-- `valid_route`: a known kind, a schema and a digest. -/
def validRoute (route : JobRoute) : Bool :=
  validJobKind route.kind ∧ route.stateSchema ≠ 0 ∧ route.modelDigest.toList.any (· ≠ 0)

/-- `JobAdapterRegistry`: the adapters of a lane. -/
structure JobAdapterRegistry (κ : Type) where
  capacity : Nat
  entries : List (JobAdapterRegistration κ) := []
  frozen : Bool := false

/-- The part of the payload array that belongs to a request. -/
def JobRequestMessage.payloadValues (request : JobRequestMessage) : List UInt8 :=
  request.payload.take request.metadata.payloadBytes.toNat

/-- A request bound to a registration. -/
structure RoutedJob (κ : Type) where
  job : CooperativeJob
  sequence : UInt64
  operations : RoutedJobOps κ
  maxResultBytes : UInt64
  serviceClass : JobServiceClass

namespace JobAdapterRegistry

variable {κ : Type}

/-- `add`: register an adapter before the registry is frozen. -/
def add (registry : JobAdapterRegistry κ) (registration : JobAdapterRegistration κ) :
    Except JobRouteError (JobAdapterRegistry κ) :=
  if registry.frozen then
    .error ⟨.registryFrozen, "Job adapter registry is already frozen"⟩
  else if validRoute registration.route = false ∨
      registration.maxRequestBytes.toNat > maxJobPayloadBytes ∨
      registration.maxResultBytes.toNat > maxJobPayloadBytes then
    .error ⟨.invalidRegistration, "Job adapter registration is invalid"⟩
  else if registry.entries.any (·.route = registration.route) then
    .error ⟨.duplicateRoute, "Job adapter route is already registered"⟩
  else if registry.entries.length = registry.capacity then
    .error ⟨.capacityExceeded, "Job adapter registry capacity is exhausted"⟩
  else
    .ok { registry with entries := registry.entries ++ [registration] }

def freeze (registry : JobAdapterRegistry κ) : JobAdapterRegistry κ :=
  { registry with frozen := true }

/-- `find`: the adapter of a job, once the registry is frozen. -/
def find (registry : JobAdapterRegistry κ) (descriptor : JobDescriptor) :
    Option (JobAdapterRegistration κ) :=
  if registry.frozen = false ∨ validJobDescriptor descriptor = false then none
  else registry.entries.find? (·.route = jobRoute descriptor)

/-- `registration_accepts` of the worker pool. -/
def registrationAccepts (registry : JobAdapterRegistry κ) (request : JobRequestMessage) : Bool :=
  match registry.find request.metadata.descriptor with
  | none => false
  | some registration => request.metadata.payloadBytes ≤ registration.maxRequestBytes

/-- `bind`, with the backends of the lane: the `prepare` callback may change them. -/
def bind (registry : JobAdapterRegistry κ) (request : JobRequestMessage) (backend : κ) :
    Except JobRouteError (RoutedJob κ) × κ :=
  if registry.frozen = false then
    (.error ⟨.registryNotFrozen, "Job adapter registry must be frozen before routing"⟩, backend)
  else if request.validate ≠ .success then
    (.error ⟨.invalidRequest, "Generic job request is invalid"⟩, backend)
  else
    match registry.find request.metadata.descriptor with
    | none =>
        (.error ⟨.adapterNotFound, "No adapter matches the job kind, model, and schema"⟩, backend)
    | some registration =>
        if request.metadata.payloadBytes > registration.maxRequestBytes then
          (.error ⟨.payloadTooLarge, "Generic job request exceeds the adapter payload limit"⟩,
            backend)
        else
          let (prepared, backend) :=
            registration.operations.prepare backend request.payloadValues
          if prepared = false then
            (.error ⟨.prepareFailed, "Generic job adapter rejected the request payload"⟩, backend)
          else
            match CooperativeJob.bind request.metadata.descriptor with
            | .error _ =>
                (.error
                  ⟨.invalidBinding, "Generic job adapter could not bind a cooperative job"⟩,
                  backend)
            | .ok job =>
                (.ok
                  { job
                    sequence := request.envelope.sequence
                    operations := registration.operations
                    maxResultBytes := registration.maxResultBytes
                    serviceClass := request.metadata.serviceClass }, backend)

end JobAdapterRegistry

namespace RoutedJob

variable {κ : Type}

/-- `write_result`: the message with what the backend gives as its result. -/
def writeResult (routed : RoutedJob κ) (backend : κ) (timestampNs : UInt64) :
    Except ProtocolResult JobResultMessage :=
  let payload := routed.operations.result backend
  if payload.length > routed.maxResultBytes.toNat ∨ payload.length > maxJobPayloadBytes then
    .error .dimensionExceeded
  else
    let current := routed.job.progress
    makeJobResult routed.sequence routed.job.descriptor current timestampNs
      (resultCode current.state) payload routed.serviceClass

/-- A result that was written is the one of the progress of the job. -/
theorem writeResult_ok {routed : RoutedJob κ} {backend : κ} {timestampNs : UInt64}
    {result : JobResultMessage} (written : routed.writeResult backend timestampNs = .ok result) :
    makeJobResult routed.sequence routed.job.descriptor routed.job.progress timestampNs
      (resultCode routed.job.state) (routed.operations.result backend) routed.serviceClass =
      .ok result := by
  unfold writeResult at written
  dsimp only at written
  split at written
  · cases written
  · exact written

theorem code_writeResult {routed : RoutedJob κ} {backend : κ} {timestampNs : UInt64}
    {result : JobResultMessage} (written : routed.writeResult backend timestampNs = .ok result) :
    jobResultCode result = resultCode routed.job.state :=
  (makeJobResult_code (writeResult_ok written)).1

end RoutedJob

/-- A job that was bound carries the identity of its valid request and has not started. -/
structure RoutedJob.Binds {κ : Type} (routed : RoutedJob κ) (request : JobRequestMessage) :
    Prop where
  job : routed.job = { descriptor := request.metadata.descriptor }
  sequence : routed.sequence = request.envelope.sequence
  serviceClass : routed.serviceClass = request.metadata.serviceClass
  valid : request.validate = .success

theorem JobAdapterRegistry.bind_ok {κ : Type} {registry : JobAdapterRegistry κ}
    {request : JobRequestMessage} {backend : κ} {routed : RoutedJob κ}
    (bound : (registry.bind request backend).1 = .ok routed) : routed.Binds request := by
  unfold JobAdapterRegistry.bind at bound
  split at bound
  · cases bound
  split at bound
  · cases bound
  · next valid =>
      split at bound
      · cases bound
      split at bound
      · cases bound
      dsimp only at bound
      split at bound
      · cases bound
      split at bound
      · cases bound
      · next job made =>
          cases bound
          unfold CooperativeJob.bind at made
          split at made
          · cases made
          · cases made
            exact ⟨rfl, rfl, rfl, not_not.mp valid⟩

end FlowEdge
