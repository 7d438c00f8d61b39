import FlowEdge.Worker.JobWorkerPool
import FlowEdge.Jobs.JobCalls

/-!
# The streaming adapter and the lanes of the job daemon

An adapter feeds the tokens of a request to one engine, a few per quantum, and keeps the last
hidden state. It saves both, with a snapshot of the engine, into the capsule in which a job
travels between lanes. The daemon opens one adapter per lane and sizes the migration storage of
all lanes before any request arrives.
-/

namespace FlowEdge

open Bytes

/-- The model fields the adapter reads. -/
structure StreamModelMetadata where
  architecture : UInt32
  modelDigest : ModelDigest
  dModel : UInt64
  decodeSnapshotBytes : UInt64
  deriving DecidableEq

def archMamba : UInt32 := 1
def archMambaFlow : UInt32 := 3
def mambaStreamStateSchema : UInt64 := 0x6d616d62612d7631
def streamStateVersion : Nat := 1
def streamStateHeaderBytes : UInt64 := 24

/-- What the adapter asks of an engine with state `σ`. A step writes the hidden state, and an
export the bytes of a snapshot. -/
structure StreamEngine (σ : Type) where
  reset : σ → σ
  step : σ → UInt32 → Bool × (Nat → UInt32) × σ
  exportDecodeState : σ → Bool × (Nat → UInt8)
  importDecodeState : σ → List UInt8 → Bool × σ

/-- `MambaStreamAdapter`. The first `tokenCount` of the `tokens` are those of the job. -/
structure MambaStreamAdapter (σ : Type) where
  engine : σ
  metadata : StreamModelMetadata
  tokens : List UInt32
  hidden : List UInt32
  snapshotBytes : UInt64
  tokenCount : UInt64 := 0
  completed : UInt64 := 0
  prepared : Bool := false
  cancelled : Bool := false

/-- `mamba_stream_request_bytes`: four bytes a token. -/
def mambaStreamRequestBytes (tokens : UInt64) : UInt64 :=
  if tokens.toNat ≤ maxJobPayloadBytes / 4 then tokens * 4 else 0

/-- `compatible_model`: a Mamba whose decode state can be saved. -/
def compatibleModel (metadata : StreamModelMetadata) : Bool :=
  (metadata.architecture = archMamba ∨ metadata.architecture = archMambaFlow) ∧
    metadata.dModel ≠ 0 ∧ metadata.decodeSnapshotBytes ≠ 0

/-- The sum of the fixed parts is a word and may wrap. -/
def validCapacity (metadata : StreamModelMetadata) (maxTokens : UInt64) : Bool :=
  if compatibleModel metadata = false ∨ maxTokens = 0 ∨
      maxTokens.toNat > maxJobPayloadBytes / 4 then
    false
  else if metadata.dModel > Words.maxWord / 4 then false
  else
    let hiddenBytes := metadata.dModel * 4
    if hiddenBytes.toNat > maxJobPayloadBytes ∨
        metadata.decodeSnapshotBytes > Words.maxWord - streamStateHeaderBytes then
      false
    else
      let fixedBytes := streamStateHeaderBytes + metadata.decodeSnapshotBytes + hiddenBytes
      maxTokens ≤ (Words.maxWord - fixedBytes) / 4

/-- The words that a reader takes off its source, if there are enough. -/
def readWords (source : List UInt8) : Nat → Option (List UInt32)
  | 0 => some []
  | count + 1 =>
      if source.length < 4 then none
      else do
        let rest ← readWords (source.drop 4) count
        pure (UInt32.ofNat (leNat source 0 4) :: rest)

/-- The bytes that a writer puts down in the given room, field by field, until one does not
fit. -/
def writeFields (room : Nat) : List (List UInt8) → Bool × List UInt8
  | [] => (true, [])
  | field :: rest =>
      if room < field.length then (false, [])
      else
        let (written, bytes) := writeFields (room - field.length) rest
        (written, field ++ bytes)

namespace MambaStreamAdapter

variable {σ : Type}

def maxRequestBytes (adapter : MambaStreamAdapter σ) : UInt64 :=
  mambaStreamRequestBytes (UInt64.ofNat adapter.tokens.length)

def maxResultBytes (adapter : MambaStreamAdapter σ) : UInt64 :=
  UInt64.ofNat adapter.hidden.length * 4

def maxStateBytes (adapter : MambaStreamAdapter σ) : UInt64 :=
  streamStateHeaderBytes + adapter.maxRequestBytes + adapter.maxResultBytes +
    adapter.snapshotBytes

/-- `MambaStreamAdapter::open` of an engine that was created. -/
def finishOpen (engine : σ) (metadata : StreamModelMetadata) (maxTokens : UInt64) :
    Except String (MambaStreamAdapter σ) :=
  if validCapacity metadata maxTokens = false then
    .error "Mamba stream adapter requires compatible state and payload limits"
  else
    .ok
      { engine
        metadata
        tokens := List.replicate maxTokens.toNat 0
        hidden := List.replicate metadata.dModel.toNat 0
        snapshotBytes := metadata.decodeSnapshotBytes }

/-- `route`: streaming jobs of the model. -/
def route (adapter : MambaStreamAdapter σ) : JobRoute where
  kind := .streaming
  modelDigest := adapter.metadata.modelDigest
  stateSchema := mambaStreamStateSchema

/-- Take the tokens of a request. The size was checked, so there are enough words. -/
def prepare (adapter : MambaStreamAdapter σ) (request : List UInt8) :
    Bool × MambaStreamAdapter σ :=
  if request = [] ∨ request.length % 4 ≠ 0 ∨
      request.length > adapter.maxRequestBytes.toNat then
    (false, adapter)
  else
    let count := request.length / 4
    match readWords request count with
    | none => (false, adapter)
    | some words =>
        (true, { adapter with
          tokens := words ++ adapter.tokens.drop count
          tokenCount := UInt64.ofNat count
          completed := 0
          prepared := true
          cancelled := false })

variable (runtime : StreamEngine σ)

/-- `begin`: start over at the first token. -/
def begin (adapter : MambaStreamAdapter σ) : Bool × MambaStreamAdapter σ :=
  if adapter.prepared = false ∨ adapter.tokenCount = 0 then (false, adapter)
  else
    (true, { adapter with
      engine := runtime.reset adapter.engine
      hidden := adapter.hidden.map fun _ => 0
      completed := 0
      cancelled := false })

/-- Feed the next tokens until the engine refuses one. -/
def stepTokens : Nat → MambaStreamAdapter σ → Bool × MambaStreamAdapter σ
  | 0, adapter => (true, adapter)
  | count + 1, adapter =>
      let (stepped, hidden, engine) :=
        runtime.step adapter.engine (adapter.tokens.getD adapter.completed.toNat 0)
      let fed := { adapter with
        engine
        hidden := (List.range adapter.hidden.length).map hidden }
      if stepped = false then (false, fed)
      else stepTokens count { fed with completed := adapter.completed + 1 }

/-- `advance`: feed as many tokens as the budget allows. -/
def advance (adapter : MambaStreamAdapter σ) (budget : UInt64) :
    BackendAdvance × MambaStreamAdapter σ :=
  if adapter.prepared = false ∨ adapter.cancelled = true ∨ budget = 0 ∨
      adapter.completed ≥ adapter.tokenCount then
    ({}, adapter)
  else
    let remaining := adapter.tokenCount - adapter.completed
    let count := if remaining < budget then remaining else budget
    let (stepped, after) := stepTokens runtime count.toNat adapter
    if stepped = false then ({}, after)
    else
      ({ step := if after.completed = after.tokenCount then .complete else .inProgress
         completedWorkUnits := count }, after)

/-- `cancel`: refuse to advance any further. -/
def cancel (adapter : MambaStreamAdapter σ) : MambaStreamAdapter σ :=
  { adapter with cancelled := true }

/-- `state_bytes`: the size of a saved state. -/
def stateBytes (adapter : MambaStreamAdapter σ) : UInt64 :=
  if adapter.prepared = false then 0
  else
    streamStateHeaderBytes + mambaStreamRequestBytes adapter.tokenCount +
      adapter.maxResultBytes + adapter.snapshotBytes

/-- The fields in front of the snapshot, in the order in which they are written. -/
def stateFields (adapter : MambaStreamAdapter σ) : List (List UInt8) :=
  [toLe 4 streamStateVersion, toLe 4 0, toLe 8 adapter.tokenCount.toNat,
    toLe 8 adapter.completed.toNat] ++
    ((adapter.tokens.take adapter.tokenCount.toNat).map fun token => toLe 4 token.toNat) ++
    adapter.hidden.map fun value => toLe 4 value.toNat

/-- `save_state`: the fields and behind them the snapshot of the engine. -/
def saveState (adapter : MambaStreamAdapter σ) (destination : List UInt8) :
    Bool × (Nat → UInt8) :=
  if adapter.prepared = false ∨ destination.length ≠ adapter.stateBytes.toNat then
    (false, fun index => destination.getD index 0)
  else
    let (fits, bytes) := writeFields destination.length adapter.stateFields
    let behind (rest : Nat → UInt8) : Nat → UInt8 := fun index =>
      if index < bytes.length then bytes.getD index 0 else rest index
    if fits = false ∨ destination.length - bytes.length ≠ adapter.snapshotBytes.toNat then
      (false, behind fun index => destination.getD index 0)
    else
      let (exported, snapshot) := runtime.exportDecodeState adapter.engine
      (exported, behind fun index => snapshot (index - bytes.length))

/-- `load_state`: check a saved state and take it over. -/
def loadState (adapter : MambaStreamAdapter σ) (source : List UInt8) :
    Bool × MambaStreamAdapter σ :=
  let tokenCount := UInt64.ofNat (leNat source 8 8)
  let completed := UInt64.ofNat (leNat source 16 8)
  if source.length < streamStateHeaderBytes.toNat ∨ leNat source 0 4 ≠ streamStateVersion ∨
      leNat source 4 4 ≠ 0 ∨ tokenCount = 0 ∨ tokenCount.toNat > adapter.tokens.length ∨
      completed > tokenCount then
    (false, adapter)
  else
    let expected := streamStateHeaderBytes + tokenCount * 4 +
      UInt64.ofNat adapter.hidden.length * 4 + adapter.snapshotBytes
    if source.length ≠ expected.toNat then (false, adapter)
    else
      let snapshotOffset := (expected - adapter.snapshotBytes).toNat
      let (imported, engine) := runtime.importDecodeState adapter.engine
        (source.drop snapshotOffset)
      if imported = false then (false, { adapter with engine })
      else
        let body := (source.take snapshotOffset).drop streamStateHeaderBytes.toNat
        match readWords body tokenCount.toNat,
            readWords (body.drop (4 * tokenCount.toNat)) adapter.hidden.length with
        | some tokens, some hidden =>
            (true, { adapter with
              engine
              tokens := tokens ++ adapter.tokens.drop tokenCount.toNat
              hidden
              tokenCount
              completed
              prepared := true
              cancelled := false })
        | _, _ => (false, { adapter with engine })

/-- The hidden state as it lies in the memory of a little-endian host. -/
def result (adapter : MambaStreamAdapter σ) : List UInt8 :=
  if adapter.completed = 0 then []
  else adapter.hidden.flatMap fun value => toLe 4 value.toNat

def operations : RoutedJobOps (MambaStreamAdapter σ) where
  cooperative :=
    { begin := begin runtime
      advance := advance runtime
      cancel := cancel
      stateBytes := stateBytes
      saveState := saveState runtime
      loadState := loadState runtime }
  prepare := prepare
  result := result

/-- `registration`: the route with its callbacks and limits. -/
def registration (adapter : MambaStreamAdapter σ) :
    JobAdapterRegistration (MambaStreamAdapter σ) where
  route := adapter.route
  operations := operations runtime
  maxRequestBytes := adapter.maxRequestBytes
  maxResultBytes := adapter.maxResultBytes

end MambaStreamAdapter

/-! ## The daemon -/

namespace JobDaemon

variable {σ : Type} (runtime : StreamEngine σ) (metadata : StreamModelMetadata)
  (maxTokens : UInt64)

/-- A lane: the frozen registry with the adapter's registration, and the adapter. -/
abbrev Lane (σ : Type) := JobAdapterRegistry (MambaStreamAdapter σ) × MambaStreamAdapter σ

/-- A lane with the adapter of an engine as its only route. -/
def openLane (engine : σ) : Except String (Lane σ) :=
  match MambaStreamAdapter.finishOpen engine metadata maxTokens with
  | .error error => .error error
  | .ok adapter =>
      match JobAdapterRegistry.add { capacity := 1 } (adapter.registration runtime) with
      | .error error => .error error.message
      | .ok registry => .ok (registry.freeze, adapter)

/-- Open a lane for each engine and keep the largest state of the adapters as the migration
capacity. -/
def openLanes (capacity : UInt64) : List σ → Except String (List (Lane σ) × UInt64)
  | [] => .ok ([], capacity)
  | engine :: rest =>
      match openLane runtime metadata maxTokens engine with
      | .error error => .error error
      | .ok lane =>
          match openLanes (Words.wordMax capacity lane.2.maxStateBytes) rest with
          | .error error => .error error
          | .ok (lanes, capacity) => .ok (lane :: lanes, capacity)

end JobDaemon

/-! ## Sizes -/

namespace MambaStreamAdapter

variable {σ : Type} {runtime : StreamEngine σ} {adapter : MambaStreamAdapter σ}
  {metadata : StreamModelMetadata} {maxTokens : UInt64}

/-- The storage that was fixed when the adapter was opened. -/
structure Sized (metadata : StreamModelMetadata) (maxTokens : UInt64)
    (adapter : MambaStreamAdapter σ) : Prop where
  tokens : adapter.tokens.length = maxTokens.toNat
  hidden : adapter.hidden.length = metadata.dModel.toNat
  snapshot : adapter.snapshotBytes = metadata.decodeSnapshotBytes

/-- What the checks of an opened adapter say about the sizes. -/
structure Capacity (metadata : StreamModelMetadata) (maxTokens : UInt64) : Prop where
  tokens : maxTokens.toNat ≤ 16384
  hidden : metadata.dModel.toNat ≤ 16384
  total : 24 + metadata.decodeSnapshotBytes.toNat + 4 * metadata.dModel.toNat < 2 ^ 64 →
    24 + metadata.decodeSnapshotBytes.toNat + 4 * metadata.dModel.toNat +
      4 * maxTokens.toNat < 2 ^ 64

theorem capacity_of_valid (valid : validCapacity metadata maxTokens = true) :
    Capacity metadata maxTokens := by
  have limit : maxJobPayloadBytes = 65536 := rfl
  have header : streamStateHeaderBytes.toNat = 24 := rfl
  have four : (4 : UInt64).toNat = 4 := rfl
  simp (disch := decide) only [validCapacity, Words.ite_eq_of_ne, not_or,
    decide_eq_true_eq] at valid
  obtain ⟨⟨-, -, tokens⟩, second, ⟨hidden, snapshot⟩, sum⟩ := valid
  rw [gt_iff_lt, UInt64.lt_iff_toNat_lt, UInt64.toNat_div, Words.toNat_maxWord, four] at second
  rw [UInt64.toNat_mul, four] at hidden
  rw [gt_iff_lt, UInt64.lt_iff_toNat_lt, Words.toNat_maxWord_minus, header] at snapshot
  rw [UInt64.le_iff_toNat_le, UInt64.toNat_div, Words.toNat_maxWord_minus, UInt64.toNat_add,
    UInt64.toNat_add, UInt64.toNat_mul, header, four] at sum
  exact ⟨by omega, by omega, by omega⟩

theorem length_readWords {source : List UInt8} {count : Nat} {words : List UInt32}
    (read : readWords source count = some words) : words.length = count := by
  induction count generalizing source words with
  | zero =>
      cases read
      rfl
  | succ count ih =>
      rw [readWords] at read
      split at read
      · cases read
      · cases rest : readWords (source.drop 4) count with
        | none =>
            rw [rest] at read
            cases read
        | some words' =>
            rw [rest] at read
            cases read
            rw [List.length_cons, ih rest]

theorem sized_of_finishOpen {engine : σ}
    (opened : finishOpen engine metadata maxTokens = .ok adapter) :
    adapter.Sized metadata maxTokens ∧ Capacity metadata maxTokens := by
  unfold finishOpen at opened
  split at opened
  · cases opened
  · next valid =>
      cases opened
      exact ⟨⟨List.length_replicate, List.length_replicate, rfl⟩,
        capacity_of_valid (by simpa using valid)⟩

theorem toNat_mambaStreamRequestBytes {tokens : UInt64} (few : tokens.toNat ≤ 16384) :
    (mambaStreamRequestBytes tokens).toNat = 4 * tokens.toNat := by
  have four : (4 : UInt64).toNat = 4 := rfl
  have limit : tokens.toNat ≤ maxJobPayloadBytes / 4 := few
  rw [mambaStreamRequestBytes, if_pos limit, UInt64.toNat_mul, four]
  omega

section Sizes

variable (sized : adapter.Sized metadata maxTokens) (capacity : Capacity metadata maxTokens)
include sized capacity

theorem toNat_maxRequestBytes : adapter.maxRequestBytes.toNat = 4 * maxTokens.toNat := by
  rw [maxRequestBytes, sized.tokens, UInt64.ofNat_toNat,
    toNat_mambaStreamRequestBytes capacity.tokens]

theorem toNat_maxResultBytes : adapter.maxResultBytes.toNat = 4 * metadata.dModel.toNat := by
  have four : (4 : UInt64).toNat = 4 := rfl
  have few := capacity.hidden
  rw [maxResultBytes, sized.hidden, UInt64.ofNat_toNat, UInt64.toNat_mul, four]
  omega

theorem toNat_maxStateBytes : adapter.maxStateBytes.toNat =
    (24 + 4 * maxTokens.toNat + 4 * metadata.dModel.toNat +
      metadata.decodeSnapshotBytes.toNat) % 2 ^ 64 := by
  have header : streamStateHeaderBytes.toNat = 24 := rfl
  rw [maxStateBytes, UInt64.toNat_add, UInt64.toNat_add, UInt64.toNat_add, header,
    toNat_maxRequestBytes sized capacity, toNat_maxResultBytes sized capacity, sized.snapshot]
  omega

end Sizes

/-! ## The callbacks keep the storage -/

/-- The adapter has taken a request of this many tokens. -/
structure Serves (metadata : StreamModelMetadata) (maxTokens : UInt64) (count : Nat)
    (adapter : MambaStreamAdapter σ) : Prop extends Sized metadata maxTokens adapter where
  prepared : adapter.prepared = true
  count : adapter.tokenCount = UInt64.ofNat count

section Calls

variable (capacity : Capacity metadata maxTokens)
include capacity

theorem Sized.prepare (sized : adapter.Sized metadata maxTokens) (request : List UInt8) :
    (adapter.prepare request).2.Sized metadata maxTokens ∧
      ((adapter.prepare request).1 = true →
        (adapter.prepare request).2.Serves metadata maxTokens (request.length / 4) ∧
        request.length % 4 = 0 ∧ request.length ≤ 4 * maxTokens.toNat) := by
  have limit := toNat_maxRequestBytes sized capacity
  unfold MambaStreamAdapter.prepare
  split
  · exact ⟨sized, nofun⟩
  · next checked =>
      obtain ⟨-, whole, fits⟩ := by simpa only [not_or] using checked
      dsimp only
      split
      · exact ⟨sized, nofun⟩
      · next words read =>
          have length : (words ++ adapter.tokens.drop (request.length / 4)).length =
              maxTokens.toNat := by
            rw [List.length_append, List.length_drop, length_readWords read, sized.tokens]
            omega
          have after : Sized metadata maxTokens { adapter with
              tokens := words ++ adapter.tokens.drop (request.length / 4)
              tokenCount := UInt64.ofNat (request.length / 4)
              completed := 0
              prepared := true
              cancelled := false } := ⟨length, sized.hidden, sized.snapshot⟩
          exact ⟨after, fun _ => ⟨⟨after, rfl, rfl⟩, not_not.mp whole, by omega⟩⟩

end Calls

theorem Sized.loadState (sized : adapter.Sized metadata maxTokens) (source : List UInt8) :
    (adapter.loadState runtime source).2.Sized metadata maxTokens := by
  unfold MambaStreamAdapter.loadState
  dsimp only
  split
  · exact sized
  · next header =>
      split
      · exact sized
      split
      · exact ⟨sized.tokens, sized.hidden, sized.snapshot⟩
      split
      · next tokens hidden readTokens readHidden =>
          have few := (not_or.mp (not_or.mp (not_or.mp (not_or.mp (not_or.mp header).2).2).2).2).1
          refine ⟨?_, ?_, sized.snapshot⟩
          · rw [List.length_append, List.length_drop, length_readWords readTokens, ← sized.tokens]
            omega
          · rw [length_readWords readHidden, sized.hidden]
      · exact ⟨sized.tokens, sized.hidden, sized.snapshot⟩

/-- A step of a job changes neither the storage nor the request of its adapter. -/
structure Steps (before after : MambaStreamAdapter σ) : Prop where
  tokens : after.tokens.length = before.tokens.length
  hidden : after.hidden.length = before.hidden.length
  snapshot : after.snapshotBytes = before.snapshotBytes
  prepared : after.prepared = before.prepared
  count : after.tokenCount = before.tokenCount

theorem Steps.refl (adapter : MambaStreamAdapter σ) : Steps adapter adapter :=
  ⟨rfl, rfl, rfl, rfl, rfl⟩

theorem Steps.trans {first second third : MambaStreamAdapter σ} (one : Steps first second)
    (two : Steps second third) : Steps first third :=
  ⟨two.tokens.trans one.tokens, two.hidden.trans one.hidden, two.snapshot.trans one.snapshot,
    two.prepared.trans one.prepared, two.count.trans one.count⟩

theorem steps_begin (adapter : MambaStreamAdapter σ) : Steps adapter (adapter.begin runtime).2 := by
  unfold MambaStreamAdapter.begin
  split
  · exact .refl adapter
  · exact ⟨rfl, List.length_map _, rfl, rfl, rfl⟩

theorem steps_stepTokens (count : Nat) (adapter : MambaStreamAdapter σ) :
    Steps adapter (stepTokens runtime count adapter).2 := by
  induction count generalizing adapter with
  | zero => exact .refl adapter
  | succ count ih =>
      rw [stepTokens]
      dsimp only
      split
      · exact ⟨rfl, by rw [List.length_map, List.length_range], rfl, rfl, rfl⟩
      · refine Steps.trans ?_ (ih _)
        exact ⟨rfl, by rw [List.length_map, List.length_range], rfl, rfl, rfl⟩

theorem steps_advance (budget : UInt64) (adapter : MambaStreamAdapter σ) :
    Steps adapter (adapter.advance runtime budget).2 := by
  unfold MambaStreamAdapter.advance
  split
  · exact .refl adapter
  · dsimp only
    split <;> split <;> exact steps_stepTokens _ adapter

theorem steps_cancel (adapter : MambaStreamAdapter σ) : Steps adapter adapter.cancel :=
  ⟨rfl, rfl, rfl, rfl, rfl⟩

theorem Sized.of_steps {after : MambaStreamAdapter σ} (sized : adapter.Sized metadata maxTokens)
    (steps : Steps adapter after) : after.Sized metadata maxTokens :=
  ⟨steps.tokens.trans sized.tokens, steps.hidden.trans sized.hidden,
    steps.snapshot.trans sized.snapshot⟩

theorem Serves.of_steps {after : MambaStreamAdapter σ} {count : Nat}
    (serves : adapter.Serves metadata maxTokens count) (steps : Steps adapter after) :
    after.Serves metadata maxTokens count :=
  ⟨serves.toSized.of_steps steps, steps.prepared.trans serves.prepared,
    steps.count.trans serves.count⟩

end MambaStreamAdapter

/-! ## Runs of a job -/

namespace CooperativeJob

variable {σ : Type} {runtime : StreamEngine σ}

open MambaStreamAdapter

variable (job : CooperativeJob)

theorem steps_start (adapter : MambaStreamAdapter σ) :
    Steps adapter (job.start (operations runtime).cooperative adapter).backend := by
  unfold start
  split
  · exact .refl adapter
  · dsimp only
    split <;> exact steps_begin adapter

theorem steps_cancelBefore (generation : UInt64) (adapter : MambaStreamAdapter σ) :
    Steps adapter (job.cancelBefore (operations runtime).cooperative generation adapter).2 := by
  unfold cancelBefore
  split
  · exact steps_cancel adapter
  · exact .refl adapter

theorem backend_record {κ : Type} (budget : UInt64) (report : BackendAdvance) (backend : κ) :
    (job.record budget report backend).backend = backend := by
  unfold record
  dsimp only
  repeat' split
  all_goals rfl

theorem steps_advance (budget generation : UInt64) (adapter : MambaStreamAdapter σ) :
    Steps adapter
      (job.advance (operations runtime).cooperative budget generation adapter).backend := by
  unfold advance
  split
  · exact .refl adapter
  split
  · exact .refl adapter
  split
  · exact job.steps_cancelBefore generation adapter
  split
  · exact .refl adapter
  · dsimp only
    rw [backend_record]
    exact MambaStreamAdapter.steps_advance _ adapter

theorem sized_restoreCapsule {metadata : StreamModelMetadata} {maxTokens : UInt64}
    (source : List UInt8) {adapter : MambaStreamAdapter σ}
    (sized : adapter.Sized metadata maxTokens) :
    (job.restoreCapsule (operations runtime).cooperative source adapter).backend.Sized metadata
      maxTokens := by
  unfold restoreCapsule
  split
  · exact sized
  split
  · exact sized
  split
  · exact sized
  split
  · exact sized
  · dsimp only
    split <;> exact sized.loadState _

theorem sized_run {metadata : StreamModelMetadata} {maxTokens : UInt64} (calls : List JobCall)
    (job : CooperativeJob) {adapter : MambaStreamAdapter σ}
    (sized : adapter.Sized metadata maxTokens) :
    (job.run adapter (calls.map fun call => ((operations runtime).cooperative, call))).2.Sized
      metadata maxTokens := by
  induction calls generalizing job adapter with
  | nil => exact sized
  | cons call calls ih =>
      rw [List.map_cons, run]
      refine ih _ ?_
      cases call with
      | start => exact sized.of_steps (job.steps_start adapter)
      | advance budget generation =>
          exact sized.of_steps (job.steps_advance budget generation adapter)
      | cancelBefore generation => exact sized.of_steps (job.steps_cancelBefore generation adapter)
      | exportCapsule => exact sized
      | restoreCapsule source => exact job.sized_restoreCapsule source sized

/-- The job started and then given the quanta, with the cancel generations loaded before them. -/
def runQuanta {κ : Type} (operations : CooperativeJobOps κ) (job : CooperativeJob) (backend : κ)
    (quanta : List (UInt64 × UInt64)) : CooperativeJob × κ :=
  job.run backend ((operations, .start) ::
    quanta.map fun quantum => (operations, .advance quantum.1 quantum.2))

theorem steps_runQuanta (quanta : List (UInt64 × UInt64)) (job : CooperativeJob)
    (adapter : MambaStreamAdapter σ) :
    Steps adapter (job.runQuanta (operations runtime).cooperative adapter quanta).2 := by
  have along : ∀ (job : CooperativeJob) (adapter : MambaStreamAdapter σ), Steps adapter
      (job.run adapter (quanta.map fun quantum =>
        ((operations runtime).cooperative, .advance quantum.1 quantum.2))).2 := by
    induction quanta with
    | nil => exact fun _ adapter => .refl adapter
    | cons quantum quanta ih =>
        intro job adapter
        exact (job.steps_advance quantum.1 quantum.2 adapter).trans (ih _ _)
  exact (job.steps_start adapter).trans (along _ _)

end CooperativeJob

/-! ## Migration storage -/

namespace JobDaemon

open MambaStreamAdapter

variable {σ : Type} {runtime : StreamEngine σ} {metadata : StreamModelMetadata}
  {maxTokens : UInt64}

/-- The adapter of a lane after requests that it bound and the calls that their jobs got. -/
def serve (registry : JobAdapterRegistry (MambaStreamAdapter σ)) (adapter : MambaStreamAdapter σ) :
    List (JobRequestMessage × List CooperativeJob.JobCall) → MambaStreamAdapter σ
  | [] => adapter
  | (request, calls) :: rest =>
      match registry.bind request adapter with
      | (.error _, adapter) => serve registry adapter rest
      | (.ok routed, adapter) =>
          serve registry (routed.job.run adapter
            (calls.map fun call => (routed.operations.cooperative, call))).2 rest

/-- What the daemon makes sure of when it opens a lane. -/
structure Opened (runtime : StreamEngine σ) (metadata : StreamModelMetadata) (maxTokens : UInt64)
    (lane : Lane σ) : Prop where
  entries : ∀ registration ∈ lane.1.entries, registration.operations = operations runtime
  sized : lane.2.Sized metadata maxTokens
  capacity : Capacity metadata maxTokens

theorem openLane_ok {engine : σ} {lane : Lane σ}
    (opened : openLane runtime metadata maxTokens engine = .ok lane) :
    Opened runtime metadata maxTokens lane := by
  unfold openLane at opened
  split at opened
  · cases opened
  · next adapter made =>
      split at opened
      · cases opened
      · next registry added =>
          cases opened
          obtain ⟨sized, capacity⟩ := sized_of_finishOpen made
          refine ⟨fun registration member => ?_, sized, capacity⟩
          unfold JobAdapterRegistry.add at added
          repeat' split at added
          all_goals cases added
          obtain rfl := List.mem_singleton.mp member
          rfl

/-- Every lane that is opened can hold its largest state, and so can the capacity. -/
theorem openLanes_ok {engines : List σ} {lanes : List (Lane σ)} {initial capacity : UInt64}
    (opened : openLanes runtime metadata maxTokens initial engines = .ok (lanes, capacity)) :
    (∀ lane ∈ lanes, Opened runtime metadata maxTokens lane) ∧
      (lanes ≠ [] → capacity.toNat = max initial.toNat ((24 + 4 * maxTokens.toNat +
        4 * metadata.dModel.toNat + metadata.decodeSnapshotBytes.toNat) % 2 ^ 64)) ∧
      (lanes = [] → capacity = initial) := by
  induction engines generalizing initial lanes capacity with
  | nil =>
      cases opened
      exact ⟨nofun, fun some => absurd rfl some, fun _ => rfl⟩
  | cons engine engines ih =>
      rw [openLanes] at opened
      split at opened
      · cases opened
      · next lane first =>
          split at opened
          · cases opened
          · next lanes capacity rest =>
              cases opened
              have here := openLane_ok first
              obtain ⟨there, some, none⟩ := ih rest
              have start := Words.toNat_wordMax initial lane.2.maxStateBytes
              rw [toNat_maxStateBytes here.sized here.capacity] at start
              refine ⟨List.forall_mem_cons.mpr ⟨here, there⟩, fun _ => ?_, nofun⟩
              by_cases empty : lanes = []
              · rw [none empty, start]
              · rw [some empty, start, max_assoc, max_self]

section Bind

variable {κ : Type} {registry : JobAdapterRegistry κ} {operations : RoutedJobOps κ}
  (entries : ∀ registration ∈ registry.entries, registration.operations = operations)
include entries

/-- Binding changes the backend by `prepare` at most, and a bound job has been prepared. -/
theorem bind_prepares (request : JobRequestMessage) (backend : κ) :
    ((registry.bind request backend).2 = backend ∨
      (registry.bind request backend).2 = (operations.prepare backend request.payloadValues).2) ∧
    ∀ routed, (registry.bind request backend).1 = .ok routed →
      routed.operations = operations ∧
      (operations.prepare backend request.payloadValues).1 = true ∧
      (registry.bind request backend).2 =
        (operations.prepare backend request.payloadValues).2 := by
  unfold JobAdapterRegistry.bind
  split
  · exact ⟨.inl rfl, nofun⟩
  split
  · exact ⟨.inl rfl, nofun⟩
  split
  · exact ⟨.inl rfl, nofun⟩
  · next registration found =>
      have same : registration.operations = operations := by
        unfold JobAdapterRegistry.find at found
        split at found
        · cases found
        · exact entries registration (List.mem_of_find?_eq_some found)
      split
      · exact ⟨.inl rfl, nofun⟩
      · rw [same]
        dsimp only
        split
        · exact ⟨.inr rfl, nofun⟩
        · next prepared =>
            split
            · exact ⟨.inr rfl, nofun⟩
            · refine ⟨.inr rfl, fun routed bound => ?_⟩
              cases bound
              exact ⟨rfl, by simpa using prepared, rfl⟩

end Bind

theorem sized_serve {lane : Lane σ} (opened : Opened runtime metadata maxTokens lane)
    {adapter : MambaStreamAdapter σ} (sized : adapter.Sized metadata maxTokens)
    (history : List (JobRequestMessage × List CooperativeJob.JobCall)) :
    (serve lane.1 adapter history).Sized metadata maxTokens := by
  induction history generalizing adapter with
  | nil => exact sized
  | cons entry history ih =>
      obtain ⟨request, calls⟩ := entry
      obtain ⟨changes, binds⟩ := bind_prepares opened.entries request adapter
      have after : (lane.1.bind request adapter).2.Sized metadata maxTokens := by
        rcases changes with same | prepared
        · rw [same]
          exact sized
        · rw [prepared]
          exact (sized.prepare opened.capacity _).1
      rw [serve]
      split
      · next reason other outcome =>
          rw [outcome] at after
          exact ih after
      · next routed other outcome =>
          rw [outcome] at after binds
          rw [(binds routed rfl).1]
          exact ih (routed.job.sized_run calls after)

/-- The capsule of a job fits a storage. -/
def CapsuleFits {κ : Type} (operations : CooperativeJobOps κ) (backend : κ) (capacity : Nat) :
    Prop :=
  stateCapsuleBytes (operations.stateBytes backend).toNat ≠ 0 ∧
    stateCapsuleBytes (operations.stateBytes backend).toNat ≤ capacity

/-- An export is refused for space exactly if the capsule does not fit. -/
theorem exportCapsule_bufferTooSmall {κ : Type} {operations : CooperativeJobOps κ}
    {job : CooperativeJob} {backend : κ} (started : job.state ≠ .ready) (storage : List UInt8) :
    (∃ message, (job.exportCapsule operations backend storage).2 =
      .error ⟨.bufferTooSmall, message⟩) ↔ ¬ CapsuleFits operations backend storage.length := by
  unfold CooperativeJob.exportCapsule
  rw [if_neg started]
  dsimp only
  rw [CapsuleFits, not_and_or, not_not, Nat.not_le]
  split
  · next small => exact ⟨fun _ => small, fun _ => ⟨_, rfl⟩⟩
  · next large =>
      refine ⟨?_, fun small => absurd small large⟩
      rintro ⟨message, refused⟩
      split at refused
      · cases refused
      · split at refused <;> cases refused

theorem capsuleFits_iff {adapter : MambaStreamAdapter σ} {count capacity : Nat}
    (room : Capacity metadata maxTokens) (serves : adapter.Serves metadata maxTokens count)
    (few : count ≤ maxTokens.toNat)
    (size : capacity = (24 + 4 * maxTokens.toNat + 4 * metadata.dModel.toNat +
      metadata.decodeSnapshotBytes.toNat) % 2 ^ 64) :
    CapsuleFits (operations runtime).cooperative adapter capacity ↔
      4 * count + 112 ≤ 4 * maxTokens.toNat := by
  have tokens := room.tokens
  have word : (UInt64.ofNat count).toNat = count := UInt64.toNat_ofNat_of_lt' (by
    rw [UInt64.size]
    omega)
  have header : streamStateHeaderBytes.toNat = 24 := rfl
  have bytes : ((operations runtime).cooperative.stateBytes adapter).toNat =
      (24 + 4 * count + 4 * metadata.dModel.toNat + metadata.decodeSnapshotBytes.toNat) %
        2 ^ 64 := by
    change adapter.stateBytes.toNat = _
    rw [stateBytes, if_neg (by rw [serves.prepared]; decide), UInt64.toNat_add, UInt64.toNat_add,
      UInt64.toNat_add, header, serves.count, toNat_mambaStreamRequestBytes (by omega), word,
      toNat_maxResultBytes serves.toSized room, serves.snapshot]
    omega
  have total := room.total
  have hidden := room.hidden
  have snapshot := metadata.decodeSnapshotBytes.toNat_lt
  have overhead : stateCapsuleHeaderBytes + stateCapsuleChecksumBytes = 112 := rfl
  -- The sums of the two states wrap together or not at all.
  rw [CapsuleFits, bytes, stateCapsuleBytes, overhead, size]
  split <;> omega

/-- **Migration storage.** On a lane of the daemon, whatever it served before, at every boundary
between the quanta of a job: the capsule of the job fits the storage of the lane exactly if the
request is 112 bytes, the overhead of a capsule, below the largest. Otherwise the export is
refused for space. The job was bound to the lane; jobs that `restore_capsule` brought there from
another lane are left out. -/
theorem capsule_fits_storage {engines : List σ} {lanes : List (Lane σ)} {capacity : UInt64}
    (opened : openLanes runtime metadata maxTokens 0 engines = .ok (lanes, capacity))
    {lane : Lane σ} (member : lane ∈ lanes)
    (history : List (JobRequestMessage × List CooperativeJob.JobCall))
    {request : JobRequestMessage} {routed : RoutedJob (MambaStreamAdapter σ)}
    (bound : (lane.1.bind request (serve lane.1 lane.2 history)).1 = .ok routed)
    (quanta : List (UInt64 × UInt64)) {job : CooperativeJob} {adapter : MambaStreamAdapter σ}
    (run : routed.job.runQuanta routed.operations.cooperative
      (lane.1.bind request (serve lane.1 lane.2 history)).2 quanta = (job, adapter))
    (boundary : job.state = .running) {storage : List UInt8}
    (size : storage.length = capacity.toNat) :
    (CapsuleFits routed.operations.cooperative adapter capacity.toNat ↔
      request.payloadValues.length + 112 ≤ 4 * maxTokens.toNat) ∧
    ((∃ message, (job.exportCapsule routed.operations.cooperative adapter storage).2 =
        .error ⟨.bufferTooSmall, message⟩) ↔
      ¬ request.payloadValues.length + 112 ≤ 4 * maxTokens.toNat) := by
  obtain ⟨each, some, -⟩ := openLanes_ok opened
  have here := each lane member
  obtain ⟨-, binds⟩ := bind_prepares here.entries request (serve lane.1 lane.2 history)
  obtain ⟨same, prepared, after⟩ := binds routed bound
  obtain ⟨serves, whole, fits⟩ :=
    ((sized_serve here here.sized history).prepare here.capacity request.payloadValues).2 prepared
  rw [same, after] at run
  have reached : adapter.Serves metadata maxTokens (request.payloadValues.length / 4) := by
    have steps : Steps _ (job, adapter).2 := run ▸
      CooperativeJob.steps_runQuanta quanta routed.job
        ((serve lane.1 lane.2 history).prepare request.payloadValues).2
    exact serves.of_steps steps
  have words : 4 * (request.payloadValues.length / 4) = request.payloadValues.length := by omega
  have room : capacity.toNat = (24 + 4 * maxTokens.toNat + 4 * metadata.dModel.toNat +
      metadata.decodeSnapshotBytes.toNat) % 2 ^ 64 := by
    rw [some (List.ne_nil_of_mem member)]
    exact Nat.zero_max _
  have fitting : CapsuleFits (operations runtime).cooperative adapter capacity.toNat ↔
      4 * (request.payloadValues.length / 4) + 112 ≤ 4 * maxTokens.toNat :=
    capsuleFits_iff here.capacity reached (by omega) room
  rw [words] at fitting
  rw [same]
  refine ⟨fitting, ?_⟩
  rw [← fitting, ← size]
  exact exportCapsule_bufferTooSmall (by rw [boundary]; decide) storage

/-! Lanes for some tokens, and a request of two. -/

private def idleEngine : StreamEngine Unit where
  reset := id
  step := fun _ token => (true, fun _ => token, ())
  exportDecodeState := fun _ => (true, fun _ => 0)
  importDecodeState := fun _ _ => (true, ())

private def tinyModel : StreamModelMetadata := ⟨archMamba, Vector.replicate 16 7, 1, 1⟩

private def tinyAdapter (maxTokens : Nat) : MambaStreamAdapter Unit where
  engine := ()
  metadata := tinyModel
  tokens := List.replicate maxTokens 0
  hidden := [0]
  snapshotBytes := 1

private def tinyLane (maxTokens : Nat) : Lane Unit :=
  ({ capacity := 1, entries := [(tinyAdapter maxTokens).registration idleEngine], frozen := true },
    tinyAdapter maxTokens)

private def twoTokens : JobRequestMessage where
  envelope := { kind := .jobRequest, structSize := 128, sequence := 1, sessionId := 7 }
  metadata :=
    { structSize := 88
      descriptor :=
        { kind := .streaming, modelDigest := Vector.replicate 16 7,
          stateSchema := mambaStreamStateSchema, sessionId := 7, generation := 1,
          totalWorkUnits := 2 }
      payloadBytes := 8 }
  payload := [1, 0, 0, 0, 2, 0, 0, 0]

/-- With room for thirty tokens, a request of two can be exported behind its first token. -/
theorem capsule_fits_storage_two :
    ∃ routed, ((tinyLane 30).1.bind twoTokens (tinyLane 30).2).1 = .ok routed ∧
      CapsuleFits routed.operations.cooperative
        (routed.job.runQuanta routed.operations.cooperative
          ((tinyLane 30).1.bind twoTokens (tinyLane 30).2).2 [(1, 0)]).2 149 := by
  have opened : openLanes idleEngine tinyModel 30 0 [()] = .ok ([tinyLane 30], 149) := rfl
  refine ⟨_, rfl, ?_⟩
  exact (capsule_fits_storage opened List.mem_cons_self [] rfl [(1, 0)] rfl (by decide +kernel)
    (List.length_replicate (n := 149) (a := (0 : UInt8)))).1.mpr (by decide)

/-- With room for two tokens, a request of two is accepted and run, and at the boundary behind
its first token the export is refused for space. -/
theorem capsule_exceeds_storage :
    openLanes idleEngine tinyModel 2 0 [()] = .ok ([tinyLane 2], 37) ∧
    ∃ routed, ((tinyLane 2).1.bind twoTokens (tinyLane 2).2).1 = .ok routed ∧
      (routed.job.runQuanta routed.operations.cooperative
        ((tinyLane 2).1.bind twoTokens (tinyLane 2).2).2 [(1, 0)]).1.state = .running ∧
      ¬ CapsuleFits routed.operations.cooperative
        (routed.job.runQuanta routed.operations.cooperative
          ((tinyLane 2).1.bind twoTokens (tinyLane 2).2).2 [(1, 0)]).2 37 := by
  refine ⟨rfl, _, rfl, by decide +kernel, ?_⟩
  rw [CapsuleFits]
  decide +kernel

end JobDaemon

end FlowEdge
