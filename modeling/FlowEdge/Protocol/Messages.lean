import FlowEdge.Foundation.Words

/-! # Relay messages

The envelope, the condition, action and control messages and their validators.
A payload is the list of the bit patterns of its floats; a validator never
reads it.
-/

namespace FlowEdge

open Words

/-- The fixed sixteen bytes that identify a model. -/
abbrev ModelDigest := Vector UInt8 16

def messageMagic : UInt32 := 0x31455246
def messageVersion : UInt16 := 1
def protocolVersion : UInt32 := 1
def maxConditionDim : Nat := 4096
def maxActionDim : Nat := 1024

/-- The kinds an envelope can name. The underlying type of the enumeration is
sixteen bits wide, so a decoded envelope may also carry an undeclared code. -/
inductive MessageKind where
  | unknown
  | condition
  | action
  | shutdown
  | jobRequest
  | jobResult
  | jobEvent
  | jobControlRequest
  | jobControlResponse
  | undeclared (code : UInt16)
  deriving DecidableEq

def MessageKind.ofCode (code : UInt16) : MessageKind :=
  if code = 0 then .unknown
  else if code = 1 then .condition
  else if code = 2 then .action
  else if code = 3 then .shutdown
  else if code = 4 then .jobRequest
  else if code = 5 then .jobResult
  else if code = 6 then .jobEvent
  else if code = 7 then .jobControlRequest
  else if code = 8 then .jobControlResponse
  else .undeclared code

def MessageKind.toCode : MessageKind → UInt16
  | .unknown => 0
  | .condition => 1
  | .action => 2
  | .shutdown => 3
  | .jobRequest => 4
  | .jobResult => 5
  | .jobEvent => 6
  | .jobControlRequest => 7
  | .jobControlResponse => 8
  | .undeclared code => code

theorem MessageKind.toCode_ofCode (code : UInt16) : (MessageKind.ofCode code).toCode = code := by
  simp only [MessageKind.ofCode, apply_ite MessageKind.toCode]
  simp only [MessageKind.toCode, Words.ite_code]

/-- The relay's own outcome of a condition, kept in the flags of an action. -/
inductive RelayActionCode where
  | inference
  | rejectedStale
  | rejectedDeadline
  | rejectedCapacity
  | expired
  deriving DecidableEq

def RelayActionCode.toFlags : RelayActionCode → UInt32
  | .inference => 0
  | .rejectedStale => 1
  | .rejectedDeadline => 2
  | .rejectedCapacity => 3
  | .expired => 4

structure MessageEnvelope where
  magic : UInt32 := messageMagic
  version : UInt16 := messageVersion
  kind : MessageKind := .unknown
  structSize : UInt32 := 0
  flags : UInt32 := 0
  sequence : UInt64 := 0
  sessionId : UInt64 := 0
  deriving DecidableEq

def envelopeBytes : Nat := 32

structure ConditionMetadata where
  structSize : UInt32 := 0
  protocolVersion : UInt32 := 0
  solver : UInt32 := 0
  reserved : UInt32 := 0
  modelDigest : ModelDigest := Vector.replicate 16 0
  timestampNs : UInt64 := 0
  deadlineNs : UInt64 := 0
  generation : UInt64 := 0
  conditionDim : UInt64 := 0
  actionDim : UInt64 := 0
  solverSteps : UInt64 := 0
  remainingNfe : UInt64 := 0
  deriving DecidableEq

def conditionMetadataBytes : Nat := 88

structure ActionMetadata where
  structSize : UInt32 := 0
  protocolVersion : UInt32 := 0
  solver : UInt32 := 0
  status : UInt32 := 0
  modelDigest : ModelDigest := Vector.replicate 16 0
  timestampNs : UInt64 := 0
  deadlineNs : UInt64 := 0
  generation : UInt64 := 0
  conditionDim : UInt64 := 0
  actionDim : UInt64 := 0
  remainingNfe : UInt64 := 0
  deriving DecidableEq

def actionMetadataBytes : Nat := 80

/-- The states an action reports. -/
def actionRunning : UInt32 := 0
def actionComplete : UInt32 := 1
def actionCancelled : UInt32 := 2
def actionFailed : UInt32 := 3

structure ConditionMessage where
  envelope : MessageEnvelope := { kind := .condition }
  metadata : ConditionMetadata := {}
  payload : List UInt32 := []
  deriving DecidableEq

structure ActionMessage where
  envelope : MessageEnvelope := { kind := .action }
  metadata : ActionMetadata := {}
  action : List UInt32 := []
  deriving DecidableEq

structure ControlMessage where
  envelope : MessageEnvelope := { kind := .shutdown }
  reason : UInt64 := 0
  deriving DecidableEq

def controlMessageBytes : Nat := 40
def conditionPayloadOffset : Nat := envelopeBytes + conditionMetadataBytes
def actionPayloadOffset : Nat := envelopeBytes + actionMetadataBytes
def floatBytes : Nat := 4

/-- The declared condition width, cut to the payload array. -/
def ConditionMessage.conditionCount (message : ConditionMessage) : Nat :=
  min message.metadata.conditionDim.toNat maxConditionDim

/-- The declared noise width, cut to the payload array. -/
def ConditionMessage.noiseCount (message : ConditionMessage) : Nat :=
  min message.metadata.actionDim.toNat maxActionDim

def ConditionMessage.wireSize (message : ConditionMessage) : Nat :=
  conditionPayloadOffset + (message.conditionCount + message.noiseCount) * floatBytes

def ActionMessage.wireSize (message : ActionMessage) : Nat :=
  actionPayloadOffset + min message.metadata.actionDim.toNat maxActionDim * floatBytes

inductive ProtocolResult where
  | success
  | invalidEnvelope
  | dimensionExceeded
  | invalidMetadata
  deriving DecidableEq

/-- Evaluations one step of a solver takes. -/
def evaluationsPerStep (solver : UInt32) : UInt64 :=
  if solver = 2 then 4 else if solver = 1 then 2 else 1

def requiredNfe (steps : UInt64) (solver : UInt32) : UInt64 :=
  if steps > maxWord / evaluationsPerStep solver then maxWord
  else steps * evaluationsPerStep solver

def validEnvelope (envelope : MessageEnvelope) (expected : MessageKind) (expectedSize : Nat) :
    Bool :=
  envelope.magic = messageMagic ∧ envelope.version = messageVersion ∧ envelope.kind = expected ∧
    envelope.structSize.toNat = expectedSize ∧ envelope.flags = 0

def ConditionMessage.validate (message : ConditionMessage) : ProtocolResult :=
  if message.envelope.magic ≠ messageMagic ∨ message.envelope.version ≠ messageVersion ∨
      message.envelope.kind ≠ .condition ∨ message.envelope.flags ≠ 0 then
    .invalidEnvelope
  else if message.metadata.conditionDim.toNat > maxConditionDim ∨
      message.metadata.actionDim.toNat > maxActionDim then
    .dimensionExceeded
  else if message.envelope.structSize.toNat ≠ message.wireSize then
    .invalidEnvelope
  else if message.metadata.structSize.toNat < conditionMetadataBytes ∨
      message.metadata.protocolVersion ≠ protocolVersion ∨ message.metadata.reserved ≠ 0 ∨
      message.metadata.solver > 2 ∨ message.metadata.solverSteps = 0 ∨
      message.metadata.remainingNfe ≠
        requiredNfe message.metadata.solverSteps message.metadata.solver ∨
      (message.metadata.deadlineNs ≠ 0 ∧
        message.metadata.deadlineNs < message.metadata.timestampNs) then
    .invalidMetadata
  else .success

def ActionMessage.validate (message : ActionMessage) : ProtocolResult :=
  if message.envelope.magic ≠ messageMagic ∨ message.envelope.version ≠ messageVersion ∨
      message.envelope.kind ≠ .action ∨
      message.envelope.flags > RelayActionCode.expired.toFlags then
    .invalidEnvelope
  else if message.metadata.conditionDim.toNat > maxConditionDim ∨
      message.metadata.actionDim.toNat > maxActionDim then
    .dimensionExceeded
  else if message.envelope.structSize.toNat ≠ message.wireSize then
    .invalidEnvelope
  else if message.metadata.structSize.toNat < actionMetadataBytes ∨
      message.metadata.protocolVersion ≠ protocolVersion ∨ message.metadata.solver > 2 ∨
      message.metadata.status > actionFailed ∨
      (message.envelope.flags ≠ RelayActionCode.inference.toFlags ∧
        message.metadata.status ≠ actionFailed) then
    .invalidMetadata
  else .success

/-- The typed outcome of a condition the relay does not run. -/
def makeRejectedAction (request : ConditionMessage) (timestampNs : UInt64)
    (code : RelayActionCode) : ActionMessage :=
  let message : ActionMessage :=
    { envelope :=
        { kind := .action, flags := code.toFlags, sequence := request.envelope.sequence,
          sessionId := request.envelope.sessionId }
      metadata :=
        { structSize := UInt32.ofNat actionMetadataBytes
          protocolVersion := protocolVersion
          solver := request.metadata.solver
          status := actionFailed
          modelDigest := request.metadata.modelDigest
          timestampNs := timestampNs
          deadlineNs := request.metadata.deadlineNs
          generation := request.metadata.generation
          conditionDim := request.metadata.conditionDim
          actionDim := request.metadata.actionDim
          remainingNfe := request.metadata.remainingNfe }
      action := List.replicate maxActionDim 0 }
  { message with
    envelope := { message.envelope with structSize := UInt32.ofNat message.wireSize } }

theorem evaluationsPerStep_pos (solver : UInt32) : 0 < (evaluationsPerStep solver).toNat := by
  unfold evaluationsPerStep
  split
  · decide
  · split <;> decide

/-- The evaluation count is the exact product, cut off at the largest word. -/
theorem toNat_requiredNfe (steps : UInt64) (solver : UInt32) :
    (requiredNfe steps solver).toNat =
      min (steps.toNat * (evaluationsPerStep solver).toNat) (2 ^ 64 - 1) := by
  have nonzero : evaluationsPerStep solver ≠ 0 := by
    intro equal
    have positive := evaluationsPerStep_pos solver
    rw [equal] at positive
    exact absurd positive (by decide)
  have same : requiredNfe steps solver = saturatingMultiply steps (evaluationsPerStep solver) := by
    unfold requiredNfe saturatingMultiply
    simp only [nonzero, ne_eq, not_false_eq_true, true_and]
  rw [same, toNat_saturatingMultiply]

/-- What a valid condition promises its readers. -/
structure ConditionMessage.Valid (message : ConditionMessage) : Prop where
  steps : message.metadata.solverSteps ≠ 0
  nfe : message.metadata.remainingNfe =
    requiredNfe message.metadata.solverSteps message.metadata.solver

theorem ConditionMessage.valid_of_validate {message : ConditionMessage}
    (accepted : message.validate = .success) : message.Valid := by
  unfold ConditionMessage.validate at accepted
  split at accepted
  · cases accepted
  · split at accepted
    · cases accepted
    · split at accepted
      · cases accepted
      · split at accepted
        · cases accepted
        · next refused =>
            push Not at refused
            exact ⟨refused.2.2.2.2.1, refused.2.2.2.2.2.1⟩

/-- A valid condition needs at least one evaluation. -/
theorem ConditionMessage.Valid.nfe_pos {message : ConditionMessage} (valid : message.Valid) :
    0 < message.metadata.remainingNfe.toNat := by
  have steps : 0 < message.metadata.solverSteps.toNat := by
    rw [Nat.pos_iff_ne_zero]
    exact fun equal => valid.steps (UInt64.toNat_inj.mp equal)
  rw [valid.nfe, toNat_requiredNfe]
  have product := Nat.mul_pos steps (evaluationsPerStep_pos message.metadata.solver)
  omega

end FlowEdge
