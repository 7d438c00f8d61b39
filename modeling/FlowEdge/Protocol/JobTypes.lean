import FlowEdge.Protocol.Messages

/-!
# Cooperative job types

Descriptors and progress of cooperative jobs. The enumerations travel as plain
integers, so each has a constructor for codes that the source does not declare.
-/

namespace FlowEdge

def cooperativeJobVersion : UInt32 := 1

inductive JobKind where
  | unknown
  | iterative
  | streaming
  | speculative
  | undeclared (code : UInt16)
  deriving DecidableEq

def JobKind.ofCode (code : UInt16) : JobKind :=
  if code = 0 then .unknown
  else if code = 1 then .iterative
  else if code = 2 then .streaming
  else if code = 3 then .speculative
  else .undeclared code

def JobKind.toCode : JobKind → UInt16
  | .unknown => 0
  | .iterative => 1
  | .streaming => 2
  | .speculative => 3
  | .undeclared code => code

inductive JobState where
  | ready
  | running
  | complete
  | cancelled
  | failed
  | undeclared (code : UInt16)
  deriving DecidableEq

def JobState.ofCode (code : UInt16) : JobState :=
  if code = 0 then .ready
  else if code = 1 then .running
  else if code = 2 then .complete
  else if code = 3 then .cancelled
  else if code = 4 then .failed
  else .undeclared code

def JobState.toCode : JobState → UInt16
  | .ready => 0
  | .running => 1
  | .complete => 2
  | .cancelled => 3
  | .failed => 4
  | .undeclared code => code

inductive JobServiceClass where
  | bestEffort
  | interactive
  | critical
  | undeclared (code : UInt32)
  deriving DecidableEq

def JobServiceClass.ofCode (code : UInt32) : JobServiceClass :=
  if code = 0 then .bestEffort
  else if code = 1 then .interactive
  else if code = 2 then .critical
  else .undeclared code

/-- The position of a service class in the enumeration order. -/
def JobServiceClass.toCode : JobServiceClass → UInt32
  | .bestEffort => 0
  | .interactive => 1
  | .critical => 2
  | .undeclared code => code

structure JobDescriptor where
  protocolVersion : UInt32 := cooperativeJobVersion
  kind : JobKind := .unknown
  reserved : UInt16 := 0
  modelDigest : ModelDigest := Vector.replicate 16 0
  stateSchema : UInt64 := 0
  sessionId : UInt64 := 0
  generation : UInt64 := 0
  deadlineNs : UInt64 := 0
  totalWorkUnits : UInt64 := 0
  deriving DecidableEq

structure JobProgress where
  state : JobState := .ready
  reserved0 : UInt16 := 0
  reserved1 : UInt32 := 0
  completedWorkUnits : UInt64 := 0
  remainingWorkUnits : UInt64 := 0
  deriving DecidableEq

inductive JobErrorCode where
  | invalidDescriptor
  | invalidState
  | invalidBudget
  | callbackFailed
  | callbackContract
  | capsuleInvalid
  | capsuleIncompatible
  | bufferTooSmall
  deriving DecidableEq

structure JobError where
  code : JobErrorCode
  message : String
  deriving DecidableEq

def validJobKind (kind : JobKind) : Bool :=
  kind = .iterative ∨ kind = .streaming ∨ kind = .speculative

def validJobState : JobState → Bool
  | .undeclared _ => false
  | _ => true

def validJobServiceClass : JobServiceClass → Bool
  | .undeclared _ => false
  | _ => true

def terminal (state : JobState) : Bool :=
  state = .complete ∨ state = .cancelled ∨ state = .failed

def validJobProgress (descriptor : JobDescriptor) (progress : JobProgress) : Bool :=
  if validJobState progress.state = false ∨
      progress.completedWorkUnits > descriptor.totalWorkUnits ∨
      progress.remainingWorkUnits ≠ descriptor.totalWorkUnits - progress.completedWorkUnits then
    false
  else if progress.state = .ready then
    progress.completedWorkUnits = 0
  else if progress.state = .running then
    progress.completedWorkUnits < descriptor.totalWorkUnits
  else if progress.state = .complete then
    progress.completedWorkUnits = descriptor.totalWorkUnits
  else
    true

def validJobDescriptor (descriptor : JobDescriptor) : Bool :=
  let hasDigest := descriptor.modelDigest.toList.any (· ≠ 0)
  descriptor.protocolVersion = cooperativeJobVersion ∧ validJobKind descriptor.kind ∧
    descriptor.stateSchema ≠ 0 ∧ descriptor.totalWorkUnits ≠ 0 ∧ hasDigest

/-! ## Codes -/

theorem JobKind.toCode_ofCode (code : UInt16) : (JobKind.ofCode code).toCode = code := by
  simp only [JobKind.ofCode, apply_ite JobKind.toCode]
  simp only [JobKind.toCode, Words.ite_code]

theorem JobState.toCode_ofCode (code : UInt16) : (JobState.ofCode code).toCode = code := by
  simp only [JobState.ofCode, apply_ite JobState.toCode]
  simp only [JobState.toCode, Words.ite_code]

theorem JobServiceClass.toCode_ofCode (code : UInt32) :
    (JobServiceClass.ofCode code).toCode = code := by
  simp only [JobServiceClass.ofCode, apply_ite JobServiceClass.toCode]
  simp only [JobServiceClass.toCode, Words.ite_code]

theorem JobKind.ofCode_toCode {kind : JobKind} (valid : validJobKind kind = true) :
    JobKind.ofCode kind.toCode = kind := by
  cases kind <;> first | decide | simp [validJobKind] at valid

theorem JobState.ofCode_toCode {state : JobState} (valid : validJobState state = true) :
    JobState.ofCode state.toCode = state := by
  cases state <;> first | decide | simp [validJobState] at valid

theorem JobServiceClass.ofCode_toCode {serviceClass : JobServiceClass}
    (valid : validJobServiceClass serviceClass = true) :
    JobServiceClass.ofCode serviceClass.toCode = serviceClass := by
  cases serviceClass <;> first | decide | simp [validJobServiceClass] at valid

theorem validJobDescriptor_units {descriptor : JobDescriptor}
    (valid : validJobDescriptor descriptor = true) : descriptor.totalWorkUnits ≠ 0 := by
  simp only [validJobDescriptor, decide_eq_true_eq] at valid
  exact valid.2.2.2.1

/-- The progress of a rejected request is valid: nothing done, everything left. -/
theorem validJobProgress_failed (descriptor : JobDescriptor) :
    validJobProgress descriptor
      { state := .failed, completedWorkUnits := 0,
        remainingWorkUnits := descriptor.totalWorkUnits } = true := by
  simp [validJobProgress, validJobState]

end FlowEdge
