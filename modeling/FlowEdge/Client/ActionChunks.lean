import Mathlib.Data.Rat.Defs
import Mathlib.Algebra.Order.Field.Rat
import FlowEdge.Protocol.Messages

/-! # Action chunks

A completed action becomes a chunk of control steps with a validity interval.
Floats are read as exact rational numbers; infinities and not-a-number stay
apart, since acceptance refuses them.
-/

namespace FlowEdge

open Words

/-- A single-precision number read exactly. -/
inductive FloatValue where
  | finite (value : ℚ)
  | infinite (negative : Bool)
  | nan
  deriving DecidableEq

namespace FloatValue

def isFinite : FloatValue → Bool
  | finite _ => true
  | infinite _ => false
  | nan => false

/-- The number of a finite value. -/
def toRat : FloatValue → ℚ
  | finite value => value
  | infinite _ => 0
  | nan => 0

/-- The value of a single-precision bit pattern. -/
def ofBits (bits : UInt32) : FloatValue :=
  let negative : Bool := bits.toNat / 2 ^ 31 = 1
  let exponent : Nat := bits.toNat / 2 ^ 23 % 2 ^ 8
  let fraction : Nat := bits.toNat % 2 ^ 23
  if exponent = 255 then
    if fraction = 0 then infinite negative else nan
  else
    let magnitude : ℚ :=
      if exponent = 0 then (fraction : ℚ) / 2 ^ 149
      else ((2 ^ 23 + fraction : Nat) : ℚ) * 2 ^ exponent / 2 ^ 150
    finite (if negative then -magnitude else magnitude)

end FloatValue

def actionChunkProtocolVersion : UInt32 := 1
def actionChunkDescriptorBytes : Nat := 96

/-- Why an action is not a chunk. -/
inductive ActionChunkError where
  | invalidAction
  | incompleteAction
  | invalidShape
  | invalidTime
  | expired
  | nonFinite
  deriving DecidableEq

/-- What a chunk says about its values. -/
structure ActionChunkDescriptor where
  structSize : UInt32 := UInt32.ofNat actionChunkDescriptorBytes
  protocolVersion : UInt32 := actionChunkProtocolVersion
  controlDim : UInt32 := 0
  stepCount : UInt32 := 0
  modelDigest : ModelDigest := Vector.replicate 16 0
  sequence : UInt64 := 0
  sessionId : UInt64 := 0
  generation : UInt64 := 0
  sourceTimestampNs : UInt64 := 0
  sourceDeadlineNs : UInt64 := 0
  producedNs : UInt64 := 0
  validFromNs : UInt64 := 0
  validUntilNs : UInt64 := 0
  deriving DecidableEq

structure ActionChunkView where
  descriptor : ActionChunkDescriptor := {}
  values : List FloatValue := []
  deriving DecidableEq

/-- Build the chunk of a completed action. -/
def makeActionChunk (action : ActionMessage) (controlDim : Nat)
    (producedNs validFromNs stepPeriodNs : UInt64) : Except ActionChunkError ActionChunkView :=
  if action.validate ≠ .success then .error .invalidAction
  else if action.envelope.flags ≠ RelayActionCode.inference.toFlags ∨
      action.metadata.status ≠ actionComplete ∨ action.metadata.remainingNfe ≠ 0 then
    .error .incompleteAction
  else if controlDim = 0 ∨ controlDim > maxActionDim ∨ action.metadata.actionDim = 0 ∨
      action.metadata.actionDim.toNat % controlDim ≠ 0 then
    .error .invalidShape
  else
    let stepCount : UInt64 := action.metadata.actionDim / UInt64.ofNat controlDim
    if stepCount = 0 ∨ stepCount.toNat > 2 ^ 32 - 1 ∨ stepPeriodNs = 0 then .error .invalidShape
    else if (action.metadata.timestampNs ≠ 0 ∧ producedNs < action.metadata.timestampNs) ∨
        (action.metadata.deadlineNs ≠ 0 ∧
          action.metadata.deadlineNs < action.metadata.timestampNs) then
      .error .invalidTime
    else if action.metadata.deadlineNs ≠ 0 ∧ producedNs > action.metadata.deadlineNs then
      .error .expired
    else
      let start : UInt64 := if validFromNs = 0 then producedNs else validFromNs
      if stepCount > (maxWord - start) / stepPeriodNs then .error .invalidTime
      else
        let validUntil : UInt64 := start + stepCount * stepPeriodNs
        if validUntil ≤ producedNs then .error .expired
        else
          let values : List FloatValue :=
            (action.action.take action.metadata.actionDim.toNat).map FloatValue.ofBits
          if ¬ values.all FloatValue.isFinite then .error .nonFinite
          else
            .ok
              { descriptor :=
                  { controlDim := UInt32.ofNat controlDim
                    stepCount := stepCount.toUInt32
                    modelDigest := action.metadata.modelDigest
                    sequence := action.envelope.sequence
                    sessionId := action.envelope.sessionId
                    generation := action.metadata.generation
                    sourceTimestampNs := action.metadata.timestampNs
                    sourceDeadlineNs := action.metadata.deadlineNs
                    producedNs := producedNs
                    validFromNs := start
                    validUntilNs := validUntil }
                values := values }

end FlowEdge
