import FlowEdge.Client.ActionChunks
import Mathlib.Tactic.Linarith

/-!
# Float arithmetic

The comparison operators on floats of either precision, and differences. Numbers are exact. No
comparison with not-a-number holds.
-/

namespace FlowEdge.FloatValue

/-- `left < right` -/
def lt : FloatValue → FloatValue → Bool
  | finite left, finite right => left < right
  | finite _, infinite negative => !negative
  | infinite negative, finite _ => negative
  | infinite left, infinite right => left && !right
  | nan, _ => false
  | _, nan => false

/-- `left == right` -/
def same : FloatValue → FloatValue → Bool
  | finite left, finite right => left = right
  | infinite left, infinite right => left = right
  | _, _ => false

@[simp] theorem lt_finite (left right : ℚ) :
    lt (finite left) (finite right) = decide (left < right) := rfl

end FlowEdge.FloatValue
