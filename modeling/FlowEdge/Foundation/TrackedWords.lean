import Mathlib.Control.Lawful
import Mathlib.Data.UInt

/-!
# Arithmetic that notes a wrap-around

Operations on 64-bit words as programs with one flag, which is raised when the result of an
operation is not that of the same operation on numbers. A program whose operations do not
wrap is `pure`: it has a value and leaves the flag alone.
-/

namespace TrackedWords

/-- A program with the flag that notes whether an operation has wrapped. -/
abbrev Tracked := StateM Bool

def add (first second : UInt64) : Tracked UInt64 := do
  modify (· || decide (2 ^ 64 ≤ first.toNat + second.toNat))
  return first + second

def sub (first second : UInt64) : Tracked UInt64 := do
  modify (· || decide (first.toNat < second.toNat))
  return first - second

def mul (first second : UInt64) : Tracked UInt64 := do
  modify (· || decide (2 ^ 64 ≤ first.toNat * second.toNat))
  return first * second

variable {α β : Type}

/-- Nothing wraps, and the value has a property. -/
def Exact (program : Tracked α) (post : α → Prop) : Prop :=
  ∃ value, program = pure value ∧ post value

theorem pure_inj {first second : α} (same : (pure first : Tracked α) = pure second) :
    first = second :=
  congrArg Prod.fst (congrFun same false)

theorem modify_false {condition : Prop} [Decidable condition] (fails : ¬ condition) :
    (modify (· || decide condition) : Tracked PUnit) = pure PUnit.unit := by
  funext flag
  change (PUnit.unit, flag || decide condition) = (PUnit.unit, flag)
  rw [decide_eq_false fails, Bool.or_false]

variable {first second : UInt64}

theorem add_eq (fits : first.toNat + second.toNat < 2 ^ 64) :
    add first second = pure (first + second) := by
  rw [add, modify_false (by omega), pure_bind]

theorem sub_eq (fits : second ≤ first) :
    sub first second = pure (first - second) := by
  rw [UInt64.le_iff_toNat_le] at fits
  rw [sub, modify_false (by omega), pure_bind]

theorem mul_eq (fits : first.toNat * second.toNat < 2 ^ 64) :
    mul first second = pure (first * second) := by
  rw [mul, modify_false (by omega), pure_bind]

namespace Exact

variable {post : α → Prop}

theorem ret {value : α} (holds : post value) : Exact (pure value) post := ⟨value, rfl, holds⟩

theorem bind {program : Tracked β} {next : β → Tracked α} {middle : β → Prop}
    (first : Exact program middle) (second : ∀ value, middle value → Exact (next value) post) :
    Exact (program >>= next) post := by
  obtain ⟨value, rfl, holds⟩ := first
  rw [pure_bind]
  exact second value holds

variable {program : Tracked α}

theorem weaken {stronger : α → Prop} (exact : Exact program stronger)
    (implies : ∀ value, stronger value → post value) : Exact program post := by
  obtain ⟨value, same, holds⟩ := exact
  exact ⟨value, same, implies value holds⟩

theorem add (fits : first.toNat + second.toNat < 2 ^ 64) :
    Exact (add first second) fun sum =>
      sum = first + second ∧ sum.toNat = first.toNat + second.toNat := by
  refine ⟨_, add_eq fits, rfl, ?_⟩
  rw [UInt64.toNat_add]
  exact Nat.mod_eq_of_lt fits

theorem sub (fits : second ≤ first) :
    Exact (sub first second) fun difference =>
      difference = first - second ∧ difference.toNat = first.toNat - second.toNat :=
  ⟨_, sub_eq fits, rfl, UInt64.toNat_sub_of_le _ _ fits⟩

theorem mul (fits : first.toNat * second.toNat < 2 ^ 64) :
    Exact (mul first second) fun product =>
      product = first * second ∧ product.toNat = first.toNat * second.toNat := by
  refine ⟨_, mul_eq fits, rfl, ?_⟩
  rw [UInt64.toNat_mul]
  exact Nat.mod_eq_of_lt fits

/-- The flag of a program without wrap-around. -/
theorem flag (exact : Exact program post) (before : Bool) : (program.run before).2 = before := by
  obtain ⟨value, rfl, -⟩ := exact
  rfl

theorem value (exact : Exact program post) (before : Bool) : post (program.run before).1 := by
  obtain ⟨value, rfl, holds⟩ := exact
  exact holds

end Exact

end TrackedWords
