import Mathlib.Data.UInt
import Mathlib.Tactic.Ring
import Mathlib.Order.MinMax

/-! # Saturating arithmetic on 64-bit words

The two saturating operations on `UInt64` agree with the same operations on
natural numbers cut off at the largest word
(`Words.toNat_saturatingAdd`, `Words.toNat_saturatingMultiply`), so a comparison
against a smaller word sees the exact sum or product.
-/

namespace Words

/-- A branch that answers with the code that it found. -/
theorem ite_code {α : Type} [DecidableEq α] (code known : α) :
    (if code = known then known else code) = code := by
  split
  · next same => exact same.symm
  · rfl

section Checks

variable {ε α : Type} {check : Prop} [Decidable check]

/-- A check that refuses with an error, passed. -/
theorem ite_error_eq_ok {error : ε} {rest : Except ε α} {value : α} :
    (if check then .error error else rest) = .ok value ↔ ¬ check ∧ rest = .ok value := by
  split <;> simp [*]

/-- A check that refuses with another code, passed. -/
theorem ite_eq_of_ne {refused rest passed : α} (differs : refused ≠ passed) :
    (if check then refused else rest) = passed ↔ ¬ check ∧ rest = passed := by
  split <;> simp [*]

end Checks

/-- The largest 64-bit word. -/
def maxWord : UInt64 := 0xffffffffffffffff

@[simp] theorem toNat_maxWord : maxWord.toNat = 2 ^ 64 - 1 := rfl

theorem toNat_le_maxWord (word : UInt64) : word.toNat ≤ 2 ^ 64 - 1 := by
  have bound := word.toNat_lt
  omega

/-- Addition that stops at the largest word. -/
def saturatingAdd (left right : UInt64) : UInt64 :=
  if left > maxWord - right then maxWord else left + right

/-- Multiplication that stops at the largest word. -/
def saturatingMultiply (left right : UInt64) : UInt64 :=
  if right ≠ 0 ∧ left > maxWord / right then maxWord else left * right

/-- The larger of two words, the first when they are equal. -/
def wordMax (left right : UInt64) : UInt64 := if left < right then right else left

theorem toNat_wordMax (left right : UInt64) :
    (wordMax left right).toNat = max left.toNat right.toNat := by
  unfold wordMax
  simp only [UInt64.lt_iff_toNat_lt]
  split <;> omega

theorem toNat_maxWord_minus (word : UInt64) :
    (maxWord - word).toNat = 2 ^ 64 - 1 - word.toNat := by
  rw [UInt64.toNat_sub_of_le _ _ (UInt64.le_iff_toNat_le.mpr (toNat_le_maxWord word)),
    toNat_maxWord]

theorem toNat_saturatingAdd (left right : UInt64) :
    (saturatingAdd left right).toNat = min (left.toNat + right.toNat) (2 ^ 64 - 1) := by
  have leftBound := toNat_le_maxWord left
  have rightBound := toNat_le_maxWord right
  unfold saturatingAdd
  simp only [gt_iff_lt, UInt64.lt_iff_toNat_lt, toNat_maxWord_minus]
  split
  · rw [toNat_maxWord]
    omega
  · rw [UInt64.toNat_add, Nat.mod_eq_of_lt (by omega)]
    omega

/-- A sum that stops at the largest word. -/
theorem toNat_foldl_saturatingAdd (words : List UInt64) (start : UInt64) :
    (words.foldl saturatingAdd start).toNat =
      min (start.toNat + (words.map UInt64.toNat).sum) (2 ^ 64 - 1) := by
  induction words generalizing start with
  | nil =>
      have bound := toNat_le_maxWord start
      rw [List.foldl_nil, List.map_nil, List.sum_nil]
      omega
  | cons word words ih =>
      rw [List.foldl_cons, ih, toNat_saturatingAdd, List.map_cons, List.sum_cons]
      omega

theorem toNat_saturatingMultiply (left right : UInt64) :
    (saturatingMultiply left right).toNat = min (left.toNat * right.toNat) (2 ^ 64 - 1) := by
  unfold saturatingMultiply
  simp only [gt_iff_lt, UInt64.lt_iff_toNat_lt, UInt64.toNat_div, toNat_maxWord]
  by_cases zero : right = 0
  · subst zero
    simp
  · have positive : 0 < right.toNat := by
      rw [Nat.pos_iff_ne_zero]
      exact fun equal => zero (UInt64.toNat_inj.mp equal)
    by_cases large : (2 ^ 64 - 1) / right.toNat < left.toNat
    · rw [if_pos ⟨zero, large⟩, toNat_maxWord, Nat.min_eq_right]
      exact ((Nat.div_lt_iff_lt_mul positive).mp large).le
    · have small : left.toNat * right.toNat ≤ 2 ^ 64 - 1 :=
        (Nat.le_div_iff_mul_le positive).mp (Nat.le_of_not_lt large)
      rw [if_neg (fun both => large both.2), UInt64.toNat_mul, Nat.mod_eq_of_lt (by omega),
        Nat.min_eq_left small]

theorem toNat_add_one {word : UInt64} (room : word.toNat + 1 < 2 ^ 64) :
    (word + 1).toNat = word.toNat + 1 := by
  rw [UInt64.toNat_add, UInt64.toNat_one, Nat.mod_eq_of_lt room]

theorem toNat_sub_one {word : UInt64} (positive : 0 < word.toNat) :
    (word - 1).toNat = word.toNat - 1 := by
  have one : 1 ≤ word := UInt64.le_iff_toNat_le.mpr positive
  rw [UInt64.toNat_sub_of_le _ _ one, UInt64.toNat_one]

/-- Clearing the low six bits rounds down to a multiple of 64. -/
theorem toNat_and_not_63 (word : UInt64) : (word &&& ~~~63).toNat = word.toNat / 64 * 64 := by
  have mask : (~~~63 : UInt64).toNat = 2 ^ 64 - 64 := by decide
  have bits : ∀ bit < 64, (2 ^ 64 - 64).testBit bit = decide (6 ≤ bit) := by decide
  rw [UInt64.toNat_and, mask]
  refine Nat.eq_of_testBit_eq fun bit => ?_
  change _ = (word.toNat / 2 ^ 6 * 2 ^ 6).testBit bit
  rw [Nat.testBit_and, Nat.testBit_mul_two_pow, Nat.testBit_div_two_pow]
  by_cases inside : bit < 64
  · rw [bits bit inside, Bool.and_comm]
    by_cases high : 6 ≤ bit
    · rw [Nat.sub_add_cancel high]
    · simp [high]
  · have beyond : 2 ^ 64 ≤ 2 ^ bit := Nat.pow_le_pow_right (by decide) (Nat.le_of_not_lt inside)
    have zero : word.toNat.testBit bit = false :=
      Nat.testBit_lt_two_pow (word.toNat_lt.trans_le beyond)
    rw [Nat.sub_add_cancel (by omega), zero, Bool.false_and, Bool.and_false]

/-- A part of what is left can be added without overflow. -/
theorem toNat_add_of_le_sub {done part total : UInt64} (bounded : done ≤ total)
    (fits : part ≤ total - done) :
    (done + part).toNat = done.toNat + part.toNat ∧ done.toNat + part.toNat ≤ total.toNat := by
  rw [UInt64.le_iff_toNat_le, UInt64.toNat_sub_of_le _ _ bounded] at fits
  rw [UInt64.le_iff_toNat_le] at bounded
  have top := UInt64.toNat_lt total
  rw [UInt64.toNat_add, Nat.mod_eq_of_lt (by omega)]
  omega

/-- The overflow-free test that `start + duration + reserve` is within a limit. -/
theorem toNat_add_of_within {start duration limit reserve : UInt64}
    (started : ¬ (start > limit ∨ duration > limit - start))
    (reserved : ¬ reserve > limit - (start + duration)) :
    (start + duration).toNat = start.toNat + duration.toNat ∧
      start.toNat + duration.toNat + reserve.toNat ≤ limit.toNat := by
  rw [not_or, gt_iff_lt, gt_iff_lt, UInt64.not_lt, UInt64.not_lt] at started
  rw [gt_iff_lt, UInt64.not_lt] at reserved
  obtain ⟨begins, ends⟩ := started
  rw [UInt64.le_iff_toNat_le, UInt64.toNat_sub_of_le _ _ begins] at ends
  rw [UInt64.le_iff_toNat_le] at begins
  have top := UInt64.toNat_lt limit
  have sum : (start + duration).toNat = start.toNat + duration.toNat := by
    rw [UInt64.toNat_add, Nat.mod_eq_of_lt (by omega)]
  have inside : start + duration ≤ limit := by
    rw [UInt64.le_iff_toNat_le]
    omega
  rw [UInt64.le_iff_toNat_le, UInt64.toNat_sub_of_le _ _ inside] at reserved
  omega

end Words
