import Mathlib.Data.UInt
import Mathlib.Logic.Function.Basic

/-!
# Mixing steps on 64-bit words

The steps that hash functions mix a word with, each of which loses nothing: two different words are
mixed to different ones.
-/

namespace Mixing

open Function

theorem injective_add (word : UInt64) : Injective (· + word) := by
  intro left right same
  exact (UInt64.add_left_inj word).mp same

theorem injective_xor (word : UInt64) : Injective (· ^^^ word) := by
  intro left right same
  rw [← UInt64.toBitVec_inj] at same ⊢
  exact (BitVec.xor_left_inj word.toBitVec).mp same

theorem injective_xor_left (word : UInt64) : Injective (word ^^^ ·) := by
  intro left right same
  refine injective_xor word ?_
  dsimp only at same ⊢
  rw [UInt64.xor_comm left, UInt64.xor_comm right, same]

/-- Multiplication by a word that has an inverse. -/
theorem injective_mul {factor inverse : UInt64} (unit : factor * inverse = 1) :
    Injective (· * factor) := by
  intro left right same
  have cancelled := congrArg (· * inverse) same
  simpa only [UInt64.mul_assoc, unit, UInt64.mul_one] using cancelled

section Bits

variable {count : UInt64}

theorem getLsbD_shiftRight (small : count.toNat < 64) (word : UInt64) (position : Nat) :
    (word >>> count).toBitVec.getLsbD position =
      word.toBitVec.getLsbD (count.toNat + position) := by
  rw [UInt64.toBitVec_shiftRight, BitVec.ushiftRight_eq', BitVec.getLsbD_ushiftRight,
    BitVec.toNat_umod, UInt64.toNat_toBitVec]
  rw [show BitVec.toNat (64 : BitVec 64) = 64 from rfl, Nat.mod_eq_of_lt small]

theorem getLsbD_shiftLeft (small : count.toNat < 64) (word : UInt64) (position : Nat) :
    (word <<< count).toBitVec.getLsbD position =
      (decide (position < 64) && !decide (position < count.toNat) &&
        word.toBitVec.getLsbD (position - count.toNat)) := by
  rw [UInt64.toBitVec_shiftLeft, BitVec.shiftLeft_eq', BitVec.getLsbD_shiftLeft,
    BitVec.toNat_umod, UInt64.toNat_toBitVec]
  rw [show BitVec.toNat (64 : BitVec 64) = 64 from rfl, Nat.mod_eq_of_lt small]

theorem eq_of_getLsbD {left right : UInt64}
    (bits : ∀ position < 64, left.toBitVec.getLsbD position = right.toBitVec.getLsbD position) :
    left = right :=
  UInt64.toBitVec_inj.mp (BitVec.eq_of_getLsbD_eq bits)

variable (count) in
/-- A shift to the right that is mixed into the word: the bits are determined from the top. -/
theorem injective_xorShift (positive : 0 < count.toNat) (small : count.toNat < 64) :
    Injective fun word : UInt64 => word ^^^ (word >>> count) := by
  intro left right same
  have bits : ∀ position,
      (left.toBitVec.getLsbD position ^^ left.toBitVec.getLsbD (count.toNat + position)) =
        (right.toBitVec.getLsbD position ^^ right.toBitVec.getLsbD (count.toNat + position)) := by
    intro position
    rw [← getLsbD_shiftRight small, ← getLsbD_shiftRight small, ← BitVec.getLsbD_xor,
      ← BitVec.getLsbD_xor, ← UInt64.toBitVec_xor, ← UInt64.toBitVec_xor]
    exact congrArg (fun word : UInt64 => word.toBitVec.getLsbD position) same
  have down : ∀ depth position, 64 ≤ position + depth →
      left.toBitVec.getLsbD position = right.toBitVec.getLsbD position := by
    intro depth
    induction depth with
    | zero =>
        intro position behind
        rw [BitVec.getLsbD_of_ge _ position behind, BitVec.getLsbD_of_ge _ position behind]
    | succ depth ih =>
        intro position behind
        have here := bits position
        rw [ih (count.toNat + position) (by omega)] at here
        exact Bool.xor_left_inj.mp here
  exact eq_of_getLsbD fun position _ => down 64 position (by omega)

variable (count) in
/-- A rotation to the left, by two shifts. -/
theorem injective_rotate (positive : 0 < count.toNat) (small : count.toNat < 64) :
    Injective fun word : UInt64 => (word <<< count) ||| (word >>> (64 - count)) := by
  intro left right same
  have rest : (64 - count).toNat = 64 - count.toNat :=
    UInt64.toNat_sub_of_le _ _ (UInt64.le_iff_toNat_le.mpr small.le)
  have bit : ∀ (word : UInt64) (position : Nat), position < 64 →
      ((word <<< count) ||| (word >>> (64 - count))).toBitVec.getLsbD
          ((position + count.toNat) % 64) =
        word.toBitVec.getLsbD position := by
    intro word position inside
    rw [UInt64.toBitVec_or, BitVec.getLsbD_or, getLsbD_shiftLeft small,
      getLsbD_shiftRight (by omega), rest]
    rcases Nat.lt_or_ge (position + count.toNat) 64 with within | beyond
    · rw [Nat.mod_eq_of_lt within, BitVec.getLsbD_of_ge _ (64 - count.toNat + _) (by omega),
        Nat.add_sub_cancel]
      simp
      omega
    · have wrapped : (position + count.toNat) % 64 = position + count.toNat - 64 := by
        rw [Nat.mod_eq_sub_mod beyond, Nat.mod_eq_of_lt (by omega)]
      have back : 64 - count.toNat + (position + count.toNat - 64) = position := by omega
      rw [wrapped, back]
      simp
      omega
  refine eq_of_getLsbD fun position inside => ?_
  rw [← bit left position inside, ← bit right position inside]
  exact congrArg (fun word : UInt64 => word.toBitVec.getLsbD _) same

end Bits

end Mixing
