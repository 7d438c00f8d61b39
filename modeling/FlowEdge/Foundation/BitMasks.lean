import Mathlib.Data.UInt

/-!
# Sets of small numbers as 32-bit masks

Inclusion of masks as code tests it: no bit is left when those of the larger mask are
cleared.
-/

namespace BitMasks

/-- The mask of one number. -/
def single (index : Nat) : UInt32 := 1 <<< UInt32.ofNat index

/-- Add a number to a mask on a condition. -/
def note (condition : Bool) (index : Nat) (mask : UInt32) : UInt32 :=
  if condition then mask ||| single index else mask

/-- The mask of the numbers below a count. -/
def below (count : UInt32) : UInt32 := if count = 0 then 0 else (1 <<< count) - 1

/-- Every bit of one mask is set in the other. -/
def Within (mask larger : UInt32) : Prop := mask &&& ~~~larger = 0

theorem within_iff {mask larger : UInt32} :
    Within mask larger ↔
      ∀ position, mask.toBitVec.getLsbD position = true →
        larger.toBitVec.getLsbD position = true := by
  rw [Within, ← UInt32.toBitVec_inj, BitVec.eq_of_getLsbD_eq_iff]
  constructor
  · intro cleared position set
    have inside := BitVec.lt_of_getLsbD set
    simpa [set, inside] using cleared position inside
  · intro included position inside
    have here := included position
    cases set : mask.toBitVec.getLsbD position <;> simp_all

theorem Within.or {first second larger : UInt32} (left : Within first larger)
    (right : Within second larger) : Within (first ||| second) larger := by
  rw [within_iff] at left right ⊢
  intro position set
  simp only [UInt32.toBitVec_or, BitVec.getLsbD_or, Bool.or_eq_true] at set
  exact set.elim (left position) (right position)

theorem Within.note {condition : Bool} {index : Nat} {mask larger : UInt32}
    (within : Within mask larger) (single : Within (single index) larger) :
    Within (note condition index mask) larger := by
  unfold BitMasks.note
  split
  · exact within.or single
  · exact within

theorem within_note (condition : Bool) (index : Nat) (mask : UInt32) :
    Within mask (note condition index mask) := by
  rw [within_iff]
  intro position set
  unfold note
  split
  · simp [set]
  · exact set

theorem single_within_note (index : Nat) (mask : UInt32) :
    Within (single index) (note true index mask) := by
  rw [within_iff]
  intro position set
  simp [note, set]

theorem Within.trans {first second third : UInt32} (left : Within first second)
    (right : Within second third) : Within first third := by
  rw [within_iff] at left right ⊢
  exact fun position set => right position (left position set)

/-- A number that is added only when it is added to the larger mask as well. -/
theorem Within.note_note {condition wider : Bool} {mask larger : UInt32}
    (within : Within mask larger)
    (implies : condition = true → wider = true) (index : Nat) :
    Within (BitMasks.note condition index mask) (BitMasks.note wider index larger) := by
  have kept := within.trans (within_note wider index larger)
  cases holds : condition with
  | false => exact kept
  | true =>
      rw [implies holds] at kept ⊢
      exact kept.note (single_within_note index larger)

theorem single_within_below {index count : Nat} (inside : index < count) (small : count < 32) :
    Within (single index) (below (UInt32.ofNat count)) := by
  have checked : ∀ count < 32, ∀ index < count,
      single index &&& ~~~below (UInt32.ofNat count) = 0 := by decide
  exact checked count small index inside

end BitMasks
