import Mathlib.Algebra.BigOperators.Group.Finset.Basic
import Mathlib.Data.List.FinRange
import Mathlib.Data.Fintype.Basic
import Mathlib.Data.Multiset.AddSub

/-!
# Ledgers

Items are issued one after another and each is then handed from place to place. The ledger
says which numbered items are at which place; it is conserved if the places together hold
each issued item exactly once. Issuing an item to one place and handing one over from a
place to another keep a ledger conserved. Where a place holds at most one item, a change of one
place changes what all of them hold by the items of that place.
-/

/-- The items issued so far, and the numbered items at each place. -/
structure Ledger (π α : Type) where
  issued : List α
  entries : π → Multiset (α × Nat)

namespace Ledger

variable {π α : Type}

/-- What a single change of a ledger may be. -/
inductive Step (before after : Ledger π α) : Prop where
  | same (equal : after = before)
  | issue (place : π) (item : α) (issued : after.issued = before.issued ++ [item])
      (added : after.entries place = (item, before.issued.length) ::ₘ before.entries place)
      (others : ∀ other, other ≠ place → after.entries other = before.entries other)
  | hand (source target : π) (entry : α × Nat) (different : source ≠ target)
      (issued : after.issued = before.issued)
      (removed : before.entries source = entry ::ₘ after.entries source)
      (added : after.entries target = entry ::ₘ before.entries target)
      (others : ∀ other, other ≠ source → other ≠ target →
        after.entries other = before.entries other)

variable [Fintype π]

/-- The places together hold each issued item once. -/
def Conserved (ledger : Ledger π α) : Prop :=
  ∑ place, ledger.entries place = (ledger.issued.zipIdx : Multiset (α × Nat))

variable [DecidableEq π]

theorem Conserved.step {before after : Ledger π α} (conserved : before.Conserved)
    (step : Step before after) : after.Conserved := by
  unfold Conserved at conserved ⊢
  cases step with
  | same equal => rw [equal, conserved]
  | issue place item issued added others =>
      have rest : ∑ other ∈ Finset.univ.erase place, after.entries other =
          ∑ other ∈ Finset.univ.erase place, before.entries other :=
        Finset.sum_congr rfl fun other member => others other (Finset.ne_of_mem_erase member)
      rw [← Finset.add_sum_erase _ _ (Finset.mem_univ place), rest, added,
        Multiset.cons_add, Finset.add_sum_erase _ _ (Finset.mem_univ place), conserved, issued,
        List.zipIdx_append, ← Multiset.coe_add, Multiset.add_comm]
      simp
  | hand source target entry different issued removed added others =>
      have inRest : target ∈ Finset.univ.erase source :=
        Finset.mem_erase.mpr ⟨different.symm, Finset.mem_univ target⟩
      have rest : ∑ other ∈ (Finset.univ.erase source).erase target, after.entries other =
          ∑ other ∈ (Finset.univ.erase source).erase target, before.entries other := by
        refine Finset.sum_congr rfl fun other member => ?_
        obtain ⟨notTarget, member⟩ := Finset.mem_erase.mp member
        exact others other (Finset.ne_of_mem_erase member) notTarget
      rw [issued, ← conserved, ← Finset.add_sum_erase _ _ (Finset.mem_univ source),
        ← Finset.add_sum_erase _ before.entries (Finset.mem_univ source),
        ← Finset.add_sum_erase _ _ inRest, ← Finset.add_sum_erase _ before.entries inRest, rest,
        removed, added, Multiset.cons_add, Multiset.cons_add, Multiset.add_cons]

omit [DecidableEq π] in
/-- What is at a place was issued under its number. -/
theorem Conserved.issued_of_mem {ledger : Ledger π α} (conserved : ledger.Conserved) {place : π}
    {entry : α × Nat} (member : entry ∈ ledger.entries place) :
    ledger.issued[entry.2]? = some entry.1 := by
  have somewhere : entry ∈ ∑ place, ledger.entries place :=
    Multiset.mem_sum.mpr ⟨place, Finset.mem_univ place, member⟩
  rw [conserved, Multiset.mem_coe] at somewhere
  exact List.mk_mem_zipIdx_iff_getElem?.mp somewhere

/-- In a conserved ledger each number is at one place, and there once. -/
theorem Conserved.exactly_once {ledger : Ledger π α} (conserved : ledger.Conserved)
    {number : Nat} {item : α} (issued : ledger.issued[number]? = some item) :
    ∃ place rest, ledger.entries place = (item, number) ::ₘ rest ∧
      (∀ entry ∈ rest, entry.2 ≠ number) ∧
      ∀ other, other ≠ place → ∀ entry ∈ ledger.entries other, entry.2 ≠ number := by
  have numbers : (∑ place, ledger.entries place).map Prod.snd =
      (List.range ledger.issued.length : Multiset Nat) := by
    rw [conserved, Multiset.map_coe, List.zipIdx_map_snd, List.range_eq_range']
  have member : (item, number) ∈ ∑ place, ledger.entries place := by
    rw [conserved, Multiset.mem_coe]
    exact List.mk_mem_zipIdx_iff_getElem?.mpr issued
  obtain ⟨place, -, atPlace⟩ := Multiset.mem_sum.mp member
  obtain ⟨rest, split⟩ := Multiset.exists_cons_of_mem atPlace
  -- The number occurs once in all places together, so nowhere beside the entry just found.
  have single : (number ::ₘ (rest + ∑ other ∈ Finset.univ.erase place,
      ledger.entries other).map Prod.snd).Nodup := by
    have whole : (∑ place, ledger.entries place).map Prod.snd =
        number ::ₘ (rest + ∑ other ∈ Finset.univ.erase place,
          ledger.entries other).map Prod.snd := by
      rw [← Finset.add_sum_erase _ _ (Finset.mem_univ place), split, Multiset.cons_add,
        Multiset.map_cons]
    rw [← whole, numbers, Multiset.coe_nodup]
    exact List.nodup_range
  obtain ⟨absent, -⟩ := Multiset.nodup_cons.mp single
  have elsewhere : ∀ entry ∈ rest + ∑ other ∈ Finset.univ.erase place, ledger.entries other,
      entry.2 ≠ number := by
    intro entry found same
    exact absent (Multiset.mem_map.mpr ⟨entry, found, same⟩)
  refine ⟨place, rest, split, ?_, ?_⟩
  · intro entry found
    exact elsewhere entry (Multiset.mem_add.mpr (.inl found))
  · intro other different entry found
    refine elsewhere entry (Multiset.mem_add.mpr (.inr ?_))
    exact Multiset.mem_sum.mpr
      ⟨other, Finset.mem_erase.mpr ⟨different, Finset.mem_univ other⟩, found⟩

end Ledger
