import Mathlib.Data.List.Induction
import Mathlib.Order.Defs.Unbundled

/-!
# The best of a list in one pass

A loop that keeps the best candidate so far and replaces it by one that is strictly better.
-/

namespace BestChoice

variable {α : Type*} (better : α → α → Prop) [DecidableRel better]

/-- One round of the loop. -/
def improve (best : Option α) (candidate : α) : Option α :=
  match best with
  | none => some candidate
  | some current => if better candidate current then some candidate else best

/-- The candidate that the loop ends with. -/
def best (candidates : List α) : Option α := candidates.foldl (improve better) none

variable {better}

/-- A candidate of a list that no candidate of the list is better than. -/
structure IsBest (better : α → α → Prop) (candidates : List α) (choice : α) : Prop where
  member : choice ∈ candidates
  unbeaten : ∀ candidate ∈ candidates, ¬ better candidate choice

theorem IsBest.improve [IsStrictOrder α better] {candidates : List α} {choice : α}
    (isBest : IsBest better candidates choice) (candidate : α) :
    ∃ next, improve better (some choice) candidate = some next ∧
      IsBest better (candidates ++ [candidate]) next := by
  unfold BestChoice.improve
  dsimp only
  split
  · next improved =>
      refine ⟨candidate, rfl, List.mem_append_right _ (List.mem_singleton_self _), ?_⟩
      intro other member beats
      rcases List.mem_append.mp member with earlier | last
      · exact isBest.unbeaten other earlier (IsTrans.trans _ _ _ beats improved)
      · rw [List.mem_singleton.mp last] at beats
        exact irrefl candidate beats
  · next kept =>
      refine ⟨choice, rfl, List.mem_append_left _ isBest.member, ?_⟩
      intro other member beats
      rcases List.mem_append.mp member with earlier | last
      · exact isBest.unbeaten other earlier beats
      · rw [List.mem_singleton.mp last] at beats
        exact kept beats

variable (better) in
/-- The loop ends without a candidate if there is none, and else with a best one. -/
theorem best_spec [IsStrictOrder α better] (candidates : List α) :
    (candidates = [] ∧ best better candidates = none) ∨
      ∃ choice, best better candidates = some choice ∧ IsBest better candidates choice := by
  induction candidates using List.reverseRecOn with
  | nil => exact .inl ⟨rfl, rfl⟩
  | append_singleton candidates candidate ih =>
      right
      rw [best, List.foldl_append]
      rcases ih with ⟨rfl, -⟩ | ⟨choice, chosen, isBest⟩
      · refine ⟨candidate, rfl, List.mem_singleton_self _, fun other member beats => ?_⟩
        rw [List.nil_append, List.mem_singleton] at member
        rw [member] at beats
        exact irrefl candidate beats
      · rw [best] at chosen
        rw [chosen]
        exact isBest.improve candidate

end BestChoice
