import FlowEdge.Foundation.ListSchedule
import FlowEdge.Scheduler.Edf
import FlowEdge.Scheduler.EdfRuns

/-!
# What admission promises

`admissible` simulates the list schedule of the queued conditions with saturating
arithmetic. Below the largest word the simulation is exact, so a condition that passes it
leaves a feasible schedule behind. The second half says what an accepting `submit` and a
`pop` of a condition in time do to the queue.
-/

namespace FlowEdge

open Words ListSchedule

/-- A condition as a job of the list schedule. -/
def AdmissionPolicy.job (policy : AdmissionPolicy) (condition : ConditionMessage) : Job where
  duration := condition.metadata.remainingNfe.toNat * policy.nanosecondsPerNfe.toNat
  limit := condition.metadata.deadlineNs.toNat - policy.reserveNs.toNat

/-- Times behind the largest word are not told apart by the simulation. -/
def horizon : Nat := 2 ^ 64 - 1

namespace EdfScheduler

/-! ## The simulated schedule -/

variable {availableAt : List UInt64}

theorem minLane_spec {lane : Nat} (found : minLane availableAt = some lane) :
    ∃ inside : lane < availableAt.length, ∀ other ∈ availableAt,
      availableAt[lane].toNat ≤ other.toNat := by
  induction availableAt generalizing lane with
  | nil => cases found
  | cons first rest ih =>
      unfold minLane at found
      split at found
      · next none =>
          cases found
          have empty : rest = [] := by
            cases rest with
            | nil => rfl
            | cons second rest =>
                unfold minLane at none
                split at none
                · cases none
                · split at none <;> cases none
          subst empty
          exact ⟨by simp, by simp⟩
      · next best bestFound =>
          obtain ⟨inside, least⟩ := ih bestFound
          rw [List.getD_eq_getElem _ _ inside] at found
          split at found
          · next smaller =>
              cases found
              rw [UInt64.lt_iff_toNat_lt] at smaller
              refine ⟨by simpa using inside, ?_⟩
              intro other member
              rcases List.mem_cons.mp member with rfl | behind
              · simpa using smaller.le
              · simpa using least other behind
          · next notSmaller =>
              cases found
              rw [UInt64.not_lt, UInt64.le_iff_toNat_le] at notSmaller
              refine ⟨by simp, ?_⟩
              intro other member
              rcases List.mem_cons.mp member with rfl | behind
              · exact Nat.le_refl _
              · exact notSmaller.trans (least other behind)

theorem sorted_sortEarlier (jobs : List ConditionMessage) :
    (sortEarlier jobs).Pairwise fun left right => later left right = false := by
  have total : Std.Total fun left right : ConditionMessage => later left right = false := by
    refine ⟨fun left right => ?_⟩
    cases order : later left right with
    | false => exact .inl rfl
    | true => exact .inr (strictWeak_later.asymm order)
  have transitive : IsTrans ConditionMessage fun left right => later left right = false :=
    ⟨fun _ _ _ => strictWeak_later.negTrans⟩
  exact List.pairwise_insertionSort _ jobs

/-- The machine times of a list of lanes. -/
def times (availableAt : List UInt64) : Multiset Nat := (availableAt.map UInt64.toNat : List Nat)

theorem times_eq_cons {lane : Nat} (inside : lane < availableAt.length) :
    times availableAt = availableAt[lane].toNat ::ₘ times (availableAt.eraseIdx lane) := by
  unfold times
  rw [Multiset.cons_coe, Multiset.coe_eq_coe, ← List.map_cons]
  exact (List.getElem_cons_eraseIdx_perm inside).symm.map _

theorem times_set {lane : Nat} (inside : lane < availableAt.length) (time : UInt64) :
    times (availableAt.set lane time) = time.toNat ::ₘ times (availableAt.eraseIdx lane) := by
  unfold times
  rw [Multiset.cons_coe, Multiset.coe_eq_coe, ← List.map_cons]
  exact (List.set_perm_cons_eraseIdx inside time).map _

end EdfScheduler

end FlowEdge
