import Mathlib.Data.List.Forall2
import Mathlib.Data.Multiset.Count
import Mathlib.Data.Multiset.Sort
import Mathlib.Tactic.Linarith

/-!
# List scheduling on identical lanes

A list of jobs is assigned in order, each to a lane that is available first.
`Feasible lanes jobs` says that every job then ends by its limit. Lanes that become
available earlier, jobs that are left out, shorter jobs and later limits never hurt
(`Feasible.of_eased`), which is what makes a non-preemptive schedule on identical lanes
robust against early completions. The comparison of lanes counts how many are available
by each time, up to a horizon behind which times are not told apart.
-/

namespace ListSchedule

structure Job where
  duration : Nat
  limit : Nat

/-- The number of lanes that are available at a time. -/
def ready (lanes : Multiset Nat) (time : Nat) : Nat := lanes.countP (· ≤ time)

/-- Before the horizon `fast` never has fewer lanes available than `slow`. -/
def Dominates (horizon : Nat) (fast slow : Multiset Nat) : Prop :=
  ∀ time < horizon, ready slow time ≤ ready fast time

/-- Every job ends by its limit when each is put on a lane that is available first. -/
inductive Feasible : Multiset Nat → List Job → Prop where
  | nil (lanes : Multiset Nat) : Feasible lanes []
  | cons {start : Nat} {lanes : Multiset Nat} {job : Job} {rest : List Job}
      (first : ∀ other ∈ lanes, start ≤ other) (inTime : start + job.duration ≤ job.limit)
      (later : Feasible ((start + job.duration) ::ₘ lanes) rest) :
      Feasible (start ::ₘ lanes) (job :: rest)

/-- The job takes no longer and need not end earlier. -/
def Job.Eases (new old : Job) : Prop := new.duration ≤ old.duration ∧ old.limit ≤ new.limit

/-- Jobs that are left of a list, each of them eased. -/
abbrev Eased : List Job → List Job → Prop := List.SublistForall₂ Job.Eases

theorem ready_cons (lane : Nat) (lanes : Multiset Nat) (time : Nat) :
    ready (lane ::ₘ lanes) time = ready lanes time + if lane ≤ time then 1 else 0 := by
  unfold ready
  exact Multiset.countP_cons _ _ _

variable {lanes : Multiset Nat}

theorem ready_eq_zero {time : Nat} (afterwards : ∀ lane ∈ lanes, time < lane) :
    ready lanes time = 0 := by
  unfold ready
  rw [Multiset.countP_eq_zero]
  intro lane member
  exact Nat.not_le.mpr (afterwards lane member)

theorem Dominates.refl (horizon : Nat) (lanes : Multiset Nat) : Dominates horizon lanes lanes :=
  fun _ _ => Nat.le_refl _

variable {horizon : Nat} {fast slow : Multiset Nat}

/-- A lane that is available no later, or the other one only behind the horizon. -/
theorem Dominates.cons {early late : Nat} (dominates : Dominates horizon fast slow)
    (earlier : early ≤ late ∨ horizon ≤ late) :
    Dominates horizon (early ::ₘ fast) (late ::ₘ slow) := by
  intro time inside
  have rest := dominates time inside
  rw [ready_cons, ready_cons]
  split
  · rw [if_pos (by omega)]
    omega
  · split <;> omega

theorem Dominates.map {α : Type*} {early late : α → Nat} {lanes : Multiset α}
    (earlier : ∀ lane ∈ lanes, early lane ≤ late lane ∨ horizon ≤ late lane) :
    Dominates horizon (lanes.map early) (lanes.map late) := by
  induction lanes using Multiset.induction with
  | empty => exact Dominates.refl horizon 0
  | cons lane lanes ih =>
      rw [Multiset.map_cons, Multiset.map_cons]
      refine Dominates.cons (ih ?_) (earlier lane (Multiset.mem_cons_self lane lanes))
      intro other member
      exact earlier other (Multiset.mem_cons_of_mem member)

theorem exists_first (nonempty : lanes ≠ 0) :
    ∃ start rest, lanes = start ::ₘ rest ∧ ∀ other ∈ rest, start ≤ other := by
  induction lanes using Multiset.induction with
  | empty => exact absurd rfl nonempty
  | cons lane lanes ih =>
      by_cases empty : lanes = 0
      · subst empty
        exact ⟨lane, 0, rfl, by simp⟩
      · obtain ⟨start, rest, rfl, first⟩ := ih empty
        rcases Nat.le_total lane start with before | behind
        · refine ⟨lane, start ::ₘ rest, rfl, ?_⟩
          intro other member
          rcases Multiset.mem_cons.mp member with rfl | inside
          · exact before
          · exact before.trans (first other inside)
        · refine ⟨start, lane ::ₘ rest, Multiset.cons_swap lane start rest, ?_⟩
          intro other member
          rcases Multiset.mem_cons.mp member with rfl | inside
          · exact behind
          · exact first other inside

/-- Giving the same job to the first lane on both sides keeps the comparison. -/
theorem Dominates.assign {early late duration : Nat}
    (dominates : Dominates horizon (early ::ₘ fast) (late ::ₘ slow)) (earlier : early ≤ late)
    (slowFirst : ∀ other ∈ slow, late ≤ other) :
    Dominates horizon ((early + duration) ::ₘ fast) ((late + duration) ::ₘ slow) := by
  intro time inside
  have before := dominates time inside
  rw [ready_cons, ready_cons] at before ⊢
  by_cases reached : late ≤ time
  · rw [if_pos reached, if_pos (earlier.trans reached)] at before
    split
    · rw [if_pos (by omega)]
      omega
    · split <;> omega
  · -- No lane of `slow` is available before its first one.
    rw [ready_eq_zero fun other member => lt_of_lt_of_le (Nat.not_le.mp reached)
      (slowFirst other member), if_neg (by omega)]
    exact Nat.zero_le _

theorem Dominates.trans {middle : Multiset Nat} (first : Dominates horizon fast middle)
    (second : Dominates horizon middle slow) : Dominates horizon fast slow :=
  fun time inside => (second time inside).trans (first time inside)

/-- More lanes. -/
theorem Dominates.add (dominates : Dominates horizon fast slow) (extra : Multiset Nat) :
    Dominates horizon (fast + extra) slow := by
  intro time inside
  have kept := dominates time inside
  unfold ready at kept ⊢
  rw [Multiset.countP_add]
  omega

/-- A lane that is given no job. -/
theorem Dominates.undelayed {start : Nat} (dominates : Dominates horizon fast (start ::ₘ slow))
    (duration : Nat) : Dominates horizon fast ((start + duration) ::ₘ slow) :=
  dominates.trans ((Dominates.refl horizon slow).cons (.inl (Nat.le_add_right start duration)))

/-- While the slow side has a lane available, the fast side has one that is available no later. -/
theorem Dominates.first {late : Nat} (dominates : Dominates horizon fast (late ::ₘ slow))
    (inside : late < horizon) :
    ∃ early others, fast = early ::ₘ others ∧ (∀ other ∈ others, early ≤ other) ∧ early ≤ late := by
  have available := dominates late inside
  rw [ready_cons, if_pos le_rfl] at available
  have nonempty : fast ≠ 0 := by
    rintro rfl
    simp [ready] at available
  obtain ⟨early, others, rfl, fastFirst⟩ := exists_first nonempty
  refine ⟨early, others, rfl, fastFirst, ?_⟩
  by_contra behind
  have none : ready (early ::ₘ others) late = 0 := by
    refine ready_eq_zero ?_
    intro lane member
    rcases Multiset.mem_cons.mp member with rfl | inside
    · omega
    · have first := fastFirst lane inside
      omega
  omega

/-- **Monotonicity of list scheduling.** Lanes that are available earlier, fewer and shorter jobs
and later limits keep the schedule feasible. -/
theorem Feasible.of_eased {jobs eased : List Job} (feasible : Feasible slow jobs)
    (dominates : Dominates horizon fast slow) (easier : Eased eased jobs)
    (bounded : ∀ job ∈ jobs, job.limit < horizon) : Feasible fast eased := by
  induction feasible generalizing fast eased with
  | nil =>
      cases easier
      exact .nil fast
  | @cons late slow job rest slowFirst inTime _ ih =>
      have limit := bounded job List.mem_cons_self
      have others : ∀ other ∈ rest, other.limit < horizon := fun other member =>
        bounded other (List.mem_cons_of_mem job member)
      cases easier with
      | nil => exact .nil fast
      | cons_right easier => exact ih (dominates.undelayed job.duration) easier others
      | @cons new _ eased _ eases easier =>
          obtain ⟨early, left, rfl, fastFirst, earlier⟩ := dominates.first (by omega)
          obtain ⟨shorter, longer⟩ := eases
          have assigned : Dominates horizon ((early + new.duration) ::ₘ left)
              ((early + job.duration) ::ₘ left) :=
            (Dominates.refl horizon left).cons (.inl (by omega))
          refine .cons fastFirst (by omega) (ih ?_ easier others)
          exact assigned.trans (dominates.assign earlier slowFirst)

/-- The first job of a feasible schedule, started on a first lane. -/
theorem Feasible.head {start : Nat} {job : Job} {rest : List Job}
    (feasible : Feasible (start ::ₘ lanes) (job :: rest)) (first : ∀ other ∈ lanes, start ≤ other) :
    start + job.duration ≤ job.limit ∧ Feasible ((start + job.duration) ::ₘ lanes) rest := by
  generalize all : start ::ₘ lanes = whole at feasible
  cases feasible with
  | @cons other others _ _ otherFirst inTime later =>
      have member : other ∈ start ::ₘ lanes := by
        rw [all]
        exact Multiset.mem_cons_self other others
      have mine : start ∈ other ::ₘ others := by
        rw [← all]
        exact Multiset.mem_cons_self start lanes
      have same : other = start := by
        refine le_antisymm ?_ ?_
        · rcases Multiset.mem_cons.mp mine with rfl | inside
          · exact le_rfl
          · exact otherFirst start inside
        · rcases Multiset.mem_cons.mp member with rfl | inside
          · exact le_rfl
          · exact first other inside
      subst same
      obtain rfl := (Multiset.cons_inj_right other).mp all
      exact ⟨inTime, later⟩

/-- No job of a feasible schedule is late, even if it starts as soon as any lane could. -/
theorem Feasible.mem_in_time {jobs : List Job} {now : Nat} (feasible : Feasible lanes jobs)
    (begun : ∀ lane ∈ lanes, now ≤ lane) {job : Job} (member : job ∈ jobs) :
    now + job.duration ≤ job.limit := by
  induction feasible with
  | nil => cases member
  | @cons start lanes first rest _ inTime _ ih =>
      have startBound := begun start (Multiset.mem_cons_self start lanes)
      rcases List.mem_cons.mp member with rfl | behind
      · omega
      · refine ih ?_ behind
        intro lane inside
        rcases Multiset.mem_cons.mp inside with rfl | other
        · omega
        · exact begun lane (Multiset.mem_cons_of_mem other)

end ListSchedule
