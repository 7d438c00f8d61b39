import FlowEdge.Scheduler.EdfAdmission

/-!
# Admission is exact and monotone

The saturating arithmetic of `admissible` never changes its answer: a saturated time or duration
is refused, as the exact one would be, because every condition takes some time. So the answer is
that of a list schedule in unbounded integers, and it inherits the monotonicity of such schedules.
-/

namespace FlowEdge

open Words ListSchedule

namespace EdfScheduler

/-! ## Admission in unbounded integers -/

/-- The schedule of `admissible` in unbounded integers. -/
def exactFits (policy : AdmissionPolicy) : List Nat → List ConditionMessage → Bool
  | _, [] => true
  | availableAt, job :: rest =>
      match availableAt.min? with
      | none => false
      | some start =>
          let finish := start + job.metadata.remainingNfe.toNat * policy.nanosecondsPerNfe.toNat
          if finish + policy.reserveNs.toNat ≤ job.metadata.deadlineNs.toNat then
            exactFits policy (finish :: availableAt.erase start) rest
          else false

/-- When a lane can take the next job, in unbounded integers. -/
def exactAvailableAt (policy : AdmissionPolicy) (context : AdmissionContext)
    (candidate : ConditionMessage) (lane : Nat) : Nat :=
  let active := context.active.getD lane {}
  if active.remainingNfe = 0 ∨ active.generation < candidate.metadata.generation then
    context.nowNs.toNat
  else
    context.nowNs.toNat + active.remainingNfe.toNat * policy.nanosecondsPerNfe.toNat

/-- The lanes that admission counts with. -/
def workers (context : AdmissionContext) : Nat := max 1 (min context.workerCount maxWorkers)

def exactLanes (policy : AdmissionPolicy) (context : AdmissionContext)
    (candidate : ConditionMessage) : List Nat :=
  (List.range (workers context)).map (exactAvailableAt policy context candidate)

/-- `admissible` in unbounded integers. -/
def exactAdmissible (scheduler : EdfScheduler) (candidate : ConditionMessage)
    (context : AdmissionContext) : Bool :=
  if scheduler.admission.nanosecondsPerNfe = 0 ∨ context.nowNs = 0 ∨
      candidate.metadata.deadlineNs = 0 then
    true
  else if candidate.metadata.deadlineNs ≤ context.nowNs then
    false
  else
    exactFits scheduler.admission (exactLanes scheduler.admission context candidate)
      (sortEarlier (scheduler.admissionJobs candidate))

theorem not_feasible_empty {job : Job} {rest : List Job} : ¬ Feasible 0 (job :: rest) := by
  intro feasible
  generalize none : (0 : Multiset Nat) = lanes at feasible
  cases feasible with
  | cons first inTime later => exact Multiset.zero_ne_cons none

variable {policy : AdmissionPolicy}

/-- The schedule in unbounded integers is the list schedule. -/
theorem exactFits_iff {availableAt : List Nat} {jobs : List ConditionMessage}
    (positive : ∀ lane ∈ availableAt, 0 < lane) :
    exactFits policy availableAt jobs = true ↔ Feasible availableAt (jobs.map policy.job) := by
  induction jobs generalizing availableAt with
  | nil => exact ⟨fun _ => .nil _, fun _ => rfl⟩
  | cons job rest ih =>
      unfold exactFits
      rw [List.map_cons]
      cases found : availableAt.min? with
      | none =>
          obtain rfl := List.min?_eq_none_iff.mp found
          exact ⟨nofun, fun feasible => absurd feasible not_feasible_empty⟩
      | some start =>
          obtain ⟨member, least⟩ := List.min?_eq_some_iff.mp found
          have here : (availableAt : Multiset Nat) =
              start ::ₘ (availableAt.erase start : List Nat) :=
            Multiset.coe_eq_coe.mpr (List.perm_cons_erase member)
          have first : ∀ other ∈ (availableAt.erase start : Multiset Nat), start ≤ other :=
            fun other inside => least other (List.mem_of_mem_erase inside)
          have begun := positive start member
          dsimp only
          rw [here]
          split
          · next inTime =>
              rw [ih ?_]
              · refine ⟨fun later => .cons first ?_ later, fun feasible => (feasible.head first).2⟩
                unfold AdmissionPolicy.job
                dsimp only
                omega
              · intro lane inside
                rcases List.mem_cons.mp inside with rfl | other
                · omega
                · exact positive lane (List.mem_of_mem_erase other)
          · next late =>
              refine ⟨nofun, fun feasible => absurd (feasible.head first).1 ?_⟩
              unfold AdmissionPolicy.job
              dsimp only
              omega

/-! ## Saturation never changes the answer -/

theorem within_iff {start duration limit reserve : UInt64} :
    (¬ (start > limit ∨ duration > limit - start) ∧ ¬ reserve > limit - (start + duration)) ↔
      start.toNat + duration.toNat + reserve.toNat ≤ limit.toNat := by
  refine ⟨fun within => (toNat_add_of_within within.1 within.2).2, fun within => ?_⟩
  have bound := limit.toNat_lt
  have begins : start ≤ limit := by
    rw [UInt64.le_iff_toNat_le]
    omega
  have sum : (start + duration).toNat = start.toNat + duration.toNat := by
    rw [UInt64.toNat_add]
    omega
  have ends : start + duration ≤ limit := by
    rw [UInt64.le_iff_toNat_le]
    omega
  simp only [gt_iff_lt, not_or, UInt64.not_lt, UInt64.le_iff_toNat_le,
    UInt64.toNat_sub_of_le _ _ begins, UInt64.toNat_sub_of_le _ _ ends, sum]
  omega

theorem minLane_eq_none {availableAt : List UInt64} (none : minLane availableAt = none) :
    availableAt = [] := by
  cases availableAt with
  | nil => rfl
  | cons first rest =>
      unfold minLane at none
      split at none
      · cases none
      · split at none <;> cases none

/-- One round of the loop. -/
theorem scheduleFits_cons {availableAt : List UInt64} {job : ConditionMessage}
    {rest : List ConditionMessage} {lane : Nat} (found : minLane availableAt = some lane)
    (inside : lane < availableAt.length) :
    scheduleFits policy availableAt (job :: rest) = true ↔
      availableAt[lane].toNat + min (policy.job job).duration horizon + policy.reserveNs.toNat ≤
        job.metadata.deadlineNs.toNat ∧
      scheduleFits policy (availableAt.set lane (availableAt[lane] +
        saturatingMultiply job.metadata.remainingNfe policy.nanosecondsPerNfe)) rest = true := by
  have duration := toNat_saturatingMultiply job.metadata.remainingNfe policy.nanosecondsPerNfe
  change _ = min (policy.job job).duration horizon at duration
  rw [← duration, ← within_iff]
  conv_lhs => unfold scheduleFits
  rw [found]
  simp only [List.getD_eq_getElem _ _ inside]
  split
  · next late => simp [late]
  · next started =>
      split
      · next reserved => simp [reserved]
      · next reserved => exact ⟨fun fits => ⟨⟨started, reserved⟩, fits⟩, And.right⟩

/-- The times of the simulation are those of the lanes, up to the horizon. -/
def Saturates (availableAt : List UInt64) (lanes : Multiset Nat) : Prop :=
  times availableAt = lanes.map fun lane => min lane horizon

theorem Saturates.split {availableAt : List UInt64} {lanes : Multiset Nat}
    (same : Saturates availableAt lanes) {lane : Nat} (inside : lane < availableAt.length) :
    ∃ start others, lanes = start ::ₘ others ∧ availableAt[lane].toNat = min start horizon ∧
      Saturates (availableAt.eraseIdx lane) others := by
  unfold Saturates at same
  rw [times_eq_cons inside] at same
  obtain ⟨start, member, here, others⟩ := (Multiset.map_eq_cons _ _ _ _).mpr same.symm
  exact ⟨start, lanes.erase start, (Multiset.cons_erase member).symm, here.symm, others.symm⟩

theorem Saturates.least {availableAt : List UInt64} {others : Multiset Nat}
    (same : Saturates availableAt others) {bound : Nat}
    (least : ∀ word ∈ availableAt, bound ≤ word.toNat) :
    ∀ other ∈ others, bound ≤ min other horizon := by
  intro other member
  have inside : min other horizon ∈ times availableAt := by
    rw [show times _ = _ from same]
    exact Multiset.mem_map_of_mem _ member
  unfold times at inside
  obtain ⟨word, present, same⟩ := List.mem_map.mp (Multiset.mem_coe.mp inside)
  exact same ▸ least word present

/-- A job that ends in time is put on its lane without saturation. -/
theorem Saturates.assign {job : ConditionMessage} {availableAt : List UInt64}
    {others : Multiset Nat} {lane start : Nat} (same : Saturates (availableAt.eraseIdx lane) others)
    (inside : lane < availableAt.length) (here : availableAt[lane].toNat = start)
    (within : start + (policy.job job).duration + policy.reserveNs.toNat ≤
      job.metadata.deadlineNs.toNat) :
    Saturates (availableAt.set lane (availableAt[lane] +
      saturatingMultiply job.metadata.remainingNfe policy.nanosecondsPerNfe))
      ((start + (policy.job job).duration) ::ₘ others) := by
  have deadline := job.metadata.deadlineNs.toNat_lt
  have duration := toNat_saturatingMultiply job.metadata.remainingNfe policy.nanosecondsPerNfe
  change _ = min (policy.job job).duration horizon at duration
  have sum : (availableAt[lane] + saturatingMultiply job.metadata.remainingNfe
      policy.nanosecondsPerNfe).toNat = min (start + (policy.job job).duration) horizon := by
    rw [UInt64.toNat_add, duration, here]
    unfold horizon
    omega
  unfold Saturates
  rw [times_set inside, sum, Multiset.map_cons, show times _ = _ from same]

/-- The simulated schedule is the list schedule: a lane at the horizon can no longer finish
anything, and below the horizon nothing is saturated. -/
theorem scheduleFits_iff {availableAt : List UInt64} {lanes : Multiset Nat}
    {jobs : List ConditionMessage} (same : Saturates availableAt lanes)
    (positive : ∀ lane ∈ lanes, 0 < lane)
    (takesTime : ∀ job ∈ jobs, 0 < (policy.job job).duration) :
    scheduleFits policy availableAt jobs = true ↔ Feasible lanes (jobs.map policy.job) := by
  induction jobs generalizing availableAt lanes with
  | nil => exact ⟨fun _ => .nil _, fun _ => rfl⟩
  | cons job tail ih =>
      rw [List.map_cons]
      cases found : minLane availableAt with
      | none =>
          obtain rfl := minLane_eq_none found
          have empty : lanes = 0 := Multiset.map_eq_zero.mp same.symm
          rw [empty]
          exact ⟨fun fits => by simp [scheduleFits, found] at fits,
            fun feasible => absurd feasible not_feasible_empty⟩
      | some lane =>
          obtain ⟨inside, least⟩ := minLane_spec found
          obtain ⟨start, others, rfl, here, rest⟩ := same.split inside
          have begun := positive start (Multiset.mem_cons_self start others)
          have work := takesTime job List.mem_cons_self
          have deadline := job.metadata.deadlineNs.toNat_lt
          have first := rest.least fun word erased => least word (List.mem_of_mem_eraseIdx erased)
          have limit : (policy.job job).limit =
            job.metadata.deadlineNs.toNat - policy.reserveNs.toNat := rfl
          rw [scheduleFits_cons found inside, here]
          by_cases early : start < horizon
          · have least : ∀ other ∈ others, start ≤ other := by
              intro other member
              have before := first other member
              omega
            have step : start + (policy.job job).duration + policy.reserveNs.toNat ≤
                job.metadata.deadlineNs.toNat → (scheduleFits policy (availableAt.set lane
                  (availableAt[lane] + saturatingMultiply job.metadata.remainingNfe
                    policy.nanosecondsPerNfe)) tail = true ↔
                Feasible ((start + (policy.job job).duration) ::ₘ others)
                  (tail.map policy.job)) := by
              intro within
              refine ih ?_ ?_ fun other member => takesTime other (List.mem_cons_of_mem job member)
              · exact rest.assign inside (by omega) within
              · intro other member
                rcases Multiset.mem_cons.mp member with rfl | behind
                · omega
                · exact positive other (Multiset.mem_cons_of_mem behind)
            refine ⟨fun ⟨within, fits⟩ => ?_, fun feasible => ?_⟩
            · have within : start + (policy.job job).duration + policy.reserveNs.toNat ≤
                  job.metadata.deadlineNs.toNat := by
                unfold horizon at within early
                omega
              exact .cons least (by omega) ((step within).mp fits)
            · obtain ⟨inTime, later⟩ := feasible.head least
              exact ⟨by omega, (step (by omega)).mpr later⟩
          · -- Every lane is at the horizon, and no deadline is behind it.
            refine ⟨fun ⟨within, _⟩ => ?_, fun feasible => ?_⟩
            · unfold horizon at within early
              omega
            · have late : ∀ each ∈ start ::ₘ others, horizon ≤ each := by
                intro each member
                rcases Multiset.mem_cons.mp member with rfl | other
                · omega
                · have before := first each other
                  omega
              have inTime := feasible.mem_in_time late List.mem_cons_self
              unfold horizon at inTime
              omega

theorem saturates_lanes (policy : AdmissionPolicy) (context : AdmissionContext)
    (candidate : ConditionMessage) :
    Saturates ((List.range (workers context)).map (laneAvailableAt policy context candidate))
      (exactLanes policy context candidate : List Nat) := by
  unfold Saturates times exactLanes
  rw [Multiset.map_coe, List.map_map, List.map_map]
  refine congrArg _ (List.map_congr_left fun lane _ => ?_)
  have now := context.nowNs.toNat_lt
  unfold laneAvailableAt exactAvailableAt
  dsimp only [Function.comp_apply]
  split
  · unfold horizon
    omega
  · rw [toNat_saturatingAdd, toNat_saturatingMultiply]
    unfold horizon
    omega

theorem positive_exactLanes (policy : AdmissionPolicy) {context : AdmissionContext}
    (candidate : ConditionMessage) (started : context.nowNs ≠ 0) :
    ∀ lane ∈ exactLanes policy context candidate, 0 < lane := by
  intro time member
  obtain ⟨lane, -, rfl⟩ := List.mem_map.mp member
  have now : 0 < context.nowNs.toNat := by
    rw [Nat.pos_iff_ne_zero]
    exact fun zero => started (UInt64.toNat_inj.mp zero)
  unfold exactAvailableAt
  dsimp only
  split <;> omega

/-- The messages of the queue are valid. -/
def Valid (scheduler : EdfScheduler) : Prop :=
  ∀ queued ∈ scheduler.queue, queued.validate = .success

variable {scheduler : EdfScheduler} {candidate : ConditionMessage}

/-- Every job that admission looks at has evaluations left. -/
theorem works_jobs (valid : scheduler.Valid) (works : 0 < candidate.metadata.remainingNfe.toNat) :
    ∀ job ∈ sortEarlier (scheduler.admissionJobs candidate),
      0 < job.metadata.remainingNfe.toNat := by
  intro job member
  have member := (List.perm_insertionSort _ _).subset member
  rcases List.mem_cons.mp member with rfl | queued
  · exact works
  · obtain ⟨slot, inside, rfl⟩ := List.mem_map.mp queued
    have listed : scheduler.message slot ∈ scheduler.queue :=
      List.mem_map_of_mem (List.mem_of_mem_filter inside)
    exact (ConditionMessage.valid_of_validate (valid _ listed)).nfe_pos

/-- What `admissible` answers, as a list schedule. -/
theorem admissible_iff (valid : scheduler.Valid) (works : 0 < candidate.metadata.remainingNfe.toNat)
    {context : AdmissionContext} (estimates : scheduler.admission.nanosecondsPerNfe ≠ 0)
    (started : context.nowNs ≠ 0) (limited : candidate.metadata.deadlineNs ≠ 0) :
    scheduler.admissible candidate context = true ↔
      context.nowNs < candidate.metadata.deadlineNs ∧
      Feasible (exactLanes scheduler.admission context candidate : List Nat)
        ((sortEarlier (scheduler.admissionJobs candidate)).map scheduler.admission.job) := by
  have cost : 0 < scheduler.admission.nanosecondsPerNfe.toNat := by
    rw [Nat.pos_iff_ne_zero]
    exact fun zero => estimates (UInt64.toNat_inj.mp zero)
  unfold admissible
  rw [if_neg (by simp [estimates, started, limited])]
  split
  · next late => simp [UInt64.not_lt.mpr late]
  · next early =>
      rw [UInt64.not_le] at early
      have exact := scheduleFits_iff (saturates_lanes scheduler.admission context candidate)
        (positive_exactLanes _ candidate started) fun job member =>
          Nat.mul_pos (works_jobs valid works job member) cost
      rw [← exact]
      exact ⟨fun fits => ⟨early, fits⟩, And.right⟩

/-- Admission answers as in unbounded integers. -/
theorem admissible_eq_exact (valid : scheduler.Valid)
    (works : 0 < candidate.metadata.remainingNfe.toNat) (context : AdmissionContext) :
    scheduler.admissible candidate context = scheduler.exactAdmissible candidate context := by
  by_cases checked : scheduler.admission.nanosecondsPerNfe = 0 ∨ context.nowNs = 0 ∨
      candidate.metadata.deadlineNs = 0
  · unfold admissible exactAdmissible
    rw [if_pos checked, if_pos checked]
  · obtain ⟨estimates, started, limited⟩ := by simpa only [not_or] using checked
    rw [Bool.eq_iff_iff, admissible_iff valid works estimates started limited]
    unfold exactAdmissible
    rw [if_neg checked]
    split
    · next late => simp [UInt64.not_lt.mpr late]
    · next early =>
        rw [exactFits_iff (positive_exactLanes _ candidate started)]
        exact and_iff_right (UInt64.not_le.mp early)

/-! ## Easier admissions -/

/-- One of two messages comes before the other. -/
def Ordered (left right : ConditionMessage) : Prop :=
  later left right = true ∨ later right left = true

/-- The queue, the policy, the lanes and the clock changed in favour of a candidate, whose deadline
may have been raised as far as it keeps its place in the queue. -/
structure Relaxed (before after : EdfScheduler) (candidate moved : ConditionMessage)
    (context eased : AdmissionContext) : Prop where
  capacity : after.capacity = before.capacity
  queue : after.queue.Subperm before.queue
  reserve : after.admission.reserveNs ≤ before.admission.reserveNs
  estimate : after.admission.nanosecondsPerNfe ≤ before.admission.nanosecondsPerNfe
  clock : eased.nowNs ≤ context.nowNs
  laneCount : context.workerCount ≤ eased.workerCount
  lanes : ∀ lane < workers context,
    (eased.active.getD lane {}).generation = (context.active.getD lane {}).generation ∧
    (eased.active.getD lane {}).remainingNfe ≤ (context.active.getD lane {}).remainingNfe
  deadline : candidate.metadata.deadlineNs ≤ moved.metadata.deadlineNs
  raised : moved = { candidate with
    metadata := { candidate.metadata with deadlineNs := moved.metadata.deadlineNs } }
  place : ∀ queued ∈ after.queue, later moved queued = later candidate queued

/-- The queued messages that admission counts with. -/
def relevant (candidate queued : ConditionMessage) : Bool :=
  queued.metadata.generation ≥ candidate.metadata.generation ∧ queued.metadata.deadlineNs ≠ 0

theorem admissionJobs_of_room (room : scheduler.heap.length < scheduler.capacity)
    (candidate : ConditionMessage) :
    scheduler.admissionJobs candidate =
      candidate :: scheduler.queue.filter (relevant candidate) := by
  have none : scheduler.displaced candidate = none := by
    unfold displaced
    rw [if_neg (by omega)]
  unfold admissionJobs queue
  rw [List.filter_map]
  refine congrArg (candidate :: ·) (congrArg _ (List.filter_congr fun slot _ => ?_))
  simp [none, relevant]

theorem strict_sortEarlier {jobs : List ConditionMessage} (distinct : jobs.Pairwise Ordered) :
    (sortEarlier jobs).Pairwise fun left right => later right left = true := by
  have apart : (sortEarlier jobs).Pairwise Ordered :=
    ((List.perm_insertionSort _ jobs).pairwise_iff Or.symm).mpr distinct
  refine (apart.and (sorted_sortEarlier jobs)).imp fun ⟨ordered, notLater⟩ => ?_
  exact ordered.resolve_left (by simp [notLater])

theorem sortEarlier_sublist {small large : List ConditionMessage} (part : small.Subperm large)
    (distinct : large.Pairwise Ordered) : (sortEarlier small).Sublist (sortEarlier large) := by
  have antisymmetric : Std.Antisymm fun left right : ConditionMessage => later right left = true :=
    ⟨fun left right one two => by simp [strictWeak_later.asymm one] at two⟩
  have apart : small.Pairwise Ordered := by
    obtain ⟨same, perm, sublist⟩ := part
    exact (perm.pairwise_iff Or.symm).mp (distinct.sublist sublist)
  refine List.sublist_of_subperm_of_pairwise ?_ (strict_sortEarlier apart)
    (strict_sortEarlier distinct)
  exact (List.perm_insertionSort _ small).subperm.trans
    (part.trans (List.perm_insertionSort _ large).symm.subperm)

section Insert

variable {policy cheaper : AdmissionPolicy} {candidate moved : ConditionMessage}
  {small large : List ConditionMessage}

theorem eased_of_sublist (eases : ∀ job, (cheaper.job job).Eases (policy.job job))
    (part : small.Sublist large) : Eased (small.map cheaper.job) (large.map policy.job) := by
  induction part with
  | slnil => exact .nil
  | cons _ _ ih => exact .cons_right ih
  | cons_cons _ _ ih => exact .cons (eases _) ih

theorem orderedInsert_first (first : ∀ queued ∈ small, later moved queued = false) :
    small.orderedInsert (fun left right => later left right = false) moved = moved :: small := by
  cases small with
  | nil => rfl
  | cons queued rest => rw [List.orderedInsert_cons, if_pos (first queued List.mem_cons_self)]

/-- A candidate that keeps its place among fewer messages. -/
theorem eased_orderedInsert (eases : ∀ job, (cheaper.job job).Eases (policy.job job))
    (own : (cheaper.job moved).Eases (policy.job candidate)) (part : small.Sublist large)
    (sorted : large.Pairwise fun left right => later left right = false)
    (place : ∀ queued ∈ small, later moved queued = later candidate queued) :
    Eased
      ((small.orderedInsert (fun left right => later left right = false) moved).map cheaper.job)
      ((large.orderedInsert (fun left right => later left right = false) candidate).map
        policy.job) := by
  induction part with
  | slnil => exact .cons own .nil
  | @cons small large queued part ih =>
      obtain ⟨behind, sorted⟩ := List.pairwise_cons.mp sorted
      rw [List.orderedInsert_cons]
      split
      · next before =>
          have first : ∀ other ∈ small, later moved other = false := fun other member =>
            (place other member).trans
              (strictWeak_later.negTrans before (behind other (part.subset member)))
          rw [orderedInsert_first first]
          exact .cons own (.cons_right (eased_of_sublist eases part))
      · exact .cons_right (ih sorted place)
  | @cons_cons small large queued part ih =>
      obtain ⟨behind, sorted⟩ := List.pairwise_cons.mp sorted
      rw [List.orderedInsert_cons, List.orderedInsert_cons, place queued List.mem_cons_self]
      split
      · exact .cons own (.cons (eases queued) (eased_of_sublist eases part))
      · exact .cons (eases queued)
          (ih sorted fun other member => place other (List.mem_cons_of_mem queued member))

end Insert

namespace Relaxed

variable {before after : EdfScheduler} {candidate moved : ConditionMessage}
  {context eased : AdmissionContext}

theorem eases (relaxed : Relaxed before after candidate moved context eased)
    (job : ConditionMessage) : (after.admission.job job).Eases (before.admission.job job) := by
  have reserve := UInt64.le_iff_toNat_le.mp relaxed.reserve
  have estimate := UInt64.le_iff_toNat_le.mp relaxed.estimate
  exact ⟨Nat.mul_le_mul_left _ estimate, Nat.sub_le_sub_left reserve _⟩

theorem eases_candidate (relaxed : Relaxed before after candidate moved context eased) :
    (after.admission.job moved).Eases (before.admission.job candidate) := by
  obtain ⟨shorter, longer⟩ := relaxed.eases candidate
  have deadline := UInt64.le_iff_toNat_le.mp relaxed.deadline
  have same : moved.metadata.remainingNfe = candidate.metadata.remainingNfe := by
    rw [relaxed.raised]
  refine ⟨?_, longer.trans ?_⟩
  · unfold AdmissionPolicy.job at shorter ⊢
    rwa [same]
  · exact Nat.sub_le_sub_right deadline _

theorem generation (relaxed : Relaxed before after candidate moved context eased) :
    moved.metadata.generation = candidate.metadata.generation := by
  rw [relaxed.raised]

theorem room (relaxed : Relaxed before after candidate moved context eased)
    (room : before.heap.length < before.capacity) : after.heap.length < after.capacity := by
  have fewer := relaxed.queue.length_le
  simp only [EdfScheduler.queue, List.length_map] at fewer
  rw [relaxed.capacity]
  omega

/-- The jobs that are looked at are fewer and easier, in the same order. -/
theorem jobs (relaxed : Relaxed before after candidate moved context eased)
    (room : before.heap.length < before.capacity) (distinct : before.queue.Pairwise Ordered) :
    Eased ((sortEarlier (after.admissionJobs moved)).map after.admission.job)
      ((sortEarlier (before.admissionJobs candidate)).map before.admission.job) := by
  have same : relevant moved = relevant candidate := by
    funext queued
    simp only [relevant, relaxed.generation]
  rw [admissionJobs_of_room room, admissionJobs_of_room (relaxed.room room), same]
  refine eased_orderedInsert relaxed.eases relaxed.eases_candidate ?_ (sorted_sortEarlier _)
    fun queued member => ?_
  · exact sortEarlier_sublist (relaxed.queue.filter _) (distinct.sublist List.filter_sublist)
  · have inside := (List.perm_insertionSort _ _).subset member
    exact relaxed.place queued (List.mem_of_mem_filter inside)

theorem availableAt (relaxed : Relaxed before after candidate moved context eased) {lane : Nat}
    (inside : lane < workers context) :
    exactAvailableAt after.admission eased moved lane ≤
      exactAvailableAt before.admission context candidate lane := by
  obtain ⟨generation, nfe⟩ := relaxed.lanes lane inside
  have clock := UInt64.le_iff_toNat_le.mp relaxed.clock
  have work := Nat.mul_le_mul (UInt64.le_iff_toNat_le.mp nfe)
    (UInt64.le_iff_toNat_le.mp relaxed.estimate)
  unfold exactAvailableAt
  dsimp only
  rw [generation, relaxed.generation]
  split
  · split <;> omega
  · next busy =>
      rw [not_or] at busy
      have still : ¬ (context.active.getD lane {}).remainingNfe = 0 := by
        intro none
        rw [none, UInt64.le_iff_toNat_le] at nfe
        exact busy.1 (UInt64.toNat_inj.mp (Nat.le_zero.mp nfe))
      rw [if_neg (not_or.mpr ⟨still, busy.2⟩)]
      omega

/-- There are more lanes, and each is available no later. -/
theorem dominates (relaxed : Relaxed before after candidate moved context eased) (horizon : Nat) :
    Dominates horizon (exactLanes after.admission eased moved : List Nat)
      (exactLanes before.admission context candidate : List Nat) := by
  have more : workers context ≤ workers eased := by
    have laneCount := relaxed.laneCount
    unfold workers
    omega
  obtain ⟨extra, total⟩ := Nat.exists_eq_add_of_le more
  have each : Dominates horizon
      ((List.range (workers context) : Multiset Nat).map
        (exactAvailableAt after.admission eased moved))
      ((List.range (workers context) : Multiset Nat).map
        (exactAvailableAt before.admission context candidate)) :=
    Dominates.map fun lane member => .inl (relaxed.availableAt (List.mem_range.mp member))
  unfold exactLanes
  rw [total, List.range_add, List.map_append, ← Multiset.coe_add]
  exact each.add _

end Relaxed

/-- **Admission is exact and monotone.** On valid messages the saturating arithmetic answers as
unbounded integers would. And what is admitted to a queue with room is still admitted when the
lanes have less to do, when there are more lanes, when messages left the queue, when the reserve or
the estimate is lower, when it is earlier, or when the candidate may end later at the same place of
the queue. -/
theorem admission_exact_monotone :
    (∀ (scheduler : EdfScheduler) (candidate : ConditionMessage) (context : AdmissionContext),
      scheduler.Valid → candidate.validate = .success →
      scheduler.admissible candidate context = scheduler.exactAdmissible candidate context) ∧
    ∀ (before after : EdfScheduler) (candidate moved : ConditionMessage)
      (context eased : AdmissionContext), before.heap.length < before.capacity → before.Valid →
      before.queue.Pairwise Ordered → candidate.validate = .success →
      candidate.metadata.deadlineNs ≠ 0 → Relaxed before after candidate moved context eased →
      before.admissible candidate context = true → after.admissible moved eased = true := by
  refine ⟨fun scheduler candidate context valid candidateValid => ?_,
    fun before after candidate moved context eased room valid distinct candidateValid limited
      relaxed admitted => ?_⟩
  · exact admissible_eq_exact valid (ConditionMessage.valid_of_validate candidateValid).nfe_pos
      context
  have works := (ConditionMessage.valid_of_validate candidateValid).nfe_pos
  by_cases checked : after.admission.nanosecondsPerNfe = 0 ∨ eased.nowNs = 0 ∨
      moved.metadata.deadlineNs = 0
  · unfold admissible
    rw [if_pos checked]
  obtain ⟨estimates, started, stillLimited⟩ := by simpa only [not_or] using checked
  have positive : ∀ {small large : UInt64}, small ≤ large → small ≠ 0 → large ≠ 0 := by
    rintro small large below nonzero rfl
    exact nonzero (UInt64.toNat_inj.mp (Nat.le_zero.mp (UInt64.le_iff_toNat_le.mp below)))
  obtain ⟨early, feasible⟩ := (admissible_iff valid works (positive relaxed.estimate estimates)
    (positive relaxed.clock started) limited).mp admitted
  have stillValid : after.Valid := fun queued member =>
    valid queued (relaxed.queue.subset member)
  have stillWorks : 0 < moved.metadata.remainingNfe.toNat := by
    rw [relaxed.raised]
    exact works
  refine (admissible_iff stillValid stillWorks estimates started stillLimited).mpr ⟨?_, ?_⟩
  · exact UInt64.lt_of_le_of_lt relaxed.clock (UInt64.lt_of_lt_of_le early relaxed.deadline)
  · refine feasible.of_eased (relaxed.dominates (2 ^ 64))
      (relaxed.jobs room distinct) fun job member => ?_
    obtain ⟨condition, -, rfl⟩ := List.mem_map.mp member
    exact (Nat.sub_le _ _).trans_lt condition.metadata.deadlineNs.toNat_lt

private def easedCondition (sequence deadlineNs : UInt64) : ConditionMessage where
  envelope := { kind := .condition, structSize := 120, sequence }
  metadata := { structSize := 88, protocolVersion, deadlineNs, generation := 1, solverSteps := 1,
                remainingNfe := 1 }

private def easedQueue (queue : List ConditionMessage) (estimate : UInt64) : EdfScheduler :=
  { capacity := 4, newestGeneration := 1,
    admission := { nanosecondsPerNfe := estimate, reserveNs := 5 },
    storage := queue, heap := List.range queue.length, freeSlots := [] }

/-- A busy lane and two queued messages; then one lane more, one message less, a lower estimate, an
earlier time and a later deadline. -/
theorem admission_exact_monotone_example :
    (easedQueue [easedCondition 1 40, easedCondition 2 60] 10).admissible (easedCondition 3 70)
        { nowNs := 2, active := [{ generation := 1, remainingNfe := 2 }] } = true ∧
      (easedQueue [easedCondition 2 60] 9).admissible (easedCondition 3 90)
        { nowNs := 1, workerCount := 2, active := [{ generation := 1, remainingNfe := 1 }] } =
          true := by
  have admitted : (easedQueue [easedCondition 1 40, easedCondition 2 60] 10).admissible
      (easedCondition 3 70)
      { nowNs := 2, active := [{ generation := 1, remainingNfe := 2 }] } = true := by
    decide +kernel
  have distinct : (easedQueue [easedCondition 1 40, easedCondition 2 60] 10).queue.Pairwise
      Ordered := by
    refine List.pairwise_pair.mpr (.inr ?_)
    decide +kernel
  have fewer : (easedQueue [easedCondition 2 60] 9).queue.Subperm
      (easedQueue [easedCondition 1 40, easedCondition 2 60] 10).queue :=
    (List.sublist_cons_self (easedCondition 1 40) [easedCondition 2 60]).subperm
  refine ⟨admitted, admission_exact_monotone.2 _ _ _ _ _ _ (by decide) ?_ distinct
    (by decide +kernel) (by decide)
    ⟨rfl, fewer, by decide, by decide, by decide, by decide, ?_, by decide, rfl, ?_⟩ admitted⟩
  · unfold EdfScheduler.Valid
    decide +kernel
  · decide +kernel
  · decide +kernel

end EdfScheduler

end FlowEdge
