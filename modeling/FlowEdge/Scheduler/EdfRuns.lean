import FlowEdge.Scheduler.EdfQueue

/-!
# Runs of the scheduler

Every sequence of `submit` and `pop` calls keeps the invariant of the scheduler, so
the specifications of the two operations hold at each call of a run. The counters
of the scheduler balance against what the calls answered.
-/

namespace FlowEdge

open Words BinaryHeap

namespace EdfScheduler

variable {scheduler : EdfScheduler}

/-! ## `submit` -/

/-- What `submit` does to the queue, for each of its results. -/
def SubmitSpec (before after : EdfScheduler) (candidate : ConditionMessage) :
    SubmitResult → Prop
  | .invalid | .stale | .deadlineUnreachable =>
      after.queue = before.queue ∧ after.newestGeneration = before.newestGeneration
  | .full =>
      (after.queue = before.queue ∧ after.newestGeneration = before.newestGeneration) ∧
        before.queue.length = before.capacity ∧
        ∀ latest ∈ before.queue, (∀ queued ∈ before.queue, later queued latest = false) →
          earlier candidate latest = false
  | .accepted =>
      after.newestGeneration = candidate.metadata.generation ∧
        after.queue.Perm (candidate :: before.queue.filter fun queued =>
          ¬ queued.metadata.generation < candidate.metadata.generation)
  | .acceptedAndEvicted =>
      after.newestGeneration = before.newestGeneration ∧
        before.queue.length = before.capacity ∧
        ∃ evicted rest, before.queue.Perm (evicted :: rest) ∧
          (∀ queued ∈ before.queue, later queued evicted = false) ∧
          earlier candidate evicted = true ∧ after.queue.Perm (candidate :: rest)

/-- Accepted messages that are not queued, expired, evicted or dropped as stale. -/
def account (scheduler : EdfScheduler) : UInt64 :=
  scheduler.stats.accepted -
    (UInt64.ofNat scheduler.heap.length + scheduler.stats.expired + scheduler.stats.evicted +
      scheduler.stats.stale)

theorem Invariant.account_prepare (invariant : scheduler.Invariant)
    (candidate : ConditionMessage) :
    (scheduler.prepare candidate).account = scheduler.account := by
  unfold EdfScheduler.prepare
  split
  · next newer =>
      rw [invariant.supersede_eq newer]
      simp only [account, List.length_nil]
      grind
  · rfl

theorem account_enqueue (candidate : ConditionMessage) :
    (scheduler.enqueue candidate).account = scheduler.account := by
  simp only [account, enqueue, copyInto, (pushHeap_perm _ _).length_eq, List.length_append,
    List.length_singleton, UInt64.ofNat_add]
  grind

theorem account_replace (slot : Nat) (candidate : ConditionMessage) :
    (scheduler.replace slot candidate).account = scheduler.account := by
  simp only [account, replace, rebuild, copyInto, (makeHeap_perm _ _).length_eq]
  grind

theorem account_releaseBorrowed : scheduler.releaseBorrowed.account = scheduler.account := by
  simp [account]

/-- The account loses one message with every answer that a candidate is stale. -/
def staleAnswer (result : SubmitResult) : UInt64 := if result = .stale then 1 else 0

theorem worst_latest {slot : Nat} (found : scheduler.worst = some slot) :
    slot ∈ scheduler.heap ∧
      ∀ queued ∈ scheduler.queue, later queued (scheduler.message slot) = false := by
  obtain ⟨member, maximal⟩ := maxElement_spec (strictWeak_earlierSlot scheduler) found
  refine ⟨member, ?_⟩
  intro queued inside
  obtain ⟨other, heap, rfl⟩ := List.mem_map.mp inside
  exact maximal other heap

theorem Invariant.submit (invariant : scheduler.Invariant) (candidate : ConditionMessage)
    (context : AdmissionContext) (buffer : Bool) :
    (scheduler.submit candidate context buffer).1.Invariant ∧
      SubmitSpec scheduler (scheduler.submit candidate context buffer).1 candidate
        (scheduler.submit candidate context buffer).2.result ∧
      (scheduler.submit candidate context buffer).1.account +
        staleAnswer (scheduler.submit candidate context buffer).2.result = scheduler.account := by
  have released := invariant.releaseBorrowed
  unfold EdfScheduler.submit
  dsimp only
  split
  · exact ⟨released, ⟨by simp, by simp⟩, by simp [staleAnswer, account_releaseBorrowed]⟩
  split
  · refine ⟨⟨released.positive, released.storage, released.slots, released.current,
      released.ordered⟩, ⟨releaseBorrowed_queue scheduler, by simp⟩, ?_⟩
    simp only [account, staleAnswer, releaseBorrowed_heap, releaseBorrowed_stats]
    grind
  next current =>
  split
  · refine ⟨⟨released.positive, released.storage, released.slots, released.current,
      released.ordered⟩, ⟨releaseBorrowed_queue scheduler, by simp⟩, ?_⟩
    simp [account, staleAnswer]
  obtain ⟨prepared, newest, kept⟩ := released.prepare candidate current
  have returned : (scheduler.releaseBorrowed.prepare candidate).borrowed = none := by simp
  have balance := released.account_prepare candidate
  rw [account_releaseBorrowed] at balance
  split
  · next room =>
      obtain ⟨queued, perm⟩ := prepared.enqueue candidate returned room newest.symm
      refine ⟨queued, ⟨newest, ?_⟩, ?_⟩
      · rw [kept, releaseBorrowed_queue] at perm
        exact perm
      · rw [account_enqueue, balance]
        simp [staleAnswer]
  next noRoom =>
  -- A full queue was not superseded: superseding leaves it empty.
  have nonempty : (scheduler.releaseBorrowed.prepare candidate).heap ≠ [] := by
    intro empty
    rw [empty] at noRoom
    exact noRoom prepared.positive
  have same := prepare_of_queued candidate released nonempty
  rw [same] at newest noRoom nonempty ⊢
  have count := released.count
  have filled : scheduler.queue.length = scheduler.capacity := by
    simp only [releaseBorrowed_heap, releaseBorrowed_capacity] at count noRoom
    simp only [queue, List.length_map]
    omega
  split
  · next slot found =>
      obtain ⟨member, latest⟩ := worst_latest found
      rw [releaseBorrowed_queue] at latest
      split
      · next before =>
          obtain ⟨replaced, split, perm⟩ := released.replace candidate member newest.symm
          rw [releaseBorrowed_queue] at split
          refine ⟨replaced, ⟨?_, filled, _, _, split, latest, before, perm⟩, ?_⟩
          · exact releaseBorrowed_newestGeneration scheduler
          · rw [account_replace, account_releaseBorrowed]
            simp [staleAnswer]
      · next notBefore =>
          refine ⟨⟨released.positive, released.storage, released.slots, released.current,
            released.ordered⟩, ⟨⟨releaseBorrowed_queue scheduler, by simp⟩, filled, ?_⟩, ?_⟩
          · intro other inside otherLatest
            have behind : later (scheduler.releaseBorrowed.message slot) candidate = false := by
              simpa [earlier] using notBefore
            exact strictWeak_later.negTrans (latest other inside) behind
          · simp [account, staleAnswer]
  · next absent =>
      exact absurd (maxElement_eq_none_iff.mp absent) nonempty

/-! ## `pop` -/

/-- The account gains one message with every delivery. -/
def delivery (popped : Popped) : UInt64 := if popped.message.isSome then 1 else 0

theorem Head.account_dropHead {slot : Nat} {rest : List Nat} (head : Head scheduler slot rest) :
    (scheduler.dropHead rest slot).account = scheduler.account := by
  have length := head.heap.length_eq
  rw [List.length_cons] at length
  simp only [account, dropHead, ← length, UInt64.ofNat_add]
  grind

theorem Head.account_lendHead {slot : Nat} {rest : List Nat} (head : Head scheduler slot rest) :
    (scheduler.lendHead rest slot).account = scheduler.account + 1 := by
  have length := head.heap.length_eq
  rw [List.length_cons] at length
  simp only [account, lendHead, ← length, UInt64.ofNat_add]
  grind

theorem Invariant.account_popLoop (invariant : scheduler.Invariant) (nowNs : UInt64)
    (buffer : Bool) (fuel : Nat) :
    (popLoop nowNs buffer fuel scheduler).1.account =
      scheduler.account + delivery (popLoop nowNs buffer fuel scheduler).2 := by
  induction fuel generalizing scheduler with
  | zero => simp [popLoop, delivery]
  | succ fuel ih =>
      by_cases empty : scheduler.heap = []
      · simp [popLoop_nil nowNs buffer _ empty, delivery]
      · obtain ⟨slot, rest, head, step⟩ := invariant.popLoop_succ nowNs empty
        rw [step]
        split
        · split
          · simp [head.account_dropHead, delivery]
          · rw [ih (invariant.dropHead head), head.account_dropHead]
        · simp [head.account_lendHead, delivery]

theorem Invariant.pop (invariant : scheduler.Invariant) (nowNs : UInt64) (buffer : Bool) :
    (scheduler.pop nowNs buffer).1.Invariant := by
  cases buffer with
  | false =>
      exact (invariant.releaseBorrowed.popLoop_spec (by simp) nowNs _ le_rfl).1
  | true => exact (invariant.releaseBorrowed.popLoop_buffered (by simp) nowNs).1

theorem Delivered.congr {nowNs : UInt64} {before other after : EdfScheduler}
    {message : ConditionMessage} (delivered : Delivered nowNs before after message)
    (same : before.queue = other.queue) : Delivered nowNs other after message := by
  obtain ⟨alive, first, removed, remaining, lent⟩ := delivered
  rw [same] at first removed
  exact ⟨alive, first, removed, remaining, lent⟩

theorem Invariant.pop_spec (invariant : scheduler.Invariant) (nowNs : UInt64) :
    PopSpec nowNs scheduler (scheduler.pop nowNs).1 (scheduler.pop nowNs).2 := by
  obtain ⟨-, unanswered, spec⟩ :=
    invariant.releaseBorrowed.popLoop_spec (by simp) nowNs _ le_rfl
  refine ⟨unanswered, ?_⟩
  unfold EdfScheduler.pop
  dsimp only
  split at spec
  · exact spec.congr (releaseBorrowed_queue scheduler)
  · rw [releaseBorrowed_queue] at spec
    exact spec

theorem Invariant.pop_buffered (invariant : scheduler.Invariant) (nowNs : UInt64) :
    BufferedPopSpec nowNs scheduler (scheduler.pop nowNs true).1 (scheduler.pop nowNs true).2 ∧
      ((scheduler.pop nowNs true).2.rejection = none →
        scheduler.pop nowNs true = scheduler.pop nowNs) := by
  obtain ⟨-, spec, same⟩ := invariant.releaseBorrowed.popLoop_buffered (by simp) nowNs
  unfold BufferedPopSpec at spec
  rw [releaseBorrowed_queue] at spec
  exact ⟨spec, same⟩

theorem Invariant.account_pop (invariant : scheduler.Invariant) (nowNs : UInt64)
    (buffer : Bool) :
    (scheduler.pop nowNs buffer).1.account =
      scheduler.account + delivery (scheduler.pop nowNs buffer).2 := by
  have balance := invariant.releaseBorrowed.account_popLoop nowNs buffer
    scheduler.releaseBorrowed.heap.length
  rw [account_releaseBorrowed] at balance
  exact balance

/-! ## Runs -/

/-- The calls of the scheduler. -/
inductive Call where
  | submit (candidate : ConditionMessage) (context : AdmissionContext) (buffer : Bool)
  | pop (nowNs : UInt64) (buffer : Bool)

/-- A run: the scheduler, how many messages `pop` has delivered and how many candidates
`submit` has called stale. -/
structure Run where
  scheduler : EdfScheduler
  delivered : Nat := 0
  staleAnswers : Nat := 0

def Run.step (run : Run) : Call → Run
  | .submit candidate context buffer =>
      let answer := run.scheduler.submit candidate context buffer
      { run with
        scheduler := answer.1
        staleAnswers := run.staleAnswers + if answer.2.result = .stale then 1 else 0 }
  | .pop nowNs buffer =>
      let answer := run.scheduler.pop nowNs buffer
      { run with
        scheduler := answer.1
        delivered := run.delivered + if answer.2.message.isSome then 1 else 0 }

/-- A run from an empty queue. -/
def run (capacity : Nat) (policy : AdmissionPolicy) (calls : List Call) : Run :=
  calls.foldl Run.step { scheduler := create capacity policy }

/-- What holds between the calls of a run. -/
structure RunInvariant (run : Run) : Prop where
  scheduler : run.scheduler.Invariant
  ledger : run.scheduler.account + UInt64.ofNat run.staleAnswers = UInt64.ofNat run.delivered

theorem RunInvariant.step {run : Run} (invariant : RunInvariant run) (call : Call) :
    RunInvariant (run.step call) := by
  have ledger := invariant.ledger
  cases call with
  | submit candidate context buffer =>
      obtain ⟨kept, -, balance⟩ := invariant.scheduler.submit candidate context buffer
      refine ⟨kept, ?_⟩
      simp only [Run.step, staleAnswer] at balance ⊢
      rw [← balance] at ledger
      split at ledger <;> simp only [UInt64.ofNat_add, *] <;> grind
  | pop nowNs buffer =>
      refine ⟨invariant.scheduler.pop nowNs buffer, ?_⟩
      have balance := invariant.scheduler.account_pop nowNs buffer
      simp only [Run.step, delivery] at balance ⊢
      rw [balance]
      split <;> simp only [UInt64.ofNat_add] <;> grind

theorem runInvariant_run (capacity : Nat) (policy : AdmissionPolicy) (calls : List Call) :
    RunInvariant (run capacity policy calls) := by
  have start : RunInvariant { scheduler := create capacity policy } :=
    ⟨invariant_create capacity policy, by simp [account, create]⟩
  unfold run
  generalize ({ scheduler := create capacity policy } : Run) = first at start
  induction calls generalizing first with
  | nil => exact start
  | cons call rest ih => exact ih _ (start.step call)

/-- **The scheduler refines a bounded EDF queue.** After every sequence of calls: the slots
are split between heap, free list and loan, a free slot exists whenever `submit` takes one,
everything queued is of the newest generation, `pop` and `submit` act as on a bounded queue
ordered by `later`, and the counters balance modulo `2 ^ 64`. -/
theorem edfScheduler_refines_queue (capacity : Nat) (policy : AdmissionPolicy)
    (calls : List Call) :
    let final := run capacity policy calls
    let scheduler := final.scheduler
    (scheduler.heap ++ scheduler.freeSlots ++ scheduler.borrowed.toList).Perm
        (List.range scheduler.capacity) ∧
      (∀ candidate, ¬ candidate.metadata.generation < scheduler.newestGeneration →
        (scheduler.releaseBorrowed.prepare candidate).heap.length < scheduler.capacity →
        (scheduler.releaseBorrowed.prepare candidate).freeSlots ≠ []) ∧
      (∀ queued ∈ scheduler.queue, queued.metadata.generation = scheduler.newestGeneration) ∧
      (∀ nowNs, PopSpec nowNs scheduler (scheduler.pop nowNs).1 (scheduler.pop nowNs).2) ∧
      (∀ nowNs, BufferedPopSpec nowNs scheduler (scheduler.pop nowNs true).1
          (scheduler.pop nowNs true).2 ∧
        ((scheduler.pop nowNs true).2.rejection = none →
          scheduler.pop nowNs true = scheduler.pop nowNs)) ∧
      (∀ candidate context buffer,
        SubmitSpec scheduler (scheduler.submit candidate context buffer).1 candidate
          (scheduler.submit candidate context buffer).2.result) ∧
      scheduler.stats.accepted + UInt64.ofNat final.staleAnswers =
        UInt64.ofNat scheduler.queue.length + UInt64.ofNat final.delivered +
          scheduler.stats.expired + scheduler.stats.evicted + scheduler.stats.stale := by
  intro final scheduler
  obtain ⟨invariant, ledger⟩ : RunInvariant final := runInvariant_run capacity policy calls
  refine ⟨invariant.slots, ?_, ?_, invariant.pop_spec, invariant.pop_buffered,
    fun candidate context buffer => (invariant.submit candidate context buffer).2.1, ?_⟩
  · intro candidate current room
    obtain ⟨prepared, -⟩ := invariant.releaseBorrowed.prepare candidate (by simpa using current)
    exact prepared.freeSlots_ne_nil (by simp) (by simpa using room)
  · intro queued member
    obtain ⟨slot, inside, rfl⟩ := List.mem_map.mp member
    exact invariant.current slot inside
  · simp only [account] at ledger
    simp only [queue, List.length_map]
    grind

private def sampleCondition (sequence generation deadlineNs : UInt64) : ConditionMessage :=
  { envelope := { kind := .condition, structSize := 120, sequence := sequence }
    metadata :=
      { structSize := 88, protocolVersion := protocolVersion, generation := generation,
        deadlineNs := deadlineNs, solverSteps := 1, remainingNfe := 1 } }

/-- A message without deadline, and one with the largest deadline. -/
private def tiedRun : Run :=
  run 2 {} [.submit (sampleCondition 1 0 0) {} false,
    .submit (sampleCondition 2 0 maxWord) {} false]

/-- A message, and one of a newer generation. -/
private def supersededRun : Run :=
  run 2 {} [.submit (sampleCondition 1 0 0) {} false, .submit (sampleCondition 2 1 0) {} false]

/-- At the largest time `pop` leaves an expired message behind one without deadline, and a
newer generation takes an accepted message out of the four counts. -/
theorem edfScheduler_queue_fails :
    ((tiedRun.scheduler.pop maxWord).2.message = some (sampleCondition 1 0 0) ∧
        sampleCondition 2 0 maxWord ∈ (tiedRun.scheduler.pop maxWord).1.queue ∧
        expiredAt maxWord (sampleCondition 2 0 maxWord) = true) ∧
      supersededRun.scheduler.stats.accepted ≠
        UInt64.ofNat supersededRun.scheduler.queue.length +
          UInt64.ofNat supersededRun.delivered + supersededRun.scheduler.stats.expired +
          supersededRun.scheduler.stats.evicted := by
  decide +kernel

end EdfScheduler

end FlowEdge
