import Mathlib.Data.List.GetD
import FlowEdge.Scheduler.Edf

/-!
# The scheduler as a bounded priority queue

The slots of an `EdfScheduler` are split between the heap, the free list and the
message lent to the caller, the heap is in order and every queued message is of the
newest generation. Each operation keeps this and acts on the list of queued messages
as the operation of a bounded queue ordered by `later` does.
-/

namespace FlowEdge

open Words BinaryHeap

/-! ## The order of messages -/

theorem later_iff (left right : ConditionMessage) :
    later left right = true ↔
      (deadlineKey right).toNat < (deadlineKey left).toNat ∨
        (deadlineKey left).toNat = (deadlineKey right).toNat ∧
          (left.metadata.generation.toNat < right.metadata.generation.toNat ∨
            left.metadata.generation.toNat = right.metadata.generation.toNat ∧
              right.envelope.sequence.toNat < left.envelope.sequence.toNat) := by
  unfold later
  simp only [ne_eq, ← UInt64.toNat_inj, gt_iff_lt, UInt64.lt_iff_toNat_lt]
  split
  · simp only [decide_eq_true_eq]
    omega
  · split <;> simp only [decide_eq_true_eq] <;> omega

theorem later_false_iff (left right : ConditionMessage) :
    later left right = false ↔
      (deadlineKey left).toNat < (deadlineKey right).toNat ∨
        (deadlineKey left).toNat = (deadlineKey right).toNat ∧
          (right.metadata.generation.toNat < left.metadata.generation.toNat ∨
            left.metadata.generation.toNat = right.metadata.generation.toNat ∧
              left.envelope.sequence.toNat ≤ right.envelope.sequence.toNat) := by
  rw [← Bool.not_eq_true, later_iff]
  omega

theorem strictWeak_later : StrictWeak later where
  asymm := by
    intro first second before
    rw [later_iff] at before
    rw [later_false_iff]
    omega
  negTrans := by
    intro first second third left right
    rw [later_false_iff] at left right ⊢
    omega

/-- An expired message comes before every message that has not expired, except that a
deadline of `2 ^ 64 - 1` ties with no deadline. -/
theorem later_of_expired {nowNs : UInt64} {old fresh : ConditionMessage}
    (expired : expiredAt nowNs old = true) (alive : expiredAt nowNs fresh = false)
    (bounded : nowNs ≠ maxWord) : later fresh old = true := by
  have oldKey : (deadlineKey old).toNat ≤ nowNs.toNat := by
    simp only [expiredAt, decide_eq_true_eq] at expired
    rw [deadlineKey, if_neg expired.1, ← UInt64.le_iff_toNat_le]
    exact expired.2
  have freshKey : nowNs.toNat < (deadlineKey fresh).toNat := by
    have top := toNat_le_maxWord nowNs
    have different : nowNs.toNat ≠ 2 ^ 64 - 1 := fun same =>
      bounded (UInt64.toNat_inj.mp same)
    unfold deadlineKey
    split
    · rw [toNat_maxWord]
      omega
    · next present =>
        simp only [expiredAt, decide_eq_false_iff_not, not_and, UInt64.not_le] at alive
        rw [← UInt64.lt_iff_toNat_lt]
        exact alive present
  rw [later_iff]
  omega

namespace EdfScheduler

theorem strictWeak_laterSlot (scheduler : EdfScheduler) : StrictWeak scheduler.laterSlot where
  asymm := strictWeak_later.asymm
  negTrans := strictWeak_later.negTrans

theorem strictWeak_earlierSlot (scheduler : EdfScheduler) :
    StrictWeak scheduler.earlierSlot where
  asymm := strictWeak_later.asymm
  negTrans := fun left right => strictWeak_later.negTrans right left

/-! ## The queue and the invariant -/

/-- The queued messages, in heap order. -/
def queue (scheduler : EdfScheduler) : List ConditionMessage :=
  scheduler.heap.map scheduler.message

/-- The invariant of the scheduler between its calls. -/
structure Invariant (scheduler : EdfScheduler) : Prop where
  positive : 0 < scheduler.capacity
  storage : scheduler.storage.length = scheduler.capacity
  slots : (scheduler.heap ++ scheduler.freeSlots ++ scheduler.borrowed.toList).Perm
    (List.range scheduler.capacity)
  current : ∀ slot ∈ scheduler.heap,
    (scheduler.message slot).metadata.generation = scheduler.newestGeneration
  ordered : IsHeap scheduler.laterSlot scheduler.heap

namespace Invariant

variable {scheduler : EdfScheduler}

theorem nodup (invariant : scheduler.Invariant) :
    (scheduler.heap ++ scheduler.freeSlots ++ scheduler.borrowed.toList).Nodup :=
  invariant.slots.nodup_iff.mpr List.nodup_range

theorem heap_nodup (invariant : scheduler.Invariant) : scheduler.heap.Nodup :=
  invariant.nodup.of_append_left.of_append_left

theorem heap_lt (invariant : scheduler.Invariant) {slot : Nat} (member : slot ∈ scheduler.heap) :
    slot < scheduler.capacity := by
  refine List.mem_range.mp (invariant.slots.subset ?_)
  exact List.mem_append_left _ (List.mem_append_left _ member)

theorem free_lt (invariant : scheduler.Invariant) {slot : Nat}
    (member : slot ∈ scheduler.freeSlots) : slot < scheduler.capacity := by
  refine List.mem_range.mp (invariant.slots.subset ?_)
  exact List.mem_append_left _ (List.mem_append_right _ member)

theorem free_not_queued (invariant : scheduler.Invariant) {slot : Nat}
    (member : slot ∈ scheduler.freeSlots) : slot ∉ scheduler.heap :=
  fun queued => List.disjoint_of_nodup_append invariant.nodup.of_append_left queued member

theorem count (invariant : scheduler.Invariant) :
    scheduler.heap.length + scheduler.freeSlots.length + scheduler.borrowed.toList.length =
      scheduler.capacity := by
  have length := invariant.slots.length_eq
  simpa only [List.length_append, List.length_range] using length

end Invariant

theorem invariant_create (capacity : Nat) (policy : AdmissionPolicy) :
    (create capacity policy).Invariant where
  positive := by simp [create]
  storage := by simp [create]
  slots := by simp [create]
  current := by simp [create]
  ordered := by
    intro child _ _ high low highAt
    simp [create] at highAt

/-! ## Storing a message -/

theorem message_copyInto_same {scheduler : EdfScheduler} {slot : Nat}
    (inside : slot < scheduler.storage.length) (candidate : ConditionMessage) :
    (scheduler.copyInto slot candidate).message slot = candidate := by
  simp [message, copyInto, inside]

theorem message_copyInto_other (scheduler : EdfScheduler) {slot other : Nat}
    (different : other ≠ slot) (candidate : ConditionMessage) :
    (scheduler.copyInto slot candidate).message other = scheduler.message other := by
  simp [message, copyInto, List.getD_eq_getElem?_getD, Ne.symm different]

/-! ## Small steps of the operations -/

section Steps

variable {scheduler : EdfScheduler}

@[simp] theorem releaseBorrowed_heap :
    scheduler.releaseBorrowed.heap = scheduler.heap := by
  unfold releaseBorrowed
  split <;> rfl

@[simp] theorem releaseBorrowed_storage :
    scheduler.releaseBorrowed.storage = scheduler.storage := by
  unfold releaseBorrowed
  split <;> rfl

@[simp] theorem releaseBorrowed_capacity :
    scheduler.releaseBorrowed.capacity = scheduler.capacity := by
  unfold releaseBorrowed
  split <;> rfl

@[simp] theorem releaseBorrowed_newestGeneration (scheduler : EdfScheduler) :
    scheduler.releaseBorrowed.newestGeneration = scheduler.newestGeneration := by
  unfold releaseBorrowed
  split <;> rfl

@[simp] theorem releaseBorrowed_stats :
    scheduler.releaseBorrowed.stats = scheduler.stats := by
  unfold releaseBorrowed
  split <;> rfl

@[simp] theorem releaseBorrowed_borrowed :
    scheduler.releaseBorrowed.borrowed = none := by
  unfold releaseBorrowed
  split
  · rfl
  · next absent => exact absent

@[simp] theorem releaseBorrowed_message (slot : Nat) :
    scheduler.releaseBorrowed.message slot = scheduler.message slot := by
  simp [message]

@[simp] theorem releaseBorrowed_queue (scheduler : EdfScheduler) :
    scheduler.releaseBorrowed.queue = scheduler.queue := by
  simp [queue, message]

theorem releaseBorrowed_laterSlot :
    scheduler.releaseBorrowed.laterSlot = scheduler.laterSlot := by
  funext left right
  simp [laterSlot]

theorem Invariant.releaseBorrowed (invariant : scheduler.Invariant) :
    scheduler.releaseBorrowed.Invariant where
  positive := by simpa using invariant.positive
  storage := by simpa using invariant.storage
  slots := by
    have slots := invariant.slots
    rw [releaseBorrowed_heap, releaseBorrowed_capacity, releaseBorrowed_borrowed]
    unfold EdfScheduler.releaseBorrowed
    split
    · next slot lent =>
        rw [lent] at slots
        simpa using slots
    · next absent =>
        rw [absent] at slots
        exact slots
  current := by simpa using invariant.current
  ordered := by
    rw [releaseBorrowed_laterSlot, releaseBorrowed_heap]
    exact invariant.ordered

/-- A newer generation empties the queue: everything queued is of the one before. -/
theorem Invariant.supersede_eq (invariant : scheduler.Invariant) {generation : UInt64}
    (newer : scheduler.newestGeneration < generation) :
    scheduler.supersede generation =
      { scheduler with
        newestGeneration := generation
        heap := []
        freeSlots := scheduler.freeSlots ++ scheduler.heap
        stats := { scheduler.stats with
          stale := scheduler.stats.stale + UInt64.ofNat scheduler.heap.length } } := by
  have old : ∀ slot ∈ scheduler.heap,
      (scheduler.message slot).metadata.generation < generation := by
    intro slot member
    rw [invariant.current slot member]
    exact newer
  have kept : (scheduler.heap.filter fun slot =>
      ¬ (scheduler.message slot).metadata.generation < generation) = [] := by
    rw [List.filter_eq_nil_iff]
    intro slot member
    simpa using old slot member
  have dropped : (scheduler.heap.filter fun slot =>
      (scheduler.message slot).metadata.generation < generation) = scheduler.heap := by
    rw [List.filter_eq_self]
    intro slot member
    simpa using old slot member
  unfold supersede rebuild
  simp only [kept, dropped]
  rfl

theorem Invariant.prepare (invariant : scheduler.Invariant) (candidate : ConditionMessage)
    (current : ¬ candidate.metadata.generation < scheduler.newestGeneration) :
    (scheduler.prepare candidate).Invariant ∧
      (scheduler.prepare candidate).newestGeneration = candidate.metadata.generation ∧
      (scheduler.prepare candidate).queue =
        scheduler.queue.filter fun queued =>
          ¬ queued.metadata.generation < candidate.metadata.generation := by
  unfold EdfScheduler.prepare
  split
  · next newer =>
      rw [invariant.supersede_eq newer]
      refine ⟨⟨invariant.positive, invariant.storage, ?_, by simp, ?_⟩, rfl, ?_⟩
      · refine List.Perm.trans ?_ invariant.slots
        simpa only [List.nil_append] using
          List.Perm.append_right _ List.perm_append_comm
      · intro child _ _ high low highAt
        simp at highAt
      · symm
        simp only [queue, List.map_nil, List.filter_eq_nil_iff, List.mem_map]
        rintro queued ⟨slot, member, rfl⟩
        rw [invariant.current slot member]
        simpa using newer
  · next notNewer =>
      have same : candidate.metadata.generation = scheduler.newestGeneration :=
        UInt64.le_antisymm (UInt64.not_lt.mp notNewer) (UInt64.not_lt.mp current)
      refine ⟨invariant, same.symm, ?_⟩
      symm
      rw [List.filter_eq_self]
      intro queued member
      obtain ⟨slot, inside, rfl⟩ := List.mem_map.mp member
      rw [invariant.current slot inside, same]
      simp

theorem prepare_of_queued (candidate : ConditionMessage) (invariant : scheduler.Invariant)
    (queued : (scheduler.prepare candidate).heap ≠ []) :
    scheduler.prepare candidate = scheduler := by
  unfold EdfScheduler.prepare at queued ⊢
  split at queued
  · next newer =>
      rw [invariant.supersede_eq newer] at queued
      exact absurd rfl queued
  · next notNewer => rw [if_neg notNewer]

@[simp] theorem prepare_capacity (candidate : ConditionMessage) :
    (scheduler.prepare candidate).capacity = scheduler.capacity := by
  unfold EdfScheduler.prepare
  split <;> rfl

@[simp] theorem prepare_borrowed (candidate : ConditionMessage) :
    (scheduler.prepare candidate).borrowed = scheduler.borrowed := by
  unfold EdfScheduler.prepare
  split <;> rfl

/-- There is a free slot whenever the queue is not full and nothing is lent out. -/
theorem Invariant.freeSlots_ne_nil (invariant : scheduler.Invariant)
    (returned : scheduler.borrowed = none) (room : scheduler.heap.length < scheduler.capacity) :
    scheduler.freeSlots ≠ [] := by
  intro empty
  have count := invariant.count
  rw [empty, returned] at count
  simp at count
  omega

theorem Invariant.enqueue (invariant : scheduler.Invariant) (candidate : ConditionMessage)
    (returned : scheduler.borrowed = none) (room : scheduler.heap.length < scheduler.capacity)
    (current : candidate.metadata.generation = scheduler.newestGeneration) :
    (scheduler.enqueue candidate).Invariant ∧
      (scheduler.enqueue candidate).queue.Perm (candidate :: scheduler.queue) := by
  obtain ⟨free, slot, split⟩ := List.eq_nil_or_concat scheduler.freeSlots |>.resolve_left
    (invariant.freeSlots_ne_nil returned room)
  rw [List.concat_eq_append] at split
  have member : slot ∈ scheduler.freeSlots := by rw [split]; simp
  have inside : slot < scheduler.storage.length := by
    rw [invariant.storage]
    exact invariant.free_lt member
  have absent := invariant.free_not_queued member
  have top : scheduler.freeSlots.getLastD scheduler.capacity = slot := by simp [split]
  have stored : ∀ other ∈ scheduler.heap,
      (scheduler.copyInto slot candidate).message other = scheduler.message other :=
    fun other queued => message_copyInto_other scheduler
      (fun same => absent (by rw [← same]; exact queued)) candidate
  have placed := message_copyInto_same inside candidate
  -- The heap before the insertion is in order for the new storage too.
  have ordered : IsHeap (scheduler.copyInto slot candidate).laterSlot scheduler.heap := by
    refine invariant.ordered.congr ?_
    intro left leftMember right rightMember
    simp only [laterSlot, stored left leftMember, stored right rightMember]
  have pushed : (pushHeap (scheduler.copyInto slot candidate).laterSlot
      (scheduler.heap ++ [slot])).Perm (slot :: scheduler.heap) :=
    (pushHeap_perm _ _).trans (List.perm_append_singleton slot scheduler.heap)
  have shape : scheduler.enqueue candidate =
      { scheduler.copyInto slot candidate with
        heap := pushHeap (scheduler.copyInto slot candidate).laterSlot (scheduler.heap ++ [slot])
        freeSlots := free
        stats := { scheduler.stats with accepted := scheduler.stats.accepted + 1 } } := by
    have remaining : scheduler.freeSlots.dropLast = free := by rw [split, List.dropLast_concat]
    unfold EdfScheduler.enqueue
    rw [top, remaining]
    rfl
  rw [shape]
  refine ⟨⟨invariant.positive, ?_, ?_, ?_, ?_⟩, ?_⟩
  · simpa [copyInto] using invariant.storage
  · refine List.Perm.trans ?_ invariant.slots
    refine List.Perm.append_right _ ?_
    refine (List.Perm.append_right free pushed).trans ?_
    rw [split, ← List.append_assoc]
    exact (List.perm_append_singleton slot (scheduler.heap ++ free)).symm
  · intro other queued
    rcases List.mem_cons.mp (pushed.subset queued) with rfl | old
    · exact (congrArg (·.metadata.generation) placed).trans current
    · exact (congrArg (·.metadata.generation) (stored other old)).trans
        (invariant.current other old)
  · exact pushHeap_isHeap (strictWeak_laterSlot _) ordered slot
  · refine (pushed.map (scheduler.copyInto slot candidate).message).trans ?_
    rw [List.map_cons, placed, List.map_congr_left stored]
    exact List.Perm.refl _

theorem rebuild_heap_perm (scheduler : EdfScheduler) : scheduler.rebuild.heap.Perm scheduler.heap :=
  makeHeap_perm _ _

theorem Invariant.replace (invariant : scheduler.Invariant) {slot : Nat}
    (candidate : ConditionMessage) (member : slot ∈ scheduler.heap)
    (current : candidate.metadata.generation = scheduler.newestGeneration) :
    (scheduler.replace slot candidate).Invariant ∧
      scheduler.queue.Perm
        (scheduler.message slot :: (scheduler.heap.erase slot).map scheduler.message) ∧
      (scheduler.replace slot candidate).queue.Perm
        (candidate :: (scheduler.heap.erase slot).map scheduler.message) := by
  have inside : slot < scheduler.storage.length := by
    rw [invariant.storage]
    exact invariant.heap_lt member
  have placed := message_copyInto_same inside candidate
  have heapPerm : (scheduler.replace slot candidate).heap.Perm scheduler.heap :=
    rebuild_heap_perm (scheduler.copyInto slot candidate)
  have front := List.perm_cons_erase member
  have others : ∀ other ∈ scheduler.heap.erase slot,
      (scheduler.copyInto slot candidate).message other = scheduler.message other := by
    intro other kept
    have different := (invariant.heap_nodup.mem_erase_iff.mp kept).1
    exact message_copyInto_other scheduler different candidate
  refine ⟨⟨invariant.positive, ?_, ?_, ?_, ?_⟩, front.map _, ?_⟩
  · simpa [EdfScheduler.replace, rebuild, copyInto] using invariant.storage
  · exact ((heapPerm.append_right _).append_right _).trans invariant.slots
  · intro other queued
    rcases List.mem_cons.mp ((heapPerm.trans front).subset queued) with rfl | old
    · exact (congrArg (·.metadata.generation) placed).trans current
    · exact (congrArg (·.metadata.generation) (others other old)).trans
        (invariant.current other (List.mem_of_mem_erase old))
  · exact makeHeap_isHeap (strictWeak_laterSlot (scheduler.copyInto slot candidate)) _
  · refine ((heapPerm.trans front).map (scheduler.copyInto slot candidate).message).trans ?_
    rw [List.map_cons, placed, List.map_congr_left others]

end Steps

/-! ## Taking the head of the heap -/

section Pop

variable {scheduler : EdfScheduler} {nowNs : UInt64}

/-- The scheduler after an expired head was dropped. -/
def dropHead (scheduler : EdfScheduler) (rest : List Nat) (slot : Nat) : EdfScheduler :=
  { scheduler with
    heap := rest
    freeSlots := scheduler.freeSlots ++ [slot]
    stats := { scheduler.stats with expired := scheduler.stats.expired + 1 } }

/-- The scheduler after the head was lent to the caller. -/
def lendHead (scheduler : EdfScheduler) (rest : List Nat) (slot : Nat) : EdfScheduler :=
  { scheduler with heap := rest, borrowed := some slot }

/-- The head that an iteration of `pop` takes off the heap. -/
structure Head (scheduler : EdfScheduler) (slot : Nat) (rest : List Nat) : Prop where
  heap : (slot :: rest).Perm scheduler.heap
  ordered : IsHeap scheduler.laterSlot rest
  first : ∀ queued ∈ scheduler.queue, later (scheduler.message slot) queued = false

theorem Head.queue {slot : Nat} {rest : List Nat} (head : Head scheduler slot rest) :
    scheduler.queue.Perm (scheduler.message slot :: rest.map scheduler.message) :=
  (head.heap.map scheduler.message).symm

/-- One iteration of `pop` on a queue that is not empty. Nothing queued is stale, so the
branch for older generations is not taken. -/
theorem Invariant.popLoop_succ (invariant : scheduler.Invariant) (nowNs : UInt64)
    (nonempty : scheduler.heap ≠ []) :
    ∃ slot rest, Head scheduler slot rest ∧ ∀ buffer fuel,
      popLoop nowNs buffer (fuel + 1) scheduler =
        if expiredAt nowNs (scheduler.message slot) then
          if buffer then
            (scheduler.dropHead rest slot,
              { rejection := some (makeRejectedAction (scheduler.message slot) nowNs .expired) })
          else
            popLoop nowNs buffer fuel (scheduler.dropHead rest slot)
        else
          (scheduler.lendHead rest slot, { message := some (scheduler.message slot) }) := by
  obtain ⟨rest, slot, popped, perm, ordered, first⟩ :=
    popHeap_spec (strictWeak_laterSlot scheduler) invariant.ordered nonempty
  refine ⟨slot, rest, ⟨perm, ordered, ?_⟩, ?_⟩
  · intro queued member
    obtain ⟨other, inside, rfl⟩ := List.mem_map.mp member
    exact first other inside
  · have current := invariant.current slot (perm.subset List.mem_cons_self)
    have fresh : ¬ (scheduler.message slot).metadata.generation < scheduler.newestGeneration := by
      rw [current]
      exact UInt64.lt_irrefl _
    intro buffer fuel
    rw [popLoop]
    simp only [popped, List.getLast?_append, List.getLast?_singleton, Option.some_or,
      List.dropLast_concat]
    exact if_neg fresh

theorem popLoop_nil (nowNs : UInt64) (buffer : Bool) (fuel : Nat) (empty : scheduler.heap = []) :
    popLoop nowNs buffer fuel scheduler = (scheduler, {}) := by
  cases fuel with
  | zero => rfl
  | succ fuel => simp [popLoop, empty, popHeap]

theorem Invariant.dropHead (invariant : scheduler.Invariant) {slot : Nat} {rest : List Nat}
    (head : Head scheduler slot rest) : (scheduler.dropHead rest slot).Invariant where
  positive := invariant.positive
  storage := invariant.storage
  slots := by
    refine List.Perm.trans ?_ invariant.slots
    refine List.Perm.append_right _ (List.Perm.trans ?_ (head.heap.append_right _))
    simp only [EdfScheduler.dropHead, ← List.append_assoc]
    exact List.perm_append_singleton slot (rest ++ scheduler.freeSlots)
  current := fun other member =>
    invariant.current other (head.heap.subset (List.mem_cons_of_mem slot member))
  ordered := head.ordered

theorem Invariant.lendHead (invariant : scheduler.Invariant) (returned : scheduler.borrowed = none)
    {slot : Nat} {rest : List Nat} (head : Head scheduler slot rest) :
    (scheduler.lendHead rest slot).Invariant where
  positive := invariant.positive
  storage := invariant.storage
  slots := by
    have slots := invariant.slots
    rw [returned] at slots
    refine List.Perm.trans ?_ slots
    simp only [EdfScheduler.lendHead, Option.toList_some, Option.toList_none, List.append_nil]
    refine List.Perm.trans ?_ (head.heap.append_right _)
    exact List.perm_append_singleton slot (rest ++ scheduler.freeSlots)
  current := fun other member =>
    invariant.current other (head.heap.subset (List.mem_cons_of_mem slot member))
  ordered := head.ordered

/-- What `pop` without a rejection buffer does when it delivers a message. -/
structure Delivered (nowNs : UInt64) (before after : EdfScheduler)
    (delivered : ConditionMessage) : Prop where
  alive : expiredAt nowNs delivered = false
  first : ∀ queued ∈ before.queue, expiredAt nowNs queued = false →
    later delivered queued = false
  removed : ∃ dropped, before.queue.Perm (delivered :: (dropped ++ after.queue)) ∧
    ∀ queued ∈ dropped, expiredAt nowNs queued = true
  remaining : nowNs ≠ maxWord → ∀ queued ∈ after.queue, expiredAt nowNs queued = false
  lent : ∃ slot, after.borrowed = some slot ∧ after.message slot = delivered

/-- What `pop` without a rejection buffer does. -/
def PopSpec (nowNs : UInt64) (before after : EdfScheduler) (popped : Popped) : Prop :=
  popped.rejection = none ∧
    match popped.message with
    | some delivered => Delivered nowNs before after delivered
    | none => (∀ queued ∈ before.queue, expiredAt nowNs queued = true) ∧ after.queue = []

theorem Invariant.popLoop_spec (invariant : scheduler.Invariant)
    (returned : scheduler.borrowed = none) (nowNs : UInt64) (fuel : Nat)
    (enough : scheduler.heap.length ≤ fuel) :
    (popLoop nowNs false fuel scheduler).1.Invariant ∧
      PopSpec nowNs scheduler (popLoop nowNs false fuel scheduler).1
        (popLoop nowNs false fuel scheduler).2 := by
  induction fuel generalizing scheduler with
  | zero =>
      have empty : scheduler.heap = [] := List.length_eq_zero_iff.mp (by omega)
      refine ⟨invariant, rfl, ?_, ?_⟩ <;> simp [popLoop, queue, empty]
  | succ fuel ih =>
      by_cases empty : scheduler.heap = []
      · rw [popLoop_nil nowNs false _ empty]
        refine ⟨invariant, rfl, ?_, ?_⟩ <;> simp [queue, empty]
      · obtain ⟨slot, rest, head, step⟩ := invariant.popLoop_succ nowNs empty
        have length : rest.length + 1 = scheduler.heap.length := head.heap.length_eq
        rw [step]
        split
        · next expired =>
            rw [if_neg (by simp)]
            obtain ⟨kept, unanswered, delivery⟩ :=
              ih (invariant.dropHead head) returned (show rest.length ≤ fuel by omega)
            refine ⟨kept, unanswered, ?_⟩
            have behind := head.queue
            split at delivery
            · next delivered found =>
                obtain ⟨alive, first, ⟨dropped, removed, gone⟩, remaining, lent⟩ := delivery
                refine ⟨alive, ?_, ⟨scheduler.message slot :: dropped, ?_, ?_⟩, remaining, lent⟩
                · intro queued member fresh
                  rcases List.mem_cons.mp (behind.subset member) with rfl | inside
                  · rw [expired] at fresh
                    cases fresh
                  · exact first queued inside fresh
                · refine behind.trans (List.Perm.trans (removed.cons _) ?_)
                  exact List.Perm.swap _ _ _
                · intro queued member
                  rcases List.mem_cons.mp member with rfl | inside
                  · exact expired
                  · exact gone queued inside
            · next absent =>
                refine ⟨?_, delivery.2⟩
                intro queued member
                rcases List.mem_cons.mp (behind.subset member) with rfl | inside
                · exact expired
                · exact delivery.1 queued inside
        · next alive =>
            rw [Bool.not_eq_true] at alive
            refine ⟨invariant.lendHead returned head, rfl, ?_⟩
            refine ⟨alive, fun queued member _ => head.first queued member,
              ⟨[], head.queue, by simp⟩, ?_, ⟨slot, rfl, rfl⟩⟩
            -- An expired message would come before the one delivered.
            intro bounded queued member
            by_contra expired
            rw [Bool.not_eq_false] at expired
            have behind := head.first queued
              (head.queue.symm.subset (List.mem_cons_of_mem _ member))
            rw [later_of_expired expired alive bounded] at behind
            cases behind

/-- What `pop` with a rejection buffer does: it takes the first message and either lends it
or reports it expired. -/
def BufferedPopSpec (nowNs : UInt64) (before after : EdfScheduler) (popped : Popped) : Prop :=
  (before.queue = [] ∧ after.queue = [] ∧ popped = {}) ∨
    ∃ first, before.queue.Perm (first :: after.queue) ∧
      (∀ queued ∈ before.queue, later first queued = false) ∧
      if expiredAt nowNs first then
        popped = { rejection := some (makeRejectedAction first nowNs .expired) }
      else
        popped = { message := some first } ∧
          ∃ slot, after.borrowed = some slot ∧ after.message slot = first

theorem Invariant.popLoop_buffered (invariant : scheduler.Invariant)
    (returned : scheduler.borrowed = none) (nowNs : UInt64) :
    (popLoop nowNs true scheduler.heap.length scheduler).1.Invariant ∧
      BufferedPopSpec nowNs scheduler (popLoop nowNs true scheduler.heap.length scheduler).1
        (popLoop nowNs true scheduler.heap.length scheduler).2 ∧
      ((popLoop nowNs true scheduler.heap.length scheduler).2.rejection = none →
        popLoop nowNs true scheduler.heap.length scheduler =
          popLoop nowNs false scheduler.heap.length scheduler) := by
  by_cases empty : scheduler.heap = []
  · rw [popLoop_nil nowNs true _ empty, popLoop_nil nowNs false _ empty]
    exact ⟨invariant, .inl ⟨by simp [queue, empty], by simp [queue, empty], rfl⟩, fun _ => rfl⟩
  · obtain ⟨fuel, length⟩ := Nat.exists_eq_succ_of_ne_zero
      (fun none => empty (List.length_eq_zero_iff.mp none))
    rw [length]
    obtain ⟨slot, rest, head, step⟩ := invariant.popLoop_succ nowNs empty
    rw [Nat.succ_eq_add_one, step, step]
    split
    · next expired =>
        rw [if_pos rfl]
        refine ⟨invariant.dropHead head, .inr ⟨_, head.queue, head.first, ?_⟩, by simp⟩
        rw [if_pos expired]
    · next alive =>
        refine ⟨invariant.lendHead returned head, .inr ⟨_, head.queue, head.first, ?_⟩, ?_⟩
        · rw [if_neg alive]
          exact ⟨rfl, slot, rfl, rfl⟩
        · exact fun _ => rfl

end Pop

end EdfScheduler

end FlowEdge
