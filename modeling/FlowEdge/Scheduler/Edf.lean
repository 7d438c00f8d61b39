import Mathlib.Data.List.Sort
import FlowEdge.Foundation.BinaryHeap
import FlowEdge.Protocol.Messages

/-!
# The earliest-deadline-first scheduler

`EdfScheduler` keeps conditions in a fixed storage array and orders their slots in a
binary heap. A slot is in the heap, free, or lent to the caller of `pop`.
-/

namespace FlowEdge

open Words BinaryHeap

/-- What `submit` reports. -/
inductive SubmitResult where
  | accepted
  | acceptedAndEvicted
  | stale
  | deadlineUnreachable
  | invalid
  | full
  deriving DecidableEq

/-- How long an evaluation takes, and the time to spare. -/
structure AdmissionPolicy where
  nanosecondsPerNfe : UInt64 := 0
  reserveNs : UInt64 := 0
  deriving DecidableEq

structure ActiveLane where
  generation : UInt64 := 0
  remainingNfe : UInt64 := 0
  deriving DecidableEq

def maxWorkers : Nat := 8

/-- What the caller of `submit` reports about the lanes. Entries that are not given are
zero, as in the fixed array of the source. -/
structure AdmissionContext where
  nowNs : UInt64 := 0
  workerCount : Nat := 1
  active : List ActiveLane := []
  deriving DecidableEq

/-- The counters of the scheduler. -/
structure SchedulerStats where
  accepted : UInt64 := 0
  stale : UInt64 := 0
  unreachable : UInt64 := 0
  expired : UInt64 := 0
  evicted : UInt64 := 0
  full : UInt64 := 0
  deriving DecidableEq

/-- The deadline as a sort key. No deadline counts as the largest word. -/
def deadlineKey (message : ConditionMessage) : UInt64 :=
  if message.metadata.deadlineNs = 0 then maxWord else message.metadata.deadlineNs

/-- `left` comes after `right`: it has a later deadline, an older generation or a later number. -/
def later (left right : ConditionMessage) : Bool :=
  if deadlineKey left ≠ deadlineKey right then
    deadlineKey left > deadlineKey right
  else if left.metadata.generation ≠ right.metadata.generation then
    left.metadata.generation < right.metadata.generation
  else
    left.envelope.sequence > right.envelope.sequence

def earlier (left right : ConditionMessage) : Bool := later right left

/-- The deadline has passed at `nowNs`. -/
def expiredAt (nowNs : UInt64) (message : ConditionMessage) : Bool :=
  message.metadata.deadlineNs ≠ 0 ∧ message.metadata.deadlineNs ≤ nowNs

/-- The queue: messages in slots, and a heap of slots with the earliest on top. -/
structure EdfScheduler where
  capacity : Nat
  newestGeneration : UInt64 := 0
  admission : AdmissionPolicy := {}
  storage : List ConditionMessage
  heap : List Nat := []
  freeSlots : List Nat
  borrowed : Option Nat := none
  stats : SchedulerStats := {}
  deriving DecidableEq

namespace EdfScheduler

/-- An empty queue has at least one slot. -/
def create (capacity : Nat) (policy : AdmissionPolicy) : EdfScheduler where
  capacity := max capacity 1
  admission := policy
  storage := List.replicate (max capacity 1) {}
  freeSlots := (List.range (max capacity 1)).reverse

/-- The message stored in a slot. -/
def message (scheduler : EdfScheduler) (slot : Nat) : ConditionMessage :=
  scheduler.storage.getD slot {}

def laterSlot (scheduler : EdfScheduler) (left right : Nat) : Bool :=
  later (scheduler.message left) (scheduler.message right)

def earlierSlot (scheduler : EdfScheduler) (left right : Nat) : Bool :=
  earlier (scheduler.message left) (scheduler.message right)

/-- The latest queued slot, the first of them if several are equally late. -/
def worst (scheduler : EdfScheduler) : Option Nat :=
  maxElement scheduler.earlierSlot scheduler.heap

/-! ## Admission -/

/-- The first lane with the least time. -/
def minLane : List UInt64 → Option Nat
  | [] => none
  | first :: rest =>
      match minLane rest with
      | none => some 0
      | some lane => if rest.getD lane 0 < first then some (lane + 1) else some 0

/-- The loop of `admissible` over the sorted jobs: put each on the lane that is available
first and check its deadline. -/
def scheduleFits (policy : AdmissionPolicy) : List UInt64 → List ConditionMessage → Bool
  | _, [] => true
  | availableAt, job :: rest =>
      match minLane availableAt with
      | none => false
      | some lane =>
          let start := availableAt.getD lane 0
          let duration := saturatingMultiply job.metadata.remainingNfe policy.nanosecondsPerNfe
          if start > job.metadata.deadlineNs ∨ duration > job.metadata.deadlineNs - start then
            false
          else if policy.reserveNs > job.metadata.deadlineNs - (start + duration) then
            false
          else
            scheduleFits policy (availableAt.set lane (start + duration)) rest

/-- When a lane can take the next job. A lane that runs an older generation counts as
available, since the new message cancels that work. -/
def laneAvailableAt (policy : AdmissionPolicy) (context : AdmissionContext)
    (candidate : ConditionMessage) (lane : Nat) : UInt64 :=
  let active := context.active.getD lane {}
  if active.remainingNfe = 0 ∨ active.generation < candidate.metadata.generation then
    context.nowNs
  else
    saturatingAdd context.nowNs
      (saturatingMultiply active.remainingNfe policy.nanosecondsPerNfe)

/-- The slot that the candidate would push out of a full queue. -/
def displaced (scheduler : EdfScheduler) (candidate : ConditionMessage) : Option Nat :=
  if scheduler.heap.length ≥ scheduler.capacity then
    match scheduler.worst with
    | some slot => if earlier candidate (scheduler.message slot) then some slot else none
    | none => none
  else none

/-- The jobs whose deadlines admission checks, in no particular order. -/
def admissionJobs (scheduler : EdfScheduler) (candidate : ConditionMessage) :
    List ConditionMessage :=
  candidate :: ((scheduler.heap.filter fun slot =>
    scheduler.displaced candidate ≠ some slot ∧
      (scheduler.message slot).metadata.generation ≥ candidate.metadata.generation ∧
      (scheduler.message slot).metadata.deadlineNs ≠ 0).map scheduler.message)

def sortEarlier (jobs : List ConditionMessage) : List ConditionMessage :=
  jobs.insertionSort fun left right => later left right = false

/-- Whether a simulated schedule with the candidate meets all deadlines. -/
def admissible (scheduler : EdfScheduler) (candidate : ConditionMessage)
    (context : AdmissionContext) : Bool :=
  if scheduler.admission.nanosecondsPerNfe = 0 ∨ context.nowNs = 0 ∨
      candidate.metadata.deadlineNs = 0 then
    true
  else if candidate.metadata.deadlineNs ≤ context.nowNs then
    false
  else
    let workerCount := max 1 (min context.workerCount maxWorkers)
    scheduleFits scheduler.admission
      ((List.range workerCount).map (laneAvailableAt scheduler.admission context candidate))
      (sortEarlier (scheduler.admissionJobs candidate))

/-! ## Operations -/

def rebuild (scheduler : EdfScheduler) : EdfScheduler :=
  { scheduler with heap := makeHeap scheduler.laterSlot scheduler.heap }

/-- Store a message in a slot. The source copies the wire part of the message, which is all
that a reader of the slot looks at. -/
def copyInto (scheduler : EdfScheduler) (slot : Nat) (message : ConditionMessage) :
    EdfScheduler :=
  { scheduler with storage := scheduler.storage.set slot message }

/-- The slot that was lent to the caller is free again. -/
def releaseBorrowed (scheduler : EdfScheduler) : EdfScheduler :=
  match scheduler.borrowed with
  | some slot =>
      { scheduler with freeSlots := scheduler.freeSlots ++ [slot], borrowed := none }
  | none => scheduler

/-- Raise the newest generation and drop the queued messages of older ones. -/
def supersede (scheduler : EdfScheduler) (generation : UInt64) : EdfScheduler :=
  let old := scheduler.heap.filter fun slot =>
    (scheduler.message slot).metadata.generation < generation
  let kept := scheduler.heap.filter fun slot =>
    ¬ (scheduler.message slot).metadata.generation < generation
  rebuild
    { scheduler with
      newestGeneration := generation
      heap := kept
      freeSlots := scheduler.freeSlots ++ old
      stats := { scheduler.stats with
        stale := scheduler.stats.stale +
          UInt64.ofNat (scheduler.heap.length - kept.length) } }

/-- The scheduler that `submit` looks for room in: nothing lent out, and nothing older than
the candidate queued. -/
def prepare (scheduler : EdfScheduler) (candidate : ConditionMessage) : EdfScheduler :=
  if candidate.metadata.generation > scheduler.newestGeneration then
    scheduler.supersede candidate.metadata.generation
  else scheduler

/-- Queue a message in the free slot on top. `back` of an empty vector is undefined in the
source; the slot past the storage stands for it. -/
def enqueue (scheduler : EdfScheduler) (candidate : ConditionMessage) : EdfScheduler :=
  let slot := scheduler.freeSlots.getLastD scheduler.capacity
  let stored := { scheduler with freeSlots := scheduler.freeSlots.dropLast }.copyInto slot candidate
  { stored with
    heap := pushHeap stored.laterSlot (stored.heap ++ [slot])
    stats := { stored.stats with accepted := stored.stats.accepted + 1 } }

/-- Replace the message in a queued slot. -/
def replace (scheduler : EdfScheduler) (slot : Nat) (candidate : ConditionMessage) :
    EdfScheduler :=
  let rebuilt := (scheduler.copyInto slot candidate).rebuild
  { rebuilt with
    stats := { rebuilt.stats with
      accepted := rebuilt.stats.accepted + 1, evicted := rebuilt.stats.evicted + 1 } }

/-- What `submit` reports: its result and, if the caller gave a buffer, the action that
answers an evicted message. -/
structure Submitted where
  result : SubmitResult
  displaced : Option ActionMessage := none
  deriving DecidableEq

/-- `EdfScheduler::submit`, with its checks in order. -/
def submit (scheduler : EdfScheduler) (candidate : ConditionMessage)
    (context : AdmissionContext := {}) (buffer : Bool := false) : EdfScheduler × Submitted :=
  let released := scheduler.releaseBorrowed
  if candidate.validate ≠ .success then
    (released, { result := .invalid })
  else if candidate.metadata.generation < released.newestGeneration then
    ({ released with stats := { released.stats with stale := released.stats.stale + 1 } },
      { result := .stale })
  else if released.admissible candidate context = false then
    ({ released with stats := { released.stats with
        unreachable := released.stats.unreachable + 1 } },
      { result := .deadlineUnreachable })
  else
    let prepared := released.prepare candidate
    if prepared.heap.length < prepared.capacity then
      (prepared.enqueue candidate, { result := .accepted })
    else
      match prepared.worst with
      | some slot =>
          if earlier candidate (prepared.message slot) then
            (prepared.replace slot candidate,
              { result := .acceptedAndEvicted
                displaced := if buffer then
                    some (makeRejectedAction (prepared.message slot) context.nowNs
                      .rejectedCapacity)
                  else none })
          else
            ({ prepared with stats := { prepared.stats with full := prepared.stats.full + 1 } },
              { result := .full })
      | none =>
          ({ prepared with stats := { prepared.stats with full := prepared.stats.full + 1 } },
            { result := .full })

/-- What `pop` reports: the message lent to the caller, or the action that answers an
expired message. -/
structure Popped where
  message : Option ConditionMessage := none
  rejection : Option ActionMessage := none
  deriving DecidableEq

/-- Give a slot back to the free list. -/
def free (scheduler : EdfScheduler) (slot : Nat) : EdfScheduler :=
  { scheduler with freeSlots := scheduler.freeSlots ++ [slot] }

/-- The loop of `pop`, with one unit of fuel for each queued message. -/
def popLoop (nowNs : UInt64) (buffer : Bool) : Nat → EdfScheduler → EdfScheduler × Popped
  | 0, scheduler => (scheduler, {})
  | fuel + 1, scheduler =>
      let popped := popHeap scheduler.laterSlot scheduler.heap
      match popped.getLast? with
      | none => (scheduler, {})
      | some slot =>
          let rest := { scheduler with heap := popped.dropLast }
          let message := rest.message slot
          if message.metadata.generation < rest.newestGeneration then
            popLoop nowNs buffer fuel
              { rest.free slot with stats := { rest.stats with stale := rest.stats.stale + 1 } }
          else if expiredAt nowNs message then
            let dropped :=
              { rest.free slot with stats := { rest.stats with
                expired := rest.stats.expired + 1 } }
            if buffer then
              (dropped, { rejection := some (makeRejectedAction message nowNs .expired) })
            else
              popLoop nowNs buffer fuel dropped
          else
            ({ rest with borrowed := some slot }, { message := some message })

/-- `EdfScheduler::pop`. Stale and late messages are dropped on the way. -/
def pop (scheduler : EdfScheduler) (nowNs : UInt64) (buffer : Bool := false) :
    EdfScheduler × Popped :=
  let released := scheduler.releaseBorrowed
  popLoop nowNs buffer released.heap.length released

end EdfScheduler

end FlowEdge
