import FlowEdge.Foundation.BestChoice
import FlowEdge.Protocol.Floats

/-!
# Choosing a plan within a deadline

A selector has a portfolio of execution plans and an estimate of the time that each takes. It
chooses the plan of the highest quality that is ready in time, by a single pass over the portfolio.
An observed time raises the estimate of its plan at once, and lowers it by at most an eighth.
-/

namespace FlowEdge

open Words

structure ExecutionPlan where
  id : UInt32
  steps : UInt32
  hardwareMask : UInt64 := 1
  latencyNs : UInt64
  memoryBytes : UInt64
  quality : FloatValue
  deriving DecidableEq

structure PlanContext where
  slackNs : UInt64
  bufferedActions : UInt64
  periodNs : UInt64
  reserveNs : UInt64
  switchNs : UInt64
  availableMemoryBytes : UInt64 := maxWord
  hardwareMask : UInt64 := 1
  minimumQuality : FloatValue
  healthy : Bool := true

inductive PlanError where
  | invalidPortfolio
  deriving DecidableEq

/-- A plan of a portfolio and the estimate of its time. -/
structure PlanEntry where
  plan : ExecutionPlan
  estimate : UInt64
  deriving DecidableEq

structure DeadlineFlow where
  entries : List PlanEntry := []
  last : Option UInt32 := none
  deriving DecidableEq

/-- A quality that is a number from zero to one. -/
def validQuality (quality : FloatValue) : Bool :=
  quality.isFinite ∧ ¬ quality.lt (.finite 0) ∧ ¬ FloatValue.lt (.finite 1) quality

def validPlan (plan : ExecutionPlan) : Bool :=
  plan.steps ≠ 0 ∧ plan.latencyNs ≠ 0 ∧ plan.hardwareMask ≠ 0 ∧ validQuality plan.quality

namespace DeadlineFlow

def kMaxPlans : Nat := 32

/-- One round of the loop of `create`. -/
def addPlan (result : DeadlineFlow) (plan : ExecutionPlan) : Except PlanError DeadlineFlow :=
  if ¬ validPlan plan then .error .invalidPortfolio
  else if result.entries.any (·.plan.id = plan.id) then .error .invalidPortfolio
  else .ok { result with entries := result.entries ++ [⟨plan, plan.latencyNs⟩] }

def create (plans : List ExecutionPlan) : Except PlanError DeadlineFlow :=
  if plans.isEmpty ∨ plans.length > kMaxPlans then .error .invalidPortfolio
  else plans.foldlM addPlan {}

def bufferNs (context : PlanContext) : UInt64 :=
  if context.periodNs ≠ 0 ∧ context.bufferedActions > maxWord / context.periodNs then maxWord
  else context.bufferedActions * context.periodNs

def budget (context : PlanContext) : UInt64 :=
  if context.bufferedActions = 0 then context.slackNs
  else min context.slackNs (bufferNs context)

section Select

variable (flow : DeadlineFlow) (context : PlanContext)

def switching (id : UInt32) : UInt64 :=
  match flow.last with
  | some last => if last ≠ id then context.switchNs else 0
  | none => 0

/-- One round of the loop of `select`, on the best entry so far and its cost. -/
def consider (state : Option PlanEntry × UInt64) (entry : PlanEntry) : Option PlanEntry × UInt64 :=
  let plan := entry.plan
  if plan.hardwareMask &&& context.hardwareMask ≠ plan.hardwareMask ∨
      plan.memoryBytes > context.availableMemoryBytes ∨
      plan.quality.lt context.minimumQuality then
    state
  else
    let switching := switching flow context plan.id
    let available := budget context - context.reserveNs
    if switching > available ∨ entry.estimate > available - switching then state
    else
      let cost := entry.estimate + switching
      match state.1 with
      | none => (some entry, cost)
      | some best =>
          if best.plan.quality.lt plan.quality ∨
              (plan.quality.same best.plan.quality ∧ cost < state.2) then
            (some entry, cost)
          else state

def select : Option UInt32 :=
  if ¬ context.healthy ∨ ¬ validQuality context.minimumQuality then none
  else if budget context ≤ context.reserveNs then none
  else (flow.entries.foldl (consider flow context) (none, maxWord)).1.map (·.plan.id)

end Select

/-- The loop of `observe`, which gives no entries if there is no plan of the given name. -/
def observeEntries (id : UInt32) (latencyNs : UInt64) : List PlanEntry → Option (List PlanEntry)
  | [] => none
  | entry :: rest =>
      if entry.plan.id ≠ id then (observeEntries id latencyNs rest).map (entry :: ·)
      else
        some ({ entry with
          estimate := max entry.plan.latencyNs
            (max latencyNs (entry.estimate - entry.estimate / 8)) } :: rest)

def observe (flow : DeadlineFlow) (id : UInt32) (latencyNs : UInt64) : Bool × DeadlineFlow :=
  if latencyNs = 0 then (false, flow)
  else
    match observeEntries id latencyNs flow.entries with
    | none => (false, flow)
    | some entries => (true, { entries, last := some id })

/-! ## Calls -/

inductive Call where
  | select (context : PlanContext)
  | observe (id : UInt32) (latencyNs : UInt64)

def call (flow : DeadlineFlow) : Call → DeadlineFlow
  | .select _ => flow
  | .observe id latencyNs => (flow.observe id latencyNs).2

def run (flow : DeadlineFlow) (calls : List Call) : DeadlineFlow := calls.foldl call flow

/-- The times that were observed of a plan, in order. -/
def observations (id : UInt32) (calls : List Call) : List UInt64 :=
  calls.filterMap fun
    | .select _ => none
    | .observe observed latencyNs => if observed = id ∧ latencyNs ≠ 0 then some latencyNs else none

/-- The plan of a portfolio that was observed last. -/
def lastObserved (plans : List ExecutionPlan) (calls : List Call) : Option UInt32 :=
  (calls.filterMap fun
    | .select _ => none
    | .observe observed latencyNs =>
        if latencyNs ≠ 0 ∧ plans.any (·.id = observed) then some observed else none).getLast?

end DeadlineFlow

end FlowEdge
