import Mathlib.Data.List.Basic

/-!
# Streaming

A computation on whole sequences that can be done one item after the other, from a state that
stands for the items before. A state need not be determined by them: `Behind` says which states
stand for which items. Such computations can be stacked, each on the outputs of the one before.
-/

namespace FlowEdge

variable {α β γ σ ι : Type*}

/-- `step` at a position gives the row that `whole` gives there, from a state that stands for the
items before it. -/
structure Streams (whole : List α → List β) (step : Nat → α → σ → β × σ)
    (Behind : List α → σ → Prop) : Prop where
  length : ∀ items, (whole items).length = items.length
  output : ∀ items item state, Behind items state →
    whole (items ++ [item]) = whole items ++ [(step items.length item state).1]
  next : ∀ items item state, Behind items state →
    Behind (items ++ [item]) (step items.length item state).2

/-- The outputs for one item after the other, the first at a given position, and the state behind
them. -/
def feed (step : Nat → α → σ → β × σ) : Nat → List α → σ → List β × σ
  | _, [], state => ([], state)
  | position, item :: items, state =>
      let here := step position item state
      let rest := feed step (position + 1) items here.2
      (here.1 :: rest.1, rest.2)

section Feed

variable (step : Nat → α → σ → β × σ) (position : Nat) (items : List α) (item : α) (state : σ)

theorem feed_concat :
    feed step position (items ++ [item]) state =
      let before := feed step position items state
      let here := step (position + items.length) item before.2
      (before.1 ++ [here.1], here.2) := by
  induction items generalizing position state with
  | nil => rfl
  | cons first rest ih =>
      rw [List.cons_append, feed, ih, Nat.add_right_comm]
      rfl

theorem length_feed : (feed step position items state).1.length = items.length := by
  induction items generalizing position state with
  | nil => rfl
  | cons first rest ih => exact congrArg (· + 1) (ih _ _)

end Feed

/-- An item through computations that are stacked, each with a state of its own. -/
def through (step : ι → α → σ → α × σ) : List ι → α → List σ → α × List σ
  | layer :: layers, item, state :: states =>
      let here := step layer item state
      let rest := through step layers here.1 states
      (rest.1, here.2 :: rest.2)
  | _, item, states => (item, states)

/-- The states of computations that are stacked. -/
def Stacked (whole : ι → List α → List α) (Behind : ι → List α → σ → Prop) :
    List ι → List α → List σ → Prop
  | [], _, states => states = []
  | layer :: layers, items, states => ∃ state rest, states = state :: rest ∧
      Behind layer items state ∧ Stacked whole Behind layers (whole layer items) rest

namespace Streams

variable {whole : List α → List β} {step : Nat → α → σ → β × σ} {Behind : List α → σ → Prop}
  {items : List α} {state : σ}

/-- A run from a state that stands for some items continues the outputs for them. -/
theorem run (streams : Streams whole step Behind) (behind : Behind items state) (more : List α) :
    whole (items ++ more) = whole items ++ (feed step items.length more state).1 ∧
      Behind (items ++ more) (feed step items.length more state).2 := by
  induction more generalizing items state with
  | nil =>
      rw [List.append_nil]
      exact ⟨(List.append_nil _).symm, behind⟩
  | cons item more ih =>
      obtain ⟨outputs, after⟩ := ih (streams.next items item state behind)
      rw [streams.output items item state behind, List.append_assoc, List.append_assoc] at outputs
      rw [List.append_assoc] at after
      rw [List.length_append] at outputs after
      exact ⟨outputs, after⟩

/-- A run from a state that stands for nothing gives the outputs of the whole computation. -/
theorem run_nil (streams : Streams whole step Behind) (behind : Behind [] state)
    (items : List α) : whole items = (feed step 0 items state).1 := by
  have outputs := (streams.run behind items).1
  rw [List.eq_nil_of_length_eq_zero (streams.length [])] at outputs
  exact outputs

/-- What was given out does not depend on the items that come later. -/
theorem causal (streams : Streams whole step Behind) (behind : Behind [] state)
    (items more : List α) : whole items <+: whole (items ++ more) := by
  have after : Behind items _ := (streams.run behind items).2
  rw [(streams.run after more).1]
  exact List.prefix_append _ _

/-- The outputs are changed one by one. -/
theorem map (streams : Streams whole step Behind) (f : β → γ) :
    Streams (fun items => (whole items).map f)
      (fun position item state => (f (step position item state).1, (step position item state).2))
      Behind where
  length items := by rw [List.length_map, streams.length]
  output items item state behind := by
    rw [streams.output items item state behind, List.map_append, List.map_singleton]
  next := streams.next

/-- The items are changed one by one, each by its position. -/
theorem comap (streams : Streams whole step Behind) (f : Nat → γ → α) :
    Streams (fun items => whole (items.mapIdx f))
      (fun position item => step position (f position item))
      (fun items => Behind (items.mapIdx f)) where
  length items := by rw [streams.length, List.length_mapIdx]
  output items item state behind := by
    rw [List.mapIdx_concat, streams.output _ _ state behind, List.length_mapIdx]
  next items item state behind := by
    have after := streams.next _ (f items.length item) state behind
    rwa [List.length_mapIdx, ← List.mapIdx_concat] at after

/-- Computations that stream can be stacked. -/
theorem stack {whole : ι → List α → List α} {step : ι → Nat → α → σ → α × σ}
    {Behind : ι → List α → σ → Prop}
    (each : ∀ layer, Streams (whole layer) (step layer) (Behind layer)) (layers : List ι) :
    Streams (fun items => layers.foldl (fun items layer => whole layer items) items)
      (fun position => through (fun layer => step layer position) layers)
      (Stacked whole Behind layers) := by
  induction layers with
  | nil =>
      refine { length := fun _ => rfl, output := fun _ _ _ _ => rfl, next := ?_ }
      intro _ _ _ behind
      exact behind
  | cons layer layers ih =>
      refine { length := fun items => ?_, output := ?_, next := ?_ }
      · rw [List.foldl_cons, ih.length, (each layer).length]
      · rintro items item _ ⟨state, rest, rfl, behind, above⟩
        have here := (each layer).output items item state behind
        have later := ih.output _ (step layer items.length item state).1 rest above
        rw [← here, (each layer).length] at later
        exact later
      · rintro items item _ ⟨state, rest, rfl, behind, above⟩
        have here := (each layer).output items item state behind
        have later := ih.next _ (step layer items.length item state).1 rest above
        rw [← here, (each layer).length] at later
        exact ⟨_, _, rfl, (each layer).next items item state behind, later⟩

end Streams

end FlowEdge
