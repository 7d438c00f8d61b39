import Mathlib.Data.List.Chain
import Mathlib.Logic.Relation

/-!
# Programs that move along a step relation

A program with state is verified once for the steps it takes: `Follows` says that a run
leads from its first state to its last by steps of a system, and what holds at the end.
Every invariant of the steps then holds at every moment of all runs of all programs.
Assertions speak about the visible part of the state; what a program keeps beside it, such
as a schedule, does not matter.
-/

namespace StatePrograms

open Relation

theorem isChain_and {α : Type} {first second : α → α → Prop} {list : List α}
    (one : list.IsChain first) (two : list.IsChain second) :
    list.IsChain fun before after => first before after ∧ second before after := by
  rw [List.isChain_iff_getElem] at one two ⊢
  exact fun index bound => ⟨one index bound, two index bound⟩

/-- A step relation on the visible part of a state, with an invariant of the steps that
programs may rely on. The state records the visible parts that it went through. -/
structure System (σ ρ : Type) where
  view : σ → ρ
  past : σ → List ρ
  step : ρ → ρ → Prop
  good : ρ → Prop
  preserved : ∀ {before after}, step before after → good before → good after

namespace System

variable {σ ρ α β : Type} (system : System σ ρ)

/-- All moments of a run so far. -/
def moments (state : σ) : List ρ := system.past state ++ [system.view state]

/-- One recorded step. -/
def Move (before after : σ) : Prop :=
  system.step (system.view before) (system.view after) ∧
    system.past after = system.moments before

/-- Nothing visible changes. -/
def Silent (before after : σ) : Prop :=
  system.view after = system.view before ∧ system.past after = system.past before

/-- A sequence of recorded steps and changes that are not visible. -/
abbrev Path : σ → σ → Prop :=
  ReflTransGen fun before after => system.Move before after ∨ system.Silent before after

/-- A run from `first`: the invariant holds at every moment, and consecutive moments are
steps. -/
structure Traced (first : ρ) (state : σ) : Prop where
  starts : (system.moments state).head? = some first
  good : ∀ moment ∈ system.moments state, system.good moment
  steps : (system.moments state).IsChain fun before after =>
    system.good before ∧ system.step before after

/-- Every step keeps what holds. -/
abbrev Keeps (holds : ρ → Prop) : Prop :=
  ∀ {before after}, system.good before → system.step before after → holds before → holds after

theorem Traced.start (state : σ) (fresh : system.past state = [])
    (good : system.good (system.view state)) : system.Traced (system.view state) state := by
  have alone : system.moments state = [system.view state] := by rw [moments, fresh, List.nil_append]
  refine ⟨by rw [alone, List.head?_cons], ?_, alone ▸ List.isChain_singleton _⟩
  intro moment member
  rw [alone, List.mem_singleton] at member
  exact member ▸ good

namespace Traced

variable {system} {first : ρ} {before after state last : σ}

theorem move (traced : system.Traced first before)
    (move : system.Move before after) : system.Traced first after := by
  obtain ⟨step, recorded⟩ := move
  have extended : system.moments after = system.moments before ++ [system.view after] := by
    rw [moments, recorded]
  have now : system.good (system.view before) := traced.good _ List.mem_concat_self
  refine ⟨?_, ?_, ?_⟩
  · rw [extended, List.head?_append, traced.starts, Option.some_or]
  · intro moment member
    rw [extended, List.mem_append, List.mem_singleton] at member
    rcases member with earlier | rfl
    · exact traced.good moment earlier
    · exact system.preserved step now
  · rw [extended, List.isChain_append]
    refine ⟨traced.steps, List.isChain_singleton _, ?_⟩
    intro last isLast next isNext
    simp only [moments, List.getLast?_append, List.getLast?_singleton, Option.some_or,
      Option.mem_def, Option.some.injEq, List.head?_cons] at isLast isNext
    exact isLast ▸ isNext ▸ ⟨now, step⟩

theorem silent (traced : system.Traced first before)
    (silent : system.Silent before after) : system.Traced first after := by
  have equal : system.moments after = system.moments before := by
    rw [moments, moments, silent.1, silent.2]
  exact ⟨equal ▸ traced.starts, equal ▸ traced.good, equal ▸ traced.steps⟩

variable (traced : system.Traced first state)
include traced

theorem now : system.good (system.view state) := traced.good _ List.mem_concat_self

theorem path (path : system.Path state last) : system.Traced first last := by
  induction path with
  | refl => exact traced
  | tail _ step ih =>
      rcases step with move | silent
      · exact ih.move move
      · exact ih.silent silent

/-- What holds at one moment and is kept by every step of a stretch of a run holds throughout
the stretch. The steps may be known to be restricted further. -/
theorem invariantWithin {earlier during later : List ρ} {now : ρ}
    (split : system.moments state = earlier ++ (now :: during ++ later)) {also : ρ → ρ → Prop}
    (restricted : (now :: during).IsChain also) (holds : ρ → Prop) (start : holds now)
    (kept : ∀ {before after}, system.good before → system.step before after →
      also before after → holds before → holds after) :
    ∀ moment ∈ now :: during, holds moment := by
  have steps := traced.steps
  rw [split] at steps
  refine (isChain_and steps.right_of_append.left_of_append restricted).induction holds _ ?_
    fun _ => start
  exact fun _ _ step => kept step.1.1 step.1.2 step.2

/-- What holds at one moment and is kept by every step holds at every later moment. -/
theorem invariantFrom {earlier later : List ρ} {now : ρ}
    (split : system.moments state = earlier ++ now :: later) (holds : ρ → Prop) (start : holds now)
    (kept : system.Keeps holds) : ∀ moment ∈ now :: later, holds moment := by
  have steps := traced.steps
  rw [split] at steps
  refine traced.invariantWithin (split.trans (by rw [List.append_nil])) steps.right_of_append holds
    start ?_
  exact fun good step _ => kept good step

/-- What holds at the start and is kept by every step holds at every moment. -/
theorem invariant (holds : ρ → Prop) (start : holds first) (kept : system.Keeps holds) :
    ∀ moment ∈ system.moments state, holds moment := by
  obtain ⟨later, split⟩ := List.head?_eq_some_iff.mp traced.starts
  rw [split]
  exact traced.invariantFrom (split.trans (List.nil_append _).symm) holds start kept

/-- The steps of a run that is known to be restricted further. -/
theorem invariantAlong {also : ρ → ρ → Prop} (restricted : (system.moments state).IsChain also)
    (holds : ρ → Prop) (start : holds first)
    (kept : ∀ {before after}, system.good before → system.step before after →
      also before after → holds before → holds after) :
    ∀ moment ∈ system.moments state, holds moment := by
  obtain ⟨later, split⟩ := List.head?_eq_some_iff.mp traced.starts
  rw [split] at restricted ⊢
  exact traced.invariantWithin (split.trans (by rw [List.append_nil, List.nil_append])) restricted
    holds start kept

/-- The steps of a run, with what is known about every moment. -/
theorem stepsWith {holds : ρ → Prop} (everywhere : ∀ moment ∈ system.moments state, holds moment) :
    (system.moments state).IsChain fun before after =>
      holds before ∧ system.good before ∧ system.step before after := by
  have steps := traced.steps
  rw [List.isChain_iff_getElem] at steps ⊢
  exact fun index bound => ⟨everywhere _ (List.getElem_mem _), steps index bound⟩

end Traced

/-- A run only adds moments. -/
theorem moments_of_path {first last : σ} (path : system.Path first last) :
    ∃ later, system.moments last = system.past first ++ system.view first :: later := by
  induction path with
  | refl => exact ⟨[], rfl⟩
  | @tail middle last _ step ih =>
      obtain ⟨later, split⟩ := ih
      rcases step with ⟨-, recorded⟩ | ⟨same, unrecorded⟩
      · refine ⟨later ++ [system.view last], ?_⟩
        rw [moments, recorded, split, List.append_assoc, List.cons_append]
      · refine ⟨later, ?_⟩
        rw [moments, same, unrecorded, ← moments, split]

theorem moments_prefix_of_path {first last : σ} (path : system.Path first last) :
    system.moments first <+: system.moments last := by
  obtain ⟨later, split⟩ := system.moments_of_path path
  exact ⟨later, by rw [split, moments, List.append_assoc, List.singleton_append]⟩

theorem good_of_path {first last : σ} (path : system.Path first last)
    (good : system.good (system.view first)) : system.good (system.view last) := by
  induction path with
  | refl => exact good
  | tail _ step ih =>
      rcases step with ⟨step, -⟩ | ⟨same, -⟩
      · exact system.preserved step ih
      · exact same ▸ ih

theorem invariant_of_path {holds : ρ → Prop} (kept : system.Keeps holds)
    {first last : σ} (path : system.Path first last) (good : system.good (system.view first))
    (start : holds (system.view first)) : holds (system.view last) := by
  induction path with
  | refl => exact start
  | tail path step ih =>
      rcases step with move | silent
      · exact kept (system.good_of_path path good) move.1 ih
      · exact silent.1 ▸ ih

/-- The same system with fewer steps. -/
def narrow (step : ρ → ρ → Prop)
    (included : ∀ {before after}, step before after → system.step before after) : System σ ρ :=
  { system with
    step
    preserved := fun taken good => system.preserved (included taken) good }

/-- From a state of `pre` the program takes steps to a state of `post`. -/
def Follows (pre : ρ → Prop) (program : StateM σ α) (post : α → ρ → Prop) : Prop :=
  ∀ state, system.good (system.view state) → pre (system.view state) →
    system.Path state (program.run state).2 ∧
      post (program.run state).1 (system.view (program.run state).2)

variable {system} {pre : ρ → Prop}

namespace Follows

variable {post : α → ρ → Prop}

theorem done {value : α}
    (holds : ∀ visible, system.good visible → pre visible → post value visible) :
    system.Follows pre (pure value) post :=
  fun _ good assumed => ⟨.refl, holds _ good assumed⟩

theorem ret {value : α} (holds : ∀ visible, pre visible → post value visible) :
    system.Follows pre (pure value) post :=
  done fun visible _ => holds visible

theorem bind {program : StateM σ β} {next : β → StateM σ α} (middle : β → ρ → Prop)
    (first : system.Follows pre program middle)
    (second : ∀ value, system.Follows (middle value) (next value) post) :
    system.Follows pre (program >>= next) post := by
  intro state good assumed
  obtain ⟨path, between⟩ := first state good assumed
  obtain ⟨rest, after⟩ := second _ _ (system.good_of_path path good) between
  exact ⟨path.trans rest, after⟩

theorem weaken {program : StateM σ α} {weaker : ρ → Prop} {stronger : α → ρ → Prop}
    (follows : system.Follows weaker program stronger)
    (before : ∀ visible, system.good visible → pre visible → weaker visible)
    (after : ∀ value visible, stronger value visible → post value visible) :
    system.Follows pre program post := by
  intro state good assumed
  obtain ⟨path, holds⟩ := follows state good (before _ good assumed)
  exact ⟨path, after _ _ holds⟩

/-- What the invariant and the assertion imply may be used. -/
theorem assuming {program : StateM σ α} {fact : Prop}
    (implied : ∀ visible, system.good visible → pre visible → fact)
    (follows : fact → system.Follows pre program post) : system.Follows pre program post :=
  fun state good assumed => follows (implied _ good assumed) state good assumed

theorem branch {condition : Prop} [Decidable condition] {yes no : StateM σ α}
    (first : condition → system.Follows pre yes post)
    (second : ¬ condition → system.Follows pre no post) :
    system.Follows pre (if condition then yes else no) post := by
  split
  · next holds => exact first holds
  · next fails => exact second fails

/-- Reading does not step. The value read is known to come from the current state. -/
theorem read {select : σ → β} {chosen : ρ → β} {next : β → StateM σ α}
    (visible : ∀ state, select state = chosen (system.view state))
    (follows : ∀ value, system.Follows (fun current => chosen current = value ∧ pre current)
      (next value) post) : system.Follows pre ((do return select (← get)) >>= next) post := by
  intro state good assumed
  exact follows (select state) state good ⟨(visible state).symm, assumed⟩

/-- A change of what is not visible. -/
theorem silent {update : σ → σ} {post : Unit → ρ → Prop}
    (invisible : ∀ state, system.Silent state (update state))
    (holds : ∀ current, pre current → post () current) :
    system.Follows pre (modify update) post := by
  intro state _ assumed
  refine ⟨.single (.inr (invisible state)), ?_⟩
  show post () (system.view (update state))
  rw [(invisible state).1]
  exact holds _ assumed

/-- A change of the visible part by one step. -/
theorem update {change : σ → σ} {next : ρ → ρ} {post : Unit → ρ → Prop}
    (visible : ∀ state, system.view (change state) = next (system.view state))
    (recorded : ∀ state, system.past (change state) = system.moments state)
    (step : ∀ current, system.good current → pre current → system.step current (next current))
    (holds : ∀ current, system.good current → pre current → post () (next current)) :
    system.Follows pre (modify change) post := by
  intro state good assumed
  refine ⟨.single (.inl ⟨?_, recorded state⟩), ?_⟩
  · show system.step _ (system.view (change state))
    rw [visible state]
    exact step _ good assumed
  · show post () (system.view (change state))
    rw [visible state]
    exact holds _ good assumed

/-- A loop keeps what each of its iterations keeps. -/
theorem loop {items : List β} {body : β → StateM σ Unit}
    (each : ∀ item ∈ items, system.Follows pre (body item) fun _ => pre) :
    system.Follows pre (items.forM body) fun _ => pre := by
  induction items with
  | nil => exact ret fun _ assumed => assumed
  | cons item rest ih =>
      refine bind _ (each item List.mem_cons_self) fun _ => ih ?_
      exact fun other member => each other (List.mem_cons_of_mem item member)

/-- A loop whose invariant speaks about the items that are left. -/
theorem loopOver (holds : List β → ρ → Prop) {items : List β} {body : β → StateM σ Unit}
    (each : ∀ item rest, system.Follows (holds (item :: rest)) (body item) fun _ => holds rest) :
    system.Follows (holds items) (items.forM body) fun _ => holds [] := by
  induction items with
  | nil => exact ret fun _ assumed => assumed
  | cons item rest ih => exact bind _ (each item rest) fun _ => ih

/-- A program keeps what its steps keep. -/
theorem preserving {program : StateM σ α} (follows : system.Follows pre program post)
    (holds : ρ → Prop) (kept : system.Keeps holds) :
    system.Follows (fun visible => holds visible ∧ pre visible) program
      fun answer visible => holds visible ∧ post answer visible := by
  intro state good assumed
  obtain ⟨path, after⟩ := follows state good assumed.2
  exact ⟨path, system.invariant_of_path kept path good assumed.1, after⟩

section Narrow

variable {step : ρ → ρ → Prop}
  {included : ∀ {before after}, step before after → system.step before after}
  {program : StateM σ α} {post : α → ρ → Prop}

theorem widen (follows : (system.narrow step included).Follows pre program post) :
    system.Follows pre program post := by
  intro state good assumed
  obtain ⟨path, holds⟩ := follows state good assumed
  refine ⟨ReflTransGen.mono (fun before after step => ?_) _ _ path, holds⟩
  exact step.imp (fun move => ⟨included move.1, move.2⟩) id

end Narrow

end Follows

end System

end StatePrograms
