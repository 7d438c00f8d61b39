import Mathlib.Data.List.Forall2
import FlowEdge.Runtime.Arena

/-!
# Scratch memory

Programs that take memory from the arena of a runtime, as far as the arena is concerned. An
allocation that fails is noted with the place in the source that asked for it. The programs
leave no trace in the arena just if all that they ask for fits behind the cursor.
-/

namespace FlowEdge

/-! ## Placing requests -/

variable {first second : Nat}

theorem alignUp_mono (align : Nat) (ordered : first ≤ second) :
    alignUp align first ≤ alignUp align second :=
  Nat.mul_le_mul_right _ (Nat.div_le_div_right (by omega))

/-- Addresses behind a multiple of the alignment are rounded like those behind zero. -/
theorem alignUp_add {align : Nat} (positive : 0 < align) {start : Nat} (aligned : align ∣ start)
    (size : Nat) : alignUp align (start + size) = start + alignUp align size := by
  obtain ⟨units, rfl⟩ := aligned
  rw [alignUp, alignUp, Nat.add_assoc, Nat.mul_add_div positive, Nat.add_mul, Nat.mul_comm units]

theorem alignUp_eq {align : Nat} (positive : 0 < align) {start : Nat} (aligned : align ∣ start) :
    alignUp align start = start := by
  have none : alignUp align 0 = 0 := by
    rw [alignUp, Nat.div_eq_of_lt (by omega), Nat.zero_mul]
  have rounded := alignUp_add positive aligned 0
  rwa [none] at rounded

/-- A piece of memory that is asked for. -/
structure Request where
  align : Nat
  bytes : Nat
  positive : 0 < align

/-- An array of floats, at a multiple of `kSimdAlign`. -/
def floats (count : Nat) : Request where
  align := simdAlign
  bytes := count * 4
  positive := simdAlign_pos

/-- The cursor behind a request. -/
def place (cursor : Nat) (request : Request) : Nat :=
  alignUp request.align cursor + request.bytes

/-- The cursor behind requests that are placed one behind the other. -/
def extent (cursor : Nat) (requests : List Request) : Nat := requests.foldl place cursor

theorem le_place (cursor : Nat) (request : Request) : cursor ≤ place cursor request :=
  Nat.le_trans (le_alignUp request.positive cursor) (Nat.le_add_right _ _)

theorem le_extent (cursor : Nat) (requests : List Request) : cursor ≤ extent cursor requests := by
  induction requests generalizing cursor with
  | nil => exact Nat.le_refl cursor
  | cons request rest ih => exact Nat.le_trans (le_place cursor request) (ih _)

theorem extent_cons (cursor : Nat) (request : Request) (rest : List Request) :
    extent cursor (request :: rest) = extent (place cursor request) rest := rfl

theorem extent_append (cursor : Nat) (first second : List Request) :
    extent cursor (first ++ second) = extent (extent cursor first) second :=
  List.foldl_append

/-- A request for no more, at the same boundaries. -/
structure Request.Within (small large : Request) : Prop where
  align : small.align = large.align
  bytes : small.bytes ≤ large.bytes

theorem floats_within {small large : Nat} (ordered : small ≤ large) :
    (floats small).Within (floats large) :=
  ⟨rfl, Nat.mul_le_mul_right 4 ordered⟩

theorem place_mono {small large : Request} (within : small.Within large)
    (ordered : first ≤ second) :
    place first small ≤ place second large := by
  rw [place, place, within.align]
  exact Nat.add_le_add (alignUp_mono _ ordered) within.bytes

/-- Fewer and smaller requests take no more. -/
theorem extent_mono {few many : List Request} (within : List.SublistForall₂ Request.Within few many)
    (ordered : first ≤ second) : extent first few ≤ extent second many := by
  induction within generalizing first second with
  | nil => exact Nat.le_trans ordered (le_extent second _)
  | cons head _ ih => exact ih (place_mono head ordered)
  | cons_right _ ih => exact ih (Nat.le_trans ordered (le_place second _))

theorem extent_le_extent (ordered : first ≤ second) (requests : List Request) :
    extent first requests ≤ extent second requests := by
  induction requests generalizing first second with
  | nil => exact ordered
  | cons request rest ih => exact ih (place_mono ⟨rfl, Nat.le_refl _⟩ ordered)

/-! ## Programs -/

/-- Where the source asks for memory. -/
inductive AllocationSite where
  /-- The constructors. -/
  | constructor
  /-- `step` and `sample` of the runtime. -/
  | call
  /-- `run_backbone`, `layer_forward` and `decode_layer` of Mamba. -/
  | backbone
  /-- The functions of the Transformer. -/
  | transformer
  /-- The functions of the flow head. -/
  | head
  /-- The functions of the SmolVLA action expert. -/
  | expert
  /-- The functions of the diffusion head. -/
  | diffusion
  /-- The scratch of a convolution, which can do without. -/
  | packing
  deriving DecidableEq

/-- The arena of a runtime, the position of its key-value cache, and the allocations that have
failed. -/
structure ScratchState where
  arena : Arena
  position : Nat := 0
  failures : List AllocationSite := []
  deriving DecidableEq

abbrev ScratchM := StateM ScratchState

def ScratchState.fail (state : ScratchState) (site : AllocationSite) : ScratchState :=
  { state with failures := state.failures ++ [site] }

def ScratchState.at (state : ScratchState) (cursor : Nat) : ScratchState :=
  { state with arena := { state.arena with cursor } }

/-- `alloc`, and whether it gave memory. -/
def request (site : AllocationSite) (wanted : Request) : ScratchM Bool := fun state =>
  match state.arena.alloc wanted.align wanted.bytes with
  | some (_, arena) => (true, { state with arena })
  | none => (false, state.fail site)

/-- `alloc_span<float, kSimdAlign>`, and whether it gave memory. A count that would wrap around
is one that fails. -/
def span (site : AllocationSite) (count : Nat) : ScratchM Bool := fun state =>
  match state.arena.allocArray 4 simdAlign count with
  | some (_, arena) => (true, { state with arena })
  | none => (false, state.fail site)

/-- Spans one after the other, whether or not they are given, and whether all are. -/
def spans (site : AllocationSite) : List Nat → ScratchM Bool
  | [] => return true
  | count :: rest => do
      let given ← span site count
      let others ← spans site rest
      return given && others

/-- A program between `mark` and `reset_to`. -/
def marked {α : Type} (program : ScratchM α) : ScratchM α := do
  let mark := (← get).arena.cursor
  let result ← program
  modify fun state => { state with arena := state.arena.resetTo mark }
  return result

/-- Spans between a mark and its reset, for a function that does not look whether they are
given. -/
def borrow (site : AllocationSite) (counts : List Nat) : ScratchM Unit := marked do
  let _ ← spans site counts

def repeatM (program : ScratchM Unit) : Nat → ScratchM Unit
  | 0 => return ()
  | count + 1 => do
      program
      repeatM program count

variable {state : ScratchState}

theorem bind_eq {α β : Type} {program : ScratchM α} {next : α → ScratchM β} {after : ScratchState}
    {value : α} (result : program state = (value, after)) :
    (program >>= next) state = next value after := by
  change next (program state).1 (program state).2 = _
  rw [result]

theorem bind_pure_state {α β : Type} (program : ScratchM α) (result : α → β)
    (state : ScratchState) :
    ((program >>= fun value => pure (result value)) state).2 = (program state).2 := rfl

/-! ## What fits -/

/-- The addresses of an arena are those of memory. -/
structure Arena.Addressed (arena : Arena) : Prop where
  positive : 0 < arena.cursor
  bounded : arena.limit < 2 ^ 64

namespace ScratchState

variable {state : ScratchState}

/-- Behind requests that fit there is still memory. -/
theorem addressed_at {cursor : Nat} (addressed : state.arena.Addressed)
    (later : state.arena.cursor ≤ cursor) : (state.at cursor).arena.Addressed :=
  ⟨Nat.lt_of_lt_of_le addressed.positive later, addressed.bounded⟩

end ScratchState

section Fits

variable {state : ScratchState} (addressed : state.arena.Addressed) (site : AllocationSite)

include addressed

theorem request_fits {wanted : Request}
    (fits : place state.arena.cursor wanted ≤ state.arena.limit) :
    request site wanted state = (true, state.at (place state.arena.cursor wanted)) := by
  have start := le_alignUp wanted.positive state.arena.cursor
  have given : ¬ (alignUp wanted.align state.arena.cursor = 0 ∨
      state.arena.limit < alignUp wanted.align state.arena.cursor + wanted.bytes) := by
    have := addressed.positive
    rw [place] at fits
    omega
  rw [request, Arena.alloc, if_neg given]
  rfl

omit addressed in
theorem request_fails {wanted : Request}
    (exceeds : state.arena.limit < place state.arena.cursor wanted) :
    request site wanted state = (false, state.fail site) := by
  have refused : alignUp wanted.align state.arena.cursor = 0 ∨
      state.arena.limit < alignUp wanted.align state.arena.cursor + wanted.bytes := .inr exceeds
  rw [request, Arena.alloc, if_pos refused]

/-- A span is a request for floats. -/
theorem span_eq_request (count : Nat) :
    span site count state = request site (floats count) state := by
  by_cases large : count > maxSize / 4
  · have exceeds : state.arena.limit < place state.arena.cursor (floats count) := by
      have := addressed.bounded
      rw [maxSize] at large
      rw [place, floats]
      dsimp only
      omega
    rw [request_fails site exceeds, span, Arena.allocArray, if_pos large]
  · rw [span, Arena.allocArray, if_neg large]
    rfl

theorem span_fits {count : Nat}
    (fits : place state.arena.cursor (floats count) ≤ state.arena.limit) :
    span site count state = (true, state.at (place state.arena.cursor (floats count))) :=
  (span_eq_request addressed site count).trans (request_fits addressed site fits)

theorem span_fails {count : Nat}
    (exceeds : state.arena.limit < place state.arena.cursor (floats count)) :
    span site count state = (false, state.fail site) :=
  (span_eq_request addressed site count).trans (request_fails site exceeds)

theorem spans_fits {counts : List Nat}
    (fits : extent state.arena.cursor (counts.map floats) ≤ state.arena.limit) :
    spans site counts state =
      (true, state.at (extent state.arena.cursor (counts.map floats))) := by
  induction counts generalizing state with
  | nil => rfl
  | cons count rest ih =>
      have first : place state.arena.cursor (floats count) ≤ state.arena.limit :=
        Nat.le_trans (le_extent _ (rest.map floats)) fits
      have others := ih (state.addressed_at addressed (le_place _ (floats count))) fits
      rw [spans, bind_eq (span_fits addressed site first), bind_eq others]
      rfl

end Fits

/-! ## What fails -/

/-- A program notes the failures of its own sites and forgets none, and the slab stays as it
is. -/
def Behaves {α : Type} (sites : List AllocationSite) (program : ScratchM α) : Prop :=
  ∀ state, (program state).2.arena.limit = state.arena.limit ∧
    ∃ more, (program state).2.failures = state.failures ++ more ∧ ∀ site ∈ more, site ∈ sites

namespace Behaves

variable {α β : Type} {sites : List AllocationSite}

theorem pure (value : α) : Behaves sites (Pure.pure value) :=
  fun _ => ⟨rfl, [], (List.append_nil _).symm, by simp⟩

theorem get : Behaves sites (MonadState.get : ScratchM ScratchState) :=
  fun _ => ⟨rfl, [], (List.append_nil _).symm, by simp⟩

variable {program : ScratchM α}

theorem bind {next : α → ScratchM β} (first : Behaves sites program)
    (second : ∀ value, Behaves sites (next value)) : Behaves sites (program >>= next) := by
  intro state
  obtain ⟨limit, more, noted, known⟩ := first state
  obtain ⟨later, others, alsoNoted, alsoKnown⟩ := second (program state).1 (program state).2
  refine ⟨later.trans limit, more ++ others, ?_, List.forall_mem_append.mpr ⟨known, alsoKnown⟩⟩
  rw [← List.append_assoc, ← noted]
  exact alsoNoted

theorem ite {condition : Prop} [Decidable condition] {other : ScratchM α}
    (holds : Behaves sites program) (fails : Behaves sites other) :
    Behaves sites (if condition then program else other) := by
  split
  · exact holds
  · exact fails

theorem weaken {fewer : List AllocationSite} (behaves : Behaves fewer program)
    (included : ∀ site ∈ fewer, site ∈ sites) : Behaves sites program := by
  intro state
  obtain ⟨limit, more, noted, known⟩ := behaves state
  exact ⟨limit, more, noted, fun site member => included site (known site member)⟩

variable {site : AllocationSite}

theorem span (known : site ∈ sites) (count : Nat) : Behaves sites (span site count) := by
  intro state
  rw [FlowEdge.span]
  split
  · next start arena given =>
      rw [Arena.allocArray] at given
      split at given
      · cases given
      · obtain ⟨-, -, -, -, limit⟩ := Arena.alloc_ok (by decide) given
        exact ⟨limit, [], (List.append_nil _).symm, by simp⟩
  · exact ⟨rfl, [site], rfl, by simpa using known⟩

theorem spans (known : site ∈ sites) (counts : List Nat) :
    Behaves sites (spans site counts) := by
  induction counts with
  | nil => exact .pure true
  | cons count rest ih => exact .bind (.span known count) fun _ => .bind ih fun _ => .pure _

theorem marked (behaves : Behaves sites program) : Behaves sites (marked program) :=
  fun state => behaves state

theorem repeatM {program : ScratchM Unit} (behaves : Behaves sites program) (count : Nat) :
    Behaves sites (repeatM program count) := by
  induction count with
  | zero => exact .pure ()
  | succ count ih => exact .bind behaves fun _ => ih

variable {state : ScratchState}

theorem avoids (behaves : Behaves sites program) (other : site ∉ sites)
    (clean : site ∉ state.failures) : site ∉ (program state).2.failures := by
  obtain ⟨-, more, noted, known⟩ := behaves state
  rw [noted, List.mem_append, not_or]
  exact ⟨clean, fun member => other (known site member)⟩

/-- What fails at the first time has failed at the end. -/
theorem repeatM_failure {program : ScratchM Unit} (behaves : Behaves sites program) {count : Nat}
    (some : 0 < count) (failed : site ∈ (program state).2.failures) :
    site ∈ (FlowEdge.repeatM program count state).2.failures := by
  cases count with
  | zero => cases some
  | succ count =>
      obtain ⟨-, more, noted, -⟩ := behaves.repeatM count (program state).2
      change site ∈ (FlowEdge.repeatM program count (program state).2).2.failures
      rw [noted]
      exact List.mem_append_left _ failed

theorem keeps_failure (behaves : Behaves sites program) (failed : site ∈ state.failures) :
    site ∈ (program state).2.failures := by
  obtain ⟨-, more, noted, -⟩ := behaves state
  rw [noted]
  exact List.mem_append_left _ failed

/-- What fails in the first program has failed behind the second. -/
theorem bind_failure (sites : List AllocationSite) {next : α → ScratchM β}
    (behaves : ∀ value, Behaves sites (next value)) (failed : site ∈ (program state).2.failures) :
    site ∈ ((program >>= next) state).2.failures :=
  (behaves (program state).1).keeps_failure failed

end Behaves

/-- Memory has been taken and none given back, and no failure forgotten. -/
structure Advanced (before after : ScratchState) : Prop where
  later : before.arena.cursor ≤ after.arena.cursor
  inside : after.arena.cursor ≤ after.arena.limit
  limit : after.arena.limit = before.arena.limit
  failures : ∃ more, after.failures = before.failures ++ more

theorem Advanced.refl (inside : state.arena.cursor ≤ state.arena.limit) : Advanced state state :=
  ⟨Nat.le_refl _, inside, rfl, [], (List.append_nil _).symm⟩

theorem Advanced.trans {first second third : ScratchState} (begin : Advanced first second)
    (rest : Advanced second third) : Advanced first third := by
  obtain ⟨more, noted⟩ := begin.failures
  obtain ⟨others, alsoNoted⟩ := rest.failures
  refine ⟨Nat.le_trans begin.later rest.later, rest.inside, rest.limit.trans begin.limit,
    more ++ others, ?_⟩
  rw [alsoNoted, noted, List.append_assoc]

theorem Advanced.fail (site : AllocationSite) (inside : state.arena.cursor ≤ state.arena.limit) :
    Advanced state (state.fail site) :=
  ⟨Nat.le_refl _, inside, rfl, [site], rfl⟩

def Advances {α : Type} (program : ScratchM α) : Prop :=
  ∀ state, state.arena.cursor ≤ state.arena.limit → Advanced state (program state).2

namespace Advances

variable {α β : Type}

theorem pure (value : α) : Advances (Pure.pure value) := fun _ inside => .refl inside

theorem bind {program : ScratchM α} {next : α → ScratchM β} (first : Advances program)
    (second : ∀ value, Advances (next value)) : Advances (program >>= next) := by
  intro state inside
  have begin := first state inside
  exact begin.trans (second (program state).1 (program state).2 begin.inside)

theorem request (site : AllocationSite) (wanted : Request) : Advances (request site wanted) := by
  intro state inside
  rw [FlowEdge.request]
  split
  · next start arena given =>
      obtain ⟨-, begins, ends, within, limit⟩ := Arena.alloc_ok wanted.positive given
      exact ⟨by dsimp only; omega, by dsimp only; omega, limit, [], (List.append_nil _).symm⟩
  · exact .fail site inside

theorem span (site : AllocationSite) (count : Nat) : Advances (span site count) := by
  intro state inside
  rw [FlowEdge.span]
  split
  · next start arena given =>
      rw [Arena.allocArray] at given
      split at given
      · cases given
      · obtain ⟨-, begins, ends, within, limit⟩ := Arena.alloc_ok (by decide) given
        exact ⟨by dsimp only; omega, by dsimp only; omega, limit, [], (List.append_nil _).symm⟩
  · exact .fail site inside

end Advances

/-- What a program returns, from any state. -/
def Returns {α : Type} (program : ScratchM α) (post : α → Prop) : Prop :=
  ∀ state, post (program state).1

theorem Returns.bind {α β : Type} {program : ScratchM α} {next : α → ScratchM β} {post : β → Prop}
    {middle : α → Prop} (first : Returns program middle)
    (second : ∀ value, middle value → Returns (next value) post) :
    Returns (program >>= next) post :=
  fun state => second (program state).1 (first state) (program state).2

theorem Returns.any {α : Type} (program : ScratchM α) : Returns program fun _ => True :=
  fun _ => trivial

theorem Returns.pure {α : Type} {value : α} {post : α → Prop} (holds : post value) :
    Returns (Pure.pure value) post :=
  fun _ => holds

theorem spans_fails (addressed : state.arena.Addressed) (site : AllocationSite) {counts : List Nat}
    (exceeds : state.arena.limit < extent state.arena.cursor (counts.map floats))
    (inside : state.arena.cursor ≤ state.arena.limit) :
    (spans site counts state).1 = false ∧ site ∈ (spans site counts state).2.failures := by
  induction counts generalizing state with
  | nil => exact absurd exceeds (Nat.not_lt.mpr inside)
  | cons count rest ih =>
      by_cases first : place state.arena.cursor (floats count) ≤ state.arena.limit
      · obtain ⟨refused, noted⟩ :=
          ih (state.addressed_at addressed (le_place _ (floats count))) exceeds first
        rw [spans, bind_eq (span_fits addressed site first)]
        exact ⟨refused, noted⟩
      · have failed := span_fails addressed site (Nat.not_le.mp first)
        rw [spans, bind_eq failed]
        refine ⟨rfl, ?_⟩
        have behaves : Behaves [site] (spans site rest) := .spans (by simp) rest
        exact behaves.keeps_failure (by simp [ScratchState.fail])

/-! ## Marks -/

section Marks

variable {α : Type} {state : ScratchState} {program : ScratchM α}

theorem marked_failures : (marked program state).2.failures = (program state).2.failures := rfl

/-- Behind a mark and its reset the arena is as it was. -/
theorem marked_arena {sites : List AllocationSite} (behaves : Behaves sites program) :
    (marked program state).2.arena = state.arena := by
  have limit := (behaves state).1
  change Arena.mk state.arena.cursor (program state).2.arena.limit = state.arena
  rw [limit]

theorem marked_eq {value : α} {cursor : Nat} (result : program state = (value, state.at cursor)) :
    marked program state = (value, state) := by
  change ((program state).1, _) = _
  rw [result]
  rfl

theorem repeatM_eq {program : ScratchM Unit} (kept : program state = ((), state)) (count : Nat) :
    repeatM program count state = ((), state) := by
  induction count with
  | zero => rfl
  | succ count ih => rw [repeatM, bind_eq kept, ih]

end Marks

/-- A program that leaves everything as it was. -/
def Quiet {α : Type} (program : ScratchM α) (state : ScratchState) : Prop :=
  (program state).2 = state

namespace Quiet

variable {α β : Type} {state : ScratchState}

theorem pure (value : α) : Quiet (Pure.pure value) state := rfl

theorem bind {program : ScratchM α} {next : α → ScratchM β} (first : Quiet program state)
    (second : ∀ value, Quiet (next value) state) : Quiet (program >>= next) state := by
  have result : program state = ((program state).1, state) := Prod.ext rfl first
  rw [Quiet, bind_eq result]
  exact second _

theorem ite {condition : Prop} [Decidable condition] {first second : ScratchM α}
    (holds : Quiet first state) (fails : Quiet second state) :
    Quiet (if condition then first else second) state := by
  split
  · exact holds
  · exact fails

theorem marked {program : ScratchM α} (cursor : Nat)
    (result : (program state).2 = state.at cursor) : Quiet (marked program) state := by
  have whole : program state = ((program state).1, state.at cursor) := Prod.ext rfl result
  rw [Quiet, marked_eq whole]

theorem marked_spans (addressed : state.arena.Addressed) (site : AllocationSite)
    {counts : List Nat}
    (fits : extent state.arena.cursor (counts.map floats) ≤ state.arena.limit) :
    Quiet (FlowEdge.marked (spans site counts)) state := by
  rw [Quiet, marked_eq (spans_fits addressed site fits)]

theorem marked_span (addressed : state.arena.Addressed) (site : AllocationSite) {count : Nat}
    (fits : place state.arena.cursor (floats count) ≤ state.arena.limit) :
    Quiet (FlowEdge.marked (span site count)) state := by
  rw [Quiet, marked_eq (span_fits addressed site fits)]

/-- Spans that are held while another program runs. -/
theorem held (addressed : state.arena.Addressed) (site : AllocationSite) {counts : List Nat}
    {rest : ScratchM Bool}
    (fits : extent state.arena.cursor (counts.map floats) ≤ state.arena.limit)
    (quiet : ∀ mark, mark = extent state.arena.cursor (counts.map floats) →
      Quiet rest (state.at mark)) :
    Quiet (FlowEdge.marked (do if ← spans site counts then rest else return false)) state := by
  have result := quiet _ rfl
  have given := spans_fits addressed site fits
  generalize extent state.arena.cursor (counts.map floats) = mark at *
  refine marked mark ?_
  rw [bind_eq given, if_pos rfl]
  exact result

theorem held_span (addressed : state.arena.Addressed) (site : AllocationSite) {count : Nat}
    {rest : ScratchM Bool} (fits : place state.arena.cursor (floats count) ≤ state.arena.limit)
    (quiet : ∀ mark, mark = place state.arena.cursor (floats count) →
      Quiet rest (state.at mark)) :
    Quiet (FlowEdge.marked (do if ← span site count then rest else return false)) state := by
  have result := quiet _ rfl
  have given := span_fits addressed site fits
  generalize place state.arena.cursor (floats count) = mark at *
  refine marked mark ?_
  rw [bind_eq given, if_pos rfl]
  exact result

end Quiet

section Borrow

variable {state : ScratchState} (addressed : state.arena.Addressed) (site : AllocationSite)
  {counts : List Nat}

include addressed

theorem borrow_fits (fits : extent state.arena.cursor (counts.map floats) ≤ state.arena.limit) :
    borrow site counts state = ((), state) := by
  have result : (do let _ ← spans site counts : ScratchM Unit) state =
      ((), state.at (extent state.arena.cursor (counts.map floats))) := by
    rw [bind_eq (spans_fits addressed site fits)]
    rfl
  exact marked_eq result

theorem borrow_fails (inside : state.arena.cursor ≤ state.arena.limit)
    (exceeds : state.arena.limit < extent state.arena.cursor (counts.map floats)) :
    site ∈ (borrow site counts state).2.failures := by
  rw [borrow, marked_failures]
  exact (spans_fails addressed site exceeds inside).2

end Borrow

theorem Behaves.borrow {site : AllocationSite} {sites : List AllocationSite} (known : site ∈ sites)
    (counts : List Nat) : Behaves sites (borrow site counts) :=
  .marked (.bind (.spans known counts) fun _ => .pure ())

/-! ## Demands -/

/-- A program that keeps what it gets: it returns a value and leaves the cursor behind its
requests if they fit, and notes a failure if they do not. -/
structure Demands {α : Type} (program : ScratchM α) (requests : List Request) (value : α) :
    Prop where
  advances : Advances program
  fits : ∀ state, state.arena.Addressed → state.position = 0 →
    extent state.arena.cursor requests ≤ state.arena.limit →
      program state = (value, state.at (extent state.arena.cursor requests))
  fails : ∀ state, state.arena.Addressed → state.position = 0 →
    state.arena.cursor ≤ state.arena.limit →
    state.arena.limit < extent state.arena.cursor requests → (program state).2.failures ≠ []

namespace Demands

variable {α β : Type}

theorem pure (value : α) : Demands (Pure.pure value) [] value where
  advances := .pure value
  fits _ _ _ _ := rfl
  fails _ _ _ inside exceeds := absurd exceeds (Nat.not_lt.mpr inside)

theorem bind {program : ScratchM α} {next : α → ScratchM β} {first : List Request} {value : α}
    {second : α → List Request} {result : α → β} (demands : Demands program first value)
    (further : ∀ value, Demands (next value) (second value) (result value)) :
    Demands (program >>= next) (first ++ second value) (result value) where
  advances := .bind demands.advances fun value => (further value).advances
  fits state addressed start fits := by
    rw [extent_append] at fits ⊢
    have taken := demands.fits state addressed start (Nat.le_trans (le_extent _ _) fits)
    rw [bind_eq taken]
    exact (further value).fits _ (state.addressed_at addressed (le_extent _ _)) start fits
  fails state addressed start inside exceeds := by
    rw [extent_append] at exceeds
    by_cases granted : extent state.arena.cursor first ≤ state.arena.limit
    · rw [bind_eq (demands.fits state addressed start granted)]
      exact (further value).fails _ (state.addressed_at addressed (le_extent _ _)) start granted
        exceeds
    · have noted := demands.fails state addressed start inside (Nat.not_le.mp granted)
      have taken := demands.advances state inside
      obtain ⟨more, kept⟩ :=
        ((further (program state).1).advances (program state).2 taken.inside).failures
      change (next (program state).1 (program state).2).2.failures ≠ []
      rw [kept]
      exact List.append_ne_nil_of_left_ne_nil noted more

theorem ite {condition : Prop} [Decidable condition] {first second : ScratchM α}
    {firstRequests secondRequests : List Request} {firstValue secondValue : α}
    (holds : Demands first firstRequests firstValue)
    (fails : Demands second secondRequests secondValue) :
    Demands (if condition then first else second)
      (if condition then firstRequests else secondRequests)
      (if condition then firstValue else secondValue) := by
  split
  · exact holds
  · exact fails

theorem of_eq {program : ScratchM α} {requests wanted : List Request} {value result : α}
    (demands : Demands program requests value) (same : requests = wanted)
    (returned : value = result) : Demands program wanted result :=
  same ▸ returned ▸ demands

theorem request (site : AllocationSite) (wanted : Request) :
    Demands (request site wanted) [wanted] true where
  advances := .request site wanted
  fits _ addressed _ fits := request_fits addressed site fits
  fails state _ _ _ exceeds := by
    rw [request_fails site exceeds]
    exact List.append_ne_nil_of_right_ne_nil _ (List.cons_ne_nil _ _)

theorem span (site : AllocationSite) (count : Nat) :
    Demands (span site count) [floats count] true where
  advances := .span site count
  fits _ addressed _ fits := span_fits addressed site fits
  fails state addressed _ _ exceeds := by
    rw [span_fails addressed site exceeds]
    exact List.append_ne_nil_of_right_ne_nil _ (List.cons_ne_nil _ _)

/-- A program that gives back what it got if it does not get all. -/
theorem orReset {program : ScratchM Bool} {requests : List Request}
    (demands : Demands program requests true) (value : α) :
    Demands (do
      let mark := (← get).arena.cursor
      if ← program then return some value
      else
        modify fun state => { state with arena := state.arena.resetTo mark }
        return none) requests (some value) where
  advances := by
    intro state inside
    have taken := demands.advances state inside
    obtain ⟨given, after, result⟩ : ∃ given after, program state = (given, after) := ⟨_, _, rfl⟩
    rw [result] at taken
    rw [bind_eq (rfl : (get : ScratchM ScratchState) state = (state, state)), bind_eq result]
    cases given with
    | true => exact taken
    | false =>
        exact ⟨Nat.le_refl _, Nat.le_trans taken.later taken.inside, taken.limit, taken.failures⟩
  fits state addressed start fits := by
    have taken := demands.fits state addressed start fits
    rw [bind_eq (rfl : (get : ScratchM ScratchState) state = (state, state)), bind_eq taken]
    rfl
  fails state addressed start inside exceeds := by
    have noted := demands.fails state addressed start inside exceeds
    obtain ⟨given, after, result⟩ : ∃ given after, program state = (given, after) := ⟨_, _, rfl⟩
    rw [result] at noted
    rw [bind_eq (rfl : (get : ScratchM ScratchState) state = (state, state)), bind_eq result]
    cases given <;> exact noted

end Demands

end FlowEdge
