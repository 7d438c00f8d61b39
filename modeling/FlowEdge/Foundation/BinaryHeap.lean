import Mathlib.Data.List.Basic
import Mathlib.Data.List.Perm.Basic

/-!
# Binary heaps in a list

The heap algorithms of the C++ standard library on a list read as a level-order
binary tree, for an arbitrary comparison. `less` is a strict weak order and no
parent is less than its child, so the head of a heap is a maximum.

Each algorithm permutes its input and ends in a heap: `pushHeap_isHeap`,
`makeHeap_isHeap`, `popHeap_spec`.
-/

namespace BinaryHeap

variable {α : Type}

/-- A comparison that the heap algorithms accept. -/
structure StrictWeak (less : α → α → Bool) : Prop where
  asymm : ∀ {first second}, less first second = true → less second first = false
  negTrans : ∀ {first second third}, less first second = false → less second third = false →
    less first third = false

theorem StrictWeak.not_less_of_less {less : α → α → Bool} (order : StrictWeak less)
    {low middle high : α} (below : less low middle = true) (same : less low high = false) :
    less middle high = false := by
  cases above : less middle high with
  | false => rfl
  | true =>
      have contradiction := order.negTrans same (order.asymm above)
      rw [below] at contradiction
      cases contradiction

theorem StrictWeak.irrefl {less : α → α → Bool} (order : StrictWeak less) (value : α) :
    less value value = false := by
  cases same : less value value with
  | false => rfl
  | true => rw [← same, order.asymm same]

/-- The parent of a position other than the root. -/
def parent (child : Nat) : Nat := (child - 1) / 2

theorem parent_lt {child : Nat} (positive : 0 < child) : parent child < child := by
  unfold parent
  omega

theorem child_of_parent {child : Nat} (positive : 0 < child) :
    child = 2 * parent child + 1 ∨ child = 2 * parent child + 2 := by
  unfold parent
  omega

/-- The value above, where both positions are occupied, is not less than the one below. -/
def Dominates (less : α → α → Bool) (xs : List α) (above below : Nat) : Prop :=
  ∀ high low, xs[above]? = some high → xs[below]? = some low → less high low = false

/-- The heap order holds on every edge whose upper end is at `first` or later. -/
def HeapFrom (less : α → α → Bool) (first : Nat) (xs : List α) : Prop :=
  ∀ child, 0 < child → first ≤ parent child → Dominates less xs (parent child) child

def IsHeap (less : α → α → Bool) (xs : List α) : Prop := HeapFrom less 0 xs

def swap (xs : List α) (first second : Nat) : List α :=
  match xs[first]?, xs[second]? with
  | some a, some b => (xs.set first b).set second a
  | _, _ => xs

/-- Move the value at `hole` up until its parent is not less. -/
def siftUp (less : α → α → Bool) : Nat → Nat → List α → List α
  | 0, _, xs => xs
  | fuel + 1, hole, xs =>
      if hole = 0 then xs
      else
        match xs[parent hole]?, xs[hole]? with
        | some above, some value =>
            if less above value then siftUp less fuel (parent hole) (swap xs hole (parent hole))
            else xs
        | _, _ => xs

/-- `std::push_heap`: insert the last value into the heap before it. -/
def pushHeap (less : α → α → Bool) (xs : List α) : List α :=
  siftUp less xs.length (xs.length - 1) xs

/-- The child that must go up if one of them does. -/
def largerChild (less : α → α → Bool) (xs : List α) (hole : Nat) : Nat :=
  match xs[2 * hole + 1]?, xs[2 * hole + 2]? with
  | some left, some right => if less left right then 2 * hole + 2 else 2 * hole + 1
  | _, _ => 2 * hole + 1

/-- Move the value at `hole` down until no child is larger. -/
def siftDown (less : α → α → Bool) : Nat → Nat → List α → List α
  | 0, _, xs => xs
  | fuel + 1, hole, xs =>
      match xs[hole]?, xs[largerChild less xs hole]? with
      | some value, some below =>
          if less value below then
            siftDown less fuel (largerChild less xs hole) (swap xs hole (largerChild less xs hole))
          else xs
      | _, _ => xs

/-- Establish the heap order on the edges below positions `count - 1` to `0`. -/
def heapify (less : α → α → Bool) : Nat → List α → List α
  | 0, xs => xs
  | count + 1, xs => heapify less count (siftDown less xs.length count xs)

/-- `std::make_heap`. -/
def makeHeap (less : α → α → Bool) (xs : List α) : List α :=
  heapify less (xs.length / 2) xs

/-- `std::pop_heap`: move the head to the end and restore the heap before it. -/
def popHeap (less : α → α → Bool) : List α → List α
  | [] => []
  | top :: rest =>
      match rest.getLast? with
      | none => [top]
      | some last => siftDown less rest.length 0 (last :: rest.dropLast) ++ [top]

/-- `std::max_element`: the first value that no other value exceeds. -/
def maxElement (less : α → α → Bool) : List α → Option α
  | [] => none
  | first :: rest =>
      some (rest.foldl (fun best value => if less best value then value else best) first)

/-! ## Exchanging two positions -/

theorem getElem?_swap (xs : List α) {first second : Nat} (firstInside : first < xs.length)
    (secondInside : second < xs.length) (position : Nat) :
    (swap xs first second)[position]? =
      if position = second then xs[first]?
      else if position = first then xs[second]? else xs[position]? := by
  unfold swap
  rw [List.getElem?_eq_getElem firstInside, List.getElem?_eq_getElem secondInside]
  simp only [List.getElem?_set, List.length_set]
  by_cases atSecond : position = second
  · subst atSecond
    simp [secondInside]
  · by_cases atFirst : position = first
    · subst atFirst
      simp [atSecond, Ne.symm atSecond, firstInside]
    · simp [atSecond, atFirst, Ne.symm atSecond, Ne.symm atFirst]

theorem swap_perm (xs : List α) (first second : Nat) : (swap xs first second).Perm xs := by
  unfold swap
  split
  · next a b firstValue secondValue =>
      obtain ⟨firstInside, rfl⟩ := List.getElem?_eq_some_iff.mp firstValue
      obtain ⟨secondInside, rfl⟩ := List.getElem?_eq_some_iff.mp secondValue
      exact List.set_set_perm firstInside secondInside
  · exact List.Perm.refl xs

theorem siftUp_perm (less : α → α → Bool) (fuel hole : Nat) (xs : List α) :
    (siftUp less fuel hole xs).Perm xs := by
  induction fuel generalizing hole xs with
  | zero => exact List.Perm.refl xs
  | succ fuel ih =>
      unfold siftUp
      split
      · exact List.Perm.refl xs
      · split
        · split
          · exact (ih _ _).trans (swap_perm xs _ _)
          · exact List.Perm.refl xs
        · exact List.Perm.refl xs

theorem siftDown_perm (less : α → α → Bool) (fuel hole : Nat) (xs : List α) :
    (siftDown less fuel hole xs).Perm xs := by
  induction fuel generalizing hole xs with
  | zero => exact List.Perm.refl xs
  | succ fuel ih =>
      unfold siftDown
      split
      · split
        · exact (ih _ _).trans (swap_perm xs _ _)
        · exact List.Perm.refl xs
      · exact List.Perm.refl xs

theorem heapify_perm (less : α → α → Bool) (count : Nat) (xs : List α) :
    (heapify less count xs).Perm xs := by
  induction count generalizing xs with
  | zero => exact List.Perm.refl xs
  | succ count ih => exact (ih _).trans (siftDown_perm less _ _ xs)

theorem pushHeap_perm (less : α → α → Bool) (xs : List α) : (pushHeap less xs).Perm xs :=
  siftUp_perm less _ _ xs

theorem makeHeap_perm (less : α → α → Bool) (xs : List α) : (makeHeap less xs).Perm xs :=
  heapify_perm less _ xs

/-! ## Moving up -/

section Up

variable {less : α → α → Bool} {xs : List α} {hole : Nat}

/-- Only the edge into the hole may be out of order, and the hole's children stay below
its parent. -/
structure SiftUpReady (less : α → α → Bool) (xs : List α) (hole : Nat) : Prop where
  off : ∀ child, 0 < child → child ≠ hole → Dominates less xs (parent child) child
  grand : ∀ child, 0 < child → parent child = hole → 0 < hole →
    Dominates less xs (parent hole) child

theorem SiftUpReady.move (order : StrictWeak less) (ready : SiftUpReady less xs hole)
    (positive : 0 < hole) {above value : α} (aboveAt : xs[parent hole]? = some above)
    (valueAt : xs[hole]? = some value) (smaller : less above value = true) :
    SiftUpReady less (swap xs hole (parent hole)) (parent hole) := by
  have upwards := parent_lt positive
  have entry := getElem?_swap xs (List.getElem?_eq_some_iff.mp valueAt).1
    (List.getElem?_eq_some_iff.mp aboveAt).1
  constructor
  · intro child childPositive childOff high low highAt lowAt
    rw [entry] at highAt lowAt
    have childUp := parent_lt childPositive
    rw [if_neg childOff] at lowAt
    by_cases atHole : child = hole
    · subst atHole
      rw [if_pos rfl, valueAt] at highAt
      rw [if_pos rfl, aboveAt] at lowAt
      cases highAt
      cases lowAt
      exact order.asymm smaller
    · rw [if_neg atHole] at lowAt
      by_cases sibling : parent child = parent hole
      · rw [if_pos sibling, valueAt] at highAt
        cases highAt
        refine order.not_less_of_less smaller (ready.off child childPositive atHole _ _ ?_ lowAt)
        rw [sibling]
        exact aboveAt
      · rw [if_neg sibling] at highAt
        by_cases underHole : parent child = hole
        · rw [if_pos underHole] at highAt
          exact ready.grand child childPositive underHole positive _ _ highAt lowAt
        · rw [if_neg underHole] at highAt
          exact ready.off child childPositive atHole _ _ highAt lowAt
  · intro child childPositive under parentPositive high low highAt lowAt
    have above' := parent_lt parentPositive
    rw [entry, if_neg (by omega), if_neg (by omega)] at highAt
    have grandparent : less high above = false :=
      ready.off (parent hole) parentPositive (by omega) _ _ highAt aboveAt
    have childUp := parent_lt childPositive
    rw [entry, if_neg (by omega)] at lowAt
    by_cases atHole : child = hole
    · rw [if_pos atHole, aboveAt] at lowAt
      cases lowAt
      exact grandparent
    · rw [if_neg atHole] at lowAt
      refine order.negTrans grandparent (ready.off child childPositive atHole _ _ ?_ lowAt)
      rw [under]
      exact aboveAt

theorem siftUp_isHeap (order : StrictWeak less) (fuel : Nat)
    (ready : SiftUpReady less xs hole) (enough : hole ≤ fuel) :
    IsHeap less (siftUp less fuel hole xs) := by
  induction fuel generalizing hole xs with
  | zero =>
      intro child positive _
      exact ready.off child positive (by omega)
  | succ fuel ih =>
      unfold siftUp
      split
      · next root =>
          intro child positive _
          exact ready.off child positive (by omega)
      · next inner =>
          have positive : 0 < hole := Nat.pos_of_ne_zero inner
          have upwards := parent_lt positive
          split
          · next above value aboveAt valueAt =>
              split
              · next smaller =>
                  exact ih (ready.move order positive aboveAt valueAt smaller) (by omega)
              · next settled =>
                  intro child childPositive _ high low highAt lowAt
                  by_cases atHole : child = hole
                  · subst atHole
                    rw [aboveAt] at highAt
                    rw [valueAt] at lowAt
                    cases highAt
                    cases lowAt
                    simpa using settled
                  · exact ready.off child childPositive atHole _ _ highAt lowAt
          · next absent =>
              intro child childPositive _ high low highAt lowAt
              by_cases atHole : child = hole
              · subst atHole
                exact (absent high low highAt lowAt).elim
              · exact ready.off child childPositive atHole _ _ highAt lowAt

theorem pushHeap_isHeap (order : StrictWeak less) (heap : IsHeap less xs) (value : α) :
    IsHeap less (pushHeap less (xs ++ [value])) := by
  refine siftUp_isHeap order _ ?_ (Nat.sub_le _ _)
  have last : (xs ++ [value]).length - 1 = xs.length := by simp
  rw [last]
  have old : ∀ position inside, (xs ++ [value])[position]? = some inside →
      position ≠ xs.length → xs[position]? = some inside := by
    intro position inside found different
    have bound := (List.getElem?_eq_some_iff.mp found).1
    simp only [List.length_append, List.length_singleton] at bound
    rwa [List.getElem?_append_left (by omega)] at found
  constructor
  · intro child positive different high low highAt lowAt
    have upwards := parent_lt positive
    have bound := (List.getElem?_eq_some_iff.mp (old child low lowAt different)).1
    exact heap child positive (Nat.zero_le _) high low (old _ high highAt (by omega))
      (old child low lowAt different)
  · intro child positive under _ high low _ lowAt
    have upwards := parent_lt positive
    have bound := (List.getElem?_eq_some_iff.mp lowAt).1
    simp only [List.length_append, List.length_singleton] at bound
    omega

end Up

/-! ## Moving down -/

section Down

variable {less : α → α → Bool} {xs : List α} {first hole : Nat}

/-- Only the edges out of the hole may be out of order, and the hole's children stay below
its parent. -/
structure SiftDownReady (less : α → α → Bool) (first : Nat) (xs : List α) (hole : Nat) :
    Prop where
  low : first ≤ hole
  off : ∀ child, 0 < child → first ≤ parent child → parent child ≠ hole →
    Dominates less xs (parent child) child
  grand : ∀ child, 0 < child → parent child = hole → 0 < hole → first ≤ parent hole →
    Dominates less xs (parent hole) child

theorem parent_largerChild (less : α → α → Bool) (xs : List α) (hole : Nat) :
    parent (largerChild less xs hole) = hole := by
  unfold largerChild parent
  split
  · split <;> omega
  · omega

theorem largerChild_pos (less : α → α → Bool) (xs : List α) (hole : Nat) :
    hole < largerChild less xs hole := by
  unfold largerChild
  split
  · split <;> omega
  · omega

/-- No child of the hole exceeds the larger one. -/
theorem largerChild_max (order : StrictWeak less) {below : α}
    (belowAt : xs[largerChild less xs hole]? = some below) {child : Nat} (positive : 0 < child)
    (under : parent child = hole) {low : α} (lowAt : xs[child]? = some low) :
    less below low = false := by
  have place := child_of_parent positive
  rw [under] at place
  unfold largerChild at belowAt
  split at belowAt
  · next left right leftAt rightAt =>
      split at belowAt
      · next wider =>
          rw [rightAt] at belowAt
          cases belowAt
          rcases place with rfl | rfl
          · rw [leftAt] at lowAt
            cases lowAt
            exact order.asymm wider
          · rw [rightAt] at lowAt
            cases lowAt
            exact order.irrefl _
      · next narrower =>
          rw [leftAt] at belowAt
          cases belowAt
          rcases place with rfl | rfl
          · rw [leftAt] at lowAt
            cases lowAt
            exact order.irrefl _
          · rw [rightAt] at lowAt
            cases lowAt
            simpa using narrower
  · next absent =>
      rcases place with rfl | rfl
      · rw [lowAt] at belowAt
        cases belowAt
        exact order.irrefl _
      · exact (absent below low belowAt lowAt).elim

theorem largerChild_none {child : Nat} (absent : xs[largerChild less xs hole]? = none)
    (positive : 0 < child) (under : parent child = hole) : xs[child]? = none := by
  have place := child_of_parent positive
  rw [under] at place
  have outside : xs.length ≤ 2 * hole + 1 := by
    unfold largerChild at absent
    split at absent
    · next left right leftAt rightAt =>
        split at absent
        · rw [rightAt] at absent
          cases absent
        · rw [leftAt] at absent
          cases absent
    · exact List.getElem?_eq_none_iff.mp absent
  exact List.getElem?_eq_none_iff.mpr (by omega)

theorem SiftDownReady.move (order : StrictWeak less) (ready : SiftDownReady less first xs hole)
    {value below : α} (valueAt : xs[hole]? = some value)
    (belowAt : xs[largerChild less xs hole]? = some below) (smaller : less value below = true) :
    SiftDownReady less first (swap xs hole (largerChild less xs hole))
      (largerChild less xs hole) := by
  have downwards := largerChild_pos less xs hole
  have upwards := parent_largerChild less xs hole
  have maximal : ∀ child, 0 < child → parent child = hole → ∀ low, xs[child]? = some low →
      less below low = false :=
    fun child positive under low lowAt => largerChild_max order belowAt positive under lowAt
  generalize largerChild less xs hole = target at *
  have entry := getElem?_swap xs (List.getElem?_eq_some_iff.mp valueAt).1
    (List.getElem?_eq_some_iff.mp belowAt).1
  refine ⟨Nat.le_trans ready.low (Nat.le_of_lt downwards), ?_, ?_⟩
  · intro child positive inside different high low highAt lowAt
    have childUp := parent_lt positive
    rw [entry, if_neg different] at highAt
    rw [entry] at lowAt
    by_cases atTarget : child = target
    · rw [if_pos atTarget, valueAt] at lowAt
      rw [atTarget, if_pos upwards, belowAt] at highAt
      cases lowAt
      cases highAt
      exact order.asymm smaller
    · rw [if_neg atTarget] at lowAt
      by_cases atHole : child = hole
      · rw [if_pos atHole] at lowAt
        subst atHole
        rw [if_neg (by omega)] at highAt
        exact ready.grand target (by omega) upwards positive inside _ _ highAt lowAt
      · rw [if_neg atHole] at lowAt
        by_cases underHole : parent child = hole
        · rw [if_pos underHole, belowAt] at highAt
          cases highAt
          exact maximal child positive underHole low lowAt
        · rw [if_neg underHole] at highAt
          exact ready.off child positive inside underHole _ _ highAt lowAt
  · intro child positive under _ _ high low highAt lowAt
    have childUp := parent_lt positive
    rw [upwards, entry, if_neg (by omega), if_pos rfl, belowAt] at highAt
    rw [entry, if_neg (by omega), if_neg (by omega)] at lowAt
    cases highAt
    have lowBound := ready.low
    refine ready.off child positive (by omega) (by omega) _ _ ?_ lowAt
    rw [under]
    exact belowAt

theorem siftDown_heapFrom (order : StrictWeak less) (fuel : Nat)
    (ready : SiftDownReady less first xs hole) (enough : xs.length ≤ hole + fuel) :
    HeapFrom less first (siftDown less fuel hole xs) := by
  induction fuel generalizing hole xs with
  | zero =>
      intro child positive inside high low highAt lowAt
      by_cases under : parent child = hole
      · have bound : parent child < xs.length := (List.getElem?_eq_some_iff.mp highAt).1
        omega
      · exact ready.off child positive inside under _ _ highAt lowAt
  | succ fuel ih =>
      unfold siftDown
      have downwards := largerChild_pos less xs hole
      split
      · next value below valueAt belowAt =>
          split
          · next smaller =>
              refine ih (ready.move order valueAt belowAt smaller) ?_
              rw [(swap_perm xs _ _).length_eq]
              omega
          · next settled =>
              intro child positive inside high low highAt lowAt
              by_cases under : parent child = hole
              · rw [under, valueAt] at highAt
                cases highAt
                exact order.negTrans (by simpa using settled)
                  (largerChild_max order belowAt positive under lowAt)
              · exact ready.off child positive inside under _ _ highAt lowAt
      · next absent =>
          intro child positive inside high low highAt lowAt
          by_cases under : parent child = hole
          · rw [under] at highAt
            cases belowAt : xs[largerChild less xs hole]? with
            | none =>
                rw [largerChild_none belowAt positive under] at lowAt
                cases lowAt
            | some below => exact (absent high below highAt belowAt).elim
          · exact ready.off child positive inside under _ _ highAt lowAt

theorem heapify_isHeap (order : StrictWeak less) (count : Nat) (heap : HeapFrom less count xs) :
    IsHeap less (heapify less count xs) := by
  induction count generalizing xs with
  | zero => exact heap
  | succ count ih =>
      refine ih (siftDown_heapFrom order xs.length ⟨Nat.le_refl _, ?_, ?_⟩ (by omega))
      · intro child positive inside different
        exact heap child positive (by omega)
      · intro child positive under holePositive inside
        have upwards := parent_lt holePositive
        omega

theorem makeHeap_isHeap (order : StrictWeak less) (xs : List α) :
    IsHeap less (makeHeap less xs) := by
  refine heapify_isHeap order _ ?_
  -- No position in the second half has a child.
  intro child positive inside high low _ lowAt
  have bound := (List.getElem?_eq_some_iff.mp lowAt).1
  have place := child_of_parent positive
  omega

end Down

/-! ## The head of a heap -/

section Top

variable {less : α → α → Bool} {xs : List α}

theorem IsHeap.head_max (order : StrictWeak less) (heap : IsHeap less xs) {top : α}
    (topAt : xs[0]? = some top) (position : Nat) {value : α}
    (valueAt : xs[position]? = some value) : less top value = false := by
  induction position using Nat.strongRecOn generalizing value with
  | ind position ih =>
      rcases Nat.eq_zero_or_pos position with rfl | positive
      · rw [topAt] at valueAt
        cases valueAt
        exact order.irrefl _
      · have upwards := parent_lt positive
        have inside := (List.getElem?_eq_some_iff.mp valueAt).1
        have aboveAt : xs[parent position]? = some xs[parent position] :=
          List.getElem?_eq_getElem (by omega)
        exact order.negTrans (ih _ upwards aboveAt)
          (heap position positive (Nat.zero_le _) _ _ aboveAt valueAt)

theorem IsHeap.congr {other : α → α → Bool} (heap : IsHeap less xs)
    (same : ∀ a ∈ xs, ∀ b ∈ xs, other a b = less a b) : IsHeap other xs := by
  intro child positive inside high low highAt lowAt
  rw [same high (List.mem_of_getElem? highAt) low (List.mem_of_getElem? lowAt)]
  exact heap child positive inside high low highAt lowAt

/-- Removing the head: it is a maximum, and the values before the end form a heap again. -/
theorem popHeap_spec (order : StrictWeak less) (heap : IsHeap less xs) (nonempty : xs ≠ []) :
    ∃ rest top, popHeap less xs = rest ++ [top] ∧ (top :: rest).Perm xs ∧ IsHeap less rest ∧
      ∀ value ∈ xs, less top value = false := by
  cases xs with
  | nil => exact absurd rfl nonempty
  | cons top tail =>
      have maximal : ∀ value ∈ top :: tail, less top value = false := by
        intro value member
        obtain ⟨position, found⟩ := List.mem_iff_getElem?.mp member
        exact heap.head_max order rfl position found
      simp only [popHeap]
      split
      · next empty =>
          have none : tail = [] := List.getLast?_eq_none_iff.mp empty
          subst none
          refine ⟨[], top, rfl, List.Perm.refl _, ?_, maximal⟩
          intro child _ _ high low highAt
          simp at highAt
      · next last lastAt =>
          obtain ⟨front, rfl⟩ := List.getLast?_eq_some_iff.mp lastAt
          simp only [List.dropLast_concat]
          refine ⟨_, top, rfl, ?_, ?_, maximal⟩
          · refine ((siftDown_perm less _ _ _).cons top).trans (List.Perm.cons top ?_)
            exact (List.perm_append_singleton last front).symm
          · refine siftDown_heapFrom order _ ⟨Nat.le_refl _, ?_, ?_⟩ (by simp)
            · intro child positive inside different high low highAt lowAt
              have upwards := parent_lt positive
              have bound := (List.getElem?_eq_some_iff.mp lowAt).1
              -- Away from the root the list is the old heap without its last value.
              have old : ∀ position, 0 < position → position < (last :: front).length →
                  (last :: front)[position]? = (top :: (front ++ [last]))[position]? := by
                intro position away within
                obtain ⟨before, rfl⟩ := Nat.exists_eq_succ_of_ne_zero (Nat.ne_of_gt away)
                simp only [List.length_cons, Nat.succ_eq_add_one] at within
                simp only [Nat.succ_eq_add_one, List.getElem?_cons_succ]
                rw [List.getElem?_append_left (by omega)]
              rw [old _ (Nat.pos_of_ne_zero different) (by omega)] at highAt
              rw [old _ positive bound] at lowAt
              exact heap child positive inside high low highAt lowAt
            · intro child _ _ impossible
              omega

theorem maxElement_fold (order : StrictWeak less) (rest : List α) (first : α) :
    let best := rest.foldl (fun best value => if less best value then value else best) first
    best ∈ first :: rest ∧ ∀ value ∈ first :: rest, less best value = false := by
  induction rest generalizing first with
  | nil => exact ⟨List.mem_singleton.mpr rfl, by simpa using order.irrefl first⟩
  | cons next rest ih =>
      simp only [List.foldl_cons]
      split
      · next larger =>
          obtain ⟨member, maximal⟩ := ih next
          refine ⟨List.mem_cons_of_mem first member, ?_⟩
          intro value inside
          rcases List.mem_cons.mp inside with rfl | later
          · exact order.negTrans (maximal next List.mem_cons_self) (order.asymm larger)
          · exact maximal value later
      · next smaller =>
          obtain ⟨member, maximal⟩ := ih first
          refine ⟨?_, ?_⟩
          · rcases List.mem_cons.mp member with same | later
            · exact List.mem_cons.mpr (.inl same)
            · exact List.mem_cons_of_mem first (List.mem_cons_of_mem next later)
          · intro value inside
            rcases List.mem_cons.mp inside with rfl | later
            · exact maximal value List.mem_cons_self
            rcases List.mem_cons.mp later with rfl | last
            · exact order.negTrans (maximal first List.mem_cons_self) (by simpa using smaller)
            · exact maximal value (List.mem_cons_of_mem first last)

/-- The first largest element is a member that no member exceeds. -/
theorem maxElement_spec (order : StrictWeak less) {best : α}
    (found : maxElement less xs = some best) :
    best ∈ xs ∧ ∀ value ∈ xs, less best value = false := by
  cases xs with
  | nil => cases found
  | cons first rest =>
      cases found
      exact maxElement_fold order rest first

theorem maxElement_eq_none_iff : maxElement less xs = none ↔ xs = [] := by
  cases xs <;> simp [maxElement]

end Top

end BinaryHeap
