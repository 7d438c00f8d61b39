import Mathlib.Algebra.Order.Floor.Div
import Mathlib.Data.Nat.Basic

/-!
# Arenas

The bump allocator of the runtime. Addresses are numbers; the slab is given by the address of
the next free byte and the address behind its last one.
-/

namespace FlowEdge

def simdAlign : Nat := 64

theorem simdAlign_pos : 0 < simdAlign := by decide

/-- The largest value of `std::size_t`. -/
def maxSize : Nat := 2 ^ 64 - 1

/-- The first multiple of `align` from an address on. -/
def alignUp (align address : Nat) : Nat := (address + (align - 1)) / align * align

/-- `Arena`, as addresses: what is free lies between the two. -/
structure Arena where
  cursor : Nat
  limit : Nat
  deriving DecidableEq

namespace Arena

/-- `alloc`. The null pointer, which `std::align` finds in the empty slab, is no allocation. -/
def alloc (align : Nat) (arena : Arena) (bytes : Nat) : Option (Nat × Arena) :=
  let start := alignUp align arena.cursor
  if start = 0 ∨ arena.limit < start + bytes then none
  else some (start, { arena with cursor := start + bytes })

/-- `alloc_array`: `count` elements, if their size does not overflow. -/
def allocArray (elementBytes align : Nat) (arena : Arena) (count : Nat) : Option (Nat × Arena) :=
  if count > maxSize / elementBytes then none
  else arena.alloc align (count * elementBytes)

/-- `reset_to`, with the mark that `mark` gave. -/
def resetTo (arena : Arena) (mark : Nat) : Arena := { arena with cursor := mark }

end Arena

theorem le_alignUp {align : Nat} (positive : 0 < align) (address : Nat) :
    address ≤ alignUp align address := by
  have division := Nat.div_add_mod (address + (align - 1)) align
  have remainder := Nat.mod_lt (address + (align - 1)) positive
  rw [alignUp, Nat.mul_comm]
  omega

theorem alignUp_lt {align : Nat} (positive : 0 < align) (address : Nat) :
    alignUp align address < address + align := by
  have division := Nat.div_mul_le_self (address + (align - 1)) align
  rw [alignUp]
  omega

theorem alignUp_mod (align address : Nat) : alignUp align address % align = 0 :=
  Nat.mul_mod_left _ _

/-- What an allocation gives. -/
theorem Arena.alloc_ok {align bytes start : Nat} {arena after : Arena} (positive : 0 < align)
    (allocated : arena.alloc align bytes = some (start, after)) :
    start % align = 0 ∧ arena.cursor ≤ start ∧ after.cursor = start + bytes ∧
      after.cursor ≤ after.limit ∧ after.limit = arena.limit := by
  unfold Arena.alloc at allocated
  dsimp only at allocated
  split at allocated
  · cases allocated
  · next fits =>
      cases allocated
      simp only [not_or, Nat.not_lt] at fits
      exact ⟨alignUp_mod align arena.cursor, le_alignUp positive arena.cursor, rfl, fits.2, rfl⟩

/-- An allocation succeeds where there is room for the bytes before the next aligned address. -/
theorem Arena.alloc_of_room {align bytes : Nat} {arena : Arena} (positive : 0 < align)
    (placed : 0 < arena.cursor) (room : arena.cursor + (align - 1) + bytes ≤ arena.limit) :
    ∃ start, arena.alloc align bytes = some (start, { arena with cursor := start + bytes }) ∧
      start ≤ arena.cursor + (align - 1) := by
  have above := le_alignUp positive arena.cursor
  have below := alignUp_lt positive arena.cursor
  refine ⟨alignUp align arena.cursor, ?_, by omega⟩
  unfold Arena.alloc
  rw [if_neg (by omega)]

end FlowEdge
