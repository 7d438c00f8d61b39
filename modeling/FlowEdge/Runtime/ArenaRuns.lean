import FlowEdge.Runtime.Arena

/-!
# Runs of an arena

The spans that an arena gives out, over any allocations, marks and resets.
-/

namespace FlowEdge.Arena

/-- A span that was given out. -/
structure Block where
  (start bytes align : Nat)

inductive Request where
  | alloc (alignBits bytes : Nat)
  | mark
  /-- `reset_to` with a mark that was taken before, in any order. -/
  | resetTo (taken : Nat)

/-- An arena, its live spans and the marks so far, the newest first. -/
structure Run where
  arena : Arena
  blocks : List Block := []
  marks : List Nat := []

namespace Run

def step (run : Run) : Request → Run
  | .alloc alignBits bytes =>
      match run.arena.alloc (2 ^ alignBits) bytes with
      | none => run
      | some (start, arena) =>
          { run with arena, blocks := ⟨start, bytes, 2 ^ alignBits⟩ :: run.blocks }
  | .mark => { run with marks := run.arena.cursor :: run.marks }
  | .resetTo taken =>
      match run.marks[taken]? with
      | none => run
      | some mark =>
          let blocks := run.blocks.filter fun block => block.start + block.bytes ≤ mark
          { run with arena := run.arena.resetTo mark, blocks }

/-- The live spans lie apart, before the cursor. -/
structure Safe (base limit : Nat) (run : Run) : Prop where
  arena : run.arena.limit = limit
  cursor : base ≤ run.arena.cursor ∧ run.arena.cursor ≤ limit
  marks : ∀ mark ∈ run.marks, base ≤ mark ∧ mark ≤ limit
  blocks : ∀ block ∈ run.blocks, block.start % block.align = 0 ∧ base ≤ block.start ∧
    block.start + block.bytes ≤ run.arena.cursor
  apart : run.blocks.Pairwise fun new old => old.start + old.bytes ≤ new.start

theorem Safe.step {base limit : Nat} {run : Run} (safe : run.Safe base limit)
    (request : Request) : (run.step request).Safe base limit := by
  cases request with
  | mark => exact { safe with marks := List.forall_mem_cons.mpr ⟨safe.cursor, safe.marks⟩ }
  | resetTo =>
      simp only [Run.step]
      split
      · exact safe
      next mark found =>
      have within := safe.marks mark (List.mem_of_getElem? found)
      refine ⟨safe.arena, within, safe.marks, fun block member => ?_, safe.apart.filter _⟩
      obtain ⟨live, before⟩ := List.mem_filter.mp member
      obtain ⟨aligned, above, -⟩ := safe.blocks block live
      exact ⟨aligned, above, of_decide_eq_true before⟩
  | alloc alignBits bytes =>
      simp only [Run.step]
      split
      · exact safe
      next start arena allocated =>
      obtain ⟨aligned, above, after, inside, same⟩ := alloc_ok (Nat.two_pow_pos _) allocated
      have low := safe.cursor.1.trans above
      have grown : run.arena.cursor ≤ arena.cursor := by omega
      refine ⟨same.trans safe.arena, ⟨safe.cursor.1.trans grown, ?_⟩, safe.marks, ?_, ?_⟩
      · exact inside.trans (same.trans safe.arena).le
      · refine List.forall_mem_cons.mpr ⟨⟨aligned, low, after.ge⟩, fun block member => ?_⟩
        exact (safe.blocks block member).imp_right (.imp_right (·.trans grown))
      · exact safe.apart.cons fun block member => (safe.blocks block member).2.2.trans above

/-- **Live spans never overlap.** After any requests to the arena of a slab, every span that no
reset took back is aligned and inside the slab, and any two of them lie apart. -/
theorem live_spans_safe (base size : Nat) (requests : List Request) :
    (requests.foldl step { arena := ⟨base, base + size⟩ }).Safe base (base + size) := by
  refine List.foldlRecOn requests _ ?_ fun run safe request _ => safe.step request
  exact ⟨rfl, ⟨Nat.le_refl _, Nat.le_add_right _ _⟩, by simp, by simp, .nil⟩

end Run

end FlowEdge.Arena
