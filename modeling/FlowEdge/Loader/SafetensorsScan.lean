import FlowEdge.Loader.SafetensorsHeader

/-!
# Scanning safetensors headers

`foreach_tensor` looks for quotes and counts braces without regard to strings. It makes the calls
that a header calls for just if no name of a tensor has a quote in it and the braces in the
strings of the metadata do not mislead it.
-/

namespace FlowEdge

open TrackedWords JsonText

/-! ## The calls of a header -/

/-- The calls that a member at a position calls for. -/
def HeaderMember.calls (position : Nat) : HeaderMember → List TensorEntry
  | .metadata _ _ => []
  | .tensor spacing name _ object =>
      [object.entry ⟨position + spacing.lead.text.length + 1, name.text⟩]

def memberCalls : Nat → List HeaderMember → List TensorEntry
  | _, [] => []
  | position, member :: rest =>
      member.calls position ++ memberCalls (position + member.text.length + 1) rest

def Header.calls (header : Header) : List TensorEntry :=
  memberCalls (header.before.text.length + 1 + header.lead.text.length) header.members

/-! ## Metadata without regard to strings -/

inductive SkimPhase where
  | member
  | name (text : List UInt8)
  | object
  | body (depth : Nat)
  deriving DecidableEq

/-- What becomes of the metadata if quotes and braces in its strings count. -/
inductive Skim where
  /-- Its text ends in a phase. -/
  | inside (phase : SkimPhase)
  /-- A brace in it is taken for the one that closes the header. -/
  | stopped
  /-- A part of it is taken for a member of the header other than metadata. -/
  | strayed
  deriving DecidableEq

def skim : SkimPhase → List UInt8 → Skim
  | phase, [] => .inside phase
  | .member, c :: rest =>
      if c = quote then skim (.name []) rest
      else if c = closeBrace then .stopped
      else skim .member rest
  | .name text, c :: rest =>
      if c = quote then if text = metadataName then skim .object rest else .strayed
      else skim (.name (text ++ [c])) rest
  | .object, c :: rest =>
      if c = openBrace then skim (.body 1) rest
      else if c = closeBrace then .strayed
      else skim .object rest
  | .body depth, c :: rest =>
      if braceDepth depth c ≠ 0 then skim (.body (braceDepth depth c)) rest
      else skim .member rest

/-- The quotes and braces in the strings of a header do no harm: no name of a tensor has a quote
in it, and the metadata is left at its end, or else taken for the end of the header where nothing
follows it. -/
def Readable : List HeaderMember → Prop
  | [] => True
  | .tensor _ name _ _ :: rest => quote ∉ name.text ∧ Readable rest
  | .metadata _ object :: rest =>
      skim .object object.text = .inside .member ∧ Readable rest ∨
        skim .object object.text = .stopped ∧ rest = []

/-! ## One callback for all -/

/-- A callback that returns true is called as the one that notes its calls. -/
theorem scanTensors_of_calls {σ : Type} (callback : TensorEntry → σ → σ) (initial : σ)
    (text : List UInt8) (position : Nat) (phase : ScanPhase) (entries : List TensorEntry) :
    scanTensors (fun entry state => pure (true, callback entry state)) text position phase
        (entries.foldl (fun state entry => callback entry state) initial) =
      (fun result => (result.1,
        result.2.foldl (fun state entry => callback entry state) initial)) <$>
        scanTensors collectEntry text position phase entries := by
  induction text generalizing position phase entries with
  | nil => rfl
  | cons c rest ih =>
      cases phase with
      | root => exact ih _ _ _
      | member =>
          simp only [scanTensors]
          split
          · exact ih _ _ _
          · split
            · rfl
            · exact ih _ _ _
      | name => exact ih _ _ _
      | object =>
          simp only [scanTensors]
          split
          · exact ih _ _ _
          · split
            · rfl
            · exact ih _ _ _
      | body name depth text =>
          simp only [scanTensors]
          split
          · exact ih _ _ _
          · split
            · exact ih _ _ _
            · obtain ⟨result, same, -⟩ := exact_tensorEntry name (text ++ [c])
              rw [same, pure_bind, pure_bind]
              cases result with
              | none => rfl
              | some entry =>
                  have after := ih (position + 1) .member (entries ++ [entry])
                  rw [List.foldl_append] at after
                  exact after

/-! ## Passing over text -/

section Skip

variable {σ : Type} {callback : TensorEntry → σ → Tracked (Bool × σ)} {skipped : List UInt8}
  (rest : List UInt8) (position : Nat) (state : σ)

theorem scanTensors_member_skip (noQuote : quote ∉ skipped) (noBrace : closeBrace ∉ skipped) :
    scanTensors callback (skipped ++ rest) position .member state =
      scanTensors callback rest (position + skipped.length) .member state := by
  induction skipped generalizing position with
  | nil => rfl
  | cons c more ih =>
      rw [List.mem_cons, not_or] at noQuote noBrace
      rw [List.cons_append, scanTensors, if_neg (Ne.symm noQuote.1), if_neg (Ne.symm noBrace.1),
        ih _ noQuote.2 noBrace.2, List.length_cons, Nat.add_assoc, Nat.add_comm 1]

theorem scanTensors_name_skip (noQuote : quote ∉ skipped) (start : Nat) (text : List UInt8) :
    scanTensors callback (skipped ++ rest) position (.name start text) state =
      scanTensors callback rest (position + skipped.length) (.name start (text ++ skipped))
        state := by
  induction skipped generalizing position text with
  | nil => rw [List.append_nil]; rfl
  | cons c more ih =>
      rw [List.mem_cons, not_or] at noQuote
      rw [List.cons_append, scanTensors, if_neg (Ne.symm noQuote.1), ih _ noQuote.2,
        List.length_cons, Nat.add_assoc, Nat.add_comm 1, List.append_assoc, List.singleton_append]

theorem scanTensors_object_skip (noOpen : openBrace ∉ skipped) (noClose : closeBrace ∉ skipped)
    (name : NameView) :
    scanTensors callback (skipped ++ rest) position (.object name) state =
      scanTensors callback rest (position + skipped.length) (.object name) state := by
  induction skipped generalizing position with
  | nil => rfl
  | cons c more ih =>
      rw [List.mem_cons, not_or] at noOpen noClose
      rw [List.cons_append, scanTensors, if_neg (Ne.symm noOpen.1), if_neg (Ne.symm noClose.1),
        ih _ noOpen.2 noClose.2, List.length_cons, Nat.add_assoc, Nat.add_comm 1]

theorem scanTensors_body_skip (noOpen : openBrace ∉ skipped) (noClose : closeBrace ∉ skipped)
    (name : NameView) {depth : Nat} (inside : depth ≠ 0) (text : List UInt8) :
    scanTensors callback (skipped ++ rest) position (.body name depth text) state =
      scanTensors callback rest (position + skipped.length) (.body name depth (text ++ skipped))
        state := by
  induction skipped generalizing position text with
  | nil => rw [List.append_nil]; rfl
  | cons c more ih =>
      rw [List.mem_cons, not_or] at noOpen noClose
      have same : braceDepth depth c = depth := by
        rw [braceDepth, if_neg (Ne.symm noOpen.1), if_neg (Ne.symm noClose.1)]
      rw [List.cons_append, scanTensors, same, if_pos inside, ih _ noOpen.2 noClose.2,
        List.length_cons, Nat.add_assoc, Nat.add_comm 1, List.append_assoc, List.singleton_append]

/-- White space around the parts of a member is passed over, wherever it stands. -/
theorem scanTensors_member_blank (blank : Blank) :
    scanTensors callback (blank.text ++ rest) position .member state =
      scanTensors callback rest (position + blank.text.length) .member state :=
  scanTensors_member_skip rest position state (blank.free (by decide)) (blank.free (by decide))

theorem scanTensors_object_blank (blank : Blank) (name : NameView) :
    scanTensors callback (blank.text ++ rest) position (.object name) state =
      scanTensors callback rest (position + blank.text.length) (.object name) state :=
  scanTensors_object_skip rest position state (blank.free (by decide)) (blank.free (by decide))
    name

end Skip

/-! ## Members -/

section Members

variable {σ : Type} {callback : TensorEntry → σ → Tracked (Bool × σ)}
  (rest : List UInt8) (position : Nat) (state : σ)

/-- A name ends at the next quote. -/
theorem scanTensors_name (lead : Blank) {name : List UInt8} (noQuote : quote ∉ name) :
    scanTensors callback (lead.text ++ (quote :: (name ++ quote :: rest))) position .member state =
      scanTensors callback rest (position + lead.text.length + 1 + name.length + 1)
        (.object ⟨position + lead.text.length + 1, name⟩) state := by
  rw [scanTensors_member_blank, scanTensors, if_pos rfl, scanTensors_name_skip _ _ _ noQuote,
    scanTensors, if_pos rfl]
  rfl

/-- A member whose name has no quote in it is read up to its value. -/
theorem scanTensors_memberText (spacing : Spacing) {key : List UInt8} (noQuote : quote ∉ key)
    (value : List UInt8) :
    scanTensors callback (memberText spacing key value ++ rest) position .member state =
      scanTensors callback (value ++ (spacing.trail.text ++ rest))
        (position + (memberText spacing key []).length - spacing.trail.text.length)
        (.object ⟨position + spacing.lead.text.length + 1, key⟩) state := by
  have length : position + (memberText spacing key []).length - spacing.trail.text.length =
      position + spacing.lead.text.length + 1 + key.length + 1 +
        spacing.beforeColon.text.length + 1 + spacing.afterColon.text.length := by
    simp only [memberText, quoted, List.length_append, List.length_cons, List.length_nil]
    omega
  rw [length, memberText_append, quoted_append, scanTensors_name _ _ _ _ noQuote,
    scanTensors_object_blank, scanTensors, if_neg (by decide), if_neg (by decide),
    scanTensors_object_blank]

end Members

namespace TensorObject

variable (object : TensorObject)

/-- A tensor has no braces but those around its fields. -/
theorem brace_not_mem_field {brace : UInt8} (isBrace : brace = openBrace ∨ brace = closeBrace)
    (field : TensorField) : brace ∉ object.fieldText field := by
  have visible : isSpace brace = false := by rcases isBrace with rfl | rfl <;> rfl
  have notDigit : isDigit brace = false := by rcases isBrace with rfl | rfl <;> rfl
  have notMark : brace ∉ [comma, openBracket, closeBracket] := by
    rcases isBrace with rfl | rfl <;> decide
  have value : brace ∉ object.fieldValue field := by
    cases field with
    | dtype =>
        simp only [fieldValue, quoted, List.cons_append, List.mem_cons, List.mem_append,
          List.not_mem_nil, or_false, not_or]
        have notQuote : brace ≠ quote := by rcases isBrace with rfl | rfl <;> decide
        refine ⟨notQuote, fun member => ?_, notQuote⟩
        rcases isBrace with rfl | rfl <;>
          exact absurd (object.dtype.legal _ member) (by decide)
    | shape => exact not_mem_array visible notDigit notMark _ object.shape
    | dataOffsets => exact not_mem_array visible notDigit notMark _ [object.start, object.stop]
  have key : brace ∉ quoted field.key := by
    rcases isBrace with rfl | rfl <;> cases field <;> decide
  have colon : brace ≠ colon := by rcases isBrace with rfl | rfl <;> decide
  simp only [fieldText, memberText, List.mem_append, List.mem_singleton, not_or]
  exact ⟨⟨⟨⟨⟨⟨Blank.free visible _, key⟩, Blank.free visible _⟩, colon⟩,
    Blank.free visible _⟩, value⟩, Blank.free visible _⟩

/-- The text between the braces of a tensor. -/
def inner : List UInt8 := object.lead.text ++ joined (object.order.map object.fieldText)

theorem text_eq_inner : object.text = openBrace :: (object.inner ++ [closeBrace]) := by
  simp [text, objectText, inner]

theorem brace_not_mem_inner {brace : UInt8} (isBrace : brace = openBrace ∨ brace = closeBrace) :
    brace ∉ object.inner := by
  have visible : isSpace brace = false := by rcases isBrace with rfl | rfl <;> rfl
  intro member
  rcases List.mem_append.mp member with here | here
  · exact object.lead.free visible here
  · rcases of_mem_joined here with rfl | ⟨text, known, here⟩
    · exact absurd isBrace (by decide)
    · obtain ⟨field, -, rfl⟩ := List.mem_map.mp known
      exact object.brace_not_mem_field isBrace field here

/-- **One tensor.** Behind its name a tensor makes the call that it calls for. -/
theorem scanTensors_text {name : NameView} (named : name.text ≠ metadataName)
    (rest : List UInt8) (position : Nat) (entries : List TensorEntry) :
    scanTensors collectEntry (object.text ++ rest) position (.object name) entries =
      scanTensors collectEntry rest (position + object.text.length) .member
        (entries ++ [object.entry name]) := by
  have length : position + 1 + object.inner.length + 1 = position + object.text.length := by
    simp only [text_eq_inner, List.length_append, List.length_cons, List.length_nil]
    omega
  have text : [openBrace] ++ object.inner ++ [closeBrace] = object.text := by
    simp [text_eq_inner]
  rw [text_eq_inner, List.cons_append, List.append_assoc, List.singleton_append, scanTensors,
    if_pos rfl, scanTensors_body_skip _ _ _ (object.brace_not_mem_inner (.inl rfl))
      (object.brace_not_mem_inner (.inr rfl)) _ (by decide), scanTensors, if_neg (by decide),
    if_neg named, text, object.tensorEntry_text, pure_bind, ← text_eq_inner, ← length]
  rfl

end TensorObject

/-! ## Runs of the scanner -/

/-- The moves between the loops of `foreach_tensor` without a call. -/
inductive ScanPhase.Moves (position : Nat) : ScanPhase → ScanPhase → Prop where
  | root : Moves position .root .root
  | opened : Moves position .root .member
  | between : Moves position .member .member
  | quoted : Moves position .member (.name (position + 1) [])
  | spelled {start : Nat} {text : List UInt8} (c : UInt8) :
      Moves position (.name start text) (.name start (text ++ [c]))
  | named {start : Nat} {text : List UInt8} :
      Moves position (.name start text) (.object ⟨start, text⟩)
  | seeking {name : NameView} : Moves position (.object name) (.object name)
  | entered {name : NameView} {text : List UInt8} :
      Moves position (.object name) (.body name 1 text)
  | inside {name : NameView} {depth later : Nat} {text more : List UInt8} :
      Moves position (.body name depth text) (.body name later more)
  | left {name : NameView} {depth : Nat} {text : List UInt8} (metadata : name.text = metadataName) :
      Moves position (.body name depth text) .member

/-- What a character does to a scan that succeeds in the end. -/
inductive ScanStep (c : UInt8) (rest : List UInt8) (position : Nat) (out : List TensorEntry) :
    ScanPhase → List TensorEntry → Prop where
  | move {phase next : ScanPhase} {entries : List TensorEntry} (moves : phase.Moves position next)
      (done : scanTensors collectEntry rest (position + 1) next entries = pure (true, out)) :
      ScanStep c rest position out phase entries
  | call {name : NameView} {depth : Nat} {text : List UInt8} {entries : List TensorEntry}
      (entry : TensorEntry) (named : entry.name = name) (tensor : name.text ≠ metadataName)
      (done : scanTensors collectEntry rest (position + 1) .member (entries ++ [entry]) =
        pure (true, out)) :
      ScanStep c rest position out (.body name depth text) entries
  | close (brace : c = closeBrace) : ScanStep c rest position out .member out

variable {position : Nat} {phase : ScanPhase} {entries : List TensorEntry} {out : List TensorEntry}

theorem scanStep_of_cons {c : UInt8} {rest : List UInt8}
    (done : scanTensors collectEntry (c :: rest) position phase entries = pure (true, out)) :
    ScanStep c rest position out phase entries := by
  have failed : ∀ {entries}, (pure (false, entries) : Tracked (Bool × List TensorEntry)) ≠
      pure (true, out) := fun same => by cases pure_inj same
  cases phase with
  | root =>
      rw [scanTensors] at done
      split at done
      · exact .move .opened done
      · exact .move .root done
  | member =>
      rw [scanTensors] at done
      split at done
      · exact .move .quoted done
      · split at done
        · next brace =>
            cases pure_inj done
            exact .close brace
        · exact .move .between done
  | name =>
      rw [scanTensors] at done
      split at done
      · exact .move .named done
      · exact .move (.spelled c) done
  | object =>
      rw [scanTensors] at done
      split at done
      · exact .move .entered done
      · split at done
        · exact absurd done failed
        · exact .move .seeking done
  | body name depth text =>
      rw [scanTensors] at done
      split at done
      · exact .move .inside done
      · split at done
        · next metadata => exact .move (.left metadata) done
        · next tensor =>
            obtain ⟨result, same, known⟩ := exact_tensorEntry name (text ++ [c])
            rw [same, pure_bind] at done
            cases result with
            | none => exact absurd done failed
            | some entry => exact .call entry (known entry rfl).1 tensor done

/-- The name that a call would have now begins at the bound or later. -/
def ScanPhase.After (bound : Nat) : ScanPhase → Prop
  | .root => True
  | .member => True
  | .name start _ => bound ≤ start
  | .object view => view.text = metadataName ∨ bound ≤ view.start
  | .body view _ _ => view.text = metadataName ∨ bound ≤ view.start

theorem ScanPhase.After.member (bound : Nat) : ScanPhase.member.After bound := trivial

theorem ScanPhase.After.metadata (bound start depth : Nat) (text : List UInt8) :
    (ScanPhase.body ⟨start, metadataName⟩ depth text).After bound :=
  .inl rfl

theorem ScanPhase.After.move {bound : Nat} {next : ScanPhase} (after : phase.After bound)
    (reached : bound ≤ position + 1) (moves : phase.Moves position next) : next.After bound := by
  cases moves with
  | root | opened | between | left metadata => trivial
  | quoted => exact reached
  | spelled => exact after
  | named => exact .inr after
  | seeking | entered | inside => exact after

variable {text : List UInt8}

/-- The calls of a scan that succeeds have names behind where it began. -/
theorem scanTensors_later {bound : Nat} (reached : bound ≤ position + 1) (after : phase.After bound)
    (done : scanTensors collectEntry text position phase entries = pure (true, out)) :
    ∃ more, out = entries ++ more ∧ ∀ entry ∈ more, bound ≤ entry.name.start := by
  induction text generalizing position phase entries with
  | nil => cases pure_inj done
  | cons c rest ih =>
      cases scanStep_of_cons done with
      | move moves done => exact ih (by omega) (after.move reached moves) done
      | call entry named tensor done =>
          obtain ⟨more, rfl, later⟩ := ih (by omega) (.member bound) done
          refine ⟨entry :: more, by simp, List.forall_mem_cons.mpr ⟨?_, later⟩⟩
          rw [named]
          exact after.resolve_left tensor
      | close => exact ⟨[], by simp, by simp⟩

/-- The name of the tensor that a scan is at. -/
inductive ScanPhase.Pending (name : NameView) : ScanPhase → Prop where
  | object : Pending name (.object name)
  | body (depth : Nat) (text : List UInt8) : Pending name (.body name depth text)

/-- A scan that is at a tensor and succeeds calls for this tensor next. -/
theorem scanTensors_pending {name : NameView} (tensor : name.text ≠ metadataName)
    (pending : phase.Pending name)
    (done : scanTensors collectEntry text position phase entries = pure (true, out)) :
    ∃ entry more, out = entries ++ entry :: more ∧ entry.name = name := by
  induction text generalizing position phase entries with
  | nil => cases pure_inj done
  | cons c rest ih =>
      cases scanStep_of_cons done with
      | move moves done =>
          cases pending with
          | object =>
              cases moves with
              | seeking => exact ih .object done
              | entered => exact ih (.body _ _) done
          | body =>
              cases moves with
              | inside => exact ih (.body _ _) done
              | left metadata => exact absurd metadata tensor
      | call entry named _ done =>
          obtain ⟨more, same, -⟩ := scanTensors_later (Nat.zero_le _) (.member 0) done
          cases pending
          exact ⟨entry, more, by simp [same], named⟩
      | close => cases pending

/-- A scan succeeds at a closing brace. -/
theorem closeBrace_mem_of_done
    (done : scanTensors collectEntry text position phase entries = pure (true, out)) :
    closeBrace ∈ text := by
  induction text generalizing position phase entries with
  | nil => cases pure_inj done
  | cons c rest ih =>
      cases scanStep_of_cons done with
      | move moves done => exact List.mem_cons_of_mem _ (ih done)
      | call entry named tensor done => exact List.mem_cons_of_mem _ (ih done)
      | close brace => exact brace ▸ List.mem_cons_self

/-! ## Metadata -/

/-- The loop that the scanner is in while it is at metadata, or between members. -/
inductive SkimPhase.Matches (position : Nat) : SkimPhase → ScanPhase → Prop where
  | member : Matches position .member .member
  | name {start : Nat} {text : List UInt8} (before : start ≤ position) :
      Matches position (.name text) (.name start text)
  | object (start : Nat) : Matches position .object (.object ⟨start, metadataName⟩)
  | body (start depth : Nat) (text : List UInt8) :
      Matches position (.body depth) (.body ⟨start, metadataName⟩ depth text)

/-- What skimming says of a scan. -/
def Skim.Tells (skim : Skim) (text : List UInt8) (position : Nat) (phase : ScanPhase)
    (entries : List TensorEntry) : Prop :=
  match skim with
  | .inside last => ∃ next, last.Matches (position + text.length) next ∧ ∀ rest,
      scanTensors collectEntry (text ++ rest) position phase entries =
        scanTensors collectEntry rest (position + text.length) next entries
  | .stopped => ∀ rest, scanTensors collectEntry (text ++ rest) position phase entries =
      pure (true, entries)
  | .strayed => ∀ rest out,
      scanTensors collectEntry (text ++ rest) position phase entries = pure (true, out) →
        ∃ entry more, out = entries ++ entry :: more ∧
          entry.name.start ≤ position + text.length

theorem Skim.Tells.cons {result : Skim} {c : UInt8} {next : ScanPhase}
    (step : ∀ rest, scanTensors collectEntry (c :: rest) position phase entries =
      scanTensors collectEntry rest (position + 1) next entries)
    (tells : result.Tells text (position + 1) next entries) :
    result.Tells (c :: text) position phase entries := by
  have length : position + (c :: text).length = position + 1 + text.length := by
    rw [List.length_cons]
    omega
  cases result with
  | inside =>
      obtain ⟨final, same, scans⟩ := tells
      refine ⟨final, length ▸ same, fun rest => ?_⟩
      rw [List.cons_append, step, length]
      exact scans rest
  | stopped =>
      intro rest
      rw [List.cons_append, step]
      exact tells rest
  | strayed =>
      intro rest out done
      rw [List.cons_append, step] at done
      rw [length]
      exact tells rest out done

/-- Skimming tells what the scanner does at metadata. -/
theorem skim_tells (text : List UInt8) {phase : SkimPhase} {scan : ScanPhase}
    (same : phase.Matches position scan) (entries : List TensorEntry) :
    (skim phase text).Tells text position scan entries := by
  induction text generalizing position phase scan with
  | nil => cases phase <;> exact ⟨scan, same, fun rest => rfl⟩
  | cons c rest ih =>
      cases same with
      | member =>
          rw [skim]
          split
          · next isQuote =>
              refine .cons (fun rest => ?_) (ih (.name (Nat.le_refl _)))
              rw [scanTensors, if_pos isQuote]
          next notQuote =>
          split
          · next isBrace =>
              intro rest
              rw [List.cons_append, scanTensors, if_neg notQuote, if_pos isBrace]
          · next notBrace =>
              refine .cons (fun rest => ?_) (ih .member)
              rw [scanTensors, if_neg notQuote, if_neg notBrace]
      | @name start text before =>
          rw [skim]
          split
          · next isQuote =>
              have step : ∀ rest, scanTensors collectEntry (c :: rest) position (.name start text)
                  entries = scanTensors collectEntry rest (position + 1) (.object ⟨start, text⟩)
                    entries := fun rest => by rw [scanTensors, if_pos isQuote]
              split
              · next metadata =>
                  subst metadata
                  exact .cons step (ih (.object start))
              · next tensor =>
                  refine .cons step fun rest out done => ?_
                  obtain ⟨entry, more, split, named⟩ := scanTensors_pending tensor .object done
                  refine ⟨entry, more, split, ?_⟩
                  rw [named]
                  dsimp only
                  omega
          · next notQuote =>
              refine .cons (fun rest => ?_) (ih (.name (Nat.le_succ_of_le before)))
              rw [scanTensors, if_neg notQuote]
      | object start =>
          rw [skim]
          split
          · next isOpen =>
              refine .cons (fun rest => ?_) (ih (.body start 1 [c]))
              rw [scanTensors, if_pos isOpen]
          next notOpen =>
          split
          · next isClose =>
              intro rest out done
              rw [List.cons_append, scanTensors, if_neg notOpen, if_pos isClose] at done
              cases pure_inj done
          · next notClose =>
              refine .cons (fun rest => ?_) (ih (.object start))
              rw [scanTensors, if_neg notOpen, if_neg notClose]
      | body start depth text =>
          rw [skim]
          split
          · next deep =>
              refine .cons (fun rest => ?_) (ih (.body start _ (text ++ [c])))
              rw [scanTensors, if_pos deep]
          · next closed =>
              refine .cons (fun rest => ?_) (ih .member)
              rw [scanTensors, if_neg closed, if_pos rfl]

/-- Where skimming can be behind a closing brace. -/
theorem skim_closeBrace {phase last : SkimPhase}
    (ends : skim phase (text ++ [closeBrace]) = .inside last) :
    last = .member ∨ (∃ name, last = .name (name ++ [closeBrace])) ∨
      ∃ depth, depth ≠ 0 ∧ last = .body depth := by
  induction text generalizing phase with
  | nil =>
      cases phase with
      | member => cases ends
      | name text =>
          cases ends
          exact .inr (.inl ⟨text, rfl⟩)
      | object => cases ends
      | body =>
          rw [List.nil_append, skim] at ends
          split at ends
          · next deep =>
              cases ends
              exact .inr (.inr ⟨_, deep, rfl⟩)
          · cases ends
            exact .inl rfl
  | cons c rest ih =>
      cases phase with
      | member =>
          rw [List.cons_append, skim] at ends
          split at ends
          · exact ih ends
          · split at ends
            · cases ends
            · exact ih ends
      | name =>
          rw [List.cons_append, skim] at ends
          split at ends
          · split at ends
            · exact ih ends
            · cases ends
          · exact ih ends
      | object =>
          rw [List.cons_append, skim] at ends
          split at ends
          · exact ih ends
          · split at ends
            · cases ends
            · exact ih ends
      | body =>
          rw [List.cons_append, skim] at ends
          split at ends
          · exact ih ends
          · exact ih ends

/-- A name with a brace in it is that of the next call. -/
theorem scanTensors_braced_name {start : Nat} {name : List UInt8} (brace : closeBrace ∈ name)
    (done : scanTensors collectEntry text position (.name start name) entries = pure (true, out)) :
    ∃ entry more, out = entries ++ entry :: more ∧ entry.name.start = start := by
  induction text generalizing position name with
  | nil => cases pure_inj done
  | cons c rest ih =>
      cases scanStep_of_cons done with
      | move moves done =>
          cases moves with
          | spelled => exact ih (List.mem_append_left _ brace) done
          | named =>
              have tensor : name ≠ metadataName := by
                rintro rfl
                exact absurd brace (by decide)
              obtain ⟨entry, more, same, named⟩ := scanTensors_pending tensor .object done
              exact ⟨entry, more, same, by rw [named]⟩

/-! ## Headers -/

theorem TensorObject.entry_name (object : TensorObject) (name : NameView) :
    (object.entry name).name = name := by
  rw [TensorObject.entry]
  split <;> rfl

theorem lt_start_of_mem_memberCalls {members : List HeaderMember} {entry : TensorEntry}
    (member : entry ∈ memberCalls position members) : position < entry.name.start := by
  induction members generalizing position with
  | nil => cases member
  | cons first rest ih =>
      rcases List.mem_append.mp member with here | later
      · cases first with
        | metadata => cases here
        | tensor spacing name named object =>
            rw [List.mem_singleton.mp here, object.entry_name]
            dsimp only
            omega
      · have := ih later
        omega

/-- A call with an earlier name is none of the header's. -/
theorem memberCalls_not_early {members : List HeaderMember} {more : List TensorEntry}
    {entry : TensorEntry}
    (same : entries ++ memberCalls position members = entries ++ entry :: more) :
    position < entry.name.start := by
  have member : entry ∈ memberCalls position members := by
    rw [List.append_cancel_left same]
    exact List.mem_cons_self
  exact lt_start_of_mem_memberCalls member

/-- The members behind one, and the end of the header. -/
def membersBehind (members : List HeaderMember) (after : Blank) : List UInt8 :=
  (members.flatMap fun member => comma :: member.text) ++ closeBrace :: after.text

theorem membersBehind_cons (member : HeaderMember) (members : List HeaderMember) (after : Blank) :
    membersBehind (member :: members) after =
      comma :: (member.text ++ membersBehind members after) := by
  simp [membersBehind]

section Header

variable (after : Blank) (position : Nat) (entries : List TensorEntry)

/-- A tensor whose name has no quote in it makes its call. -/
theorem scanTensors_tensor (spacing : Spacing) (name : JsonString)
    (named : name.text ≠ metadataName) (object : TensorObject) (noQuote : quote ∉ name.text)
    (rest : List UInt8) :
    let member := HeaderMember.tensor spacing name named object
    scanTensors collectEntry (member.text ++ rest) position .member entries =
      scanTensors collectEntry rest (position + member.text.length) .member
        (entries ++ member.calls position) := by
  have length : position + (memberText spacing name.text []).length -
      spacing.trail.text.length + object.text.length + spacing.trail.text.length =
        position + (memberText spacing name.text object.text).length := by
    simp only [memberText, List.length_append, List.length_nil]
    omega
  change scanTensors collectEntry (memberText spacing name.text object.text ++ rest) _ _ _ =
    scanTensors collectEntry rest (position + (memberText spacing name.text object.text).length) _ _
  rw [scanTensors_memberText _ _ _ _ noQuote, object.scanTensors_text named,
    scanTensors_member_blank, length]
  rfl

/-- A tensor whose name has a quote in it does not make its call. -/
theorem scanTensors_quoted_tensor (spacing : Spacing) (name : JsonString)
    (named : name.text ≠ metadataName) (object : TensorObject) (hasQuote : quote ∈ name.text)
    (rest : List UInt8) {out more : List TensorEntry}
    (calls : out = entries ++
      ((HeaderMember.tensor spacing name named object).calls position ++ more)) :
    scanTensors collectEntry ((HeaderMember.tensor spacing name named object).text ++ rest)
      position .member entries ≠ pure (true, out) := by
  obtain ⟨front, back, split, noQuote⟩ := List.eq_append_cons_of_mem hasQuote
  intro done
  have tensor : front ≠ metadataName := by
    have legal := name.legal
    rw [split] at legal
    rintro rfl
    exact absurd legal.backslash_before (by decide)
  change scanTensors collectEntry (memberText spacing name.text object.text ++ rest) _ _ _ = _
    at done
  rw [memberText_append, quoted_append, split, List.append_assoc, List.cons_append,
    scanTensors_name _ _ _ _ noQuote] at done
  obtain ⟨entry, others, same, pending⟩ := scanTensors_pending tensor .object done
  rw [calls] at same
  have heads := List.append_cancel_left same
  rw [HeaderMember.calls, List.singleton_append, List.cons.injEq] at heads
  rw [← heads.1, object.entry_name, NameView.mk.injEq, split] at pending
  simp at pending

/-- Metadata whose braces stay open covers the name of the next tensor, or the end of the
header. -/
theorem scanTensors_open_body {members : List HeaderMember} (trail : Blank)
    (noMetadata : ∀ member ∈ members, member.isMetadata = false) (start : Nat) {depth : Nat}
    (inside : depth ≠ 0) (text : List UInt8) :
    scanTensors collectEntry (trail.text ++ membersBehind members after) position
        (.body ⟨start, metadataName⟩ depth text) entries ≠
      pure (true, entries ++ memberCalls (position + trail.text.length + 1) members) := by
  intro done
  rw [scanTensors_body_skip _ _ _ (trail.free (by decide)) (trail.free (by decide)) _ inside]
    at done
  cases members with
  | nil =>
      have brace : closeBrace ∈ after.text := by
        cases scanStep_of_cons done with
        | move moves done => exact closeBrace_mem_of_done done
        | call entry named tensor done => exact closeBrace_mem_of_done done
      exact after.free (by decide) brace
  | cons member rest =>
      cases member with
      | metadata => exact nomatch noMetadata _ List.mem_cons_self
      | tensor spacing name named object =>
          have outside : ∀ {brace : UInt8}, isSpace brace = false →
              brace ∉ [comma, quote] → brace ∉ comma :: (spacing.lead.text ++ [quote]) := by
            intro brace visible notMark member
            simp only [List.mem_cons, List.mem_append, List.not_mem_nil, or_false, not_or]
              at notMark member
            rcases member with rfl | here | rfl
            · exact notMark.1 rfl
            · exact spacing.lead.free visible here
            · exact notMark.2 rfl
          have front : membersBehind (.tensor spacing name named object :: rest) after =
              comma :: (spacing.lead.text ++ [quote]) ++ (name.text ++ quote ::
                (spacing.beforeColon.text ++ (colon :: (spacing.afterColon.text ++
                  (object.text ++ (spacing.trail.text ++ membersBehind rest after)))))) := by
            rw [membersBehind_cons]
            change comma :: (memberText spacing name.text object.text ++ _) = _
            rw [memberText_append, quoted_append]
            simp
          rw [front, scanTensors_body_skip _ _ _ (outside (by decide) (by decide))
            (outside (by decide) (by decide)) _ inside] at done
          obtain ⟨more, same, later⟩ := scanTensors_later (Nat.le_refl _)
            (.metadata _ _ _ _) done
          have first := later (object.entry _) (by
            rw [← List.append_cancel_left same]
            exact List.mem_cons_self)
          rw [object.entry_name] at first
          simp only [List.length_cons, List.length_append, List.length_nil] at first
          omega

/-- Metadata does no harm just if it is readable. -/
theorem scanTensors_metadata (spacing : Spacing) (object : MetadataObject)
    {rest : List HeaderMember} (noMetadata : ∀ member ∈ rest, member.isMetadata = false)
    (others : ∀ position,
      scanTensors collectEntry (membersBehind rest after) position .member entries =
        pure (true, entries ++ memberCalls (position + 1) rest) ↔ Readable rest) :
    let member := HeaderMember.metadata spacing object
    scanTensors collectEntry (member.text ++ membersBehind rest after) position .member entries =
        pure (true, entries ++ (member.calls position ++
          memberCalls (position + member.text.length + 1) rest)) ↔
      Readable (member :: rest) := by
  have length : position + (memberText spacing metadataName []).length -
      spacing.trail.text.length + object.text.length + spacing.trail.text.length =
        position + (memberText spacing metadataName object.text).length := by
    simp only [memberText, List.length_append, List.length_nil]
    omega
  have ends : object.text = openBrace :: (object.lead.text ++
      joined (object.members.map MetadataMember.text)) ++ [closeBrace] := by
    simp [MetadataObject.text, objectText]
  change scanTensors collectEntry (memberText spacing metadataName object.text ++ _) _ _ _ =
    pure (true, entries ++ ([] ++
      memberCalls (position + (memberText spacing metadataName object.text).length + 1) rest)) ↔ _
  rw [scanTensors_memberText _ _ _ _ (by decide), List.nil_append, ← length]
  generalize position + (memberText spacing metadataName []).length -
    spacing.trail.text.length = opening
  have tells := skim_tells object.text
    (.object (position + spacing.lead.text.length + 1) : SkimPhase.Matches opening _ _) entries
  rw [Readable]
  cases outcome : skim .object object.text with
  | stopped =>
      rw [outcome] at tells
      rw [tells]
      cases rest with
      | nil => exact iff_of_true (by rw [memberCalls, List.append_nil]) (.inr ⟨rfl, rfl⟩)
      | cons member rest =>
          refine iff_of_false (fun done => ?_) (by simp)
          cases member with
          | metadata => cases noMetadata _ List.mem_cons_self
          | tensor =>
              have none := (Prod.mk.inj (pure_inj done)).2
              rw [List.self_eq_append_right] at none
              cases none
  | strayed =>
      rw [outcome] at tells
      refine iff_of_false (fun done => ?_) (by simp)
      obtain ⟨entry, more, same, early⟩ := tells _ _ done
      have late := memberCalls_not_early same
      omega
  | inside last =>
      rw [outcome] at tells
      obtain ⟨next, same, scans⟩ := tells
      rw [scans]
      rw [ends] at outcome
      rcases skim_closeBrace outcome with rfl | ⟨name, rfl⟩ | ⟨depth, inside, rfl⟩
      · cases same
        rw [scanTensors_member_blank, others]
        simp
      · cases same with
        | @name start text before =>
            refine iff_of_false (fun done => ?_) (by simp)
            obtain ⟨entry, more, same, early⟩ := scanTensors_braced_name (by simp) done
            have late := memberCalls_not_early same
            omega
      · cases same
        refine iff_of_false ?_ (by simp)
        exact scanTensors_open_body _ _ _ _ noMetadata _ inside _

end Header

/-- **Members of a header.** Behind a member the scanner makes the calls of the others just if
they are readable. -/
theorem scanTensors_members (members : List HeaderMember) (after : Blank)
    (single : members.countP HeaderMember.isMetadata ≤ 1) (position : Nat)
    (entries : List TensorEntry) :
    scanTensors collectEntry (membersBehind members after) position .member entries =
        pure (true, entries ++ memberCalls (position + 1) members) ↔
      Readable members := by
  induction members generalizing position entries with
  | nil => exact iff_of_true (by rw [memberCalls, List.append_nil]; rfl) trivial
  | cons member rest ih =>
      rw [membersBehind_cons, scanTensors, if_neg (by decide), if_neg (by decide), memberCalls]
      cases member with
      | tensor spacing name named object =>
          by_cases hasQuote : quote ∈ name.text
          · refine iff_of_false ?_ fun readable => readable.1 hasQuote
            exact scanTensors_quoted_tensor _ _ spacing name named object hasQuote _ rfl
          · rw [scanTensors_tensor _ _ spacing name named object hasQuote, ← List.append_assoc]
            refine (ih ?_ _ _).trans (and_iff_right hasQuote).symm
            rwa [List.countP_cons_of_neg (by simp [HeaderMember.isMetadata])] at single
      | metadata spacing object =>
          rw [List.countP_cons_of_pos rfl] at single
          have none : rest.countP HeaderMember.isMetadata = 0 := by omega
          have noMetadata : ∀ member ∈ rest, member.isMetadata = false := by
            simpa [List.countP_eq_zero] using none
          exact scanTensors_metadata after (position + 1) entries spacing object noMetadata
            fun position => ih (by omega) position entries

theorem Header.text_eq (header : Header) :
    header.text = header.before.text ++ (openBrace :: (header.lead.text ++
      (joined (header.members.map HeaderMember.text) ++ closeBrace :: header.after.text))) := by
  simp [Header.text, objectText]

/-- The first member is read as if a comma stood before it. -/
theorem scanTensors_joined (members : List HeaderMember) (after : Blank) (position : Nat)
    (entries : List TensorEntry) :
    scanTensors collectEntry (joined (members.map HeaderMember.text) ++ closeBrace :: after.text)
        (position + 1) .member entries =
      scanTensors collectEntry (membersBehind members after) position .member entries := by
  cases members with
  | nil => rfl
  | cons member rest =>
      rw [membersBehind_cons, scanTensors, if_neg (by decide), if_neg (by decide), List.map_cons,
        joined, List.flatMap_map, List.append_assoc]
      rfl

theorem scanTensors_root (before : Blank) (rest : List UInt8) (position : Nat)
    (entries : List TensorEntry) :
    scanTensors collectEntry (before.text ++ openBrace :: rest) position .root entries =
      scanTensors collectEntry rest (position + before.text.length + 1) .member entries := by
  obtain ⟨text, legal⟩ := before
  induction text generalizing position with
  | nil => rw [List.nil_append, scanTensors, if_pos rfl]; rfl
  | cons c more ih =>
      rw [List.forall_mem_cons] at legal
      rw [List.cons_append, scanTensors, if_neg (ne_of_isSpace legal.1 (by decide)), ih _ legal.2,
        List.length_cons, Nat.add_assoc position, Nat.add_comm 1]

/-- The calls of a header are those that it calls for just if it is readable. -/
theorem Header.tensorCalls_iff (header : Header) :
    tensorCalls header.text = pure (true, header.calls) ↔ Readable header.members := by
  have members := scanTensors_members header.members header.after header.single
    (header.before.text.length + header.lead.text.length) []
  rw [← scanTensors_joined] at members
  rw [tensorCalls, foreachTensor, header.text_eq, scanTensors_root, scanTensors_member_blank,
    Nat.zero_add, Header.calls, Nat.add_right_comm]
  exact members

/-! ## Faithfulness -/

/-- **Faithful scanning.** With every callback that returns true, `foreach_tensor` returns true
and makes one call for each tensor of the header, in order, with the tensor's name, range, shape
and element type, just if the quotes and braces in the strings of the header do no harm. -/
theorem foreach_tensor_faithful_iff (header : Header) :
    (∀ {σ : Type} (callback : TensorEntry → σ → σ) (state : σ),
      foreachTensor (fun entry state => pure (true, callback entry state)) header.text state =
        pure (true, header.calls.foldl (fun state entry => callback entry state) state)) ↔
      Readable header.members := by
  rw [← header.tensorCalls_iff]
  refine ⟨fun faithful => ?_, fun calls σ callback state => ?_⟩
  · have collected := faithful (fun entry entries => entries ++ [entry]) []
    rwa [List.foldl_append_eq_append, List.nil_append, ← List.flatMap_def,
      List.flatMap_singleton'] at collected
  · have scan := scanTensors_of_calls callback state header.text 0 .root []
    change scanTensors collectEntry header.text 0 .root [] = _ at calls
    rw [calls] at scan
    exact scan

/-- The metadata `{"a":"}"}` and a tensor `w` behind it. -/
private def bracedHeader : Header where
  members := [
    .metadata {} { members := [{
      key := ⟨[97], .plain (by decide) (by decide) (by decide) .nil⟩
      value := ⟨[closeBrace], .plain (by decide) (by decide) (by decide) .nil⟩ }] },
    .tensor {} ⟨[119], .plain (by decide) (by decide) (by decide) .nil⟩ (by decide) {
      dtype := ⟨f32Name, by decide +kernel⟩
      shape := [{ number := ⟨[49], by decide +kernel, by decide⟩ }]
      start := { number := ⟨[48], by decide +kernel, by decide⟩ }
      stop := { number := ⟨[52], by decide +kernel, by decide⟩ }
      complete := List.Perm.refl _
      rank := by decide
      inRange := by decide
      ordered := by decide }]
  single := by decide

/-- The brace in the metadata is taken for its end, and the tensor is called `},`. -/
theorem foreach_tensor_misnames :
    ((tensorCalls bracedHeader.text).run false).1 =
        (true, [{ name := ⟨24, [closeBrace, comma]⟩, length := 4, shape := [1], ndim := 1
                  supported := true }]) ∧
      ¬ ∀ {σ : Type} (callback : TensorEntry → σ → σ) (state : σ),
        foreachTensor (fun entry state => pure (true, callback entry state)) bracedHeader.text
            state =
          pure (true,
            bracedHeader.calls.foldl (fun state entry => callback entry state) state) := by
  refine ⟨by decide, fun faithful => ?_⟩
  have names := faithful (fun entry names => names ++ [entry.name.text]) []
  exact absurd (congrArg (fun program => (program.run false).1) names) (by decide)

end FlowEdge
