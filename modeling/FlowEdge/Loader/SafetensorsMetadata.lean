import Mathlib.Data.List.TakeWhile
import FlowEdge.Loader.SafetensorsHeader

/-!
# Looking up metadata

`safetensors_metadata_value` finds keys as text between two quotes and takes a quote for the end
of a string unless a backslash stands before it. It gives what the metadata says where the first
such places are the right ones and no string of the metadata ends in a backslash.
-/

namespace FlowEdge

open JsonText

/-! ## What the metadata says -/

def HeaderMember.metadata? : HeaderMember → Option MetadataObject
  | .metadata _ object => some object
  | .tensor _ _ _ _ => none

def Header.metadata (header : Header) : Option MetadataObject :=
  header.members.findSome? HeaderMember.metadata?

/-- The member with a key. -/
def MetadataObject.member (object : MetadataObject) (key : List UInt8) : Option MetadataMember :=
  object.members.find? fun member => decode member.key.text = key

def Header.metadataValue (header : Header) (key : List UInt8) : Option (List UInt8) :=
  ((header.metadata.bind (·.member key))).map fun member => decode member.value.text

/-! ## Where the lookup finds it -/

/-- The members of the metadata behind one, and the end of it. -/
def metadataBehind (members : List MetadataMember) : List UInt8 :=
  (members.flatMap fun member => comma :: member.text) ++ [closeBrace]

/-- The text of the metadata behind the key of a member. -/
def MetadataMember.behindKey (member : MetadataMember) (after : List MetadataMember) :
    List UInt8 :=
  member.spacing.beforeColon.text ++ (colon :: (member.spacing.afterColon.text ++
    (quoted member.value.text ++ (member.spacing.trail.text ++ metadataBehind after))))

/-- The first place of the metadata where the key stands between two quotes is the key of the
member with this key. Without such a member there is no such place. -/
def MetadataObject.Finds (object : MetadataObject) (key : List UInt8) : Prop :=
  match object.member key with
  | none => find (quoted key) object.text = none
  | some member => ∃ before after, object.members = before ++ member :: after ∧
      find (quoted key) object.text = some (quoted key ++ member.behindKey after)

/-- No string of a member ends in a backslash, as it is written. -/
def MetadataMember.Closed (member : MetadataMember) : Prop :=
  member.key.text.getLast? ≠ some backslash ∧ member.value.text.getLast? ≠ some backslash

/-- What keeps the lookup of a key from going astray. -/
structure Header.Locatable (header : Header) (key : List UInt8) : Prop where
  /-- No name of a tensor before the metadata ends in an escaped quote and `__metadata__`. -/
  names : ∀ member ∈ header.members.takeWhile (!·.isMetadata),
    ¬ quote :: metadataName <:+ member.name
  strings : ∀ object, header.metadata = some object → ∀ member ∈ object.members, member.Closed
  key : ∀ object, header.metadata = some object → object.Finds key

/-! ## Searching -/

variable {text : List UInt8}

theorem find_suffix {pattern found : List UInt8} (here : find pattern text = some found) :
    ∃ before, text = before ++ found := by
  induction text with
  | nil =>
      rw [find] at here
      split at here
      · cases here
        exact ⟨[], rfl⟩
      · cases here
  | cons c rest ih =>
      rw [find] at here
      split at here
      · cases here
        exact ⟨[], rfl⟩
      · obtain ⟨before, rfl⟩ := ih here
        exact ⟨c :: before, rfl⟩

theorem length_quoted : (quoted text).length = text.length + 2 := by
  simp [quoted]

/-- A key between two quotes, as `quoted_key_pos` looks for it. -/
theorem isPrefixOf_quoted_iff (key : List UInt8) (first c : UInt8) (rest : List UInt8) :
    (quoted key).isPrefixOf (first :: c :: rest) = true ↔
      key.isPrefixOf (c :: rest) = true ∧ some first = some quote ∧
        ((c :: rest).drop key.length).head? = some quote := by
  simp only [List.isPrefixOf_iff_prefix, Option.some.injEq]
  constructor
  · rintro ⟨more, same⟩
    rw [quoted_append, List.cons.injEq] at same
    refine ⟨⟨quote :: more, same.2⟩, same.1.symm, ?_⟩
    rw [← same.2, List.drop_left]
    rfl
  · rintro ⟨⟨more, same⟩, rfl, behind⟩
    rw [← same, List.drop_left] at behind
    obtain ⟨tail, rfl⟩ := List.head?_eq_some_iff.mp behind
    exact ⟨tail, by rw [quoted_append, same]⟩

theorem quotedKeyFrom_eq (key : List UInt8) (position : Nat) (first : UInt8)
    (text : List UInt8) :
    quotedKeyFrom key (position + 1) (some first) text =
      (find (quoted key) (first :: text)).map fun found =>
        position + ((first :: text).length - found.length) := by
  induction text generalizing position first with
  | nil =>
      have short : ¬ (quoted key).isPrefixOf [first] = true := by
        rw [List.isPrefixOf_iff_prefix]
        intro here
        have := here.length_le
        rw [length_quoted, List.length_singleton] at this
        omega
      rw [find, if_neg short, find, if_neg (by simp [quoted])]
      rfl
  | cons c rest ih =>
      rw [quotedKeyFrom, find]
      by_cases here : (quoted key).isPrefixOf (first :: c :: rest) = true
      · rw [if_pos here, if_pos ((isPrefixOf_quoted_iff key first c rest).mp here)]
        simp
      · rw [if_neg here, if_neg (here ∘ (isPrefixOf_quoted_iff key first c rest).mpr), ih]
        cases found : find (quoted key) (c :: rest) with
        | none => rfl
        | some place =>
            obtain ⟨before, same⟩ := find_suffix found
            have shorter : place.length ≤ (c :: rest).length := by simp [same]
            rw [Option.map_some, Option.map_some, List.length_cons (a := first)]
            congr 1
            omega

/-- The place of a key is where it first stands between two quotes. -/
theorem quotedKeyPos_eq (json key : List UInt8) :
    quotedKeyPos json key =
      (find (quoted key) json).map fun found => json.length - found.length := by
  cases json with
  | nil =>
      rw [find, if_neg (by simp [quoted])]
      rfl
  | cons first text =>
      rw [quotedKeyPos, quotedKeyFrom, if_neg (by simp)]
      simpa using quotedKeyFrom_eq key 0 first text

/-- The text behind a key. -/
theorem drop_quotedKeyPos {json key behind : List UInt8}
    (found : find (quoted key) json = some (quoted key ++ behind)) :
    ∃ position, quotedKeyPos json key = some position ∧
      json.drop (position + key.length + 2) = behind := by
  obtain ⟨before, same⟩ := find_suffix found
  refine ⟨before.length, ?_, ?_⟩
  · rw [quotedKeyPos_eq, found, Option.map_some, same, List.length_append,
      Nat.add_sub_cancel_right]
  · rw [same, Nat.add_assoc, ← length_quoted, ← List.drop_drop, List.drop_left, List.drop_left]

/-- A text is passed over in which no occurrence begins. -/
theorem find_skip_of {pattern skipped rest : List UInt8}
    (none : ∀ c more, c :: more <:+ skipped → ¬ pattern <+: c :: (more ++ rest)) :
    find pattern (skipped ++ rest) = find pattern rest := by
  induction skipped with
  | nil => rfl
  | cons c more ih =>
      rw [List.cons_append, find, if_neg]
      · exact ih fun d others inside => none d others (inside.trans (List.suffix_cons _ _))
      · rw [List.isPrefixOf_iff_prefix]
        exact none c more (List.suffix_refl _)

/-- A text up to a quote is the whole of another one, or ends at a quote inside it. -/
theorem eq_or_append_of_append_quote {inner more rest : List UInt8} (free : quote ∉ text)
    (same : text ++ quote :: more = inner ++ quote :: rest) :
    inner = text ∨ ∃ back, inner = text ++ quote :: back := by
  rcases List.append_eq_append_iff.mp same with ⟨middle, split, back⟩ | ⟨middle, split, back⟩
  · cases middle with
    | nil => exact .inl (by simpa using split)
    | cons c tail =>
        cases back
        exact .inr ⟨tail, split⟩
  · cases middle with
    | nil => exact .inl (by simpa using split.symm)
    | cons c tail =>
        cases back
        exact absurd (by simp [split]) free

/-- The strings of the header before the metadata, and how they are passed over. -/
theorem find_string_skip {letter : UInt8} {sought name rest : List UInt8}
    (seek : Sought letter sought) (ends : (letter :: sought).getLast? ≠ some backslash)
    (legal : IsString name) (different : name ≠ letter :: sought)
    (notSuffix : ¬ quote :: letter :: sought <:+ name) (follows : rest.head? ≠ some letter) :
    find (quoted (letter :: sought)) (quoted name ++ rest) =
      find (quoted (letter :: sought)) rest := by
  -- No quote of the string follows the text, as it would not be escaped.
  have unescaped : ∀ front back, name ≠ front ++ letter :: sought ++ quote :: back := by
    rintro front back rfl
    have last := legal.backslash_before
    rw [List.getLast?_append_of_ne_nil _ (List.cons_ne_nil _ _)] at last
    exact ends last
  have nowhere : ∀ inner, (name = inner ∨ ∃ front, name = front ++ quote :: inner) →
      ¬ letter :: sought ++ [quote] <+: inner ++ quote :: rest := by
    rintro inner place ⟨more, same⟩
    rw [List.append_assoc, List.singleton_append] at same
    rcases eq_or_append_of_append_quote seek.free same with rfl | ⟨back, rfl⟩
    · rcases place with rfl | ⟨front, rfl⟩
      · exact different rfl
      · exact notSuffix (List.suffix_append _ _)
    · rcases place with rfl | ⟨front, rfl⟩
      · exact unescaped [] back rfl
      · exact unescaped (front ++ [quote]) back (by simp)
  refine find_skip_of fun c more inside here => ?_
  obtain ⟨tail, same⟩ := here
  rw [quoted_append, List.cons.injEq] at same
  obtain ⟨rfl, same⟩ := same
  have begins : letter :: sought ++ [quote] <+: more ++ rest :=
    ⟨tail, by rw [← same]; simp⟩
  rcases List.suffix_cons_iff.mp inside with whole | inside
  · rw [List.append_eq, List.cons.injEq] at whole
    refine nowhere name (.inl rfl) ?_
    rwa [whole.2, List.append_assoc, List.singleton_append] at begins
  · obtain ⟨front, split⟩ := inside
    rcases List.eq_nil_or_concat' more with rfl | ⟨inner, last, rfl⟩
    · obtain ⟨_, same⟩ := begins
      refine follows ?_
      rw [List.nil_append] at same
      rw [← same]
      rfl
    · have parts : (front ++ quote :: inner) ++ [last] = name ++ [quote] := by
        rw [List.append_assoc]
        exact split
      obtain ⟨whole, closing⟩ := List.append_inj' parts rfl
      cases closing
      refine nowhere inner (.inr ⟨front, whole.symm⟩) ?_
      rwa [List.append_assoc, List.singleton_append] at begins

/-! ## The place of the metadata -/

section Metadata

variable {rest : List UInt8}

theorem sought_metadataName : Sought 95 metadataName.tail := by
  constructor <;> decide

/-- The members before the metadata are passed over. -/
theorem skipped_member {member : HeaderMember} (tensor : member.isMetadata = false)
    (named : ¬ quote :: metadataName <:+ member.name) :
    Skipped 95 metadataName.tail member.text := by
  have seek := sought_metadataName
  cases member with
  | metadata => cases tensor
  | tensor spacing name other object =>
      refine .member seek spacing
        (fun _ => find_string_skip seek (by decide) name.legal other named)
        fun _ _ => object.find_text_skip seek (by rintro ⟨⟩ <;> decide) fun same => ?_
      exact absurd (object.dtype.legal 109 (by simp [same, metadataName])) (by decide)

end Metadata

namespace Header

variable (header : Header)

theorem find_from_members :
    find (quoted metadataName) header.text = find (quoted metadataName)
      (joined (header.members.map HeaderMember.text) ++ closeBrace :: header.after.text) := by
  rw [Header.text, List.append_assoc, objectText_append]
  exact (find_skip (header.before.free (by decide)) _).trans
    ((find_cons_ne (by decide) _).trans (find_skip (header.lead.free (by decide)) _))

/-- The metadata of a header stands behind the tensors before it. -/
theorem exists_metadata {object : MetadataObject} (present : header.metadata = some object) :
    ∃ spacing after, header.members =
      header.members.takeWhile (!·.isMetadata) ++ .metadata spacing object :: after := by
  rw [metadata] at present
  generalize header.members = members at present ⊢
  induction members with
  | nil => cases present
  | cons member rest ih =>
      cases member with
      | metadata spacing =>
          cases present
          exact ⟨spacing, rest, rfl⟩
      | tensor spacing =>
          obtain ⟨spacing, after, same⟩ := ih present
          exact ⟨spacing, after, congrArg (List.cons _) same⟩

theorem tensor_of_mem_takeWhile {member : HeaderMember}
    (early : member ∈ header.members.takeWhile (!·.isMetadata)) : member.isMetadata = false := by
  simpa using List.mem_takeWhile_imp early

/-- The metadata is found where it is. -/
theorem find_metadata {object : MetadataObject} (present : header.metadata = some object)
    (named : ∀ member ∈ header.members.takeWhile (!·.isMetadata),
      ¬ quote :: metadataName <:+ member.name) :
    ∃ (beforeColon afterColon : Blank) (rest : List UInt8),
      find (quoted metadataName) header.text = some (quoted metadataName ++
        (beforeColon.text ++ (colon :: (afterColon.text ++ (object.text ++ rest))))) := by
  obtain ⟨spacing, after, same⟩ := header.exists_metadata present
  refine ⟨spacing.beforeColon, spacing.afterColon, spacing.trail.text ++
    ((after.map HeaderMember.text).flatMap (comma :: ·) ++ closeBrace :: header.after.text), ?_⟩
  rw [header.find_from_members, same, List.map_append, List.map_cons, joined_append_cons,
    List.flatMap_map, List.append_assoc]
  refine (Skipped.commas sought_metadataName (fun member early =>
    skipped_member (header.tensor_of_mem_takeWhile early) (named member early)) _).trans ?_
  change find _ (memberText spacing metadataName object.text ++ _ ++ _) = _
  rw [List.append_assoc, memberText_append]
  exact (find_skip (spacing.lead.free (by decide)) _).trans (find_quoted_here _ _)

/-- Without metadata none is found. -/
theorem find_metadata_none (absent : header.metadata = none)
    (named : ∀ member ∈ header.members.takeWhile (!·.isMetadata),
      ¬ quote :: metadataName <:+ member.name) :
    find (quoted metadataName) header.text = none := by
  have tensors : ∀ member ∈ header.members, member.isMetadata = false := by
    intro member known
    have none := List.findSome?_eq_none_iff.mp absent member known
    cases member with
    | metadata => cases none
    | tensor => rfl
  rw [List.takeWhile_eq_self_iff.mpr (by simpa using tensors)] at named
  have skipped : Skipped 95 metadataName.tail
      (joined (header.members.map HeaderMember.text)) :=
    .joined sought_metadataName <| List.forall_mem_map.mpr fun member known =>
      skipped_member (tensors member known) (named member known)
  rw [header.find_from_members]
  refine (skipped (head?_cons_ne sought_metadataName.notBrace _)).trans ?_
  rw [← List.append_nil header.after.text]
  exact (find_cons_ne (by decide) _).trans (find_skip (header.after.free (by decide)) [])

end Header

/-! ## The text of the metadata -/

/-- A text whose strings are recognised is passed over between strings. -/
def Passes (depth : Nat) (text : List UInt8) : Prop :=
  ∀ before, before ≠ backslash → ∃ last, last ≠ backslash ∧ ∀ rest,
    matchObject depth false before (text ++ rest) =
      (matchObject depth false last rest).map (text ++ ·)

namespace Passes

variable {depth : Nat}

theorem nil : Passes depth [] := fun before other => ⟨before, other, fun rest => by simp⟩

theorem append {first second : List UInt8} (passesFirst : Passes depth first)
    (passesSecond : Passes depth second) : Passes depth (first ++ second) := by
  intro before other
  obtain ⟨middle, notMiddle, scansFirst⟩ := passesFirst before other
  obtain ⟨last, notLast, scansSecond⟩ := passesSecond middle notMiddle
  refine ⟨last, notLast, fun rest => ?_⟩
  rw [List.append_assoc, scansFirst, scansSecond, Option.map_map]
  congr 1
  funext text
  exact (List.append_assoc _ _ _).symm

theorem mark {c : UInt8} (notMark : c ∉ [quote, openBrace, closeBrace, backslash]) :
    Passes depth [c] := by
  simp only [List.mem_cons, List.not_mem_nil, or_false, not_or] at notMark
  obtain ⟨notQuote, notOpen, notClose, notBackslash⟩ := notMark
  refine fun before other => ⟨c, notBackslash, fun rest => ?_⟩
  have outside : (if c = quote ∧ before ≠ backslash then !false else false) = false :=
    if_neg fun here => notQuote here.1
  rw [List.singleton_append, matchObject, outside, if_neg (by decide),
    if_neg fun here => notClose here.1, braceDepth, if_neg notOpen, if_neg notClose]
  rfl

theorem blank (blank : Blank) : Passes depth blank.text := by
  obtain ⟨text, legal⟩ := blank
  induction text with
  | nil => exact nil
  | cons c more ih =>
      rw [List.forall_mem_cons] at legal
      have first : Passes depth [c] := mark fun here => ?_
      · exact first.append (ih legal.2)
      simp only [List.mem_cons, List.not_mem_nil, or_false] at here
      rcases here with rfl | rfl | rfl | rfl <;> exact absurd legal.1 (by decide)

end Passes

/-- A string is passed over up to its last quote. -/
theorem matchObject_inside (depth : Nat) (rest : List UInt8) {before : UInt8}
    (escaped : Escaped before text) (ends : text.getLastD before ≠ backslash) :
    matchObject depth true before (text ++ quote :: rest) =
      (matchObject depth false quote rest).map (text ++ quote :: ·) := by
  induction text generalizing before with
  | nil =>
      have outside : (if quote = quote ∧ before ≠ backslash then !true else true) = false :=
        if_pos ⟨rfl, ends⟩
      rw [List.nil_append, matchObject, outside]
      rfl
  | cons c more ih =>
      have inside : (if c = quote ∧ before ≠ backslash then !true else true) = true := by
        refine if_neg ?_
        rintro ⟨rfl, other⟩
        exact other escaped.head
      rw [List.getLastD_cons] at ends
      rw [List.cons_append, matchObject, inside, if_pos rfl, ih escaped.tail ends, Option.map_map]
      rfl

theorem getLastD_quote_ne (ends : text.getLast? ≠ some backslash) :
    text.getLastD quote ≠ backslash := by
  rw [List.getLastD_eq_getLast?]
  cases same : text.getLast? with
  | none => decide
  | some c => exact fun found => ends (by rw [same, ← found]; rfl)

theorem Passes.string {depth : Nat} (legal : IsString text)
    (ends : text.getLast? ≠ some backslash) :
    Passes depth (quoted text) := by
  refine fun before other => ⟨quote, by decide, fun rest => ?_⟩
  have inside : (if quote = quote ∧ before ≠ backslash then !false else false) = true :=
    if_pos ⟨rfl, other⟩
  rw [quoted_append, matchObject, inside, if_pos rfl,
    matchObject_inside _ _ (legal.escaped _) (getLastD_quote_ne ends), Option.map_map]
  simp only [quoted_append]
  rfl

theorem MetadataMember.Closed.passes {member : MetadataMember} (closed : member.Closed)
    {depth : Nat} : Passes depth member.text := by
  rw [MetadataMember.text, memberText]
  exact .append (.append (.append (.append (.append (.append (.blank _)
    (.string member.key.legal closed.1)) (.blank _)) (.mark (by decide))) (.blank _))
      (.string member.value.legal closed.2)) (.blank _)

theorem Passes.joined {depth : Nat} {texts : List (List UInt8)}
    (passes : ∀ text ∈ texts, Passes depth text) : Passes depth (joined texts) := by
  cases texts with
  | nil => exact .nil
  | cons first rest =>
      rw [List.forall_mem_cons] at passes
      refine .append passes.1 ?_
      have others := passes.2
      clear passes
      induction rest with
      | nil => exact .nil
      | cons text rest ih =>
          rw [List.forall_mem_cons] at others
          exact .append (.append (.mark (by decide)) others.1) (ih others.2)

/-- The metadata is matched up to its own closing brace. -/
theorem MetadataObject.matchObject_text (object : MetadataObject)
    (closed : ∀ member ∈ object.members, member.Closed) (rest : List UInt8) :
    matchObject 0 false 0 (object.text ++ rest) = some object.text := by
  have inner : Passes 1 (object.lead.text ++ joined (object.members.map MetadataMember.text)) := by
    refine .append (.blank _) (.joined ?_)
    intro text known
    obtain ⟨member, present, rfl⟩ := List.mem_map.mp known
    exact (closed member present).passes
  obtain ⟨last, -, scans⟩ := inner openBrace (by decide)
  have opening : (if openBrace = quote ∧ (0 : UInt8) ≠ backslash then !false else false) =
      false := by decide
  have closing : (if closeBrace = quote ∧ last ≠ backslash then !false else false) = false :=
    if_neg fun here => absurd here.1 (by decide)
  rw [MetadataObject.text, objectText_append, ← List.append_assoc, matchObject, opening,
    if_neg (by decide), if_neg (by decide)]
  change Option.map _ (matchObject 1 false openBrace _) = _
  rw [scans, matchObject, closing, if_neg (by decide), if_pos (by decide)]
  simp [objectText]

/-- The metadata of a header is found whole. -/
theorem Header.objectValue_metadata (header : Header) {object : MetadataObject}
    (present : header.metadata = some object)
    (named : ∀ member ∈ header.members.takeWhile (!·.isMetadata),
      ¬ quote :: metadataName <:+ member.name)
    (closed : ∀ member ∈ object.members, member.Closed) :
    objectValue header.text metadataName = object.text := by
  obtain ⟨beforeColon, afterColon, rest, found⟩ := header.find_metadata present named
  obtain ⟨position, place, behind⟩ := drop_quotedKeyPos found
  have brace : find [openBrace] (object.text ++ rest) = some (object.text ++ rest) := by
    rw [MetadataObject.text, objectText_append]
    exact find_here _
  rw [objectValue, place]
  dsimp only
  rw [behind, find_skip (beforeColon.free (by decide))]
  have colon : find [colon] (colon :: (afterColon.text ++ (object.text ++ rest))) =
      some (colon :: (afterColon.text ++ (object.text ++ rest))) := find_here _
  rw [colon]
  dsimp only
  rw [List.drop_succ_cons, List.drop_zero, find_skip (afterColon.free (by decide)), brace]
  dsimp only
  rw [object.matchObject_text closed]
  rfl

/-! ## Values -/

theorem takeString_append {before : UInt8} (escaped : Escaped before text)
    (ends : text.getLastD before ≠ backslash) (rest : List UInt8) :
    takeString before (text ++ quote :: rest) = some text := by
  induction text generalizing before with
  | nil => rw [List.nil_append, takeString, if_pos ⟨rfl, ends⟩]
  | cons c more ih =>
      have inside : ¬ (c = quote ∧ before ≠ backslash) := by
        rintro ⟨rfl, other⟩
        exact other escaped.head
      rw [List.getLastD_cons] at ends
      rw [List.cons_append, takeString, if_neg inside, ih escaped.tail ends]
      rfl

theorem dropWhile_blank (blank : Blank) {c : UInt8} (visible : isSpace c = false)
    (rest : List UInt8) : (blank.text ++ c :: rest).dropWhile isSpace = c :: rest := by
  rw [List.dropWhile_append_of_pos blank.legal, List.dropWhile_cons_of_neg (by simp [visible])]

/-- The value of the member whose key is found is read as it is written. -/
theorem MetadataMember.metadataStringValue_eq {member : MetadataMember} (closed : member.Closed)
    {object key : List UInt8} {after : List MetadataMember}
    (found : find (quoted key) object = some (quoted key ++ member.behindKey after)) :
    metadataStringValue object key = .valid member.value.text := by
  obtain ⟨position, place, behind⟩ := drop_quotedKeyPos found
  rw [metadataStringValue, place]
  dsimp only
  rw [behind, behindKey, find_skip (member.spacing.beforeColon.free (by decide))]
  have atColon : ∀ rest, find [colon] (colon :: rest) = some (colon :: rest) := find_here
  rw [atColon]
  dsimp only
  rw [List.drop_succ_cons, List.drop_zero, quoted_append, dropWhile_blank _ (by decide)]
  dsimp only
  rw [if_neg (by simp), takeString_append (member.value.legal.escaped _)
    (getLastD_quote_ne closed.2)]

theorem unescapeCharacter_eq {c : UInt8} (simple : isSimpleEscape c = true) :
    unescapeCharacter c = some (simpleEscape c) := by
  simp only [isSimpleEscape, decide_eq_true_eq] at simple
  rcases simple with rfl | rfl | rfl | rfl | rfl | rfl | rfl | rfl <;> rfl

/-- Simple escapes are decoded as they are meant. -/
theorem unescapeJsonString_eq (simple : IsSimpleString text) :
    unescapeJsonString text = .ok (decode text) := by
  induction simple with
  | nil => rfl
  | plain notBackslash simple ih =>
      rw [unescapeJsonString.eq_def]
      dsimp only
      rw [if_pos notBackslash, ih, decode_plain notBackslash]
      rfl
  | escape legal simple ih =>
      rw [unescapeJsonString, if_neg (by simp), unescapeCharacter_eq legal]
      dsimp only
      rw [ih, decode_escape legal]
      rfl

/-! ## Plain metadata -/

/-- Metadata in which a key stands between quotes only where it is the key of a member: no string
has a quote in it, no value is the key, and no key is a spelling of it with escapes. -/
structure MetadataObject.Plain (object : MetadataObject) (key : List UInt8) : Prop where
  keys : ∀ member ∈ object.members, quote ∉ member.key.text
  values : ∀ member ∈ object.members, quote ∉ member.value.text ∧ member.value.text ≠ key
  spelled : ∀ member ∈ object.members, decode member.key.text = key → member.key.text = key

section Plain

variable {letter : UInt8} {sought rest : List UInt8} {object : MetadataObject}

/-- A member with another key is passed over. -/
theorem MetadataObject.Plain.skipped_member (plain : object.Plain (letter :: sought))
    (seek : Sought letter sought) {member : MetadataMember} (known : member ∈ object.members)
    (different : member.key.text ≠ letter :: sought) : Skipped letter sought member.text :=
  .member seek _ (fun _ => find_quoted_skip seek.free (plain.keys member known) different)
    fun _ => find_quoted_skip seek.free (plain.values member known).1 (plain.values member known).2

/-- A search comes to the members. -/
theorem MetadataObject.find_from_members (object : MetadataObject) :
    find (quoted (letter :: sought)) object.text = find (quoted (letter :: sought))
      (joined (object.members.map MetadataMember.text) ++ [closeBrace]) := by
  have text : object.text = openBrace :: (object.lead.text ++
      (joined (object.members.map MetadataMember.text) ++ [closeBrace])) := by
    simp [MetadataObject.text, objectText]
  rw [text]
  exact (find_cons_ne (by decide) _).trans (find_skip (object.lead.free (by decide)) _)

/-- In plain metadata keys without escapes are found where they are. -/
theorem MetadataObject.Plain.finds (plain : object.Plain (letter :: sought))
    (seek : Sought letter sought) (unescaped : backslash ∉ letter :: sought) :
    object.Finds (letter :: sought) := by
  have differs : ∀ {member : MetadataMember}, decode member.key.text ≠ letter :: sought →
      member.key.text ≠ letter :: sought := by
    intro member different same
    exact different (by rw [same, decode_of_not_mem unescaped])
  rw [MetadataObject.Finds]
  cases known : object.member (letter :: sought) with
  | none =>
      have others : ∀ member ∈ object.members, member.key.text ≠ letter :: sought := by
        intro member present
        have other := List.find?_eq_none.mp known member present
        exact differs (by simpa using other)
      have skipped : Skipped letter sought (joined (object.members.map MetadataMember.text)) :=
        .joined seek <| List.forall_mem_map.mpr fun member present =>
          plain.skipped_member seek present (others member present)
      rw [object.find_from_members]
      exact (skipped (head?_cons_ne seek.notBrace _)).trans (find_cons_ne (by decide) _)
  | some member =>
      obtain ⟨same, before, after, split, earlier⟩ := List.find?_eq_some_iff_append.mp known
      rw [decide_eq_true_eq] at same
      refine ⟨before, after, split, ?_⟩
      have spelled := plain.spelled member (by simp [split]) same
      rw [object.find_from_members, split, List.map_append, List.map_cons, joined_append_cons,
        List.flatMap_map, List.append_assoc, Skipped.commas seek fun other early =>
          plain.skipped_member seek (by simp [split, early])
            (differs (by simpa using earlier other early)),
        MetadataMember.text, List.append_assoc, memberText_append, spelled, List.flatMap_map]
      exact (find_skip (member.spacing.lead.free (by decide)) _).trans (find_quoted_here _ _)

end Plain

/-! ## Faithfulness -/

/-- The escapes of the metadata's values are those that `unescape_json_string` knows. -/
def Header.Simple (header : Header) : Prop :=
  ∀ object, header.metadata = some object → ∀ member ∈ object.members,
    IsSimpleString member.value.text

theorem MetadataObject.text_ne_nil (object : MetadataObject) : object.text ≠ [] := by
  simp [MetadataObject.text, objectText]

theorem MetadataObject.metadataStringValue_text (object : MetadataObject) (key : List UInt8)
    (closed : ∀ member ∈ object.members, member.Closed) (finds : object.Finds key) :
    metadataStringValue object.text key =
      match object.member key with
      | none => .absent
      | some member => .valid member.value.text := by
  rw [MetadataObject.Finds] at finds
  cases known : object.member key with
  | none =>
      rw [known] at finds
      dsimp only at finds ⊢
      rw [metadataStringValue, quotedKeyPos_eq, finds]
      rfl
  | some member =>
      rw [known] at finds
      obtain ⟨before, after, split, found⟩ := finds
      exact MetadataMember.metadataStringValue_eq (closed member (by simp [split])) found

/-- **Faithful lookup.** Where the lookup cannot go astray, `safetensors_metadata_value` gives the
value that the metadata has for the key, and none if it has none. -/
theorem metadata_value_faithful (header : Header) (key : List UInt8) (simple : header.Simple)
    (locatable : header.Locatable key) :
    safetensorsMetadataValue header.text key = .ok (header.metadataValue key) := by
  cases present : header.metadata with
  | none =>
      have absent := header.find_metadata_none present locatable.names
      have empty : objectValue header.text metadataName = [] := by
        rw [objectValue, quotedKeyPos_eq, absent]
        rfl
      rw [safetensorsMetadataValue, empty, Header.metadataValue, present]
      rfl
  | some object =>
      have closed := locatable.strings object present
      have found := header.objectValue_metadata present locatable.names closed
      have value := object.metadataStringValue_text key closed (locatable.key object present)
      rw [safetensorsMetadataValue, found, Header.metadataValue, present, Option.bind_some]
      cases text : object.text with
      | nil => exact absurd text object.text_ne_nil
      | cons c rest =>
          dsimp only
          rw [← text, value]
          cases known : object.member key with
          | none => rfl
          | some member =>
              have inside := List.mem_of_find?_eq_some known
              dsimp only
              rw [unescapeJsonString_eq (simple object present member inside)]
              rfl

/-- A string of printable characters without quotes and backslashes. -/
private def plainString (text : List UInt8)
    (plain : ∀ c ∈ text, 32 ≤ c ∧ c ≠ quote ∧ c ≠ backslash := by decide +kernel) :
    JsonString where
  text
  legal := by
    induction text with
    | nil => exact .nil
    | cons c rest ih =>
        rw [List.forall_mem_cons] at plain
        exact .plain plain.1.1 plain.1.2.1 plain.1.2.2 (ih plain.2)

/-- The header `{"__metadata__":{"a":"k","b":"w"}}`. -/
private def noteHeader : Header where
  members := [.metadata {} { members := [
    { key := plainString [97], value := plainString [107] },
    { key := plainString [98], value := plainString [119] }] }]
  single := by decide

/-- The header `{"__metadata__":{"{":"\"}","b":"w\n"}}`. -/
private def escapedHeader : Header where
  members := [.metadata {} { members := [
    { key := plainString [openBrace]
      value := ⟨[backslash, quote, closeBrace],
        .escape rfl (.plain (by decide) (by decide) (by decide) .nil)⟩ },
    { key := plainString [98]
      value := ⟨[119, backslash, 110],
        .plain (by decide) (by decide) (by decide) (.escape rfl .nil)⟩ }] }]
  single := by decide

/-- Plain metadata, and metadata with a brace, an escaped quote and an escaped line feed. -/
theorem metadata_value_faithful_example :
    (noteHeader.Simple ∧ noteHeader.Locatable [98] ∧
      safetensorsMetadataValue noteHeader.text [98] = .ok (some [119])) ∧
    escapedHeader.Simple ∧ escapedHeader.Locatable [98] ∧
      safetensorsMetadataValue escapedHeader.text [98] = .ok (some [119, newline]) := by
  have simple : noteHeader.Simple ∧ escapedHeader.Simple := by
    constructor <;> rintro object ⟨⟩ member known <;>
      simp only [List.mem_cons, List.not_mem_nil, or_false] at known
    · rcases known with rfl | rfl <;> exact .plain (by decide) .nil
    · rcases known with rfl | rfl
      · exact .escape rfl (.plain (by decide) .nil)
      · exact .plain (by decide) (.escape rfl .nil)
  have closed : ∀ header, header = noteHeader ∨ header = escapedHeader → ∀ object,
      header.metadata = some object → ∀ member ∈ object.members, member.Closed := by
    rintro header (rfl | rfl) object ⟨⟩ member known <;>
      simp only [List.mem_cons, List.not_mem_nil, or_false] at known <;>
      rcases known with rfl | rfl <;> exact ⟨by decide, by decide⟩
  have plain : noteHeader.Locatable [98] := by
    refine ⟨by simp [noteHeader, HeaderMember.isMetadata], closed _ (.inl rfl), ?_⟩
    rintro object ⟨⟩
    refine MetadataObject.Plain.finds ⟨?_, ?_, ?_⟩ (by constructor <;> decide) (by decide) <;>
      decide
  have escaped : escapedHeader.Locatable [98] := by
    refine ⟨by simp [escapedHeader, HeaderMember.isMetadata], closed _ (.inr rfl), ?_⟩
    rintro object ⟨⟩
    exact ⟨[_], [], rfl, by decide +kernel⟩
  exact ⟨⟨simple.1, plain, metadata_value_faithful noteHeader [98] simple.1 plain⟩, simple.2,
    escaped, metadata_value_faithful escapedHeader [98] simple.2 escaped⟩

/-- A value is taken for a key: the lookup of `k` gives the value of `b`. -/
theorem metadata_value_mistaken :
    noteHeader.metadataValue [107] = none ∧
      safetensorsMetadataValue noteHeader.text [107] = .ok (some [119]) := by
  refine ⟨by decide, by decide⟩

end FlowEdge
