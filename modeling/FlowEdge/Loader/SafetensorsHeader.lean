import FlowEdge.Loader.SafetensorsMemory

/-!
# Safetensors headers

The headers that the format allows: an object with an optional object of metadata, whose
values are strings, and the objects of the tensors. The text of a tensor, whatever the order
of its fields and the white space in it, is read as it is meant.
-/

namespace FlowEdge

open TrackedWords JsonText

/-! ## Syntax -/

/-- The characters of the names of element types. -/
def isDtypeCharacter (c : UInt8) : Bool := isDigit c ∨ (65 ≤ c ∧ c ≤ 90) ∨ c = 95

structure DtypeName where
  text : List UInt8
  legal : ∀ c ∈ text, isDtypeCharacter c = true

/-- A number in an array. -/
structure ArrayNumber where
  lead : Blank := {}
  number : JsonNumber
  trail : Blank := {}

def ArrayNumber.text (element : ArrayNumber) : List UInt8 :=
  element.lead.text ++ element.number.text ++ element.trail.text

def ArrayNumber.value (element : ArrayNumber) : UInt64 := UInt64.ofNat element.number.value

inductive TensorField where
  | dtype
  | shape
  | dataOffsets
  deriving DecidableEq

/-- `dtype` -/
def dtypeName : List UInt8 := [100, 116, 121, 112, 101]

def TensorField.key : TensorField → List UInt8
  | .dtype => dtypeName
  | .shape => shapeName
  | .dataOffsets => dataOffsetsName

/-- The object of a tensor, with its fields in any order. -/
structure TensorObject where
  lead : Blank := {}
  spacing : TensorField → Spacing := fun _ => {}
  order : List TensorField := [.dtype, .shape, .dataOffsets]
  dtype : DtypeName
  shapeLead : Blank := {}
  shape : List ArrayNumber
  offsetsLead : Blank := {}
  start : ArrayNumber
  stop : ArrayNumber
  complete : order.Perm [.dtype, .shape, .dataOffsets]
  rank : shape.length ≤ 4
  inRange : ∀ element ∈ start :: stop :: shape, element.number.value < 2 ^ 64
  ordered : start.number.value ≤ stop.number.value

namespace TensorObject

variable (object : TensorObject)

def fieldValue : TensorField → List UInt8
  | .dtype => quoted object.dtype.text
  | .shape => arrayText object.shapeLead (object.shape.map ArrayNumber.text)
  | .dataOffsets => arrayText object.offsetsLead [object.start.text, object.stop.text]

def fieldText (field : TensorField) : List UInt8 :=
  memberText (object.spacing field) field.key (object.fieldValue field)

def text : List UInt8 := objectText object.lead (object.order.map object.fieldText)

/-- The call that the tensor calls for. -/
def entry (name : NameView) : TensorEntry :=
  if object.dtype.text = bf16Name ∨ object.dtype.text = f32Name then
    { name
      offset := object.start.value
      length := object.stop.value - object.start.value
      shape := object.shape.map ArrayNumber.value
      ndim := object.shape.length
      bf16 := object.dtype.text = bf16Name
      supported := true }
  else { name }

end TensorObject

/-- A member of the metadata. -/
structure MetadataMember where
  spacing : Spacing := {}
  key : JsonString
  value : JsonString

structure MetadataObject where
  lead : Blank := {}
  members : List MetadataMember

def MetadataMember.text (member : MetadataMember) : List UInt8 :=
  memberText member.spacing member.key.text (quoted member.value.text)

def MetadataObject.text (object : MetadataObject) : List UInt8 :=
  objectText object.lead (object.members.map MetadataMember.text)

/-- A member of the header. -/
inductive HeaderMember where
  | metadata (spacing : Spacing) (object : MetadataObject)
  | tensor (spacing : Spacing) (name : JsonString) (named : name.text ≠ metadataName)
      (object : TensorObject)

namespace HeaderMember

def spacing : HeaderMember → Spacing
  | .metadata spacing _ => spacing
  | .tensor spacing _ _ _ => spacing

def name : HeaderMember → List UInt8
  | .metadata _ _ => metadataName
  | .tensor _ name _ _ => name.text

def value : HeaderMember → List UInt8
  | .metadata _ object => object.text
  | .tensor _ _ _ object => object.text

def isMetadata : HeaderMember → Bool
  | .metadata _ _ => true
  | .tensor _ _ _ _ => false

def text (member : HeaderMember) : List UInt8 :=
  memberText member.spacing member.name member.value

end HeaderMember

/-- A header, with at most one object of metadata. -/
structure Header where
  before : Blank := {}
  lead : Blank := {}
  members : List HeaderMember
  after : Blank := {}
  single : members.countP HeaderMember.isMetadata ≤ 1

def Header.text (header : Header) : List UInt8 :=
  header.before.text ++ objectText header.lead (header.members.map HeaderMember.text) ++
    header.after.text

/-! ## Searching -/

section Find

variable {first : UInt8} {pattern : List UInt8}

theorem find_cons_ne {c : UInt8} (different : c ≠ first) (rest : List UInt8) :
    find (first :: pattern) (c :: rest) = find (first :: pattern) rest := by
  rw [find, if_neg]
  intro here
  rw [List.isPrefixOf_cons_cons, Bool.and_eq_true, beq_iff_eq] at here
  exact different here.1.symm

theorem find_skip {skipped : List UInt8} (free : first ∉ skipped) (rest : List UInt8) :
    find (first :: pattern) (skipped ++ rest) = find (first :: pattern) rest := by
  induction skipped with
  | nil => rfl
  | cons c more ih =>
      rw [List.mem_cons, not_or] at free
      rw [List.cons_append, find_cons_ne (Ne.symm free.1), ih free.2]

theorem find_here (rest : List UInt8) :
    find (first :: pattern) (first :: pattern ++ rest) = some (first :: pattern ++ rest) := by
  rw [List.cons_append, find, if_pos]
  rw [← List.cons_append, List.isPrefixOf_iff_prefix]
  exact List.prefix_append _ _

/-- The first occurrence of a separator is where it is in both texts. -/
theorem eq_of_append_cons {separator : UInt8} {left right more others : List UInt8}
    (leftFree : separator ∉ left) (rightFree : separator ∉ right)
    (same : left ++ separator :: more = right ++ separator :: others) : left = right := by
  induction left generalizing right with
  | nil =>
      cases right with
      | nil => rfl
      | cons c rest =>
          cases same
          exact absurd List.mem_cons_self rightFree
  | cons c rest ih =>
      cases right with
      | nil =>
          cases same
          exact absurd List.mem_cons_self leftFree
      | cons d tail =>
          rw [List.cons_append, List.cons_append, List.cons.injEq] at same
          rw [List.mem_cons, not_or] at leftFree rightFree
          rw [same.1, ih leftFree.2 rightFree.2 same.2]

/-- A quoted text is not found at another one, if what follows does not look like it. -/
theorem find_quoted_skip {sought text rest : List UInt8} {letter : UInt8}
    (soughtFree : quote ∉ letter :: sought) (textFree : quote ∉ text)
    (different : text ≠ letter :: sought) (follows : rest.head? ≠ some letter) :
    find (quoted (letter :: sought)) (quoted text ++ rest) =
      find (quoted (letter :: sought)) rest := by
  have atOpening : ¬ (quoted (letter :: sought)).isPrefixOf (quoted text ++ rest) = true := by
    rw [List.isPrefixOf_iff_prefix]
    rintro ⟨more, same⟩
    rw [quoted_append, quoted_append, List.cons.injEq] at same
    exact different (eq_of_append_cons soughtFree textFree same.2).symm
  have atClosing : ¬ (quoted (letter :: sought)).isPrefixOf (quote :: rest) = true := by
    rw [List.isPrefixOf_iff_prefix]
    rintro ⟨more, same⟩
    rw [quoted_append, List.cons.injEq] at same
    refine follows ?_
    rw [← same.2]
    rfl
  rw [quoted_append] at atOpening ⊢
  rw [find, if_neg atOpening]
  change find (quote :: (letter :: sought ++ [quote])) _ = _
  rw [find_skip textFree, find]
  exact if_neg atClosing

theorem find_quoted_here (text rest : List UInt8) :
    find (quoted text) (quoted text ++ rest) = some (quoted text ++ rest) :=
  find_here rest

end Find

/-! ## Numbers -/

/-- A digit that leaves the number in range is appended. -/
theorem appendDigit_eq {value : UInt64} {c : UInt8} (digit : isDigit c = true)
    (fits : value.toNat * 10 + (c.toNat - 48) < 2 ^ 64) :
    appendDigit value c = pure (some (UInt64.ofNat (value.toNat * 10 + (c.toNat - 48)))) := by
  obtain ⟨result, same, known⟩ := exact_appendDigit value digit
  cases result with
  | none =>
      dsimp only at known
      omega
  | some next =>
      rw [same, ← known, UInt64.ofNat_toNat]

/-- The value of a number whose first digits have been read. -/
def digitsFrom (value : Nat) (text : List UInt8) : Nat :=
  text.foldl (fun value c => value * 10 + (c.toNat - 48)) value

theorem le_digitsFrom (value : Nat) (text : List UInt8) : value ≤ digitsFrom value text := by
  induction text generalizing value with
  | nil => exact Nat.le_refl value
  | cons c rest ih =>
      have more : value * 10 + (c.toNat - 48) ≤ digitsFrom value (c :: rest) := ih _
      omega

section Numbers

variable (capacity : Nat) (rest : List UInt8) (count : Nat) (out : List UInt64)

/-- The digits of a number in range are read. -/
theorem parseU64s_digits {text : List UInt8} (digits : ∀ c ∈ text, isDigit c = true)
    (value : UInt64) (fits : digitsFrom value.toNat text < 2 ^ 64) :
    parseU64s capacity (text ++ rest) (some value) count out =
      parseU64s capacity rest (some (UInt64.ofNat (digitsFrom value.toNat text))) count out := by
  induction text generalizing value with
  | nil =>
      rw [digitsFrom, List.foldl_nil, UInt64.ofNat_toNat]
      rfl
  | cons c more ih =>
      rw [List.forall_mem_cons] at digits
      have next : value.toNat * 10 + (c.toNat - 48) < 2 ^ 64 :=
        lt_of_le_of_lt (le_digitsFrom _ more) fits
      have read := ih digits.2 (UInt64.ofNat (value.toNat * 10 + (c.toNat - 48)))
      rw [UInt64.toNat_ofNat_of_lt' next] at read
      rw [List.cons_append, parseU64s, if_pos digits.1, appendDigit_eq digits.1 next, pure_bind]
      exact read fits

theorem parseU64s_number (number : JsonNumber) (fits : number.value < 2 ^ 64) :
    parseU64s capacity (number.text ++ rest) none count out =
      parseU64s capacity rest (some (UInt64.ofNat number.value)) count out := by
  obtain ⟨text, digits, nonempty⟩ := number
  cases text with
  | nil => exact absurd rfl nonempty
  | cons c more =>
      have first := digits c List.mem_cons_self
      have read := parseU64s_digits capacity rest count out digits 0 fits
      rw [List.cons_append, parseU64s, if_pos first] at read
      rw [List.cons_append, parseU64s, if_pos first]
      exact read

/-- Behind a number any other character ends it. -/
theorem parseU64s_end {c : UInt8} (notDigit : isDigit c = false) (value : UInt64) :
    parseU64s capacity (c :: rest) (some value) count out =
      parseU64s capacity (c :: rest) none (count + 1) (storeNumber capacity count out value) := by
  have other : ¬ isDigit c = true := by simp [notDigit]
  rw [parseU64s, parseU64s, if_neg other, if_neg other]

theorem parseU64s_skip {c : UInt8} (notDigit : isDigit c = false) (notEnd : c ≠ closeBracket) :
    parseU64s capacity (c :: rest) none count out = parseU64s capacity rest none count out := by
  rw [parseU64s, if_neg (by simp [notDigit]), if_neg notEnd]

theorem isDigit_of_isSpace {c : UInt8} (blank : isSpace c = true) : isDigit c = false := by
  simp only [isSpace, decide_eq_true_eq] at blank
  rcases blank with rfl | rfl | rfl | rfl <;> rfl

theorem parseU64s_blank (blank : Blank) :
    parseU64s capacity (blank.text ++ rest) none count out =
      parseU64s capacity rest none count out := by
  obtain ⟨text, legal⟩ := blank
  induction text with
  | nil => rfl
  | cons c more ih =>
      rw [List.forall_mem_cons] at legal
      rw [List.cons_append, parseU64s_skip _ _ _ _ (isDigit_of_isSpace legal.1)
        (ne_of_isSpace legal.1 (by decide))]
      exact ih legal.2

end Numbers

section Arrays

variable (capacity : Nat) {rest : List UInt8} {out : List UInt64}

/-- What may follow an element of an array. -/
def EndsNumber (rest : List UInt8) : Prop := ∃ c more, rest = c :: more ∧ isDigit c = false

theorem ArrayNumber.text_append (element : ArrayNumber) (rest : List UInt8) :
    element.text ++ rest =
      element.lead.text ++ (element.number.text ++ (element.trail.text ++ rest)) := by
  simp [ArrayNumber.text]

theorem EndsNumber.blank (blank : Blank) (ends : EndsNumber rest) :
    EndsNumber (blank.text ++ rest) := by
  cases same : blank.text with
  | nil => exact ends
  | cons c more =>
      exact ⟨c, more ++ rest, rfl, isDigit_of_isSpace (blank.legal c (by simp [same]))⟩

/-- An element of an array is read and stored. -/
theorem parseU64s_element (element : ArrayNumber) (fits : element.number.value < 2 ^ 64)
    (ends : EndsNumber rest) {count : Nat} (room : count < capacity) :
    parseU64s capacity (element.text ++ rest) none count out =
      parseU64s capacity rest none (count + 1) (out ++ [element.value]) := by
  obtain ⟨c, more, same, notDigit⟩ := ends.blank element.trail
  rw [element.text_append, parseU64s_blank, parseU64s_number _ _ _ _ _ fits, same,
    parseU64s_end _ _ _ _ notDigit, ← same, parseU64s_blank, storeNumber, if_pos room]
  rfl

/-- The further elements of an array are read and stored. -/
theorem parseU64s_elements (elements : List ArrayNumber)
    (fits : ∀ element ∈ elements, element.number.value < 2 ^ 64) (count : Nat)
    (room : count + elements.length ≤ capacity) :
    parseU64s capacity ((elements.flatMap fun element => comma :: element.text) ++
        closeBracket :: rest) none count out =
      pure (some (count + elements.length, out ++ elements.map ArrayNumber.value)) := by
  induction elements generalizing count out with
  | nil =>
      rw [List.flatMap_nil, List.nil_append, parseU64s, if_neg (by decide), if_pos rfl,
        List.map_nil, List.append_nil]
      rfl
  | cons element others ih =>
      rw [List.forall_mem_cons] at fits
      rw [List.length_cons] at room ⊢
      have ends : EndsNumber ((others.flatMap fun element => comma :: element.text) ++
          closeBracket :: rest) := by
        cases others with
        | nil => exact ⟨closeBracket, rest, rfl, rfl⟩
        | cons _ _ => exact ⟨comma, _, rfl, rfl⟩
      rw [List.flatMap_cons, List.append_assoc, List.cons_append,
        parseU64s_skip _ _ _ _ rfl (by decide),
        parseU64s_element capacity element fits.1 ends (by omega), ih fits.2 _ (by omega),
        List.map_cons, List.append_assoc, Nat.add_right_comm, Nat.add_assoc]
      rfl

/-- All numbers of an array are read and stored. -/
theorem parseU64s_array (lead before : Blank) (elements : List ArrayNumber)
    (fits : ∀ element ∈ elements, element.number.value < 2 ^ 64)
    (room : elements.length ≤ capacity) :
    parseU64s capacity (before.text ++ (arrayText lead (elements.map ArrayNumber.text) ++ rest))
        none 0 [] =
      pure (some (elements.length, elements.map ArrayNumber.value)) := by
  have read : parseU64s capacity ((elements.flatMap fun element => comma :: element.text) ++
      closeBracket :: rest) none 0 [] =
        pure (some (0 + elements.length, elements.map ArrayNumber.value)) :=
    parseU64s_elements capacity elements fits 0 (by omega)
  rw [Nat.zero_add] at read
  rw [arrayText_append, parseU64s_blank, parseU64s_skip _ _ _ _ rfl (by decide), parseU64s_blank]
  -- The first element is read as if a comma stood before it.
  cases elements with
  | nil => exact read
  | cons element others =>
      rw [List.flatMap_cons, List.append_assoc, List.cons_append,
        parseU64s_skip _ _ _ _ rfl (by decide)] at read
      rw [List.map_cons, joined, List.append_assoc, List.flatMap_map]
      exact read

end Arrays

/-! ## Fields -/

/-- A text whose quoted form `foreach_tensor` looks for in the object of a tensor. Its first
letter is none that can follow a string there. -/
structure Sought (letter : UInt8) (sought : List UInt8) : Prop where
  free : quote ∉ letter :: sought
  visible : isSpace letter = false
  notColon : letter ≠ colon
  notComma : letter ≠ comma
  notBrace : letter ≠ closeBrace

theorem head?_blank_append {letter : UInt8} (visible : isSpace letter = false) (blank : Blank)
    {rest : List UInt8} (follows : rest.head? ≠ some letter) :
    (blank.text ++ rest).head? ≠ some letter := by
  cases same : blank.text with
  | nil => exact follows
  | cons c more =>
      have here : c ∈ blank.text := by simp [same]
      intro found
      rw [List.cons_append, List.head?_cons, Option.some.injEq] at found
      exact ne_of_isSpace (blank.legal c here) visible found

theorem head?_cons_ne {letter c : UInt8} (different : letter ≠ c) (rest : List UInt8) :
    (c :: rest).head? ≠ some letter := by
  simpa using different.symm

/-- A text that a search for the quoted form passes over, if what follows does not look like it. -/
def Skipped (letter : UInt8) (sought text : List UInt8) : Prop :=
  ∀ ⦃rest⦄, rest.head? ≠ some letter →
    find (quoted (letter :: sought)) (text ++ rest) = find (quoted (letter :: sought)) rest

namespace Skipped

variable {letter : UInt8} {sought : List UInt8}

/-- A member is passed over if its key and its value are. -/
theorem member (seek : Sought letter sought) (spacing : Spacing) {key value : List UInt8}
    (keySkipped : Skipped letter sought (quoted key)) (valueSkipped : Skipped letter sought value) :
    Skipped letter sought (memberText spacing key value) := by
  intro rest follows
  have blank : ∀ (blank : Blank) (text : List UInt8), find (quoted (letter :: sought))
      (blank.text ++ text) = find (quoted (letter :: sought)) text :=
    fun blank text => find_skip (blank.free (by decide)) text
  rw [memberText_append, blank,
    keySkipped (head?_blank_append seek.visible _ (head?_cons_ne seek.notColon _)), blank]
  refine (find_cons_ne (by decide) _).trans ((blank _ _).trans ?_)
  rw [valueSkipped (head?_blank_append seek.visible _ follows), blank]

/-- Members with commas behind them are passed over. -/
theorem commas {α : Type} (seek : Sought letter sought) {text : α → List UInt8} {items : List α}
    (skipped : ∀ item ∈ items, Skipped letter sought (text item)) (rest : List UInt8) :
    find (quoted (letter :: sought)) ((items.flatMap fun item => text item ++ [comma]) ++ rest) =
      find (quoted (letter :: sought)) rest := by
  induction items with
  | nil => rfl
  | cons item items ih =>
      rw [List.forall_mem_cons] at skipped
      rw [List.flatMap_cons, List.append_assoc, List.append_assoc, List.singleton_append,
        skipped.1 (head?_cons_ne seek.notComma _)]
      exact (find_cons_ne (by decide) _).trans (ih skipped.2)

/-- Members with commas between them are passed over. -/
theorem joined (seek : Sought letter sought) {texts : List (List UInt8)}
    (skipped : ∀ text ∈ texts, Skipped letter sought text) :
    Skipped letter sought (joined texts) := by
  intro rest follows
  rcases List.eq_nil_or_concat' texts with rfl | ⟨before, last, rfl⟩
  · rfl
  · rw [List.forall_mem_append, List.forall_mem_singleton] at skipped
    rw [joined_append_cons, List.flatMap_nil, List.append_nil, List.append_assoc,
      commas seek skipped.1, skipped.2 follows]

end Skipped

/-- The characters that an array of numbers is made of. -/
theorem not_mem_array {other : UInt8} (visible : isSpace other = false)
    (notDigit : isDigit other = false) (notMark : other ∉ [comma, openBracket, closeBracket])
    (lead : Blank) (elements : List ArrayNumber) :
    other ∉ arrayText lead (elements.map ArrayNumber.text) := by
  simp only [List.mem_cons, List.not_mem_nil, or_false, not_or] at notMark
  intro member
  simp only [arrayText, List.cons_append, List.mem_cons, List.mem_append, List.not_mem_nil,
    or_false] at member
  rcases member with here | (here | here) | here
  · exact notMark.2.1 here
  · exact lead.free visible here
  · rcases of_mem_joined here with here | ⟨text, known, here⟩
    · exact notMark.1 here
    · obtain ⟨element, -, rfl⟩ := List.mem_map.mp known
      simp only [ArrayNumber.text, List.mem_append] at here
      rcases here with (here | here) | here
      · exact element.lead.free visible here
      · exact ne_of_isDigit (element.number.digits _ here) notDigit rfl
      · exact element.trail.free visible here
  · exact notMark.2.2 here

namespace TensorObject

variable (object : TensorObject) {letter : UInt8} {sought rest : List UInt8}

theorem quote_not_mem_dtype : quote ∉ object.dtype.text :=
  fun member => absurd (object.dtype.legal quote member) (by decide)

/-- The value of a field is passed over. -/
theorem skipped_fieldValue (seek : Sought letter sought) (field : TensorField)
    (other : field = .dtype → object.dtype.text ≠ letter :: sought) :
    Skipped letter sought (object.fieldValue field) := by
  intro rest follows
  cases field with
  | dtype => exact find_quoted_skip seek.free object.quote_not_mem_dtype (other rfl) follows
  | shape =>
      exact find_skip (not_mem_array (by decide) (by decide) (by decide) _ object.shape) rest
  | dataOffsets =>
      exact find_skip (not_mem_array (by decide) (by decide) (by decide) _
        [object.start, object.stop]) rest

theorem quote_not_mem_key (field : TensorField) : quote ∉ field.key := by
  cases field <;> decide

/-- A field is passed over. -/
theorem skipped_field (seek : Sought letter sought) (field : TensorField)
    (different : field.key ≠ letter :: sought)
    (other : field = .dtype → object.dtype.text ≠ letter :: sought) :
    Skipped letter sought (object.fieldText field) :=
  .member seek _ (fun _ => find_quoted_skip seek.free (quote_not_mem_key field) different)
    (object.skipped_fieldValue seek field other)

/-- The fields of an object, with the text of one of them in between. -/
theorem text_eq {before after : List TensorField} {field : TensorField}
    (order : object.order = before ++ field :: after) :
    object.text = openBrace :: (object.lead.text ++
      ((before.flatMap fun field => object.fieldText field ++ [comma]) ++
        (object.fieldText field ++
          ((after.flatMap fun field => comma :: object.fieldText field) ++ [closeBrace])))) := by
  rw [text, objectText, order, List.map_append, List.map_cons, joined_append_cons]
  simp [List.flatMap_map]

/-- Every field occurs, once. -/
theorem exists_order (field : TensorField) :
    ∃ before after, object.order = before ++ field :: after ∧ field ∉ before ∧ field ∉ after := by
  have member : field ∈ object.order := by
    rw [object.complete.mem_iff]
    cases field <;> decide
  have distinct : object.order.Nodup := object.complete.nodup_iff.mpr (by decide)
  obtain ⟨before, after, order⟩ := List.append_of_mem member
  rw [order, List.nodup_middle, List.nodup_cons, List.mem_append, not_or] at distinct
  exact ⟨before, after, order, distinct.1⟩

theorem key_injective {first second : TensorField} (same : first.key = second.key) :
    first = second := by
  cases first <;> cases second <;> first | rfl | exact absurd same (by decide)

/-- The fields behind one, and the end of the object. -/
def fieldsBehind (after : List TensorField) : List UInt8 :=
  (after.flatMap fun field => comma :: object.fieldText field) ++ [closeBrace]

/-- A search comes to the field behind those that are passed over. -/
theorem find_from_field (seek : Sought letter sought) {before after : List TensorField}
    {field : TensorField} (order : object.order = before ++ field :: after)
    (different : ∀ earlier ∈ before, earlier.key ≠ letter :: sought)
    (other : .dtype ∈ before → object.dtype.text ≠ letter :: sought) :
    find (quoted (letter :: sought)) object.text =
      find (quoted (letter :: sought)) (object.fieldText field ++ object.fieldsBehind after) := by
  rw [object.text_eq order]
  refine (find_cons_ne (by decide) _).trans ((find_skip (object.lead.free (by decide)) _).trans ?_)
  exact Skipped.commas seek (fun field member => object.skipped_field seek field
    (different field member) fun same => other (same ▸ member)) _

/-- What `after_colon` gives for a field begins with the value of the field. -/
theorem afterColon_field (field : TensorField) (seek : Sought letter sought)
    (key : field.key = letter :: sought) (other : object.dtype.text ≠ letter :: sought) :
    ∃ rest, afterColon object.text (quoted (letter :: sought)) =
      (object.spacing field).afterColon.text ++ (object.fieldValue field ++ rest) := by
  obtain ⟨before, after, order, notBefore, -⟩ := object.exists_order field
  have different : ∀ earlier ∈ before, earlier.key ≠ letter :: sought := by
    intro earlier member same
    rw [← key] at same
    exact notBefore (key_injective same ▸ member)
  have found := object.find_from_field seek order different fun _ => other
  rw [fieldText, memberText_append, key] at found
  have here := found.trans
    ((find_skip ((object.spacing field).lead.free (by decide)) _).trans (find_quoted_here _ _))
  refine ⟨(object.spacing field).trail.text ++ object.fieldsBehind after, ?_⟩
  rw [afterColon, here]
  dsimp only
  rw [List.drop_left, find_skip ((object.spacing field).beforeColon.free (by decide)),
    find, if_pos (by simp)]
  rfl

/-- An object without the text is passed over. -/
theorem find_text_skip (seek : Sought letter sought)
    (notKey : ∀ field : TensorField, field.key ≠ letter :: sought)
    (other : object.dtype.text ≠ letter :: sought) :
    find (quoted (letter :: sought)) (object.text ++ rest) =
      find (quoted (letter :: sought)) rest := by
  have fields : Skipped letter sought (joined (object.order.map object.fieldText)) :=
    .joined seek <| List.forall_mem_map.mpr fun field _ =>
      object.skipped_field seek field (notKey field) fun _ => other
  rw [text, objectText_append]
  refine (find_cons_ne (by decide) _).trans ((find_skip (object.lead.free (by decide)) _).trans ?_)
  exact (fields (head?_cons_ne seek.notBrace _)).trans (find_cons_ne (by decide) _)

/-- The name of an element type is found in an object just if it is the object's. -/
theorem contains_dtype (seek : Sought letter sought)
    (notKey : ∀ field : TensorField, field.key ≠ letter :: sought) :
    contains object.text (quoted (letter :: sought)) =
      decide (object.dtype.text = letter :: sought) := by
  by_cases same : object.dtype.text = letter :: sought
  · obtain ⟨before, after, order, notBefore, -⟩ := object.exists_order .dtype
    have found : find (quoted (letter :: sought)) object.text =
        some (quoted (letter :: sought) ++
          ((object.spacing .dtype).trail.text ++ object.fieldsBehind after)) := by
      rw [object.find_from_field seek order (fun field _ => notKey field)
        fun member => absurd member notBefore, fieldText, memberText_append]
      refine (find_skip ((object.spacing .dtype).lead.free (by decide)) _).trans ?_
      refine (find_quoted_skip seek.free (quote_not_mem_key .dtype) (notKey .dtype)
        (head?_blank_append seek.visible _ (head?_cons_ne seek.notColon _))).trans ?_
      refine (find_skip ((object.spacing .dtype).beforeColon.free (by decide)) _).trans
        ((find_cons_ne (by decide) _).trans ?_)
      refine (find_skip ((object.spacing .dtype).afterColon.free (by decide)) _).trans ?_
      rw [fieldValue, same]
      exact find_quoted_here _ _
    rw [contains, found, decide_eq_true same]
    rfl
  · have absent : find (quoted (letter :: sought)) (object.text ++ []) = none :=
      object.find_text_skip seek notKey same
    rw [List.append_nil] at absent
    rw [contains, absent, decide_eq_false same]
    rfl

theorem contains_bf16 :
    contains object.text (quoted bf16Name) = decide (object.dtype.text = bf16Name) :=
  object.contains_dtype (by constructor <;> decide) (by rintro ⟨⟩ <;> decide)

theorem contains_f32 :
    contains object.text (quoted f32Name) = decide (object.dtype.text = f32Name) :=
  object.contains_dtype (by constructor <;> decide) (by rintro ⟨⟩ <;> decide)

/-- The name of an element type has no small letters. -/
theorem dtype_ne (small : isDtypeCharacter letter = false)
    (sought : List UInt8) : object.dtype.text ≠ letter :: sought := by
  intro same
  have legal := object.dtype.legal letter (by simp [same])
  rw [legal] at small
  cases small

theorem parse_shape :
    parseU64s 4 (afterColon object.text (quoted shapeName)) none 0 [] =
      pure (some (object.shape.length, object.shape.map ArrayNumber.value)) := by
  obtain ⟨rest, same⟩ := object.afterColon_field .shape (by constructor <;> decide) rfl
    (object.dtype_ne (by decide) _)
  rw [shapeName, same]
  refine parseU64s_array 4 _ _ object.shape (fun element member => ?_) object.rank
  exact object.inRange element (by simp [member])

theorem parse_dataOffsets :
    parseU64s 2 (afterColon object.text (quoted dataOffsetsName)) none 0 [] =
      pure (some (2, [object.start.value, object.stop.value])) := by
  obtain ⟨rest, same⟩ := object.afterColon_field .dataOffsets (by constructor <;> decide) rfl
    (object.dtype_ne (by decide) _)
  rw [dataOffsetsName, same]
  refine parseU64s_array 2 _ _ [object.start, object.stop] (fun element member => ?_)
    (Nat.le_refl 2)
  refine object.inRange element ?_
  rw [List.mem_cons, List.mem_singleton] at member
  rcases member with rfl | rfl <;> simp

theorem start_le_stop : object.start.value ≤ object.stop.value := by
  have start := object.inRange object.start (by simp)
  have stop := object.inRange object.stop (by simp)
  rw [UInt64.le_iff_toNat_le, ArrayNumber.value, ArrayNumber.value,
    UInt64.toNat_ofNat_of_lt' start, UInt64.toNat_ofNat_of_lt' stop]
  exact object.ordered

/-- **Objects of tensors.** `foreach_tensor` reads the object of a tensor as it is meant. -/
theorem tensorEntry_text (name : NameView) :
    tensorEntry name object.text = pure (some (object.entry name)) := by
  have ordered : ¬ (2 ≠ 2 ∨ [object.start.value, object.stop.value].getD 1 0 <
      [object.start.value, object.stop.value].getD 0 0) := by
    rintro (different | less)
    · exact different rfl
    · exact UInt64.not_lt.mpr object.start_le_stop less
  rw [tensorEntry, object.contains_bf16, object.contains_f32, entry]
  by_cases supported : object.dtype.text = bf16Name ∨ object.dtype.text = f32Name
  · rw [if_pos supported, if_neg (by simpa [or_iff_not_imp_left] using supported)]
    rw [object.parse_shape, pure_bind]
    dsimp only
    rw [if_neg (Nat.not_lt.mpr object.rank), object.parse_dataOffsets, pure_bind]
    dsimp only
    rw [if_neg ordered]
    have length := sub_eq object.start_le_stop
    exact (congrArg (· >>= _) length).trans (pure_bind _ _)
  · rw [if_neg supported, if_pos (by simpa [not_or] using supported)]

end TensorObject

end FlowEdge
