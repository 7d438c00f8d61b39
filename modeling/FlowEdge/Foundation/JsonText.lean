import Mathlib.Data.List.Basic

/-!
# JSON texts

The texts of JSON strings, numbers, arrays and objects as lists of bytes, with any white space
that the grammar allows. Texts carry the proof that they are legal.
-/

namespace JsonText

/-! ## Characters -/

def tab : UInt8 := 9
def newline : UInt8 := 10
def carriageReturn : UInt8 := 13
def space : UInt8 := 32
def quote : UInt8 := 34
def comma : UInt8 := 44
def slash : UInt8 := 47
def zero : UInt8 := 48
def nine : UInt8 := 57
def colon : UInt8 := 58
def openBracket : UInt8 := 91
def backslash : UInt8 := 92
def closeBracket : UInt8 := 93
def openBrace : UInt8 := 123
def closeBrace : UInt8 := 125

def isSpace (c : UInt8) : Bool := c = space ∨ c = newline ∨ c = carriageReturn ∨ c = tab

def isDigit (c : UInt8) : Bool := zero ≤ c ∧ c ≤ nine

def isHexDigit (c : UInt8) : Bool := isDigit c ∨ (65 ≤ c ∧ c ≤ 70) ∨ (97 ≤ c ∧ c ≤ 102)

/-- The characters that may follow a backslash, but for the `u` of a code unit. -/
def isSimpleEscape (c : UInt8) : Bool :=
  c = quote ∨ c = backslash ∨ c = slash ∨ c = 98 ∨ c = 102 ∨ c = 110 ∨ c = 114 ∨ c = 116

/-! ## Texts -/

theorem isSpace_of_mem_nil : ∀ c ∈ ([] : List UInt8), isSpace c = true := by
  simp

/-- White space. -/
structure Blank where
  text : List UInt8 := []
  legal : ∀ c ∈ text, isSpace c = true := by exact isSpace_of_mem_nil

/-- What may stand between the quotes of a string. -/
inductive IsString : List UInt8 → Prop where
  | nil : IsString []
  | plain {c : UInt8} {rest : List UInt8} (printable : 32 ≤ c) (notQuote : c ≠ quote)
      (notBackslash : c ≠ backslash) : IsString rest → IsString (c :: rest)
  | escape {c : UInt8} {rest : List UInt8} (simple : isSimpleEscape c = true) :
      IsString rest → IsString (backslash :: c :: rest)
  | unit {first second third fourth : UInt8} {rest : List UInt8}
      (digits : ∀ c ∈ [first, second, third, fourth], isHexDigit c = true) :
      IsString rest → IsString (backslash :: 117 :: first :: second :: third :: fourth :: rest)

/-- A string, as it is written between its quotes. -/
structure JsonString where
  text : List UInt8
  legal : IsString text

/-- Strings whose escapes are all simple. -/
inductive IsSimpleString : List UInt8 → Prop where
  | nil : IsSimpleString []
  | plain {c : UInt8} {rest : List UInt8} (notBackslash : c ≠ backslash) :
      IsSimpleString rest → IsSimpleString (c :: rest)
  | escape {c : UInt8} {rest : List UInt8} (simple : isSimpleEscape c = true) :
      IsSimpleString rest → IsSimpleString (backslash :: c :: rest)

/-- A number without sign, fraction and exponent. -/
structure JsonNumber where
  text : List UInt8
  digits : ∀ c ∈ text, isDigit c = true
  nonempty : text ≠ []

def quoted (text : List UInt8) : List UInt8 := quote :: text ++ [quote]

/-- The white space around the parts of a member. -/
structure Spacing where
  lead : Blank := {}
  beforeColon : Blank := {}
  afterColon : Blank := {}
  trail : Blank := {}

/-- A member of an object: its key and the text of its value. -/
def memberText (spacing : Spacing) (key value : List UInt8) : List UInt8 :=
  spacing.lead.text ++ quoted key ++ spacing.beforeColon.text ++ [colon] ++
    spacing.afterColon.text ++ value ++ spacing.trail.text

/-- The members of an object or the elements of an array, with commas between them. -/
def joined : List (List UInt8) → List UInt8
  | [] => []
  | first :: rest => first ++ rest.flatMap fun text => comma :: text

def objectText (lead : Blank) (members : List (List UInt8)) : List UInt8 :=
  openBrace :: lead.text ++ joined members ++ [closeBrace]

def arrayText (lead : Blank) (elements : List (List UInt8)) : List UInt8 :=
  openBracket :: lead.text ++ joined elements ++ [closeBracket]

def digitsValue (text : List UInt8) : Nat :=
  text.foldl (fun value c => value * 10 + (c.toNat - 48)) 0

def JsonNumber.value (number : JsonNumber) : Nat := digitsValue number.text

/-! ## What strings stand for -/

/-- The character that a simple escape stands for. -/
def simpleEscape (c : UInt8) : UInt8 :=
  if c = 98 then 8
  else if c = 102 then 12
  else if c = 110 then newline
  else if c = 114 then carriageReturn
  else if c = 116 then tab
  else c

def hexValue (c : UInt8) : Nat :=
  if isDigit c then c.toNat - 48 else if c ≤ 70 then c.toNat - 55 else c.toNat - 87

def unitValue (first second third fourth : UInt8) : Nat :=
  ((hexValue first * 16 + hexValue second) * 16 + hexValue third) * 16 + hexValue fourth

/-- The bytes of a code point. -/
def utf8 (code : Nat) : List UInt8 :=
  if code < 0x80 then [UInt8.ofNat code]
  else if code < 0x800 then [UInt8.ofNat (0xC0 + code / 64), UInt8.ofNat (0x80 + code % 64)]
  else if code < 0x10000 then
    [UInt8.ofNat (0xE0 + code / 4096), UInt8.ofNat (0x80 + code / 64 % 64),
      UInt8.ofNat (0x80 + code % 64)]
  else
    [UInt8.ofNat (0xF0 + code / 262144), UInt8.ofNat (0x80 + code / 4096 % 64),
      UInt8.ofNat (0x80 + code / 64 % 64), UInt8.ofNat (0x80 + code % 64)]

/-- What a string stands for. `high` is the first half of a surrogate pair, if its second half
must come next. -/
def decodeFrom : Option Nat → List UInt8 → List UInt8
  | high, [] => (high.map utf8).getD []
  | high, 92 :: 117 :: first :: second :: third :: fourth :: rest =>
      let unit := unitValue first second third fourth
      match high with
      | none =>
          if 0xD800 ≤ unit ∧ unit < 0xDC00 then decodeFrom (some unit) rest
          else utf8 unit ++ decodeFrom none rest
      | some high =>
          if 0xDC00 ≤ unit ∧ unit < 0xE000 then
            utf8 (0x10000 + (high - 0xD800) * 1024 + (unit - 0xDC00)) ++ decodeFrom none rest
          else if 0xD800 ≤ unit ∧ unit < 0xDC00 then utf8 high ++ decodeFrom (some unit) rest
          else utf8 high ++ utf8 unit ++ decodeFrom none rest
  | high, 92 :: c :: rest => (high.map utf8).getD [] ++ simpleEscape c :: decodeFrom none rest
  | high, c :: rest => (high.map utf8).getD [] ++ c :: decodeFrom none rest

def decode (text : List UInt8) : List UInt8 := decodeFrom none text

variable {c : UInt8}

theorem decode_plain (notBackslash : c ≠ backslash) (rest : List UInt8) :
    decode (c :: rest) = c :: decode rest := by
  rw [decode, decodeFrom.eq_5]
  · rfl
  · rintro _ _ _ _ _ rfl
    exact absurd rfl notBackslash
  · rintro _ _ rfl
    exact absurd rfl notBackslash

variable {text : List UInt8}

/-- A string without escapes stands for itself. -/
theorem decode_of_not_mem (plain : backslash ∉ text) : decode text = text := by
  induction text with
  | nil => rfl
  | cons c rest ih =>
      rw [List.mem_cons, not_or] at plain
      rw [decode_plain (Ne.symm plain.1), ih plain.2]

theorem decode_escape (simple : isSimpleEscape c = true) (rest : List UInt8) :
    decode (backslash :: c :: rest) = simpleEscape c :: decode rest := by
  rw [decode, backslash, decodeFrom.eq_4]
  · rfl
  · rintro _ _ _ _ _ rfl
    exact absurd simple (by decide)

/-! ## Texts that go on -/

theorem quoted_append (text rest : List UInt8) :
    quoted text ++ rest = quote :: (text ++ quote :: rest) := by
  simp [quoted]

theorem memberText_append (spacing : Spacing) (key value rest : List UInt8) :
    memberText spacing key value ++ rest =
      spacing.lead.text ++ (quoted key ++ (spacing.beforeColon.text ++
        (colon :: (spacing.afterColon.text ++ (value ++ (spacing.trail.text ++ rest)))))) := by
  simp [memberText]

theorem objectText_append (lead : Blank) (members : List (List UInt8)) (rest : List UInt8) :
    objectText lead members ++ rest =
      openBrace :: (lead.text ++ (joined members ++ closeBrace :: rest)) := by
  simp [objectText]

theorem arrayText_append (lead : Blank) (elements : List (List UInt8)) (rest : List UInt8) :
    arrayText lead elements ++ rest =
      openBracket :: (lead.text ++ (joined elements ++ closeBracket :: rest)) := by
  simp [arrayText]

/-- Commas stand behind the texts before one and before the texts behind it. -/
theorem joined_append_cons (before : List (List UInt8)) (text : List UInt8)
    (after : List (List UInt8)) :
    joined (before ++ text :: after) =
      (before.flatMap fun text => text ++ [comma]) ++ (text ++ after.flatMap (comma :: ·)) := by
  induction before generalizing text with
  | nil => rfl
  | cons first others ih =>
      have rest := ih text
      cases others with
      | nil => simp [joined]
      | cons second others =>
          rw [List.cons_append, joined] at rest
          rw [List.cons_append, List.cons_append, joined, List.flatMap_cons, List.flatMap_cons,
            List.append_assoc, ← rest]
          simp

/-! ## Characters that do not occur -/

theorem of_mem_joined {texts : List (List UInt8)} (member : c ∈ joined texts) :
    c = comma ∨ ∃ text ∈ texts, c ∈ text := by
  cases texts with
  | nil => cases member
  | cons first rest =>
      rw [joined, List.mem_append, List.mem_flatMap] at member
      rcases member with here | ⟨text, further, here⟩
      · exact .inr ⟨first, List.mem_cons_self, here⟩
      · rcases List.mem_cons.mp here with here | here
        · exact .inl here
        · exact .inr ⟨text, List.mem_cons_of_mem _ further, here⟩

theorem ne_of_isSpace {other : UInt8} (blank : isSpace c = true) (visible : isSpace other = false) :
    c ≠ other := by
  rintro rfl
  rw [blank] at visible
  cases visible

theorem Blank.free {other : UInt8} (visible : isSpace other = false) (blank : Blank) :
    other ∉ blank.text :=
  fun member => ne_of_isSpace (blank.legal other member) visible rfl

theorem ne_of_isDigit {other : UInt8} (digit : isDigit c = true)
    (notDigit : isDigit other = false) :
    c ≠ other := by
  rintro rfl
  rw [digit] at notDigit
  cases notDigit

/-- A quote inside a string follows a backslash. -/
theorem IsString.backslash_before {before after : List UInt8}
    (legal : IsString (before ++ quote :: after)) : before.getLast? = some backslash := by
  generalize split : before ++ quote :: after = text at legal
  induction legal generalizing before with
  | nil => simp at split
  | @plain c rest printable notQuote notBackslash legal ih =>
      cases before with
      | nil =>
          cases split
          exact absurd rfl notQuote
      | cons first more =>
          cases split
          have last := ih rfl
          rw [List.getLast?_cons, last]
          rfl
  | @escape c rest simple legal ih =>
      rcases before with - | ⟨first, - | ⟨second, more⟩⟩
      · cases split
      · cases split
        rfl
      · cases split
        have last := ih rfl
        rw [List.getLast?_cons, List.getLast?_cons, last]
        rfl
  | @unit first second third fourth rest digits legal ih =>
      have notQuote : ∀ c ∈ [first, second, third, fourth], c ≠ quote := by
        rintro c member rfl
        exact absurd (digits quote member) (by decide)
      rcases before with - | ⟨a, - | ⟨b, - | ⟨c, - | ⟨d, - | ⟨e, - | ⟨f, more⟩⟩⟩⟩⟩⟩
      · cases split
      · cases split
      · cases split
        exact absurd rfl (notQuote quote (by simp))
      · cases split
        exact absurd rfl (notQuote quote (by simp))
      · cases split
        exact absurd rfl (notQuote quote (by simp))
      · cases split
        exact absurd rfl (notQuote quote (by simp))
      · cases split
        have last := ih rfl
        simp [List.getLast?_cons, last]

/-- Every quote of a text follows a backslash, also if the text follows a character. -/
def Escaped (before : UInt8) (text : List UInt8) : Prop :=
  ∀ front back, text = front ++ quote :: back → front.getLastD before = backslash

theorem IsString.escaped (legal : IsString text) (before : UInt8) : Escaped before text := by
  rintro front back rfl
  rw [List.getLastD_eq_getLast?, legal.backslash_before]
  rfl

theorem Escaped.tail {before : UInt8} (escaped : Escaped before (c :: text)) : Escaped c text := by
  rintro front back rfl
  have last := escaped (c :: front) back rfl
  rwa [List.getLastD_cons] at last

theorem Escaped.head {before : UInt8} (escaped : Escaped before (quote :: text)) :
    before = backslash :=
  escaped [] text rfl

end JsonText
