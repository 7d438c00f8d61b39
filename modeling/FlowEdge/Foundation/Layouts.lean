import Mathlib.Data.List.GetD
import FlowEdge.Foundation.Bytes

/-!
# Memory layouts

How values of fixed size lie in memory. A `Layout` writes a value as its bytes and reads a
value from the front of a byte string. Reading what was written gives the value back, and
writing what was read gives the bytes back. Layouts of words depend on the byte order of the
host; records are products of the layouts of their fields, in order and without padding.
-/

namespace Layouts

open Bytes

inductive ByteOrder where
  | little
  | big
  deriving DecidableEq

/-- The bytes of a number, in the order of the host. -/
def ByteOrder.bytes : ByteOrder → (width value : Nat) → List UInt8
  | .little, width, value => toLe width value
  | .big, width, value => (toLe width value).reverse

def ByteOrder.value : ByteOrder → List UInt8 → Nat
  | .little, bytes => leValue bytes
  | .big, bytes => leValue bytes.reverse

section ByteOrder

variable (order : ByteOrder)

@[simp] theorem ByteOrder.length_bytes (width value : Nat) :
    (order.bytes width value).length = width := by
  cases order <;> simp [ByteOrder.bytes]

theorem ByteOrder.value_bytes (width value : Nat) :
    order.value (order.bytes width value) = value % 256 ^ width := by
  cases order <;> simp [ByteOrder.bytes, ByteOrder.value, leValue_toLe]

theorem ByteOrder.bytes_value (bytes : List UInt8) :
    order.bytes bytes.length (order.value bytes) = bytes := by
  cases order with
  | little => exact toLe_leValue bytes
  | big =>
      have digits := toLe_leValue bytes.reverse
      rw [List.length_reverse] at digits
      rw [ByteOrder.bytes, ByteOrder.value, digits, List.reverse_reverse]

theorem ByteOrder.value_lt (bytes : List UInt8) : order.value bytes < 256 ^ bytes.length := by
  cases order with
  | little => exact leValue_lt bytes
  | big => simpa [ByteOrder.value] using leValue_lt bytes.reverse

end ByteOrder

/-- The memory of a type. A value may stand for the same bytes as another one; reading gives
the `Proper` one of them. -/
structure Layout (α : Type) where
  width : Nat
  put : α → List UInt8
  get : List UInt8 → α
  Proper : α → Prop
  length_put : ∀ value, (put value).length = width
  get_put : ∀ {value}, Proper value → ∀ rest, get (put value ++ rest) = value
  put_get : ∀ {bytes}, width ≤ bytes.length → put (get bytes) = bytes.take width
  proper_get : ∀ bytes, Proper (get bytes)

namespace Layout

variable {α β : Type}

/-- A word of the host. -/
def word (order : ByteOrder) (width : Nat) (toNat : α → Nat) (ofNat : Nat → α)
    (bounded : ∀ value, toNat value < 256 ^ width) (inverse : ∀ value, ofNat (toNat value) = value)
    (exact : ∀ value, value < 256 ^ width → toNat (ofNat value) = value) : Layout α where
  width
  put value := order.bytes width (toNat value)
  get bytes := ofNat (order.value (bytes.take width))
  Proper _ := True
  length_put value := order.length_bytes width _
  get_put {value} _ rest := by
    rw [List.take_left' (order.length_bytes width _), order.value_bytes,
      Nat.mod_eq_of_lt (bounded value), inverse]
  put_get {bytes} inside := by
    have length : (bytes.take width).length = width := List.length_take_of_le inside
    have below := order.value_lt (bytes.take width)
    rw [length] at below
    rw [exact _ below]
    nth_rewrite 1 [← length]
    exact order.bytes_value _
  proper_get _ := trivial

def word16 (order : ByteOrder) : Layout UInt16 :=
  word order 2 UInt16.toNat UInt16.ofNat UInt16.toNat_lt (fun _ => UInt16.ofNat_toNat)
    fun _ below => UInt16.toNat_ofNat_of_lt' below

def word32 (order : ByteOrder) : Layout UInt32 :=
  word order 4 UInt32.toNat UInt32.ofNat UInt32.toNat_lt (fun _ => UInt32.ofNat_toNat)
    fun _ below => UInt32.toNat_ofNat_of_lt' below

def word64 (order : ByteOrder) : Layout UInt64 :=
  word order 8 UInt64.toNat UInt64.ofNat UInt64.toNat_lt (fun _ => UInt64.ofNat_toNat)
    fun _ below => UInt64.toNat_ofNat_of_lt' below

/-- An array of bytes. -/
def bytes (count : Nat) : Layout (Vector UInt8 count) where
  width := count
  put value := value.toList
  get source := Vector.ofFn fun index => source.getD index 0
  Proper _ := True
  length_put value := value.length_toList
  get_put {value} _ rest := by
    refine Vector.ext fun index inside => ?_
    rw [Vector.getElem_ofFn, List.getD_append _ _ _ _ (by simpa using inside)]
    simp [inside]
  put_get {source} inside := by
    refine List.ext_getElem (by simpa using inside) fun index left right => ?_
    have here : index < source.length := by
      rw [List.length_take] at right
      omega
    simp [here]
  proper_get _ := trivial

/-- An enumeration, as its code. A code that is not declared is a value of its own. -/
def coded (layout : Layout β) (toCode : α → β) (ofCode : β → α)
    (codes : ∀ code, toCode (ofCode code) = code) : Layout α where
  width := layout.width
  put value := layout.put (toCode value)
  get source := ofCode (layout.get source)
  Proper value := layout.Proper (toCode value) ∧ ofCode (toCode value) = value
  length_put value := layout.length_put _
  get_put {value} proper rest := by rw [layout.get_put proper.1, proper.2]
  put_get {source} inside := by rw [codes, layout.put_get inside]
  proper_get source := by
    rw [codes]
    exact ⟨layout.proper_get source, rfl⟩

/-- One field after the other. -/
def pair (first : Layout α) (second : Layout β) : Layout (α × β) where
  width := first.width + second.width
  put value := first.put value.1 ++ second.put value.2
  get source := (first.get source, second.get (source.drop first.width))
  Proper value := first.Proper value.1 ∧ second.Proper value.2
  length_put value := by rw [List.length_append, first.length_put, second.length_put]
  get_put {value} proper rest := by
    rw [List.append_assoc, first.get_put proper.1, List.drop_left' (first.length_put _),
      second.get_put proper.2]
  put_get {source} inside := by
    rw [first.put_get (by omega), second.put_get (by rw [List.length_drop]; omega), List.take_add]
  proper_get source := ⟨first.proper_get source, second.proper_get _⟩

/-- A record with the fields of a tuple. -/
def record (layout : Layout β) (toFields : α → β) (ofFields : β → α)
    (fields : ∀ value, toFields (ofFields value) = value)
    (whole : ∀ value, ofFields (toFields value) = value) : Layout α where
  width := layout.width
  put value := layout.put (toFields value)
  get source := ofFields (layout.get source)
  Proper value := layout.Proper (toFields value)
  length_put value := layout.length_put _
  get_put {value} proper rest := by rw [layout.get_put proper, whole]
  put_get {source} inside := by rw [fields, layout.put_get inside]
  proper_get source := by
    rw [fields]
    exact layout.proper_get source

variable (layout : Layout α)

theorem drop_put (value : α) (rest : List UInt8) :
    (layout.put value ++ rest).drop layout.width = rest :=
  List.drop_left' (layout.length_put value)

/-! ## Arrays of values -/

def putAll (values : List α) : List UInt8 := values.flatMap layout.put

def getAll : Nat → List UInt8 → List α
  | 0, _ => []
  | count + 1, source => layout.get source :: getAll count (source.drop layout.width)

theorem putAll_cons (value : α) (values : List α) :
    layout.putAll (value :: values) = layout.put value ++ layout.putAll values := rfl

@[simp] theorem length_getAll (count : Nat) (source : List UInt8) :
    (layout.getAll count source).length = count := by
  induction count generalizing source with
  | zero => rfl
  | succ count ih => rw [getAll, List.length_cons, ih]

theorem take_getAll {fewer count : Nat} (within : fewer ≤ count) (source : List UInt8) :
    (layout.getAll count source).take fewer = layout.getAll fewer source := by
  induction count generalizing fewer source with
  | zero => rw [Nat.le_zero.mp within, List.take_zero, getAll]
  | succ count ih =>
      cases fewer with
      | zero => rw [List.take_zero, getAll]
      | succ fewer => rw [getAll, getAll, List.take_succ_cons, ih (Nat.le_of_succ_le_succ within)]

theorem getAll_putAll {values : List α} (proper : ∀ value ∈ values, layout.Proper value)
    (rest : List UInt8) : layout.getAll values.length (layout.putAll values ++ rest) = values := by
  induction values with
  | nil => rfl
  | cons value values ih =>
      rw [putAll_cons, List.append_assoc, List.length_cons, getAll,
        layout.get_put (proper value List.mem_cons_self), layout.drop_put,
        ih fun other member => proper other (List.mem_cons_of_mem _ member)]

end Layout

end Layouts
