import Mathlib.Data.UInt
import Mathlib.Data.List.Basic

/-!
# Bounds-checked access to bytes

Reads of a byte string that are defined only inside it. A read outside the string is
a value of its own (`none`), so a program over these reads states where it leaves its
input. Reads of little-endian integers succeed exactly when their bytes lie inside
(`readLe_eq_some`, `readLe_eq_none`).
-/

namespace Bytes

/-- The number whose base-256 digits are the given bytes, least significant first. -/
def leValue : List UInt8 → Nat
  | [] => 0
  | byte :: rest => byte.toNat + 256 * leValue rest

/-- The value of `width` bytes from `offset` on; bytes past the end count as zero. -/
def leNat (source : List UInt8) (offset width : Nat) : Nat :=
  leValue ((source.drop offset).take width)

/-- Read a little-endian number, if its bytes lie inside the source. -/
def readLe (source : List UInt8) (offset width : Nat) : Option Nat :=
  if offset + width ≤ source.length then some (leNat source offset width) else none

/-- The bytes of a range, if it lies inside the source. -/
def readRange (source : List UInt8) (offset count : Nat) : Option (List UInt8) :=
  if offset + count ≤ source.length then some ((source.drop offset).take count) else none

/-- The `width` base-256 digits of a number, least significant first. -/
def toLe : Nat → Nat → List UInt8
  | 0, _ => []
  | width + 1, value => UInt8.ofNat value :: toLe width (value / 256)

@[simp] theorem length_toLe (width value : Nat) : (toLe width value).length = width := by
  induction width generalizing value with
  | zero => rfl
  | succ width ih => rw [toLe, List.length_cons, ih]

theorem leValue_toLe (width value : Nat) : leValue (toLe width value) = value % 256 ^ width := by
  induction width generalizing value with
  | zero => simp [toLe, leValue, Nat.mod_one]
  | succ width ih =>
      have digit : (UInt8.ofNat value).toNat = value % 256 := UInt8.toNat_ofNat'
      rw [toLe, leValue, ih, digit, Nat.pow_succ, Nat.mul_comm (256 ^ width), Nat.mod_mul]

theorem leValue_lt (bytes : List UInt8) : leValue bytes < 256 ^ bytes.length := by
  induction bytes with
  | nil => simp [leValue]
  | cons byte rest ih =>
      have digit := byte.toNat_lt
      rw [leValue, List.length_cons, Nat.pow_succ]
      omega

/-- The digits of a number that was read are the bytes that it was read from. -/
theorem toLe_leValue (bytes : List UInt8) : toLe bytes.length (leValue bytes) = bytes := by
  induction bytes with
  | nil => rfl
  | cons byte rest ih =>
      have digit := byte.toNat_lt
      have low : UInt8.ofNat (leValue (byte :: rest)) = byte := by
        refine UInt8.toNat_inj.mp ?_
        rw [UInt8.toNat_ofNat', leValue]
        omega
      have high : leValue (byte :: rest) / 256 = leValue rest := by
        rw [leValue]
        omega
      rw [List.length_cons, toLe, low, high, ih]

theorem leNat_lt (source : List UInt8) (offset width : Nat) :
    leNat source offset width < 256 ^ width :=
  lt_of_lt_of_le (leValue_lt _)
    (Nat.pow_le_pow_right (by decide) (List.length_take_le width (source.drop offset)))

variable {source : List UInt8} {offset width : Nat}

theorem readLe_eq_some (inside : offset + width ≤ source.length) :
    readLe source offset width = some (leNat source offset width) :=
  if_pos inside

theorem readLe_eq_none (outside : source.length < offset + width) :
    readLe source offset width = none :=
  if_neg (Nat.not_le.mpr outside)

theorem readRange_eq_some {count : Nat} (inside : offset + count ≤ source.length) :
    readRange source offset count = some ((source.drop offset).take count) :=
  if_pos inside

/-- A field behind a known beginning. -/
theorem leNat_append_right (front rest : List UInt8) (offset width : Nat)
    (behind : front.length ≤ offset) :
    leNat (front ++ rest) offset width = leNat rest (offset - front.length) width := by
  rw [leNat, leNat, List.drop_append, List.drop_eq_nil_of_le behind, List.nil_append]

/-- A field that was just written. -/
theorem leNat_toLe_append (width value : Nat) (rest : List UInt8) :
    leNat (toLe width value ++ rest) 0 width = value % 256 ^ width := by
  rw [leNat, List.drop_zero, List.take_left' (length_toLe width value), leValue_toLe]

theorem leNat_drop (base offset width : Nat) :
    leNat (source.drop base) offset width = leNat source (base + offset) width := by
  rw [leNat, leNat, List.drop_drop]

/-! ## Writes -/

/-- Overwrite a range, if it lies inside the destination. -/
def writeRange (destination : List UInt8) (offset : Nat) (bytes : List UInt8) :
    Option (List UInt8) :=
  if offset + bytes.length ≤ destination.length then
    some (destination.take offset ++ bytes ++ destination.drop (offset + bytes.length))
  else none

/-- A write of bytes at an offset. -/
abbrev Write := Nat × List UInt8

/-- Writes one after the other. -/
def writeAll (destination : List UInt8) (writes : List Write) : Option (List UInt8) :=
  writes.foldlM (fun destination write => writeRange destination write.1 write.2) destination

/-- Each write begins where the one before it ends. -/
def Gapless : Nat → List Write → Prop
  | _, [] => True
  | start, write :: rest => write.1 = start ∧ Gapless (start + write.2.length) rest

/-- The bytes that the writes put down. -/
def written (writes : List Write) : List UInt8 := writes.flatMap Prod.snd

/-- A write right behind what is done. -/
theorem writeRange_append (done rest bytes : List UInt8) (here : offset = done.length)
    (fits : bytes.length ≤ rest.length) :
    writeRange (done ++ rest) offset bytes = some (done ++ bytes ++ rest.drop bytes.length) := by
  subst here
  rw [writeRange, if_pos (by rw [List.length_append]; omega), List.take_left, List.drop_append,
    List.drop_eq_nil_of_le (by omega), List.nil_append, Nat.add_sub_cancel_left]

/-- A write over the whole destination. -/
theorem writeRange_whole {destination bytes : List UInt8}
    (same : bytes.length = destination.length) : writeRange destination 0 bytes = some bytes := by
  rw [writeRange, if_pos (by omega), List.take_zero, List.nil_append, Nat.zero_add, same,
    List.drop_length, List.append_nil]

variable {writes : List Write}

/-- Writes without a gap leave what they put down. -/
theorem writeAll_gapless (done rest : List UInt8) (gapless : Gapless done.length writes)
    (fits : (written writes).length ≤ rest.length) :
    writeAll (done ++ rest) writes =
      some (done ++ written writes ++ rest.drop (written writes).length) := by
  induction writes generalizing done rest with
  | nil => simp [writeAll, written]
  | cons write writes ih =>
      obtain ⟨here, gapless⟩ := gapless
      have split : written (write :: writes) = write.2 ++ written writes := rfl
      rw [split, List.length_append] at fits
      have step : writeAll (done ++ rest) (write :: writes) =
          writeAll (done ++ write.2 ++ rest.drop write.2.length) writes := by
        unfold writeAll
        rw [List.foldlM_cons, writeRange_append done rest write.2 here (by omega)]
        rfl
      rw [step, ih (done ++ write.2) _ (by rwa [List.length_append])
        (by rw [List.length_drop]; omega), split, List.drop_drop, List.length_append,
        List.append_assoc done]

/-- Writes without a gap that put down what a source has at their places put down a piece of it. -/
theorem written_eq_take {start : Nat} (gapless : Gapless start writes)
    (same : ∀ write ∈ writes, write.2 = (source.drop write.1).take write.2.length) :
    written writes = (source.drop start).take (written writes).length := by
  induction writes generalizing start with
  | nil => rfl
  | cons write rest ih =>
      obtain ⟨rfl, gapless⟩ := gapless
      have split : written (write :: rest) = write.2 ++ written rest := rfl
      rw [split, List.length_append, List.take_add, List.drop_drop,
        ← ih gapless fun other member => same other (List.mem_cons_of_mem write member),
        ← same write List.mem_cons_self]

/-- A source that has what writes without a gap put down has each of them at its place. -/
theorem forall_of_written_eq_take {start : Nat} (gapless : Gapless start writes)
    (same : written writes = (source.drop start).take (written writes).length) :
    ∀ write ∈ writes, write.2 = (source.drop write.1).take write.2.length := by
  induction writes generalizing start with
  | nil => nofun
  | cons write rest ih =>
      obtain ⟨rfl, gapless⟩ := gapless
      have split : written (write :: rest) = write.2 ++ written rest := rfl
      rw [split, List.length_append, List.take_add, List.drop_drop] at same
      have long : write.2.length + (written rest).length ≤
          ((source.drop write.1).take write.2.length).length +
            ((source.drop (write.1 + write.2.length)).take (written rest).length).length := by
        rw [← List.length_append, ← List.length_append, ← same]
      rw [List.length_take, List.length_take] at long
      obtain ⟨here, others⟩ := List.append_inj same (by rw [List.length_take]; omega)
      exact List.forall_mem_cons.mpr ⟨here, ih gapless others⟩

/-- Writing a number that was read gives back its bytes. -/
theorem toLe_leNat {value : Nat} (inside : offset + width ≤ source.length)
    (read : leNat source offset width = value) :
    toLe width value = (source.drop offset).take width := by
  have length : ((source.drop offset).take width).length = width := by
    rw [List.length_take, List.length_drop]
    omega
  have back := toLe_leValue ((source.drop offset).take width)
  rwa [length, ← leNat, read] at back

/-- A source has the digits of a number where the number is read. -/
theorem toLe_eq_iff {value : Nat} (inside : offset + width ≤ source.length)
    (small : value < 256 ^ width) :
    toLe width value = (source.drop offset).take width ↔ leNat source offset width = value := by
  refine ⟨fun digits => ?_, toLe_leNat inside⟩
  rw [leNat, ← digits, leValue_toLe, Nat.mod_eq_of_lt small]

end Bytes
