import FlowEdge.Foundation.Mixing
import FlowEdge.Protocol.ModelIdentity

/-!
# Changes that fingerprints detect

Each step of the hash behind the blocks loses nothing, neither of the hash so far nor of the bytes
that it takes in. So two byte strings that differ in one unit behind the last full block have
different hashes, and so have two lists of tensors that differ in one dimension.
-/

namespace FlowEdge

open Bytes Mixing Function

namespace Fingerprint

/-! ## Steps -/

theorem injective_prime1 : Injective (· * prime1) :=
  injective_mul (show prime1 * 614540362697595703 = 1 by decide)

theorem injective_prime2 : Injective (· * prime2) :=
  injective_mul (show prime2 * 839798700976720815 = 1 by decide)

theorem injective_prime3 : Injective (· * prime3) :=
  injective_mul (show prime3 * 16855272203555305545 = 1 by decide)

theorem injective_prime5 : Injective (· * prime5) :=
  injective_mul (show prime5 * 14236653164957433613 = 1 by decide)

theorem injective_rotateLeft (count : UInt64) (positive : 0 < count.toNat)
    (small : count.toNat < 64) : Injective (rotateLeft · count) :=
  injective_rotate count positive small

theorem injective_round : Injective (round 0) := by
  intro left right same
  unfold round at same
  rw [UInt64.zero_add, UInt64.zero_add] at same
  exact injective_prime2 (injective_rotateLeft 31 (by decide) (by decide) (injective_prime1 same))

theorem injective_avalanche : Injective avalanche :=
  (injective_xorShift 32 (by decide) (by decide)).comp
    (injective_prime3.comp ((injective_xorShift 29 (by decide) (by decide)).comp
      (injective_prime2.comp (injective_xorShift 33 (by decide) (by decide)))))

theorem injective_combine (value : UInt64) : Injective (combine · value) :=
  (injective_add prime4).comp (injective_prime1.comp
    ((injective_rotateLeft 27 (by decide) (by decide)).comp (injective_xor (round 0 value))))

theorem injective_combine_value (accumulator : UInt64) : Injective (combine accumulator) :=
  (injective_add prime4).comp (injective_prime1.comp
    ((injective_rotateLeft 27 (by decide) (by decide)).comp
      ((injective_xor_left accumulator).comp injective_round)))

/-- The step of `halfWord`. -/
def combineHalf (hash half : UInt64) : UInt64 :=
  rotateLeft (hash ^^^ half * prime1) 23 * prime2 + prime3

theorem injective_combineHalf (half : UInt64) : Injective (combineHalf · half) :=
  (injective_add prime3).comp (injective_prime2.comp
    ((injective_rotateLeft 23 (by decide) (by decide)).comp (injective_xor (half * prime1))))

theorem injective_combineHalf_value (hash : UInt64) : Injective (combineHalf hash) :=
  (injective_add prime3).comp (injective_prime2.comp
    ((injective_rotateLeft 23 (by decide) (by decide)).comp
      ((injective_xor_left hash).comp injective_prime1)))

/-- The step of `tail`. -/
def combineByte (hash : UInt64) (byte : UInt8) : UInt64 :=
  rotateLeft (hash ^^^ UInt64.ofNat byte.toNat * prime5) 11 * prime1

theorem injective_combineByte (byte : UInt8) : Injective (combineByte · byte) :=
  injective_prime1.comp ((injective_rotateLeft 11 (by decide) (by decide)).comp
    (injective_xor (UInt64.ofNat byte.toNat * prime5)))

theorem injective_combineByte_value (hash : UInt64) : Injective (combineByte hash) := by
  have widened : Injective fun byte : UInt8 => UInt64.ofNat byte.toNat := by
    intro left right same
    have equal := congrArg UInt64.toNat same
    have fits : ∀ byte : UInt8, byte.toNat < UInt64.size := fun byte =>
      byte.toNat_lt.trans (by decide)
    rw [UInt64.toNat_ofNat_of_lt' (fits left), UInt64.toNat_ofNat_of_lt' (fits right)] at equal
    exact UInt8.toNat_inj.mp equal
  exact injective_prime1.comp ((injective_rotateLeft 11 (by decide) (by decide)).comp
    ((injective_xor_left hash).comp (injective_prime5.comp widened)))

/-! ## Reading words -/

/-- Different byte strings of a width that fits a word are different words. -/
theorem ofNat_leNat_ne {first second : List UInt8} (same : first.length = second.length)
    (small : first.length ≤ 8) (different : first ≠ second) :
    UInt64.ofNat (leValue first) ≠ UInt64.ofNat (leValue second) := by
  intro equal
  have bound : ∀ bytes : List UInt8, bytes.length ≤ 8 → leValue bytes < 2 ^ 64 := by
    intro bytes short
    calc leValue bytes < 256 ^ bytes.length := leValue_lt bytes
      _ ≤ 256 ^ 8 := Nat.pow_le_pow_right (by decide) short
  have values := congrArg UInt64.toNat equal
  rw [UInt64.toNat_ofNat_of_lt' (bound first small),
    UInt64.toNat_ofNat_of_lt' (bound second (same ▸ small))] at values
  have back := toLe_leValue first
  rw [values, same, toLe_leValue] at back
  exact different back.symm

variable {unit : List UInt8}

theorem leNat_unit {rest : List UInt8} {width : Nat} (length : unit.length = width) :
    leNat (unit ++ rest) 0 width = leValue unit := by
  rw [leNat, List.drop_zero, List.take_left' length]

/-! ## Behind the blocks -/

/-- The part of `hash64` behind the words. -/
def finishHalf (state : UInt64 × List UInt8) : UInt64 :=
  avalanche (tail (halfWord state.1 state.2).1 (halfWord state.1 state.2).2)

/-- The part of `hash64` behind the blocks. -/
def finish (fuel : Nat) (hash : UInt64) (bytes : List UInt8) : UInt64 :=
  finishHalf (words fuel hash bytes)

theorem tail_append (hash : UInt64) (front rest : List UInt8) :
    tail hash (front ++ rest) = tail (tail hash front) rest := List.foldl_append

theorem injective_tail (bytes : List UInt8) : Injective (tail · bytes) := by
  induction bytes with
  | nil => exact injective_id
  | cons byte rest ih => exact ih.comp (injective_combineByte byte)

variable {bytes : List UInt8}

theorem words_of_lt (short : bytes.length < 8) (fuel : Nat) (hash : UInt64) :
    words fuel hash bytes = (hash, bytes) := by
  cases fuel with
  | zero => rfl
  | succ fuel => exact if_pos short

theorem words_append (length : unit.length = 8) (fuel : Nat) (hash : UInt64) (rest : List UInt8) :
    words (fuel + 1) hash (unit ++ rest) =
      words fuel (combine hash (UInt64.ofNat (leValue unit))) rest := by
  have long : ¬ (unit ++ rest).length < 8 := by
    rw [List.length_append]
    omega
  rw [words, if_neg long, readU64, leNat_unit length, List.drop_left' length]
  rfl

theorem halfWord_of_lt (short : bytes.length < 4) (hash : UInt64) :
    halfWord hash bytes = (hash, bytes) := if_pos short

theorem halfWord_append (length : unit.length = 4) (hash : UInt64) (rest : List UInt8) :
    halfWord hash (unit ++ rest) = (combineHalf hash (UInt64.ofNat (leValue unit)), rest) := by
  have long : ¬ (unit ++ rest).length < 4 := by
    rw [List.length_append]
    omega
  rw [halfWord, if_neg long, readU32, leNat_unit length, List.drop_left' length]
  rfl

theorem finishHalf_of_lt (short : bytes.length < 4) (hash : UInt64) :
    finishHalf (hash, bytes) = avalanche (tail hash bytes) := by
  rw [finishHalf, halfWord_of_lt short]

theorem finishHalf_append (length : unit.length = 4) (hash : UInt64) (rest : List UInt8) :
    finishHalf (hash, unit ++ rest) =
      avalanche (tail (combineHalf hash (UInt64.ofNat (leValue unit))) rest) := by
  rw [finishHalf, halfWord_append length]

theorem exists_front {width : Nat} (long : width ≤ bytes.length) :
    ∃ front rest, front.length = width ∧ bytes = front ++ rest :=
  ⟨bytes.take width, bytes.drop width, List.length_take_of_le long,
    (List.take_append_drop width bytes).symm⟩

theorem injective_finishHalf (bytes : List UInt8) :
    Injective fun hash => finishHalf (hash, bytes) := by
  intro left right same
  dsimp only at same
  rcases Nat.lt_or_ge bytes.length 4 with short | long
  · rw [finishHalf_of_lt short, finishHalf_of_lt short] at same
    exact injective_tail bytes (injective_avalanche same)
  · obtain ⟨unit, rest, length, rfl⟩ := exists_front long
    rw [finishHalf_append length, finishHalf_append length] at same
    exact injective_combineHalf _ (injective_tail rest (injective_avalanche same))

theorem injective_finish (fuel : Nat) (bytes : List UInt8) : Injective (finish fuel · bytes) := by
  induction fuel generalizing bytes with
  | zero => exact injective_finishHalf bytes
  | succ fuel ih =>
      intro left right same
      dsimp only [finish] at same
      rcases Nat.lt_or_ge bytes.length 8 with short | long
      · rw [words_of_lt short, words_of_lt short] at same
        exact injective_finishHalf bytes same
      · obtain ⟨unit, rest, length, rfl⟩ := exists_front long
        rw [words_append length, words_append length] at same
        exact injective_combine _ (ih rest same)

variable {front : List UInt8}

/-- The words before a unit. -/
theorem words_front {count : Nat} (length : front.length = 8 * count) (fuel : Nat) (hash : UInt64) :
    ∃ next, ∀ rest, words (count + fuel) hash (front ++ rest) = words fuel next rest := by
  induction count generalizing front hash with
  | zero =>
      rw [List.length_eq_zero_iff.mp length, Nat.zero_add]
      exact ⟨hash, fun _ => rfl⟩
  | succ count ih =>
      have long : 8 ≤ front.length := by omega
      obtain ⟨unit, later, eight, rfl⟩ := exists_front long
      rw [List.length_append] at length
      have shorter : later.length = 8 * count := by omega
      obtain ⟨next, known⟩ := ih shorter (combine hash (UInt64.ofNat (leValue unit)))
      refine ⟨next, fun rest => ?_⟩
      rw [Nat.succ_add, List.append_assoc, words_append eight, known]

/-- A unit of the bytes behind the blocks, by its offset and width: one of the words, the half word
behind them, or one of the bytes behind both. -/
inductive HashUnit (total offset : Nat) : Nat → Prop where
  | word (aligned : offset % 8 = 0) (inside : offset + 8 ≤ total) : HashUnit total offset 8
  | half (behind : offset = total / 8 * 8) (inside : offset + 4 ≤ total) : HashUnit total offset 4
  | byte (behind : total / 4 * 4 ≤ offset) (inside : offset < total) : HashUnit total offset 1

theorem HashUnit.positive {total offset width : Nat} (unit : HashUnit total offset width) :
    0 < width := by
  cases unit <;> decide

section Changed

variable {front first second rest : List UInt8}

theorem tail_ne (single : first.length = 1) (same : first.length = second.length)
    (different : first ≠ second) (hash : UInt64) :
    tail hash (front ++ (first ++ rest)) ≠ tail hash (front ++ (second ++ rest)) := by
  obtain ⟨byte, rfl⟩ := List.length_eq_one_iff.mp single
  obtain ⟨other, rfl⟩ := List.length_eq_one_iff.mp (same.symm.trans single)
  rw [tail_append, tail_append, tail_append, tail_append]
  intro equal
  have bytes := injective_combineByte_value _ (injective_tail rest equal)
  rw [bytes] at different
  exact different rfl

/-- A changed byte behind the words and the half word. -/
theorem finishHalf_ne (single : first.length = 1) (same : first.length = second.length)
    (different : first ≠ second) (short : (front ++ (first ++ rest)).length < 8)
    (behind : (front ++ (first ++ rest)).length / 4 * 4 ≤ front.length) (hash : UInt64) :
    finishHalf (hash, front ++ (first ++ rest)) ≠ finishHalf (hash, front ++ (second ++ rest)) := by
  have lengths : (front ++ (second ++ rest)).length = (front ++ (first ++ rest)).length := by
    simp [same]
  rcases Nat.lt_or_ge (front ++ (first ++ rest)).length 4 with few | many
  · rw [finishHalf_of_lt few, finishHalf_of_lt (lengths ▸ few)]
    exact fun equal => tail_ne single same different hash (injective_avalanche equal)
  · obtain ⟨half, later, four, rfl⟩ := exists_front (show 4 ≤ front.length by omega)
    rw [List.append_assoc, List.append_assoc, finishHalf_append four, finishHalf_append four]
    exact fun equal => tail_ne single same different _ (injective_avalanche equal)

/-- A changed unit changes the hash. -/
theorem finish_ne {fuel : Nat}
    (unit : HashUnit (front ++ (first ++ rest)).length front.length first.length)
    (same : first.length = second.length) (different : first ≠ second)
    (enough : (front ++ (first ++ rest)).length ≤ fuel) (hash : UInt64) :
    finish fuel hash (front ++ (first ++ rest)) ≠ finish fuel hash (front ++ (second ++ rest)) := by
  have total : (front ++ (first ++ rest)).length = front.length + first.length + rest.length := by
    rw [List.length_append, List.length_append, Nat.add_assoc]
  rw [total] at unit enough
  unfold finish
  generalize width : first.length = count at unit
  cases unit with
  | word aligned inside =>
      obtain ⟨next, known⟩ := words_front (show front.length = 8 * (front.length / 8) by omega)
        (fuel - front.length / 8 - 1 + 1) hash
      have split : front.length / 8 + (fuel - front.length / 8 - 1 + 1) = fuel := by omega
      rw [split] at known
      rw [known, known, words_append width, words_append (same ▸ width)]
      intro equal
      have values := injective_combine_value _ (injective_finish _ rest equal)
      exact ofNat_leNat_ne same (by omega) different values
  | half behind inside =>
      obtain ⟨next, known⟩ := words_front (show front.length = 8 * (front.length / 8) by omega)
        (fuel - front.length / 8) hash
      have split : front.length / 8 + (fuel - front.length / 8) = fuel := by omega
      rw [split] at known
      have short : (first ++ rest).length < 8 := by
        rw [List.length_append]
        omega
      have other : (second ++ rest).length < 8 := by
        rw [List.length_append, ← same]
        rwa [List.length_append] at short
      rw [known, known, words_of_lt short, words_of_lt other, finishHalf_append width,
        finishHalf_append (same ▸ width)]
      intro equal
      have values := injective_combineHalf_value _ (injective_tail rest (injective_avalanche equal))
      exact ofNat_leNat_ne same (by omega) different values
  | byte behind inside =>
      generalize words : (front.length + 1 + rest.length) / 8 = whole
      obtain ⟨aligned, later, eights, rfl⟩ := exists_front (show 8 * whole ≤ front.length by omega)
      obtain ⟨next, known⟩ := words_front eights (fuel - whole) hash
      have split : whole + (fuel - whole) = fuel := by omega
      rw [split] at known
      rw [List.length_append] at total behind inside words enough
      have few : (later ++ (first ++ rest)).length < 8 := by
        rw [List.length_append, List.length_append]
        omega
      have other : (later ++ (second ++ rest)).length < 8 := by
        rw [List.length_append, List.length_append, ← same]
        rwa [List.length_append, List.length_append] at few
      rw [List.append_assoc, List.append_assoc, known, known, words_of_lt few, words_of_lt other]
      refine finishHalf_ne width same different few ?_ next
      rw [List.length_append, List.length_append]
      omega

end Changed

/-! ## Blocks -/

/-- The blocks do not depend on the bytes behind them. -/
theorem blocks_front {count : Nat} (length : front.length = 32 * count) (fuel : Nat)
    (lanes : Lanes) : ∃ next, ∀ rest : List UInt8, rest.length < 32 →
      blocks (count + fuel) lanes (front ++ rest) = (next, rest) := by
  induction count generalizing front lanes with
  | zero =>
      rw [List.length_eq_zero_iff.mp length, Nat.zero_add]
      refine ⟨lanes, fun rest short => ?_⟩
      rw [List.nil_append]
      cases fuel with
      | zero => rfl
      | succ fuel => exact if_pos short
  | succ count ih =>
      obtain ⟨block, later, size, rfl⟩ := exists_front (show 32 ≤ front.length by omega)
      rw [List.length_append] at length
      have shorter : later.length = 32 * count := by omega
      obtain ⟨next, known⟩ := ih shorter
        { lane1 := round lanes.lane1 (readU64 block 0)
          lane2 := round lanes.lane2 (readU64 block 8)
          lane3 := round lanes.lane3 (readU64 block 16)
          lane4 := round lanes.lane4 (readU64 block 24) }
      refine ⟨next, fun rest short => ?_⟩
      have long : ¬ (block ++ (later ++ rest)).length < 32 := by
        rw [List.length_append]
        omega
      have read : ∀ offset, offset + 8 ≤ 32 →
          readU64 (block ++ (later ++ rest)) offset = readU64 block offset := by
        intro offset inside
        rw [readU64, readU64, leNat, leNat, List.drop_append_of_le_length (by omega),
          List.take_append_of_le_length (by rw [List.length_drop]; omega)]
      rw [Nat.succ_add, List.append_assoc, blocks, if_neg long, List.drop_left' size,
        read 0 (by decide), read 8 (by decide), read 16 (by decide), read 24 (by decide),
        known rest short]

/-- The hash of the blocks and the length, before the rest of the bytes. -/
theorem hash64_front {count : Nat} (length : front.length = 32 * count) (size : Nat)
    (seed : UInt64) :
    ∃ hash, ∀ rest : List UInt8, rest ≠ [] → rest.length < 32 → (front ++ rest).length = size →
      hash64 (front ++ rest) seed = finish size hash rest := by
  cases count with
  | zero =>
      rw [List.length_eq_zero_iff.mp length]
      refine ⟨seed + prime5 + UInt64.ofNat size, fun rest some short sized => ?_⟩
      rw [List.nil_append] at sized ⊢
      rw [hash64, if_neg some, if_neg (by omega), sized]
      rfl
  | succ count =>
      obtain ⟨lanes, known⟩ := blocks_front length (size - (count + 1))
        { lane1 := seed + prime1 + prime2, lane2 := seed + prime2, lane3 := seed,
          lane4 := seed - prime1 }
      refine ⟨[lanes.lane1, lanes.lane2, lanes.lane3, lanes.lane4].foldl mergeLane
        (rotateLeft lanes.lane1 1 + rotateLeft lanes.lane2 7 + rotateLeft lanes.lane3 12 +
          rotateLeft lanes.lane4 18) + UInt64.ofNat size, fun rest some short sized => ?_⟩
      have long : 32 ≤ (front ++ rest).length := by
        rw [List.length_append]
        omega
      have fuel : count + 1 + (size - (count + 1)) = size := by
        rw [List.length_append] at sized
        omega
      have nonempty : front ++ rest ≠ [] := by
        intro empty
        rw [empty] at long
        cases long
      rw [hash64, if_neg nonempty, if_pos long, sized, ← fuel, known rest short, fuel]
      rfl

/-- A tail unit of a byte string: a unit of the bytes behind the last full block. -/
def TailUnit (total offset width : Nat) : Prop :=
  total / 32 * 32 ≤ offset ∧ HashUnit (total % 32) (offset - total / 32 * 32) width

/-- A changed tail unit changes the hash. -/
theorem hash64_ne {first second rest : List UInt8}
    (unit : TailUnit (front ++ first ++ rest).length front.length first.length)
    (same : first.length = second.length) (different : first ≠ second) (seed : UInt64) :
    hash64 (front ++ first ++ rest) seed ≠ hash64 (front ++ second ++ rest) seed := by
  obtain ⟨behind, unit⟩ := unit
  rw [List.append_assoc] at behind unit
  rw [List.append_assoc, List.append_assoc]
  generalize total : (front ++ (first ++ rest)).length = size at behind unit
  have other : (front ++ (second ++ rest)).length = size := by
    rw [← total]
    simp [same]
  obtain ⟨whole, later, blocks, rfl⟩ := exists_front behind
  rw [List.append_assoc] at total other ⊢
  rw [List.append_assoc]
  obtain ⟨hash, known⟩ := hash64_front (show whole.length = 32 * (size / 32) by omega) size seed
  have inner : (later ++ (first ++ rest)).length = size % 32 := by
    rw [List.length_append] at total
    omega
  have outer : (later ++ (second ++ rest)).length = size % 32 := by
    rw [List.length_append] at other
    omega
  have offset : (whole ++ later).length - size / 32 * 32 = later.length := by
    rw [List.length_append]
    omega
  rw [offset, ← inner] at unit
  have positive := unit.positive
  have nonempty : ∀ changed : List UInt8, 0 < changed.length →
      later ++ (changed ++ rest) ≠ [] := by
    intro changed some empty
    have none := congrArg List.length empty
    rw [List.length_append, List.length_append, List.length_nil] at none
    omega
  rw [known _ (nonempty first positive) (by omega) total,
    known _ (nonempty second (same ▸ positive)) (by omega) other]
  exact finish_ne unit same different (by omega) hash

/-! ## Digests -/

variable {index : Nat}

theorem toNat_bytes (inside : index < 8) :
    (UInt64.ofNat (8 * index)).toNat = 8 * index ∧ (8 * UInt64.ofNat index).toNat = 8 * index := by
  constructor
  · exact UInt64.toNat_ofNat_of_lt' (show 8 * index < 2 ^ 64 by omega)
  · rw [UInt64.toNat_mul, UInt64.toNat_ofNat_of_lt' (show index < 2 ^ 64 by omega)]
    exact Nat.mod_eq_of_lt (show 8 * index < 2 ^ 64 by omega)

/-- A byte of a word, moved back to its place. -/
theorem getLsbD_byte (inside : index < 8) (word : UInt64) {position : Nat} (below : position < 64) :
    ((word >>> (8 * UInt64.ofNat index)).toUInt8.toUInt64 <<<
        UInt64.ofNat (8 * index)).toBitVec.getLsbD position =
      (decide (position / 8 = index) && word.toBitVec.getLsbD position) := by
  obtain ⟨left, right⟩ := toNat_bytes inside
  rw [getLsbD_shiftLeft (by omega), left, UInt8.toBitVec_toUInt64, BitVec.getLsbD_setWidth,
    UInt64.toBitVec_toUInt8, BitVec.getLsbD_setWidth, getLsbD_shiftRight (by omega), right]
  by_cases here : position / 8 = index
  · have back : 8 * index + (position - 8 * index) = position := by omega
    have from_ : ¬ position < 8 * index := by omega
    have byte : position - 8 * index < 8 := by omega
    have word : position - 8 * index < 64 := by omega
    rw [back, decide_eq_true below, decide_eq_false from_, decide_eq_true word,
      decide_eq_true byte, decide_eq_true here]
    rfl
  · rw [decide_eq_false here, Bool.false_and]
    rcases Nat.lt_or_ge position (8 * index) with before | from_
    · simp [before]
    · have beyond : ¬ position - 8 * index < 8 := by omega
      simp [beyond]

theorem getLsbD_foldl_or {α : Type} (word : α → UInt64) (items : List α) (start : UInt64)
    (position : Nat) :
    (items.foldl (fun value item => value ||| word item) start).toBitVec.getLsbD position =
      (start.toBitVec.getLsbD position ||
        items.any fun item => (word item).toBitVec.getLsbD position) := by
  induction items generalizing start with
  | nil => simp
  | cons item rest ih =>
      rw [List.foldl_cons, ih, UInt64.toBitVec_or, BitVec.getLsbD_or, List.any_cons, Bool.or_assoc]

theorem makeDigest_getD (inside : index < 8) (first second : UInt64) :
    (makeDigest first second).toList.getD index 0 =
      (first >>> (8 * UInt64.ofNat index)).toUInt8 := by
  have bound : index < 16 := by omega
  rw [List.getD_eq_getElem?_getD, List.getElem?_eq_getElem (by simpa using bound),
    Option.getD_some, Vector.getElem_toList, makeDigest, Vector.getElem_ofFn]
  exact if_pos inside

/-- The first eight bytes of a digest are those of its first word. -/
theorem foldl_makeDigest (first second : UInt64) :
    (List.range 8).foldl (fun value index =>
      value ||| ((makeDigest first second).toList.getD index 0).toUInt64 <<<
        UInt64.ofNat (8 * index)) 0 = first := by
  refine eq_of_getLsbD fun position below => ?_
  rw [getLsbD_foldl_or, Bool.eq_iff_iff, Bool.or_eq_true, List.any_eq_true]
  constructor
  · rintro (zero | ⟨index, member, set⟩)
    · simp at zero
    · rw [List.mem_range] at member
      rw [makeDigest_getD member, getLsbD_byte member first below, Bool.and_eq_true] at set
      exact set.2
  · intro set
    have member : position / 8 < 8 := by omega
    refine .inr ⟨position / 8, List.mem_range.mpr member, ?_⟩
    rw [makeDigest_getD member, getLsbD_byte member first below, set, decide_eq_true rfl]
    rfl

/-- The checksum is the first half of the fingerprint. -/
theorem fingerprintChecksum_eq :
    fingerprintChecksum bytes = hash64 bytes 0x243f6a8885a308d3 :=
  foldl_makeDigest _ _

theorem makeDigest_ne {first other : UInt64} (different : first ≠ other) (second another : UInt64) :
    (makeDigest first second).toList.take 8 ≠ (makeDigest other another).toList.take 8 := by
  intro same
  refine different ?_
  rw [← foldl_makeDigest first second, ← foldl_makeDigest other another]
  refine List.foldl_ext _ _ _ fun value index member => ?_
  rw [List.mem_range] at member
  have byte : ∀ digest : List UInt8, digest.getD index 0 = (digest.take 8).getD index 0 := by
    intro digest
    rw [List.getD_eq_getElem?_getD, List.getD_eq_getElem?_getD, List.getElem?_take_of_lt member]
  rw [byte, same, ← byte]

/-! ## Tensors -/

theorem combineShape_fst (shape : List UInt64) (state : UInt64 × UInt64) :
    (combineShape state shape).1 = shape.foldl combine state.1 := by
  induction shape generalizing state with
  | nil => rfl
  | cons dim rest ih => rw [combineShape, List.foldl_cons, ← combineShape, ih, List.foldl_cons]

/-- The first accumulator of a round of the loop over the tensors. -/
def combineFirst (hash : UInt64) (tensor : TensorContent) : UInt64 :=
  combine (tensor.shape.foldl combine
    (combine (combine hash (hash64 tensor.name prime3))
      (tensor.dtype.toUInt64 ||| (UInt64.ofNat tensor.shape.length <<< 8))))
    (hash64 tensor.content prime5)

theorem combineTensor_fst (state : UInt64 × UInt64) (tensor : TensorContent) :
    (combineTensor state tensor).1 = combineFirst state.1 tensor := by
  unfold combineTensor combineFirst
  dsimp only
  rw [combineShape_fst]

theorem foldl_combineTensor_fst (tensors : List TensorContent) (state : UInt64 × UInt64) :
    (tensors.foldl combineTensor state).1 = tensors.foldl combineFirst state.1 := by
  induction tensors generalizing state with
  | nil => rfl
  | cons tensor rest ih => rw [List.foldl_cons, List.foldl_cons, ih, combineTensor_fst]

/-- A loop whose rounds lose nothing loses nothing. -/
theorem injective_foldl {α : Type} {step : UInt64 → α → UInt64}
    (each : ∀ item, Injective (step · item)) (items : List α) : Injective (items.foldl step) := by
  induction items with
  | nil => exact injective_id
  | cons item rest ih => exact ih.comp (each item)

theorem injective_combineFirst (tensor : TensorContent) : Injective (combineFirst · tensor) :=
  (injective_combine _).comp ((injective_foldl injective_combine tensor.shape).comp
    ((injective_combine _).comp (injective_combine _)))

theorem foldl_combine_ne {old dim : UInt64} (different : old ≠ dim) (front rest : List UInt64)
    (hash : UInt64) :
    (front ++ old :: rest).foldl combine hash ≠ (front ++ dim :: rest).foldl combine hash := by
  rw [List.foldl_append, List.foldl_append, List.foldl_cons, List.foldl_cons]
  intro same
  exact different (injective_combine_value _ (injective_foldl injective_combine rest same))

/-- A changed dimension changes the first accumulator. -/
theorem combineFirst_ne {tensor : TensorContent} {old dim : UInt64}
    (inside : tensor.shape[index]? = some old) (different : old ≠ dim) (hash : UInt64) :
    combineFirst hash tensor ≠
      combineFirst hash { tensor with shape := tensor.shape.set index dim } := by
  obtain ⟨below, here⟩ := List.getElem?_eq_some_iff.mp inside
  have before : tensor.shape = tensor.shape.take index ++ old :: tensor.shape.drop (index + 1) := by
    rw [← here, ← List.drop_eq_getElem_cons below, List.take_append_drop]
  unfold combineFirst
  rw [List.length_set, List.set_eq_take_append_cons_drop, if_pos below]
  intro same
  have shapes := injective_combine _ same
  generalize combine _ _ = start at shapes
  rw [congrArg (List.foldl combine start) before] at shapes
  exact foldl_combine_ne different _ _ start shapes

end Fingerprint

open Fingerprint

/-- **Fingerprints detect local changes.** Two byte strings of one length that differ in one unit
behind the last full block have fingerprints with different first halves, different checksums and
different digests; two lists of tensors that differ in one dimension have different digests. -/
theorem fingerprints_detect_changes :
    (∀ front first second rest : List UInt8, first.length = second.length → first ≠ second →
      TailUnit (front ++ first ++ rest).length front.length first.length →
      (fingerprintBytes (front ++ first ++ rest)).toList.take 8 ≠
          (fingerprintBytes (front ++ second ++ rest)).toList.take 8 ∧
        fingerprintChecksum (front ++ first ++ rest) ≠
          fingerprintChecksum (front ++ second ++ rest) ∧
        fingerprintBytes (front ++ first ++ rest) ≠ fingerprintBytes (front ++ second ++ rest)) ∧
      ∀ (front rest : List TensorContent) (tensor : TensorContent) (index : Nat) (old dim : UInt64),
        tensor.shape[index]? = some old → old ≠ dim →
        fingerprintTensors (front ++ tensor :: rest) ≠
          fingerprintTensors
            (front ++ { tensor with shape := tensor.shape.set index dim } :: rest) := by
  constructor
  · intro front first second rest same different unit
    have hashes := hash64_ne unit same different 0x243f6a8885a308d3
    have halves := makeDigest_ne hashes
    refine ⟨halves _ _, ?_, fun equal => halves _ _ (congrArg (·.toList.take 8) equal)⟩
    rw [fingerprintChecksum_eq, fingerprintChecksum_eq]
    exact hashes
  · intro front rest tensor index old dim inside different
    have counted : (front ++ { tensor with shape := tensor.shape.set index dim } :: rest).length =
        (front ++ tensor :: rest).length := by
      simp
    unfold fingerprintTensors
    rw [counted]
    intro equal
    refine makeDigest_ne ?_ _ _ (congrArg (·.toList.take 8) equal)
    intro same
    have firsts := injective_avalanche same
    rw [foldl_combineTensor_fst, foldl_combineTensor_fst, List.foldl_append, List.foldl_append,
      List.foldl_cons, List.foldl_cons] at firsts
    exact combineFirst_ne inside different _ (injective_foldl injective_combineFirst rest firsts)

/-- A matrix without contents. -/
private def emptyMatrix : TensorContent where
  name := [97]
  dtype := 0
  shape := [0, 3]
  content := []

theorem fingerprints_detect_changes_small :
    (TailUnit ([7, 7, 7, 7] ++ [1] ++ [9]).length [7, 7, 7, 7].length [1].length ∧
      fingerprintChecksum ([7, 7, 7, 7] ++ [1] ++ [9]) ≠
        fingerprintChecksum ([7, 7, 7, 7] ++ [2] ++ [9])) ∧
      fingerprintTensors [emptyMatrix] ≠
        fingerprintTensors [{ emptyMatrix with shape := [0, 4] }] := by
  have unit : TailUnit ([7, 7, 7, 7] ++ [1] ++ [9]).length [7, 7, 7, 7].length [1].length :=
    ⟨by decide, .byte (by decide) (by decide)⟩
  exact ⟨⟨unit, (fingerprints_detect_changes.1 [7, 7, 7, 7] [1] [2] [9] rfl (by decide) unit).2.1⟩,
    fingerprints_detect_changes.2 [] [] emptyMatrix 1 3 4 rfl (by decide)⟩

end FlowEdge
