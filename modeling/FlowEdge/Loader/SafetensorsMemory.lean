import FlowEdge.Loader.Safetensors

/-!
# Loaded tensors lie where the header says

For every content of a file, the loader either fails or has copied, for each tensor with a
supported type, exactly the bytes that the header names to a place of its own in the arena.
No operation on values of the header wraps around on the way.
-/

namespace FlowEdge

open TrackedWords JsonText

/-! ## Numbers -/

theorem toNat_maxSize : (UInt64.ofNat maxSize).toNat = 2 ^ 64 - 1 := by decide

theorem exact_appendDigit (value : UInt64) {c : UInt8} (digit : isDigit c = true) :
    Exact (appendDigit value c) fun
      | none => 2 ^ 64 ≤ value.toNat * 10 + (c.toNat - 48)
      | some next => next.toNat = value.toNat * 10 + (c.toNat - 48) := by
  simp only [isDigit, decide_eq_true_eq, UInt8.le_iff_toNat_le] at digit
  have low : 48 ≤ c.toNat := digit.1
  have high : c.toNat ≤ 57 := digit.2
  have small : ((c - zero).toUInt64).toNat = c.toNat - 48 := by
    rw [UInt8.toNat_toUInt64, UInt8.toNat_sub_of_le _ _ digit.1]
    rfl
  refine .bind (.sub ?_) fun room known => ?_
  · rw [UInt64.le_iff_toNat_le, small, toNat_maxSize]
    omega
  have roomValue := known.2
  rw [small, toNat_maxSize] at roomValue
  have ten : (10 : UInt64).toNat = 10 := rfl
  split
  · next large =>
      rw [gt_iff_lt, UInt64.lt_iff_toNat_lt, UInt64.toNat_div, roomValue, ten] at large
      refine .ret ?_
      omega
  · next fits =>
      rw [gt_iff_lt, UInt64.not_lt, UInt64.le_iff_toNat_le, UInt64.toNat_div, roomValue, ten]
        at fits
      refine .bind (.mul ?_) fun scaled product => ?_
      · rw [ten]
        omega
      have scaledValue := product.2
      rw [ten] at scaledValue
      refine .bind (.add ?_) fun sum total => .ret ?_
      · omega
      · dsimp only
        rw [total.2, scaledValue, small]

theorem length_storeNumber {capacity count : Nat} {out : List UInt64}
    (stored : out.length = min count capacity) (value : UInt64) :
    (storeNumber capacity count out value).length = min (count + 1) capacity := by
  unfold storeNumber
  split
  · rw [List.length_append, List.length_singleton]
    omega
  · omega

/-- The count is that of the stored numbers as long as there is room. -/
theorem exact_parseU64s (capacity : Nat) (s : List UInt8) (number : Option UInt64) (count : Nat)
    (out : List UInt64) (stored : out.length = min count capacity) :
    Exact (parseU64s capacity s number count out) fun result => ∀ total values,
      result = some (total, values) → values.length = min total capacity := by
  induction s generalizing number count out with
  | nil => exact .ret nofun
  | cons c rest ih =>
      cases number with
      | none =>
          unfold parseU64s
          split
          · next digit =>
              refine .bind (exact_appendDigit 0 digit) fun result _ => ?_
              cases result with
              | none => exact .ret nofun
              | some value => exact ih (some value) count out stored
          · split
            · exact .ret fun total values same => by cases same; exact stored
            · exact ih none count out stored
      | some value =>
          unfold parseU64s
          split
          · next digit =>
              refine .bind (exact_appendDigit value digit) fun result _ => ?_
              cases result with
              | none => exact .ret nofun
              | some value => exact ih (some value) count out stored
          · have store := length_storeNumber stored value
            split
            · exact .ret fun total values same => by cases same; exact store
            · exact ih none (count + 1) _ store

/-! ## Tensors -/

/-- The shape of a supported tensor is complete. -/
def TensorEntry.Complete (entry : TensorEntry) : Prop :=
  entry.supported = true → entry.shape.length = entry.ndim ∧ entry.ndim ≤ 4

theorem exact_tensorEntry (name : NameView) (object : List UInt8) :
    Exact (tensorEntry name object) fun result => ∀ entry, result = some entry →
      entry.name = name ∧ entry.Complete := by
  unfold tensorEntry
  dsimp only
  split
  · exact .ret fun entry same => by cases same; exact ⟨rfl, nofun⟩
  refine .bind (exact_parseU64s 4 _ none 0 [] rfl) fun shapes known => ?_
  rcases shapes with - | ⟨shapeCount, shape⟩
  · exact .ret nofun
  dsimp only
  split
  · exact .ret nofun
  next few =>
  refine .bind (exact_parseU64s 2 _ none 0 [] rfl) fun offsets _ => ?_
  rcases offsets with - | ⟨offsetCount, offsets⟩
  · exact .ret nofun
  dsimp only
  split
  · exact .ret nofun
  next ordered =>
  rw [not_or, UInt64.not_lt] at ordered
  refine .bind (.sub ordered.2) fun length _ => .ret fun entry same => ?_
  cases same
  refine ⟨rfl, fun _ => ?_⟩
  have stored := known shapeCount shape rfl
  change shape.length = shapeCount ∧ shapeCount ≤ 4
  omega

/-- The calls of `foreach_tensor` while the callback returns true. -/
def collectEntry (entry : TensorEntry) (entries : List TensorEntry) :
    Tracked (Bool × List TensorEntry) :=
  return (true, entries ++ [entry])

def tensorCalls (json : List UInt8) : Tracked (Bool × List TensorEntry) :=
  foreachTensor collectEntry json []

section Calls

variable {σ τ : Type}

/-- A callback on some calls in order, up to the first one it returns false for. -/
def callEach (callback : TensorEntry → σ → Tracked (Bool × σ)) :
    List TensorEntry → σ → Tracked (Bool × σ)
  | [], state => return (true, state)
  | entry :: rest, state => do
      match ← callback entry state with
      | (false, state) => return (false, state)
      | (true, state) => callEach callback rest state

/-- Every callback is given the same calls. -/
theorem scanTensors_eq_callEach (text : List UInt8) (position : Nat) (phase : ScanPhase) :
    ∃ ok calls, (∀ entry ∈ calls, entry.Complete) ∧
      ∀ {σ : Type} (callback : TensorEntry → σ → Tracked (Bool × σ)) (state : σ),
        scanTensors callback text position phase state = do
          let answer ← callEach callback calls state
          return (answer.1 && ok, answer.2) := by
  induction text generalizing position phase with
  | nil => exact ⟨false, [], nofun, fun callback state => rfl⟩
  | cons c rest ih =>
      cases phase with
      | root =>
          simp only [scanTensors]
          exact ih _ _
      | member =>
          simp only [scanTensors]
          split
          · exact ih _ _
          · split
            · exact ⟨true, [], nofun, fun callback state => rfl⟩
            · exact ih _ _
      | name =>
          simp only [scanTensors]
          exact ih _ _
      | object =>
          simp only [scanTensors]
          split
          · exact ih _ _
          · split
            · exact ⟨false, [], nofun, fun callback state => rfl⟩
            · exact ih _ _
      | body name depth text =>
          simp only [scanTensors]
          split
          · exact ih _ _
          · split
            · exact ih _ _
            · obtain ⟨result, same, complete⟩ := exact_tensorEntry name (text ++ [c])
              cases result with
              | none =>
                  refine ⟨false, [], nofun, fun callback state => ?_⟩
                  rw [same, pure_bind]
                  rfl
              | some entry =>
                  obtain ⟨ok, calls, whole, scanned⟩ := ih (position + 1) .member
                  refine ⟨ok, entry :: calls, ?_, fun callback state => ?_⟩
                  · exact List.forall_mem_cons.mpr ⟨(complete entry rfl).2, whole⟩
                  · rw [same, pure_bind, callEach, bind_assoc]
                    refine bind_congr fun answer => ?_
                    obtain ⟨more, after⟩ := answer
                    cases more with
                    | false => rfl
                    | true => exact scanned callback after

/-- Two callbacks on the same calls: what relates their states, together with the calls to come,
is kept as long as the first one returns true, and then the second one does so too. -/
theorem exact_callEach {first : TensorEntry → σ → Tracked (Bool × σ)}
    {second : TensorEntry → τ → Tracked (Bool × τ)} (related : List TensorEntry → σ → τ → Prop)
    (step : ∀ entry rest state other, related (entry :: rest) state other → entry.Complete →
      Exact (first entry state) fun result => result.1 = true →
        ∃ after, second entry other = pure (true, after) ∧ related rest result.2 after)
    {calls : List TensorEntry} (complete : ∀ entry ∈ calls, entry.Complete) {state : σ} {other : τ}
    (holds : related calls state other) :
    Exact (callEach first calls state) fun result => result.1 = true →
      ∃ after, callEach second calls other = pure (true, after) ∧ related [] result.2 after := by
  induction calls generalizing state other with
  | nil => exact .ret fun _ => ⟨other, rfl, holds⟩
  | cons entry rest ih =>
      obtain ⟨whole, later⟩ := List.forall_mem_cons.mp complete
      refine .bind (step entry rest state other holds whole) fun answer kept => ?_
      obtain ⟨more, next⟩ := answer
      cases more with
      | false => exact .ret nofun
      | true =>
          obtain ⟨after, called, known⟩ := kept rfl
          rw [callEach, called, pure_bind]
          exact ih later known

/-- What every call of the callback keeps, together with the calls so far, holds after a scan
that succeeds, together with all its calls. -/
theorem exact_scanTensors {callback : TensorEntry → σ → Tracked (Bool × σ)}
    {related : List TensorEntry → σ → Prop}
    (step : ∀ entries entry state, related entries state → entry.Complete →
      Exact (callback entry state) fun result =>
        result.1 = true → related (entries ++ [entry]) result.2)
    (text : List UInt8) (position : Nat) (phase : ScanPhase) {entries : List TensorEntry}
    {state : σ} (holds : related entries state) :
    Exact (scanTensors callback text position phase state) fun result => result.1 = true →
      ∃ all, scanTensors collectEntry text position phase entries = pure (true, all) ∧
        related all result.2 := by
  obtain ⟨ok, calls, complete, scanned⟩ := scanTensors_eq_callEach text position phase
  have kept : ∀ entry (rest : List TensorEntry) state entries, related entries state →
      entry.Complete → Exact (callback entry state) fun result => result.1 = true →
        ∃ after, collectEntry entry entries = pure (true, after) ∧ related after result.2 :=
    fun entry _ state entries known whole =>
      (step entries entry state known whole).weaken fun _ after accepted =>
        ⟨entries ++ [entry], rfl, after accepted⟩
  rw [scanned, scanned]
  refine .bind (exact_callEach (fun _ state entries => related entries state) kept complete holds)
    fun answer known => .ret fun accepted => ?_
  obtain ⟨called, done⟩ := Bool.and_eq_true_iff.mp accepted
  obtain ⟨all, collected, last⟩ := known called
  refine ⟨all, ?_, last⟩
  rw [collected, pure_bind, done]
  rfl

end Calls

/-! ## Ranges and shapes -/

/-- The bytes of the data section that belong to a tensor end before another one's begin, or the
other way round. -/
def TensorEntry.Apart (first second : TensorEntry) : Prop :=
  first.offset.toNat + first.length.toNat ≤ second.offset.toNat ∨
    second.offset.toNat + second.length.toNat ≤ first.offset.toNat

/-- The tracker has the ranges of the entries. -/
structure TensorSpanTracker.Tracks (tracker : TensorSpanTracker) (entries : List TensorEntry) :
    Prop where
  spans : tracker.spans = entries.map fun entry => (entry.offset, entry.offset + entry.length)
  inside : ∀ entry ∈ entries,
    entry.offset.toNat + entry.length.toNat ≤ tracker.dataSize.toNat
  apart : entries.Pairwise TensorEntry.Apart

theorem TensorSpanTracker.exact_add {tracker : TensorSpanTracker} {entries : List TensorEntry}
    (tracks : tracker.Tracks entries) (entry : TensorEntry) :
    Exact (tracker.add entry.offset entry.length) fun result => ∀ after, result = some after →
      after.dataSize = tracker.dataSize ∧ after.Tracks (entries ++ [entry]) := by
  unfold TensorSpanTracker.add
  split
  · exact .ret nofun
  next begins =>
  rw [gt_iff_lt, UInt64.not_lt] at begins
  refine .bind (.sub begins) fun room known => ?_
  split
  · exact .ret nofun
  next fits =>
  rw [not_or, gt_iff_lt, UInt64.not_lt, UInt64.le_iff_toNat_le, known.2] at fits
  rw [UInt64.le_iff_toNat_le] at begins
  have within : entry.offset.toNat + entry.length.toNat ≤ tracker.dataSize.toNat := by omega
  have bounded := tracker.dataSize.toNat_lt
  refine .bind (.add (by omega)) fun last total => ?_
  split
  · exact .ret nofun
  next free =>
  refine .ret fun after same => ?_
  cases same
  refine ⟨rfl, ?_, ?_, ?_⟩
  · rw [tracks.spans, List.map_append, total.1]
    rfl
  · exact List.forall_mem_append.mpr ⟨tracks.inside, List.forall_mem_singleton.mpr within⟩
  · refine List.pairwise_append.mpr ⟨tracks.apart, List.pairwise_singleton _ _, ?_⟩
    intro other old new isNew
    rw [List.mem_singleton.mp isNew]
    have below := tracks.inside other old
    have otherLast : (other.offset + other.length).toNat =
        other.offset.toNat + other.length.toNat := by
      rw [UInt64.toNat_add]
      exact Nat.mod_eq_of_lt (by omega)
    simp only [tracks.spans, List.any_map, List.any_eq_true, Function.comp_apply,
      decide_eq_true_eq, not_exists, not_and] at free
    have clear := free other old
    rw [UInt64.lt_iff_toNat_lt, UInt64.not_lt, UInt64.le_iff_toNat_le, otherLast, total.2] at clear
    unfold TensorEntry.Apart
    omega

theorem TensorSpanTracker.Tracks.admitRequest {tracker after : TensorSpanTracker}
    {entries : List TensorEntry} (tracks : tracker.Tracks entries) {entry : TensorEntry}
    (added : tracker.add entry.offset entry.length = pure (some after)) :
    after.dataSize = tracker.dataSize ∧ after.Tracks (entries ++ [entry]) := by
  obtain ⟨result, same, known⟩ := tracker.exact_add tracks entry
  exact known after (pure_inj (same.symm.trans added))

/-- The number of elements is the product of the dimensions. -/
theorem exact_countElements (elements : UInt64) (dimensions : List UInt64) :
    Exact (countElements elements dimensions) fun result => ∀ total, result = some total →
      total.toNat = elements.toNat * (dimensions.map UInt64.toNat).prod := by
  induction dimensions generalizing elements with
  | nil => exact .ret fun total same => by cases same; simp
  | cons dimension rest ih =>
      unfold countElements
      split
      · exact .ret nofun
      next fits =>
      have bounded := elements.toNat_lt
      have product : elements.toNat * dimension.toNat < 2 ^ 64 := by
        by_cases none : dimension = 0
        · rw [none]
          simp
        · have small : ¬ UInt64.ofNat maxSize / dimension < elements :=
            fun large => fits ⟨none, large⟩
          rw [UInt64.not_lt, UInt64.le_iff_toNat_le, UInt64.toNat_div, toNat_maxSize] at small
          have whole := Nat.div_mul_le_self (2 ^ 64 - 1) dimension.toNat
          have scaled := Nat.mul_le_mul_right dimension.toNat small
          omega
      refine .bind (.mul product) fun next known =>
        (ih next).weaken fun result known' total same => ?_
      rw [known' total same, known.2, List.map_cons, List.prod_cons, Nat.mul_assoc]

theorem exact_validTensorShape (entry : TensorEntry) :
    Exact (validTensorShape entry) fun result => result = true →
      ((entry.shape.take entry.ndim).map UInt64.toNat).prod * (elementBytes entry.bf16).toNat =
        entry.length.toNat := by
  unfold validTensorShape
  refine .bind (exact_countElements 1 _) fun result known => ?_
  cases result with
  | none => exact .ret nofun
  | some elements =>
      have count := known elements rfl
      dsimp only
      split
      · exact .ret nofun
      next fits =>
      rw [gt_iff_lt, UInt64.not_lt, UInt64.le_iff_toNat_le, UInt64.toNat_div, toNat_maxSize] at fits
      have whole := Nat.div_mul_le_self (2 ^ 64 - 1) (elementBytes entry.bf16).toNat
      have scaled := Nat.mul_le_mul_right (elementBytes entry.bf16).toNat fits
      refine .bind (.mul (by omega)) fun bytes product => .ret fun same => ?_
      rw [decide_eq_true_eq] at same
      rw [← same, product.2, count]
      simp

theorem validTensorShape_elements {entry : TensorEntry}
    (shaped : validTensorShape entry = pure true) :
    ((entry.shape.take entry.ndim).map UInt64.toNat).prod * (elementBytes entry.bf16).toNat =
      entry.length.toNat := by
  obtain ⟨result, same, known⟩ := exact_validTensorShape entry
  exact known (pure_inj (same.symm.trans shaped))

/-! ## Copies -/

theorem copyBytes_below {memory : Nat → UInt8} {target address : Nat} (source : List UInt8)
    (below : address < target) : copyBytes memory target source address = memory address :=
  if_neg (Nat.not_le.mpr below)

theorem copyBytes_inside (memory : Nat → UInt8) (target : Nat) {source : List UInt8} {index : Nat}
    (inside : index < source.length) :
    source[index]? = some (copyBytes memory target source (target + index)) := by
  rw [copyBytes, if_pos (Nat.le_add_right _ _), Nat.add_sub_cancel_left,
    List.getElem?_eq_getElem inside, Option.getD_some]

/-- The view shows the tensor of an entry: its bytes are those of the data section that the entry
names, and as many as its shape needs. -/
structure LoadedTensor (weights : List UInt8) (memory : Nat → UInt8) (entry : TensorEntry)
    (view : TensorView) : Prop where
  inside : entry.offset.toNat + entry.length.toNat ≤ weights.length
  bytes : view.bytes = entry.length
  shape : view.shape = entry.shape
  ndim : view.ndim = entry.ndim ∧ view.shape.length = entry.ndim
  dtype : view.dtype = if entry.bf16 then .bf16 else .f32
  name : view.name = entry.name.text.take (viewNameBytes - 1)
  elements : (view.shape.map UInt64.toNat).prod * (elementBytes entry.bf16).toNat =
    entry.length.toNat
  copied : ∀ index < entry.length.toNat,
    weights[entry.offset.toNat + index]? = some (memory (view.data + index))
  aligned : view.data % simdAlign = 0

theorem LoadedTensor.of_memory {weights : List UInt8} {memory after : Nat → UInt8}
    {entry : TensorEntry} {view : TensorView} (loaded : LoadedTensor weights memory entry view)
    (same : ∀ index < entry.length.toNat, after (view.data + index) = memory (view.data + index)) :
    LoadedTensor weights after entry view :=
  { loaded with
    copied := fun index inside => by rw [same index inside]; exact loaded.copied index inside }

/-- The tensors loaded so far, with their entries. -/
structure Loaded (weights : List UInt8) (arena : Arena)
    (loaded : List (TensorEntry × TensorView)) (loading : Loading) : Prop where
  views : loading.views = loaded.map Prod.snd
  tracks : loading.tracker.Tracks (loaded.map Prod.fst)
  size : loading.tracker.dataSize.toNat = weights.length
  each : ∀ pair ∈ loaded, LoadedTensor weights loading.memory pair.1 pair.2
  placed : ∀ pair ∈ loaded, arena.cursor ≤ pair.2.data ∧
    pair.2.data + pair.2.bytes.toNat ≤ loading.arena.cursor
  separate : loaded.Pairwise fun first second =>
    first.2.data + first.2.bytes.toNat ≤ second.2.data
  grown : arena.cursor ≤ loading.arena.cursor
  limit : loading.arena.limit = arena.limit
  within : loaded ≠ [] → loading.arena.cursor ≤ arena.limit

section Load

variable {weights : List UInt8} {arena : Arena} {capacity : Nat}

/-- One more tensor is loaded behind the others. -/
theorem Loaded.load {loaded : List (TensorEntry × TensorView)} {loading : Loading}
    (known : Loaded weights arena loaded loading) {entry : TensorEntry}
    (complete : entry.shape.length = entry.ndim) {tracker : TensorSpanTracker}
    (size : tracker.dataSize = loading.tracker.dataSize)
    (tracks : tracker.Tracks (loaded.map Prod.fst ++ [entry]))
    (elements : ((entry.shape.take entry.ndim).map UInt64.toNat).prod *
      (elementBytes entry.bf16).toNat = entry.length.toNat)
    {start : Nat} {after : Arena}
    (allocated : loading.arena.alloc simdAlign entry.length.toNat = some (start, after))
    {view : TensorView} (viewed : view =
      { data := start
        bytes := entry.length
        dtype := if entry.bf16 then .bf16 else .f32
        ndim := entry.ndim
        shape := entry.shape.take entry.ndim
        name := entry.name.text.take (viewNameBytes - 1) }) :
    Loaded weights arena (loaded ++ [(entry, view)])
      { arena := after
        memory := copyBytes loading.memory start
          ((weights.drop entry.offset.toNat).take entry.length.toNat)
        tracker
        views := loading.views ++ [view] } := by
  obtain ⟨aligned, behind, cursor, fits, limit⟩ := Arena.alloc_ok (by decide) allocated
  have whole : entry.shape.take entry.ndim = entry.shape :=
    List.take_of_length_le (Nat.le_of_eq complete)
  have inside : entry.offset.toNat + entry.length.toNat ≤ weights.length := by
    have within := tracks.inside entry List.mem_concat_self
    rw [size, known.size] at within
    exact within
  have length : ((weights.drop entry.offset.toNat).take entry.length.toNat).length =
      entry.length.toNat := by
    rw [List.length_take, List.length_drop]
    omega
  have grown := known.grown
  rw [whole] at viewed elements
  subst viewed
  refine
    { views := by rw [known.views, List.map_append]; rfl
      tracks := by rw [List.map_append]; exact tracks
      size := by rw [size]; exact known.size
      each := ?_
      placed := ?_
      separate := ?_
      grown := by dsimp only; omega
      limit := limit.trans known.limit
      within := fun _ => by rw [← known.limit, ← limit]; exact fits }
  · intro pair member
    rcases List.mem_append.mp member with old | new
    · refine (known.each pair old).of_memory fun index bounded => copyBytes_below _ ?_
      have ends := (known.placed pair old).2
      rw [(known.each pair old).bytes] at ends
      omega
    · rw [List.mem_singleton.mp new]
      refine ⟨inside, rfl, rfl, ⟨rfl, complete⟩, rfl, rfl, elements, ?_, aligned⟩
      intro index bounded
      rw [← copyBytes_inside loading.memory start (by rw [length]; exact bounded),
        List.getElem?_take_of_lt bounded, List.getElem?_drop]
  · intro pair member
    rcases List.mem_append.mp member with old | new
    · obtain ⟨begins, ends⟩ := known.placed pair old
      exact ⟨begins, by dsimp only; omega⟩
    · rw [List.mem_singleton.mp new]
      exact ⟨by dsimp only; omega, by dsimp only; omega⟩
  · refine List.pairwise_append.mpr ⟨known.separate, List.pairwise_singleton _ _, ?_⟩
    intro pair old other new
    rw [List.mem_singleton.mp new]
    exact (known.placed pair old).2.trans behind

/-- The tensors loaded so far are those of the supported calls. -/
def LoadedFrom (weights : List UInt8) (arena : Arena) (entries : List TensorEntry)
    (loading : Loading) : Prop :=
  ∃ loaded, loaded.map Prod.fst = entries.filter (·.supported) ∧ Loaded weights arena loaded loading

/-- The tracker takes the range of a tensor whose shape is valid. -/
structure Admitted (tracker : TensorSpanTracker) (entry : TensorEntry)
    (after : TensorSpanTracker) : Prop where
  added : tracker.add entry.offset entry.length = pure (some after)
  shaped : validTensorShape entry = pure true

/-- What the loader does with a supported tensor. -/
def Loading.load (loading : Loading) (weights : List UInt8) (entry : TensorEntry)
    (tracker : TensorSpanTracker) (start : Nat) (arena : Arena) : Loading :=
  { arena
    memory := copyBytes loading.memory start
      ((weights.drop entry.offset.toNat).take entry.length.toNat)
    tracker
    views := loading.views ++
      [{ data := start
         bytes := entry.length
         dtype := if entry.bf16 then .bf16 else .f32
         ndim := entry.ndim
         shape := entry.shape.take entry.ndim
         name := entry.name.text.take (viewNameBytes - 1) }] }

theorem loadTensor_cases {loading : Loading} {entries : List TensorEntry}
    (tracks : loading.tracker.Tracks entries) (entry : TensorEntry) :
    Exact (loadTensor weights capacity entry loading) fun result => result.1 = true →
      entry.supported = false ∧ result.2 = loading ∨
      entry.supported = true ∧ ∃ tracker start after, Admitted loading.tracker entry tracker ∧
        loading.arena.alloc simdAlign entry.length.toNat = some (start, after) ∧
        result.2 = loading.load weights entry tracker start after := by
  unfold loadTensor
  split
  · next ignored => exact .ret fun _ => .inl ⟨ignored, rfl⟩
  next supported =>
  rw [Bool.not_eq_false] at supported
  split
  · exact .ret nofun
  obtain ⟨added, same, -⟩ := TensorSpanTracker.exact_add tracks entry
  rw [same, pure_bind]
  cases added with
  | none => exact .ret nofun
  | some tracker =>
      obtain ⟨valid, shaped, -⟩ := exact_validTensorShape entry
      dsimp only
      rw [shaped, pure_bind]
      cases valid with
      | false => exact .ret nofun
      | true =>
          rw [if_neg (by decide)]
          cases allocated : loading.arena.allocArray 1 simdAlign entry.length.toNat with
          | none => exact .ret nofun
          | some result =>
              obtain ⟨start, after⟩ := result
              unfold Arena.allocArray at allocated
              split at allocated
              · cases allocated
              rw [Nat.mul_one] at allocated
              exact .ret fun _ =>
                .inr ⟨supported, tracker, start, after, ⟨same, shaped⟩, allocated, rfl⟩

theorem exact_loadTensor (entries : List TensorEntry) (entry : TensorEntry) (loading : Loading)
    (known : LoadedFrom weights arena entries loading) (complete : entry.Complete) :
    Exact (loadTensor weights capacity entry loading) fun result =>
      result.1 = true → LoadedFrom weights arena (entries ++ [entry]) result.2 := by
  obtain ⟨loaded, sources, held⟩ := known
  refine (loadTensor_cases held.tracks entry).weaken fun result cases accepted => ?_
  rcases cases accepted with
    ⟨ignored, same⟩ | ⟨supported, tracker, start, after, admitted, allocated, same⟩
  · rw [same]
    exact ⟨loaded, by simp [sources, ignored], held⟩
  · obtain ⟨size, tracks⟩ := held.tracks.admitRequest admitted.added
    rw [same]
    refine ⟨loaded ++ [(entry, _)], by simp [sources, supported],
      held.load (complete supported).1 size tracks (validTensorShape_elements admitted.shaped)
        allocated rfl⟩

end Load

/-! ## Files -/

theorem exact_headerJson (file : MappedFile) :
    Exact (headerJson file) fun result => ∀ json, result = .ok json →
      8 + json.length ≤ file.bytes.length := by
  have whole : (UInt64.ofNat file.bytes.length).toNat = file.bytes.length :=
    UInt64.toNat_ofNat_of_lt' file.small
  unfold headerJson
  split
  · exact .ret nofun
  next large =>
  refine .bind (.sub ?_) fun room known => ?_
  · rw [UInt64.le_iff_toNat_le, whole]
    exact Nat.not_lt.mp large
  split
  · exact .ret nofun
  · next fits =>
      refine .ret fun json same => ?_
      cases same
      rw [gt_iff_lt, UInt64.not_lt, UInt64.le_iff_toNat_le, known.2, whole] at fits
      have eight : (8 : UInt64).toNat = 8 := rfl
      rw [eight] at fits
      rw [List.length_take, List.length_drop]
      omega

/-- The words of the three passes before their scans. -/
theorem headerJson_cases (file : MappedFile) :
    (∃ message, headerJson file = pure (.error message)) ∨
      ∃ json behindLength dataSize, headerJson file = pure (.ok json) ∧
        TrackedWords.sub (UInt64.ofNat file.bytes.length) 8 = pure behindLength ∧
        TrackedWords.sub behindLength (UInt64.ofNat json.length) = pure dataSize ∧
        dataSize.toNat = (file.bytes.drop (8 + json.length)).length := by
  have whole : (UInt64.ofNat file.bytes.length).toNat = file.bytes.length :=
    UInt64.toNat_ofNat_of_lt' file.small
  obtain ⟨header, headed, inside⟩ := exact_headerJson file
  cases header with
  | error message => exact .inl ⟨message, headed⟩
  | ok json =>
      have fits := inside json rfl
      have length : (UInt64.ofNat json.length).toNat = json.length :=
        UInt64.toNat_ofNat_of_lt' (Nat.lt_of_le_of_lt (Nat.le_of_add_left_le fits) file.small)
      have eight : (8 : UInt64).toNat = 8 := rfl
      have large : (8 : UInt64) ≤ UInt64.ofNat file.bytes.length := by
        rw [UInt64.le_iff_toNat_le, whole, eight]
        omega
      obtain ⟨behindLength, behind, -, behindValue⟩ := Exact.sub large
      rw [whole, eight] at behindValue
      have room : UInt64.ofNat json.length ≤ behindLength := by
        rw [UInt64.le_iff_toNat_le, length, behindValue]
        omega
      obtain ⟨dataSize, data, -, dataValue⟩ := Exact.sub room
      rw [length, behindValue] at dataValue
      refine .inr ⟨json, behindLength, dataSize, headed, behind, data, ?_⟩
      rw [List.length_drop]
      omega

theorem exact_loadSafetensors (file : MappedFile) (capacity : Nat) (arena : Arena)
    (memory : Nat → UInt8) :
    Exact (loadSafetensors file capacity arena memory) fun result => ∀ loading,
      result = .ok loading → ∃ json entries, headerJson file = pure (.ok json) ∧
        tensorCalls json = pure (true, entries) ∧
        LoadedFrom (file.bytes.drop (8 + json.length)) arena entries loading := by
  unfold loadSafetensors
  rcases headerJson_cases file with
    ⟨message, failed⟩ | ⟨json, behindLength, dataSize, headed, behind, data, size⟩
  · rw [failed, pure_bind]
    exact .ret nofun
  · rw [headed, pure_bind]
    dsimp only
    rw [behind, pure_bind, data, pure_bind]
    have start : LoadedFrom (file.bytes.drop (8 + json.length)) arena []
        { arena, memory, tracker := { dataSize } } :=
      ⟨[], rfl, rfl, ⟨rfl, by simp, .nil⟩, size, by simp, by simp, .nil, Nat.le_refl _, rfl, nofun⟩
    refine .bind (exact_scanTensors exact_loadTensor json 0 .root start) fun scanned known => ?_
    obtain ⟨ok, loading⟩ := scanned
    dsimp only
    split
    · exact .ret nofun
    next done =>
    rw [not_or, Bool.not_eq_false] at done
    obtain ⟨entries, calls, held⟩ := known done.1
    refine .ret fun result same => ?_
    cases same
    exact ⟨json, entries, rfl, calls, held⟩

/-- **Loading is memory-consistent.** Whatever a file contains, no operation on values of its
header wraps around. If the loader succeeds, its views show the supported tensors of the header
in order. The bytes of each tensor lie in the data section, apart from those of the others, and
are as many as its shape and type need. Its copy in the arena is aligned, apart from the other
copies, and holds just those bytes. -/
theorem load_memory_consistent (file : MappedFile) (capacity : Nat) (arena : Arena)
    (memory : Nat → UInt8) :
    let run := (loadSafetensors file capacity arena memory).run false
    run.2 = false ∧ ∀ loading, run.1 = .ok loading →
      ∃ (json : List UInt8) (entries : List TensorEntry)
        (loaded : List (TensorEntry × TensorView)),
        ((headerJson file).run false).1 = .ok json ∧
        ((tensorCalls json).run false).1 = (true, entries) ∧
        loaded.map Prod.fst = entries.filter (·.supported) ∧
        loaded.map Prod.snd = loading.views ∧
        (∀ pair ∈ loaded,
          LoadedTensor (file.bytes.drop (8 + json.length)) loading.memory pair.1 pair.2 ∧
          arena.cursor ≤ pair.2.data ∧ pair.2.data + pair.2.bytes.toNat ≤ arena.limit) ∧
        loaded.Pairwise fun first second => first.1.Apart second.1 ∧
          first.2.data + first.2.bytes.toNat ≤ second.2.data := by
  intro run
  have exact := exact_loadSafetensors file capacity arena memory
  refine ⟨exact.flag false, fun loading ended => ?_⟩
  obtain ⟨json, entries, headed, calls, loaded, sources, held⟩ := exact.value false loading ended
  refine ⟨json, entries, loaded, by rw [headed]; rfl, by rw [calls]; rfl, sources, held.views.symm,
    ?_, ?_⟩
  · intro pair member
    obtain ⟨begins, ends⟩ := held.placed pair member
    exact ⟨held.each pair member, begins, ends.trans (held.within (List.ne_nil_of_mem member))⟩
  · exact (List.pairwise_map.mp held.tracks.apart).and held.separate

/-- A file with the tensor `w` of four bytes. -/
private def singleFile : MappedFile where
  bytes := [54, 0, 0, 0, 0, 0, 0, 0] ++
    "\x7b\"w\":\x7b\"dtype\":\"F32\",\"shape\":[1],\"data_offsets\":[0,4]\x7d\x7d".toUTF8.toList ++
    [1, 2, 3, 4]
  small := by decide +kernel

theorem load_memory_consistent_single :
    ∃ (loading : Loading) (json : List UInt8) (loaded : List (TensorEntry × TensorView)),
      ((loadSafetensors singleFile 1 ⟨64, 128⟩ fun _ => 0).run false).1 = .ok loading ∧
      loading.views.map (fun view => (view.data, view.bytes)) = [(64, 4)] ∧
      (List.range 4).map (fun offset => loading.memory (64 + offset)) = [1, 2, 3, 4] ∧
      loaded.map Prod.snd = loading.views ∧ ∀ pair ∈ loaded,
        LoadedTensor (singleFile.bytes.drop (8 + json.length)) loading.memory pair.1 pair.2 := by
  have sound := (load_memory_consistent singleFile 1 ⟨64, 128⟩ fun _ => 0).2
  have shown : (((loadSafetensors singleFile 1 ⟨64, 128⟩ fun _ => 0).run false).1.toOption.map
      fun loading => (loading.views.map (fun view => (view.data, view.bytes)),
        (List.range 4).map (fun offset => loading.memory (64 + offset)))) =
      some ([(64, 4)], [1, 2, 3, 4]) := by decide +kernel
  generalize ((loadSafetensors singleFile 1 ⟨64, 128⟩ fun _ => 0).run false).1 = result at *
  cases result with
  | error => cases shown
  | ok loading =>
      obtain ⟨views, bytes⟩ := Prod.mk.inj (Option.some.inj shown)
      obtain ⟨json, entries, loaded, -, -, -, same, each, -⟩ := sound loading rfl
      exact ⟨loading, json, loaded, rfl, views, bytes, same,
        fun pair member => (each pair member).1⟩

end FlowEdge
