import FlowEdge.Loader.SafetensorsMemory

/-!
# The passes over a checkpoint

`ModelWeights` reads the header of a file twice: once for the number of bytes it has to allocate
and once to load the tensors. The two passes and `inspect_safetensors` have a callback each, and
they accept the same files.
-/

namespace FlowEdge

open TrackedWords

/-! ## Callbacks -/

theorem maxTensors_eq_maxSpans : maxTensors = maxSpans := rfl

variable {tracker : TensorSpanTracker} {entries : List TensorEntry} {entry : TensorEntry}

theorem TensorSpanTracker.length_of_add {after : TensorSpanTracker}
    (tracks : tracker.Tracks entries)
    (added : tracker.add entry.offset entry.length = pure (some after)) :
    tracker.spans.length ≠ maxSpans ∧ after.spans.length = tracker.spans.length + 1 := by
  constructor
  · intro full
    unfold TensorSpanTracker.add at added
    split at added
    · cases pure_inj added
    next begins =>
    rw [gt_iff_lt, UInt64.not_lt] at begins
    rw [sub_eq begins, pure_bind, if_pos (.inr full)] at added
    cases pure_inj added
  · rw [(tracks.admitRequest added).2.spans, tracks.spans, List.length_map, List.length_map,
      List.length_append, List.length_singleton]

theorem admitTensor_of_admitted {after : TensorSpanTracker} {total : UInt64}
    (admitted : Admitted tracker entry after) (fits : total.toNat + entry.length.toNat < 2 ^ 64) :
    admitTensor entry tracker total = pure (some after) := by
  have below : total ≤ UInt64.ofNat maxSize := by
    rw [UInt64.le_iff_toNat_le, toNat_maxSize]
    omega
  have room : ¬ entry.length > UInt64.ofNat maxSize - total := by
    rw [gt_iff_lt, UInt64.not_lt, UInt64.le_iff_toNat_le, UInt64.toNat_sub_of_le _ _ below,
      toNat_maxSize]
    omega
  rw [admitTensor, admitted.added, pure_bind]
  dsimp only
  rw [admitted.shaped, pure_bind, if_neg (by decide), sub_eq below, pure_bind, if_neg room]

theorem exact_admitTensor (tracks : tracker.Tracks entries) (entry : TensorEntry) (total : UInt64) :
    Exact (admitTensor entry tracker total) fun result => ∀ after, result = some after →
      Admitted tracker entry after ∧ total.toNat + entry.length.toNat < 2 ^ 64 := by
  obtain ⟨added, same, -⟩ := TensorSpanTracker.exact_add tracks entry
  obtain ⟨valid, shaped, -⟩ := exact_validTensorShape entry
  unfold admitTensor
  rw [same, pure_bind]
  cases added with
  | none => exact .ret nofun
  | some tracker =>
      dsimp only
      rw [shaped, pure_bind]
      cases valid with
      | false => exact .ret nofun
      | true =>
          have below : total ≤ UInt64.ofNat maxSize := by
            have bounded := total.toNat_lt
            rw [UInt64.le_iff_toNat_le, toNat_maxSize]
            omega
          rw [if_neg (by decide)]
          refine .bind (.sub below) fun room known => ?_
          split
          · exact .ret nofun
          next fits =>
          rw [gt_iff_lt, UInt64.not_lt, UInt64.le_iff_toNat_le, known.2, toNat_maxSize] at fits
          have bounded := total.toNat_lt
          refine .ret fun after found => ?_
          cases found
          exact ⟨⟨same, shaped⟩, by omega⟩

theorem weighTensor_cases {weighing : Weighing} (tracks : weighing.tracker.Tracks entries)
    (entry : TensorEntry) :
    Exact (weighTensor entry weighing) fun result => result.1 = true →
      entry.supported = false ∧ result.2 = weighing ∨
      entry.supported = true ∧ ∃ tracker, Admitted weighing.tracker entry tracker ∧
        result.2.tracker = tracker ∧
        result.2.total.toNat = weighing.total.toNat + entry.length.toNat := by
  unfold weighTensor
  split
  · next ignored => exact .ret fun _ => .inl ⟨ignored, rfl⟩
  next supported =>
  rw [Bool.not_eq_false] at supported
  refine .bind (exact_admitTensor tracks entry weighing.total) fun result admitted => ?_
  cases result with
  | none => exact .ret nofun
  | some tracker =>
      obtain ⟨admitted, fits⟩ := admitted tracker rfl
      refine .bind (.add fits) fun total sum => .ret fun _ => ?_
      exact .inr ⟨supported, tracker, admitted, rfl, sum.2⟩

/-- The metadata of a loaded tensor. -/
def TensorView.metadata (view : TensorView) : TensorMetadata :=
  { bytes := view.bytes
    dtype := view.dtype
    ndim := view.ndim
    shape := view.shape
    name := view.name }

/-! ## Sums -/

/-- The bytes of the tensors that are loaded. -/
def loadedBytes (views : List TensorView) : Nat := (views.map fun view => view.bytes.toNat).sum

theorem loadedBytes_append (views : List TensorView) (view : TensorView) :
    loadedBytes (views ++ [view]) = loadedBytes views + view.bytes.toNat := by
  simp [loadedBytes]

def supported (calls : List TensorEntry) : List TensorEntry := calls.filter (·.supported)

theorem supported_cons_of_false (ignored : entry.supported = false) (rest : List TensorEntry) :
    supported (entry :: rest) = supported rest :=
  List.filter_cons_of_neg (by simp [ignored])

theorem supported_cons_of_true (taken : entry.supported = true) (rest : List TensorEntry) :
    supported (entry :: rest) = entry :: supported rest :=
  List.filter_cons_of_pos taken

/-- The bytes of some tensors in the file. -/
def storedBytes (entries : List TensorEntry) : Nat :=
  (entries.map fun entry => entry.length.toNat).sum

theorem storedBytes_cons (entries : List TensorEntry) :
    storedBytes (entry :: entries) = entry.length.toNat + storedBytes entries := by
  simp [storedBytes]

/-! ## Loading what has been weighed -/

/-- The loader is in step with the pass that weighs the tensors: it has used at most the bytes
of the tensors so far and, before each of them, the padding to an aligned address. -/
structure Provided (base total : Nat) (rest : List TensorEntry) (weighing : Weighing)
    (loading : Loading) : Prop where
  tracker : loading.tracker = weighing.tracker
  tracks : ∃ entries, weighing.tracker.Tracks entries
  count : loading.views.length = weighing.tracker.spans.length
  few : loading.views.length ≤ maxTensors
  bytes : loadedBytes loading.views = weighing.total.toNat
  remaining : weighing.total.toNat + storedBytes (supported rest) = total
  placed : 0 < loading.arena.cursor
  used : loading.arena.cursor ≤
    base + weighing.total.toNat + loading.views.length * (simdAlign - 1)
  limit : loading.arena.limit = base + (total + maxTensors * (simdAlign - 1))

theorem loadTensor_of_room {weights : List UInt8} {capacity : Nat} {loading : Loading} {start : Nat}
    {after : Arena} (taken : entry.supported = true)
    (admitted : Admitted loading.tracker entry tracker) (room : loading.views.length < capacity)
    (allocated : loading.arena.alloc simdAlign entry.length.toNat = some (start, after)) :
    loadTensor weights capacity entry loading =
      pure (true, loading.load weights entry tracker start after) := by
  have small : ¬ entry.length.toNat > maxSize / 1 := by
    have bounded := entry.length.toNat_lt
    rw [maxSize, Nat.div_one]
    omega
  have array : loading.arena.allocArray 1 simdAlign entry.length.toNat = some (start, after) := by
    rw [Arena.allocArray, if_neg small, Nat.mul_one, allocated]
  rw [loadTensor, if_neg (by rw [taken]; decide), if_neg (Nat.not_le.mpr room), admitted.added,
    pure_bind]
  dsimp only
  rw [admitted.shaped, pure_bind, if_neg (by decide), array]
  rfl

theorem Provided.step {weights : List UInt8} {base total : Nat} {rest : List TensorEntry}
    {weighing : Weighing} {loading : Loading}
    (known : Provided base total (entry :: rest) weighing loading) :
    Exact (weighTensor entry weighing) fun result => result.1 = true →
      ∃ after, loadTensor weights maxTensors entry loading = pure (true, after) ∧
        Provided base total rest result.2 after := by
  obtain ⟨entries, tracks⟩ := known.tracks
  refine (weighTensor_cases tracks entry).weaken fun result cases accepted => ?_
  rcases cases accepted with ⟨ignored, same⟩ | ⟨taken, tracker, admitted, tracked, sum⟩
  · refine ⟨loading, by rw [loadTensor, if_pos ignored], ?_⟩
    rw [same]
    have remaining := known.remaining
    rw [supported_cons_of_false ignored] at remaining
    exact { known with remaining }
  · have remaining := known.remaining
    rw [supported_cons_of_true taken, storedBytes_cons] at remaining
    obtain ⟨notFull, spans⟩ := TensorSpanTracker.length_of_add tracks admitted.added
    have few := known.few
    have count := known.count
    have used := known.used
    have placed := known.placed
    have limit := known.limit
    have padding : simdAlign - 1 = 63 := rfl
    rw [maxTensors_eq_maxSpans] at few limit
    rw [padding] at used limit
    have fewer : loading.views.length < maxSpans := by omega
    have room : loading.arena.cursor + (simdAlign - 1) + entry.length.toNat ≤
        loading.arena.limit := by
      rw [padding]
      omega
    obtain ⟨start, allocated, begins⟩ := Arena.alloc_of_room (by decide) placed room
    rw [padding] at begins
    rw [← known.tracker] at admitted
    refine ⟨_, loadTensor_of_room taken admitted fewer allocated, ?_⟩
    refine
      { tracker := tracked.symm
        tracks := ⟨entries ++ [entry], ?_⟩
        count := ?_
        few := ?_
        bytes := ?_
        remaining := by rw [sum]; omega
        placed := ?_
        used := ?_
        limit := known.limit }
    · rw [known.tracker] at admitted
      rw [tracked]
      exact (tracks.admitRequest admitted.added).2
    · rw [tracked, spans, Loading.load, List.length_append, List.length_singleton, count]
    · rw [Loading.load, List.length_append, List.length_singleton]
      exact fewer
    · rw [Loading.load, loadedBytes_append, known.bytes, sum]
    · exact placed.trans_le ((Arena.alloc_ok (by decide) allocated).2.1.trans
        (Nat.le_add_right _ _))
    · rw [Loading.load, List.length_append, List.length_singleton, padding, sum]
      dsimp only
      omega

/-! ## Weighing and inspecting what has been loaded -/

/-- The bytes that a pass has counted are those of the views so far. -/
structure Balanced (loading : Loading) (tracker : TensorSpanTracker) (total : UInt64) : Prop where
  tracker : tracker = loading.tracker
  tracks : ∃ entries, loading.tracker.Tracks entries
  total : total.toNat = loadedBytes loading.views

section Balance

variable {weights : List UInt8} {loading : Loading} {entry : TensorEntry} {capacity : Nat}

theorem Balanced.load {tracker next : TensorSpanTracker} {total : UInt64} {start : Nat}
    {after : Arena} (known : Balanced loading tracker total)
    (admitted : Admitted loading.tracker entry next)
    (fits : total.toNat + entry.length.toNat < 2 ^ 64) :
    Balanced (loading.load weights entry next start after) next (total + entry.length) := by
  obtain ⟨entries, tracks⟩ := known.tracks
  refine ⟨rfl, ⟨entries ++ [entry], (tracks.admitRequest admitted.added).2⟩, ?_⟩
  rw [UInt64.toNat_add, Nat.mod_eq_of_lt fits, Loading.load, loadedBytes_append, known.total]

/-- The views so far lie in the arena, one behind the other. -/
structure Weighed (arena : Arena) (loading : Loading) (weighing : Weighing) : Prop where
  balanced : Balanced loading weighing.tracker weighing.total
  filled : arena.cursor + loadedBytes loading.views ≤ loading.arena.cursor
  limit : loading.arena.limit = arena.limit

theorem Weighed.step {arena : Arena} {weighing : Weighing}
    (known : Weighed arena loading weighing) (addressed : arena.limit < 2 ^ 64) :
    Exact (loadTensor weights capacity entry loading) fun result => result.1 = true →
      ∃ after, weighTensor entry weighing = pure (true, after) ∧
        Weighed arena result.2 after := by
  obtain ⟨entries, tracks⟩ := known.balanced.tracks
  refine (loadTensor_cases tracks entry).weaken fun result cases accepted => ?_
  rcases cases accepted with
    ⟨ignored, same⟩ | ⟨taken, tracker, start, after, admitted, allocated, same⟩
  · exact ⟨weighing, by rw [weighTensor, if_pos ignored], by rw [same]; exact known⟩
  · obtain ⟨-, begins, ends, inside, limit⟩ := Arena.alloc_ok (by decide) allocated
    have filled := known.filled
    -- the bytes of all tensors lie below the end of the arena
    have fits : weighing.total.toNat + entry.length.toNat < 2 ^ 64 := by
      rw [← known.balanced.total] at filled
      rw [limit, known.limit] at inside
      omega
    have counted := admitted
    rw [← known.balanced.tracker] at counted
    refine ⟨{ tracker, total := weighing.total + entry.length }, ?_, ?_⟩
    · rw [weighTensor, if_neg (by rw [taken]; decide), admitTensor_of_admitted counted fits,
        pure_bind]
      dsimp only
      rw [add_eq fits, pure_bind]
    · rw [same]
      refine ⟨known.balanced.load admitted fits, ?_, limit.trans known.limit⟩
      rw [Loading.load, loadedBytes_append]
      dsimp only
      omega

theorem inspectTensor_of_room {inspection : Inspection} {room : Nat}
    (taken : entry.supported = true) (admitted : Admitted inspection.tracker entry tracker)
    (fits : inspection.totalBytes.toNat + entry.length.toNat < 2 ^ 64)
    (free : inspection.tensors.length < room) :
    inspectTensor room entry inspection = pure (true,
      { inspection with
        tracker
        tensors := inspection.tensors ++
          [{ bytes := entry.length
             dtype := if entry.bf16 then .bf16 else .f32
             ndim := entry.ndim
             shape := entry.shape.take entry.ndim
             name := entry.name.text.take (viewNameBytes - 1) }]
        totalBytes := inspection.totalBytes + entry.length }) := by
  rw [inspectTensor, if_neg (by rw [taken]; decide), admitTensor_of_admitted admitted fits,
    pure_bind]
  dsimp only
  rw [if_neg (Nat.not_le.mpr free), add_eq fits, pure_bind]

/-- The metadata so far is that of the views; `slots` and `total` are what it will be at the
end. -/
structure Mirrored (slots total : Nat) (rest : List TensorEntry) (loading : Loading)
    (inspection : Inspection) : Prop where
  balanced : Balanced loading inspection.tracker inspection.totalBytes
  tensors : inspection.tensors = loading.views.map TensorView.metadata
  count : loading.views.length + (supported rest).length = slots
  remaining : loadedBytes loading.views + storedBytes (supported rest) = total

theorem Mirrored.step {inspection : Inspection} {slots total room : Nat}
    {rest : List TensorEntry}
    (known : Mirrored slots total (entry :: rest) loading inspection) (enough : slots ≤ room)
    (bounded : total < 2 ^ 64) :
    Exact (loadTensor weights capacity entry loading) fun result => result.1 = true →
      ∃ after, inspectTensor room entry inspection = pure (true, after) ∧
        Mirrored slots total rest result.2 after := by
  obtain ⟨entries, tracks⟩ := known.balanced.tracks
  refine (loadTensor_cases tracks entry).weaken fun result cases accepted => ?_
  have count := known.count
  have remaining := known.remaining
  rcases cases accepted with
    ⟨ignored, same⟩ | ⟨taken, tracker, start, after, admitted, allocated, same⟩
  · rw [supported_cons_of_false ignored] at count remaining
    refine ⟨_, if_pos ignored, ?_⟩
    rw [same]
    exact ⟨known.balanced, known.tensors, count, remaining⟩
  · rw [supported_cons_of_true taken] at count remaining
    rw [List.length_cons] at count
    rw [storedBytes_cons] at remaining
    have fits : inspection.totalBytes.toNat + entry.length.toNat < 2 ^ 64 := by
      rw [known.balanced.total]
      omega
    have counted := admitted
    rw [← known.balanced.tracker] at counted
    have free : inspection.tensors.length < room := by
      rw [known.tensors, List.length_map]
      omega
    refine ⟨_, inspectTensor_of_room taken counted fits free, ?_⟩
    rw [same]
    refine ⟨known.balanced.load admitted fits, ?_, ?_, ?_⟩
    · rw [Loading.load, List.map_append, known.tensors]
      rfl
    · rw [Loading.load, List.length_append, List.length_singleton]
      omega
    · rw [Loading.load, loadedBytes_append]
      dsimp only
      omega

end Balance

/-! ## Files -/

/-- The passes over a file in terms of the calls they make. -/
structure FilePasses (file : MappedFile) (weights : List UInt8) (tracker : TensorSpanTracker)
    (calls : List TensorEntry) (ok : Bool) : Prop where
  complete : ∀ entry ∈ calls, entry.Complete
  tracks : tracker.Tracks []
  weigh : safetensorsWeightBytes file = do
    let answer ← callEach weighTensor calls { tracker }
    if answer.1 && ok then return answer.2.total else return 0
  load : ∀ capacity arena memory, loadSafetensors file capacity arena memory = do
    let answer ← callEach (loadTensor weights capacity) calls { arena, memory, tracker }
    if (answer.1 && ok) = false ∨ answer.2.views.length = 0 then return .error iterationError
    else return .ok answer.2
  inspect : ∀ capacity, inspectSafetensors file capacity = do
    let answer ← callEach (inspectTensor capacity) calls { tracker }
    if answer.1 && ok then return .ok answer.2 else return .error inspectionError

/-- A file without a header is not accepted by any pass. -/
theorem passes_cases (file : MappedFile) :
    (safetensorsWeightBytes file = pure 0 ∧ ∃ message, ∀ capacity arena memory,
      loadSafetensors file capacity arena memory = pure (.error message)) ∨
    ∃ weights tracker calls ok, FilePasses file weights tracker calls ok := by
  rcases headerJson_cases file with
    ⟨message, failed⟩ | ⟨json, behindLength, dataSize, headed, behind, data, size⟩
  · refine .inl ⟨?_, message, fun capacity arena memory => ?_⟩
    · rw [safetensorsWeightBytes, failed, pure_bind]
    · rw [loadSafetensors, failed, pure_bind]
  · obtain ⟨ok, calls, complete, scanned⟩ := scanTensors_eq_callEach json 0 .root
    refine .inr ⟨file.bytes.drop (8 + json.length), { dataSize }, calls, ok, complete,
      ⟨rfl, nofun, .nil⟩, ?_, fun capacity arena memory => ?_, fun capacity => ?_⟩
    · rw [safetensorsWeightBytes, headed, pure_bind]
      dsimp only
      rw [behind, pure_bind, data, pure_bind, foreachTensor, scanned, bind_assoc]
      rfl
    · rw [loadSafetensors, headed, pure_bind]
      dsimp only
      rw [behind, pure_bind, data, pure_bind, foreachTensor, scanned, bind_assoc]
      rfl
    · rw [inspectSafetensors, headed, pure_bind]
      dsimp only
      rw [behind, pure_bind, data, pure_bind, foreachTensor, scanned, bind_assoc]
      rfl

section Agreement

variable {file : MappedFile} {weights : List UInt8} {tracker : TensorSpanTracker}
  {calls : List TensorEntry} {ok : Bool}

theorem FilePasses.load_of_weigh (passes : FilePasses file weights tracker calls ok) {base : Nat}
    (placed : 0 < base) (memory : Nat → UInt8) :
    ∃ n, safetensorsWeightBytes file = pure n ∧ (0 < n → ∃ loading,
      loadSafetensors file maxTensors (modelWeightsArena base n.toNat) memory =
        pure (.ok loading) ∧
      loadedBytes loading.views = n.toNat ∧ n.toNat = storedBytes (supported calls)) := by
  let total := storedBytes (supported calls)
  have start : Provided base total calls { tracker }
      { arena := modelWeightsArena base total, memory, tracker } :=
    { tracker := rfl
      tracks := ⟨[], passes.tracks⟩
      count := by rw [passes.tracks.spans]; rfl
      few := Nat.zero_le _
      bytes := rfl
      remaining := Nat.zero_add _
      placed
      used := Nat.le_add_right _ _
      limit := rfl }
  have step : ∀ entry rest weighing loading,
      Provided base total (entry :: rest) weighing loading → entry.Complete →
      Exact (weighTensor entry weighing) fun result => result.1 = true →
        ∃ after, loadTensor weights maxTensors entry loading = pure (true, after) ∧
          Provided base total rest result.2 after :=
    fun _ _ _ _ known _ => known.step
  obtain ⟨⟨more, weighing⟩, called, kept⟩ := exact_callEach _ step passes.complete start
  rw [passes.weigh, called, pure_bind]
  split
  · next done =>
      rw [Bool.and_eq_true] at done
      obtain ⟨loading, loaded, known⟩ := kept done.1
      refine ⟨weighing.total, rfl, fun positive => ⟨loading, ?_, known.bytes, known.remaining⟩⟩
      have whole : weighing.total.toNat = total := known.remaining
      rw [passes.load, whole, loaded, pure_bind, done.2]
      refine if_neg ?_
      rintro (refused | empty)
      · cases refused
      · have bytes := known.bytes
        rw [List.length_eq_zero_iff.mp empty] at bytes
        rw [UInt64.lt_iff_toNat_lt] at positive
        exact positive.ne bytes
  · exact ⟨0, rfl, fun positive => absurd positive (by decide)⟩

variable {capacity : Nat} {arena : Arena} {memory : Nat → UInt8} {loading : Loading}

/-- What relates the state of another callback to that of the loader holds after the calls of a
loader that succeeds. -/
theorem FilePasses.calls_of_load (passes : FilePasses file weights tracker calls ok)
    (loaded : loadSafetensors file capacity arena memory = pure (.ok loading)) {σ : Type}
    {callback : TensorEntry → σ → Tracked (Bool × σ)} {state : σ}
    (related : List TensorEntry → Loading → σ → Prop)
    (start : related calls { arena, memory, tracker } state)
    (step : ∀ entry rest loading state, related (entry :: rest) loading state →
      Exact (loadTensor weights capacity entry loading) fun result => result.1 = true →
        ∃ after, callback entry state = pure (true, after) ∧ related rest result.2 after) :
    ok = true ∧ ∃ after, callEach callback calls state = pure (true, after) ∧
      related [] loading after := by
  obtain ⟨⟨more, result⟩, called, kept⟩ := exact_callEach related
    (fun entry rest loading state known _ => step entry rest loading state known)
    passes.complete start
  rw [passes.load, called, pure_bind] at loaded
  split at loaded
  · cases pure_inj loaded
  next done =>
  rw [not_or, Bool.not_eq_false, Bool.and_eq_true] at done
  cases pure_inj loaded
  exact ⟨done.1.2, kept done.1.1⟩

theorem FilePasses.weigh_of_load (passes : FilePasses file weights tracker calls ok)
    (addressed : arena.limit < 2 ^ 64)
    (loaded : loadSafetensors file capacity arena memory = pure (.ok loading)) :
    ∃ n, safetensorsWeightBytes file = pure n ∧ n.toNat = loadedBytes loading.views := by
  have start : Weighed arena { arena, memory, tracker } { tracker } :=
    ⟨⟨rfl, ⟨[], passes.tracks⟩, rfl⟩, Nat.le_refl _, rfl⟩
  obtain ⟨done, weighing, weighed, known⟩ := passes.calls_of_load loaded
    (fun _ => Weighed arena) start fun _ _ _ _ known => known.step addressed
  refine ⟨weighing.total, ?_, known.balanced.total⟩
  rw [passes.weigh, weighed, pure_bind, done]
  rfl

theorem FilePasses.inspect_of_load (passes : FilePasses file weights tracker calls ok)
    (bounded : storedBytes (supported calls) < 2 ^ 64)
    (loaded : loadSafetensors file capacity arena memory = pure (.ok loading)) {room : Nat}
    (enough : (supported calls).length ≤ room) :
    ∃ inspection, inspectSafetensors file room = pure (.ok inspection) ∧
      Mirrored (supported calls).length (storedBytes (supported calls)) [] loading inspection := by
  have start : Mirrored (supported calls).length (storedBytes (supported calls)) calls
      { arena, memory, tracker } { tracker } :=
    ⟨⟨rfl, ⟨[], passes.tracks⟩, rfl⟩, rfl, Nat.zero_add _, Nat.zero_add _⟩
  obtain ⟨done, inspection, inspected, known⟩ := passes.calls_of_load loaded
    (Mirrored (supported calls).length (storedBytes (supported calls))) start
    fun _ _ _ _ known => known.step enough bounded
  refine ⟨inspection, ?_, known⟩
  rw [passes.inspect, inspected, pure_bind, done]
  rfl

end Agreement

/-- **The passes over a checkpoint agree.** If `safetensors_weight_bytes` gives a positive number
of bytes, the loader succeeds in the storage that `ModelWeights` allocates for them, wherever it
lies: there is room for the padding of as many tensors as the range tracker takes. The tensors
have that many bytes in total, and an inspection with a slot for each of them reports the same
tensors and the same total. In the other direction, the bytes of the tensors that are loaded into
some arena are those that `safetensors_weight_bytes` gives. -/
theorem passes_agree (file : MappedFile) (memory : Nat → UInt8) :
    let weighed := ((safetensorsWeightBytes file).run false).1
    (∀ base, 0 < base → 0 < weighed → ∃ loading,
      ((loadSafetensors file maxTensors (modelWeightsArena base weighed.toNat) memory).run
        false).1 = .ok loading ∧
      loadedBytes loading.views = weighed.toNat ∧
      ∀ room, loading.views.length ≤ room → ∃ inspection,
        ((inspectSafetensors file room).run false).1 = .ok inspection ∧
        inspection.tensors = loading.views.map TensorView.metadata ∧
        inspection.totalBytes = weighed) ∧
    ∀ capacity arena loading, arena.limit < 2 ^ 64 →
      ((loadSafetensors file capacity arena memory).run false).1 = .ok loading →
      loadedBytes loading.views = weighed.toNat := by
  intro weighed
  rcases passes_cases file with
    ⟨unweighed, message, refused⟩ | ⟨weights, tracker, calls, ok, passes⟩
  · have none : weighed = 0 := congrArg (fun program => (program.run false).1) unweighed
    refine ⟨fun base _ positive => ?_, fun capacity arena loading _ loaded => ?_⟩
    · rw [none] at positive
      exact absurd positive (by decide)
    · rw [refused] at loaded
      cases loaded
  · refine ⟨fun base placed positive => ?_, fun capacity arena loading addressed loaded => ?_⟩
    · obtain ⟨n, same, load⟩ := passes.load_of_weigh placed memory
      have value : weighed = n := congrArg (fun program => (program.run false).1) same
      rw [value] at positive ⊢
      obtain ⟨loading, loaded, bytes, total⟩ := load positive
      have bounded : storedBytes (supported calls) < 2 ^ 64 := total ▸ n.toNat_lt
      refine ⟨loading, by rw [loaded]; rfl, bytes, fun room enough => ?_⟩
      obtain ⟨_, _, all⟩ := passes.inspect_of_load bounded loaded (Nat.le_refl _)
      have count : loading.views.length = (supported calls).length := all.count
      obtain ⟨inspection, inspected, known⟩ :=
        passes.inspect_of_load bounded loaded (count ▸ enough)
      refine ⟨inspection, by rw [inspected]; rfl, known.tensors, ?_⟩
      exact UInt64.toNat_inj.mp (known.balanced.total.trans bytes)
    · obtain ⟨result, same, -⟩ := exact_loadSafetensors file capacity arena memory
      rw [same] at loaded
      change result = .ok loading at loaded
      rw [loaded] at same
      obtain ⟨n, weighs, bytes⟩ := passes.weigh_of_load addressed same
      have value : weighed = n := congrArg (fun program => (program.run false).1) weighs
      rw [value, bytes]

/-- The tensors `a`, of type `F32` with one element, and `b`, of type `BF16` with three. -/
private def pairFile : MappedFile where
  bytes := [109, 0, 0, 0, 0, 0, 0, 0] ++
    ("\x7b\"a\":\x7b\"dtype\":\"F32\",\"shape\":[1],\"data_offsets\":[0,4]\x7d,".toList ++
      "\"b\":\x7b\"dtype\":\"BF16\",\"shape\":[3],\"data_offsets\":[4,10]\x7d\x7d".toList).map
        (fun c => UInt8.ofNat c.toNat) ++
    List.replicate 10 1
  small := by decide +kernel

private theorem weightBytes_pairFile : ((safetensorsWeightBytes pairFile).run false).1 = 10 := by
  decide +kernel

/-- The storage for two tensors of four and six bytes, at an address that is not aligned. -/
theorem passes_agree_pair :
    (∃ loading,
      ((loadSafetensors pairFile maxTensors (modelWeightsArena 1001 10) fun _ => 0).run
        false).1 = .ok loading ∧
      loadedBytes loading.views = 10 ∧
      ∀ room, loading.views.length ≤ room → ∃ inspection,
        ((inspectSafetensors pairFile room).run false).1 = .ok inspection ∧
        inspection.tensors = loading.views.map TensorView.metadata ∧
        inspection.totalBytes = 10) ∧
    ∃ loading,
      ((loadSafetensors pairFile 2 { cursor := 64, limit := 134 } fun _ => 0).run false).1 =
        .ok loading ∧
      loadedBytes loading.views = 10 := by
  obtain ⟨provided, balanced⟩ := passes_agree pairFile fun _ => 0
  rw [weightBytes_pairFile] at provided balanced
  refine ⟨provided 1001 (by decide) (by decide), ?_⟩
  cases loaded : ((loadSafetensors pairFile 2 { cursor := 64, limit := 134 } fun _ => 0).run
      false).1 with
  | ok loading => exact ⟨loading, rfl, balanced 2 _ loading (by decide) loaded⟩
  | error message =>
      have succeeds : ((loadSafetensors pairFile 2 { cursor := 64, limit := 134 } fun _ => 0).run
          false).1.toBool = true := by decide +kernel
      rw [loaded] at succeeds
      cases succeeds

end FlowEdge
