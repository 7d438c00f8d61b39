import FlowEdge.Foundation.Bytes
import FlowEdge.Foundation.JsonText
import FlowEdge.Foundation.TrackedWords
import FlowEdge.Runtime.Arena

/-!
# The safetensors loader

The hand-written scanner of `safetensors.cc` over the bytes of a header, and what the loader
does with the tensors that it finds. A pointer into the header is the part of the header from
there on. The 64-bit arithmetic on values of the header is tracked for wrap-around.
-/

namespace FlowEdge

open Bytes TrackedWords JsonText

/-! ## Names -/

/-- `__metadata__` -/
def metadataName : List UInt8 := [95, 95, 109, 101, 116, 97, 100, 97, 116, 97, 95, 95]

/-- `BF16` -/
def bf16Name : List UInt8 := [66, 70, 49, 54]

/-- `F32` -/
def f32Name : List UInt8 := [70, 51, 50]

/-- `shape` -/
def shapeName : List UInt8 := [115, 104, 97, 112, 101]

/-- `data_offsets` -/
def dataOffsetsName : List UInt8 := [100, 97, 116, 97, 95, 111, 102, 102, 115, 101, 116, 115]

/-! ## Searching -/

/-- The text from the first occurrence of a pattern on, as `find` locates it. -/
def find (pattern : List UInt8) : List UInt8 → Option (List UInt8)
  | [] => if pattern = [] then some [] else none
  | c :: rest => if pattern.isPrefixOf (c :: rest) then some (c :: rest) else find pattern rest

def contains (text pattern : List UInt8) : Bool := (find pattern text).isSome

/-- `after_colon`: the text behind the first colon after the first occurrence of a key. -/
def afterColon (json key : List UInt8) : List UInt8 :=
  match find key json with
  | none => []
  | some fromKey =>
      match find [colon] (fromKey.drop key.length) with
      | none => []
      | some fromColon => fromColon.drop 1

/-! ## Numbers -/

/-- One more digit of a number, or `none` if the number does not fit. -/
def appendDigit (value : UInt64) (c : UInt8) : Tracked (Option UInt64) := do
  let digit := (c - zero).toUInt64
  let room ← TrackedWords.sub (UInt64.ofNat maxSize) digit
  if value > room / 10 then return none
  else
    let scaled ← TrackedWords.mul value 10
    return some (← TrackedWords.add scaled digit)

/-- `out[count] = v` where there is room. -/
def storeNumber (capacity count : Nat) (out : List UInt64) (value : UInt64) : List UInt64 :=
  if count < capacity then out ++ [value] else out

/-- `parse_u64s`: the numbers up to the closing bracket. It counts them all and stores those for
which there is room. `number` is the number whose digits are being read. -/
def parseU64s (capacity : Nat) :
    List UInt8 → Option UInt64 → Nat → List UInt64 → Tracked (Option (Nat × List UInt64))
  | [], _, _, _ => return none
  | c :: rest, none, count, out =>
      if isDigit c then do
        match ← appendDigit 0 c with
        | none => return none
        | some value => parseU64s capacity rest (some value) count out
      else if c = closeBracket then return some (count, out)
      else parseU64s capacity rest none count out
  | c :: rest, some value, count, out =>
      if isDigit c then do
        match ← appendDigit value c with
        | none => return none
        | some value => parseU64s capacity rest (some value) count out
      else
        let out := storeNumber capacity count out value
        if c = closeBracket then return some (count + 1, out)
        else parseU64s capacity rest none (count + 1) out

/-! ## Tensors -/

/-- A part of the header that is passed on as a view. -/
structure NameView where
  start : Nat
  text : List UInt8
  deriving DecidableEq

/-- The arguments of the callback of `foreach_tensor`. -/
structure TensorEntry where
  name : NameView
  offset : UInt64 := 0
  length : UInt64 := 0
  shape : List UInt64 := []
  ndim : Nat := 0
  bf16 : Bool := false
  supported : Bool := false
  deriving DecidableEq

/-- What `foreach_tensor` makes of the object of a tensor, or `none` if it gives up. -/
def tensorEntry (name : NameView) (object : List UInt8) : Tracked (Option TensorEntry) :=
  let bf16 := contains object (quoted bf16Name)
  let f32 := contains object (quoted f32Name)
  if ¬ bf16 ∧ ¬ f32 then return some { name }
  else do
    match ← parseU64s 4 (afterColon object (quoted shapeName)) none 0 [] with
    | none => return none
    | some (shapeCount, shape) =>
        if shapeCount > 4 then return none
        else
          match ← parseU64s 2 (afterColon object (quoted dataOffsetsName)) none 0 [] with
          | none => return none
          | some (offsetCount, offsets) =>
              if offsetCount ≠ 2 ∨ offsets.getD 1 0 < offsets.getD 0 0 then return none
              else
                let length ← TrackedWords.sub (offsets.getD 1 0) (offsets.getD 0 0)
                return some {
                  name, offset := offsets.getD 0 0, length, shape, ndim := shapeCount, bf16
                  supported := true }

/-- The loop of `foreach_tensor` that the pointer is in. -/
inductive ScanPhase where
  /-- Looking for the brace that opens the root object. -/
  | root
  /-- Looking for the quote that opens a name, or the brace that closes the root object. -/
  | member
  | name (start : Nat) (text : List UInt8)
  /-- Looking for the brace that opens the object of a member. -/
  | object (name : NameView)
  /-- Inside an object, with the braces that are open. Header lengths at which the count would
  exceed an `int` are not considered. -/
  | body (name : NameView) (depth : Nat) (text : List UInt8)
  deriving DecidableEq

def braceDepth (depth : Nat) (c : UInt8) : Nat :=
  if c = openBrace then depth + 1 else if c = closeBrace then depth - 1 else depth

section Scan

variable {σ : Type} (callback : TensorEntry → σ → Tracked (Bool × σ))

/-- `foreach_tensor`, from a position of the header on. -/
def scanTensors : List UInt8 → Nat → ScanPhase → σ → Tracked (Bool × σ)
  | [], _, _, state => return (false, state)
  | c :: rest, position, .root, state =>
      scanTensors rest (position + 1) (if c = openBrace then .member else .root) state
  | c :: rest, position, .member, state =>
      if c = quote then scanTensors rest (position + 1) (.name (position + 1) []) state
      else if c = closeBrace then return (true, state)
      else scanTensors rest (position + 1) .member state
  | c :: rest, position, .name start text, state =>
      scanTensors rest (position + 1)
        (if c = quote then .object ⟨start, text⟩ else .name start (text ++ [c])) state
  | c :: rest, position, .object name, state =>
      if c = openBrace then scanTensors rest (position + 1) (.body name 1 [c]) state
      else if c = closeBrace then return (false, state)
      else scanTensors rest (position + 1) (.object name) state
  | c :: rest, position, .body name depth text, state =>
      if braceDepth depth c ≠ 0 then
        scanTensors rest (position + 1) (.body name (braceDepth depth c) (text ++ [c])) state
      else if name.text = metadataName then scanTensors rest (position + 1) .member state
      else do
        match ← tensorEntry name (text ++ [c]) with
        | none => return (false, state)
        | some entry =>
            match ← callback entry state with
            | (false, state) => return (false, state)
            | (true, state) => scanTensors rest (position + 1) .member state

/-- `foreach_tensor`: call the callback for each tensor of the header. -/
def foreachTensor (json : List UInt8) (state : σ) : Tracked (Bool × σ) :=
  scanTensors callback json 0 .root state

end Scan

/-! ## Loading -/

/-- The content of a file. Its size is a `std::size_t`. -/
structure MappedFile where
  bytes : List UInt8
  small : bytes.length < 2 ^ 64

/-- `header_json`: the header of a file. -/
def headerJson (file : MappedFile) : Tracked (Except String (List UInt8)) :=
  if file.bytes.length < 8 then return .error "File too small"
  else do
    let headerLength := UInt64.ofNat (leValue (file.bytes.take 8))
    let room ← TrackedWords.sub (UInt64.ofNat file.bytes.length) 8
    if headerLength > room then return .error "Invalid header length"
    else return .ok ((file.bytes.drop 8).take headerLength.toNat)

/-- `TensorSpanTracker`: the begin and the end of each range so far. -/
structure TensorSpanTracker where
  dataSize : UInt64
  spans : List (UInt64 × UInt64) := []

def maxSpans : Nat := 1024

/-- `add`, which gives no tracker if it returns false. -/
def TensorSpanTracker.add (tracker : TensorSpanTracker) (offset length : UInt64) :
    Tracked (Option TensorSpanTracker) :=
  if offset > tracker.dataSize then return none
  else do
    let room ← TrackedWords.sub tracker.dataSize offset
    if length > room ∨ tracker.spans.length = maxSpans then return none
    else
      let last ← TrackedWords.add offset length
      if tracker.spans.any fun span => offset < span.2 ∧ span.1 < last then return none
      else return some { tracker with spans := tracker.spans ++ [(offset, last)] }

/-- The loop of `valid_tensor_shape` over the dimensions. -/
def countElements (elements : UInt64) : List UInt64 → Tracked (Option UInt64)
  | [] => return some elements
  | dimension :: rest =>
      if dimension ≠ 0 ∧ elements > UInt64.ofNat maxSize / dimension then return none
      else do countElements (← TrackedWords.mul elements dimension) rest

def elementBytes (bf16 : Bool) : UInt64 := if bf16 then 2 else 4

/-- `valid_tensor_shape`: the bytes of a tensor are those that its shape needs. -/
def validTensorShape (entry : TensorEntry) : Tracked Bool := do
  match ← countElements 1 (entry.shape.take entry.ndim) with
  | none => return false
  | some elements =>
      if elements > UInt64.ofNat maxSize / elementBytes entry.bf16 then return false
      else return (← TrackedWords.mul elements (elementBytes entry.bf16)) = entry.length

inductive Dtype where
  | f32
  | bf16
  deriving DecidableEq

structure TensorView where
  data : Nat
  bytes : UInt64
  dtype : Dtype
  ndim : Nat
  shape : List UInt64
  name : List UInt8
  deriving DecidableEq

def viewNameBytes : Nat := 128

/-- What the loader changes. -/
structure Loading where
  arena : Arena
  memory : Nat → UInt8
  tracker : TensorSpanTracker
  views : List TensorView := []

def copyBytes (memory : Nat → UInt8) (target : Nat) (source : List UInt8) : Nat → UInt8 :=
  fun address =>
    if target ≤ address then (source[address - target]?).getD (memory address) else memory address

/-- The callback of `load_safetensors`, with the data section and the room for views. -/
def loadTensor (weights : List UInt8) (capacity : Nat) (entry : TensorEntry) (loading : Loading) :
    Tracked (Bool × Loading) :=
  if entry.supported = false then return (true, loading)
  else if loading.views.length ≥ capacity then return (false, loading)
  else do
    match ← loading.tracker.add entry.offset entry.length with
    | none => return (false, loading)
    | some tracker =>
        let loading := { loading with tracker }
        if (← validTensorShape entry) = false then return (false, loading)
        else
          match loading.arena.allocArray 1 simdAlign entry.length.toNat with
          | none => return (false, loading)
          | some (start, arena) =>
              let source := (weights.drop entry.offset.toNat).take entry.length.toNat
              let view : TensorView :=
                { data := start
                  bytes := entry.length
                  dtype := if entry.bf16 then .bf16 else .f32
                  ndim := entry.ndim
                  shape := entry.shape.take entry.ndim
                  name := entry.name.text.take (viewNameBytes - 1) }
              return (true, { loading with
                arena
                memory := copyBytes loading.memory start source
                views := loading.views ++ [view] })

def iterationError : String := "Failed during tensor iteration or out of bounds"

/-- `load_safetensors`, for a file that could be mapped. -/
def loadSafetensors (file : MappedFile) (capacity : Nat) (arena : Arena) (memory : Nat → UInt8) :
    Tracked (Except String Loading) := do
  match ← headerJson file with
  | .error message => return .error message
  | .ok json =>
      let behindLength ← TrackedWords.sub (UInt64.ofNat file.bytes.length) 8
      let dataSize ← TrackedWords.sub behindLength (UInt64.ofNat json.length)
      let weights := file.bytes.drop (8 + json.length)
      let (ok, loading) ← foreachTensor (loadTensor weights capacity) json
        { arena, memory, tracker := { dataSize } }
      if ok = false ∨ loading.views.length = 0 then return .error iterationError
      else return .ok loading

/-! ## Sizes and inspection -/

/-- The three conditions of `safetensors_weight_bytes` and of `inspect_safetensors` on a supported
tensor, with the bytes of the tensors before it. -/
def admitTensor (entry : TensorEntry) (tracker : TensorSpanTracker) (total : UInt64) :
    Tracked (Option TensorSpanTracker) := do
  match ← tracker.add entry.offset entry.length with
  | none => return none
  | some tracker =>
      if (← validTensorShape entry) = false then return none
      else if entry.length > (← TrackedWords.sub (UInt64.ofNat maxSize) total) then return none
      else return some tracker

/-- What `safetensors_weight_bytes` changes. -/
structure Weighing where
  tracker : TensorSpanTracker
  total : UInt64 := 0

/-- The callback of `safetensors_weight_bytes`. -/
def weighTensor (entry : TensorEntry) (weighing : Weighing) : Tracked (Bool × Weighing) :=
  if entry.supported = false then return (true, weighing)
  else do
    match ← admitTensor entry weighing.tracker weighing.total with
    | none => return (false, weighing)
    | some tracker =>
        return (true, { tracker, total := ← TrackedWords.add weighing.total entry.length })

/-- `safetensors_weight_bytes`, for a file that could be mapped. -/
def safetensorsWeightBytes (file : MappedFile) : Tracked UInt64 := do
  match ← headerJson file with
  | .error _ => return 0
  | .ok json =>
      let behindLength ← TrackedWords.sub (UInt64.ofNat file.bytes.length) 8
      let dataSize ← TrackedWords.sub behindLength (UInt64.ofNat json.length)
      let (ok, weighing) ← foreachTensor weighTensor json { tracker := { dataSize } }
      if ok then return weighing.total else return 0

/-- `TensorMetadata` -/
structure TensorMetadata where
  bytes : UInt64
  dtype : Dtype
  ndim : Nat
  shape : List UInt64
  name : List UInt8
  deriving DecidableEq

/-- What `inspect_safetensors` changes. -/
structure Inspection where
  tracker : TensorSpanTracker
  tensors : List TensorMetadata := []
  totalBytes : UInt64 := 0
  unsupportedTensors : Nat := 0

/-- The callback of `inspect_safetensors`, with the room for the metadata. -/
def inspectTensor (capacity : Nat) (entry : TensorEntry) (inspection : Inspection) :
    Tracked (Bool × Inspection) :=
  if entry.supported = false then
    return (true, { inspection with unsupportedTensors := inspection.unsupportedTensors + 1 })
  else do
    match ← admitTensor entry inspection.tracker inspection.totalBytes with
    | none => return (false, inspection)
    | some tracker =>
        let inspection := { inspection with tracker }
        if inspection.tensors.length ≥ capacity then return (false, inspection)
        else
          let metadata : TensorMetadata :=
            { bytes := entry.length
              dtype := if entry.bf16 then .bf16 else .f32
              ndim := entry.ndim
              shape := entry.shape.take entry.ndim
              name := entry.name.text.take (viewNameBytes - 1) }
          return (true, { inspection with
            tensors := inspection.tensors ++ [metadata]
            totalBytes := ← TrackedWords.add inspection.totalBytes metadata.bytes })

def inspectionError : String :=
  "Failed during tensor inspection or output capacity was exceeded"

/-- `inspect_safetensors`, for a file that could be mapped. -/
def inspectSafetensors (file : MappedFile) (capacity : Nat) :
    Tracked (Except String Inspection) := do
  match ← headerJson file with
  | .error message => return .error message
  | .ok json =>
      let behindLength ← TrackedWords.sub (UInt64.ofNat file.bytes.length) 8
      let dataSize ← TrackedWords.sub behindLength (UInt64.ofNat json.length)
      let (ok, inspection) ← foreachTensor (inspectTensor capacity) json { tracker := { dataSize } }
      if ok then return .ok inspection else return .error inspectionError

/-- `kMaxTensors` of `ModelWeights` -/
def maxTensors : Nat := 1024

/-- The arena over the storage that `ModelWeights` allocates, which begins at `base`. -/
def modelWeightsArena (base weightBytes : Nat) : Arena :=
  { cursor := base, limit := base + (weightBytes + maxTensors * (simdAlign - 1)) }

/-! ## Metadata -/

/-- The position of the quote before the first occurrence of a key between two quotes, from a
position of the text on; `before` is the character before that position. -/
def quotedKeyFrom (key : List UInt8) (position : Nat) (before : Option UInt8) :
    List UInt8 → Option Nat
  | [] => none
  | c :: rest =>
      if key.isPrefixOf (c :: rest) ∧ before = some quote ∧
          ((c :: rest).drop key.length).head? = some quote then
        some (position - 1)
      else quotedKeyFrom key (position + 1) (some c) rest

def quotedKeyPos (json key : List UInt8) : Option Nat := quotedKeyFrom key 0 none json

/-- The loop of `object_value`: the text up to the brace that closes the object. Whether a quote
begins or ends a string is decided by the character before it. -/
def matchObject (depth : Nat) (inString : Bool) (before : UInt8) : List UInt8 → Option (List UInt8)
  | [] => none
  | c :: rest =>
      let inString := if c = quote ∧ before ≠ backslash then !inString else inString
      if inString then (matchObject depth inString c rest).map (c :: ·)
      else if c = closeBrace ∧ depth - 1 = 0 then some [c]
      else (matchObject (braceDepth depth c) inString c rest).map (c :: ·)

/-- `object_value`, which is empty if there is none. -/
def objectValue (json key : List UInt8) : List UInt8 :=
  match quotedKeyPos json key with
  | none => []
  | some keyPosition =>
      match find [colon] (json.drop (keyPosition + key.length + 2)) with
      | none => []
      | some fromColon =>
          match find [openBrace] (fromColon.drop 1) with
          | none => []
          | some fromBrace => (matchObject 0 false 0 fromBrace).getD []

/-- `MetadataString` -/
inductive MetadataString where
  | absent
  | invalid
  | valid (value : List UInt8)
  deriving DecidableEq

/-- The text up to the first quote without a backslash before it. -/
def takeString (before : UInt8) : List UInt8 → Option (List UInt8)
  | [] => none
  | c :: rest =>
      if c = quote ∧ before ≠ backslash then some [] else (takeString c rest).map (c :: ·)

/-- `metadata_string_value`: the text between the quotes, not decoded. -/
def metadataStringValue (object key : List UInt8) : MetadataString :=
  match quotedKeyPos object key with
  | none => .absent
  | some keyPosition =>
      match find [colon] (object.drop (keyPosition + key.length + 2)) with
      | none => .invalid
      | some fromColon =>
          match (fromColon.drop 1).dropWhile isSpace with
          | [] => .invalid
          | c :: rest =>
              if c ≠ quote then .invalid
              else
                match takeString c rest with
                | none => .invalid
                | some value => .valid value

/-- The character that a simple escape stands for. -/
def unescapeCharacter (c : UInt8) : Option UInt8 :=
  if c = quote then some quote
  else if c = backslash then some backslash
  else if c = slash then some slash
  else if c = 98 then some 8
  else if c = 102 then some 12
  else if c = 110 then some newline
  else if c = 114 then some carriageReturn
  else if c = 116 then some tab
  else none

/-- `unescape_json_string`: decode the short escapes. -/
def unescapeJsonString : List UInt8 → Except String (List UInt8)
  | [] => .ok []
  | c :: rest =>
      if c ≠ backslash then (unescapeJsonString rest).map (c :: ·)
      else
        match rest with
        | [] => .error "Invalid escaped metadata string"
        | escape :: rest =>
            match unescapeCharacter escape with
            | none => .error "Unsupported escaped metadata string"
            | some character => (unescapeJsonString rest).map (character :: ·)

/-- `safetensors_metadata_value`, for the header of a file. -/
def safetensorsMetadataValue (json key : List UInt8) : Except String (Option (List UInt8)) :=
  match objectValue json metadataName with
  | [] => .ok none
  | metadata =>
      match metadataStringValue metadata key with
      | .absent => .ok none
      | .invalid => .error "Invalid safetensors metadata value"
      | .valid encoded => (unescapeJsonString encoded).map some

end FlowEdge
