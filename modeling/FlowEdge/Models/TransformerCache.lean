import Mathlib.Data.List.GetD
import FlowEdge.Models.Kernels
import FlowEdge.Models.Transformer

/-!
# The caches of the Transformer

What the functions of the Transformer compute, over any numbers, where its memory suffices: the
memory is the subject of `FlowEdge.Models.Transformer`. The caches keep the keys and values of the
tokens since the last reset. What they are for is said by a decoder without caches, which keeps its
inputs and computes all rows again for every token.
-/

namespace FlowEdge.Transformer

open Kernels

variable {R S T α : Type}

/-- The weights of a layer, as they are read. -/
structure Layer (R : Type) where
  (ln1Weight ln1Bias qkvBias attentionOutBias ln2Weight ln2Bias mlpInBias mlpOutBias : Row R)
  (qkv attentionOut mlpIn mlpOut : Nat → Row R)

/-- The caches of a layer, a row for each position. -/
structure Cache (R : Type) where
  (keys values : Nat → Row R)

/-- A row on its way through the layers, and the attention mask that came with it. -/
structure Item (R : Type) where
  row : Row R
  mask : List UInt8

structure Decoder (R : Type) where
  cfg : TransformerConfig
  functions : Functions R
  layers : List (Layer R)
  (tokenEmbedding positionEmbedding : Nat → Row R)
  (finalNormWeight finalNormBias : Row R)

/-- What the calls keep, seen through the two functions that change it. -/
structure Store (R S : Type) where
  reset : S → S
  /-- `decode_embedding`, behind the checks of the sizes. -/
  decode : Item R → S → Option (Row R) × S

inductive Call (R : Type) where
  | reset
  | decodeEmbedding (embedding : List R) (mask : List UInt8) (outputSize : Nat)
  | decodeToken (token : Int) (outputSize : Nat)
  | forwardTokens (tokens : List Int) (outputSize : Nat)
  | forwardEmbeddings (embeddings : List R) (mask : List UInt8) (outputSize : Nat)

/-- The check of a mask: ones, at least one, and then zeros. -/
def checkMask : List UInt8 → (seenPadding hasValidToken : Bool) → Bool
  | [], _, hasValidToken => hasValidToken
  | value :: mask, seenPadding, hasValidToken =>
      if value > 1 then false
      else if value = 0 then checkMask mask true hasValidToken
      else if seenPadding then false
      else checkMask mask seenPadding true

/-- The loops of `forward_tokens` and `forward_embeddings`: the rows that are written until a call
fails, and whether none does. -/
def decodeEach (call : α → S → Option (Row R) × S) : List α → S → (List (Row R) × Bool) × S
  | [], state => (([], true), state)
  | item :: items, state =>
      let here := call item state
      match here.1 with
      | none => (([], false), here.2)
      | some row =>
          let rest := decodeEach call items here.2
          ((row :: rest.1.1, rest.1.2), rest.2)

namespace Decoder

variable [Zero R] [Add R] [Sub R] [Mul R] (m : Decoder R) (lw : Layer R)

/-! ## Layers -/

def qkv (hidden : Row R) : Row R :=
  let normed := layerNorm m.functions lw.ln1Weight lw.ln1Bias m.cfg.dModel hidden
  fun i => matmul lw.qkv m.cfg.dModel normed i + lw.qkvBias i

def key (hidden : Row R) : Row R := fun c => m.qkv lw hidden (m.cfg.dModel + c)

def value (hidden : Row R) : Row R := fun c => m.qkv lw hidden (2 * m.cfg.dModel + c)

/-- A layer for one row, over given keys and values. -/
def attend (keys values : Nat → Row R) (position : Nat) (item : Item R) : Item R :=
  let attended := cachedCausalAttention m.functions (m.qkv lw item.row) keys values item.mask
    m.cfg.nHeads m.cfg.dModel position
  let projected : Row R := fun i =>
    matmul lw.attentionOut m.cfg.dModel attended i + lw.attentionOutBias i
  let hidden : Row R := fun i => item.row i + projected i
  let normed := layerNorm m.functions lw.ln2Weight lw.ln2Bias m.cfg.dModel hidden
  let mlpHidden : Row R := fun i =>
    m.functions.gelu (matmul lw.mlpIn m.cfg.dModel normed i + lw.mlpInBias i)
  let mlpOutput : Row R := fun i => matmul lw.mlpOut m.cfg.mlpDim mlpHidden i + lw.mlpOutBias i
  ⟨fun i => hidden i + mlpOutput i, item.mask⟩

def decodeLayer (position : Nat) (item : Item R) (cache : Cache R) : Item R × Cache R :=
  let keys := Function.update cache.keys position (m.key lw item.row)
  let values := Function.update cache.values position (m.value lw item.row)
  (m.attend lw keys values position item, ⟨keys, values⟩)

def rowAt (items : List (Item R)) (token : Nat) : Row R := (items.getD token ⟨0, []⟩).row

/-- A layer without caches. -/
def recomputeLayer (items : List (Item R)) : List (Item R) :=
  items.mapIdx (m.attend lw (fun token => m.key lw (rowAt items token))
    fun token => m.value lw (rowAt items token))

/-! ## Tokens -/

/-- An embedding and that of its position. -/
def entered (position : Nat) (item : Item R) : Item R :=
  ⟨fun i => item.row i + m.positionEmbedding position i, item.mask⟩

def normalized (item : Item R) : Row R :=
  layerNorm m.functions m.finalNormWeight m.finalNormBias m.cfg.dModel item.row

/-- The row of `decode_embedding` at a position, and the caches behind it. -/
def decodeAt (position : Nat) (item : Item R) (caches : List (Cache R)) :
    Row R × List (Cache R) :=
  let hidden := through (fun lw => m.decodeLayer lw position) m.layers (m.entered position item)
    caches
  (m.normalized hidden.1, hidden.2)

/-- The rows of a sequence, without caches. -/
def recompute (items : List (Item R)) : List (Row R) :=
  (m.layers.foldl (fun items lw => m.recomputeLayer lw items) (items.mapIdx m.entered)).map
    m.normalized

/-- The state that `reset` leaves: the caches and `position_`. -/
def cleared : List (Cache R) × Nat := (m.layers.map fun _ => ⟨0, 0⟩, 0)

/-- The decoder of the source, which keeps the keys and the values. -/
def cached : Store R (List (Cache R) × Nat) where
  reset _ := m.cleared
  decode item state :=
    if m.cfg.maxSequence ≤ state.2 then (none, state)
    else
      let out := m.decodeAt state.2 item state.1
      (some out.1, out.2, state.2 + 1)

/-- The decoder without caches. -/
def recomputing : Store R (List (Item R)) where
  reset _ := []
  decode item items :=
    if m.cfg.maxSequence ≤ items.length then (none, items)
    else ((m.recompute (items ++ [item])).getLast?, items ++ [item])

/-! ## Calls -/

section Calls

variable (store : Store R S)

def decodeEmbedding (embedding : List R) (mask : List UInt8) (outputSize : Nat) (state : S) :
    Option (Row R) × S :=
  if embedding.length ≠ m.cfg.dModel ∨ outputSize ≠ m.cfg.dModel then (none, state)
  else store.decode ⟨fun i => embedding.getD i 0, mask⟩ state

def decodeToken (token : Int) (outputSize : Nat) (state : S) : Option (Row R) × S :=
  if token < 0 ∨ m.cfg.vocab ≤ token.toNat then (none, state)
  else m.decodeEmbedding store ((List.range m.cfg.dModel).map (m.tokenEmbedding token.toNat)) []
    outputSize state

def forwardTokens (tokens : List Int) (outputSize : Nat) (state : S) :
    (List (Row R) × Bool) × S :=
  if tokens = [] ∨ m.cfg.maxSequence < tokens.length ∨
      outputSize ≠ tokens.length * m.cfg.dModel then (([], false), state)
  else decodeEach (fun token => m.decodeToken store token m.cfg.dModel) tokens (store.reset state)

def forwardEmbeddings (embeddings : List R) (mask : List UInt8) (outputSize : Nat) (state : S) :
    (List (Row R) × Bool) × S :=
  let sequence := embeddings.length / m.cfg.dModel
  if embeddings = [] ∨ embeddings.length % m.cfg.dModel ≠ 0 ∨ outputSize ≠ embeddings.length ∨
      m.cfg.maxSequence < sequence ∨
      (mask ≠ [] ∧ (mask.length ≠ sequence ∨ checkMask mask false false = false)) then
    (([], false), state)
  else
    let embedding := fun index => (embeddings.drop (index * m.cfg.dModel)).take m.cfg.dModel
    decodeEach (fun index => m.decodeEmbedding store (embedding index) mask m.cfg.dModel)
      (List.range sequence) (store.reset state)

/-- A call on the decoder: the rows that it writes, whether it succeeds, and what it leaves. -/
def call : Call R → S → (List (Row R) × Bool) × S
  | .reset, state => (([], true), store.reset state)
  | .decodeEmbedding embedding mask outputSize, state =>
      decodeEach (fun _ => m.decodeEmbedding store embedding mask outputSize) [()] state
  | .decodeToken token outputSize, state =>
      decodeEach (fun _ => m.decodeToken store token outputSize) [()] state
  | .forwardTokens tokens outputSize, state => m.forwardTokens store tokens outputSize state
  | .forwardEmbeddings embeddings mask outputSize, state =>
      m.forwardEmbeddings store embeddings mask outputSize state

end Calls

/-! ## The caches agree -/

/-- The caches of a layer that has seen some rows. What lies behind them may be anything. -/
def Behind (items : List (Item R)) (cache : Cache R) : Prop :=
  ∀ token < items.length, cache.keys token = m.key lw (rowAt items token) ∧
    cache.values token = m.value lw (rowAt items token)

/-- A row of a layer depends on the keys, the values and the mask up to it. -/
theorem attend_congr {keys keys' values values' : Nat → Row R} {position : Nat} {row : Row R}
    {mask mask' : List UInt8} (same : ∀ token ≤ position, keys token = keys' token ∧
      values token = values' token ∧ masked mask token = masked mask' token) :
    m.attend lw keys values position ⟨row, mask⟩ =
      ⟨(m.attend lw keys' values' position ⟨row, mask'⟩).row, mask⟩ := by
  simp only [attend]
  rw [cachedCausalAttention_congr m.functions same]

theorem behind_decodeLayer {items : List (Item R)} {cache : Cache R}
    (behind : m.Behind lw items cache) (item : Item R) :
    m.Behind lw (items ++ [item]) (m.decodeLayer lw items.length item cache).2 := by
  intro token inside
  simp only [decodeLayer, rowAt]
  rw [List.length_append, List.length_singleton] at inside
  by_cases last : token = items.length
  · rw [last, Function.update_self, Function.update_self,
      List.getD_append_right _ _ _ _ (Nat.le_refl _), Nat.sub_self]
    exact ⟨rfl, rfl⟩
  · rw [Function.update_of_ne last, Function.update_of_ne last,
      List.getD_append _ _ _ _ (by omega)]
    exact behind token (by omega)

/-- `decode_layer` streams the layer without caches. -/
theorem streams_layer : Streams (m.recomputeLayer lw) (m.decodeLayer lw) (m.Behind lw) where
  length items := List.length_mapIdx
  next items item cache behind := m.behind_decodeLayer lw behind item
  output items item cache behind := by
    have after := m.behind_decodeLayer lw behind item
    simp only [recomputeLayer]
    rw [List.mapIdx_concat]
    congr 1
    · refine List.mapIdx_eq_mapIdx_iff.mpr fun position inside => ?_
      refine m.attend_congr lw fun token upTo => ?_
      rw [rowAt, List.getD_append _ _ _ _ (by omega)]
      exact ⟨rfl, rfl, rfl⟩
    · refine congrArg (fun row => [row]) (m.attend_congr lw fun token upTo => ?_)
      obtain ⟨key, value⟩ := after token (by simp; omega)
      exact ⟨key.symm, value.symm, rfl⟩

/-- The caches behind the tokens since the last reset. -/
def Cached (items : List (Item R)) : List (Cache R) → Prop :=
  Stacked m.recomputeLayer m.Behind m.layers (items.mapIdx m.entered)

theorem streams_recompute : Streams m.recompute m.decodeAt m.Cached :=
  ((Streams.stack m.streams_layer m.layers).map m.normalized).comap m.entered

theorem cached_cleared : m.Cached [] m.cleared.1 := by
  have stacked : ∀ layers : List (Layer R), Stacked m.recomputeLayer m.Behind layers []
      (layers.map fun _ => ⟨0, 0⟩) := by
    intro layers
    induction layers with
    | nil => rfl
    | cons lw layers ih =>
        refine ⟨_, _, rfl, fun token inside => ?_, ih⟩
        exact absurd inside (Nat.not_lt_zero token)
  exact stacked m.layers

end Decoder

/-! ## Simulation -/

/-- Two outcomes give the same, and leave states that are related. -/
def Agree {β : Type} (Related : S → T → Prop) (left : β × S) (right : β × T) : Prop :=
  left.1 = right.1 ∧ Related left.2 right.2

/-- The two functions of one store do what those of the other do. -/
structure Simulates (left : Store R S) (right : Store R T) (Related : S → T → Prop) : Prop where
  reset : ∀ s t, Related s t → Related (left.reset s) (right.reset t)
  decode : ∀ item s t, Related s t → Agree Related (left.decode item s) (right.decode item t)

section Agree

variable {Related : S → T → Prop} {s : S} {t : T}

/-- A check that leaves the state as it is. -/
theorem Agree.guard {β : Type} {refused : Prop} [Decidable refused] {reply : β} {left : β × S}
    {right : β × T} (related : Related s t) (otherwise : Agree Related left right) :
    Agree Related (if refused then (reply, s) else left)
      (if refused then (reply, t) else right) := by
  split
  · exact ⟨rfl, related⟩
  · exact otherwise

theorem Agree.decodeEach {left : α → S → Option (Row R) × S} {right : α → T → Option (Row R) × T}
    (items : List α) (each : ∀ item s t, Related s t → Agree Related (left item s) (right item t))
    (related : Related s t) :
    Agree Related (decodeEach left items s) (decodeEach right items t) := by
  induction items generalizing s t with
  | nil => exact ⟨rfl, related⟩
  | cons item items ih =>
      obtain ⟨same, after⟩ := each item s t related
      obtain ⟨rest, last⟩ := ih after
      simp only [Transformer.decodeEach, same]
      cases (right item t).1 with
      | none => exact ⟨rfl, after⟩
      | some row => exact ⟨by rw [rest], last⟩

end Agree

namespace Simulates

variable [Zero R] (m : Decoder R) {left : Store R S} {right : Store R T}
  {Related : S → T → Prop} (simulates : Simulates left right Related) {s : S} {t : T}

include simulates

theorem call (call : Call R) (related : Related s t) :
    Agree Related (m.call left call s) (m.call right call t) := by
  have embedding : ∀ embedding mask outputSize s t, Related s t →
      Agree Related (m.decodeEmbedding left embedding mask outputSize s)
        (m.decodeEmbedding right embedding mask outputSize t) :=
    fun _ _ _ s t related => Agree.guard related (simulates.decode _ s t related)
  have token : ∀ outputSize token s t, Related s t →
      Agree Related (m.decodeToken left token outputSize s)
        (m.decodeToken right token outputSize t) :=
    fun _ _ s t related => Agree.guard related (embedding _ _ _ s t related)
  have again := simulates.reset s t related
  cases call with
  | reset => exact ⟨rfl, again⟩
  | decodeEmbedding row mask outputSize =>
      exact Agree.decodeEach _ (fun _ => embedding row mask outputSize) related
  | decodeToken id outputSize => exact Agree.decodeEach _ (fun _ => token outputSize id) related
  | forwardTokens =>
      exact Agree.guard related (Agree.decodeEach _ (token _) again)
  | forwardEmbeddings embeddings mask =>
      exact Agree.guard related (Agree.decodeEach _ (fun _ => embedding _ mask _) again)

theorem calls (calls : List (Call R)) (position : Nat) (related : Related s t) :
    Agree Related (feed (fun _ => m.call left) position calls s)
      (feed (fun _ => m.call right) position calls t) := by
  induction calls generalizing s t position with
  | nil => exact ⟨rfl, related⟩
  | cons call calls ih =>
      obtain ⟨same, after⟩ := simulates.call m call related
      obtain ⟨rest, last⟩ := ih (position + 1) after
      exact ⟨congrArg₂ List.cons same rest, last⟩

end Simulates

namespace Decoder

variable [Zero R] [Add R] [Sub R] [Mul R] (m : Decoder R)

/-- The caches simulate the inputs since the last reset. -/
theorem cached_simulates : Simulates m.cached m.recomputing fun state items =>
    state.2 = items.length ∧ m.Cached items state.1 where
  reset _ _ _ := ⟨rfl, m.cached_cleared⟩
  decode := by
    rintro item ⟨caches, position⟩ items ⟨rfl, behind⟩
    simp only [cached, recomputing]
    split
    · exact ⟨rfl, rfl, behind⟩
    · have output := m.streams_recompute.output items item caches behind
      refine ⟨?_, ?_, m.streams_recompute.next items item caches behind⟩
      · rw [output, List.getLast?_concat]
      · rw [List.length_append, List.length_singleton]

/-- **The caches are invisible.** Every sequence of calls writes the rows, and succeeds and fails,
as on a decoder that keeps no keys and values and computes all rows again from the inputs since the
last reset. The scratch spans of every call fit: a call that gets an empty span is not modelled
here. -/
theorem cached_refines_recomputing (calls : List (Call R)) :
    (feed (fun _ => m.call m.cached) 0 calls m.cleared).1 =
      (feed (fun _ => m.call m.recomputing) 0 calls []).1 :=
  (m.cached_simulates.calls m calls 0 ⟨rfl, m.cached_cleared⟩).1

/-! ## Padding -/

section Padding

variable {mask : List UInt8}

theorem through_mask {position : Nat}
    (unmasked : ∀ token ≤ position, masked mask token = masked [] token) (layers : List (Layer R))
    (row : Row R) (caches : List (Cache R)) :
    through (fun lw => m.decodeLayer lw position) layers ⟨row, mask⟩ caches =
      let bare := through (fun lw => m.decodeLayer lw position) layers ⟨row, []⟩ caches
      (⟨bare.1.row, mask⟩, bare.2) := by
  induction layers generalizing row caches with
  | nil => rfl
  | cons lw layers ih =>
      cases caches with
      | nil => rfl
      | cons cache caches =>
          simp only [through, decodeLayer]
          rw [m.attend_congr lw fun token upTo => ⟨rfl, rfl, unmasked token upTo⟩, ih]
          rfl

/-- The rows at the first positions, where the mask takes nothing out. -/
theorem decodeEach_mask (embedding : Nat → List R) (indices : List Nat) (count : Nat)
    (state : List (Cache R) × Nat)
    (unmasked : ∀ token < state.2 + count, masked mask token = masked [] token) :
    (decodeEach (fun index => m.decodeEmbedding m.cached (embedding index) mask m.cfg.dModel)
        indices state).1.1.take count =
      (decodeEach (fun index => m.decodeEmbedding m.cached (embedding index) [] m.cfg.dModel)
        indices state).1.1.take count := by
  induction indices generalizing count state with
  | nil => rfl
  | cons index indices ih =>
      cases count with
      | zero => rfl
      | succ count =>
          have same : ∀ row, m.cached.decode ⟨row, mask⟩ state =
              m.cached.decode ⟨row, []⟩ state := by
            intro row
            simp only [cached, decodeAt, entered]
            rw [m.through_mask fun token upTo => unmasked token (by omega)]
            rfl
          have next : (m.decodeEmbedding m.cached (embedding index) [] m.cfg.dModel state).2.2 ≤
              state.2 + 1 := by
            simp only [decodeEmbedding, cached]
            split_ifs <;> simp
          simp only [decodeEach, decodeEmbedding, same] at next ⊢
          split
          · rfl
          · rw [List.take_succ_cons, List.take_succ_cons]
            exact congrArg _ (ih count _ fun token inside => unmasked token (by omega))

/-- The ones of an accepted mask come first. -/
theorem ones_of_checkMask {seenPadding hasValidToken : Bool}
    (accepted : checkMask mask seenPadding hasValidToken = true) :
    ∀ token < mask.countP (· ≠ 0), seenPadding = false ∧ mask.getD token 0 ≠ 0 := by
  fun_induction checkMask mask seenPadding hasValidToken with
  | case1 => simp
  | case2 => cases accepted
  | case3 mask _ _ _ ih =>
      intro token inside
      exact absurd (ih accepted token (by simpa using inside)).1 (by decide)
  | case4 => cases accepted
  | case5 value mask _ _ _ one fresh ih =>
      rintro (_ | token) inside
      · exact ⟨by simpa using fresh, one⟩
      · exact ih accepted token (by simpa [one] using inside)

/-- **Padding is invisible.** The rows that `forward_embeddings` writes before the padding of an
accepted mask are those that it writes without a mask. Any other mask writes none. -/
theorem padding_invisible (embeddings : List R) (mask : List UInt8) (outputSize : Nat)
    (state : List (Cache R) × Nat) :
    (m.forwardEmbeddings m.cached embeddings mask outputSize state).1.1.take
        (mask.countP (· ≠ 0)) =
      if mask.length = embeddings.length / m.cfg.dModel ∧ checkMask mask false false then
        (m.forwardEmbeddings m.cached embeddings [] outputSize state).1.1.take
          (mask.countP (· ≠ 0))
      else [] := by
  split
  next accepted =>
    simp only [forwardEmbeddings, accepted, ne_eq, not_true, Bool.true_eq_false, or_self, and_false,
      false_and]
    split
    · rfl
    refine m.decodeEach_mask _ _ _ _ fun token inside => ?_
    have one := (ones_of_checkMask accepted.2 token (by simpa [cached, cleared] using inside)).2
    rw [masked, beq_false_of_ne one, Bool.and_false]
    rfl
  next refused =>
    cases mask with
    | nil => rfl
    | cons => rw [forwardEmbeddings, if_pos (by simp_all; tauto), List.take_nil]

end Padding

end Decoder

end FlowEdge.Transformer
