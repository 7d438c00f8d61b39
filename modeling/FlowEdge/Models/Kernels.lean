import Mathlib.Algebra.Ring.Defs
import Mathlib.Logic.Function.Basic
import FlowEdge.Foundation.Streaming

/-!
# Kernels

What the scalar kernels compute. A matrix is the sequence of its rows, and a row is a function of
the column; a kernel does the same with every row and is given for one. Which thread computes which
column of a product plays no part. No law of arithmetic is assumed, unless a lemma asks for a ring.
-/

namespace FlowEdge.Kernels

variable {R : Type}

abbrev Row (R : Type) := Nat → R

/-- The functions of the kernels that are not operations of a ring. -/
structure Functions (R : Type) where
  (exp silu softplus gelu inverse : R → R)
  /-- `1 / sqrt(sum / dim + 1e-5)` -/
  scale : R → Nat → R
  divide : R → Nat → R
  /-- `1 / sqrt(head_width)` -/
  inverseScale : Nat → R
  negInfinity : R
  less : R → R → Bool

section Definitions

variable [Zero R] [Add R] [Sub R] [Mul R] (f : Functions R)

/-- `for (i = 0; i < count; ++i) acc += term(i);` -/
def total (count : Nat) (term : Nat → R) (acc : R) : R :=
  (List.range count).foldl (fun acc i => acc + term i) acc

/-- `matmul_weight` -/
def matmul (weight : Nat → Row R) (inDim : Nat) (row : Row R) : Row R :=
  fun o => total inDim (fun i => row i * weight o i) 0

def rmsnorm (weight : Row R) (dim : Nat) (row : Row R) : Row R :=
  let scale := f.scale (total dim (fun i => row i * row i) 0) dim
  fun i => row i * scale * weight i

def layerNorm (weight bias : Row R) (dim : Nat) (row : Row R) : Row R :=
  let mean := f.divide (total dim row 0) dim
  let scale := f.scale (total dim (fun i => (row i - mean) * (row i - mean)) 0) dim
  fun i => (row i - mean) * scale * weight i + bias i

def gateSilu (a g : Row R) : Row R := fun i => a i * f.silu (g i)

/-- `conv1d_causal`, on a matrix of the channels. -/
def conv1dCausal (x weight : Nat → Row R) (bias : Row R) (length kernel : Nat) : Nat → Row R :=
  fun c => (List.range kernel).foldl (fun y k t =>
    let start := kernel - 1 - k
    if start ≤ t ∧ t < length then y t + weight c k * x c (t - start) else y t) fun _ => bias c

def conv1dStep (window weight : Nat → Row R) (bias : Row R) (kernel : Nat) : Row R :=
  fun c => total kernel (fun k => weight c k * window c k) (bias c)

/-- A row of each matrix that `discretize_and_scan` reads. -/
structure ScanInput (R : Type) where
  (delta b u cProj : Row R)

/-- A round of `discretize_and_scan`: the row of `y` and the state behind it. -/
def scanRound (aNeg : Nat → Row R) (dSkip : Row R) (dState : Nat) (input : ScanInput R)
    (h : Nat → Row R) : Row R × (Nat → Row R) :=
  (List.range dState).foldl (fun state n =>
    let row : Row R := fun c =>
      f.exp (input.delta c * aNeg n c) * state.2 n c + input.delta c * input.b n * input.u c
    (fun c => state.1 c + row c * input.cProj n, Function.update state.2 n row))
    (fun c => dSkip c * input.u c, h)

def discretizeAndScan (aNeg : Nat → Row R) (dSkip : Row R) (dState : Nat)
    (inputs : List (ScanInput R)) (h : Nat → Row R) : List (Row R) × (Nat → Row R) :=
  feed (fun _ => scanRound f aNeg dSkip dState) 0 inputs h

def softmax : List R → List R
  | [] => []
  | first :: rest =>
      let maximum := rest.foldl (fun largest value =>
        if f.less largest value then value else largest) first
      let values := (first :: rest).map fun value => f.exp (value - maximum)
      let inverse := f.inverse (values.foldl (· + ·) 0)
      values.map (· * inverse)

/-- The mask takes a token out of the attention. -/
def masked (mask : List UInt8) (token : Nat) : Bool :=
  !mask.isEmpty && token < mask.length && mask.getD token 0 == 0

/-- `cached_causal_attention`, at each column of `attended`. -/
def cachedCausalAttention (query : Row R) (keys values : Nat → Row R) (mask : List UInt8)
    (nHeads dModel position : Nat) : Row R := fun column =>
  let headWidth := dModel / nHeads
  let offset := column / headWidth * headWidth
  let scores := (List.range (position + 1)).map fun token =>
    if masked mask token then f.negInfinity
    else total headWidth (fun channel => query (offset + channel) * keys token (offset + channel)) 0
      * f.inverseScale headWidth
  let probabilities := softmax f scores
  total (position + 1) (fun token => probabilities.getD token 0 * values token column) 0

end Definitions

/-! ## Convolution -/

section Convolution

variable {x weight : Nat → Row R} {bias : Row R} {length kernel c t : Nat}

/-- The loops of `conv1d_causal`, at one place of its output. -/
theorem conv1dCausal_apply [Add R] [Mul R] (inside : t < length) :
    conv1dCausal x weight bias length kernel c t =
      (List.range kernel).foldl (fun acc k =>
        if kernel - 1 - k ≤ t then acc + weight c k * x c (t - (kernel - 1 - k)) else acc)
        (bias c) := by
  refine (List.foldl_hom (fun y : Row R => y t) fun y k => ?_).symm
  simp only [inside, and_true]

/-- The places before the first row weigh nothing. -/
theorem conv1dStep_eq_causal [CommRing R] {window : Nat → Row R} (inside : t < length)
    (holds : ∀ k < kernel, window c k =
      if kernel - 1 - k ≤ t then x c (t - (kernel - 1 - k)) else 0) :
    conv1dStep window weight bias kernel c = conv1dCausal x weight bias length kernel c t := by
  rw [conv1dCausal_apply inside, conv1dStep, total]
  refine List.foldl_ext _ _ _ fun acc k member => ?_
  rw [holds k (List.mem_range.mp member)]
  split
  · rfl
  · rw [mul_zero, add_zero]

end Convolution

/-! ## Attention -/

/-- The attention at a position reads the rows and the mask up to it. -/
theorem cachedCausalAttention_congr [Zero R] [Add R] [Sub R] [Mul R] (f : Functions R)
    {query : Row R} {keys keys' values values' : Nat → Row R} {mask mask' : List UInt8}
    {nHeads dModel position : Nat}
    (same : ∀ token ≤ position, keys token = keys' token ∧ values token = values' token ∧
      masked mask token = masked mask' token) :
    cachedCausalAttention f query keys values mask nHeads dModel position =
      cachedCausalAttention f query keys' values' mask' nHeads dModel position := by
  have within : ∀ token ∈ List.range (position + 1), token ≤ position := fun token member =>
    Nat.le_of_lt_succ (List.mem_range.mp member)
  funext column
  simp only [cachedCausalAttention, total]
  rw [List.map_congr_left fun token member => by
    rw [(same token (within token member)).1, (same token (within token member)).2.2]]
  refine List.foldl_ext _ _ _ fun acc token member => ?_
  rw [(same token (within token member)).2.1]

end FlowEdge.Kernels
