import Mathlib.Data.List.GetD
import FlowEdge.Models.Kernels
import FlowEdge.Models.Mamba

/-!
# Streaming through Mamba

The backbone over exact arithmetic: `forward` on a whole sequence and `decode` on one token after
the other. The memory of the spans is the subject of `FlowEdge.Models.Mamba`.
-/

namespace FlowEdge.Mamba

open Kernels

variable {R : Type}

/-- The weights of a layer, as they are read. -/
structure Layer (R : Type) where
  (norm convB dtB d : Row R)
  (inProj convW xProj dtW aNeg outProj : Nat → Row R)

/-- The state of a layer between two tokens. -/
structure LayerState (R : Type) where
  /-- `conv_win`, the newest input last -/
  window : Nat → Row R
  h : Nat → Row R

/-- The backbone: its configuration, the functions of its kernels and its weights. -/
structure Backbone (R : Type) where
  cfg : MambaConfig
  functions : Functions R
  layers : List (Layer R)
  normF : Row R

namespace Backbone

variable [CommRing R] (m : Backbone R) (lw : Layer R)

/-- `in_proj` of a row: the input of the convolution, and behind it that of the gate. -/
def projected (row : Row R) : Row R :=
  matmul lw.inProj m.cfg.dModel.toNat (rmsnorm m.functions lw.norm m.cfg.dModel.toNat row)

/-- What the scan reads of a row: the step sizes, and the parts of `x_proj` behind `dt_rank`. -/
def scanInput (u : Row R) : ScanInput R :=
  let dbl := matmul lw.xProj m.cfg.dInner.toNat u
  { delta := fun o => m.functions.softplus (matmul lw.dtW m.cfg.dtRank.toNat dbl o + lw.dtB o)
    b := fun n => dbl (m.cfg.dtRank.toNat + n)
    u := u
    cProj := fun n => dbl (m.cfg.dtRank.toNat + m.cfg.dState.toNat + n) }

/-- The end of a layer: the gate, `out_proj` and the residual. -/
def residual (hidden xz yv : Row R) : Row R :=
  let z : Row R := fun c => xz (m.cfg.dInner.toNat + c)
  fun i => hidden i + matmul lw.outProj m.cfg.dInner.toNat (gateSilu m.functions yv z) i

/-- The convolution of `layer_forward` and `silu`, back in the order of the rows. -/
def convolved (xz : List (Row R)) : List (Row R) :=
  let xCm : Nat → Row R := fun c t => xz.getD t 0 c
  let xConv := conv1dCausal xCm lw.convW lw.convB xz.length m.cfg.dConv.toNat
  (List.range xz.length).map fun t c => m.functions.silu (xConv c t)

/-- The scan of `layer_forward`, from the state that is all zero. -/
def scanned (xz : List (Row R)) : List (Row R) × (Nat → Row R) :=
  let inputs := (m.convolved lw xz).map (m.scanInput lw)
  discretizeAndScan m.functions lw.aNeg lw.d m.cfg.dState.toNat inputs 0

def layerForward (hidden : List (Row R)) : List (Row R) :=
  let xz := hidden.map (m.projected lw)
  let yv := (m.scanned lw xz).1
  List.zipWith (fun row xzy => m.residual lw row xzy.1 xzy.2) hidden (xz.zip yv)

def forward (input : List (Row R)) : List (Row R) :=
  (m.layers.foldl (fun hidden lw => m.layerForward lw hidden) input).map
    (rmsnorm m.functions m.normF m.cfg.dModel.toNat)

/-- `memmove` by one place, and the newest input. -/
def shifted (window : Row R) (newest : R) : Row R := fun k =>
  if k + 1 < m.cfg.dConv.toNat then window (k + 1)
  else if k + 1 = m.cfg.dConv.toNat then newest
  else window k

def decodeLayer (hidden : Row R) (lstate : LayerState R) : Row R × LayerState R :=
  let xz := m.projected lw hidden
  let convWin : Nat → Row R := fun c => m.shifted (lstate.window c) (xz c)
  let xConv := conv1dStep convWin lw.convW lw.convB m.cfg.dConv.toNat
  let u : Row R := fun c => m.functions.silu (xConv c)
  let scan := scanRound m.functions lw.aNeg lw.d m.cfg.dState.toNat (m.scanInput lw u) lstate.h
  (m.residual lw hidden xz scan.1, ⟨convWin, scan.2⟩)

def decode (x : Row R) (state : List (LayerState R)) : Row R × List (LayerState R) :=
  let out := through m.decodeLayer m.layers x state
  (rmsnorm m.functions m.normF m.cfg.dModel.toNat out.1, out.2)

/-- The state that is all zero. -/
def zeroState : List (LayerState R) := m.layers.map fun _ => ⟨0, 0⟩

/-! ## One more row -/

/-- The window behind the rows of `xz`: the last inputs of the convolution, with zeros before the
first. -/
def recent (xz : List (Row R)) : Nat → Row R := fun c k =>
  if xz.length + k < m.cfg.dConv.toNat then 0 else xz.getD (xz.length + k - m.cfg.dConv.toNat) 0 c

theorem recent_concat (xz : List (Row R)) (newest : Row R) :
    m.recent (xz ++ [newest]) = fun c => m.shifted (m.recent xz c) (newest c) := by
  funext c k
  rw [recent, List.length_append, List.length_singleton, shifted, recent, recent]
  by_cases inner : k + 1 < m.cfg.dConv.toNat
  · rw [if_pos inner, Nat.add_assoc, Nat.add_comm 1 k]
    split
    · rfl
    · rw [List.getD_append _ _ _ _ (by omega)]
  rw [if_neg inner, if_neg (by omega)]
  by_cases last : k + 1 = m.cfg.dConv.toNat
  · rw [if_pos last, ← last, Nat.add_assoc, Nat.add_comm 1 k, Nat.add_sub_cancel,
      List.getD_append_right _ _ _ _ (Nat.le_refl _), Nat.sub_self]
    rfl
  · rw [if_neg last, if_neg (by omega), List.getD_eq_default _ _ (by simp; omega),
      List.getD_eq_default _ _ (by omega)]

theorem convolved_concat (xz : List (Row R)) (newest : Row R) :
    m.convolved lw (xz ++ [newest]) = m.convolved lw xz ++ [fun c => m.functions.silu
      (conv1dStep (m.recent (xz ++ [newest])) lw.convW lw.convB m.cfg.dConv.toNat c)] := by
  simp only [convolved]
  rw [List.length_append, List.length_singleton, List.range_succ, List.map_append]
  congr 1
  · refine List.map_congr_left fun t member => ?_
    have inside := List.mem_range.mp member
    funext c
    rw [conv1dCausal_apply inside, conv1dCausal_apply (Nat.lt_succ_of_lt inside)]
    congr 1
    refine List.foldl_ext _ _ _ fun acc k _ => ?_
    rw [List.getD_append _ _ _ _ (by omega)]
  · rw [List.map_singleton]
    congr 1
    funext c
    congr 1
    refine (conv1dStep_eq_causal (Nat.lt_succ_self _) fun k inside => ?_).symm
    rw [recent, List.length_append, List.length_singleton]
    by_cases early : xz.length + 1 + k < m.cfg.dConv.toNat
    · rw [if_pos early, if_neg (by omega)]
    · have place : xz.length + 1 + k - m.cfg.dConv.toNat =
          xz.length - (m.cfg.dConv.toNat - 1 - k) := by omega
      rw [if_neg early, if_pos (by omega), place]

/-! ## Layers -/

theorem scanned_concat (xz : List (Row R)) (newest : Row R) :
    m.scanned lw (xz ++ [newest]) =
      let u : Row R := fun c => m.functions.silu
        (conv1dStep (m.recent (xz ++ [newest])) lw.convW lw.convB m.cfg.dConv.toNat c)
      let round := scanRound m.functions lw.aNeg lw.d m.cfg.dState.toNat (m.scanInput lw u)
        (m.scanned lw xz).2
      ((m.scanned lw xz).1 ++ [round.1], round.2) := by
  simp only [scanned, discretizeAndScan]
  rw [convolved_concat, List.map_append, List.map_singleton, feed_concat]

theorem length_scanned (xz : List (Row R)) : (m.scanned lw xz).1.length = xz.length := by
  simp [scanned, discretizeAndScan, length_feed, convolved]

/-- The state of a layer behind the rows of `hidden`. -/
def stateAfter (hidden : List (Row R)) : LayerState R where
  window := m.recent (hidden.map (m.projected lw))
  h := (m.scanned lw (hidden.map (m.projected lw))).2

theorem stateAfter_nil : m.stateAfter lw [] = ⟨0, 0⟩ := by
  have empty : m.recent ([] : List (Row R)) = 0 := by
    funext c k
    exact ite_self _
  rw [stateAfter, List.map_nil, empty]
  rfl

/-- `decode_layer` streams `layer_forward`. -/
theorem streams_layer :
    Streams (m.layerForward lw) (fun _ => m.decodeLayer lw) fun hidden state =>
      state = m.stateAfter lw hidden := by
  refine { length := fun hidden => ?_, output := ?_, next := ?_ }
  · simp [layerForward, length_scanned]
  · rintro hidden row _ rfl
    simp only [layerForward]
    rw [List.map_append, List.map_singleton, scanned_concat, recent_concat,
      List.zip_append (by rw [length_scanned]), List.zipWith_append (by simp [length_scanned])]
    rfl
  · rintro hidden row _ rfl
    rw [stateAfter, stateAfter, List.map_append, List.map_singleton, scanned_concat,
      recent_concat]
    rfl

/-! ## Streaming -/

/-- The states of the layers behind the rows of an input. -/
abbrev Behind (layers : List (Layer R)) : List (Row R) → List (LayerState R) → Prop :=
  Stacked m.layerForward (fun lw hidden state => state = m.stateAfter lw hidden) layers

theorem streams_forward : Streams m.forward (fun _ => m.decode) (m.Behind m.layers) :=
  (Streams.stack m.streams_layer m.layers).map (rmsnorm m.functions m.normF m.cfg.dModel.toNat)

/-- The state that is all zero stands for no input. -/
theorem behind_zeroState (layers : List (Layer R)) :
    m.Behind layers [] (layers.map fun _ => ⟨0, 0⟩) := by
  induction layers with
  | nil => rfl
  | cons lw layers ih => exact ⟨_, _, rfl, (m.stateAfter_nil lw).symm, ih⟩

/-- **Streaming.** `decode` on one token after the other, from the state that is all zero, gives
the rows that `forward` gives for the whole sequence, and the rows of a sequence do not depend on
what comes behind it. -/
theorem decode_streams_forward (rows : List (Row R)) :
    (feed (fun _ => m.decode) 0 rows m.zeroState).1 = m.forward rows ∧
      ∀ later, m.forward rows <+: m.forward (rows ++ later) :=
  ⟨(m.streams_forward.run_nil (m.behind_zeroState m.layers) rows).symm,
    m.streams_forward.causal (m.behind_zeroState m.layers) rows⟩

end Backbone

end FlowEdge.Mamba
