import Mathlib.Data.Nat.Size
import Mathlib.Data.List.FinRange
import FlowEdge.Foundation.Words

/-!
# Latency histograms

The histograms of the relay and the text that they are written as. A value is counted in the bucket
of the least power of two that is not below it. The text has the counts added up, so that each of
its lines says how many of the observed values are within a bound, and these numbers are exact.
-/

namespace FlowEdge

open Words

namespace LatencyHistogram

abbrev kBuckets : Nat := 65

end LatencyHistogram

/-- Counts of latencies by powers of two. -/
structure LatencyHistogram where
  buckets : Fin LatencyHistogram.kBuckets → UInt64 := fun _ => 0
  count : UInt64 := 0
  sumNs : UInt64 := 0
  minNs : UInt64 := 0
  maxNs : UInt64 := 0

namespace LatencyHistogram

/-- `std::bit_width` -/
def bitWidth (word : UInt64) : Nat := word.toNat.size

/-- The first bucket whose bound is not below the latency. -/
def bucketOf (nanoseconds : UInt64) : Fin kBuckets :=
  let bucket := if nanoseconds ≤ 1 then 0 else bitWidth (nanoseconds - 1)
  ⟨min bucket (kBuckets - 1), Nat.lt_of_le_of_lt (Nat.min_le_right _ _) (by decide)⟩

/-- Count a latency. -/
def observe (histogram : LatencyHistogram) (nanoseconds : UInt64) : LatencyHistogram where
  buckets := Function.update histogram.buckets (bucketOf nanoseconds)
    (histogram.buckets (bucketOf nanoseconds) + 1)
  sumNs := saturatingAdd histogram.sumNs nanoseconds
  minNs := if histogram.count = 0 then nanoseconds else min histogram.minNs nanoseconds
  maxNs := max histogram.maxNs nanoseconds
  count := histogram.count + 1

/-- The histogram of a sequence of observations. -/
def observed (values : List UInt64) : LatencyHistogram := values.foldl observe {}

/-! ## Text -/

section Text

variable (scope name : String)

def bucketLine (bound : String) (cumulative : Nat) : String :=
  scope ++ "_" ++ name ++ "_bucket\x7ble=\"" ++ bound ++ "\"\x7d " ++ toString cumulative ++ "\n"

def valueLine (field : String) (value : Nat) : String :=
  scope ++ "_" ++ name ++ "_" ++ field ++ " " ++ toString value ++ "\n"

/-- The bound that a bucket is written with. -/
def bucketBound (index : Fin kBuckets) : String :=
  if index.val < 64 then toString ((1 : UInt64) <<< UInt64.ofNat index.val).toNat else "+Inf"

/-- `cumulative`, behind the round of a bucket. -/
def cumulative (histogram : LatencyHistogram) (index : Fin kBuckets) : UInt64 :=
  (((List.finRange kBuckets).take (index.val + 1)).map histogram.buckets).foldl saturatingAdd 0

/-- The text of a histogram: a line for each bucket, then the count, sum, least and greatest. -/
def writeHistogram (histogram : LatencyHistogram) : String :=
  String.join
    ((List.finRange kBuckets).map (fun index =>
        bucketLine scope name (bucketBound index) (cumulative histogram index).toNat) ++
      [valueLine scope name "count" histogram.count.toNat,
        valueLine scope name "sum" histogram.sumNs.toNat,
        valueLine scope name "min" histogram.minNs.toNat,
        valueLine scope name "max" histogram.maxNs.toNat])

end Text

/-! ## Buckets -/

/-- A value is in the buckets up to a power of two if it is not above it. -/
theorem bucketOf_le_iff {index : Nat} (below : index < 64) (value : UInt64) :
    (bucketOf value).val ≤ index ↔ value.toNat ≤ 2 ^ index := by
  have one : 0 < 2 ^ index := Nat.two_pow_pos index
  unfold bucketOf kBuckets
  dsimp only
  split
  · next small =>
      rw [UInt64.le_iff_toNat_le] at small
      have unit : (1 : UInt64).toNat = 1 := rfl
      omega
  · next large =>
      rw [UInt64.not_le, UInt64.lt_iff_toNat_lt] at large
      have unit : (1 : UInt64).toNat = 1 := rfl
      have minus : (value - 1).toNat = value.toNat - 1 :=
        UInt64.toNat_sub_of_le _ _ (UInt64.le_iff_toNat_le.mpr (by omega))
      have width := @Nat.size_le (value - 1).toNat index
      rw [minus] at width
      rw [bitWidth, minus, min_le_iff]
      omega

section Counting

variable {α β : Type*}

theorem countP_add_of_disjoint {p q : α → Bool} (apart : ∀ a, p a = true → q a = false)
    (values : List α) :
    values.countP p + values.countP q = values.countP fun a => p a || q a := by
  induction values with
  | nil => rfl
  | cons value values ih =>
      simp only [List.countP_cons]
      rw [← ih]
      cases left : p value with
      | true =>
          rw [apart value left]
          simp only [Bool.or_false, if_true, Bool.false_eq_true, if_false]
          omega
      | false =>
          simp only [Bool.false_or, Bool.false_eq_true, if_false]
          omega

/-- The values at distinct places add up. -/
theorem sum_countP_eq [DecidableEq β] (place : α → β) (values : List α) {places : List β}
    (distinct : places.Nodup) :
    (places.map fun p => values.countP (place · = p)).sum = values.countP (place · ∈ places) := by
  induction places with
  | nil => simp
  | cons p places ih =>
      rw [List.nodup_cons] at distinct
      rw [List.map_cons, List.sum_cons, ih distinct.2, countP_add_of_disjoint]
      · simp only [List.mem_cons, Bool.decide_or]
      · intro value here
        rw [decide_eq_true_eq] at here
        rw [decide_eq_false_iff_not, here]
        exact distinct.1

end Counting

/-! ## Observations -/

/-- The fields of a histogram of some observations. -/
structure Tracks (histogram : LatencyHistogram) (values : List UInt64) : Prop where
  buckets : ∀ index, (histogram.buckets index).toNat = values.countP (bucketOf · = index)
  count : histogram.count.toNat = values.length
  sum : histogram.sumNs = values.foldl saturatingAdd 0
  min : histogram.minNs.toNat = (values.map UInt64.toNat).min?.getD 0
  max : histogram.maxNs.toNat = (values.map UInt64.toNat).max?.getD 0

variable {values : List UInt64}

theorem Tracks.observe {histogram : LatencyHistogram} (tracks : Tracks histogram values)
    (few : values.length + 1 < 2 ^ 64) (value : UInt64) :
    Tracks (histogram.observe value) (values ++ [value]) where
  buckets index := by
    have known := tracks.buckets index
    have bound : values.countP (bucketOf · = index) ≤ values.length := List.countP_le_length
    rw [List.countP_append, List.countP_singleton]
    unfold LatencyHistogram.observe
    dsimp only
    rw [Function.update_apply]
    by_cases here : bucketOf value = index
    · rw [if_pos here.symm, here, toNat_add_one (by omega), known,
        decide_eq_true rfl, if_pos rfl]
    · rw [if_neg (Ne.symm here), known, decide_eq_false here, if_neg Bool.false_ne_true,
        Nat.add_zero]
  count := by
    have known := tracks.count
    rw [LatencyHistogram.observe, toNat_add_one (by omega), known, List.length_append,
      List.length_singleton]
  sum := by
    rw [LatencyHistogram.observe, tracks.sum, List.foldl_append, List.foldl_cons, List.foldl_nil]
  min := by
    have known := tracks.min
    have length := tracks.count
    unfold LatencyHistogram.observe
    dsimp only
    cases values with
    | nil =>
        rw [if_pos (UInt64.toNat_inj.mp length)]
        rfl
    | cons first rest =>
        have some : histogram.count ≠ 0 := by
          intro none
          rw [none] at length
          cases length
        rw [if_neg some, UInt64.toNat_min, known, List.cons_append, List.map_cons, List.map_cons,
          List.map_append, List.min?_cons', List.min?_cons', List.foldl_append]
        rfl
  max := by
    have known := tracks.max
    unfold LatencyHistogram.observe
    dsimp only
    rw [UInt64.toNat_max, known]
    cases values with
    | nil => exact Nat.zero_max _
    | cons first rest =>
        rw [List.cons_append, List.map_cons, List.map_cons, List.map_append, List.max?_cons',
          List.max?_cons', List.foldl_append]
        rfl

theorem tracks_observed (few : values.length < 2 ^ 64) : Tracks (observed values) values := by
  induction values using List.reverseRecOn with
  | nil =>
      exact {
        buckets := fun _ => rfl
        count := rfl
        sum := rfl
        min := rfl
        max := rfl }
  | append_singleton values value ih =>
      rw [List.length_append, List.length_singleton] at few
      rw [observed, List.foldl_append]
      exact (ih (by omega)).observe few value

/-! ## The text is exact -/

theorem toNat_cumulative {histogram : LatencyHistogram} (tracks : Tracks histogram values)
    (few : values.length < 2 ^ 64) (index : Fin kBuckets) :
    (cumulative histogram index).toNat = values.countP fun value => bucketOf value ≤ index := by
  have distinct : ((List.finRange kBuckets).take (index.val + 1)).Nodup :=
    (List.nodup_finRange _).sublist (List.take_sublist _ _)
  have member : ∀ place, place ∈ (List.finRange kBuckets).take (index.val + 1) ↔ place ≤ index := by
    intro place
    rw [List.mem_take_iff_getElem]
    constructor
    · rintro ⟨i, below, rfl⟩
      rw [List.getElem_finRange, Fin.le_def]
      exact Nat.lt_succ_iff.mp (lt_min_iff.mp below).1
    · intro within
      refine ⟨place.val, lt_min (Nat.lt_succ_of_le within) ?_, List.getElem_finRange _⟩
      rw [List.length_finRange]
      exact place.isLt
  have counted := sum_countP_eq bucketOf values distinct
  simp only [member] at counted
  have bound : values.countP (fun value => bucketOf value ≤ index) ≤ values.length :=
    List.countP_le_length
  rw [cumulative, toNat_foldl_saturatingAdd, List.map_map]
  have same : UInt64.toNat ∘ histogram.buckets = fun p => values.countP (bucketOf · = p) :=
    funext fun p => tracks.buckets p
  rw [same, counted, UInt64.toNat_zero, Nat.zero_add, Nat.min_eq_left (by omega)]

theorem toNat_shift (index : Fin 64) : ((1 : UInt64) <<< UInt64.ofNat index.val).toNat =
    2 ^ index.val := by
  revert index
  decide

/-- Below the last bucket the text counts the values up to the bound. -/
theorem toNat_cumulative_castSucc (few : values.length < 2 ^ 64) (i : Fin 64) :
    (cumulative (observed values) i.castSucc).toNat =
      values.countP fun v => v.toNat ≤ 2 ^ i.val := by
  have bounded : ∀ value, bucketOf value ≤ i.castSucc ↔ value.toNat ≤ 2 ^ i.val :=
    fun value => bucketOf_le_iff i.isLt value
  rw [toNat_cumulative (tracks_observed few) few]
  simp only [bounded]

/-- The last bucket has all values. -/
theorem toNat_cumulative_last (few : values.length < 2 ^ 64) :
    (cumulative (observed values) (Fin.last 64)).toNat = values.length := by
  have all : ∀ value, bucketOf value ≤ Fin.last 64 := fun value => Fin.le_last _
  rw [toNat_cumulative (tracks_observed few) few]
  simp only [all, decide_true, List.countP_true]

theorem bucketLine_eq (scope name bound : String) (count : Nat) :
    bucketLine scope name bound count =
      scope ++ "_" ++ name ++ "_" ++ ("bucket\x7ble=\"" ++ bound ++ "\"\x7d") ++ " " ++
        toString count ++ "\n" := by
  have opening : "_bucket\x7ble=\"" = "_" ++ "bucket\x7ble=\"" := rfl
  have closing : "\"\x7d " = "\"\x7d" ++ " " := rfl
  rw [bucketLine, opening, closing]
  simp only [String.append_assoc]

/-- **Histograms are exact.** The text of a histogram has, for each power of two, the number of the
observed values that are not above it, and the number, the sum, the least and the greatest of all
values. -/
theorem writeHistogram_observed (scope name : String) (values : List UInt64)
    (few : values.length < 2 ^ 64) :
    let line := fun (field : String) (value : Nat) =>
      scope ++ "_" ++ name ++ "_" ++ field ++ " " ++ toString value ++ "\n"
    writeHistogram scope name (observed values) =
      String.join
        ((List.range 64).map (fun i =>
            line ("bucket\x7ble=\"" ++ toString (2 ^ i) ++ "\"\x7d")
              (values.countP fun v => v.toNat ≤ 2 ^ i)) ++
          [line "bucket\x7ble=\"+Inf\"\x7d" values.length,
            line "count" values.length,
            line "sum" (min (values.map UInt64.toNat).sum (2 ^ 64 - 1)),
            line "min" ((values.map UInt64.toNat).min?.getD 0),
            line "max" ((values.map UInt64.toNat).max?.getD 0)]) := by
  intro line
  have tracks := tracks_observed few
  have rows : (List.finRange kBuckets).map (fun index =>
      bucketLine scope name (bucketBound index) (cumulative (observed values) index).toNat) =
      (List.range 64).map (fun i => line ("bucket\x7ble=\"" ++ toString (2 ^ i) ++ "\"\x7d")
          (values.countP fun v => v.toNat ≤ 2 ^ i)) ++
        [line "bucket\x7ble=\"+Inf\"\x7d" values.length] := by
    rw [← List.map_coe_finRange_eq_range, List.map_map]
    show List.map _ (List.finRange (64 + 1)) = _
    rw [List.finRange_succ_last, List.map_append, List.map_map, List.map_singleton,
      toNat_cumulative_last few, bucketLine_eq]
    congr 1
    refine List.map_congr_left fun i _ => ?_
    simp only [Function.comp_apply]
    rw [toNat_cumulative_castSucc few, bucketLine_eq, bucketBound,
      if_pos (show i.castSucc.val < 64 from i.isLt), Fin.val_castSucc, toNat_shift]
  rw [writeHistogram, rows, tracks.count, tracks.sum, tracks.min, tracks.max,
    toNat_foldl_saturatingAdd, UInt64.toNat_zero, Nat.zero_add, List.append_assoc]
  rfl

/-- The buckets from 2 to 2^63 count two of three observations. -/
theorem writeHistogram_observed_three :
    [0, 2, 9223372036854775809].length < 2 ^ 64 ∧
      writeHistogram "relay" "latency" (observed [0, 2, 9223372036854775809]) =
        String.join
          ("relay_latency_bucket\x7ble=\"1\"\x7d 1\n" ::
            (List.range' 1 63).map (fun i =>
              "relay_latency_bucket\x7ble=\"" ++ toString (2 ^ i) ++ "\"\x7d 2\n") ++
            ["relay_latency_bucket\x7ble=\"+Inf\"\x7d 3\n", "relay_latency_count 3\n",
              "relay_latency_sum 9223372036854775811\n", "relay_latency_min 0\n",
              "relay_latency_max 9223372036854775809\n"]) := by
  have two : ∀ i ∈ List.range' 1 63,
      ([0, 2, 9223372036854775809] : List UInt64).countP (fun v => v.toNat ≤ 2 ^ i) = 2 := by
    decide
  refine ⟨by decide, (writeHistogram_observed "relay" "latency" _ (by decide)).trans ?_⟩
  rw [List.range_eq_range', List.range'_succ, List.map_cons]
  refine congrArg String.join (congrArg₂ (· ++ ·) (congrArg₂ List.cons rfl ?_) rfl)
  refine List.map_congr_left fun i member => ?_
  rw [two i member]
  refine (bucketLine_eq "relay" "latency" (toString (2 ^ i)) 2).symm.trans ?_
  rw [bucketLine, String.append_assoc, String.append_assoc]
  rfl

end LatencyHistogram

end FlowEdge
