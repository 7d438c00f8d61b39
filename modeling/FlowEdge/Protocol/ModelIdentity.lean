import Mathlib.Data.List.GetD
import FlowEdge.Foundation.Bytes
import FlowEdge.Protocol.Messages

/-!
# Fingerprints

The 128-bit fingerprint of a byte string that the capsules use as their checksum, the 64-bit
checksum of rings and traces, which is its first half, and the fingerprint of the tensors of a
model.
-/

namespace FlowEdge

open Bytes

namespace Fingerprint

def prime1 : UInt64 := 11400714785074694791
def prime2 : UInt64 := 14029467366897019727
def prime3 : UInt64 := 1609587929392839161
def prime4 : UInt64 := 9650029242287828579
def prime5 : UInt64 := 2870177450012600261

def rotateLeft (value : UInt64) (count : UInt64) : UInt64 :=
  (value <<< count) ||| (value >>> (64 - count))

def round (accumulator input : UInt64) : UInt64 :=
  rotateLeft (accumulator + input * prime2) 31 * prime1

def avalanche (value : UInt64) : UInt64 :=
  let first := (value ^^^ (value >>> 33)) * prime2
  let second := (first ^^^ (first >>> 29)) * prime3
  second ^^^ (second >>> 32)

def readU64 (bytes : List UInt8) (offset : Nat) : UInt64 := UInt64.ofNat (leNat bytes offset 8)

def readU32 (bytes : List UInt8) (offset : Nat) : UInt64 := UInt64.ofNat (leNat bytes offset 4)

/-- The four accumulators of the block loop. -/
structure Lanes where
  lane1 : UInt64
  lane2 : UInt64
  lane3 : UInt64
  lane4 : UInt64

/-- The loop over blocks of 32 bytes; the bytes that are left over are returned. -/
def blocks : Nat → Lanes → List UInt8 → Lanes × List UInt8
  | 0, lanes, bytes => (lanes, bytes)
  | fuel + 1, lanes, bytes =>
      if bytes.length < 32 then (lanes, bytes)
      else
        blocks fuel
          { lane1 := round lanes.lane1 (readU64 bytes 0)
            lane2 := round lanes.lane2 (readU64 bytes 8)
            lane3 := round lanes.lane3 (readU64 bytes 16)
            lane4 := round lanes.lane4 (readU64 bytes 24) }
          (bytes.drop 32)

def mergeLane (hash lane : UInt64) : UInt64 := (hash ^^^ round 0 lane) * prime1 + prime4

def words : Nat → UInt64 → List UInt8 → UInt64 × List UInt8
  | 0, hash, bytes => (hash, bytes)
  | fuel + 1, hash, bytes =>
      if bytes.length < 8 then (hash, bytes)
      else
        words fuel (rotateLeft (hash ^^^ round 0 (readU64 bytes 0)) 27 * prime1 + prime4)
          (bytes.drop 8)

def halfWord (hash : UInt64) (bytes : List UInt8) : UInt64 × List UInt8 :=
  if bytes.length < 4 then (hash, bytes)
  else
    (rotateLeft (hash ^^^ readU32 bytes 0 * prime1) 23 * prime2 + prime3, bytes.drop 4)

def tail (hash : UInt64) (bytes : List UInt8) : UInt64 :=
  bytes.foldl (fun hash byte =>
    rotateLeft (hash ^^^ UInt64.ofNat byte.toNat * prime5) 11 * prime1) hash

def hash64 (bytes : List UInt8) (seed : UInt64) : UInt64 :=
  if bytes = [] then avalanche (seed + prime5)
  else
    let start : UInt64 × List UInt8 :=
      if bytes.length ≥ 32 then
        let (lanes, rest) := blocks bytes.length
          { lane1 := seed + prime1 + prime2, lane2 := seed + prime2, lane3 := seed,
            lane4 := seed - prime1 } bytes
        let hash := rotateLeft lanes.lane1 1 + rotateLeft lanes.lane2 7 +
          rotateLeft lanes.lane3 12 + rotateLeft lanes.lane4 18
        ([lanes.lane1, lanes.lane2, lanes.lane3, lanes.lane4].foldl mergeLane hash, rest)
      else (seed + prime5, bytes)
    let (hash, rest) := words bytes.length (start.1 + UInt64.ofNat bytes.length) start.2
    let (hash, rest) := halfWord hash rest
    avalanche (tail hash rest)

def combine (accumulator value : UInt64) : UInt64 :=
  rotateLeft (accumulator ^^^ round 0 value) 27 * prime1 + prime4

def makeDigest (first second : UInt64) : ModelDigest :=
  Vector.ofFn fun index =>
    if index.val < 8 then (first >>> (8 * UInt64.ofNat index.val)).toUInt8
    else (second >>> (8 * UInt64.ofNat (index.val - 8))).toUInt8

end Fingerprint

open Fingerprint in
def fingerprintBytes (bytes : List UInt8) : ModelDigest :=
  let first := hash64 bytes 0x243f6a8885a308d3
  let second := avalanche (first ^^^ UInt64.ofNat bytes.length ^^^ 0x13198a2e03707344)
  makeDigest first second

/-- `checksum`, of a shared-memory ring or a trace. -/
def fingerprintChecksum (bytes : List UInt8) : UInt64 :=
  (List.range 8).foldl (fun value index =>
    value ||| ((fingerprintBytes bytes).toList.getD index 0).toUInt64 <<<
      UInt64.ofNat (8 * index)) 0

/-- A tensor as its fingerprint sees it: the number of its type, the dimensions that its rank
counts, and its bytes. -/
structure TensorContent where
  name : List UInt8
  dtype : UInt8
  shape : List UInt64
  content : List UInt8
  deriving DecidableEq

namespace Fingerprint

/-- The loop over the dimensions of a tensor, on both accumulators. -/
def combineShape (state : UInt64 × UInt64) (shape : List UInt64) : UInt64 × UInt64 :=
  shape.foldl (fun state dim =>
    (combine state.1 dim, combine state.2 (rotateLeft dim 23))) state

/-- One round of the loop over the tensors. -/
def combineTensor (state : UInt64 × UInt64) (tensor : TensorContent) : UInt64 × UInt64 :=
  let bytes := UInt64.ofNat tensor.content.length
  let nameHash := hash64 tensor.name prime3
  let state := (combine state.1 nameHash, combine state.2 (rotateLeft nameHash 17))
  let format := tensor.dtype.toUInt64 ||| (UInt64.ofNat tensor.shape.length <<< 8)
  let state := (combine state.1 format, combine state.2 (format ^^^ bytes))
  let state := combineShape state tensor.shape
  let content := hash64 tensor.content prime5
  (combine state.1 content, combine state.2 (rotateLeft content 31 ^^^ bytes))

end Fingerprint

open Fingerprint in
def fingerprintTensors (tensors : List TensorContent) : ModelDigest :=
  let count := UInt64.ofNat tensors.length
  let state := tensors.foldl combineTensor
    (combine 0x243f6a8885a308d3 count, combine 0x13198a2e03707344 count)
  makeDigest (avalanche state.1) (avalanche state.2)

/-! ## Digests in byte strings -/

/-- The sixteen bytes of a digest. -/
def digestAt (source : List UInt8) (offset : Nat) : ModelDigest :=
  Vector.ofFn fun index => source.getD (offset + index.val) 0

theorem digestAt_append_right (front rest : List UInt8) (offset : Nat)
    (behind : front.length ≤ offset) :
    digestAt (front ++ rest) offset = digestAt rest (offset - front.length) := by
  unfold digestAt
  congr 1
  funext index
  rw [List.getD_append_right _ _ _ _ (by omega), Nat.sub_add_comm behind]

theorem digestAt_toList (digest : ModelDigest) (rest : List UInt8) :
    digestAt (digest.toList ++ rest) 0 = digest := by
  unfold digestAt
  refine Vector.ext fun index inside => ?_
  rw [Vector.getElem_ofFn, Nat.zero_add, List.getD_append _ _ _ _ (by simpa using inside)]
  simp [inside]

theorem toList_digestAt {source : List UInt8} {offset : Nat}
    (inside : offset + 16 ≤ source.length) :
    (digestAt source offset).toList = (source.drop offset).take 16 := by
  refine List.ext_getElem ?_ fun index first second => ?_
  · rw [Vector.length_toList, List.length_take, List.length_drop]
    omega
  · rw [Vector.length_toList] at first
    simp [digestAt, List.getD_eq_getElem?_getD, List.getElem?_eq_getElem (show
      offset + index < source.length by omega)]

/-- A source has a digest where the digest is read. -/
theorem toList_eq_iff {source : List UInt8} {offset : Nat} {digest : ModelDigest}
    (inside : offset + 16 ≤ source.length) :
    digest.toList = (source.drop offset).take 16 ↔ digestAt source offset = digest := by
  rw [← toList_digestAt inside, eq_comm, Vector.toList_inj]

end FlowEdge
