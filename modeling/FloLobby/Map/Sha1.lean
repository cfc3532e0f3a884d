import FloLobby.Proto

/-!
# `MapSha1`

A map's SHA-1 is a fixed array of twenty bytes. `unpack` reads it from a protobuf byte
string of any length, copying its first twenty bytes or zero-padding a shorter one; `pack`
writes the array back out. The slice operations are modelled with their panics, so that the
absence of an out-of-bounds access is a theorem and not an assumption.
-/

namespace FloLobby.Map
open FloLobby.Proto

/-- `MapSha1(pub [u8; 20])`. -/
structure MapSha1 where
  bytes : List UInt8
  length_eq : bytes.length = 20
  deriving DecidableEq

@[ext]
theorem MapSha1.ext {s t : MapSha1} (h : s.bytes = t.bytes) : s = t := by
  cases s; cases t; simp_all

/-- `&xs[lo..hi]`; `none` where Rust panics. -/
def slice {α : Type} (xs : List α) (lo hi : Nat) : Option (List α) :=
  if lo ≤ hi ∧ hi ≤ xs.length then some ((xs.take hi).drop lo) else none

/-- `xs[lo..hi].clone_from_slice(src)` on a fixed array: the range is overwritten with
`src` and the length kept; `none` where Rust panics (the range is out of bounds or `src`
has another length). -/
def cloneFromSlice {α : Type} (xs : List α) (lo hi : Nat) (src : List α) :
    Option {ys : List α // ys.length = xs.length} :=
  if h : lo ≤ hi ∧ hi ≤ xs.length ∧ src.length = hi - lo then
    some ⟨xs.take lo ++ src ++ xs.drop hi, by simp; omega⟩
  else none

/-- `[0_u8; 20]`. -/
def zeros : List UInt8 := List.replicate 20 0

theorem zeros_length : zeros.length = 20 := by simp [zeros]

/-- `S2ProtoUnpack<Vec<u8>> for MapSha1`. The outer `none` is a panic. -/
def unpack (value : List UInt8) : Option (Except ProtoError MapSha1) := do
  let bytes := zeros
  let filled ←
    if value.length ≥ 20 then do
      let src ← slice value 0 20
      cloneFromSlice bytes 0 20 src
    else do
      let src ← slice value 0 value.length
      cloneFromSlice bytes 0 value.length src
  pure (.ok ⟨filled.1, filled.2.trans zeros_length⟩)

/-- `S2ProtoPack<Vec<u8>> for MapSha1`. -/
def pack (s : MapSha1) : Except ProtoError (List UInt8) := .ok s.bytes

/-- The twenty bytes `unpack` keeps: the first twenty of `v`, zero-padded. -/
def padded (v : List UInt8) : List UInt8 := (v ++ zeros).take 20

theorem padded_length (v : List UInt8) : (padded v).length = 20 := by
  simp [padded, zeros_length]

theorem unpack_eq (v : List UInt8) : unpack v = some (.ok ⟨padded v, padded_length v⟩) := by
  by_cases long : 20 ≤ v.length
  · have front : (v ++ zeros).take 20 = v.take 20 := List.take_append_of_le_length long
    simp [unpack, slice, cloneFromSlice, long, zeros_length, padded, front]
  · have short : v.length ≤ 20 := by omega
    have pad : zeros.drop v.length = zeros.take (20 - v.length) := by
      rw [zeros, List.drop_replicate, List.take_replicate, Nat.min_eq_left (Nat.sub_le 20 _)]
    simp [unpack, slice, cloneFromSlice, long, short, zeros_length, padded,
      List.take_append_eq_append_take, List.take_of_length_le short, pad]

theorem padded_eq_self {v : List UInt8} : padded v = v ↔ v.length = 20 := by
  constructor
  · intro same; rw [← same, padded_length]
  · intro len; simp [padded, len]

/-- `unpack` never panics and never fails: it keeps the first twenty bytes of its input,
zero-padded, so it inverts `pack`, and `pack ∘ unpack` is the identity exactly on inputs of
twenty bytes. -/
theorem unpack_total_pack_inverse :
    (∀ v : List UInt8, ∃ s : MapSha1, unpack v = some (.ok s) ∧ pack s = .ok (padded v)) ∧
    (∀ (s : MapSha1) (v : List UInt8), pack s = .ok v → unpack v = some (.ok s)) ∧
    (∀ (v : List UInt8) (s : MapSha1), unpack v = some (.ok s) → (pack s = .ok v ↔ v.length = 20)) := by
  refine ⟨fun v => ⟨_, unpack_eq v, rfl⟩, fun s v packed => ?_, fun v s unpacked => ?_⟩
  · obtain rfl : s.bytes = v := by simpa [pack] using packed
    rw [unpack_eq]
    congr
    exact padded_eq_self.mpr s.length_eq
  · rw [unpack_eq] at unpacked
    obtain rfl := Except.ok.inj (Option.some.inj unpacked)
    simp [pack, padded_eq_self]

end FloLobby.Map
