import Mathlib.Data.List.Basic

/-!
# Generated protobuf unpacking

The `S2ProtoEnum` and `S2ProtoUnpack` derives of `s2_grpc_utils` turn wire values into the
client's types. An enum is read by its discriminant; a message field that prost keeps as an
`Option` must be present.
-/

namespace FloLobby.Proto

/-- The errors of `s2_grpc_utils` that the modelled unpack code can raise. -/
inductive ProtoError where
  | unknownEnumValue (value : Int)
  | fieldValueNotPresent (field : String)
  deriving DecidableEq, Repr

/-- What `#[derive(S2ProtoEnum)]` generates for `unpack_i32`: the variant declared with
discriminant `value`. -/
def unpackEnum {α : Type} (variants : List (Int × α)) (value : Int) : Except ProtoError α :=
  match variants.lookup value with
  | some v => .ok v
  | none => .error (.unknownEnumValue value)

theorem unpackEnum_ok_iff {α : Type} {variants : List (Int × α)} {value : Int} {v : α} :
    unpackEnum variants value = .ok v ↔ variants.lookup value = some v := by
  unfold unpackEnum
  cases variants.lookup value <;> simp

theorem unpackEnum_error_iff {α : Type} {variants : List (Int × α)} {value : Int} :
    (∃ e, unpackEnum variants value = .error e) ↔ variants.lookup value = none := by
  unfold unpackEnum
  cases variants.lookup value <;> simp

/-- A message field that must be present: `none` is `FieldValueNotPresent`. -/
def extractField {α β : Type} (field : String) (unpack : β → Except ProtoError α) :
    Option β → Except ProtoError α
  | some b => unpack b
  | none => .error (.fieldValueNotPresent field)

end FloLobby.Proto
