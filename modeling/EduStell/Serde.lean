/-
  Structs as JSON: `serde::Serialize` and `serde::Deserialize` over `serde_json::Value`.

  A struct is written as an object of its fields.  Reading it looks each field up by its name: one that
  is missing, or there twice, is an error, and the fields that it does not have are ignored.

  The class has the round trip as a field, so that a type with an instance is one that is read
  back.  Each instance of a struct proves its own from the lookup of its fields.
-/
import EduStell.Audit

namespace EduStell

/-- A type that is read back from the JSON it is written as. -/
class Serde (α : Type) where
  serialize : α → Value
  deserialize : Value → Option α
  deserialize_serialize : ∀ a, deserialize (serialize a) = some a

export Serde (serialize deserialize)

attribute [simp] Serde.deserialize_serialize

/-- A text is serialized as a string. -/
instance : Serde String where
  serialize := .string
  deserialize
    | .string s => some s
    | _ => none
  deserialize_serialize _ := rfl

/-- An id is serialized as its hyphenated text. -/
instance : Serde Uuid where
  serialize := .ofUuid
  deserialize
    | .string s => Uuid.parseStr s
    | _ => none
  deserialize_serialize := Uuid.parseStr_hyphenated

/-- The `i64` of a timestamp: a `DateTime` stays far within its range. -/
instance : Serde Int where
  serialize n := .number n.repr
  deserialize
    | .number literal => Text.readInt literal.toList
    | _ => none
  deserialize_serialize := Text.readInt_repr

/-! ## Fields

  The first field of a name is not enough: a field that is there twice is an error, so reading
  asks for exactly one. -/

namespace Value

/-- The one field of this name. -/
def field (name : String) : Value → Option Value
  | object fields =>
    match fields.filter fun f => f.1 = name with
    | [f] => some f.2
    | _ => none
  | _ => none

/-- The one field of this name, read. -/
def get {α : Type} [Serde α] (name : String) (v : Value) : Option α :=
  (v.field name).bind deserialize

/-- A field that is not there is not read. -/
theorem get_of_not_mem {α : Type} [Serde α] {fields : List (String × Value)} {name : String}
    (h : ∀ f ∈ fields, f.1 ≠ name) : ((object fields).get name : Option α) = none := by
  have hnone : (fields.filter fun f => f.1 = name) = [] :=
    List.filter_eq_nil_iff.mpr fun f hf => by simpa using h f hf
  rw [get, field, hnone]; rfl

/-- The first field is read, where no other has its name. -/
theorem get_cons {α : Type} [Serde α] {fields : List (String × Value)} {name : String} (a : α)
    (h : ∀ f ∈ fields, f.1 ≠ name) :
    (object ((name, serialize a) :: fields)).get name = some a := by
  have hnone : (fields.filter fun f => f.1 = name) = [] :=
    List.filter_eq_nil_iff.mpr fun f hf => by simpa using h f hf
  simp only [get, field, List.filter_cons, decide_true, if_true, hnone, Option.bind_some,
    Serde.deserialize_serialize]

end Value
end EduStell
