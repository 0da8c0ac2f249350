/-
Decoding documents into typed values.

A decoder gives `none` where the document is not of its form. The fields of a structure come from an
object, by name and with unknown names ignored, or from an array, in their order; `fields?` brings
both to an object with exactly these fields.
-/
import ControlPlane.Json

namespace ControlPlane
namespace Json

/-- What a decoder of `α` accepts. -/
abbrev Decoder (α : Type) := Json → Option α

namespace Decode

def text : Decoder String
  | .string s => some s
  | _ => none

def boolean : Decoder Bool
  | .bool b => some b
  | _ => none

/-- An integer in a range. A float is none, whole or not. -/
def integer (isInRange : Int → Bool) : Decoder Int
  | .number (.integer n) => if isInRange n then some n else none
  | _ => none

/-- A signed integer of 64 bits. -/
def int64 : Decoder Int := integer (Word.holdsSigned 64)

/-- A signed integer of 32 bits. -/
def int32 : Decoder Int := integer (Word.holdsSigned 32)

/-- An unsigned integer of the given width. -/
def unsigned (bits : Nat) (doc : Json) : Option Nat :=
  (integer (Word.holdsUnsigned bits) doc).map Int.toNat

/-- `null` for no value. -/
def optional {α : Type} (item : Decoder α) : Decoder (Option α)
  | .null => some none
  | doc => (item doc).map some

def list {α : Type} (item : Decoder α) : Decoder (List α)
  | .array items => items.mapM item
  | _ => none

/-- An object with values of one form under any names. -/
def dictionary {α : Type} (item : Decoder α) : Decoder (List (String × α))
  | .record members => members.mapM fun (name, value) => (item value).map (name, ·)
  | _ => none

/-- A free-form object. -/
def freeForm : Decoder (List (String × Json)) := dictionary some

/-- One of several names, alone or as the one member of an object with the value `null`. -/
def enumeration {α : Type} (named : String → Option α) : Decoder α
  | .string name => named name
  | .record [(name, .null)] => named name
  | _ => none

end Decode

/-- A field of a structure: what a document may leave out. -/
inductive Field
  /-- The field has to be there. -/
  | required (name : String)
  /-- An object may leave the field out, which means `null`. -/
  | optional (name : String)
  /-- An object, and an array at its end, may leave the field out. -/
  | defaulted (name : String) (value : Json)

namespace Field

def name : Field → String
  | .required n => n
  | .optional n => n
  | .defaulted n _ => n

/-- The field's document among the members of an object. -/
def find? (members : List (String × Json)) (field : Field) : Option Json :=
  match members.lookup field.name, field with
  | some value, _ => some value
  | none, .required _ => none
  | none, .optional _ => some .null
  | none, .defaulted _ value => some value

/-- The documents of the fields from the items of an array: no item may be left over, and only
fields with a default may be missing. -/
def align? : List Field → List Json → Option (List Json)
  | [], [] => some []
  | [], _ :: _ => none
  | _ :: fields, item :: items => (align? fields items).map (item :: ·)
  | .defaulted _ value :: fields, [] => (align? fields []).map (value :: ·)
  | _ :: _, [] => none

end Field

/-- The structure as an object that has each of its fields, with all others left out. -/
def fields? (fields : List Field) (doc : Json) : Option Json :=
  let values :=
    match doc with
    | .record members => fields.mapM (Field.find? members)
    | .array items => Field.align? fields items
    | _ => none
  values.map fun values => object ((fields.map Field.name).zip values)

end Json
end ControlPlane
