import Mathlib.Data.List.Basic
import Mathlib.Data.Int.Notation

/-!
# JSON values

A parsed document. A number is kept as the kind that the parser made of it;
a `double` is known by its bits.
-/

namespace CryptoDeal

inductive JsonValue where
  | null
  | bool (value : Bool)
  | int64 (value : ℤ)
  | uint64 (value : ℕ)
  | double (bits : UInt64)
  | string (text : String)
  | array (items : List JsonValue)
  | object (members : List (String × JsonValue))

abbrev JsonObject := List (String × JsonValue)

namespace JsonObject

/-- `boost::json::object::find`. -/
def find (object : JsonObject) (field : String) : Option JsonValue := object.lookup field

/-- Every member is one of these. -/
def OnlyFields (object : JsonObject) (allowed : List String) : Prop :=
  ∀ member ∈ object, member.1 ∈ allowed

/-- The member is there, and is a non-empty string. -/
def HasText (object : JsonObject) (field text : String) : Prop :=
  object.find field = some (.string text) ∧ text ≠ ""

/-- The member is missing, or a non-empty string. -/
def HasOptionalText (object : JsonObject) (field : String) : Option String → Prop
  | none => object.find field = none
  | some text => object.HasText field text

end JsonObject

end CryptoDeal
