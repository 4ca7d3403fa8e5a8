import QualityGate.Dictionary

/-!
# JSON values

Numbers keep the way they were written: natural numbers and negative integers that fit into 64 bits
are exact, all others are floating point.  The members of an object are a dictionary.
-/

namespace QualityGate

/-- A number of a JSON document. -/
inductive JsonNumber where
  | natural (value : Nat)
  | negative (magnitude : Nat)
  | float (value : Float)
deriving Inhabited

/-- A JSON document. -/
inductive Json where
  | null
  | boolean (value : Bool)
  | number (value : JsonNumber)
  | text (value : String)
  | array (items : List Json)
  | object (members : List (String × Json))
deriving Inhabited

namespace JsonNumber

/-- The number as floating point. -/
def toFloat : JsonNumber → Float
  | .natural value => Float.ofNat value
  | .negative magnitude => -(Float.ofNat magnitude)
  | .float value => value

end JsonNumber

namespace Json

/-- A natural number. -/
def natural (value : Nat) : Json :=
  .number (.natural value)

/-- An integer. -/
def integer (value : Int) : Json :=
  if value < 0 then .number (.negative value.natAbs) else .number (.natural value.natAbs)

/-- A floating point number. -/
def float (value : Float) : Json :=
  .number (.float value)

/-- A list of texts. -/
def texts (values : List String) : Json :=
  .array (values.map .text)

/-- A value, or `null` without one. -/
def ofOption {α : Type} (encode : α → Json) : Option α → Json
  | some value => encode value
  | none => .null

/-- The member of an object under a key. -/
def member? (key : String) : Json → Option Json
  | .object members => List.lookup key members
  | _ => none

/-- The text of a text value. -/
def text? : Json → Option String
  | .text value => some value
  | _ => none

/-- The items of an array. -/
def items? : Json → Option (List Json)
  | .array items => some items
  | _ => none

end Json
end QualityGate
