/-!
# Settings documents

The values of a settings document.  A date or time is only known to be one, and a number that is too
large is only known to be too large: no setting has such a value.
-/

namespace QualityGate

/-- A value of a settings document. -/
inductive Toml where
  | text (value : String)
  | integer (value : Int)
  | float (value : Float)
  | boolean (value : Bool)
  | moment
  /-- A number that no kind of numbers has room for. -/
  | oversized
  | array (items : List Toml)
  | table (entries : List (String × Toml))
deriving Inhabited

namespace Toml

/-- Nothing is in the array or table. -/
def isEmpty : Toml → Bool
  | .array items => items.isEmpty
  | .table entries => entries.isEmpty
  | _ => false

mutual

/-- No number in the value is too large. -/
def isSound : Toml → Bool
  | .oversized => false
  | .array items => areSound items
  | .table entries => areEntriesSound entries
  | _ => true

/-- No number in the values is too large. -/
def areSound : List Toml → Bool
  | [] => true
  | item :: rest => isSound item && areSound rest

/-- No number in the entries is too large. -/
def areEntriesSound : List (String × Toml) → Bool
  | [] => true
  | (_, value) :: rest => isSound value && areEntriesSound rest

end

end Toml
end QualityGate
