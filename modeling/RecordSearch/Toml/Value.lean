import RecordSearch.Decimal.Binary64

/-!
TOML values. Of a number or a date only as much is kept as its reader can fail on: an integer must
fit 128 bits and a float must be finite.
-/

namespace RecordSearch

inductive Toml where
  | string (s : String)
  | boolean (b : Bool)
  | integer (n : Int)
  /-- A float in decimal notation, without its sign. -/
  | decimal (significand : Nat) (exponent : Int)
  /-- An infinity, or not a number. -/
  | special
  /-- A date, a time or both. -/
  | date
  | array (items : List Toml)
  | table (entries : List (String × Toml))
  deriving Repr, Inhabited

namespace Toml

mutual

/-- The numbers in a value are within the range of their types. -/
def isReadable : Toml → Bool
  | integer n => -(2 ^ 127) ≤ n && n < 2 ^ 128
  | decimal significand exponent => Decimal.Binary64.isFiniteDecimal significand exponent
  | array items => readableItems items
  | table entries => readableEntries entries
  | _ => true

def readableItems : List Toml → Bool
  | [] => true
  | v :: vs => v.isReadable && readableItems vs

def readableEntries : List (String × Toml) → Bool
  | [] => true
  | (_, v) :: es => v.isReadable && readableEntries es

end

end Toml

end RecordSearch
