/-!
Digits and the numbers they write. In a base beyond ten the letters count on, in either case.
-/

namespace RecordSearch.Text

def digitValue (c : Char) : Nat :=
  if c.isDigit then c.toNat - '0'.toNat
  else if 'a' ≤ c then c.toNat - 'a'.toNat + 10
  else c.toNat - 'A'.toNat + 10

def isHexDigit (c : Char) : Bool := c.isDigit || ('a' ≤ c && c ≤ 'f') || ('A' ≤ c && c ≤ 'F')

def natOfDigits (base : Nat) (ds : List Char) : Nat :=
  ds.foldl (fun n d => n * base + digitValue d) 0

/-- The number of hexadecimal digits, if all of them are such. -/
def hexNumber? (ds : List Char) : Option Nat :=
  if ds.all isHexDigit then some (natOfDigits 16 ds) else none

theorem digitValue_of_isDigit {c : Char} (h : c.isDigit = true) :
    digitValue c = c.toNat - '0'.toNat := if_pos h

end RecordSearch.Text
