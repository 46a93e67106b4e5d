import RecordSearch.Toml.Value
import RecordSearch.Text.Digits

/-!
TOML scalars that are not in quotes: truth values, numbers, dates and times. Each reader takes up
the whole text it is given.
-/

namespace RecordSearch.Toml

open RecordSearch.Text

/-! ## Numbers -/

/-- Digits with single underscores between them, without the underscores. -/
def digitGroups? (isDigit : Char → Bool) : (afterDigit : Bool) → List Char → Option (List Char)
  | afterDigit, [] => if afterDigit then some [] else none
  | afterDigit, c :: cs =>
    if c = '_' then (if afterDigit then digitGroups? isDigit false cs else none)
    else if isDigit c then (digitGroups? isDigit true cs).map (c :: ·)
    else none

def digits? (isDigit : Char → Bool) (cs : List Char) : Option (List Char) :=
  digitGroups? isDigit false cs

/-- Decimal digits without a needless zero in front. -/
def wholePart? (cs : List Char) : Option (List Char) :=
  match digits? Char.isDigit cs with
  | some ds => if ds.head? = some '0' && ds.length ≠ 1 then none else some ds
  | none => none

def splitSign (cs : List Char) : Option Bool × List Char :=
  match cs with
  | '-' :: rest => (some true, rest)
  | '+' :: rest => (some false, rest)
  | _ => (none, cs)

def withSign (negative : Option Bool) (n : Nat) : Int := if negative = some true then -n else n

def isExponentMark (c : Char) : Bool := c = 'e' || c = 'E'

/-- A float has a fraction, an exponent or both. -/
def float? (cs : List Char) : Option Toml := do
  let (mantissa, rest) := (cs.takeWhile (!isExponentMark ·), cs.dropWhile (!isExponentMark ·))
  let exponent : Int ← match rest with
    | [] => some 0
    | _ :: es =>
      let (negative, ds) := splitSign es
      (digits? Char.isDigit ds).map fun ds => withSign negative (natOfDigits 10 ds)
  let whole ← wholePart? (mantissa.takeWhile (· ≠ '.'))
  let fraction ← match mantissa.dropWhile (· ≠ '.') with
    | [] => some []
    | _ :: ds => digits? Char.isDigit ds
  some (decimal (natOfDigits 10 (whole ++ fraction)) (exponent - fraction.length))

def number? (cs : List Char) : Option Toml :=
  match cs with
  | '0' :: 'x' :: ds => (digits? isHexDigit ds).map fun ds => integer (natOfDigits 16 ds)
  | '0' :: 'o' :: ds =>
    (digits? (fun c => '0' ≤ c && c ≤ '7') ds).map fun ds => integer (natOfDigits 8 ds)
  | '0' :: 'b' :: ds =>
    (digits? (fun c => c = '0' || c = '1') ds).map fun ds => integer (natOfDigits 2 ds)
  | _ =>
    let (negative, ds) := splitSign cs
    if ds = "inf".toList || ds = "nan".toList then some special
    else if ds.any (fun c => c = '.' || isExponentMark c) then float? ds
    else (wholePart? ds).map fun ds => integer (withSign negative (natOfDigits 10 ds))

/-! ## Dates and times -/

def twoDigits? : List Char → Option (Nat × List Char)
  | a :: b :: rest =>
    if a.isDigit && b.isDigit then some (natOfDigits 10 [a, b], rest) else none
  | _ => none

def isLeapYear (y : Nat) : Bool := y % 4 = 0 && (y % 100 ≠ 0 || y % 400 = 0)

def daysInMonth (year month : Nat) : Nat :=
  if month = 2 then (if isLeapYear year then 29 else 28)
  else if month = 4 || month = 6 || month = 9 || month = 11 then 30
  else 31

/-- The text after a date. -/
def afterDate? (cs : List Char) : Option (List Char) := do
  let (century, cs) ← twoDigits? cs
  let (year, cs) ← twoDigits? cs
  let ('-', cs) := (cs.headD ' ', cs.drop 1) | none
  let (month, cs) ← twoDigits? cs
  let ('-', cs) := (cs.headD ' ', cs.drop 1) | none
  let (day, cs) ← twoDigits? cs
  if 1 ≤ month && month ≤ 12 && 1 ≤ day && day ≤ daysInMonth (century * 100 + year) month then
    some cs
  else none

/-- The text after the seconds of a time and their fraction, which may both be left out. -/
def afterSeconds? (cs : List Char) : Option (List Char) :=
  match cs with
  | ':' :: cs => do
    let (second, cs) ← twoDigits? cs
    if 60 < second then none
    else
      match cs with
      | '.' :: cs =>
        if (cs.headD ' ').isDigit then some (cs.dropWhile Char.isDigit) else none
      | _ => some cs
  | _ => some cs

/-- The text after hours and minutes. -/
def afterMinutes? (cs : List Char) : Option (List Char) := do
  let (hour, cs) ← twoDigits? cs
  let (':', cs) := (cs.headD ' ', cs.drop 1) | none
  let (minute, cs) ← twoDigits? cs
  if hour ≤ 23 && minute ≤ 59 then some cs else none

def afterTime? (cs : List Char) : Option (List Char) := (afterMinutes? cs).bind afterSeconds?

/-- Nothing, or the distance from universal time. -/
def isOffset (cs : List Char) : Bool :=
  match cs with
  | [] | ['Z'] | ['z'] => true
  | '+' :: cs | '-' :: cs => afterMinutes? cs = some []
  | _ => false

def isDateTime (cs : List Char) : Bool :=
  match afterDate? cs with
  | some [] => true
  | some (c :: rest) =>
    (c = 'T' || c = 't' || c = ' ') && ((afterTime? rest).map isOffset).getD false
  | none => afterTime? cs = some []

/-- A day, which may be followed by a blank and a time. -/
def isDay (cs : List Char) : Bool := afterDate? cs = some []

/-! ## All of them -/

def scalar? (cs : List Char) : Option Toml :=
  if cs = "true".toList then some (boolean true)
  else if cs = "false".toList then some (boolean false)
  else if isDateTime cs then some date
  else number? cs

example : (scalar? "1_000".toList).map isReadable = some true := by decide +kernel
example : (scalar? "01".toList).isNone = true := by decide +kernel
example : (scalar? "6.02e+23".toList).map isReadable = some true := by decide +kernel
example : (scalar? "1e400".toList).map isReadable = some false := by decide +kernel
example : (scalar? "1979-02-29".toList).isNone = true := by decide +kernel
example : (scalar? "1979-05-27T07:32:00.5-08:00".toList).isSome = true := by decide +kernel

end RecordSearch.Toml
