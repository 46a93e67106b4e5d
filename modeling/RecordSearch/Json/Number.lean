import RecordSearch.Json.Value
import RecordSearch.Decimal.Shortest
import RecordSearch.Text.Digits

/-!
The text of numbers. An integer is written with its digits. Any other number is written with the
fewest digits that read back: positional from 10^-5 up to, not including, 10^16, always with a
digit after the point, and in scientific form with a signed exponent otherwise.

Reading takes a literal whose value fits 64 bits as an integer and any other as a binary64 number;
`-0` is the latter. Digits that do not fit the 64 bits of the significand do not reach it, and
those before the point still count for its exponent.
-/

namespace RecordSearch.Number

open RecordSearch.Decimal RecordSearch.Text

/-! ## Writing -/

def digitsOf (n : Nat) : List Char := Nat.toDigits 10 n

/-- The decimal exponents of first digits that are written positionally. -/
def isPositional (leading : Int) : Bool := -5 ≤ leading && leading < 16

def positional (ds : List Char) (leading : Int) : List Char :=
  if leading < 0 then
    ['0', '.'] ++ List.replicate (-leading - 1).toNat '0' ++ ds
  else
    let whole := leading.toNat + 1
    if ds.length ≤ whole then ds ++ List.replicate (whole - ds.length) '0' ++ ['.', '0']
    else ds.take whole ++ '.' :: ds.drop whole

def scientific (ds : List Char) (leading : Int) : List Char :=
  let mantissa := match ds with
    | [] => []
    | [d] => [d]
    | d :: rest => d :: '.' :: rest
  mantissa ++ 'e' :: (if leading < 0 then '-' else '+') :: digitsOf leading.natAbs

def magnitudeText (x : Binary64) : List Char :=
  if x.mantissa = 0 then ['0', '.', '0']
  else
    let d := shortest x
    let ds := digitsOf d.digits
    let leading := d.exponent + ds.length - 1
    if isPositional leading then positional ds leading else scientific ds leading

def text : Number → String
  | .integer n => String.ofList ((if n < 0 then ['-'] else []) ++ digitsOf n.natAbs)
  | .real negative x => String.ofList ((if negative then ['-'] else []) ++ magnitudeText x)

/-! ## Reading -/

def greatestSignificand : Nat := Nat.pow 2 64 - 1

/-- Appends digits to a significand while it fits; the count is of the digits left out. -/
def extendSignificand (significand : Nat) : List Char → Nat × Nat
  | [] => (significand, 0)
  | d :: ds =>
    let next := significand * 10 + digitValue d
    if next ≤ greatestSignificand then extendSignificand next ds else (significand, ds.length + 1)

/-- The parts of a literal: digits before the point, after it, and the exponent. -/
structure Literal where
  negative : Bool
  whole : List Char
  fraction : Option (List Char)
  exponent : Option Int
  deriving DecidableEq, Repr

def spanDigits (cs : List Char) : List Char × List Char :=
  (cs.takeWhile Char.isDigit, cs.dropWhile Char.isDigit)

def exponent? (cs : List Char) : Option (Int × List Char) :=
  let (negative, cs) := match cs with
    | '-' :: rest => (true, rest)
    | '+' :: rest => (false, rest)
    | _ => (false, cs)
  let (ds, rest) := spanDigits cs
  if ds.isEmpty then none
  else some (if negative then -(natOfDigits 10 ds : Int) else natOfDigits 10 ds, rest)

/-- A literal that takes up all of `cs`. No digit may follow a leading zero. -/
def literal? (cs : List Char) : Option Literal :=
  let (negative, cs) := match cs with
    | '-' :: rest => (true, rest)
    | _ => (false, cs)
  let (whole, cs) := spanDigits cs
  if whole.isEmpty || (whole.head? = some '0' && whole.length ≠ 1) then none
  else
    let (hasPoint, fraction, cs) := match cs with
      | '.' :: rest => (true, spanDigits rest)
      | _ => (false, [], cs)
    if hasPoint && fraction.isEmpty then none
    else
      let written := if hasPoint then some fraction else none
      match cs with
      | [] => some ⟨negative, whole, written, none⟩
      | c :: rest =>
        if c = 'e' || c = 'E' then
          match exponent? rest with
          | some (e, []) => some ⟨negative, whole, written, some e⟩
          | _ => none
        else none

/-- Nothing when the value is beyond the largest binary64 number. -/
def ofLiteral? (l : Literal) : Option Number :=
  let (s, dropped) := extendSignificand 0 l.whole
  if l.fraction.isNone && l.exponent.isNone && dropped = 0 then
    if !l.negative then some (.integer s)
    else if s ≠ 0 && s ≤ Nat.pow 2 63 then some (.integer (-s))
    else (Binary64.nearest? s 1).map (.real true)
  else
    let fraction := l.fraction.getD []
    let (s, unread) := extendSignificand s fraction
    let exponent : Int := dropped - (fraction.length - unread : Nat) + l.exponent.getD 0
    (Binary64.ofDecimal? s exponent).map (.real l.negative)

def read? (cs : List Char) : Option Number := (literal? cs).bind ofLiteral?

example : read? "-0".toList = some (.real true Binary64.zero) := by decide +kernel
example : read? "18446744073709551615".toList = some (.integer 18446744073709551615) := by
  decide +kernel
example : (read? "18446744073709551616".toList).map text = some "1.8446744073709552e+19" := by
  decide +kernel
example : (read? "1.5e-10".toList).map text = some "1.5e-10" := by decide +kernel
example : (read? "0.00001".toList).map text = some "0.00001" := by decide +kernel
example : (read? "1e15".toList).map text = some "1000000000000000.0" := by decide +kernel
example : read? "1e400".toList = none := by decide +kernel

end RecordSearch.Number
