/-!
Non-negative numbers of the binary64 format, as exact values with rounding to nearest, ties to
even. A number is `mantissa * 2 ^ exponent` in its one canonical form: the mantissa has 53 bits,
or the exponent is the least one. `nearest?` rounds a quotient and gives nothing when the result
lies beyond the largest finite number.
-/

namespace RecordSearch.Decimal

structure Binary64 where
  mantissa : Nat
  exponent : Int
  deriving DecidableEq, Repr

namespace Binary64

def leastExponent : Int := -1074

def greatestExponent : Int := 971

def zero : Binary64 := ⟨0, leastExponent⟩

/-! ## As a quotient -/

def num (x : Binary64) : Nat := x.mantissa * Nat.pow 2 x.exponent.toNat

def den (x : Binary64) : Nat := Nat.pow 2 (-x.exponent).toNat

/-! ## Rounding -/

/-- The nearest integer to `n / d`, a half going to the even neighbour. -/
def roundDiv (n d : Nat) : Nat :=
  let q := n / d
  let r := n % d
  if 2 * r < d then q else if d < 2 * r then q + 1 else q + q % 2

/-- Numerator and denominator of `n / d / 2 ^ e`. -/
def scaled (n d : Nat) (e : Int) : Nat × Nat := (n * Nat.pow 2 (-e).toNat, d * Nat.pow 2 e.toNat)

/-- The exponent that leaves 53 bits before the point of `n / d`, or the least one. -/
def exponentOf (n d : Nat) : Int :=
  let e : Int := n.log2 - d.log2 - 52
  let (a, b) := scaled n d e
  max leastExponent (if a < b * Nat.pow 2 52 then e - 1 else e)

def nearest? (n d : Nat) : Option Binary64 :=
  if n = 0 then some zero
  else
    let e := exponentOf n d
    let (a, b) := scaled n d e
    let m := roundDiv a b
    let x : Binary64 := if m = Nat.pow 2 53 then ⟨Nat.pow 2 52, e + 1⟩ else ⟨m, e⟩
    if greatestExponent < x.exponent then none else some x

def mul? (x y : Binary64) : Option Binary64 := nearest? (x.num * y.num) (x.den * y.den)

def div? (x y : Binary64) : Option Binary64 := nearest? (x.num * y.den) (x.den * y.num)

/-! ## Powers of ten -/

/-- The exponents of the powers of ten that are finite. -/
def greatestPowerOfTen : Nat := 308

def powerOfTen? (k : Nat) : Option Binary64 :=
  if k ≤ greatestPowerOfTen then nearest? (Nat.pow 10 k) 1 else none

def divideTimes (d : Binary64) : Nat → Binary64 → Option Binary64
  | 0, x => some x
  | n + 1, x => if x = zero then some zero else (x.div? d).bind (divideTimes d n)

/-- Division by `10 ^ k`, in steps by the greatest power of ten with each step rounded. -/
def scaleDown? (x : Binary64) (k : Nat) : Option Binary64 :=
  let steps := (k - 1) / greatestPowerOfTen
  (powerOfTen? greatestPowerOfTen).bind fun d =>
    (divideTimes d steps x).bind fun y =>
      (powerOfTen? (k - greatestPowerOfTen * steps)).bind y.div?

/-- `significand * 10 ^ exponent`, the significand rounded first and the product or quotient with
the power of ten rounded again. -/
def ofDecimal? (significand : Nat) (exponent : Int) : Option Binary64 :=
  match nearest? significand 1 with
  | none => none
  | some x =>
    if exponent < 0 then scaleDown? x (-exponent).toNat
    else if x = zero then some zero
    else (powerOfTen? exponent.toNat).bind x.mul?

/-- `significand * 10 ^ exponent`, rounded once, is finite. The number of digits before the point
settles all but the largest numbers. -/
def isFiniteDecimal (significand : Nat) (exponent : Int) : Bool :=
  let size : Int := (Nat.toDigits 10 significand).length + exponent
  if significand = 0 || size ≤ greatestPowerOfTen then true
  else
    size ≤ greatestPowerOfTen + 1 &&
      (nearest? (significand * Nat.pow 10 exponent.toNat) (Nat.pow 10 (-exponent).toNat)).isSome

example : nearest? 1 10 = some ⟨0x1999999999999A, -56⟩ := by decide +kernel
example : nearest? (2 ^ 1024) 1 = none := by decide +kernel
example : nearest? 1 (2 ^ 1075) = some zero := by decide +kernel
example : nearest? 3 (2 ^ 1075) = some ⟨2, -1074⟩ := by decide +kernel

end Binary64

end RecordSearch.Decimal
