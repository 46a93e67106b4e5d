import RecordSearch.Decimal.Binary64

/-!
The fewest decimal digits that read back as a given binary64 number, and among those the nearest,
or the even one of two that are as near. For one digit, two digits and so on the two decimals on
either side of the number are tried; the first length with one that rounds to the number wins.
-/

namespace RecordSearch.Decimal

/-- The number `digits * 10 ^ exponent`. -/
structure Numeral where
  digits : Nat
  exponent : Int
  deriving DecidableEq, Repr

/-! ## Comparing a decimal with a binary number -/

/-- Both sides of `c * 10 ^ k` against `m * 2 ^ e`, as natural numbers of one scale. -/
def sides (c : Nat) (k : Int) (m : Nat) (e : Int) : Nat × Nat :=
  (c * Nat.pow 10 k.toNat * Nat.pow 2 (-e).toNat, m * Nat.pow 2 e.toNat * Nat.pow 10 (-k).toNat)

/-- `c * 10 ^ k` rounds to `x`: it lies between the midpoints to the neighbours of `x`, which
themselves round to the even one of the two. -/
def roundsTo (x : Binary64) (c : Nat) (k : Int) : Bool :=
  let below := if x.mantissa = Nat.pow 2 52 ∧ Binary64.leastExponent < x.exponent then 1 else 2
  let (l, lm) := sides c k (4 * x.mantissa - below) (x.exponent - 2)
  let (h, hm) := sides c k (4 * x.mantissa + 2) (x.exponent - 2)
  if x.mantissa % 2 = 0 then lm ≤ l && h ≤ hm else lm < l && h < hm

/-- The largest `c` with `c * 10 ^ k` at most `x`. -/
def floorAt (x : Binary64) (k : Int) : Nat :=
  x.num * Nat.pow 10 (-k).toNat / (x.den * Nat.pow 10 k.toNat)

/-- Of `c` and `c + 1`, the one with `· * 10 ^ k` nearer to `x`; of two that are as near, the even
one. -/
def nearer (x : Binary64) (c : Nat) (k : Int) : Nat :=
  let (middle, m) := sides (2 * c + 1) k (2 * x.mantissa) x.exponent
  if m < middle || (m = middle && c % 2 = 0) then c else c + 1

/-- The one of the two neighbours of `x` with step `10 ^ k` that reads back, or the nearer one. -/
def neighbour? (x : Binary64) (k : Int) : Option Numeral :=
  let c := floorAt x k
  match roundsTo x c k, roundsTo x (c + 1) k with
  | false, false => none
  | true, false => some ⟨c, k⟩
  | false, true => some ⟨c + 1, k⟩
  | true, true => some ⟨nearer x c k, k⟩

/-! ## The search -/

/-- The decimal exponent of the first digit of `x`. -/
def leadingExponent (x : Binary64) : Int :=
  if x.den ≤ x.num then (Nat.toDigits 10 (x.num / x.den)).length - 1
  else -((Nat.toDigits 10 ((x.den + x.num - 1) / x.num - 1)).length : Int)

def dropZeros : Nat → Numeral → Numeral
  | 0, d => d
  | n + 1, d =>
    if d.digits ≠ 0 ∧ d.digits % 10 = 0 then dropZeros n ⟨d.digits / 10, d.exponent + 1⟩ else d

/-- Seventeen digits always suffice. -/
def shortest (x : Binary64) : Numeral :=
  if x.mantissa = 0 then ⟨0, 0⟩
  else
    let top := leadingExponent x
    match (List.range 17).findSome? fun (i : Nat) => neighbour? x (top - i) with
    | some d => dropZeros 17 d
    | none => ⟨floorAt x (top - 16), top - 16⟩

example : shortest ⟨0x1999999999999A, -56⟩ = ⟨1, -1⟩ := by decide +kernel
example : shortest ⟨1, -1074⟩ = ⟨5, -324⟩ := by decide +kernel
example : shortest ⟨2 ^ 53 - 1, 971⟩ = ⟨17976931348623157, 292⟩ := by decide +kernel
example : shortest ⟨7518250364439758, -3⟩ = ⟨9397812955549698, -1⟩ := by decide +kernel
example : shortest ⟨2 ^ 52, 12⟩ = ⟨18446744073709552, 3⟩ := by decide +kernel

end RecordSearch.Decimal
