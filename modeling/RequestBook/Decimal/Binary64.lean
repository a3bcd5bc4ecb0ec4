/-! Double-precision numbers as exact values. The result of an operation is rounded to the nearest
double, a half to the even neighbour; a result beyond the largest double has no value. -/
namespace RequestBook.Decimal

/-- The value `significand * 2 ^ exponent`, negated when `negative`. The significand is below
`2 ^ 53`; it is at least `2 ^ 52` unless the exponent is the least one, `-1074`. -/
structure Binary64 where
  negative : Bool
  significand : Nat
  exponent : Int
  deriving DecidableEq, Repr

def twoTo (n : Nat) : Nat := Nat.pow 2 n

def tenTo (n : Nat) : Nat := Nat.pow 10 n

/-- The nearest integer to `n / d`, a half to the even one. -/
def roundDiv (n d : Nat) : Nat :=
  let q := n / d
  let r := n % d
  if 2 * r < d then q
  else if d < 2 * r then q + 1
  else if q % 2 = 0 then q else q + 1

def scaleDown (n d : Nat) (e : Int) : Nat × Nat :=
  if 0 ≤ e then (n, d * twoTo e.toNat) else (n * twoTo (-e).toNat, d)

def roundRatio (n d : Nat) : Option (Nat × Int) :=
  if n = 0 then some (0, -1074)
  else
    let guess : Int := (Nat.log2 n : Int) - Nat.log2 d - 52
    let (a, b) := scaleDown n d guess
    let e := max (if a < b * twoTo 52 then guess - 1 else guess) (-1074)
    let (a, b) := scaleDown n d e
    let m := roundDiv a b
    let (m, e) := if m = twoTo 53 then (twoTo 52, e + 1) else (m, e)
    if 971 < e then none else some (m, e)

namespace Binary64

def nearest? (n d : Nat) (e : Int) : Option Binary64 :=
  (roundRatio (n * twoTo e.toNat) (d * twoTo (-e).toNat)).map fun (m, e) => ⟨false, m, e⟩

/-- The greatest power of ten that is a double. -/
def greatestPower : Nat := 308

def powerOfTen? (power : Nat) : Option Binary64 := nearest? (tenTo power) 1 0

def timesTen? (x : Binary64) (power : Nat) : Option Binary64 :=
  if x.significand = 0 then some x
  else if power ≤ greatestPower then do
    let y ← powerOfTen? power
    nearest? (x.significand * y.significand) 1 (x.exponent + y.exponent)
  else none

/-- A quotient by a power of ten that is no double is taken in steps, each of which is rounded. -/
def overTen? (x : Binary64) (power : Nat) : Option Binary64 :=
  if x.significand = 0 then some x
  else do
    let y ← powerOfTen? (min power greatestPower)
    let quotient ← nearest? x.significand y.significand (x.exponent - y.exponent)
    if power ≤ greatestPower then some quotient else overTen? quotient (power - greatestPower)
termination_by power
decreasing_by simp only [greatestPower] at *; omega

/-- The double that `digits * 10 ^ power` is read as. The digits and the power of ten are rounded each
for itself, and so is what they make together; it need not be the nearest double to the number. -/
def ofDecimal? (negative : Bool) (digits : Nat) (power : Int) : Option Binary64 := do
  let whole ← nearest? digits 1 0
  let x ← if 0 ≤ power then whole.timesTen? power.toNat else whole.overTen? (-power).toNat
  return { x with negative := negative }

end Binary64

end RequestBook.Decimal
