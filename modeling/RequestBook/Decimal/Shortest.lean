import RequestBook.Decimal.Binary64

/-! The shortest decimal that reads back as a given double. Of the decimals with the fewest digits
in the double's rounding interval the nearest is taken, and of two equally near ones the even. -/
namespace RequestBook.Decimal

structure Scientific where
  digits : Nat
  power : Int
  deriving DecidableEq, Repr

/-- The greatest `p` with `10 ^ p ≤ significand * 2 ^ exponent`, for a positive significand. -/
def decimalExponent (significand : Nat) (exponent : Int) : Int :=
  let notBelow (p : Int) : Bool :=
    tenTo p.toNat * twoTo (-exponent).toNat ≤ significand * twoTo exponent.toNat * tenTo (-p).toNat
  let guess := ((Nat.log2 significand + exponent) * 30103) / 100000
  if notBelow (guess + 1) then guess + 1
  else if notBelow guess then guess
  else guess - 1

/-- The decimal on the grid of the multiples of `10 ^ power` that the double rounds from, if there
is one. Distances are counted in quarters of the double's last place. -/
def onGrid? (x : Binary64) (power : Int) : Option Nat :=
  let scale := twoTo (x.exponent - 2).toNat * tenTo (-power).toNat
  let unit := tenTo power.toNat * twoTo (2 - x.exponent).toNat
  let centre := 4 * x.significand
  let low := if x.significand = twoTo 52 ∧ -1074 < x.exponent then centre - 1 else centre - 2
  let inside (c : Nat) : Bool :=
    if x.significand % 2 = 0 then low * scale ≤ c * unit && c * unit ≤ (centre + 2) * scale
    else low * scale < c * unit && c * unit < (centre + 2) * scale
  let below := centre * scale / unit
  let above := below + 1
  match inside below, inside above with
  | true, true =>
    let down := centre * scale - below * unit
    let up := above * unit - centre * scale
    if down < up then some below
    else if up < down then some above
    else if below % 2 = 0 then some below else some above
  | true, false => some below
  | false, true => some above
  | false, false => none

def Scientific.strip (fuel : Nat) (s : Scientific) : Scientific :=
  match fuel with
  | 0 => s
  | fuel + 1 =>
    if s.digits ≠ 0 ∧ s.digits % 10 = 0 then strip fuel ⟨s.digits / 10, s.power + 1⟩ else s

/-- The shortest decimal of a double; seventeen digits always suffice. -/
def Binary64.shortest (x : Binary64) : Scientific :=
  if x.significand = 0 then ⟨0, 0⟩
  else
    let top := decimalExponent x.significand x.exponent
    let hit := (List.range 17).findSome? fun (extra : Nat) =>
      let power := top - extra
      (onGrid? x power).map fun digits => (⟨digits, power⟩ : Scientific)
    match hit with
    | some s => s.strip 17
    | none => ⟨x.significand, x.exponent⟩

-- The double nearest to 122.416294033786585 is shown as 122.41629403378658; it is not the one that is read.
example : (Binary64.ofDecimal? false 122416294033786585 (-15)).map Binary64.shortest =
    some ⟨1224162940337866, -13⟩ := by decide +kernel

end RequestBook.Decimal
