import ModelReach.Decimal.Binary64

/-! The fewest decimal digits that read back as a given double-precision number. -/
namespace ModelReach.Binary64
set_option autoImplicit false

/-- Digits without a leading zero and the place of the point: the value is `0.digits * 10 ^ point`. -/
structure DecimalDigits where
  digits : List Char
  point : Int
  deriving DecidableEq, Repr

def decimalLength (n : Nat) : Nat := (Nat.toDigits 10 n).length

def floorLog10 (num den : Nat) : Int :=
  if den ≤ num then decimalLength (num / den) - 1
  else -(decimalLength ((den + num - 1) / num - 1) : Int)

/-- The reals that round to `m * 2 ^ q`: numerators of the lower and the upper end over four times the
unit, and whether the ends belong to it. Below a power of two the neighbours lie half as far. -/
structure RoundingInterval where
  lower : Nat
  upper : Nat
  closed : Bool

/-- The interval of a positive significand, in quarters of its unit. -/
def roundingInterval (m : Nat) (q : Int) : RoundingInterval :=
  if m = Nat.pow 2 52 ∧ -1074 < q then ⟨4 * m - 1, 4 * m + 2, true⟩
  else ⟨4 * m - 2, 4 * m + 2, m % 2 = 0⟩

/-- Does `d * 10 ^ k` lie in the interval of quarters of `2 ^ q`? -/
def RoundingInterval.holds (i : RoundingInterval) (q : Int) (d : Nat) (k : Int) : Bool :=
  let (dn, dd) := scaled d 10 k
  let (un, ud) := scaled 1 2 (q - 2)
  let value := dn * ud
  let unit := un * dd
  if i.closed then i.lower * unit ≤ value && value ≤ i.upper * unit
  else i.lower * unit < value && value < i.upper * unit

/-- On the grid of multiples of `10 ^ k`, the multiple in the interval that is nearest to the value;
of two equally near, the even one. -/
def nearestOnGrid (m : Nat) (q : Int) (k : Int) : Option Nat :=
  let (vn, vd) := scaled m 2 q
  let (gn, gd) := scaled 1 10 k
  let num := vn * gd
  let den := vd * gn
  let below := num / den
  let i := roundingInterval m q
  match i.holds q below k, i.holds q (below + 1) k with
  | true, true => some (roundQuotient num den)
  | true, false => some below
  | false, true => some (below + 1)
  | false, false => none

/-- Try grids from `n` digits up to seventeen, which always has a hit. -/
def shortestFrom (m : Nat) (q : Int) (top : Int) : Nat → Nat → Nat × Int
  | 0, _ => (m, 0)
  | fuel + 1, n =>
    let k := top - n + 1
    match nearestOnGrid m q k with
    | some d => (d, k)
    | none => shortestFrom m q top fuel (n + 1)

def dropTrailingZeros (ds : List Char) : List Char :=
  (ds.reverse.dropWhile (· == '0')).reverse

def shortestDigits (m : Nat) (q : Int) : DecimalDigits :=
  if m = 0 then ⟨['0'], 1⟩
  else
    let (num, den) := scaled m 2 q
    let (d, k) := shortestFrom m q (floorLog10 num den) 17 1
    let ds := Nat.toDigits 10 d
    ⟨dropTrailingZeros ds, k + ds.length⟩

end ModelReach.Binary64
