/-! Double-precision numbers as a significand times a power of two, and the rounding of exact
quotients to them. All arithmetic is on naturals, so nothing here depends on the machine's floats. -/
namespace ModelReach
set_option autoImplicit false

/-- A double-precision number. A finite one is `significand * 2 ^ exponent` with a significand below
`2 ^ 53` and the least exponent that allows: at least `-1074`, and above that only if the significand
fills its 53 bits. -/
inductive Binary64 where
  | finite (negative : Bool) (significand : Nat) (exponent : Int)
  | infinite (negative : Bool)
  | nan
  deriving DecidableEq, Repr

namespace Binary64

/-! ## Exact quotients -/

/-- The quotient rounded to the nearest integer; a half goes to the even neighbour. -/
def roundQuotient (num den : Nat) : Nat :=
  let q := num / den
  let twice := 2 * (num % den)
  if twice < den then q else if den < twice then q + 1 else if q % 2 = 0 then q else q + 1

def scaled (n base : Nat) (e : Int) : Nat × Nat :=
  if 0 ≤ e then (n * Nat.pow base e.toNat, 1) else (n, Nat.pow base (-e).toNat)

def floorLog2 (num den : Nat) : Int :=
  let e : Int := (Nat.log2 num : Int) - (Nat.log2 den : Int)
  let fits := if 0 ≤ e then den * Nat.pow 2 e.toNat ≤ num else den ≤ num * Nat.pow 2 (-e).toNat
  if fits then e else e - 1

def zero : Binary64 := .finite false 0 (-1074)

/-- The nearest double-precision number to a quotient with positive denominator; of two nearest, the
one with the even significand. -/
def ofQuotient (negative : Bool) (num den : Nat) : Binary64 :=
  if num = 0 then .finite negative 0 (-1074)
  else
    let q := max (floorLog2 num den - 52) (-1074)
    let m := if 0 ≤ q then roundQuotient num (den * Nat.pow 2 q.toNat)
      else roundQuotient (num * Nat.pow 2 (-q).toNat) den
    let (m, q) := if m = Nat.pow 2 53 then (Nat.pow 2 52, q + 1) else (m, q)
    if 971 < q then .infinite negative else .finite negative m q

/-- The nearest double-precision number to `digits * 10 ^ exponent`. Exponents far outside the range
are settled by the number of digits alone. -/
def ofDecimal (negative : Bool) (digits : Nat) (exponent : Int) : Binary64 :=
  let size := exponent + (Nat.toDigits 10 digits).length
  if digits = 0 ∨ size < -400 then .finite negative 0 (-1074)
  else if 400 < size then .infinite negative
  else
    let (num, den) := scaled digits 10 exponent
    ofQuotient negative num den

def ofInt (n : Int) : Binary64 := ofQuotient (n < 0) n.natAbs 1

/-! ## Observations -/

def neg : Binary64 → Binary64
  | .finite s m q => .finite (!s) m q
  | .infinite s => .infinite (!s)
  | .nan => .nan

def toInt? : Binary64 → Option Int
  | .finite s m q =>
    let (num, den) := scaled m 2 q
    if num % den = 0 then
      let n : Int := (num / den : Nat)
      some (if s then -n else n)
    else none
  | _ => none

end Binary64
end ModelReach
