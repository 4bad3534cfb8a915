import ModelReach.Decimal.Shortest

/-! How the digits of a number are laid out: positional or with an exponent, with or without a point. -/
namespace ModelReach.Binary64
set_option autoImplicit false

structure NumberLayout where
  /-- Positional notation is used while the point lies above this place. -/
  pointAbove : Int
  /-- Positional notation is used while the point lies at most at this place. -/
  pointUpTo : Int
  /-- An integral number in positional notation ends in a point and a zero. -/
  markIntegral : Bool
  exponentDigits : Nat
  infinity : String
  nan : String

/-- Numbers stand positionally from `0.0001` up to `10 ^ 16`, integral ones with `.0`; exponents have a
sign and at least two digits. -/
def plainLayout : NumberLayout := ⟨-4, 16, true, 2, "inf", "nan"⟩

/-- The plain layout without `.0`, as stands before the sign of an imaginary number. -/
def imaginaryLayout : NumberLayout := { plainLayout with markIntegral := false }

def padLeft (width : Nat) (ds : List Char) : List Char :=
  List.replicate (width - ds.length) '0' ++ ds

def NumberLayout.positional (l : NumberLayout) (d : DecimalDigits) : List Char :=
  if d.point ≤ 0 then "0.".toList ++ List.replicate (-d.point).toNat '0' ++ d.digits
  else if d.digits.length ≤ d.point.toNat then
    d.digits ++ List.replicate (d.point.toNat - d.digits.length) '0' ++
      (if l.markIntegral then ".0".toList else [])
  else d.digits.take d.point.toNat ++ '.' :: d.digits.drop d.point.toNat

def NumberLayout.scientific (l : NumberLayout) (d : DecimalDigits) : List Char :=
  let e := d.point - 1
  let head := match d.digits with
    | [] => []
    | [c] => [c]
    | c :: rest => c :: '.' :: rest
  head ++ ['e', if e < 0 then '-' else '+'] ++
    padLeft l.exponentDigits (Nat.toDigits 10 e.natAbs)

def NumberLayout.render (l : NumberLayout) (x : Binary64) : String :=
  let sign (negative : Bool) : List Char := if negative then ['-'] else []
  match x with
  | .nan => l.nan
  | .infinite s => String.ofList (sign s ++ l.infinity.toList)
  | .finite s m q =>
    let d := shortestDigits m q
    String.ofList (sign s ++
      if l.pointAbove < d.point ∧ d.point ≤ l.pointUpTo then l.positional d else l.scientific d)

/-- The text of a number rounded to an integer, a half to the even neighbour; the sign stays even if
the result is zero. -/
def renderRounded : Binary64 → String
  | .nan => "nan"
  | .infinite s => if s then "-inf" else "inf"
  | .finite s m q =>
    let (num, den) := scaled m 2 q
    String.ofList ((if s then ['-'] else []) ++ Nat.toDigits 10 (roundQuotient num den))

end ModelReach.Binary64
