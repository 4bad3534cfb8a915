/-! Sorted tables over code points: sets of ranges, ranges with images, and pairs with an image. Each
is written in lines of hexadecimal words and searched by halving. -/
namespace ModelReach.Text
set_option autoImplicit false

/-! ## Hexadecimal words -/

def hexDigit? (c : Char) : Option Nat :=
  if '0' ≤ c ∧ c ≤ '9' then some (c.toNat - '0'.toNat)
  else if 'a' ≤ c ∧ c ≤ 'f' then some (c.toNat - 'a'.toNat + 10)
  else if 'A' ≤ c ∧ c ≤ 'F' then some (c.toNat - 'A'.toNat + 10)
  else none

def hexValue (cs : List Char) : Nat :=
  cs.foldl (fun n c => match hexDigit? c with
    | some d => n * 16 + d
    | none => n) 0

def cutAt (mark : Char) (cs : List Char) : List (List Char) :=
  cs.foldr (fun c parts => match parts with
    | part :: rest => if c = mark then [] :: part :: rest else (c :: part) :: rest
    | [] => [[c]]) [[]]

/-- The ends of a range written as one numeral or as two joined by a dash. -/
def rangeOfHex (cs : List Char) : Nat × Nat :=
  match cutAt '-' cs with
  | [a, b] => (hexValue a, hexValue b)
  | _ => (hexValue cs, hexValue cs)

def hexWords (lines : List String) : List (List Char) :=
  lines.flatMap fun line => cutAt ' ' line.toList

/-! ## Search by halving -/

/-- The entry of a sorted array on which the probe says equal, between two indices. -/
def searchBetween {α : Type} (entries : Array α) (probe : α → Ordering) : Nat → Nat → Nat → Option α
  | 0, _, _ => none
  | fuel + 1, lo, hi =>
    if lo < hi then
      let mid := (lo + hi) / 2
      match entries[mid]? with
      | none => none
      | some entry =>
        match probe entry with
        | .eq => some entry
        | .lt => searchBetween entries probe fuel lo mid
        | .gt => searchBetween entries probe fuel (mid + 1) hi
    else none

def search {α : Type} (entries : Array α) (probe : α → Ordering) : Option α :=
  searchBetween entries probe (entries.size + 1) 0 entries.size

def compareRange (c lo hi : Nat) : Ordering :=
  if c < lo then .lt else if hi < c then .gt else .eq

/-! ## Tables -/

structure RangeTable where
  ranges : Array (Nat × Nat)

def RangeTable.ofHex (lines : List String) : RangeTable :=
  ⟨((hexWords lines).map rangeOfHex).toArray⟩

def RangeTable.contains (t : RangeTable) (c : Nat) : Bool :=
  (search t.ranges fun r => compareRange c r.1 r.2).isSome

structure RangeMap where
  entries : Array ((Nat × Nat) × List Nat)

/-- The entry written as range, colon, numbers parted by commas. -/
def RangeMap.entryOfHex (word : List Char) : (Nat × Nat) × List Nat :=
  match cutAt ':' word with
  | [range, image] => (rangeOfHex range, (cutAt ',' image).map hexValue)
  | _ => ((0, 0), [])

def RangeMap.ofHex (lines : List String) : RangeMap :=
  ⟨((hexWords lines).map RangeMap.entryOfHex).toArray⟩

/-- The first code point of the range that holds `c`, and the numbers of that range. -/
def RangeMap.find? (m : RangeMap) (c : Nat) : Option (Nat × List Nat) :=
  (search m.entries fun e => compareRange c e.1.1 e.1.2).map fun e => (e.1.1, e.2)

structure PairMap where
  entries : Array ((Nat × Nat) × Nat)

/-- The entry written as two numbers with a comma between, colon, image. -/
def PairMap.entryOfHex (word : List Char) : (Nat × Nat) × Nat :=
  match cutAt ':' word with
  | [pair, image] => match cutAt ',' pair with
    | [a, b] => ((hexValue a, hexValue b), hexValue image)
    | _ => ((0, 0), 0)
  | _ => ((0, 0), 0)

def PairMap.ofHex (lines : List String) : PairMap :=
  ⟨((hexWords lines).map PairMap.entryOfHex).toArray⟩

def PairMap.find? (m : PairMap) (a b : Nat) : Option Nat :=
  (search m.entries fun e => (compare a e.1.1).then (compare b e.1.2)).map (·.2)

end ModelReach.Text
