import ModelReach.Text.Basic

/-! Wildcard patterns for names: a star stands for any characters, a question mark for one, and brackets
for one out of a set. -/
namespace ModelReach.Files
set_option autoImplicit false

/-! ## Sets of characters -/

structure CharSet where
  negated : Bool
  ranges : List (Char × Char)
  deriving DecidableEq, Repr

def CharSet.contains (s : CharSet) (c : Char) : Bool :=
  s.ranges.any (fun r => r.1 ≤ c && c ≤ r.2) != s.negated

/-- Cut the inside of brackets at the dashes that stand between the ends of ranges. A dash counts only
after `least` characters, and the chunks after the first have two at least. `done` is reversed. -/
def cutRanges (least : Nat) (done : List Char) : List Char → List (List Char)
  | [] => [done.reverse]
  | c :: rest =>
    if c = '-' ∧ least ≤ done.length then done.reverse :: cutRanges 2 [] rest
    else cutRanges least (c :: done) rest

/-- Chunks between dashes; a dash at the very end belongs to the last chunk. -/
def rangeChunks (least : Nat) (inside : List Char) : List (List Char) :=
  let chunks := cutRanges least [] inside
  match chunks.reverse with
  | [] :: last :: before => ((last ++ ['-']) :: before).reverse
  | _ => chunks

/-- Drop empty ranges: two chunks whose neighbouring ends are in descending order become one without
these ends. -/
def dropEmptyRanges : List (List Char) → List (List Char)
  | [] => []
  | chunk :: rest =>
    match dropEmptyRanges rest with
    | [] => [chunk]
    | next :: more =>
      match chunk.getLast?, next with
      | some a, b :: tail => if b < a then (chunk.dropLast ++ tail) :: more else chunk :: next :: more
      | _, _ => chunk :: next :: more

def singles (cs : List Char) : List (Char × Char) := cs.map fun c => (c, c)

/-- The ranges of a chunk and those after it: single characters, and a range between neighbouring
ends. -/
def chunkRanges : List Char → List (List Char) → List (Char × Char)
  | chunk, [] => singles chunk
  | chunk, [] :: rest => singles chunk ++ chunkRanges [] rest
  | chunk, (b :: tail) :: rest =>
    match chunk.getLast? with
    | some a => singles chunk.dropLast ++ (a, b) :: chunkRanges tail rest
    | none => chunkRanges (b :: tail) rest

def charSet (inside : List Char) : CharSet :=
  let least := if inside.head? = some '!' then 2 else 1
  match dropEmptyRanges (rangeChunks least inside) with
  | ('!' :: first) :: rest => ⟨true, chunkRanges first rest⟩
  | first :: rest => ⟨false, chunkRanges first rest⟩
  | [] => ⟨false, []⟩

/-! ## Patterns -/

inductive Wildcard where
  | star
  | any
  | char (c : Char)
  | set (s : CharSet)
  deriving DecidableEq, Repr

/-- The inside of brackets and what follows them. A closing bracket that comes first, perhaps after an
exclamation mark, belongs to the inside. -/
def bracketed? (cs : List Char) : Option (List Char × List Char) :=
  let head := match cs with
    | '!' :: ']' :: _ => 2
    | '!' :: _ => 1
    | ']' :: _ => 1
    | _ => 0
  let rest := cs.drop head
  if rest.contains ']' then
    some (cs.take head ++ rest.takeWhile (· != ']'), (rest.dropWhile (· != ']')).drop 1)
  else none

/-- Read a pattern. Each round takes at least one character. -/
def readWildcards : Nat → List Char → List Wildcard
  | 0, _ => []
  | _, [] => []
  | fuel + 1, '*' :: rest => .star :: readWildcards fuel (rest.dropWhile (· == '*'))
  | fuel + 1, '?' :: rest => .any :: readWildcards fuel rest
  | fuel + 1, '[' :: rest =>
    match bracketed? rest with
    | some (inside, rest) => .set (charSet inside) :: readWildcards fuel rest
    | none => .char '[' :: readWildcards fuel rest
  | fuel + 1, c :: rest => .char c :: readWildcards fuel rest

def wildcards (pattern : String) : List Wildcard :=
  readWildcards pattern.toList.length pattern.toList

/-! ## Matching -/

def suffixes : List Char → List (List Char)
  | [] => [[]]
  | c :: rest => (c :: rest) :: suffixes rest

def matchesAll : List Wildcard → List Char → Bool
  | [], cs => cs.isEmpty
  | .star :: ws, cs => (suffixes cs).any (matchesAll ws)
  | .any :: ws, _ :: cs => matchesAll ws cs
  | .char d :: ws, c :: cs => c == d && matchesAll ws cs
  | .set s :: ws, c :: cs => s.contains c && matchesAll ws cs
  | _ :: _, [] => false

def isWildcard (s : String) : Bool := s.toList.any fun c => c == '*' || c == '?' || c == '['

end ModelReach.Files
