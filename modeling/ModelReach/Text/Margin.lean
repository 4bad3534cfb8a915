import ModelReach.Text.Blank

/-! Texts without the margin that indented source gives to their lines. -/
namespace ModelReach.Text
set_option autoImplicit false

/-! ## Tabs -/

/-- Replace tabs by blanks up to the next multiple of eight; `column` is where the text begins. -/
def expandTabs (column : Nat) : Text → Text
  | [] => []
  | 9 :: rest =>
    let n := 8 - column % 8
    List.replicate n 32 ++ expandTabs (column + n) rest
  | 10 :: rest => 10 :: expandTabs 0 rest
  | 13 :: rest => 13 :: expandTabs 0 rest
  | c :: rest => c :: expandTabs (column + 1) rest

/-! ## Margins -/

/-- How far a line is indented; none for a blank line. -/
def indentation? (line : Text) : Option Nat :=
  match stripStart line with
  | [] => none
  | content => some (line.length - content.length)

def margin (lines : List Text) : Nat := ((lines.filterMap indentation?).min?).getD 0

/-- Expand tabs, take the margin of all lines but the first off them and every blank off the first,
and drop the empty lines at both ends. -/
def withoutMargin (t : Text) : Text :=
  let lines := match pieces 10 (expandTabs 0 t) with
    | [] => []
    | first :: rest => stripStart first :: rest.map (List.drop (margin rest))
  [10].intercalate (trim List.isEmpty lines)

end ModelReach.Text
