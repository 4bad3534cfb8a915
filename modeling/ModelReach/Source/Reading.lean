import ModelReach.Source.Fault
import ModelReach.Source.Grammar.Statement
import ModelReach.Text.Blank

/-! Texts as modules and as single expressions. -/
namespace ModelReach.Source
set_option autoImplicit false

/-! ## Characters and line ends -/

/-- Does a text end with a line end of one character? -/
def endsLine (t : Text) : Bool :=
  match t.reverse with
  | 10 :: 13 :: _ => false
  | 10 :: _ | 13 :: _ => true
  | _ => false

/-- The characters of a text with single line feeds, if they can be source. -/
def sourceChars (t : Text) : Except SourceFault (List Char) :=
  match t.firstSurrogate? with
  | some (position, _) =>
    .error (.loneSurrogates position ((t.drop position).takeWhile Text.isSurrogate))
  | none => if t.contains 0 then .error .nullCharacter else .ok t.lineFeeds.toChars

/-! ## Reading -/

/-- The statements of a module. A last line without an end is given one. -/
def readModule (t : Text) : Except SourceFault (List Stmt) := do
  let cs ← sourceChars t
  match moduleOfChars? (cs ++ if endsLine t then [] else ['\n']) with
  | some body => .ok body
  | none => .error .malformed

/-- The expression that a text consists of, blanks around it apart. -/
def readExpression (t : Text) : Except SourceFault Expr := do
  let cs ← sourceChars t.strip
  match expressionOfChars? cs with
  | some e => .ok e
  | none => .error .malformed

end ModelReach.Source
