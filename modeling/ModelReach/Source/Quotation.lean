import ModelReach.Decimal.Layout
import ModelReach.Source.Fault
import ModelReach.Source.Syntax

/-! How constants are written in source, and which quotes go around the text of an interpolated
string. -/
namespace ModelReach.Source
set_option autoImplicit false

/-! ## Quotes that need few escapes -/

def allQuotes : List (List Char) :=
  [['\''], ['"'], ['"', '"', '"'], ['\'', '\'', '\'']]

def preferDistinct (last : Char) (quotes : List (List Char)) : List (List Char) :=
  quotes.filter (fun q => q.head? != some last) ++ quotes.filter (fun q => q.head? == some last)

def protectLast (body : List Char) : List Char :=
  match body.getLast? with
  | some c => body.dropLast ++ ['\\', c]
  | none => []

/-- The body of a text between one of the given quotes, and the quotes that may stand around it: those
that do not occur in it, tripled ones if it has several lines. If none is left, the body is that of the
quoted text. Line feeds and tabs stand as they are unless `escapeSpace` holds. -/
def bodyBetween (quotes : List (List Char)) (escapeSpace : Bool) (t : Text) :
    List Char × List (List Char) :=
  let image (c : Nat) : List Char :=
    if !escapeSpace && (c == 9 || c == 10) then [Text.charOf c] else Text.escapedOrPlain c
  let body := t.flatMap image
  let fitting := if body.contains '\n' then quotes.filter (·.length == 3) else quotes
  match fitting.filter (fun q => !Text.occursIn q body) with
  | [] =>
    match (Text.quoted t).toList with
    | quote :: inner => (inner.dropLast, [(quotes.find? (·.contains quote)).getD [quote]])
    | [] => ([], [])
  | possible =>
    match body.getLast? with
    | none => (body, possible)
    | some last =>
      let sorted := preferDistinct last possible
      if sorted.head?.bind List.head? == some last then (protectLast body, sorted)
      else (body, sorted)

def between (quotes : List (List Char)) (body : List Char) : String :=
  let quote := quotes.head?.getD []
  String.ofList (quote ++ body ++ quote)

def frugallyQuoted (t : Text) : String :=
  let (body, quotes) := bodyBetween allQuotes false t
  between quotes body

/-- Texts in a row, between quotes that suit all of them. Each comes with a flag that tells whether its
line feeds and tabs are escaped. -/
def jointlyQuoted (parts : List (Text × Bool)) : String :=
  let (body, quotes) := parts.foldl (fun (done, quotes) part =>
    let (body, quotes) := bodyBetween quotes part.2 part.1
    (done ++ body, quotes)) ([], allQuotes)
  between quotes body

/-! ## Constants -/

/-- Source has no word for infinity, but a number above the largest one reads as it. -/
def sourceLayout (l : Binary64.NumberLayout) : Binary64.NumberLayout := { l with infinity := "1e309" }

/-- A constant as source. In a `plain` place backslashes are avoided as far as possible. -/
def writeConstant (plain : Bool) : Constant → Except SourceFault String
  | .none => .ok "None"
  | .bool b => .ok (if b then "True" else "False")
  | .ellipsis => .ok "..."
  | .int n => writeInteger n
  | .float x => .ok ((sourceLayout Binary64.plainLayout).render x)
  | .imaginary x => .ok ((sourceLayout Binary64.imaginaryLayout).render x ++ "j")
  | .text t marked =>
    .ok ((if marked then "u" else "") ++ if plain then frugallyQuoted t else Text.quoted t)
  | .bytes bs => .ok (Text.quotedBytes bs)

/-- The value of a constant as text: as its source, but for infinite numbers and the ellipsis, which are
named, and the mark of a text, which is left out. -/
def Constant.describe : Constant → Except SourceFault String
  | .ellipsis => .ok "Ellipsis"
  | .float x => .ok (Binary64.plainLayout.render x)
  | .imaginary x => .ok (Binary64.imaginaryLayout.render x ++ "j")
  | .text t _ => .ok (Text.quoted t)
  | c => writeConstant false c

end ModelReach.Source
