import ModelReach.Json.Basic

/-! Checking JSON values against what is expected of them. All problems are found, each with its
place. -/
namespace ModelReach.Validation
set_option autoImplicit false

/-! ## Problems -/

inductive Complaint where
  | missing
  | noString
  | noList
  | tooShort
  | noBoolean
  | unreadableBoolean
  | noNumber
  | unreadableNumber
  | noDictionary
  | noInstance (model : String)
  | noFields
  | noTag
  | unknownTag (tag : String)
  deriving DecidableEq, Repr

def Complaint.message : Complaint → String
  | .missing => "Field required"
  | .noString => "Input should be a valid string"
  | .noList => "Input should be a valid list"
  | .tooShort => "List should have at least 1 item after validation, not 0"
  | .noBoolean => "Input should be a valid boolean"
  | .unreadableBoolean => "Input should be a valid boolean, unable to interpret input"
  | .noNumber => "Input should be a valid number"
  | .unreadableNumber => "Input should be a valid number, unable to parse string as a number"
  | .noDictionary => "Input should be a valid dictionary"
  | .noInstance model => "Input should be a valid dictionary or instance of " ++ model
  | .noFields => "Input should be a valid dictionary or object to extract fields from"
  | .noTag => "Unable to extract tag using discriminator 'kind'"
  | .unknownTag tag =>
    "Input tag '" ++ tag ++ "' found using 'kind' does not match any of the expected tags: " ++
      "'named', 'array', 'generic'"

/-- A complaint and its place: names of fields and positions in lists. -/
structure Problem where
  location : List String
  complaint : Complaint
  deriving DecidableEq, Repr

/-- A problem in words. -/
structure Report where
  location : List String
  message : String
  deriving DecidableEq, Repr

def Problem.report (p : Problem) : Report := ⟨p.location, p.complaint.message⟩

def Report.describe (r : Report) : String :=
  let location := ".".intercalate r.location
  (if location = "" then "options" else location) ++ ": " ++ r.message

def describeReports (reports : List Report) : String := "; ".intercalate (reports.map Report.describe)

def describeAll (problems : List Problem) : String := describeReports (problems.map Problem.report)

/-! ## Results -/

/-- A checked value, or all the problems with it. -/
inductive Checked (α : Type) where
  | valid (value : α)
  | invalid (problems : List Problem)

namespace Checked

variable {α β : Type}

def map (f : α → β) : Checked α → Checked β
  | valid a => valid (f a)
  | invalid problems => invalid problems

/-- Apply a checked function to a checked value; the problems of both count. -/
def apply (f : Checked (α → β)) (a : Checked α) : Checked β :=
  match f, a with
  | valid f, valid a => valid (f a)
  | valid _, invalid problems => invalid problems
  | invalid problems, valid _ => invalid problems
  | invalid before, invalid after => invalid (before ++ after)

instance : Applicative Checked where
  pure := valid
  map := map
  seq f a := apply f (a ())

def refuse (complaint : Complaint) : Checked α := invalid [⟨[], complaint⟩]

def inside (name : String) : Checked α → Checked α
  | valid a => valid a
  | invalid problems =>
    invalid (problems.map fun p => { p with location := name :: p.location })

def all (check : Json → Checked α) : Nat → List Json → Checked (List α)
  | _, [] => valid []
  | n, v :: rest => List.cons <$> (check v).inside n.repr <*> all check (n + 1) rest

end Checked

/-! ## Fields -/

abbrev Fields := List (Text × Json)

def required {α : Type} (fields : Fields) (name : String) (check : Json → Checked α) : Checked α :=
  match Json.field? fields name with
  | some v => (check v).inside name
  | none => (Checked.refuse .missing).inside name

def optional {α : Type} (fields : Fields) (name : String) (default : α)
    (check : Json → Checked α) : Checked α :=
  match Json.field? fields name with
  | some v => (check v).inside name
  | none => .valid default

def nullable {α : Type} (check : Json → Checked α) : Json → Checked (Option α)
  | .null => .valid none
  | v => some <$> check v

def instanceOf {α : Type} (model : String) (check : Fields → Checked α) : Json → Checked α
  | .object fields => check fields
  | _ => .refuse (.noInstance model)

end ModelReach.Validation
