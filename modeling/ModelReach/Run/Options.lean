import ModelReach.Files.SystemPath
import ModelReach.Json.Reader
import ModelReach.Types.Policy
import ModelReach.Validation.Values

/-! The options of a run, from a file and from overrides. -/
namespace ModelReach.Run
set_option autoImplicit false

open Validation (Checked Fields)
open Files (FileTree PathFault SystemProblem)

/-! ## Options -/

/-- What is scanned, and which types count. -/
structure ScanOptions where
  source : String
  patterns : List String
  entryMarkers : List String
  ignoreMarker : String
  excludedPrefixes : List String
  verbose : Bool

structure RunOptions where
  scan : ScanOptions
  destination : String

def defaultPatterns : List String := ["**/*.py"]

def ScanOptions.policy (o : ScanOptions) : Policy := ⟨o.ignoreMarker, o.excludedPrefixes⟩

/-! ## From JSON -/

def scanOptionsOfFields (fields : Fields) : Checked ScanOptions :=
  ScanOptions.mk <$> Validation.required fields "source" Validation.string
    <*> Validation.optional fields "modules" defaultPatterns
      (Validation.nonEmptyListOf Validation.string)
    <*> Validation.required fields "entry_markers" (Validation.nonEmptyListOf Validation.string)
    <*> Validation.optional fields "ignore_marker" defaultIgnoreMarker Validation.string
    <*> Validation.optional fields "excluded_prefixes" defaultExcludedPrefixes
      (Validation.listOf Validation.string)
    <*> Validation.optional fields "verbose" false Validation.boolean

def runOptionsOfFields (fields : Fields) : Checked RunOptions :=
  RunOptions.mk <$> scanOptionsOfFields fields
    <*> Validation.required fields "destination" Validation.string

def scanOptions : Json → Checked ScanOptions :=
  Validation.instanceOf "ScanOptions" scanOptionsOfFields

def runOptions : Json → Checked RunOptions :=
  Validation.instanceOf "CollectorOptions" runOptionsOfFields

/-! ## Validation -/

/-- Why values make no options: what is reported about them, or something else that the library comes upon. -/
inductive ValidationFault where
  | reports (reports : List Validation.Report)
  | other (message : String)

/-- A library that makes options of named values of some type. A JSON value stands for one, and the source of
options is a text. -/
structure Validator (Value Options : Type) where
  ofJson : Json → Value
  isNone : Value → Bool
  validate : List (Text × Value) → Except ValidationFault Options
  source : Options → Text

/-- The library answers with options or with reports. -/
def Validator.Reports {Value Options : Type} (v : Validator Value Options) : Prop :=
  ∀ values fault, v.validate values = .error fault → ∃ reports, fault = .reports reports

def sourceText (fields : Fields) : Text :=
  match Json.field? fields "source" with
  | some (.text source) => source
  | _ => []

/-- Options from JSON values, with their source as it was given. -/
def jsonValidator : Validator Json (Text × RunOptions) where
  ofJson := id
  isNone := Json.isNull
  validate fields :=
    match runOptionsOfFields fields with
    | .valid options => .ok (sourceText fields, options)
    | .invalid problems => .error (.reports (problems.map Validation.Problem.report))
  source := Prod.fst

/-! ## From files -/

inductive OptionsFault where
  | noPath (fault : PathFault)
  | unreadable (path : Text) (problem : SystemProblem)
  | encoding (fault : Text.Utf8Fault)
  | noJson (path : Text) (document : Text) (fault : Json.Fault)
  | noObject (path : Text)
  | invalid (reports : List Validation.Report)
  | unvalidated (message : String)
  | noSource (source : Text)

namespace OptionsFault

/-- Is a fault one of the configuration? A path or a number that cannot be represented, and a file that is
no text, are faults of another kind. -/
def isConfiguration : OptionsFault → Bool
  | .noPath _ => false
  | .encoding _ => false
  | .noJson _ _ (.integerTooLong _) => false
  | .unvalidated _ => false
  | _ => true

def message : OptionsFault → String
  | .noPath fault => fault.message
  | .unreadable path problem => "cannot read options file " ++ path.toString ++ ": " ++ problem.message path
  | .encoding fault => fault.message
  | .noJson _ document (.integerTooLong digits) => (Json.Fault.integerTooLong digits).message document
  | .noJson path document fault =>
    "options file " ++ path.toString ++ " is not valid JSON: " ++ fault.message document
  | .noObject path => "options file " ++ path.toString ++ " must contain a JSON object"
  | .invalid reports => Validation.describeReports reports
  | .unvalidated message => message
  | .noSource source => "source: " ++ source.toString ++ " is not a directory"

end OptionsFault

def fileBytes (t : FileTree) (path : Text) : Except OptionsFault (List Nat) :=
  match Files.systemPath path with
  | .error fault => .error (.noPath fault)
  | .ok none => .error (.unreadable path .notFound)
  | .ok (some s) =>
    match t.read s with
    | .ok bytes => .ok bytes
    | .error (.system problem _) => .error (.unreadable path problem)
    | .error .nullInPath => .error (.noPath .null)

def readFields (t : FileTree) (path : Text) : Except OptionsFault Fields := do
  let bytes ← fileBytes t path
  match Text.ofUtf8 bytes with
  | .error fault => .error (.encoding fault)
  | .ok text =>
    match Json.ofText text.lineFeeds with
    | .error fault => .error (.noJson path text.lineFeeds fault)
    | .ok (.object fields) => .ok fields
    | .ok _ => .error (.noObject path)

/-! ## With overrides -/

section Load
variable {Value Options : Type} (v : Validator Value Options)

def override (values overrides : List (Text × Value)) : List (Text × Value) :=
  overrides.foldl (fun values f => if v.isNone f.2 then values else Json.put values f.1 f.2) values

/-- The options that values make. The source must be a directory. -/
def optionsOf (t : FileTree) (values : List (Text × Value)) : Except OptionsFault Options :=
  match v.validate values with
  | .error (.reports reports) => .error (.invalid reports)
  | .error (.other message) => .error (.unvalidated message)
  | .ok options =>
    if t.isDirectoryText (v.source options) then .ok options else .error (.noSource (v.source options))

/-- Options from a file, if one is named, and overrides. -/
def loadWith (t : FileTree) (path : Option Text) (overrides : List (Text × Value)) :
    Except OptionsFault Options := do
  let fields ← match path with
    | some path => readFields t path
    | none => pure []
  optionsOf v t (override v (fields.map fun f => (f.1, v.ofJson f.2)) overrides)

end Load

/-- The options of a run, from a file, if one is named, and overrides. -/
def loadOptions (t : FileTree) (path : Option Text) (overrides : Fields) : Except OptionsFault RunOptions :=
  (loadWith jsonValidator t path overrides).map Prod.snd

end ModelReach.Run
