import ModelReach.Json.Basic
import ModelReach.Text.Quoted

/-! Command line arguments: options with and without a value, whose names may be cut short as long as they
stay unambiguous, and a command with arguments of its own. -/
namespace ModelReach.Run
set_option autoImplicit false

/-! ## Parsers -/

inductive OptionAction where
  | help
  | store (field : String)
  | append (field : String)
  | storeNumber (field : String)
  | flag (field : String)
  deriving DecidableEq, Repr

structure OptionSpec where
  names : List String
  action : OptionAction
  deriving DecidableEq, Repr

def OptionSpec.takesValue (o : OptionSpec) : Bool :=
  match o.action with
  | .store _ | .append _ | .storeNumber _ => true
  | .help | .flag _ => false

def OptionSpec.title (o : OptionSpec) : String := "/".intercalate o.names

inductive ArgumentFault where
  | ambiguous (argument : String) (names : List String)
  | expectedValue (option : OptionSpec)
  | ignoredValue (option : OptionSpec) (value : String)
  | invalidNumber (option : OptionSpec) (value : String)
  | invalidChoice (field value : String) (choices : List String)
  | missing (field : String)
  | unrecognized (arguments : List String)

def quotedString (s : String) : String := Text.quoted (Text.ofString s)

def ArgumentFault.message : ArgumentFault → String
  | .ambiguous argument names =>
    "ambiguous option: " ++ argument ++ " could match " ++ ", ".intercalate names
  | .expectedValue option => "argument " ++ option.title ++ ": expected one argument"
  | .ignoredValue option value =>
    "argument " ++ option.title ++ ": ignored explicit argument " ++ quotedString value
  | .invalidNumber option value =>
    "argument " ++ option.title ++ ": invalid int value: " ++ quotedString value
  | .invalidChoice field value choices =>
    "argument " ++ field ++ ": invalid choice: " ++ quotedString value ++ " (choose from " ++
      ", ".intercalate (choices.map quotedString) ++ ")"
  | .missing field => "the following arguments are required: " ++ field
  | .unrecognized arguments => "unrecognized arguments: " ++ " ".intercalate arguments

/-! ## Classes of arguments -/

/-- What an argument is: the mark after which nothing is an option, a value, or an option by a name that
may be known, perhaps with a value after an equals sign or right after its letter. -/
inductive ArgumentClass where
  | mark
  | value
  | option (spec : Option OptionSpec) (name : String) (explicit : Option String)
  deriving DecidableEq, Repr

def optionNames (specs : List OptionSpec) : List (String × OptionSpec) :=
  specs.flatMap fun spec => spec.names.map fun name => (name, spec)

def cutEquals (s : String) : Option (String × String) :=
  match s.toList.dropWhile (· != '=') with
  | [] => none
  | _ :: value => some (String.ofList (s.toList.takeWhile (· != '=')), String.ofList value)

def beginsWith (pre s : String) : Bool := pre.toList.isPrefixOf s.toList

/-- The options whose name an argument may cut short. After two dashes the name ends at an equals sign;
after one, the first letter may be a name and the rest its value. -/
def abbreviated (specs : List OptionSpec) (s : String) :
    List (OptionSpec × String × Option String) :=
  if beginsWith "--" s then
    let (pre, explicit) := match cutEquals s with
      | some (pre, value) => (pre, some value)
      | none => (s, none)
    (optionNames specs).filterMap fun n =>
      if beginsWith pre n.1 then some (n.2, n.1, explicit) else none
  else
    (optionNames specs).filterMap fun n =>
      if n.1 = String.ofList (s.toList.take 2) then
        some (n.2, n.1, some (String.ofList (s.toList.drop 2)))
      else if beginsWith s n.1 then some (n.2, n.1, none)
      else none

def isNegativeNumber (s : String) : Bool :=
  let isDigit (c : Char) : Bool := '0' ≤ c && c ≤ '9'
  match s.toList with
  | '-' :: rest =>
    let fraction := (rest.dropWhile isDigit).drop 1
    (!rest.isEmpty && rest.all isDigit) ||
      ((rest.dropWhile isDigit).head? = some '.' && !fraction.isEmpty && fraction.all isDigit)
  | _ => false

def classify (specs : List OptionSpec) (s : String) : Except ArgumentFault ArgumentClass :=
  if s.toList.head? ≠ some '-' then .ok .value
  else match (optionNames specs).lookup s with
  | some spec => .ok (.option (some spec) s none)
  | none =>
    if s.length = 1 then .ok .value
    else
      let exact := (cutEquals s).bind fun (name, value) =>
        ((optionNames specs).lookup name).map fun spec => (spec, name, value)
      match exact with
      | some (spec, name, value) => .ok (.option (some spec) name (some value))
      | none =>
        match abbreviated specs s with
        | [(spec, name, explicit)] => .ok (.option (some spec) name explicit)
        | [] =>
          if isNegativeNumber s || s.toList.contains ' ' then .ok .value
          else .ok (.option none s none)
        | several => .error (.ambiguous s (several.map fun o => o.2.1))

def classifyAll (specs : List OptionSpec) :
    List String → Except ArgumentFault (List (String × ArgumentClass))
  | [] => .ok []
  | "--" :: rest => .ok (("--", .mark) :: rest.map fun s => (s, .value))
  | s :: rest => do
    let c ← classify specs s
    let more ← classifyAll specs rest
    pure ((s, c) :: more)

/-! ## Options in turn -/

/-- What has been read: the fields, the arguments that no one knows, and whether help was asked for. -/
structure Parsed where
  fields : List (Text × Json)
  unknown : List String
  help : Bool

def Parsed.nothing : Parsed := ⟨[], [], false⟩

def Parsed.put (p : Parsed) (field : String) (value : Json) : Parsed :=
  { p with fields := Json.put p.fields (Text.ofString field) value }

def isWholeNumber (s : String) : Bool :=
  let cs := Text.trim (fun c => c == ' ' || ('\t' ≤ c && c ≤ '\r')) s.toList
  let digits := match cs with
    | '-' :: rest => rest
    | '+' :: rest => rest
    | _ => cs
  (Text.pieces '_' digits).all fun part => !part.isEmpty && part.all fun c => '0' ≤ c && c ≤ '9'

/-- The value of an option as JSON. The mark is no value. -/
def optionValue (value : String) : Json := if value = "--" then .array [] else .ofString value

def takeValue (p : Parsed) (spec : OptionSpec) (value : String) : Except ArgumentFault Parsed :=
  match spec.action with
  | .store field => .ok (p.put field (optionValue value))
  | .append field =>
    let before := match Json.field? p.fields field with
      | some (.array items) => items
      | _ => []
    .ok (p.put field (.array (before ++ [optionValue value])))
  | .storeNumber field =>
    if isWholeNumber value then .ok (p.put field (.ofString value))
    else .error (.invalidNumber spec value)
  | _ => .ok p

def takeFlag (p : Parsed) (spec : OptionSpec) : Parsed :=
  match spec.action with
  | .flag field => p.put field (.bool true)
  | .help => { p with help := true }
  | _ => p

/-- Letters after one dash that may each be an option without a value; the last may have one. -/
def takeLetters (specs : List OptionSpec) (p : Parsed) (spec : OptionSpec) (name : String) :
    List Char → Except ArgumentFault Parsed
  | [] => .error (.ignoredValue spec "")
  | c :: rest =>
    let value := String.ofList (c :: rest)
    if spec.takesValue then takeValue p spec value
    else if beginsWith "--" name then .error (.ignoredValue spec value)
    else
      let next := String.ofList ['-', c]
      match (optionNames specs).lookup next with
      | none => .error (.ignoredValue spec value)
      | some other =>
        if rest.isEmpty then
          if other.takesValue then .error (.expectedValue other)
          else .ok (takeFlag (takeFlag p spec) other)
        else takeLetters specs (takeFlag p spec) other next rest

/-- Read options in turn. Values that belong to none are unknown. -/
def parseOptions (specs : List OptionSpec) (p : Parsed) :
    List (String × ArgumentClass) → Except ArgumentFault Parsed
  | [] => .ok p
  | (s, .option none _ _) :: rest =>
    parseOptions specs { p with unknown := p.unknown ++ [s] } rest
  | (_, .option (some spec) name (some explicit)) :: rest => do
    let p ← if spec.takesValue then takeValue p spec explicit
      else takeLetters specs p spec name explicit.toList
    if p.help then pure p else parseOptions specs p rest
  | (_, .option (some spec) _ none) :: rest =>
    if spec.takesValue then
      match rest with
      | (value, .value) :: rest => do
        let p ← takeValue p spec value
        parseOptions specs p rest
      | _ => .error (.expectedValue spec)
    else
      let p := takeFlag p spec
      if p.help then .ok p else parseOptions specs p rest
  | (s, _) :: rest => parseOptions specs { p with unknown := p.unknown ++ [s] } rest

/-! ## Commands -/

structure CommandSpec where
  name : String
  options : List OptionSpec

/-- The outcome of reading arguments: help was asked for, they are refused by the program or one of its
commands, or a command has its fields. -/
inductive ParseOutcome where
  | help
  | refused (program : String) (fault : ArgumentFault)
  | command (name : String) (fields : List (Text × Json))

/-- Asking for help is an option of every command. -/
def helpOption : OptionSpec := ⟨["-h", "--help"], .help⟩

def parseCommand (program : String) (before : List String) (command : CommandSpec)
    (arguments : List String) : ParseOutcome :=
  let specs := helpOption :: command.options
  let parsed := do
    let classes ← classifyAll specs arguments
    parseOptions specs .nothing classes
  match parsed with
  | .error fault => .refused (program ++ " " ++ command.name) fault
  | .ok p =>
    if p.help then .help
    else
      let unknown := before ++ p.unknown
      if unknown.isEmpty then .command command.name p.fields
      else .refused program (.unrecognized unknown)

/-- The arguments up to the command, with what they are as options of the program itself, and those from
the command on. -/
def splitCommand (classes : List (String × ArgumentClass)) :
    List (String × ArgumentClass) × List String :=
  let isOption (a : String × ArgumentClass) : Bool :=
    match a.2 with
    | .option _ _ _ => true
    | _ => false
  (classes.takeWhile isOption, (classes.dropWhile isOption).map (·.1))

def parseArguments (program field : String) (commands : List CommandSpec)
    (arguments : List String) : ParseOutcome :=
  let specs := [helpOption]
  let front := do
    let classes ← classifyAll specs arguments
    let (options, rest) := splitCommand classes
    let p ← parseOptions specs .nothing options
    pure (p, rest)
  match front with
  | .error fault => .refused program fault
  | .ok (p, rest) =>
    if p.help then .help
    else match rest with
    | [] | ["--"] => .refused program (.missing field)
    | name :: rest =>
      match commands.find? (·.name = name) with
      | some command => parseCommand program p.unknown command rest
      | none => .refused program (.invalidChoice field name (commands.map (·.name)))

end ModelReach.Run
