import ModelReach.Source.Syntax
import ModelReach.Facts.Scope

/-! What the imports of a module bind. -/
namespace ModelReach.Facts
set_option autoImplicit false

open Source (Stmt ImportName)

/-! ## Bindings -/

/-- Bind a name. A name bound before keeps its place, but the last binding counts. -/
def bind (bindings : List (String × String)) (name target : String) : List (String × String) :=
  if bindings.any (·.1 = name) then
    bindings.map fun b => if b.1 = name then (name, target) else b
  else bindings ++ [(name, target)]

/-! ## Top level -/

mutual

/-- The statements that bind names of the module itself: conditional statements and attempts give
those of their blocks. -/
def topLevelOf : Stmt → List Stmt
  | .conditional body orelse => topLevel body ++ topLevel orelse
  | .attempt body handlers orelse => topLevel body ++ topLevelBlocks handlers ++ topLevel orelse
  | s => [s]

/-- The statements of a block that bind names of the module itself. -/
def topLevel : List Stmt → List Stmt
  | [] => []
  | s :: rest => topLevelOf s ++ topLevel rest

def topLevelBlocks : List (List Stmt) → List Stmt
  | [] => []
  | b :: rest => topLevel b ++ topLevelBlocks rest

end

/-! ## Imported modules -/

def dropParts (n : Nat) (parts : List String) : List String := parts.take (parts.length - n)

/-- The module that names are imported from: with points before it, it is counted from the package of
the importing module, one point for the package itself. -/
def importBase (module : String) (isPackage : Bool) (level : Nat) (base : Option String) : String :=
  if level = 0 then base.getD ""
  else
    let package := if isPackage then module else Dotted.parent module
    let parts := dropParts (level - 1) (Dotted.parts package)
    ".".intercalate (parts ++ base.toList)

/-- Bind the names of one import of modules: the whole name under another, or its first part. -/
def bindModules (bindings : List (String × String)) (names : List ImportName) :
    List (String × String) :=
  names.foldl (fun bindings name => match name.boundAs with
    | some other => bind bindings other name.name
    | none => bind bindings (Dotted.head name.name) (Dotted.head name.name)) bindings

/-- Bind names imported from a module; a star binds none that is known. -/
def bindMembers (base : String) (bindings : List (String × String)) (names : List ImportName) :
    List (String × String) :=
  names.foldl (fun bindings name =>
    if name.name = "*" then bindings
    else
      let target := if base = "" then name.name else base ++ "." ++ name.name
      bind bindings (name.boundAs.getD name.name) (normalName target)) bindings

def bindStmt (module : String) (isPackage : Bool) (bindings : List (String × String)) :
    Stmt → List (String × String)
  | .importModules names => bindModules bindings names
  | .importFrom level base names =>
    bindMembers (importBase module isPackage level base) bindings names
  | _ => bindings

/-- The names that a module's imports bind, with what they stand for. -/
def importsOf (module : String) (isPackage : Bool) (body : List Stmt) : List (String × String) :=
  (topLevel body).foldl (bindStmt module isPackage) []

end ModelReach.Facts
