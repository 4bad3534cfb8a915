import ModelReach.Facts.Class
import ModelReach.Facts.Import

/-! The facts about a module's source. -/
namespace ModelReach.Facts
set_option autoImplicit false

open Source (Stmt SourceFault)

def classNames (body : List Stmt) : List String :=
  body.filterMap fun stmt => match stmt with
    | .classDef _ name _ _ => some name.text
    | _ => none

def scopeOf (module : String) (isPackage : Bool) (body : List Stmt) : Scope :=
  ⟨module, importsOf module isPackage body, classNames body⟩

def stmtFacts (read : Reader) (s : Scope) : Stmt → Except SourceFault (Option ClassFacts)
  | .classDef decorators name bases body => do
    let facts ← classFacts read s decorators name.text bases body
    pure (some facts)
  | _ => .ok none

def moduleFacts (read : Reader) (module path : String) (isPackage : Bool) (body : List Stmt) :
    Except SourceFault ModuleFacts := do
  let s := scopeOf module isPackage body
  let classes ← body.mapM (stmtFacts read s)
  pure ⟨module, path, s.imports, classes.filterMap id⟩

def ofText (module path : String) (isPackage : Bool) (text : Text) :
    Except SourceFault ModuleFacts := do
  let body ← Source.readModule text
  moduleFacts Source.readExpression module path isPackage body

end ModelReach.Facts
