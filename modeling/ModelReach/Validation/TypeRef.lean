import ModelReach.Facts.TypeRef
import ModelReach.Validation.Values

/-! References to types from JSON. The field `kind` tells the form of a reference. -/
namespace ModelReach.Validation
set_option autoImplicit false

inductive RefTag where
  | named
  | array
  | generic

def refTag? : Json → Option RefTag
  | .text t =>
    if t = Text.ofString "named" then some .named
    else if t = Text.ofString "array" then some .array
    else if t = Text.ofString "generic" then some .generic
    else none
  | _ => none

def refFields (nested : Json → Checked TypeRef) (tag : RefTag) (fields : Fields) : Checked TypeRef :=
  match tag with
  | .named => (TypeRef.named <$> required fields "name" string).inside "named"
  | .array =>
    (TypeRef.array <$> required fields "element" nested <*>
      optional fields "unique" false boolean).inside "array"
  | .generic =>
    (TypeRef.generic <$> required fields "origin" string <*>
      optional fields "args" [] (listOf nested)).inside "generic"

def refWithin : Nat → Json → Checked TypeRef
  | 0, _ => .refuse .noFields
  | n + 1, .object fields =>
    match Json.field? fields "kind" with
    | none => .refuse .noTag
    | some kind =>
      match refTag? kind with
      | some tag => refFields (refWithin n) tag fields
      | none => .refuse (.unknownTag (plainText kind))
  | _ + 1, _ => .refuse .noFields

mutual

def depth : Json → Nat
  | .array items => depthOfItems items + 1
  | .object fields => depthOfFields fields + 1
  | _ => 0

def depthOfItems : List Json → Nat
  | [] => 0
  | v :: rest => max (depth v) (depthOfItems rest)

def depthOfFields : List (Text × Json) → Nat
  | [] => 0
  | (_, v) :: rest => max (depth v) (depthOfFields rest)

end

def typeRef (v : Json) : Checked TypeRef := refWithin (depth v + 1) v

end ModelReach.Validation
