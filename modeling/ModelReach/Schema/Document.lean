import ModelReach.Json.Writer
import ModelReach.Schema.Model

/-! Schema documents as JSON, and the artifact that holds them. -/
namespace ModelReach
set_option autoImplicit false

/-- A schema document. Fields that are absent are left out when it is written. -/
structure Document where
  id : Text
  title : Text
  description : Option Text
  type : Option Text
  properties : Option (List (Text × Json))
  required : Option (List Text)
  enum : Option (List Json)

/-! ## From models -/

def MemberValue.toJson : MemberValue → Json
  | .absent => .null
  | .bool b => .bool b
  | .int n => .int n
  | .float x => .float x
  | .text t => .text t

/-- The document of a model schema. No list of required properties is written if it is empty. -/
def ModelSchema.document (s : ModelSchema) : Document :=
  let bare : Document :=
    ⟨Text.ofString s.id, Text.ofString s.title, s.description, none, none, none, none⟩
  match s.body with
  | .unknown => bare
  | .enumeration type values =>
    { bare with
      type := type.map Text.ofString
      enum := some (values.map MemberValue.toJson) }
  | .object properties required =>
    { bare with
      type := some (Text.ofString "object")
      properties := some (properties.map fun p => (Text.ofString p.1, p.2.toJson))
      required := if required.isEmpty then none else some (required.map Text.ofString) }

/-! ## To JSON -/

def optionalField {α : Type} (name : String) (toJson : α → Json) :
    Option α → List (String × Json)
  | some a => [(name, toJson a)]
  | none => []

def Document.toJson (d : Document) : Json :=
  .record ([("$id", .text d.id), ("title", .text d.title)] ++
    optionalField "description" .text d.description ++
    optionalField "type" .text d.type ++
    optionalField "properties" .object d.properties ++
    optionalField "required" (fun names => .array (names.map .text)) d.required ++
    optionalField "enum" .array d.enum)

def artifactText (documents : List Document) : Except Source.SourceFault String :=
  Json.render (.array (documents.map Document.toJson))

end ModelReach
