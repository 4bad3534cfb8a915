import ModelReach.Schema.Document
import ModelReach.Validation.Values

/-! Schema documents from JSON. -/
namespace ModelReach.Validation
set_option autoImplicit false

/-- The name of a document, under either of its two field names. -/
def documentId (fields : Fields) : Checked Text :=
  match Json.field? fields "$id", Json.field? fields "id" with
  | none, some v => (text v).inside "id"
  | _, _ => required fields "$id" text

def object (v : Json) : Checked Json := Json.object <$> dictionaryOf anything v

def document : Json → Checked Document :=
  instanceOf "SchemaDocument" fun fields =>
    Document.mk <$> documentId fields
      <*> required fields "title" text
      <*> optional fields "description" none (nullable text)
      <*> optional fields "type" none (nullable text)
      <*> optional fields "properties" none (nullable (dictionaryOf object))
      <*> optional fields "required" none (nullable (listOf text))
      <*> optional fields "enum" none (nullable (listOf anything))

end ModelReach.Validation
