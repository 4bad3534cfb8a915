import ModelReach.Proofs.Reach.Following
import ModelReach.Proofs.Schema.Describing

/-! References in schemas. A reference at any depth of a property's schema names a leaf of the property's type,
and the leaf, if it is accepted, is among the types that the property leads to. -/
namespace ModelReach
set_option autoImplicit false

/-! ## References in JSON -/

/-- Somewhere in the value, at any depth, there is a field of the name that refers to schemas, with the
text. -/
inductive Refers : Json → Text → Prop
  | here {fields : List (Text × Json)} {r : Text} (h : (Text.ofString "$ref", .text r) ∈ fields) :
    Refers (.object fields) r
  | field {fields : List (Text × Json)} {entry : Text × Json} {r : Text} (h : entry ∈ fields)
    (hr : Refers entry.2 r) : Refers (.object fields) r
  | item {items : List Json} {item : Json} {r : Text} (h : item ∈ items) (hr : Refers item r) :
    Refers (.array items) r

/-- The names of fields in schemas other than the one that refers. -/
def plainFields : List String := ["type", "format", "items", "uniqueItems", "anyOf", "additionalProperties"]

theorem ofString_plainFields : ∀ name ∈ plainFields, Text.ofString name ≠ Text.ofString "$ref" := by decide

theorem refers_plain {fields : List (String × Json)} {r : Text} (h : Refers (.record fields) r)
    (hn : ∀ f ∈ fields, f.1 ∈ plainFields) : ∃ f ∈ fields, Refers f.2 r := by
  cases h with
  | here h =>
    obtain ⟨f, hf, he⟩ := List.mem_map.mp h
    rw [Prod.mk.injEq] at he
    exact absurd he.1 (ofString_plainFields f.1 (hn f hf))
  | field h hr =>
    obtain ⟨f, hf, rfl⟩ := List.mem_map.mp h
    exact ⟨f, hf, hr⟩

theorem not_refers_text {t r : Text} : ¬ Refers (.text t) r := nofun

theorem not_refers_bool {b : Bool} {r : Text} : ¬ Refers (.bool b) r := nofun

/-! ## References in schemas -/

mutual

def Schema.references : Schema → List String
  | .anything => []
  | .simple _ _ => []
  | .reference id => [id]
  | .array items _ => items.references
  | .anyOf options => Schema.referencesOf options
  | .mapping none => []
  | .mapping (some values) => values.references

def Schema.referencesOf : List Schema → List String
  | [] => []
  | s :: rest => s.references ++ Schema.referencesOf rest

end

theorem Schema.mem_referencesOf {schemas : List Schema} {id : String} :
    id ∈ Schema.referencesOf schemas ↔ ∃ s ∈ schemas, id ∈ s.references := by
  induction schemas with
  | nil => simp [Schema.referencesOf]
  | cons s schemas ih => rw [Schema.referencesOf, List.mem_append, ih, List.exists_mem_cons_iff]

mutual

/-- What the JSON of a schema refers to is what the schema refers to. -/
theorem Schema.of_refers_toJson : ∀ (s : Schema) {r : Text}, Refers s.toJson r →
    ∃ id ∈ s.references, r = Text.ofString id
  | .anything, r, h => by
    rw [Schema.toJson] at h
    cases h with
    | here h => cases h
    | field h _ => cases h
  | .simple type format, r, h => by
    rw [Schema.toJson] at h
    obtain ⟨f, hf, hr⟩ := refers_plain h (by cases format <;> simp [plainFields])
    rcases List.mem_cons.mp hf with rfl | hf
    · exact absurd hr not_refers_text
    · obtain ⟨x, _, rfl⟩ := List.mem_map.mp hf
      exact absurd hr not_refers_text
  | .reference id, r, h => by
    rw [Schema.toJson] at h
    cases h with
    | here h =>
      cases List.mem_singleton.mp h
      exact ⟨id, List.mem_singleton_self id, rfl⟩
    | field h hr =>
      rw [List.mem_singleton.mp h] at hr
      exact absurd hr not_refers_text
  | .array items unique, r, h => by
    rw [Schema.toJson] at h
    obtain ⟨f, hf, hr⟩ := refers_plain h (by cases unique <;> simp [plainFields])
    have hflag : ∀ f ∈ (if unique then [("uniqueItems", Json.bool true)] else []), ¬ Refers f.2 r := by
      cases unique with
      | false => exact fun f hf => absurd hf List.not_mem_nil
      | true =>
        intro f hf
        rw [List.mem_singleton.mp hf]
        exact not_refers_bool
    rcases List.mem_append.mp hf with hf | hf
    · rcases List.mem_cons.mp hf with rfl | hf
      · exact absurd hr not_refers_text
      · rw [List.mem_singleton.mp hf] at hr
        exact Schema.of_refers_toJson items hr
    · exact absurd hr (hflag f hf)
  | .anyOf options, r, h => by
    rw [Schema.toJson] at h
    obtain ⟨f, hf, hr⟩ := refers_plain h (by simp [plainFields])
    rw [List.mem_singleton.mp hf] at hr
    cases hr with
    | item hi hr => exact Schema.of_refers_toJsons options hi hr
  | .mapping none, r, h => by
    rw [Schema.toJson] at h
    obtain ⟨f, hf, hr⟩ := refers_plain h (by simp [plainFields])
    rw [List.mem_singleton.mp hf] at hr
    exact absurd hr not_refers_text
  | .mapping (some values), r, h => by
    rw [Schema.toJson] at h
    obtain ⟨f, hf, hr⟩ := refers_plain h (by simp [plainFields])
    rcases List.mem_cons.mp hf with rfl | hf
    · exact absurd hr not_refers_text
    · rw [List.mem_singleton.mp hf] at hr
      exact Schema.of_refers_toJson values hr

theorem Schema.of_refers_toJsons : ∀ (schemas : List Schema) {item : Json} {r : Text},
    item ∈ Schema.toJsons schemas → Refers item r → ∃ id ∈ Schema.referencesOf schemas, r = Text.ofString id
  | [], item, r, hi, _ => by
    rw [Schema.toJsons] at hi
    cases hi
  | s :: rest, item, r, hi, hr => by
    rw [Schema.toJsons] at hi
    rw [Schema.referencesOf]
    rcases List.mem_cons.mp hi with rfl | hi
    · obtain ⟨id, hid, he⟩ := Schema.of_refers_toJson s hr
      exact ⟨id, List.mem_append_left _ hid, he⟩
    · obtain ⟨id, hid, he⟩ := Schema.of_refers_toJsons rest hi hr
      exact ⟨id, List.mem_append_right _ hid, he⟩

end

/-! ## References to leaves -/

/-- The name of a leaf that is a class or an enumeration. -/
def NamesLeaf (v : View Id) (leaves : List Descriptor) (id : String) : Prop :=
  ∃ l ∈ leaves, ((v.kind l).run = .ofClass ∨ (v.kind l).run = .enum) ∧ id = l.qualifiedName

theorem NamesLeaf.mono {v : View Id} {leaves more : List Descriptor} {id : String}
    (h : NamesLeaf v leaves id) (hm : ∀ l ∈ leaves, l ∈ more) : NamesLeaf v more id := by
  obtain ⟨l, hl, hk⟩ := h
  exact ⟨l, hm l hl, hk⟩

theorem references_primitive : ∀ e ∈ primitiveSchemas, e.2.references = [] := by
  simp [primitiveSchemas, Schema.references, Schema.null]

theorem namesLeaf_schemaOfKind {v : View Id} {t : Descriptor} {id : String}
    (h : id ∈ (schemaOfKind t (v.kind t).run).references) : NamesLeaf v [t] id := by
  have hnames : (v.kind t).run = .ofClass ∨ (v.kind t).run = .enum →
      id ∈ (Schema.reference t.qualifiedName).references → NamesLeaf v [t] id := fun hk hid =>
    ⟨t, List.mem_singleton_self t, hk, List.mem_singleton.mp hid⟩
  cases hk : (v.kind t).run with
  | ofClass =>
    rw [hk] at h
    exact hnames (Or.inl hk) h
  | enum =>
    rw [hk] at h
    exact hnames (Or.inr hk) h
  | primitive =>
    rw [hk, schemaOfKind] at h
    cases hl : primitiveSchemas.lookup t.qualifiedName with
    | none =>
      rw [hl] at h
      cases h
    | some s =>
      rw [hl, Option.getD_some, references_primitive _ (Catalogue.mem_of_lookup hl)] at h
      cases h
  | interface => rw [hk] at h; cases h
  | array => rw [hk] at h; cases h
  | generic => rw [hk] at h; cases h
  | other => rw [hk] at h; cases h

theorem references_choice (options : List Schema) :
    (Schema.choice options).references = Schema.referencesOf options := by
  unfold Schema.choice
  split
  · rw [Schema.referencesOf, Schema.referencesOf, List.append_nil]
  · rw [Schema.references]

/-- A generic type refers to what its arguments refer to, some of which may be left out. -/
theorem of_mem_references_genericSchema {origin name : String} {args : List (Id Schema)}
    (h : name ∈ (genericSchema origin args).run.references) : ∃ s ∈ args, name ∈ s.run.references := by
  unfold genericSchema at h
  split at h
  · have hrun : (args.mapM id).run = args.map Id.run := List.idRun_mapM
    change name ∈ (Schema.choice ((args.mapM id).run ++
      if origin = optionalOrigin then [.null] else [])).references at h
    rw [references_choice, Schema.mem_referencesOf, hrun] at h
    obtain ⟨s, hs, hname⟩ := h
    rcases List.mem_append.mp hs with hs | hs
    · obtain ⟨a, ha, rfl⟩ := List.mem_map.mp hs
      exact ⟨a, ha, hname⟩
    · split at hs
      · rw [List.mem_singleton.mp hs] at hname
        cases hname
      · cases hs
  · split at h
    · split at h
      · rename_i first values
        exact ⟨values, List.mem_cons_of_mem _ (List.mem_singleton_self values), h⟩
      · cases h
    · split at h
      · rename_i arg _
        exact ⟨arg, List.mem_singleton_self arg, h⟩
      · cases h

mutual

/-- What the schema of a type refers to are leaves of the type. -/
theorem namesLeaf_of_mem_references {v : View Id} : ∀ (t : Descriptor) {name : String},
    name ∈ (propertySchema v t).run.references → NamesLeaf v t.leaves name
  | .array key element unique, name, h => by
    rw [propertySchema] at h
    rw [Descriptor.leaves]
    exact namesLeaf_of_mem_references element h
  | .generic key origin args, name, h => by
    rw [propertySchema] at h
    rw [Descriptor.leaves]
    obtain ⟨s, hs, hname⟩ := of_mem_references_genericSchema h
    exact namesLeaf_of_mem_arguments args hs hname
  | .declared n facts, name, h => by
    simp only [propertySchema] at h
    rw [Descriptor.leaves]
    exact namesLeaf_schemaOfKind h
  | .leaf form, name, h => by
    simp only [propertySchema] at h
    rw [Descriptor.leaves]
    exact namesLeaf_schemaOfKind h

theorem namesLeaf_of_mem_arguments {v : View Id} : ∀ (args : List Descriptor) {s : Id Schema}
    {name : String}, s ∈ argumentSchemas v args → name ∈ s.run.references →
      NamesLeaf v (Descriptor.leavesOf args) name
  | [], s, name, hs, _ => by
    rw [argumentSchemas] at hs
    cases hs
  | a :: rest, s, name, hs, hname => by
    rw [argumentSchemas] at hs
    rw [Descriptor.leavesOf]
    rcases List.mem_cons.mp hs with rfl | hs
    · exact (namesLeaf_of_mem_references a hname).mono fun _ => List.mem_append_left _
    · exact (namesLeaf_of_mem_arguments rest hs hname).mono fun _ => List.mem_append_right _

end

theorem leaves_effectiveType (q : Property) : q.effectiveType.leaves = q.type.leaves := by
  unfold Property.effectiveType
  split
  · rename_i key origin arg he
    rw [he, Descriptor.leaves, Descriptor.leavesOf, Descriptor.leavesOf, List.append_nil]
  · rfl

/-! ## References in documents -/

theorem mem_properties_classBody {v : View Id} {policy : Option Policy} {t : Descriptor}
    {properties : List (String × Schema)} {required : List String}
    (h : (classBody v policy t).run = .object properties required) :
    ∀ e ∈ properties, ∃ q ∈ (v.allProperties t).run, isHidden policy q = false ∧
      e.2 = (propertySchema v q.type).run := by
  have hrun : (classBody v policy t).run =
      .object ((((v.allProperties t).run.filter fun q => !isHidden policy q).mapM (namedSchema v)).run)
        (requiredNames ((v.allProperties t).run.filter fun q => !isHidden policy q)) := rfl
  rw [hrun, List.idRun_mapM] at h
  cases h
  intro e he
  obtain ⟨q, hq, rfl⟩ := List.mem_map.mp he
  obtain ⟨hq, hh⟩ := List.mem_filter.mp hq
  rw [Bool.not_eq_true'] at hh
  exact ⟨q, hq, hh, rfl⟩

theorem object_of_generateSchema {v : View Id} {policy : Option Policy} {t : Descriptor}
    {properties : List (String × Schema)} {required : List String}
    (h : (generateSchema v policy t).run.body = .object properties required) :
    (classBody v policy t).run = .object properties required := by
  unfold generateSchema at h
  split at h
  · cases h
  · rename_i facts _
    have hbody : (modelBody v policy t facts).run = .object properties required := h
    unfold modelBody at hbody
    change Id.run (if (v.kind t).run = .enum then pure (enumBody facts) else classBody v policy t) = _ at hbody
    split at hbody
    · cases hbody
    · exact hbody

theorem properties_document {schema : ModelSchema} {properties : List (Text × Json)}
    (h : schema.document.properties = some properties) :
    ∃ named required, schema.body = .object named required ∧
      properties = named.map fun e => (Text.ofString e.1, e.2.toJson) := by
  obtain ⟨id, title, description, body⟩ := schema
  cases body with
  | unknown => cases h
  | enumeration type values => cases h
  | object named required =>
    cases h
    exact ⟨named, required, rfl, rfl⟩

/-- What the document of a model refers to are leaves of the types of its properties that are not hidden. -/
theorem namesLeaf_of_refers {v : View Id} {policy : Option Policy} {t : Descriptor}
    {properties : List (Text × Json)} {entry : Text × Json} {r : Text}
    (hp : (generateSchema v policy t).run.document.properties = some properties)
    (he : entry ∈ properties) (hr : Refers entry.2 r) :
    ∃ q ∈ (v.allProperties t).run, isHidden policy q = false ∧
      ∃ name, r = Text.ofString name ∧ NamesLeaf v q.type.leaves name := by
  obtain ⟨named, required, hbody, rfl⟩ := properties_document hp
  obtain ⟨e, hmem, rfl⟩ := List.mem_map.mp he
  obtain ⟨q, hq, hh, hschema⟩ := mem_properties_classBody (object_of_generateSchema hbody) e hmem
  obtain ⟨name, hname, hr⟩ := Schema.of_refers_toJson e.2 hr
  rw [hschema] at hname
  exact ⟨q, hq, hh, name, hr, namesLeaf_of_mem_references q.type hname⟩

/-! ## Accepted leaves of properties -/

namespace Catalogue

variable {loads : List ModuleFacts}

/-- A leaf that is a class or an enumeration stands in the catalogue under its name. -/
theorem stands_of_namesLeaf {c : Catalogue} {t : Descriptor} (ht : Current loads t) {name : String}
    (h : NamesLeaf c.reading t.leaves name) :
    ∃ l ∈ t.leaves, ((c.reading.kind l).run = .ofClass ∨ (c.reading.kind l).run = .enum) ∧
      l.key = name ∧ Current loads l ∧ (loaded loads).get? name = some l := by
  obtain ⟨l, hl, hk, rfl⟩ := h
  have hcurrent := current_of_mem_leaves ht l hl
  rw [hcurrent.qualifiedName_eq]
  exact ⟨l, hl, hk, rfl, hcurrent, hcurrent.get?_of_isDeclared (Reach.isDeclared_of_kind hk)⟩

/-- The accepted leaves of a property are among the types that the property leads to. -/
theorem shows_of_leaf {p : Policy} {c : Catalogue} (hc : Sound loads c) {m l : Descriptor} {q : Property}
    (hq : q ∈ (c.reading.allProperties m).run) (hi : p.ignores q.tags = false) (hl : l ∈ q.type.leaves)
    (ha : (p.accepts c.reading l).run = true) : ∃ f, Reach.ShowsTo p c.reading m f ∧ f.key = l.key := by
  have hcurrent : Current loads q.effectiveType :=
    (current_of_mem_allProperties hc.resolved hq).effectiveType
  rw [← leaves_effectiveType] at hl
  obtain ⟨f, hf, hkey⟩ := List.mem_map.mp (key_mem_referenced p q.effectiveType hcurrent l hl ha)
  exact ⟨f, ⟨q, hq, hi, hf⟩, hkey⟩

end Catalogue
end ModelReach
