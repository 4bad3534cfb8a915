import ModelReach.Proofs.Catalogue.Agreement
import ModelReach.Proofs.Masking.Facts
import ModelReach.Types.Referenced

/-! Types of two sources that correspond: classes that are the same but for what a policy ignores, and what is made
of such types in the same way. If the sources agree, a reference that is resolved in one and in the other, while
nothing else is, gives twins. -/
namespace ModelReach.Catalogue
set_option autoImplicit false

variable {p : Policy} {loads loads' : List ModuleFacts}

/-! ## Twins -/

/-- Types of two sources that correspond. -/
inductive Twin (p : Policy) (loads loads' : List ModuleFacts) : Descriptor → Descriptor → Prop
  | declared {n n' : Nat} {f f' : ClassFacts} (h : (classesIn loads)[n]? = some f)
    (h' : (classesIn loads')[n']? = some f') (hm : f.masked p = f'.masked p) :
    Twin p loads loads' (.declared n f) (.declared n' f')
  | leaf (form : Leaf) : Twin p loads loads' (.leaf form) (.leaf form)
  | array {key : String} {element element' : Descriptor} {unique : Bool}
    (h : Twin p loads loads' element element') :
    Twin p loads loads' (.array key element unique) (.array key element' unique)
  | generic {key origin : String} {args args' : List Descriptor}
    (h : List.Forall₂ (Twin p loads loads') args args') :
    Twin p loads loads' (.generic key origin args) (.generic key origin args')

theorem Agree.exists_twin (h : Agree p loads loads') {t : Descriptor} (ht : Registered loads t) :
    ∃ t', Registered loads' t' ∧ Twin p loads loads' t t' := by
  obtain ⟨n, f, hf, rfl⟩ := ht
  obtain ⟨n', f', hf', hm⟩ := h.exists_class (List.mem_of_getElem? hf)
  exact ⟨.declared n' f', ⟨n', f', hf', rfl⟩, .declared hf hf' hm⟩

/-! ## What twins have in common -/

section Twin
variable {t t' : Descriptor} (h : Twin p loads loads' t t')
include h

/-- Twins are the same in all that shows neither the parts of a type nor more of a class than masks leave alone. -/
theorem Twin.same {β : Type} (get : Descriptor → β)
    (hdeclared : ∀ n n' (f f' : ClassFacts), f.masked p = f'.masked p → get (.declared n f) = get (.declared n' f'))
    (harray : ∀ key element element' unique, get (.array key element unique) = get (.array key element' unique))
    (hgeneric : ∀ key origin args args', get (.generic key origin args) = get (.generic key origin args')) :
    get t = get t' := by
  cases h with
  | declared _ _ hm => exact hdeclared _ _ _ _ hm
  | leaf form => rfl
  | array _ => exact harray _ _ _ _
  | generic _ => exact hgeneric _ _ _ _

theorem Twin.qualifiedName : t.qualifiedName = t'.qualifiedName :=
  h.same Descriptor.qualifiedName (fun _ _ _ _ hm => ClassFacts.same hm ClassFacts.qualifiedName fun _ => rfl)
    (fun _ _ _ _ => rfl) fun _ _ _ _ => rfl

theorem Twin.key : t.key = t'.key :=
  h.same Descriptor.key (fun _ _ _ _ hm => ClassFacts.same hm ClassFacts.qualifiedName fun _ => rfl)
    (fun _ _ _ _ => rfl) fun _ _ _ _ => rfl

theorem Twin.name : t.name = t'.name := by
  rw [Descriptor.name, Descriptor.name, h.qualifiedName]

theorem Twin.namespaceName : t.namespaceName = t'.namespaceName :=
  h.same Descriptor.namespaceName (fun _ _ _ _ hm => ClassFacts.same hm ClassFacts.module fun _ => rfl)
    (fun _ _ _ _ => rfl) fun _ _ _ _ => rfl

theorem Twin.module? : t.module? = t'.module? :=
  h.same Descriptor.module?
    (fun _ _ _ _ hm => congrArg some (ClassFacts.same hm ClassFacts.module fun _ => rfl))
    (fun _ _ _ _ => rfl) fun _ _ _ _ => rfl

theorem Twin.tags : t.tags = t'.tags :=
  h.same Descriptor.tags (fun _ _ _ _ hm => ClassFacts.same hm ClassFacts.decorators fun _ => rfl)
    (fun _ _ _ _ => rfl) fun _ _ _ _ => rfl

theorem Twin.isDeclared : t.isDeclared = t'.isDeclared :=
  h.same Descriptor.isDeclared (fun _ _ _ _ _ => rfl) (fun _ _ _ _ => rfl) fun _ _ _ _ => rfl

theorem Twin.isExcluded (q : Policy) : q.isExcluded t = q.isExcluded t' := by
  rw [Policy.isExcluded, Policy.isExcluded, h.tags, h.qualifiedName]

theorem Twin.isModelOfKind (q : Policy) (kind : Kind) : q.isModelOfKind kind t = q.isModelOfKind kind t' := by
  rw [Policy.isModelOfKind, Policy.isModelOfKind, Policy.hasExcludedPrefix, Policy.hasExcludedPrefix,
    h.qualifiedName, h.namespaceName]

end Twin

/-! ## Classes by their keys -/

/-- No key has two classes. -/
def OneClassForKey (loads : List ModuleFacts) : Prop :=
  ∀ t t', Registered loads t → Registered loads t' → t.key = t'.key → t = t'

theorem Agree.twin_of_key (h : Agree p loads loads') (hone : OneClassForKey loads') {t t' : Descriptor}
    (ht : Registered loads t) (ht' : Registered loads' t') (hk : t.key = t'.key) : Twin p loads loads' t t' := by
  obtain ⟨u, hu, htwin⟩ := h.exists_twin ht
  rw [hone t' u ht' hu (hk.symm.trans (htwin.key))]
  exact htwin

/-- Under a key stand twins, or nothing. -/
theorem Agree.get? (h : Agree p loads loads') (hone : OneClassForKey loads') (k : String) :
    Option.Rel (Twin p loads loads') ((loaded loads).get? k) ((loaded loads').get? k) := by
  cases hg : (loaded loads).get? k with
  | some t =>
    obtain ⟨t', ht', htwin⟩ := h.exists_twin (registered_of_get? hg)
    obtain ⟨u, hu⟩ := ht'.exists_get?
    rw [← htwin.key, key_of_get? hg] at hu
    rw [hu]
    exact .some (h.twin_of_key hone (registered_of_get? hg) (registered_of_get? hu)
      ((key_of_get? hg).trans (key_of_get? hu).symm))
  | none =>
    cases hg' : (loaded loads').get? k with
    | none => exact .none
    | some t' =>
      obtain ⟨t, ht, htwin⟩ := h.symm.exists_twin (registered_of_get? hg')
      obtain ⟨u, hu⟩ := ht.exists_get?
      rw [← htwin.key, key_of_get? hg', hg] at hu
      cases hu

theorem Agree.classesOf (h : Agree p loads loads') (hone : OneClassForKey loads') (module : String) :
    List.Forall₂ (Twin p loads loads') ((loaded loads).classesOf module) ((loaded loads').classesOf module) :=
  forall₂_of_mem (forall₂_of_map_eq (h.keys_classesOf module)) fun _ ht _ ht' hk =>
    h.twin_of_key hone (registered_of_mem_classesOf ht) (registered_of_mem_classesOf ht') hk

/-! ## Resolution -/

/-- Tables that hold twins under the same keys. -/
def TwinTables (p : Policy) (loads loads' : List ModuleFacts) (table table' : List (String × Descriptor)) :
    Prop :=
  ∀ k, Option.Rel (Twin p loads loads') (table.lookup k) (table'.lookup k)

theorem Agree.tables (h : Agree p loads loads') (hone : OneClassForKey loads') :
    TwinTables p loads loads' (loaded loads).resolved (loaded loads').resolved := by
  intro k
  rw [loaded_resolved, loaded_resolved]
  exact h.get? hone k

theorem TwinTables.assign {table table' : List (String × Descriptor)} (h : TwinTables p loads loads' table table')
    (key : String) {t t' : Descriptor} (ht : Twin p loads loads' t t') :
    TwinTables p loads loads' (assign table key t) (assign table' key t') := by
  intro k
  rw [lookup_assign, lookup_assign]
  split
  · exact .some ht
  · exact h k

/-- What two questions give, and what they leave. -/
structure TwinAnswers {α β : Type} (R : α → β → Prop) (p : Policy) (loads loads' : List ModuleFacts)
    (x : α × Catalogue) (x' : β × Catalogue) : Prop where
  answer : R x.1 x'.1
  tables : TwinTables p loads loads' x.2.resolved x'.2.resolved

theorem twin_keptOr (key : String) {make make' : StateM Catalogue Descriptor} {c c' : Catalogue}
    (h : TwinTables p loads loads' c.resolved c'.resolved)
    (hmake : TwinAnswers (Twin p loads loads') p loads loads' (make c) (make' c')) :
    TwinAnswers (Twin p loads loads') p loads loads' (keptOr key make c) (keptOr key make' c') := by
  have hk := h key
  unfold keptOr
  cases hl : c.resolved.lookup key with
  | some t =>
    cases hl' : c'.resolved.lookup key with
    | some t' =>
      rw [hl, hl'] at hk
      cases hk with
      | some ht => exact ⟨ht, h⟩
    | none =>
      rw [hl, hl'] at hk
      cases hk
  | none =>
    cases hl' : c'.resolved.lookup key with
    | some t' =>
      rw [hl, hl'] at hk
      cases hk
    | none => exact ⟨hmake.answer, hmake.tables.assign key hmake.answer⟩

mutual

/-- From tables that hold twins a reference is resolved to twins. -/
theorem twin_resolve : ∀ (r : TypeRef) {c c' : Catalogue}, TwinTables p loads loads' c.resolved c'.resolved →
    TwinAnswers (Twin p loads loads') p loads loads' (resolve r c) (resolve r c')
  | .named name, c, c', h => by
    rw [resolve]
    exact twin_keptOr name h ⟨Twin.leaf _, h⟩
  | .array element unique, c, c', h => by
    obtain ⟨helement, htables⟩ := twin_resolve element h
    rw [resolve]
    exact twin_keptOr _ h ⟨Twin.array helement, htables⟩
  | .generic origin args, c, c', h => by
    obtain ⟨hargs, htables⟩ := twin_resolveAll args h
    rw [resolve]
    exact twin_keptOr _ h ⟨Twin.generic hargs, htables⟩

theorem twin_resolveAll : ∀ (refs : List TypeRef) {c c' : Catalogue},
    TwinTables p loads loads' c.resolved c'.resolved →
      TwinAnswers (List.Forall₂ (Twin p loads loads')) p loads loads' (resolveAll refs c) (resolveAll refs c')
  | [], _, _, h => ⟨List.Forall₂.nil, h⟩
  | r :: refs, c, c', h => by
    obtain ⟨ht, htables⟩ := twin_resolve r h
    obtain ⟨hts, hlast⟩ := twin_resolveAll refs htables
    rw [resolveAll]
    exact ⟨List.Forall₂.cons ht hts, hlast⟩

end

end ModelReach.Catalogue
