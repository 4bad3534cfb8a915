import ModelReach.Proofs.Masking.Views

/-! Schemas of twins. Where a policy leaves ignored properties out, twins are described alike. -/
namespace ModelReach.Catalogue
set_option autoImplicit false

variable {p : Policy} {loads loads' : List ModuleFacts}

theorem Twin.isOptional {t t' : Descriptor} (h : Twin p loads loads' t t') :
    t.isOptional = t'.isOptional := by
  cases h with
  | declared _ _ _ => rfl
  | leaf form => rfl
  | array _ => rfl
  | generic h =>
    rw [Descriptor.isOptional, Descriptor.isOptional,
      any_congr (fun a b (hab : Twin p loads loads' a b) => by rw [hab.qualifiedName]) h]

theorem schemaOfKind_twin {t t' : Descriptor} (h : Twin p loads loads' t t') (kind : Kind) :
    schemaOfKind t kind = schemaOfKind t' kind := by
  unfold schemaOfKind
  rw [h.qualifiedName]

/-- What is asked of elements that correspond is the same list, if each answer is the same. -/
theorem mapM_congr {α α' β : Type} {R : α → α' → Prop} {f : α → Id β} {f' : α' → Id β} {l : List α} {l' : List α'}
    (hf : ∀ a a', R a a' → (f a).run = (f' a').run) (h : List.Forall₂ R l l') :
    (l.mapM f).run = (l'.mapM f').run := by
  induction h with
  | nil => rfl
  | cons ha _ ih =>
    rw [List.mapM_cons, List.mapM_cons]
    exact congrArg₂ List.cons (hf _ _ ha) ih

/-- Properties that correspond and are not ignored. -/
structure TwinShown (p : Policy) (loads loads' : List ModuleFacts) (q q' : Property) : Prop where
  name : q.name = q'.name
  hasDefault : q.hasDefault = q'.hasDefault
  type : Twin p loads loads' q.type q'.type

/-- Leaving ignored properties out leaves those that show. -/
theorem twinShown_filter {l l' : List Property} (h : List.Forall₂ (TwinProperty p loads loads') l l') :
    List.Forall₂ (TwinShown p loads loads') (l.filter fun q => !isHidden (some p) q)
      (l'.filter fun q => !isHidden (some p) q) := by
  have hfilter : List.Forall₂ (TwinProperty p loads loads') (l.filter fun q => !isHidden (some p) q)
      (l'.filter fun q => !isHidden (some p) q) := by
    refine List.rel_filter (fun q q' hq => ?_) h
    simp only [isHidden, Option.any_some, hq.tags]
  refine forall₂_of_mem hfilter fun q hq _ _ htwin => ⟨htwin.name, htwin.hasDefault, htwin.type ?_⟩
  have hshown := (List.mem_filter.mp hq).2
  simpa only [isHidden, Option.any_some, Bool.not_eq_true'] using hshown

theorem requiredNames_twin {l l' : List Property}
    (h : List.Forall₂ (TwinShown p loads loads') l l') : requiredNames l = requiredNames l' := by
  have hfilter : List.Forall₂ (TwinShown p loads loads') (l.filter fun q => !q.hasDefault && !q.type.isOptional)
      (l'.filter fun q => !q.hasDefault && !q.type.isOptional) := by
    refine List.rel_filter (fun q q' hq => ?_) h
    simp only [hq.hasDefault, hq.type.isOptional]
  exact map_congr (fun _ _ hq => hq.name) hfilter

/-! ## Schemas of types -/

variable {v v' : View Id}

mutual

theorem TwinViews.propertySchema (h : TwinViews p loads loads' v v') : ∀ {t t' : Descriptor},
    Twin p loads loads' t t' → propertySchema v t = propertySchema v' t'
  | .array _ _ _, _, .array ht => by
    rw [ModelReach.propertySchema, ModelReach.propertySchema, h.propertySchema ht]
  | .generic _ _ _, _, .generic hargs => by
    rw [ModelReach.propertySchema, ModelReach.propertySchema, h.argumentSchemas hargs]
  | .declared n f, .declared n' f', .declared hf hf' hm => by
    have ht : Twin p loads loads' (.declared n f) (.declared n' f') := .declared hf hf' hm
    simp only [ModelReach.propertySchema]
    rw [show v.kind (.declared n f) = v'.kind (.declared n' f') from h.kind ht]
    exact congrArg _ (funext fun kind => congrArg pure (schemaOfKind_twin ht kind))
  | .leaf _, _, .leaf form => by
    simp only [ModelReach.propertySchema]
    rw [show v.kind (.leaf form) = v'.kind (.leaf form) from h.kind (.leaf form)]

theorem TwinViews.argumentSchemas (h : TwinViews p loads loads' v v') : ∀ {args args' : List Descriptor},
    List.Forall₂ (Twin p loads loads') args args' → argumentSchemas v args = argumentSchemas v' args'
  | [], _, .nil => rfl
  | _ :: _, _, .cons harg hrest => by
    rw [ModelReach.argumentSchemas, ModelReach.argumentSchemas, h.propertySchema harg, h.argumentSchemas hrest]

end

/-! ## Schemas of models -/

section Models
variable (h : TwinViews p loads loads' v v')
include h

theorem TwinViews.namedSchema {q q' : Property} (hq : TwinShown p loads loads' q q') :
    (namedSchema v q).run = (namedSchema v' q').run :=
  Prod.ext hq.name (h.propertySchema hq.type)

theorem TwinViews.classBody {t t' : Descriptor} (ht : Twin p loads loads' t t') :
    (classBody v (some p) t).run = (classBody v' (some p) t').run := by
  have hshown := twinShown_filter (h.allProperties ht)
  exact congrArg₂ ModelBody.object (mapM_congr (fun _ _ hq => h.namedSchema hq) hshown)
    (requiredNames_twin hshown)

/-- Twins have the same schema. -/
theorem TwinViews.generateSchema {t t' : Descriptor} (ht : Twin p loads loads' t t') :
    (generateSchema v (some p) t).run = (generateSchema v' (some p) t').run := by
  have hid := ht.qualifiedName
  have htitle := ht.name
  have hkind := h.kind ht
  have hbody := h.classBody ht
  cases ht with
  | @declared n n' f f' _ _ hm =>
    have hdoc : f.docstring = f'.docstring := ClassFacts.same hm ClassFacts.docstring fun _ => rfl
    have hmembers : f.members = f'.members := ClassFacts.same hm ClassFacts.members fun _ => rfl
    have hmodel : (modelBody v (some p) (.declared n f) f).run =
        (modelBody v' (some p) (.declared n' f') f').run := by
      change Id.run (if (v.kind (.declared n f)).run = .enum then pure (enumBody f)
        else pure (ModelReach.classBody v (some p) (.declared n f)).run) =
          Id.run (if (v'.kind (.declared n' f')).run = .enum then pure (enumBody f')
            else pure (ModelReach.classBody v' (some p) (.declared n' f')).run)
      rw [hkind, hbody, enumBody, enumBody, hmembers]
    change (⟨(Descriptor.declared n f).qualifiedName, (Descriptor.declared n f).name, f.docstring,
      (modelBody v (some p) (.declared n f) f).run⟩ : ModelSchema) =
        ⟨(Descriptor.declared n' f').qualifiedName, (Descriptor.declared n' f').name, f'.docstring,
          (modelBody v' (some p) (.declared n' f') f').run⟩
    rw [hid, htitle, hdoc, hmodel]
  | leaf form => rfl
  | array _ => rfl
  | generic _ => rfl

end Models

end ModelReach.Catalogue
