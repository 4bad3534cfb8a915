import ModelReach.Proofs.Catalogue.Questions
import ModelReach.Proofs.Text.Sorting
import ModelReach.Schema.Document

/-! Describing models. The schemas come in the strict order of the models' keys, and what is asked for them is
answered as the readings of later catalogues do. -/
namespace ModelReach
set_option autoImplicit false

/-! ## Schemas by key -/

theorem putSchema_of_notMem {done : List (String × ModelSchema)} {key : String} (schema : ModelSchema)
    (h : key ∉ done.map Prod.fst) : putSchema done key schema = done ++ [(key, schema)] := by
  unfold putSchema
  rw [if_neg]
  intro ha
  obtain ⟨e, he, hk⟩ := List.any_eq_true.mp ha
  exact h (List.mem_map.mpr ⟨e, he, of_decide_eq_true hk⟩)

theorem addSchemas_run (v : View Id) (policy : Option Policy) (models : List Descriptor)
    (done : List (String × ModelSchema))
    (h : (done.map Prod.fst ++ models.map Descriptor.key).Nodup) :
    (models.foldlM (addSchema v policy) done).run =
      done ++ models.map fun t => (t.key, (generateSchema v policy t).run) := by
  induction models generalizing done with
  | nil => exact (List.append_nil done).symm
  | cons t models ih =>
    have hnew : t.key ∉ done.map Prod.fst := by
      intro ht
      rw [List.map_cons] at h
      exact (List.nodup_append.mp h).2.2 _ ht _ (List.mem_cons_self ..) rfl
    have hrest : ((done ++ [(t.key, (generateSchema v policy t).run)]).map Prod.fst ++
        models.map Descriptor.key).Nodup := by
      rw [List.map_append, List.append_assoc]
      exact h
    have hstep : (addSchema v policy done t).run = done ++ [(t.key, (generateSchema v policy t).run)] :=
      putSchema_of_notMem _ hnew
    rw [List.foldlM_cons, List.map_cons]
    change (models.foldlM (addSchema v policy) (addSchema v policy done t).run).run = _
    rw [hstep, ih _ hrest, List.append_assoc]
    rfl

theorem generateSchemas_run (v : View Id) (policy : Option Policy) {models : List Descriptor}
    (h : (models.map Descriptor.key).Nodup) :
    (generateSchemas v policy models).run =
      ((models.map fun t => (t.key, (generateSchema v policy t).run)).mergeSort
        fun a b => a.1 ≤ b.1).map (·.2) := by
  have hfold := addSchemas_run v policy models [] h
  rw [List.nil_append] at hfold
  rw [← hfold]
  rfl

theorem mem_generateSchemas {v : View Id} {policy : Option Policy} {models : List Descriptor}
    (h : (models.map Descriptor.key).Nodup) {schema : ModelSchema} :
    schema ∈ (generateSchemas v policy models).run ↔
      ∃ t ∈ models, schema = (generateSchema v policy t).run := by
  rw [generateSchemas_run v policy h, List.mem_map]
  constructor
  · rintro ⟨e, he, rfl⟩
    obtain ⟨t, ht, rfl⟩ := List.mem_map.mp ((List.mergeSort_perm _ _).mem_iff.mp he)
    exact ⟨t, ht, rfl⟩
  · rintro ⟨t, ht, rfl⟩
    exact ⟨_, (List.mergeSort_perm _ _).mem_iff.mpr (List.mem_map_of_mem ht), rfl⟩

theorem id_generateSchema (v : View Id) (policy : Option Policy) (t : Descriptor) :
    (generateSchema v policy t).run.id = t.qualifiedName := by
  unfold generateSchema
  split <;> rfl

/-- The schemas are named as their models are, in the order of the names. -/
theorem map_id_generateSchemas (v : View Id) (policy : Option Policy) {models : List Descriptor}
    (h : (models.map Descriptor.key).Nodup) (hq : ∀ t ∈ models, t.qualifiedName = t.key) :
    (generateSchemas v policy models).run.map ModelSchema.id = sortStrings (models.map Descriptor.key) := by
  rw [generateSchemas_run v policy h, List.map_map]
  have hid : ∀ e ∈ (models.map fun t => (t.key, (generateSchema v policy t).run)).mergeSort
      (fun a b => a.1 ≤ b.1), (ModelSchema.id ∘ Prod.snd) e = Prod.fst e := by
    intro e he
    obtain ⟨t, ht, rfl⟩ := List.mem_map.mp ((List.mergeSort_perm _ _).mem_iff.mp he)
    exact (id_generateSchema v policy t).trans (hq t ht)
  rw [List.map_congr_left hid, map_name_sorted Prod.fst, List.map_map]
  rfl

theorem id_document (schema : ModelSchema) : schema.document.id = Text.ofString schema.id := by
  unfold ModelSchema.document
  dsimp only
  split <;> rfl

/-! ## Answers -/

namespace Catalogue

variable {loads : List ModuleFacts}

theorem argumentSchemas_eq_map {m : Type → Type} [Monad m] (v : View m) (args : List Descriptor) :
    argumentSchemas v args = args.map (propertySchema v) := by
  induction args with
  | nil => rfl
  | cons a args ih => rw [argumentSchemas, ih, List.map_cons]

theorem answers_genericSchema (origin : String) {args : List Descriptor}
    (h : ∀ a ∈ args, Answers loads (propertySchema view a) (fun c => propertySchema c.reading a)) :
    Answers loads (genericSchema origin (args.map (propertySchema view)))
      (fun c => genericSchema origin (args.map (propertySchema c.reading))) := by
  unfold genericSchema
  refine Answers.ite (fun _ => ?_) fun _ => Answers.ite (fun _ => ?_) fun _ => ?_
  · simp only [List.mapM_map]
    exact (Answers.mapM h).bind fun _ _ => Answers.pure _
  · rcases args with _ | ⟨a, _ | ⟨b, _ | ⟨d, args⟩⟩⟩
    · exact Answers.pure _
    · exact Answers.pure _
    · have hb : b ∈ [a, b] := List.mem_cons_of_mem _ (List.mem_singleton_self b)
      exact (h b hb).bind fun _ _ => Answers.pure _
    · exact Answers.pure _
  · cases transparentOrigins.contains origin with
    | false => exact Answers.pure _
    | true =>
      rcases args with _ | ⟨a, _ | ⟨b, args⟩⟩
      · exact Answers.pure _
      · exact h a (List.mem_singleton_self a)
      · exact Answers.pure _

theorem answers_propertySchema {t : Descriptor} (ht : Current loads t) :
    Answers loads (propertySchema view t) (fun c => propertySchema c.reading t) := by
  induction ht with
  | declared h =>
    simp only [propertySchema]
    exact (answers_kind (Current.declared h).known).bind fun _ _ => Answers.pure _
  | leaf h =>
    simp only [leafOfName, propertySchema]
    exact (answers_kind (Current.leaf h).known).bind fun _ _ => Answers.pure _
  | array _ _ _ ih =>
    simp only [propertySchema]
    exact ih.bind fun _ _ => Answers.pure _
  | generic _ _ _ ih =>
    simp only [propertySchema, argumentSchemas_eq_map]
    exact answers_genericSchema _ ih

theorem answers_namedSchema {q : Property} (hq : Current loads q.type) :
    Answers loads (namedSchema view q) (fun c => namedSchema c.reading q) :=
  (answers_propertySchema hq).bind fun _ _ => Answers.pure _

theorem answers_classBody (policy : Option Policy) {t : Descriptor} (ht : Known loads t) :
    Answers loads (classBody view policy t) (fun c => classBody c.reading policy t) :=
  (answers_allProperties ht).bind fun _ hd =>
    (Answers.mapM fun _ hq => answers_namedSchema
      (current_of_mem_allProperties hd.resolved (List.mem_filter.mp hq).1)).bind fun _ _ => Answers.pure _

theorem answers_modelBody (policy : Option Policy) (facts : ClassFacts) {t : Descriptor}
    (ht : Known loads t) :
    Answers loads (modelBody view policy t facts) (fun c => modelBody c.reading policy t facts) :=
  (answers_kind ht).bind fun _ _ => Answers.ite (fun _ => Answers.pure _) fun _ =>
    answers_classBody policy ht

theorem answers_generateSchema (policy : Option Policy) {t : Descriptor} (ht : Known loads t) :
    Answers loads (generateSchema view policy t) (fun c => generateSchema c.reading policy t) := by
  unfold generateSchema
  cases t.facts? with
  | none => exact Answers.pure _
  | some facts =>
    exact (answers_modelBody policy facts ht).bind fun _ _ => Answers.pure _

theorem answers_addSchema (policy : Option Policy) (done : List (String × ModelSchema)) {t : Descriptor}
    (ht : Known loads t) :
    Answers loads (addSchema view policy done t) (fun c => addSchema c.reading policy done t) :=
  (answers_generateSchema policy ht).bind fun _ _ => Answers.pure _

theorem answers_generateSchemas (policy : Option Policy) {models : List Descriptor}
    (h : ∀ t ∈ models, Known loads t) :
    Answers loads (generateSchemas view policy models) (fun c => generateSchemas c.reading policy models) :=
  (Answers.foldlM (fun done t ht => answers_addSchema policy done (h t ht)) []).bind fun _ _ =>
    Answers.pure _

end Catalogue
end ModelReach
