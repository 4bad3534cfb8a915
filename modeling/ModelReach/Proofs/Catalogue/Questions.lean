import ModelReach.Proofs.Catalogue.Answers
import ModelReach.Types.Referenced

/-! Questions about types that rules put together from those of the catalogue: inherited properties, accepted
types, and the models that a type or a method refers to. Each answers as the readings of later catalogues do. -/
namespace ModelReach
set_option autoImplicit false

/-- What holds at the start of a fold and is kept by each of its steps holds at its end. -/
theorem foldlM_keeps {α β : Type} {P : β → Prop} {f : β → α → Id β} {l : List α}
    (hf : ∀ b, P b → ∀ a ∈ l, P (f b a).run) {b : β} (hb : P b) : P (l.foldlM f b).run := by
  induction l generalizing b with
  | nil => exact hb
  | cons a l ih =>
    rw [List.foldlM_cons]
    exact ih (fun b' hb' a' ha' => hf b' hb' a' (List.mem_cons_of_mem _ ha'))
      (hf b hb a (List.mem_cons_self ..))

/-! ## Inherited properties -/

theorem mem_mergeProperty {merged : List Property} {p q : Property} (h : q ∈ mergeProperty merged p) :
    q ∈ merged ∨ q = p := by
  unfold mergeProperty at h
  split at h
  · obtain ⟨r, hr, rfl⟩ := List.mem_map.mp h
    by_cases hn : (r.name == p.name) = true
    · right; rw [if_pos hn]
    · left; rw [if_neg hn]; exact hr
  · rcases List.mem_append.mp h with h | h
    · exact Or.inl h
    · exact Or.inr (List.mem_singleton.mp h)

theorem mem_mergeProperties {merged more : List Property} {q : Property}
    (h : q ∈ mergeProperties merged more) : q ∈ merged ∨ q ∈ more := by
  induction more generalizing merged with
  | nil => exact Or.inl h
  | cons p more ih =>
    rcases ih h with h | h
    · rcases mem_mergeProperty h with h | rfl
      · exact Or.inl h
      · exact Or.inr (List.mem_cons_self ..)
    · exact Or.inr (List.mem_cons_of_mem _ h)

/-- All that a class inherits is declared by some class. -/
theorem mem_inherited (v : View Id) (rounds : Nat) (seen : List String) (t : Descriptor) :
    ∀ q ∈ (v.inherited rounds seen t).run.1, ∃ u, q ∈ (v.properties u).run := by
  induction rounds generalizing seen t with
  | zero => exact fun q hq => absurd hq List.not_mem_nil
  | succ rounds ih =>
    intro q hq
    rcases mem_mergeProperties hq with hq | hq
    · refine foldlM_keeps
        (P := fun acc : List Property × List String => ∀ q ∈ acc.1, ∃ u, q ∈ (v.properties u).run)
        (fun acc hacc base _ => ?_) (fun q hq => absurd hq List.not_mem_nil) q hq
      dsimp only
      split
      · intro q hq
        rcases mem_mergeProperties hq with hq | hq
        · exact hacc q hq
        · exact ih _ _ q hq
      · exact hacc
    · exact ⟨t, hq⟩

theorem mem_allProperties {v : View Id} {t : Descriptor} {q : Property}
    (h : q ∈ (v.allProperties t).run) : ∃ u, q ∈ (v.properties u).run := by
  unfold View.allProperties at h
  split at h
  · exact mem_inherited v (v.classBound.run + 1) [] t q h
  · exact ⟨t, h⟩

namespace Catalogue

variable {loads : List ModuleFacts}

/-! ## Types that members have -/

theorem current_of_mem_properties {c : Catalogue} (h : Resolved loads c.resolved) {t : Descriptor}
    {q : Property} (hq : q ∈ (c.reading.properties t).run) : Current loads q.type := by
  cases t with
  | declared n facts =>
    obtain ⟨p, _, rfl⟩ := List.mem_map.mp hq
    exact h.current_meaning p.type
  | leaf _ => cases hq
  | array _ _ _ => cases hq
  | generic _ _ _ => cases hq

theorem current_of_mem_allProperties {c : Catalogue} (h : Resolved loads c.resolved) {t : Descriptor}
    {q : Property} (hq : q ∈ (c.reading.allProperties t).run) : Current loads q.type := by
  obtain ⟨u, hu⟩ := mem_allProperties hq
  exact current_of_mem_properties h hu

/-- All types in a method are current. -/
structure CurrentMethod (loads : List ModuleFacts) (method : Method) : Prop where
  returns : ∀ t ∈ method.returns, Current loads t
  parameters : ∀ q ∈ method.parameters, ∀ t ∈ q.type, Current loads t

theorem current_of_mem_map {c : Catalogue} (h : Resolved loads c.resolved) {r : Option TypeRef}
    {t : Descriptor} (ht : t ∈ r.map (meaning c.resolved)) : Current loads t := by
  obtain ⟨x, _, rfl⟩ := Option.map_eq_some_iff.mp ht
  exact h.current_meaning x

theorem current_of_mem_methods {c : Catalogue} (h : Resolved loads c.resolved) {t : Descriptor}
    {method : Method} (hm : method ∈ (c.reading.methods t).run) : CurrentMethod loads method := by
  cases t with
  | declared n facts =>
    obtain ⟨f, _, rfl⟩ := List.mem_map.mp hm
    refine ⟨fun t ht => current_of_mem_map h ht, fun q hq t ht => ?_⟩
    obtain ⟨x, _, rfl⟩ := List.mem_map.mp hq
    exact current_of_mem_map h ht
  | leaf _ => cases hm
  | array _ _ _ => cases hm
  | generic _ _ _ => cases hm

theorem Current.effectiveType {q : Property} (h : Current loads q.type) :
    Current loads q.effectiveType := by
  unfold Property.effectiveType
  split
  · rename_i key origin arg he
    rw [he] at h
    cases h with
    | generic _ _ ha => exact ha arg (List.mem_singleton_self arg)
  · exact h

/-! ## Bounds and modules -/

theorem answers_classBound : Answers loads view.classBound (fun c => c.reading.classBound) where
  run _ hc := ⟨Follows.refl hc, fun _ hd => hd.sound.size.trans hc.size.symm⟩
  resolves _ _ := Resolves.start
  unheeding _ _ _ _ := rfl

theorem Sound.classesOf {c : Catalogue} (h : Sound loads c) (module : String) :
    c.classesOf module = (loaded loads).classesOf module := by
  rw [Catalogue.classesOf, Catalogue.classesOf, h.byModule]

theorem answers_moduleTypes (module : String) :
    Answers loads (view.moduleTypes module) (fun c => c.reading.moduleTypes module) where
  run _ hc := ⟨Follows.refl hc, fun _ hd => (hd.sound.classesOf module).trans (hc.classesOf module).symm⟩
  resolves _ _ := Resolves.start
  unheeding _ _ _ _ := rfl

/-! ## All properties -/

theorem answers_inherited (rounds : Nat) (seen : List String) {t : Descriptor} (ht : Known loads t) :
    Answers loads (view.inherited rounds seen t) (fun c => c.reading.inherited rounds seen t) := by
  induction rounds generalizing seen t with
  | zero => exact Answers.pure _
  | succ rounds ih =>
    simp only [View.inherited]
    refine (answers_bases ht).bind fun d hd => ?_
    refine (Answers.foldlM (fun acc base hb => ?_) _).bind fun e _ =>
      (answers_properties ht).bind fun _ _ => Answers.pure _
    have hbase : Known loads base := (current_of_mem_bases hd.resolved (List.mem_reverse.mp hb)).known
    exact Answers.ite (fun _ => (ih _ hbase).bind fun _ _ => Answers.pure _) fun _ => Answers.pure _

theorem answers_allProperties {t : Descriptor} (ht : Known loads t) :
    Answers loads (view.allProperties t) (fun c => c.reading.allProperties t) := by
  simp only [View.allProperties]
  refine Answers.ite (fun _ => answers_classBound.bind fun d hd => ?_) fun _ => answers_properties ht
  exact (answers_inherited _ _ ht).bind fun _ _ => Answers.pure _

/-! ## Acceptance -/

theorem answers_isModel (p : Policy) {t : Descriptor} (ht : Known loads t) :
    Answers loads (p.isModel view t) (fun c => p.isModel c.reading t) :=
  (answers_kind ht).bind fun _ _ => Answers.pure _

theorem answers_accepts (p : Policy) {t : Descriptor} (ht : Known loads t) :
    Answers loads (p.accepts view t) (fun c => p.accepts c.reading t) :=
  (answers_isModel p ht).bind fun _ _ => Answers.pure _

/-! ## Models that types refer to -/

theorem answers_surfaceBases (p : Policy) {t : Descriptor} (ht : Known loads t) (found : TypeSet) :
    Answers loads (surfaceBases p view t found) (fun c => surfaceBases p c.reading t found) := by
  refine (answers_bases ht).bind fun d hd => Answers.foldlM (fun found base hb => ?_) _
  have hbase : Known loads base := (current_of_mem_bases hd.resolved hb).known
  exact (answers_accepts p hbase).bind fun _ _ =>
    Answers.ite (fun _ => Answers.pure _) fun _ => Answers.pure _

theorem answers_followsArgument (p : Policy) {t : Descriptor} (ht : Known loads t) :
    Answers loads (followsArgument p view t) (fun c => followsArgument p c.reading t) :=
  (answers_isModel p ht).bind fun _ _ => Answers.ite (fun _ => Answers.pure _) fun _ =>
    (answers_kind ht).bind fun _ _ => Answers.pure _

mutual

theorem answers_referenced (p : Policy) : ∀ (t : Descriptor), Current loads t →
    Answers loads (referenced p view t) (fun c => referenced p c.reading t)
  | .array key element unique, ht => by
    simp only [referenced]
    cases ht with
    | array _ _ he =>
      exact Answers.ite (fun _ => Answers.pure _) fun _ => answers_referenced p element he
  | .generic key origin args, ht => by
    simp only [referenced]
    cases ht with
    | generic _ _ ha =>
      exact Answers.ite (fun _ => Answers.pure _) fun _ => answers_referencedArgs p args ha _
  | .declared n facts, ht => by
    simp only [referenced]
    exact Answers.ite (fun _ => Answers.pure _) fun _ =>
      (answers_isModel p ht.known).bind fun _ _ => answers_surfaceBases p ht.known _
  | .leaf form, ht => by
    simp only [referenced]
    exact Answers.ite (fun _ => Answers.pure _) fun _ =>
      (answers_isModel p ht.known).bind fun _ _ => answers_surfaceBases p ht.known _

theorem answers_referencedArgs (p : Policy) : ∀ (args : List Descriptor),
    (∀ a ∈ args, Current loads a) → ∀ found, Answers loads (referencedArgs p view args found)
      (fun c => referencedArgs p c.reading args found)
  | [], _, found => Answers.pure found
  | arg :: rest, ha, found => by
    have harg : Current loads arg := ha arg (List.mem_cons_self ..)
    have hrest : ∀ a ∈ rest, Current loads a := fun a h => ha a (List.mem_cons_of_mem _ h)
    simp only [referencedArgs]
    refine (answers_followsArgument p harg.known).bind fun _ _ => ?_
    exact Answers.ite
      (fun _ => (answers_referenced p arg harg).bind fun _ _ => answers_referencedArgs p rest hrest _)
      fun _ => answers_referencedArgs p rest hrest _

end

theorem answers_methodModels (p : Policy) {method : Method} (h : CurrentMethod loads method) :
    Answers loads (methodModels p view method) (fun c => methodModels p c.reading method) := by
  obtain ⟨name, returns, parameters⟩ := method
  have hparameters : ∀ found, Answers loads
      (parameters.foldlM (addParameterModels p view) found)
      (fun c => parameters.foldlM (addParameterModels p c.reading) found) := by
    refine Answers.foldlM fun found q hq => ?_
    have hp := h.parameters q hq
    obtain ⟨_, type, _⟩ := q
    cases type with
    | none => exact Answers.pure found
    | some t =>
      exact Answers.ite (fun _ => Answers.pure _) fun _ =>
        (answers_referenced p t (hp t rfl)).bind fun _ _ => Answers.pure _
  cases returns with
  | none => exact (Answers.pure _).bind fun _ _ => hparameters _
  | some t => exact (answers_referenced p t (h.returns t rfl)).bind fun _ _ => hparameters _

end Catalogue
end ModelReach
