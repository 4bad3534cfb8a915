import ModelReach.Proofs.Masking.Twins
import ModelReach.Proofs.Schema.Describing

/-! Two views whose answers about twins are twins, apart from what a policy ignores. All that the rules put together
from these answers corresponds too: nothing that they find or write shows an ignored type. -/
namespace ModelReach.Catalogue
set_option autoImplicit false

variable {p : Policy} {loads loads' : List ModuleFacts}

/-! ## Members -/

/-- Properties that correspond; of ignored ones the types do not matter. -/
structure TwinProperty (p : Policy) (loads loads' : List ModuleFacts) (q q' : Property) : Prop where
  name : q.name = q'.name
  hasDefault : q.hasDefault = q'.hasDefault
  tags : q.tags = q'.tags
  type : p.ignores q.tags = false → Twin p loads loads' q.type q'.type

structure TwinParameter (p : Policy) (loads loads' : List ModuleFacts) (q q' : MethodParameter) : Prop where
  tags : q.tags = q'.tags
  type : p.ignores q.tags = false → Option.Rel (Twin p loads loads') q.type q'.type

structure TwinMethod (p : Policy) (loads loads' : List ModuleFacts) (m m' : Method) : Prop where
  returns : Option.Rel (Twin p loads loads') m.returns m'.returns
  parameters : List.Forall₂ (TwinParameter p loads loads') m.parameters m'.parameters

/-! ## Views -/

structure TwinLineages (p : Policy) (loads loads' : List ModuleFacts) (v v' : Lineage Id) : Prop where
  bases : ∀ {t t'}, Twin p loads loads' t t' → List.Forall₂ (Twin p loads loads') (v.bases t).run (v'.bases t').run
  edgeBound : v.edgeBound.run = v'.edgeBound.run

/-- Views that answer alike about twins, apart from what the policy ignores. -/
structure TwinViews (p : Policy) (loads loads' : List ModuleFacts) (v v' : View Id) : Prop
    extends TwinLineages p loads loads' v.toLineage v'.toLineage where
  properties : ∀ {t t'}, Twin p loads loads' t t' →
    List.Forall₂ (TwinProperty p loads loads') (v.properties t).run (v'.properties t').run
  methods : ∀ {t t'}, Twin p loads loads' t t' →
    List.Forall₂ (TwinMethod p loads loads') (v.methods t).run (v'.methods t').run
  kind : ∀ {t t'}, Twin p loads loads' t t' → (v.kind t).run = (v'.kind t').run
  moduleTypes : ∀ module, List.Forall₂ (Twin p loads loads') (v.moduleTypes module).run (v'.moduleTypes module).run
  classBound : v.classBound.run = v'.classBound.run

/-- Folds over lists that correspond, with steps that do, end in what corresponds. -/
theorem foldlM_rel {α α' β β' : Type} {R : α → α' → Prop} {S : β → β' → Prop} {f : β → α → Id β}
    {f' : β' → α' → Id β'} (hf : ∀ {b b' a a'}, S b b' → R a a' → S (f b a).run (f' b' a').run) {l : List α}
    {l' : List α'} (hl : List.Forall₂ R l l') {b : β} {b' : β'} (hb : S b b') :
    S (l.foldlM f b).run (l'.foldlM f' b').run := by
  induction hl generalizing b b' with
  | nil => exact hb
  | cons ha _ ih =>
    rw [List.foldlM_cons, List.foldlM_cons]
    exact ih (hf hb ha)

/-! ## Ancestors -/

section Lineages
variable {v v' : Lineage Id} (h : TwinLineages p loads loads' v v')
include h

theorem TwinLineages.visitBases (rounds : Nat) (seen : List String) {done done' queue queue' : List Descriptor}
    (hd : List.Forall₂ (Twin p loads loads') done done') (hq : List.Forall₂ (Twin p loads loads') queue queue') :
    List.Forall₂ (Twin p loads loads') (v.visitBases rounds seen done queue).run
      (v'.visitBases rounds seen done' queue').run := by
  induction rounds generalizing seen done done' queue queue' with
  | zero => exact List.rel_reverse hd
  | succ rounds ih =>
    cases hq with
    | nil => exact List.rel_reverse hd
    | @cons base base' _ _ hb hq =>
      rw [Lineage.visitBases, Lineage.visitBases, ← hb.key]
      split
      · exact ih seen hd hq
      · exact ih _ (List.Forall₂.cons hb hd) (List.rel_append hq (h.bases hb))

theorem TwinLineages.ancestors {t t' : Descriptor} (ht : Twin p loads loads' t t') :
    List.Forall₂ (Twin p loads loads') (v.ancestors t).run (v'.ancestors t').run := by
  have hbases := h.bases ht
  have hvisit := h.visitBases ((v'.bases t').run.length + v'.edgeBound.run + 1) [t'.key] List.Forall₂.nil hbases
  change List.Forall₂ _ (v.visitBases ((v.bases t).run.length + v.edgeBound.run + 1) [t.key] [] (v.bases t).run).run _
  rw [hbases.length_eq, h.edgeBound, ht.key]
  exact hvisit

theorem TwinLineages.isStrictSubtype {t t' base base' : Descriptor} (ht : Twin p loads loads' t t')
    (hb : Twin p loads loads' base base') : (v.isStrictSubtype t base).run = (v'.isStrictSubtype t' base').run := by
  unfold Lineage.isStrictSubtype
  rw [ht.key, hb.key]
  split
  · rfl
  · exact any_congr (fun a a' haa => by rw [haa.key]) (h.ancestors ht)

theorem TwinLineages.classify {t t' : Descriptor} (ht : Twin p loads loads' t t') :
    (v.classify t).run = (v'.classify t').run := by
  have hnames : ∀ (names : List String) (a a' : Descriptor), Twin p loads loads' a a' →
      names.contains a.qualifiedName = names.contains a'.qualifiedName := fun names a a' haa => by
    rw [haa.qualifiedName]
  have hinterface := any_congr (hnames interfaceBases) (h.bases ht)
  have henum := any_congr (hnames enumBases) (h.ancestors ht)
  change Id.run (if (v.bases t).run.any (fun b => interfaceBases.contains b.qualifiedName) then
    pure Kind.interface else
      pure (if (v.ancestors t).run.any fun a => enumBases.contains a.qualifiedName then .enum else .ofClass)) = _
  rw [hinterface, henum]
  rfl

end Lineages

/-! ## Inherited properties -/

/-- A property stands in the place of one that it overrides, whether one of them is ignored or not. -/
theorem twin_mergeProperty {merged merged' : List Property} {q q' : Property}
    (h : List.Forall₂ (TwinProperty p loads loads') merged merged') (hq : TwinProperty p loads loads' q q') :
    List.Forall₂ (TwinProperty p loads loads') (mergeProperty merged q) (mergeProperty merged' q') := by
  have hname : ∀ r r', TwinProperty p loads loads' r r' → (r.name == q.name) = (r'.name == q'.name) :=
    fun r r' hr => by rw [hr.name, hq.name]
  unfold mergeProperty
  rw [any_congr hname h]
  split
  · refine List.rel_map (fun r r' hr => ?_) h
    rw [hname r r' hr]
    split
    · exact hq
    · exact hr
  · exact List.rel_append h (List.Forall₂.cons hq List.Forall₂.nil)

theorem twin_mergeProperties {merged merged' more more' : List Property}
    (h : List.Forall₂ (TwinProperty p loads loads') merged merged')
    (hmore : List.Forall₂ (TwinProperty p loads loads') more more') :
    List.Forall₂ (TwinProperty p loads loads') (mergeProperties merged more) (mergeProperties merged' more') := by
  unfold mergeProperties
  refine List.rel_foldl (fun _ _ hm _ _ hq => ?_) h hmore
  exact twin_mergeProperty hm hq

/-- Properties that correspond, and the same classes opened. -/
structure TwinInherited (p : Policy) (loads loads' : List ModuleFacts) (acc acc' : List Property × List String) :
    Prop where
  properties : List.Forall₂ (TwinProperty p loads loads') acc.1 acc'.1
  seen : acc.2 = acc'.2

theorem TwinInherited.own {acc acc' : List Property × List String} (h : TwinInherited p loads loads' acc acc')
    {own own' : List Property} (hown : List.Forall₂ (TwinProperty p loads loads') own own') :
    TwinInherited p loads loads' (mergeProperties acc.1 own, acc.2) (mergeProperties acc'.1 own', acc'.2) :=
  ⟨twin_mergeProperties h.properties hown, h.seen⟩

section Views
variable {v v' : View Id} (h : TwinViews p loads loads' v v')
include h

theorem TwinViews.inherited (rounds : Nat) (seen : List String) {t t' : Descriptor} (ht : Twin p loads loads' t t') :
    TwinInherited p loads loads' (v.inherited rounds seen t).run (v'.inherited rounds seen t').run := by
  induction rounds generalizing seen t t' with
  | zero => exact ⟨List.Forall₂.nil, rfl⟩
  | succ rounds ih =>
    refine TwinInherited.own (foldlM_rel (S := TwinInherited p loads loads')
      (fun {acc acc' base base'} hacc hbase => ?_) (List.rel_reverse (h.bases ht))
      ⟨List.Forall₂.nil, by rw [ht.key]⟩) (h.properties ht)
    dsimp only
    rw [hacc.seen, hbase.isDeclared, hbase.key]
    split
    · have hbases := ih acc'.2 hbase
      exact ⟨twin_mergeProperties hacc.properties hbases.properties, hbases.seen⟩
    · exact ⟨hacc.properties, rfl⟩

theorem TwinViews.allProperties {t t' : Descriptor} (ht : Twin p loads loads' t t') :
    List.Forall₂ (TwinProperty p loads loads') (v.allProperties t).run (v'.allProperties t').run := by
  unfold View.allProperties
  rw [ht.isDeclared]
  split
  · have hinherited := (h.inherited (v'.classBound.run + 1) [] ht).properties
    change List.Forall₂ _ (v.inherited (v.classBound.run + 1) [] t).run.1 _
    rw [h.classBound]
    exact hinherited
  · exact h.properties ht

/-! ## Types referred to -/

theorem TwinViews.isModel {t t' : Descriptor} (ht : Twin p loads loads' t t') :
    (p.isModel v t).run = (p.isModel v' t').run := by
  change p.isModelOfKind (v.kind t).run t = p.isModelOfKind (v'.kind t').run t'
  rw [h.kind ht, ht.isModelOfKind _ _]

theorem TwinViews.accepts {t t' : Descriptor} (ht : Twin p loads loads' t t') :
    (p.accepts v t).run = (p.accepts v' t').run := by
  change ((p.isModel v t).run && !p.isExcluded t) = ((p.isModel v' t').run && !p.isExcluded t')
  rw [h.isModel ht, ht.isExcluded _]

end Views

/-- Sets whose members correspond. -/
def TwinSets (p : Policy) (loads loads' : List ModuleFacts) (s s' : TypeSet) : Prop :=
  List.Forall₂ (Twin p loads loads') s.members s'.members

theorem twinSets_empty : TwinSets p loads loads' .empty .empty := List.Forall₂.nil

section Sets
variable {s s' : TypeSet} (h : TwinSets p loads loads' s s')
include h

theorem TwinSets.keys : s.keys = s'.keys := map_congr (fun _ _ ht => ht.key) h

theorem TwinSets.insert {t t' : Descriptor} (ht : Twin p loads loads' t t') :
    TwinSets p loads loads' (s.insert t) (s'.insert t') := by
  have hcontains : s.contains t = s'.contains t' :=
    any_congr (fun a a' haa => by rw [haa.key, ht.key]) h
  unfold TypeSet.insert
  rw [hcontains]
  split
  · exact h
  · exact List.rel_append h (List.Forall₂.cons ht List.Forall₂.nil)

theorem TwinSets.union {more more' : TypeSet} (hmore : TwinSets p loads loads' more more') :
    TwinSets p loads loads' (s.union more) (s'.union more') := by
  unfold TypeSet.union TypeSet.insertAll
  refine List.rel_foldl (P := TwinSets p loads loads') (fun _ _ hs _ _ ht => ?_) h hmore
  exact TwinSets.insert hs ht

end Sets

section Views
variable {v v' : View Id} (h : TwinViews p loads loads' v v')
include h

theorem TwinViews.surfaceBases {t t' : Descriptor} (ht : Twin p loads loads' t t') {s s' : TypeSet}
    (hs : TwinSets p loads loads' s s') :
    TwinSets p loads loads' (surfaceBases p v t s).run (surfaceBases p v' t' s').run := by
  refine foldlM_rel (S := TwinSets p loads loads') (fun {s s' a a'} hs haa => ?_) (h.bases ht) hs
  change TwinSets p loads loads' (Id.run (if (p.accepts v a).run = true then pure (s.insert a) else pure s))
    (Id.run (if (p.accepts v' a').run = true then pure (s'.insert a') else pure s'))
  rw [h.accepts haa]
  split
  · exact hs.insert haa
  · exact hs

theorem TwinViews.followsArgument {t t' : Descriptor} (ht : Twin p loads loads' t t') :
    (followsArgument p v t).run = (followsArgument p v' t').run := by
  change Id.run (if (p.isModel v t).run = true then pure true else pure (v.kind t).run.isWrapper) =
    Id.run (if (p.isModel v' t').run = true then pure true else pure (v'.kind t').run.isWrapper)
  rw [h.isModel ht, h.kind ht]

/-- What a type without parts refers to. -/
theorem TwinViews.referencedLeaf {t t' : Descriptor} (ht : Twin p loads loads' t t') : TwinSets p loads loads'
    (Id.run (if p.isExcluded t then pure .empty else do
      let isModel ← p.isModel v t
      ModelReach.surfaceBases p v t (if isModel then TypeSet.empty.insert t else .empty)))
    (Id.run (if p.isExcluded t' then pure .empty else do
      let isModel ← p.isModel v' t'
      ModelReach.surfaceBases p v' t' (if isModel then TypeSet.empty.insert t' else .empty))) := by
  rw [ht.isExcluded _]
  split
  · exact twinSets_empty
  · refine h.surfaceBases ht ?_
    rw [show p.isModel v t = p.isModel v' t' from h.isModel ht]
    split
    · exact twinSets_empty.insert ht
    · exact twinSets_empty

end Views

variable {v v' : View Id}

mutual

theorem TwinViews.referenced (h : TwinViews p loads loads' v v') : ∀ {t t' : Descriptor}, Twin p loads loads' t t' →
    TwinSets p loads loads' (referenced p v t).run (referenced p v' t').run
  | .array _ _ _, _, .array ht => by
    rw [ModelReach.referenced, ModelReach.referenced, (Twin.array ht).isExcluded _]
    split
    · exact twinSets_empty
    · exact h.referenced ht
  | .generic _ _ _, _, .generic hargs => by
    rw [ModelReach.referenced, ModelReach.referenced, (Twin.generic hargs).isExcluded _]
    split
    · exact twinSets_empty
    · exact h.referencedArgs hargs twinSets_empty
  | .declared _ _, _, .declared hf hf' hm => by
    simp only [ModelReach.referenced]
    exact h.referencedLeaf (.declared hf hf' hm)
  | .leaf _, _, .leaf form => by
    simp only [ModelReach.referenced]
    exact h.referencedLeaf (.leaf form)

theorem TwinViews.referencedArgs (h : TwinViews p loads loads' v v') : ∀ {args args' : List Descriptor},
    List.Forall₂ (Twin p loads loads') args args' → ∀ {s s' : TypeSet}, TwinSets p loads loads' s s' →
      TwinSets p loads loads' (referencedArgs p v args s).run (referencedArgs p v' args' s').run
  | [], _, .nil, _, _, hs => hs
  | arg :: rest, arg' :: rest', .cons harg hrest, s, s', hs => by
    rw [ModelReach.referencedArgs, ModelReach.referencedArgs]
    change TwinSets p loads loads'
      (Id.run (if (ModelReach.followsArgument p v arg).run = true then
        ModelReach.referencedArgs p v rest (s.union (ModelReach.referenced p v arg).run)
        else ModelReach.referencedArgs p v rest s))
      (Id.run (if (ModelReach.followsArgument p v' arg').run = true then
        ModelReach.referencedArgs p v' rest' (s'.union (ModelReach.referenced p v' arg').run)
        else ModelReach.referencedArgs p v' rest' s'))
    rw [h.followsArgument harg]
    split
    · exact h.referencedArgs hrest (hs.union (h.referenced harg))
    · exact h.referencedArgs hrest hs

end

section Methods
variable (h : TwinViews p loads loads' v v')
include h

/-- An ignored parameter adds nothing, whether it has a type or not. -/
theorem TwinViews.addParameterModels {s s' : TypeSet} (hs : TwinSets p loads loads' s s') {q q' : MethodParameter}
    (hq : TwinParameter p loads loads' q q') :
    TwinSets p loads loads' (addParameterModels p v s q).run (addParameterModels p v' s' q').run := by
  cases hi : p.ignores q.tags with
  | true =>
    have hi' : p.ignores q'.tags = true := by rw [← hq.tags, hi]
    have hnone : ∀ (u : View Id) (found : TypeSet) (r : MethodParameter), p.ignores r.tags = true →
        (ModelReach.addParameterModels p u found r).run = found := by
      intro u found r hr
      unfold ModelReach.addParameterModels
      cases r.type with
      | none => rfl
      | some t => exact congrArg Id.run (if_pos hr)
    rw [hnone v s q hi, hnone v' s' q' hi']
    exact hs
  | false =>
    have hi' : p.ignores q'.tags = false := by rw [← hq.tags, hi]
    obtain ⟨_, type, _⟩ := q
    obtain ⟨_, type', _⟩ := q'
    have htype : Option.Rel (Twin p loads loads') type type' := hq.type hi
    unfold ModelReach.addParameterModels
    rw [hi, hi']
    cases htype with
    | none => exact hs
    | some ht => exact hs.union (h.referenced ht)

theorem TwinViews.methodModels {m m' : Method} (hm : TwinMethod p loads loads' m m') :
    TwinSets p loads loads' (methodModels p v m).run (methodModels p v' m').run := by
  have hparameters : ∀ {s s' : TypeSet}, TwinSets p loads loads' s s' →
      TwinSets p loads loads' (m.parameters.foldlM (ModelReach.addParameterModels p v) s).run
        (m'.parameters.foldlM (ModelReach.addParameterModels p v') s').run := by
    intro s s' hs
    refine foldlM_rel (S := TwinSets p loads loads') (fun hs hq => ?_) hm.parameters hs
    exact h.addParameterModels hs hq
  obtain ⟨_, returns, parameters⟩ := m
  obtain ⟨_, returns', parameters'⟩ := m'
  have hreturns : Option.Rel (Twin p loads loads') returns returns' := hm.returns
  unfold ModelReach.methodModels
  cases hreturns with
  | none => exact hparameters twinSets_empty
  | some ht => exact hparameters (h.referenced ht)

end Methods

/-- Taking a generic type with a single argument off leaves twins. -/
theorem TwinProperty.effectiveType {q q' : Property} (h : TwinProperty p loads loads' q q')
    (hkept : p.ignores q.tags = false) : Twin p loads loads' q.effectiveType q'.effectiveType := by
  obtain ⟨_, type, _, _⟩ := q
  obtain ⟨_, type', _, _⟩ := q'
  have ht : Twin p loads loads' type type' := h.type hkept
  unfold Property.effectiveType
  cases ht with
  | declared hf hf' hm => exact .declared hf hf' hm
  | leaf form => exact .leaf form
  | array ht => exact .array ht
  | generic hargs =>
    cases hargs with
    | nil => exact .generic .nil
    | cons harg hrest =>
      cases hrest with
      | nil => exact harg
      | cons hnext hmore => exact .generic (.cons harg (.cons hnext hmore))

end ModelReach.Catalogue
