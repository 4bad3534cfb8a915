import ModelReach.Proofs.Catalogue.Use
import ModelReach.Proofs.Reach.Leaves
import ModelReach.Reach.Builder

/-! Following the properties of one model: what it notes are the types that its properties lead to, and these
stay the same however much is asked of the catalogue later. -/
namespace ModelReach.Reach
set_option autoImplicit false

open Catalogue

/-! ## Accepted types -/

/-- A type that a policy accepts is a class or an enumeration, and neither ignored nor of an excluded name. -/
structure Acceptable (p : Policy) (kind : Kind) (t : Descriptor) : Prop where
  kind : kind = .ofClass ∨ kind = .enum
  kept : p.ignores t.tags = false
  noTask : t.qualifiedName ∉ taskTypes
  noPrefix : ∀ pre ∈ p.excludedPrefixes, ¬ pre.toList <+: t.qualifiedName.toList

theorem acceptable_of_accepts {p : Policy} {v : View Id} {t : Descriptor}
    (h : (p.accepts v t).run = true) : Acceptable p (v.kind t).run t := by
  obtain ⟨hm, hex⟩ := accepts_parts h
  have hkind : p.isModelOfKind (v.kind t).run t = true := hm
  rw [Policy.isModelOfKind, Bool.and_eq_true, Bool.and_eq_true, Bool.and_eq_true, Bool.or_eq_true,
    beq_iff_eq, beq_iff_eq, Bool.not_eq_true'] at hkind
  rw [Policy.isExcluded, Bool.or_eq_false_iff] at hex
  refine ⟨hkind.1.1.1, hex.1, fun hn => ?_, fun pre hpre hp => ?_⟩
  · rw [List.contains_iff_mem.mpr hn] at hex
    exact absurd hex.2 Bool.noConfusion
  · have hnone := hkind.2
    rw [Policy.hasExcludedPrefix, List.any_eq_false] at hnone
    exact hnone pre hpre (List.isPrefixOf_iff_prefix.mpr hp)

theorem isDeclared_of_kind {c : Catalogue} {t : Descriptor}
    (h : (c.reading.kind t).run = .ofClass ∨ (c.reading.kind t).run = .enum) : t.isDeclared = true := by
  cases t with
  | declared _ _ => rfl
  | leaf form =>
    have hleaf : (c.reading.kind (.leaf form)).run =
      if form.form = .primitive then Kind.primitive else Kind.other := rfl
    rw [hleaf] at h
    split at h <;> rcases h with h | h <;> cases h
  | array _ _ _ => rcases h with h | h <;> cases h
  | generic _ _ _ => rcases h with h | h <;> cases h

theorem isDeclared_of_accepts {p : Policy} {c : Catalogue} {t : Descriptor}
    (h : (p.accepts c.reading t).run = true) : t.isDeclared = true :=
  isDeclared_of_kind (acceptable_of_accepts h).kind

variable {loads : List ModuleFacts} {p : Policy} {o : SetOrder}

/-- Kinds do not depend on what has been asked. -/
theorem kind_reading {c d : Catalogue} (hc : Sound loads c) (hd : Sound loads d) (t : Descriptor) :
    (c.reading.kind t).run = (d.reading.kind t).run := by
  cases t with
  | declared n facts =>
    exact (run_classify hc.resolved hc.edges n facts).trans (run_classify hd.resolved hd.edges n facts).symm
  | leaf _ => rfl
  | array _ _ _ => rfl
  | generic _ _ _ => rfl

/-- Which types are accepted does not depend on what has been asked. -/
theorem accepts_reading {c d : Catalogue} (hc : Sound loads c) (hd : Sound loads d) (t : Descriptor) :
    (p.accepts c.reading t).run = (p.accepts d.reading t).run := by
  change (p.isModelOfKind (c.reading.kind t).run t && _) = (p.isModelOfKind (d.reading.kind t).run t && _)
  rw [kind_reading hc hd]

theorem kind_view {c : Catalogue} (hc : Sound loads c) {t : Descriptor} (ht : Known loads t) :
    (view.kind t c).1 = (c.reading.kind t).run := by
  have hanswers := answers_kind ht
  exact (hanswers.shown hc).symm.trans (kind_reading (hanswers.sound hc) hc t)

theorem accepts_view {c : Catalogue} (hc : Sound loads c) {t : Descriptor} (ht : Known loads t) :
    (p.accepts view t c).1 = (p.accepts c.reading t).run := by
  have hanswers := answers_accepts p ht
  exact (hanswers.shown hc).symm.trans (accepts_reading (hanswers.sound hc) hc t)

/-- A class that was read and that the policy accepts. -/
structure Accepted (loads : List ModuleFacts) (p : Policy) (t : Descriptor) : Prop where
  registered : Registered loads t
  accepts : ∀ c, Sound loads c → (p.accepts c.reading t).run = true

theorem accepted_of_known {c : Catalogue} (h : Sound loads c) {t : Descriptor} (ht : Known loads t)
    (ha : (p.accepts c.reading t).run = true) : Accepted loads p t where
  registered := by
    have hd := isDeclared_of_accepts ha
    cases t with
    | declared n facts => exact ht.registered
    | leaf _ => cases hd
    | array _ _ _ => cases hd
    | generic _ _ _ => cases hd
  accepts d hd := by rw [accepts_reading hd h, ha]

/-- An accepted class that stands under its key. -/
structure Standing (loads : List ModuleFacts) (p : Policy) (t : Descriptor) : Prop
    extends Accepted loads p t where
  stands : (loaded loads).get? t.key = some t

/-- What a type refers to are accepted classes as they now stand. -/
theorem standing_of_mem_referenced {c : Catalogue} (h : Sound loads c) {t x : Descriptor}
    (ht : Current loads t) (hx : x ∈ (referenced p c.reading t).run.members) : Standing loads p x := by
  have hcurrent := current_of_mem_referenced h.resolved p ht hx
  have haccepts := (nearLeaf_of_mem_referenced t hx).accepted
  exact ⟨accepted_of_known h hcurrent.known haccepts,
    hcurrent.get?_of_isDeclared (isDeclared_of_accepts haccepts)⟩

/-! ## Where properties lead -/

/-- A property of a type that is not ignored refers to the other type, as the catalogue answers. -/
def LeadsTo (p : Policy) (c : Catalogue) (t found : Descriptor) : Prop :=
  ∃ property ∈ (view.allProperties t c).1, p.ignores property.tags = false ∧
    found ∈ (referenced p view property.effectiveType c).1.members

/-- The same as a reading of the catalogue shows it. -/
def ShowsTo (p : Policy) (v : View Id) (t found : Descriptor) : Prop :=
  ∃ property ∈ (v.allProperties t).run, p.ignores property.tags = false ∧
    found ∈ (referenced p v property.effectiveType).run.members

theorem mem_propertyModels {v : View Id} {q : Property} {f : Descriptor} :
    f ∈ (propertyModels p v o q).run ↔
      p.ignores q.tags = false ∧ f ∈ (referenced p v q.effectiveType).run.members := by
  unfold propertyModels
  split
  · rename_i hi
    rw [hi]
    exact ⟨fun h => absurd h List.not_mem_nil, fun h => absurd h.1 Bool.noConfusion⟩
  · rename_i hi
    rw [eq_false_of_ne_true hi]
    exact ⟨fun h => ⟨rfl, TypeSet.mem_visit.mp h⟩, fun h => TypeSet.mem_visit.mpr h.2⟩

/-- What the properties of a model lead to, in the order in which it is noted. -/
def foundBy (p : Policy) (v : View Id) (o : SetOrder) (model : Descriptor) : List Descriptor :=
  (v.allProperties model).run.flatMap fun q => (propertyModels p v o q).run

theorem mem_foundBy {v : View Id} {model f : Descriptor} :
    f ∈ foundBy p v o model ↔ ShowsTo p v model f := by
  rw [foundBy, List.mem_flatMap]
  exact exists_congr fun q => and_congr_right fun _ => mem_propertyModels

theorem follow_run (v : View Id) (w : Worklist) (model : Descriptor) :
    (Worklist.follow p v o w model).run = (foundBy p v o model).foldl Worklist.note w := by
  have hfold : ∀ (l : List Property) (w : Worklist), (l.foldlM (Worklist.followProperty p v o) w).run =
      (l.flatMap fun q => (propertyModels p v o q).run).foldl Worklist.note w := by
    intro l
    induction l with
    | nil => exact fun w => rfl
    | cons q l ih =>
      intro w
      rw [List.flatMap_cons, List.foldl_append, ← ih, List.foldlM_cons]
      rfl
  exact hfold _ w

/-! ## Answers -/

theorem answers_propertyModels (p : Policy) (o : SetOrder) {q : Property} (hq : Current loads q.type) :
    Answers loads (propertyModels p view o q) (fun c => propertyModels p c.reading o q) :=
  Answers.ite (fun _ => Answers.pure _) fun _ =>
    (answers_referenced p _ hq.effectiveType).bind fun _ _ => Answers.pure _

theorem answers_followProperty (p : Policy) (o : SetOrder) (w : Worklist) {q : Property}
    (hq : Current loads q.type) :
    Answers loads (Worklist.followProperty p view o w q)
      (fun c => Worklist.followProperty p c.reading o w q) :=
  (answers_propertyModels p o hq).bind fun _ _ => Answers.pure _

theorem answers_followProperties (p : Policy) (o : SetOrder) (w : Worklist) {l : List Property}
    (hl : ∀ q ∈ l, Current loads q.type) :
    Answers loads (l.foldlM (Worklist.followProperty p view o) w)
      (fun c => l.foldlM (Worklist.followProperty p c.reading o) w) :=
  Answers.foldlM (fun w q hq => answers_followProperty p o w (hl q hq)) w

theorem answers_follow (p : Policy) (o : SetOrder) (w : Worklist) {model : Descriptor}
    (hm : Known loads model) :
    Answers loads (Worklist.follow p view o w model) (fun c => Worklist.follow p c.reading o w model) :=
  (answers_allProperties hm).bind fun _ hd =>
    answers_followProperties p o w fun _ hq => current_of_mem_allProperties hd.resolved hq

/-! ## Once a model has been followed -/

section Followed
variable {d : Catalogue} {w : Worklist} {model : Descriptor}

theorem sound_of_asked {α : Type} {x : StateM Catalogue α} (h : Asked loads x d) : Sound loads d := by
  obtain ⟨_, _, hd⟩ := h
  exact hd.sound

theorem asked_allProperties (hm : Known loads model) (h : Asked loads (Worklist.follow p view o w model) d) :
    Asked loads (view.allProperties model) d :=
  h.first (answers_allProperties hm) fun _ he =>
    ⟨_, answers_followProperties p o w fun _ hq => current_of_mem_allProperties he.resolved hq⟩

theorem asked_propertyModels (hm : Known loads model)
    (h : Asked loads (Worklist.follow p view o w model) d) :
    ∀ q ∈ (d.reading.allProperties model).run, Asked loads (propertyModels p view o q) d := by
  have hsound := sound_of_asked h
  have hfold := h.second (answers_allProperties hm) fun e he =>
    ⟨_, answers_followProperties p o w fun q hq => current_of_mem_allProperties he.resolved hq⟩
  intro q hq
  obtain ⟨w', hw'⟩ := hfold.step (fun w q hq =>
    answers_followProperty p o w (current_of_mem_allProperties hsound.resolved hq)) q hq
  exact hw'.first (answers_propertyModels p o (current_of_mem_allProperties hsound.resolved hq))
    fun _ _ => ⟨_, Answers.pure _⟩

/-- The catalogue answers where the model leads to as its reading does. -/
theorem leadsTo_iff (hm : Known loads model) (h : Asked loads (Worklist.follow p view o w model) d)
    (f : Descriptor) : LeadsTo p d model f ↔ ShowsTo p d.reading model f := by
  have hsound := sound_of_asked h
  have hreferenced : ∀ q ∈ (d.reading.allProperties model).run, p.ignores q.tags = false →
      (referenced p view q.effectiveType d).1 = (referenced p d.reading q.effectiveType).run := by
    intro q hq hi
    have hcurrent : Current loads q.effectiveType :=
      (current_of_mem_allProperties hsound.resolved hq).effectiveType
    have hmodels := asked_propertyModels hm h q hq
    rw [propertyModels, if_neg (by rw [hi]; exact Bool.false_ne_true)] at hmodels
    exact (hmodels.first (answers_referenced p _ hcurrent) fun _ _ => ⟨_, Answers.pure _⟩).answer
      (answers_referenced p _ hcurrent)
  rw [LeadsTo, (asked_allProperties hm h).answer (answers_allProperties hm), ShowsTo]
  refine exists_congr fun q => and_congr_right fun hq => and_congr_right fun hi => ?_
  rw [hreferenced q hq hi]

theorem foundBy_stays (hm : Known loads model) (h : Asked loads (Worklist.follow p view o w model) d)
    {e : Catalogue} (he : Follows loads d e) :
    foundBy p e.reading o model = foundBy p d.reading o model := by
  have hsound := sound_of_asked h
  rw [foundBy, foundBy, (asked_allProperties hm h).reading_stays (answers_allProperties hm) he]
  apply List.flatMap_congr
  intro q hq
  exact (asked_propertyModels hm h q hq).reading_stays
    (answers_propertyModels p o (current_of_mem_allProperties hsound.resolved hq)) he

end Followed

/-! ## One model -/

/-- What following a model does: it notes types that stand in the catalogue, and they are those that the
model leads to, now and later. -/
structure Followed (loads : List ModuleFacts) (p : Policy) (model : Descriptor) (before : Catalogue)
    (w : Worklist) (after : Catalogue) (w' : Worklist) (found : List Descriptor) : Prop where
  follows : Follows loads before after
  noted : w' = found.foldl Worklist.note w
  standing : ∀ f ∈ found, Standing loads p f
  shows : ∀ d, Follows loads after d → ∀ f, f ∈ found ↔ ShowsTo p d.reading model f
  leads : ∀ d, Follows loads after d → ∀ f, LeadsTo p d model f ↔ ShowsTo p d.reading model f

theorem followed {c : Catalogue} (hc : Sound loads c) {model : Descriptor} (hm : Known loads model)
    (w : Worklist) :
    ∃ found, Followed loads p model c w (Worklist.follow p view o w model c).2
      (Worklist.follow p view o w model c).1 found := by
  have hanswers := answers_follow p o w hm
  obtain ⟨hfollows, hlater⟩ := hanswers.run c hc
  have hasked := hanswers.asked hc
  generalize hafter : (Worklist.follow p view o w model c).2 = after at hfollows hlater hasked
  refine ⟨foundBy p after.reading o model, hfollows, ?_, ?_, fun d hd f => ?_,
    fun d hd => leadsTo_iff hm (hasked.later hd)⟩
  · rw [← hlater after (Follows.refl hfollows.sound), follow_run]
  · intro f hf
    obtain ⟨q, hq, hf⟩ := List.mem_flatMap.mp hf
    have hcurrent : Current loads q.type := current_of_mem_allProperties hfollows.sound.resolved hq
    exact standing_of_mem_referenced hfollows.sound hcurrent.effectiveType (mem_propertyModels.mp hf).2
  · rw [← foundBy_stays hm hasked hd, mem_foundBy]

end ModelReach.Reach
