import ModelReach.Proofs.Catalogue.Mirror
import ModelReach.Proofs.Inheritance.Ways
import ModelReach.Proofs.Reach.Stricter

/-! One pass of expansion by derived types. A class that is listed under its module stands under its key, if no file
has two classes of one name; so the classes below the members of a set are those from which bases lead to them, and
what a second pass could add has been added by the first, since being below is transitive. -/
namespace ModelReach
set_option autoImplicit false

/-! ## Insertion of many types -/

namespace TypeSet

theorem insertAll_eq_self {s : TypeSet} {ds : List Descriptor} (h : ∀ d ∈ ds, d.key ∈ s.keys) : s.insertAll ds = s := by
  induction ds with
  | nil => rfl
  | cons d ds ih =>
    rw [show s.insertAll (d :: ds) = (s.insert d).insertAll ds from rfl,
      insert_of_mem (h d (List.mem_cons_self ..))]
    exact ih fun e he => h e (List.mem_cons_of_mem _ he)

/-- Of types that are known by their keys, those are inserted whose keys are not there. -/
theorem mem_insertAll_iff {s : TypeSet} {ds : List Descriptor}
    (hds : ∀ d ∈ ds, ∀ e ∈ ds, d.key = e.key → d = e) {x : Descriptor} :
    x ∈ (s.insertAll ds).members ↔ x ∈ s.members ∨ x.key ∉ s.keys ∧ x ∈ ds := by
  induction ds generalizing s with
  | nil => exact (or_iff_left fun h => List.not_mem_nil h.2).symm
  | cons d ds ih =>
    have hrest : ∀ a ∈ ds, ∀ b ∈ ds, a.key = b.key → a = b := fun a ha b hb =>
      hds a (List.mem_cons_of_mem _ ha) b (List.mem_cons_of_mem _ hb)
    rw [show s.insertAll (d :: ds) = (s.insert d).insertAll ds from rfl, ih hrest, List.mem_cons]
    by_cases hd : d.key ∈ s.keys
    · rw [insert_of_mem hd]
      refine or_congr_right (and_congr_right fun hx => (or_iff_right ?_).symm)
      rintro rfl
      exact hx hd
    · rw [mem_keys_insert, insert_of_notMem hd, List.mem_append, List.mem_singleton, or_assoc, not_or]
      refine or_congr_right ⟨?_, ?_⟩
      · rintro (rfl | ⟨⟨hx, _⟩, hin⟩)
        · exact ⟨hd, Or.inl rfl⟩
        · exact ⟨hx, Or.inr hin⟩
      · rintro ⟨hx, rfl | hin⟩
        · exact Or.inl rfl
        · by_cases hk : x.key = d.key
          · exact Or.inl (hds x (List.mem_cons_of_mem _ hin) d (List.mem_cons_self ..) hk)
          · exact Or.inr ⟨⟨hx, hk⟩, hin⟩

end TypeSet

namespace Reach

variable {p : Policy} {v : View Id}

/-- The accepted types below a model that its module lists. -/
def derivedFrom (p : Policy) (v : View Id) (model : Descriptor) : List Descriptor :=
  match model.module? with
  | none => []
  | some module => (v.moduleTypes module).run.filter fun candidate =>
    (v.isStrictSubtype candidate model).run && (p.accepts v candidate).run

theorem mem_derivedFrom {model candidate : Descriptor} : candidate ∈ derivedFrom p v model ↔
    ∃ module ∈ model.module?, candidate ∈ (v.moduleTypes module).run ∧
      (v.isStrictSubtype candidate model).run = true ∧ (p.accepts v candidate).run = true := by
  unfold derivedFrom
  cases model.module? with
  | none => exact iff_of_false List.not_mem_nil fun ⟨_, h, _⟩ => nomatch h
  | some module =>
    rw [List.mem_filter, Bool.and_eq_true]
    constructor
    · exact fun h => ⟨module, rfl, h⟩
    · rintro ⟨_, hm, h⟩
      cases hm
      exact h

theorem foldlM_addDerived (model : Descriptor) (candidates : List Descriptor) (s : TypeSet) :
    (candidates.foldlM (addDerived p v model) s).run = s.insertAll (candidates.filter fun candidate =>
      (v.isStrictSubtype candidate model).run && (p.accepts v candidate).run) := by
  induction candidates generalizing s with
  | nil => rfl
  | cons candidate candidates ih =>
    have hone : (addDerived p v model s candidate).run =
        if ((v.isStrictSubtype candidate model).run && (p.accepts v candidate).run) = true then s.insert candidate
        else s := by
      change Id.run (if (v.isStrictSubtype candidate model).run = true then
        if (p.accepts v candidate).run = true then pure (s.insert candidate) else pure s else pure s) = _
      cases (v.isStrictSubtype candidate model).run <;> cases (p.accepts v candidate).run <;> rfl
    rw [List.foldlM_cons, List.filter_cons]
    change (candidates.foldlM (addDerived p v model) (addDerived p v model s candidate).run).run = _
    rw [ih, hone]
    split <;> rfl

/-- The expansion inserts what derives from the members, one member after the other. -/
theorem expandDerived_eq (p : Policy) (v : View Id) (o : SetOrder) (s : TypeSet) :
    (expandDerived p v o s).run = s.insertAll ((s.visit o).flatMap (derivedFrom p v)) := by
  have hmodel : ∀ (s : TypeSet) (model : Descriptor), (addDerivedOf p v s model).run = s.insertAll (derivedFrom p v model) := by
    intro s model
    unfold addDerivedOf derivedFrom
    cases model.module? with
    | none => rfl
    | some module => exact foldlM_addDerived model (v.moduleTypes module).run s
  have hfold : ∀ (models : List Descriptor) (s : TypeSet),
      (models.foldlM (addDerivedOf p v) s).run = s.insertAll (models.flatMap (derivedFrom p v)) := by
    intro models
    induction models with
    | nil => exact fun s => rfl
    | cons model models ih =>
      intro s
      rw [List.foldlM_cons, List.flatMap_cons, TypeSet.insertAll, List.foldl_append]
      change (models.foldlM (addDerivedOf p v) (addDerivedOf p v s model).run).run = _
      rw [ih, hmodel]
      rfl
  exact hfold (s.visit o) s

end Reach

namespace Catalogue

variable {loads : List ModuleFacts}

/-! ## Classes listed under their modules -/

theorem nodup_keys_of_names {t : Files.FileTree} {file : Files.ModuleFile} {facts : ModuleFacts}
    (h : readFacts t file = .ok facts) (hnames : (facts.classes.map ClassFacts.name).Nodup) :
    (facts.classes.map ClassFacts.qualifiedName).Nodup := by
  have heq : facts.classes.map ClassFacts.qualifiedName =
      (facts.classes.map ClassFacts.name).map (facts.module ++ "." ++ ·) := by
    rw [List.map_map]
    apply List.map_congr_left
    intro c hc
    rw [ClassFacts.qualifiedName, module_of_class h hc]
    rfl
  rw [heq]
  exact hnames.map fun _ _ he => (String.append_right_inj _).mp he

/-- A class that is listed under a module is declared there, and stands under its key. -/
theorem stands_of_mem_classesOf (hfiles : Extracted loads)
    (hnames : ∀ facts ∈ loads, (facts.classes.map ClassFacts.name).Nodup) {module : String} {x : Descriptor}
    (hx : x ∈ (loaded loads).classesOf module) :
    x.module? = some module ∧ Dotted.parent x.key = module ∧ (loaded loads).get? x.key = some x := by
  induction loads using List.reverseRecOn with
  | nil => cases hx
  | append_singleton loads facts ih =>
    obtain ⟨t, file, hread⟩ := hfiles facts (List.mem_append_right _ (List.mem_singleton_self facts))
    have hmodule := module_of_readFacts hread
    rw [loaded_concat] at hx ⊢
    have hget : ((loaded loads).register facts).get? x.key =
        ((numbered (loaded loads).settled.length facts.classes).reverse.find? (·.key == x.key)).or
          ((loaded loads).get? x.key) := lookup_declare _ _ _
    by_cases hm : module = facts.module
    · subst hm
      rw [classesOf_register_self] at hx
      have hnodup : ((numbered (loaded loads).settled.length facts.classes).reverse.map Descriptor.key).Nodup := by
        rw [List.map_reverse, List.nodup_reverse, map_key_numbered]
        exact nodup_keys_of_names hread (hnames facts (List.mem_append_right _ (List.mem_singleton_self facts)))
      rw [hget, TypeSet.find?_key hnodup (List.mem_reverse.mpr hx), Option.some_or]
      obtain ⟨i, f, hf, rfl⟩ := mem_numbered.mp hx
      have hclass := List.mem_of_getElem? hf
      exact ⟨congrArg some (module_of_class hread hclass), (parent_qualifiedName hread hclass).trans hmodule.symm, rfl⟩
    · rw [classesOf_register_of_ne _ _ hm] at hx
      obtain ⟨hin, hparent, hstands⟩ := ih (fun g hg => hfiles g (List.mem_append_left _ hg))
        (fun g hg => hnames g (List.mem_append_left _ hg)) hx
      refine ⟨hin, hparent, ?_⟩
      have hnone : (numbered (loaded loads).settled.length facts.classes).reverse.find? (·.key == x.key) = none := by
        rw [List.find?_eq_none]
        intro y hy hk
        obtain ⟨i, f, hf, rfl⟩ := mem_numbered.mp (List.mem_reverse.mp hy)
        refine hm ?_
        rw [← hparent, ← beq_iff_eq.mp hk, hmodule]
        exact parent_qualifiedName hread (List.mem_of_getElem? hf)
      rw [hget, hnone, Option.none_or, hstands]

/-! ## Ways up by names -/

/-- The names that are climbed to from a name are those that can be reached from it, itself excepted. -/
theorem climbs_iff_transGen {next : String → List String} {origin k : String} :
    Climbs next origin (next origin) k ↔ k ≠ origin ∧ Relation.TransGen (fun m n => n ∈ next m) origin k := by
  constructor
  · intro h
    refine ⟨h.ne_origin, ?_⟩
    induction h with
    | start h _ => exact Relation.TransGen.single h
    | next _ h _ ih => exact ih.tail h
  · rintro ⟨hk, h⟩
    induction h with
    | single h => exact Climbs.start h hk
    | @tail m k _ h ih =>
      by_cases hm : m = origin
      · rw [hm] at h
        exact Climbs.start h hk
      · exact Climbs.next (ih hm) h hk

section Asked
variable {c e : Catalogue} {x m : Descriptor}

/-- A class that stands under its key is below another type just if the names of bases lead from it to that one. -/
theorem isStrictSubtype_reading (hc : Sound loads c) {n : Nat} {facts : ClassFacts}
    (hx : (loaded loads).get? facts.qualifiedName = some (.declared n facts)) :
    (c.reading.isStrictSubtype (.declared n facts) m).run = true ↔ m.key ≠ facts.qualifiedName ∧
      Relation.TransGen (fun k k' => k' ∈ nextNames loads k) facts.qualifiedName m.key := by
  have hnext : nextNames loads facts.qualifiedName = baseNames facts := by
    rw [nextNames_eq, hx]
    rfl
  have hkeys := map_key_ancestors hc.resolved hc.edges n facts
  have habove : m.key ∈ namesAbove loads facts ↔ m.key ≠ facts.qualifiedName ∧
      Relation.TransGen (fun k k' => k' ∈ nextNames loads k) facts.qualifiedName m.key := by
    rw [← climbs_iff_transGen, hnext]
    exact mem_visitNames (bounded_nextNames loads) m.key
  rw [← habove, ← hkeys, List.mem_map]
  change Id.run (if (facts.qualifiedName == m.key) = true then pure false else
    pure ((c.lineageReading.ancestors (.declared n facts)).run.any (·.key == m.key))) = true ↔ _
  split
  · rename_i hself
    refine iff_of_false Bool.false_ne_true fun h => ?_
    rw [← List.mem_map, hkeys, habove] at h
    exact h.1 (beq_iff_eq.mp hself).symm
  · simp only [Id.run_pure, List.any_eq_true, beq_iff_eq]

theorem view_bases (he : Sound loads e) (hx : Current loads x) :
    (view.bases x e).1.map Descriptor.key = nextNames loads x.key ∧ ∀ b ∈ (view.bases x e).1, Current loads b := by
  have hanswers : Answers loads (view.bases x) (fun c => c.lineageReading.bases x) := answers_bases hx.known
  have hsound := (hanswers.sound he).resolved
  rw [← hanswers.shown he]
  exact ⟨map_key_bases hsound hx, fun b hb => current_of_mem_bases hsound hb⟩

/-- The keys of the types that bases lead to are those that their names lead to. -/
theorem exists_transGen_bases (he : Sound loads e) (hx : Current loads x) {k : String} :
    (∃ y, Relation.TransGen (fun a b => b ∈ (view.bases a e).1) x y ∧ y.key = k) ↔
      Relation.TransGen (fun k k' => k' ∈ nextNames loads k) x.key k := by
  constructor
  · rintro ⟨y, hy, rfl⟩
    suffices h : Current loads y ∧ Relation.TransGen (fun k k' => k' ∈ nextNames loads k) x.key y.key from h.2
    have hstep : ∀ {a b}, Current loads a → b ∈ (view.bases a e).1 →
        Current loads b ∧ b.key ∈ nextNames loads a.key := by
      intro a b ha hb
      obtain ⟨hkeys, hcurrent⟩ := view_bases he ha
      exact ⟨hcurrent b hb, hkeys ▸ List.mem_map_of_mem hb⟩
    induction hy with
    | single hb =>
      obtain ⟨hcurrent, hkey⟩ := hstep hx hb
      exact ⟨hcurrent, Relation.TransGen.single hkey⟩
    | tail _ hb ih =>
      obtain ⟨hcurrent, hkey⟩ := hstep ih.1 hb
      exact ⟨hcurrent, ih.2.tail hkey⟩
  · intro h
    suffices h : ∃ y, (Relation.TransGen (fun a b => b ∈ (view.bases a e).1) x y ∧ y.key = k) ∧ Current loads y from
      h.imp fun _ h => h.1
    have hstep : ∀ {a k}, Current loads a → k ∈ nextNames loads a.key →
        ∃ b ∈ (view.bases a e).1, b.key = k ∧ Current loads b := by
      intro a k ha hk
      obtain ⟨hkeys, hcurrent⟩ := view_bases he ha
      rw [← hkeys] at hk
      obtain ⟨b, hb, hbk⟩ := List.mem_map.mp hk
      exact ⟨b, hb, hbk, hcurrent b hb⟩
    induction h with
    | single hk =>
      obtain ⟨b, hb, hbk, hcurrent⟩ := hstep hx hk
      exact ⟨b, ⟨Relation.TransGen.single hb, hbk⟩, hcurrent⟩
    | tail _ hk ih =>
      obtain ⟨y, ⟨hy, rfl⟩, hcurrent⟩ := ih
      obtain ⟨b, hb, hbk, hcurrent⟩ := hstep hcurrent hk
      exact ⟨b, ⟨hy.tail hb, hbk⟩, hcurrent⟩

/-- Whether a class that stands under its key is accepted and below another type is answered alike by what one catalogue
has resolved and by another catalogue itself. -/
theorem below_iff (hc : Sound loads c) (he : Sound loads e) {p : Policy} (hx : (loaded loads).get? x.key = some x) :
    (c.reading.isStrictSubtype x m).run = true ∧ (p.accepts c.reading x).run = true ↔
      x.key ≠ m.key ∧ (∃ y, Relation.TransGen (fun a b => b ∈ (view.bases a e).1) x y ∧ y.key = m.key) ∧
        (p.accepts view x e).1 = true := by
  obtain ⟨n, f, hf, rfl⟩ := registered_of_get? hx
  have hregistered : Registered loads (.declared n f) := ⟨n, f, hf, rfl⟩
  rw [isStrictSubtype_reading hc hx, exists_transGen_bases he (Current.declared hx), Reach.accepts_view he hregistered.known,
    Reach.accepts_reading he hc, and_assoc, ne_comm]
  rfl

/-- An accepted class below a type, among those that the module of the type lists: it is another one, and its bases
lead to the type. -/
structure DerivesFrom (p : Policy) (e : Catalogue) (m x : Descriptor) : Prop where
  listed : ∃ module ∈ m.module?, x ∈ (view.moduleTypes module e).1
  accepted : (p.accepts view x e).1 = true
  other : x.key ≠ m.key
  above : ∃ y, Relation.TransGen (fun a b => b ∈ (view.bases a e).1) x y ∧ y.key = m.key

section Files
variable (hfiles : Extracted loads) (hnames : ∀ facts ∈ loads, (facts.classes.map ClassFacts.name).Nodup)
include hfiles hnames

theorem DerivesFrom.module_eq (he : Sound loads e) {p : Policy} (h : DerivesFrom p e m x) : x.module? = m.module? := by
  obtain ⟨module, hm, hx⟩ := h.listed
  change x ∈ e.classesOf module at hx
  rw [he.classesOf] at hx
  exact (stands_of_mem_classesOf hfiles hnames hx).1.trans hm.symm

theorem DerivesFrom.stands (he : Sound loads e) {p : Policy} (h : DerivesFrom p e m x) :
    (loaded loads).get? x.key = some x := by
  obtain ⟨module, _, hx⟩ := h.listed
  change x ∈ e.classesOf module at hx
  rw [he.classesOf] at hx
  exact (stands_of_mem_classesOf hfiles hnames hx).2.2

/-- What derives from a type by what one catalogue has resolved is what derives from it by the answers of another. -/
theorem mem_derivedFrom_iff (hc : Sound loads c) (he : Sound loads e) (p : Policy) :
    x ∈ Reach.derivedFrom p c.reading m ↔ DerivesFrom p e m x := by
  rw [Reach.mem_derivedFrom]
  constructor
  · rintro ⟨module, hm, hx, hbelow, ha⟩
    change x ∈ c.classesOf module at hx
    rw [hc.classesOf] at hx
    obtain ⟨hne, hreach, ha⟩ := (below_iff hc he (stands_of_mem_classesOf hfiles hnames hx).2.2).mp ⟨hbelow, ha⟩
    refine ⟨⟨module, hm, ?_⟩, ha, hne, hreach⟩
    change x ∈ e.classesOf module
    rw [he.classesOf]
    exact hx
  · intro h
    obtain ⟨hbelow, ha⟩ := (below_iff hc he (h.stands hfiles hnames he)).mpr ⟨h.other, h.above, h.accepted⟩
    obtain ⟨module, hm, hx⟩ := h.listed
    refine ⟨module, hm, ?_, hbelow, ha⟩
    change x ∈ c.classesOf module
    rw [hc.classesOf, ← he.classesOf]
    exact hx

/-- What derives from a derived type derives from the type itself, unless it has its key. -/
theorem DerivesFrom.trans (he : Sound loads e) {p : Policy} {y : Descriptor} (hx : DerivesFrom p e m x)
    (hy : DerivesFrom p e x y) (hne : y.key ≠ m.key) : DerivesFrom p e m y := by
  have hcurrent : ∀ {t : Descriptor}, (loaded loads).get? t.key = some t → Current loads t := by
    intro t ht
    obtain ⟨n, f, _, rfl⟩ := registered_of_get? ht
    exact Current.declared ht
  refine ⟨?_, hy.accepted, hne, ?_⟩
  · rw [← hx.module_eq hfiles hnames he]
    exact hy.listed
  · have hup := (exists_transGen_bases he (hcurrent (hy.stands hfiles hnames he))).mp hy.above
    have hup' := (exists_transGen_bases he (hcurrent (hx.stands hfiles hnames he))).mp hx.above
    exact (exists_transGen_bases he (hcurrent (hy.stands hfiles hnames he))).mpr (hup.trans hup')

/-! ## One pass -/

/-- A pass inserts, in some order, what derives from the members. -/
theorem exists_insertAll (hc : Sound loads c) (he : Sound loads e) (p : Policy) (o : SetOrder) (s : TypeSet) :
    ∃ ds, (Reach.expandDerived p view o s c).1 = s.insertAll ds ∧
      ∀ x, x ∈ ds ↔ ∃ m ∈ s.members, DerivesFrom p e m x := by
  have hanswers : Answers loads (Reach.expandDerived p view o s) (fun c => Reach.expandDerived p c.reading o s) :=
    Reach.answers_expandDerived p o s
  refine ⟨(s.visit o).flatMap (Reach.derivedFrom p (Reach.expandDerived p view o s c).2.reading), ?_, fun x => ?_⟩
  · exact (hanswers.shown hc).symm.trans (Reach.expandDerived_eq p _ o s)
  · simp only [List.mem_flatMap, TypeSet.mem_visit, mem_derivedFrom_iff hfiles hnames (hanswers.sound hc) he]

theorem mem_expandDerived (hc : Sound loads c) (he : Sound loads e) (p : Policy) (o : SetOrder) (s : TypeSet) :
    x ∈ (Reach.expandDerived p view o s c).1.members ↔
      x ∈ s.members ∨ x.key ∉ s.keys ∧ ∃ m ∈ s.members, DerivesFrom p e m x := by
  obtain ⟨ds, hresult, hds⟩ := exists_insertAll hfiles hnames hc he p o s
  rw [hresult, TypeSet.mem_insertAll_iff, hds]
  intro a ha b hb hab
  obtain ⟨_, _, ha⟩ := (hds a).mp ha
  obtain ⟨_, _, hb⟩ := (hds b).mp hb
  have hstands := ha.stands hfiles hnames he
  rw [hab, hb.stands hfiles hnames he] at hstands
  exact (Option.some.inj hstands).symm

/-- Whatever derives from a type in the result of a pass has its key in the result. -/
theorem key_mem_expandDerived (hc : Sound loads c) (he : Sound loads e) (p : Policy) (o : SetOrder) (s : TypeSet)
    (hm : m ∈ (Reach.expandDerived p view o s c).1.members) (hx : DerivesFrom p e m x) :
    x.key ∈ (Reach.expandDerived p view o s c).1.keys := by
  obtain ⟨ds, hresult, hds⟩ := exists_insertAll hfiles hnames hc he p o s
  have hkept : ∀ {k}, k ∈ s.keys → k ∈ (Reach.expandDerived p view o s c).1.keys := by
    intro k hk
    rw [hresult, TypeSet.mem_keys_insertAll]
    exact Or.inl hk
  have hadded : ∀ {m x}, m ∈ s.members → DerivesFrom p e m x → x.key ∈ (Reach.expandDerived p view o s c).1.keys := by
    intro m x hm hx
    rw [hresult, TypeSet.mem_keys_insertAll]
    exact Or.inr (List.mem_map_of_mem ((hds x).mpr ⟨m, hm, hx⟩))
  rcases (mem_expandDerived hfiles hnames hc he p o s).mp hm with hm | ⟨_, n, hn, hm⟩
  · exact hadded hm hx
  · -- a way back to the member itself finds its key in the set
    by_cases hk : x.key = n.key
    · exact hkept (hk ▸ TypeSet.key_mem_keys hn)
    · exact hadded hn (hm.trans hfiles hnames he hx hk)

/-- When all files have been registered, and none has two classes of one name, the expansion of a set of types adds
exactly the accepted classes, listed under the module of a member, from which bases lead to the member and
which are other ones, as far as their keys are not there. It adds nothing more when it is made again. -/
theorem expandDerived_onePass (p : Policy) (o o' : SetOrder) (hc : InUse loads c) (he : InUse loads e) {s : TypeSet}
    (hs : s.keys.Nodup) :
    (∀ x, x ∈ (Reach.expandDerived p view o s c).1.members ↔
      x ∈ s.members ∨ x.key ∉ s.keys ∧ ∃ m ∈ s.members, DerivesFrom p e m x) ∧
    (Reach.expandDerived p view o s c).1.keys.Nodup ∧
    (Reach.expandDerived p view o' (Reach.expandDerived p view o s c).1 e).1 =
      (Reach.expandDerived p view o s c).1 := by
  obtain ⟨ds, hfirst, _⟩ := exists_insertAll hfiles hnames hc.sound he.sound p o s
  obtain ⟨ds', hsecond, hds'⟩ :=
    exists_insertAll hfiles hnames he.sound he.sound p o' (Reach.expandDerived p view o s c).1
  refine ⟨fun x => mem_expandDerived hfiles hnames hc.sound he.sound p o s, ?_, ?_⟩
  · rw [hfirst]
    exact TypeSet.nodup_insertAll hs ds
  · rw [hsecond]
    refine TypeSet.insertAll_eq_self fun x hx => ?_
    obtain ⟨m, hm, hx⟩ := (hds' x).mp hx
    exact key_mem_expandDerived hfiles hnames hc.sound he.sound p o s hm hx

end Files

end Asked

/-! ## A class below another one by a third module -/

def relayTree : Files.FileTree :=
  ⟨[(["r"], .directory),
    (["r", "m.py"], .file (Text.ofString "import k\nclass A:\n  pass\nclass C(k.B):\n  pass\n")),
    (["r", "k.py"], .file (Text.ofString "import m\nclass B(m.A):\n  pass\n"))], [], []⟩

def relayFiles : List Files.ModuleFile := [⟨"/r/m.py", "m.py", "m", false⟩, ⟨"/r/k.py", "k.py", "k", false⟩]

/-- The facts about two files, in one of which a class is below another one by way of the other file. -/
def relays : List ModuleFacts := relayFiles.filterMap fun file => (readFacts relayTree file).toOption

def firstOfRelays : TypeSet := ⟨((loaded relays).classesOf "m").take 1⟩

theorem extracted_relays : Extracted relays := by
  intro facts h
  obtain ⟨file, _, hfile⟩ := List.mem_filterMap.mp h
  cases hread : readFacts relayTree file with
  | ok found =>
    rw [hread] at hfile
    exact ⟨relayTree, file, hread.trans (congrArg Except.ok (Option.some.inj hfile))⟩
  | error fault =>
    rw [hread] at hfile
    cases hfile

theorem expandDerived_onePass_relays :
    Extracted relays ∧ InUse relays (loaded relays) ∧ firstOfRelays.keys = ["m.A"] ∧
    (Reach.expandDerived .usual view .inserted firstOfRelays (loaded relays)).1.keys = ["m.A", "m.C"] ∧
    (∀ x, x ∈ (Reach.expandDerived .usual view .inserted firstOfRelays (loaded relays)).1.members ↔
      x ∈ firstOfRelays.members ∨
        x.key ∉ firstOfRelays.keys ∧ ∃ m ∈ firstOfRelays.members, DerivesFrom .usual (loaded relays) m x) ∧
    (Reach.expandDerived .usual view .inserted
      (Reach.expandDerived .usual view .inserted firstOfRelays (loaded relays)).1 (loaded relays)).1 =
      (Reach.expandDerived .usual view .inserted firstOfRelays (loaded relays)).1 := by
  have hkeys : firstOfRelays.keys = ["m.A"] := by decide +kernel
  have hnames : ∀ facts ∈ relays, (facts.classes.map ClassFacts.name).Nodup := by decide +kernel
  have hnodup : firstOfRelays.keys.Nodup := by
    rw [hkeys]
    exact List.nodup_singleton _
  have hc : InUse relays (loaded relays) := inUse_loaded relays
  have hone := expandDerived_onePass extracted_relays hnames .usual .inserted .inserted hc hc hnodup
  exact ⟨extracted_relays, hc, hkeys, by decide +kernel, hone.1, hone.2.2⟩

end Catalogue
end ModelReach
