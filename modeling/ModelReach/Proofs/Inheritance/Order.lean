import ModelReach.Proofs.Catalogue.Use
import ModelReach.Proofs.Catalogue.Questions
import ModelReach.Proofs.Inheritance.Merging
import ModelReach.Proofs.Inheritance.Opening

/-! The order in which classes give their properties to one that inherits from them. Gathering properties is opening
the names of the classes above, and merging what they declare as they are done with. -/
namespace ModelReach.Catalogue
set_option autoImplicit false

variable {loads : List ModuleFacts} {t : Descriptor}

/-! ## Classes as seen from one of them -/

/-- The class that a name stands for, as seen from a class: under its own name it sees itself, even if another one
hides it. -/
def seenFrom (loads : List ModuleFacts) (t : Descriptor) (name : String) : Option Descriptor :=
  if name = t.key then some t else (loaded loads).get? name

/-- The names of the bases of the class that a name stands for. -/
def baseNamesFrom (loads : List ModuleFacts) (t : Descriptor) (name : String) : List String :=
  ((seenFrom loads t name).map namesOf).getD []

/-- Those of them that stand for classes. -/
def classNamesFrom (loads : List ModuleFacts) (t : Descriptor) (name : String) : List String :=
  (baseNamesFrom loads t name).filter fun b => (seenFrom loads t b).isSome

/-- The properties that the class declares for which a name stands. -/
def ownFrom (loads : List ModuleFacts) (t : Descriptor) (v : View Id) (name : String) : List Property :=
  ((seenFrom loads t name).map fun u => (v.properties u).run).getD []

theorem seenFrom_self : seenFrom loads t t.key = some t := if_pos rfl

theorem seenFrom_of_ne {name : String} (h : name ≠ t.key) : seenFrom loads t name = (loaded loads).get? name := if_neg h

theorem key_of_seenFrom {name : String} {u : Descriptor} (h : seenFrom loads t name = some u) : u.key = name := by
  rw [seenFrom] at h
  split at h
  · rename_i hname
    rw [← Option.some.inj h, hname]
  · exact key_of_get? h

theorem registered_of_seenFrom (ht : Registered loads t) {name : String} {u : Descriptor}
    (h : seenFrom loads t name = some u) : Registered loads u := by
  rw [seenFrom] at h
  split at h
  · rw [← Option.some.inj h]
    exact ht
  · exact registered_of_get? h

theorem isSome_seenFrom (ht : Registered loads t) (name : String) :
    (seenFrom loads t name).isSome = ((loaded loads).get? name).isSome := by
  rw [seenFrom]
  split
  · rename_i hname
    obtain ⟨u, hu⟩ := ht.exists_get?
    rw [hname, hu]
    rfl
  · rfl

theorem Current.isSome_get? {b : Descriptor} (h : Current loads b) : ((loaded loads).get? b.key).isSome = b.isDeclared := by
  cases h with
  | declared h => exact congrArg Option.isSome h
  | leaf h => exact congrArg Option.isSome h
  | array _ h _ => exact congrArg Option.isSome h
  | generic _ h _ => exact congrArg Option.isSome h

theorem mem_classNamesFrom {k m : String} : m ∈ classNamesFrom loads t k ↔
    m ∈ baseNamesFrom loads t k ∧ (seenFrom loads t m).isSome = true := List.mem_filter

/-- The names of all classes that were read. -/
def classNames (loads : List ModuleFacts) : List String := (classesIn loads).map ClassFacts.qualifiedName

theorem key_mem_classNames {u : Descriptor} (h : Registered loads u) : u.key ∈ classNames loads := by
  obtain ⟨n, f, hf, rfl⟩ := h
  exact List.mem_map_of_mem (List.mem_of_getElem? hf)

theorem within_classNames (ht : Registered loads t) : Within (classNamesFrom loads t) (classNames loads) where
  next _ _ m hm := by
    obtain ⟨u, hu⟩ := Option.isSome_iff_exists.mp (mem_classNamesFrom.mp hm).2
    rw [← key_of_seenFrom hu]
    exact key_mem_classNames (registered_of_seenFrom ht hu)

/-! ## Gathering as opening -/

/-- One step through the bases: what a base that was not opened before inherits is merged. -/
def inheritStep {m : Type → Type} [Monad m] (v : View m) (n : Nat) (acc : List Property × List String)
    (base : Descriptor) : m (List Property × List String) :=
  if base.isDeclared && !acc.2.contains base.key then do
    let (more, seen) ← v.inherited n acc.2 base
    pure (mergeProperties acc.1 more, seen)
  else pure acc

theorem inherited_succ {m : Type → Type} [Monad m] (v : View m) (n : Nat) (seen : List String) (u : Descriptor) :
    v.inherited (n + 1) seen u = (v.bases u >>= fun bases =>
      bases.reverse.foldlM (inheritStep v n) ([], u.key :: seen) >>= fun acc =>
        v.properties u >>= fun own => pure (mergeProperties acc.1 own, acc.2)) := rfl

/-- What has been merged once names have been opened. -/
def gathered (loads : List ModuleFacts) (t : Descriptor) (v : View Id) (s : Opened) : List Property × List String :=
  (mergeProperties [] (s.done.flatMap (ownFrom loads t v)), s.seen)

theorem gathered_append (v : View Id) (s : Opened) (more : Opened) :
    (mergeProperties (gathered loads t v s).1 (gathered loads t v more).1, more.seen) =
      gathered loads t v ⟨more.seen, s.done ++ more.done⟩ := by
  rw [gathered, gathered, gathered, mergeProperties_mergeProperties, ← mergeProperties_append, ← List.flatMap_append]

/-- Open the names of those bases that stand for classes. -/
def openBases (loads : List ModuleFacts) (t : Descriptor) (n : Nat) (bs : List Descriptor) (s : Opened) : Opened :=
  openNames (classNamesFrom loads t) n ((bs.map Descriptor.key).filter fun m => (seenFrom loads t m).isSome) s

theorem openBases_cons (n : Nat) (b : Descriptor) (bs : List Descriptor) (s : Opened) :
    openBases loads t n (b :: bs) s = if (seenFrom loads t b.key).isSome = true then
      openName (classNamesFrom loads t) n (openBases loads t n bs s) b.key else openBases loads t n bs s := by
  rw [openBases, List.map_cons, List.filter_cons]
  split <;> rfl

theorem seen_subset_openBases (n : Nat) (bs : List Descriptor) (s : Opened) : s.seen ⊆ (openBases loads t n bs s).seen :=
  (before_openNames (before_openName n) _ s).seen

/-- A class is opened, the first one or one above it. -/
structure Entering (loads : List ModuleFacts) (t : Descriptor) (seen : List String) (u : Descriptor) : Prop where
  stands : seenFrom loads t u.key = some u
  fresh : u.key ∉ seen
  self : t.key ∈ u.key :: seen

theorem Entering.init : Entering loads t [] t := ⟨seenFrom_self, List.not_mem_nil, List.mem_cons_self ..⟩

theorem Entering.base {seen : List String} {b : Descriptor} (hb : Current loads b) (hd : b.isDeclared = true)
    (hself : t.key ∈ seen) (hfresh : b.key ∉ seen) : Entering loads t seen b where
  stands := by
    have hne : b.key ≠ t.key := fun he => hfresh (he ▸ hself)
    rw [seenFrom_of_ne hne]
    exact hb.get?_of_isDeclared hd
  fresh := hfresh
  self := List.mem_cons_of_mem _ hself

section Gathering
variable {c : Catalogue} (hc : Sound loads c) (ht : Registered loads t)
include ht

theorem isSome_seenFrom_key {b : Descriptor} (hb : Current loads b) : (seenFrom loads t b.key).isSome = b.isDeclared := by
  rw [isSome_seenFrom ht, hb.isSome_get?]

/-- What gathering from a base of a class gives, if from a base not opened before it gives what opening it does. -/
theorem inheritStep_gathered {n : Nat} {s : Opened} {b : Descriptor} (hb : Current loads b)
    (ih : b.isDeclared = true → b.key ∉ s.seen → (c.reading.inherited n s.seen b).run =
      gathered loads t c.reading (openName (classNamesFrom loads t) n ⟨s.seen, []⟩ b.key)) :
    (inheritStep c.reading n (gathered loads t c.reading s) b).run = gathered loads t c.reading
      (if (seenFrom loads t b.key).isSome = true then openName (classNamesFrom loads t) n s b.key else s) := by
  rw [inheritStep, isSome_seenFrom_key ht hb]
  by_cases hd : b.isDeclared = true
  · rw [if_pos hd, hd, Bool.true_and]
    by_cases hseen : b.key ∈ s.seen
    · have hcontains : (gathered loads t c.reading s).2.contains b.key = true := List.contains_iff_mem.mpr hseen
      rw [openName_of_mem n hseen, hcontains, Bool.not_true, if_neg Bool.false_ne_true]
      rfl
    · have hnot : (!(gathered loads t c.reading s).2.contains b.key) = true := by
        rw [Bool.not_eq_true', ← Bool.not_eq_true, List.contains_iff_mem]
        exact hseen
      rw [if_pos hnot]
      change (mergeProperties (gathered loads t c.reading s).1 (c.reading.inherited n s.seen b).run.1,
        (c.reading.inherited n s.seen b).run.2) = _
      have hdone : openName (classNamesFrom loads t) n s b.key = _ := openName_done n s.seen s.done b.key
      rw [ih hd hseen, hdone]
      exact gathered_append c.reading s (openName (classNamesFrom loads t) n ⟨s.seen, []⟩ b.key)
  · rw [if_neg hd, eq_false_of_ne_true hd, Bool.false_and, if_neg Bool.false_ne_true]
    rfl

theorem foldlM_gathered {n : Nat} {s : Opened} {bs : List Descriptor} (hbs : ∀ b ∈ bs, Current loads b)
    (hself : t.key ∈ s.seen) (ih : ∀ seen b, Entering loads t seen b → (c.reading.inherited n seen b).run =
      gathered loads t c.reading (openName (classNamesFrom loads t) n ⟨seen, []⟩ b.key)) :
    (bs.reverse.foldlM (inheritStep c.reading n) (gathered loads t c.reading s)).run =
      gathered loads t c.reading (openBases loads t n bs s) := by
  induction bs with
  | nil => rfl
  | cons b bs ihbs =>
    have hb : Current loads b := hbs b (List.mem_cons_self ..)
    have hself' : t.key ∈ (openBases loads t n bs s).seen := seen_subset_openBases n bs s hself
    rw [List.reverse_cons, List.foldlM_append]
    change (inheritStep c.reading n (bs.reverse.foldlM (inheritStep c.reading n)
      (gathered loads t c.reading s)).run b).run = _
    rw [ihbs fun b' hb' => hbs b' (List.mem_cons_of_mem b hb'), openBases_cons]
    exact inheritStep_gathered ht hb fun hd hfresh => ih _ b (Entering.base hb hd hself' hfresh)

include hc

theorem openBases_bases {u : Descriptor} (hu : seenFrom loads t u.key = some u) (n : Nat) (s : Opened) :
    openBases loads t n (c.reading.bases u).run s =
      openNames (classNamesFrom loads t) n (classNamesFrom loads t u.key) s := by
  obtain ⟨m, facts, _, rfl⟩ := registered_of_seenFrom ht hu
  have hkeys : (c.reading.bases (.declared m facts)).run.map Descriptor.key = baseNames facts :=
    map_key_basesIn hc.resolved facts
  rw [openBases, hkeys, classNamesFrom, baseNamesFrom, hu]
  rfl

/-- What a class inherits and declares is what names give that are opened from its own. -/
theorem inherited_gathered (n : Nat) {seen : List String} {u : Descriptor} (h : Entering loads t seen u) :
    (c.reading.inherited n seen u).run =
      gathered loads t c.reading (openName (classNamesFrom loads t) n ⟨seen, []⟩ u.key) := by
  induction n generalizing seen u with
  | zero => rfl
  | succ n ih =>
    have hbases : ∀ b ∈ (c.reading.bases u).run, Current loads b := fun b hb => current_of_mem_bases hc.resolved hb
    have hfold := foldlM_gathered (c := c) (n := n) (s := ⟨u.key :: seen, []⟩) ht hbases h.self fun _ _ hb => ih hb
    have hstart : gathered loads t c.reading ⟨u.key :: seen, []⟩ = ([], u.key :: seen) := rfl
    have hown : ownFrom loads t c.reading u.key = (c.reading.properties u).run := by
      rw [ownFrom, h.stands]
      rfl
    rw [inherited_succ, ← hstart]
    change (mergeProperties ((c.reading.bases u).run.reverse.foldlM (inheritStep c.reading n) _).run.1
      (c.reading.properties u).run, ((c.reading.bases u).run.reverse.foldlM (inheritStep c.reading n) _).run.2) = _
    rw [hfold, openBases_bases hc ht h.stands, openName_of_notMem n h.fresh]
    dsimp only [gathered]
    rw [List.flatMap_append, List.flatMap_singleton, hown, mergeProperties_append]

/-- The properties of a class are merged from those that classes declare, in the order in which their names are
done with. -/
theorem allProperties_reading : (c.reading.allProperties t).run =
    mergeProperties [] ((openedFrom (classNamesFrom loads t) ((classesIn loads).length + 1) t.key).flatMap
      (ownFrom loads t c.reading)) := by
  have hdeclared : t.isDeclared = true := by
    obtain ⟨n, facts, _, rfl⟩ := ht
    rfl
  have hinit : Entering loads t [] t := Entering.init
  have hgathered := inherited_gathered hc ht ((classesIn loads).length + 1) hinit
  rw [View.allProperties, if_pos hdeclared]
  change (c.reading.inherited (c.settled.length + 1) [] t).run.1 = _
  rw [hc.size, hgathered]
  rfl

end Gathering

end ModelReach.Catalogue
