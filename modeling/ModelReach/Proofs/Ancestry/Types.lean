import ModelReach.Proofs.Ancestry.Distances
import ModelReach.Proofs.Catalogue.Agreement
import ModelReach.Proofs.Inheritance.Gathering
import ModelReach.Proofs.Reach.Derived

/-! The ancestors of types. The search for them needs no bound on its rounds: it ends when nothing waits in the queue. If
no key stands for two types, a type that is reached is known by its key, and the search of types is the visit of their
names; so it finds the types that bases lead to, the nearest first. -/
namespace ModelReach.Catalogue
set_option autoImplicit false

/-! ## The search -/

/-- A queue of bases is searched until it is empty, whatever it takes. Each round takes the first base off the queue; one
whose key was not seen before is found, and its own bases go to the end. -/
inductive Searches : List String → List Descriptor → List Descriptor → Catalogue → List Descriptor × Catalogue → Prop
  | finished {seen : List String} {found : List Descriptor} {c : Catalogue} : Searches seen found [] c (found, c)
  | skip {seen : List String} {found queue : List Descriptor} {base : Descriptor} {c : Catalogue}
    {out : List Descriptor × Catalogue} (hs : base.key ∈ seen) (h : Searches seen found queue c out) :
    Searches seen found (base :: queue) c out
  | enter {seen : List String} {found queue : List Descriptor} {base : Descriptor} {c : Catalogue}
    {out : List Descriptor × Catalogue} (hs : base.key ∉ seen)
    (h : Searches (base.key :: seen) (found ++ [base]) (queue ++ (view.bases base c).1) (view.bases base c).2 out) :
    Searches seen found (base :: queue) c out

/-- One type is a base of another one. -/
def IsBase (c : Catalogue) (t b : Descriptor) : Prop := b ∈ (view.bases t c).1

/-- A type that the catalogue supplies: a class that was read, or what it keeps under a key. -/
def Supplied (loads : List ModuleFacts) (c : Catalogue) (t : Descriptor) : Prop :=
  Registered loads t ∨ c.resolved.lookup t.key = some t

/-- A type that its key denotes, when the key is taken for a name. -/
def Denoted (c : Catalogue) (t : Descriptor) : Prop := (resolve (.named t.key) c).1 = t

variable {loads : List ModuleFacts} {c d : Catalogue} {t u x : Descriptor}

theorem Denoted.eq_of_key (hx : Denoted c x) (hu : Denoted c u) (hk : x.key = u.key) : x = u := by
  rw [Denoted, hk, hu] at hx
  exact hx.symm

section Ends
variable {origin : String} {start : List String}

/-- The bounded search of a catalogue does what the unbounded one does, as long as the names that it has seen are
those of a visit. -/
theorem searches_visitBases {bound : Nat} (hb : Bounded (nextNames loads) bound) {rounds : Nat} {seen : List String}
    {done queue : List Descriptor} (hc : Sound loads c) (hq : ∀ b ∈ queue, Current loads b)
    (hv : Visiting (nextNames loads) origin start seen (done.map Descriptor.key) (queue.map Descriptor.key))
    (hr : queue.length + bound + 1 ≤ rounds + (done.map fun b => (nextNames loads b.key).length).sum) :
    Searches seen done.reverse queue c (lineage.visitBases rounds seen done queue c) := by
  induction rounds generalizing seen done queue c with
  | zero =>
    have hsum := hb _ hv.nodup
    rw [List.map_map] at hsum
    change (done.map fun b => (nextNames loads b.key).length).sum ≤ bound at hsum
    omega
  | succ rounds ih =>
    cases queue with
    | nil => exact Searches.finished
    | cons base queue =>
      have hrest : ∀ b ∈ queue, Current loads b := fun b h => hq b (List.mem_cons_of_mem _ h)
      have hbase : Current loads base := hq base (List.mem_cons_self ..)
      rw [List.length_cons] at hr
      rw [Lineage.visitBases]
      by_cases hs : base.key ∈ seen
      · rw [if_pos (List.contains_iff_mem.mpr hs)]
        exact Searches.skip hs (ih hc hrest (hv.skip hs) (by omega))
      · obtain ⟨hkeys, hcurrent⟩ := view_bases hc hbase
        have hentered := hv.enter hs
        rw [← hkeys, ← List.map_append, ← List.map_cons] at hentered
        have hlength : (view.bases base c).1.length = (nextNames loads base.key).length := by
          rw [← hkeys, List.length_map]
        have hqueue : ∀ b ∈ queue ++ (view.bases base c).1, Current loads b := by
          intro b h
          rcases List.mem_append.mp h with h | h
          · exact hrest b h
          · exact hcurrent b h
        rw [if_neg (fun h => hs (List.contains_iff_mem.mp h))]
        refine Searches.enter hs ?_
        rw [← List.reverse_cons]
        refine ih ((answers_bases hbase.known).sound hc) hqueue hentered ?_
        rw [List.length_append, List.map_cons, List.sum_cons, hlength]
        omega

end Ends

section Sound
variable (hc : Sound loads c)
include hc

theorem searches_ancestors (ht : Current loads t) :
    Searches [t.key] [] (view.bases t c).1 (view.bases t c).2 (view.ancestors t c) := by
  obtain ⟨hkeys, hcurrent⟩ := view_bases hc ht
  have hlater : Sound loads (view.bases t c).2 := (answers_bases ht.known).sound hc
  have hvisiting : Visiting (nextNames loads) t.key ((view.bases t c).1.map Descriptor.key) [t.key]
      (([] : List Descriptor).map Descriptor.key) ((view.bases t c).1.map Descriptor.key) := Visiting.init
  have hsearch := searches_visitBases (bounded_nextNames loads) hlater hcurrent hvisiting (le_refl _)
  rw [← hlater.edges] at hsearch
  exact hsearch

/-- The keys of the ancestors are the names that are visited from the key. -/
theorem map_key_view_ancestors (ht : Current loads t) : (view.ancestors t c).1.map Descriptor.key =
    visitNames (nextNames loads) ((nextNames loads t.key).length + (loaded loads).edges + 1) [t.key] []
      (nextNames loads t.key) := by
  have hanswers : Answers loads (view.ancestors t) (fun c => c.lineageReading.ancestors t) := answers_ancestors ht.known
  have hsound := hanswers.sound hc
  rw [← hanswers.shown hc]
  generalize (view.ancestors t c).2 = d at hsound
  have hkeys := map_key_bases hsound.resolved ht
  have hvisit := map_key_visitBases hsound.resolved ((d.lineageReading.bases t).run.length + d.edges + 1) [t.key] []
    (d.lineageReading.bases t).run (fun b hb => current_of_mem_bases hsound.resolved hb)
  rw [← hkeys, List.length_map, ← hsound.edges]
  exact hvisit

/-! ## Types known by their keys -/

section OneForKey
variable (hone : OneForKey loads c)
include hone

theorem Supplied.lookup (ht : Supplied loads c t) : c.resolved.lookup t.key = some t := by
  rcases ht with ht | ht
  · obtain ⟨t', ht'⟩ := ht.exists_get?
    have hsame : t' = t := hone.classes t' t (registered_of_get? ht') ht (key_of_get? ht')
    rw [hsame] at ht'
    exact hc.resolved.present t.key t ht'
  · exact ht

theorem Supplied.current (ht : Supplied loads c t) : Current loads t :=
  hc.resolved.current t.key t (ht.lookup hc hone)

theorem Supplied.denoted (ht : Supplied loads c t) : Denoted c t := by
  have hlookup := ht.lookup hc hone
  rw [Denoted, resolve, keptOr, hlookup]

/-- The bases of a type are denoted by their keys, also when they are asked for later. -/
theorem denoted_of_mem_bases (hd : Sound loads d) (hcd : Resolves (written loads) c d) (hu : Known loads u)
    (hx : x ∈ (view.bases u d).1) : Denoted c x := by
  have hanswers : Answers loads (view.bases u) (fun c => c.lineageReading.bases u) := answers_bases hu
  have hsound := hanswers.sound hd
  have hresolves := hcd.trans (hanswers.resolves d hd)
  rw [← hanswers.shown hd] at hx
  generalize (view.bases u d).2 = e at hx hsound hresolves
  cases u with
  | declared n facts =>
    obtain ⟨name, hname, hmeaning⟩ := List.mem_map.mp hx
    have hkey : x.key = name := by
      rw [← hmeaning]
      exact hsound.resolved.key_meaning (.named name)
    have hwritten : [TypeRef.named name] ⊆ written loads := fun r hr => by
      rw [List.mem_singleton.mp hr]
      exact baseRefs_subset (hu n facts rfl) (List.mem_map_of_mem hname)
    have hanswer := hone.answer_eq hc Resolves.start hsound hresolves ((finds_resolve loads _).answers hwritten)
    rw [Denoted, hkey, hanswer, ← hmeaning, resolve, keptOr, meaning]
    cases e.resolved.lookup name <;> rfl
  | leaf _ => cases hx
  | array _ _ _ => cases hx
  | generic _ _ _ => cases hx

/-- What a search finds is denoted by its keys. -/
theorem Searches.denoted {seen : List String} {found queue : List Descriptor} {out : List Descriptor × Catalogue}
    (h : Searches seen found queue d out) (hd : Sound loads d) (hcd : Resolves (written loads) c d)
    (hfound : ∀ b ∈ found, Denoted c b) (hqueue : ∀ b ∈ queue, Current loads b ∧ Denoted c b) :
    ∀ b ∈ out.1, Denoted c b := by
  induction h with
  | finished => exact hfound
  | skip _ _ ih => exact ih hd hcd hfound fun b hb => hqueue b (List.mem_cons_of_mem _ hb)
  | @enter seen found queue base d out _ _ ih =>
    obtain ⟨hbase, hdenoted⟩ := hqueue base (List.mem_cons_self ..)
    have hanswers : Answers loads (view.bases base) (fun c => c.lineageReading.bases base) := answers_bases hbase.known
    refine ih (hanswers.sound hd) (hcd.trans (hanswers.resolves d hd)) (fun b hb => ?_) (fun b hb => ?_)
    · rcases List.mem_append.mp hb with hb | hb
      · exact hfound b hb
      · rw [List.mem_singleton.mp hb]
        exact hdenoted
    · rcases List.mem_append.mp hb with hb | hb
      · exact hqueue b (List.mem_cons_of_mem _ hb)
      · exact ⟨(view_bases hd hbase).2 b hb, denoted_of_mem_bases hc hone hd hcd hbase.known hb⟩

theorem denoted_of_mem_ancestors (ht : Current loads t) (hx : x ∈ (view.ancestors t c).1) : Denoted c x := by
  have hanswers : Answers loads (view.bases t) (fun c => c.lineageReading.bases t) := answers_bases ht.known
  refine (searches_ancestors hc ht).denoted hc hone (hanswers.sound hc) (hanswers.resolves c hc)
    (fun b hb => absurd hb List.not_mem_nil) (fun b hb => ?_) x hx
  exact ⟨(view_bases hc ht).2 b hb, denoted_of_mem_bases hc hone hc Resolves.start ht.known hb⟩

end OneForKey

/-! ## Steps by bases and steps by names -/

theorem IsBase.next (hu : Current loads u) (h : IsBase c u x) :
    Current loads x ∧ Next (nextNames loads) u.key x.key := by
  obtain ⟨hkeys, hcurrent⟩ := view_bases hc hu
  refine ⟨hcurrent x h, ?_⟩
  rw [Next, ← hkeys]
  exact List.mem_map_of_mem h

theorem exists_isBase (hu : Current loads u) {k : String} (h : Next (nextNames loads) u.key k) :
    ∃ b, IsBase c u b ∧ b.key = k := by
  rw [Next, ← (view_bases hc hu).1] at h
  exact List.mem_map.mp h

theorem Steps.next (ht : Current loads t) {n : Nat} (h : Steps (IsBase c) t n x) :
    Current loads x ∧ Steps (Next (nextNames loads)) t.key n x.key := by
  induction h with
  | none => exact ⟨ht, Steps.none⟩
  | more _ hstep ih =>
    obtain ⟨hcurrent, hnext⟩ := IsBase.next hc ih.1 hstep
    exact ⟨hcurrent, ih.2.more hnext⟩

theorem exists_steps_isBase (ht : Current loads t) {n : Nat} {k : String}
    (h : Steps (Next (nextNames loads)) t.key n k) : ∃ y, Steps (IsBase c) t n y ∧ y.key = k := by
  induction h with
  | none => exact ⟨t, Steps.none, rfl⟩
  | more _ hstep ih =>
    obtain ⟨y, hy, rfl⟩ := ih
    obtain ⟨b, hb, hkey⟩ := exists_isBase hc (Steps.next hc ht hy).1 hstep
    exact ⟨b, hy.more hb, hkey⟩

variable (hone : OneForKey loads c)
include hone

theorem denoted_of_transGen (ht : Current loads t) (h : Relation.TransGen (IsBase c) t x) : Denoted c x := by
  obtain ⟨u, hu, hx⟩ := Relation.TransGen.tail'_iff.mp h
  obtain ⟨n, hsteps⟩ := exists_steps hu
  exact denoted_of_mem_bases hc hone hc Resolves.start (Steps.next hc ht hsteps).1.known hx

section Supplied
variable (ht : Supplied loads c t)
include ht

/-- A type that is reached is as far away as its key is by names. -/
theorem distance_isBase (h : Relation.TransGen (IsBase c) t x) :
    distance (IsBase c) t x = distance (Next (nextNames loads)) t.key x.key := by
  have hcurrent := ht.current hc hone
  have hx := denoted_of_transGen hc hone hcurrent h
  have hsteps : ∀ n, Steps (IsBase c) t n x ↔ Steps (Next (nextNames loads)) t.key n x.key := by
    intro n
    refine ⟨fun hn => (Steps.next hc hcurrent hn).2, fun hn => ?_⟩
    obtain ⟨y, hy, hkey⟩ := exists_steps_isBase hc hcurrent hn
    have hdenoted : Denoted c y := by
      rcases Relation.reflTransGen_iff_eq_or_transGen.mp hy.reflTransGen with rfl | hreached
      · exact ht.denoted hc hone
      · exact denoted_of_transGen hc hone hcurrent hreached
    rw [← hx.eq_of_key hdenoted hkey.symm] at hy
    exact hy
  simp only [distance, hsteps]

/-- The ancestors are the other types to which bases lead. -/
theorem mem_ancestors_iff : x ∈ (view.ancestors t c).1 ↔ x ≠ t ∧ Relation.TransGen (IsBase c) t x := by
  have hcurrent := ht.current hc hone
  have hkey : ∀ k, k ∈ (view.ancestors t c).1.map Descriptor.key ↔
      k ≠ t.key ∧ ∃ y, Relation.TransGen (IsBase c) t y ∧ y.key = k := by
    intro k
    rw [map_key_view_ancestors hc hcurrent, mem_visitNames (bounded_nextNames loads), climbs_iff_transGen,
      ← exists_transGen_bases hc hcurrent]
    rfl
  constructor
  · intro hx
    obtain ⟨hne, y, hy, hyx⟩ := (hkey x.key).mp (List.mem_map_of_mem hx)
    have hsame : y = x := (denoted_of_transGen hc hone hcurrent hy).eq_of_key
      (denoted_of_mem_ancestors hc hone hcurrent hx) hyx
    rw [hsame] at hy
    exact ⟨fun he => hne (congrArg Descriptor.key he), hy⟩
  · rintro ⟨hne, hx⟩
    have hdenoted := denoted_of_transGen hc hone hcurrent hx
    have hkeys : x.key ≠ t.key := fun he => hne (hdenoted.eq_of_key (ht.denoted hc hone) he)
    obtain ⟨a, ha, hax⟩ := List.mem_map.mp ((hkey x.key).mpr ⟨hkeys, x, hx, rfl⟩)
    rw [← (denoted_of_mem_ancestors hc hone hcurrent ha).eq_of_key hdenoted hax]
    exact ha

theorem isStrictSubtype_iff (hu : Supplied loads c u) :
    (view.isStrictSubtype t u c).1 = true ↔ t.key ≠ u.key ∧ Relation.TransGen (IsBase c) t u := by
  have hcurrent := ht.current hc hone
  have hanswer : (view.isStrictSubtype t u c).1 =
      if (t.key == u.key) = true then false else (view.ancestors t c).1.any (·.key == u.key) := by
    change ((if (t.key == u.key) = true then pure false else _ : StateM Catalogue Bool) c).1 = _
    split <;> rfl
  rw [hanswer]
  split
  · rename_i hself
    exact iff_of_false Bool.false_ne_true fun h => h.1 (beq_iff_eq.mp hself)
  · rename_i hne
    have hkeys : t.key ≠ u.key := fun he => hne (beq_iff_eq.mpr he)
    rw [List.any_eq_true]
    constructor
    · rintro ⟨a, ha, hau⟩
      have hsame : a = u := (denoted_of_mem_ancestors hc hone hcurrent ha).eq_of_key (hu.denoted hc hone)
        (beq_iff_eq.mp hau)
      rw [hsame] at ha
      exact ⟨hkeys, ((mem_ancestors_iff hc hone ht).mp ha).2⟩
    · rintro ⟨-, hreached⟩
      have hother : u ≠ t := fun he => hkeys (congrArg Descriptor.key he).symm
      exact ⟨u, (mem_ancestors_iff hc hone ht).mpr ⟨hother, hreached⟩, beq_self_eq_true u.key⟩

/-! ## What is listed -/

/-- The ancestors of a type as they should be: the search has ended; it found the other types to which bases lead, no key
twice, and none before one that is nearer. -/
structure ListsAncestors (c : Catalogue) (t : Descriptor) (out : List Descriptor × Catalogue) : Prop where
  ends : Searches [t.key] [] (view.bases t c).1 (view.bases t c).2 out
  mem_iff : ∀ x, x ∈ out.1 ↔ x ≠ t ∧ Relation.TransGen (IsBase c) t x
  once : (out.1.map Descriptor.key).Nodup
  nearest : (out.1.map (distance (IsBase c) t)).Pairwise (· ≤ ·)

theorem listsAncestors : ListsAncestors c t (view.ancestors t c) where
  ends := searches_ancestors hc (ht.current hc hone)
  mem_iff _ := mem_ancestors_iff hc hone ht
  once := by
    rw [map_key_view_ancestors hc (ht.current hc hone)]
    exact nodup_visitNames (bounded_nextNames loads)
  nearest := by
    have hdistances : (view.ancestors t c).1.map (distance (IsBase c) t) =
        ((view.ancestors t c).1.map Descriptor.key).map (distance (Next (nextNames loads)) t.key) := by
      rw [List.map_map]
      exact List.map_congr_left fun x hx => distance_isBase hc hone ht ((mem_ancestors_iff hc hone ht).mp hx).2
    rw [hdistances, map_key_view_ancestors hc (ht.current hc hone)]
    exact rising_visitNames (bounded_nextNames loads)

end Supplied

end Sound

/-- If no key stands for two types, the ancestors of every type are the other ones to which its bases lead, listed once
and the nearest first. So one type is below another one if it has another key and bases lead up to that one; no type
is below itself, and what is below a type is below all other ones above it. Questions asked before change no answer. -/
theorem ancestors_exact (hc : InUse loads c) (hone : OneForKey loads c) :
    (∀ t, Supplied loads c t → ListsAncestors c t (view.ancestors t c)) ∧
    (∀ t u, Supplied loads c t → Supplied loads c u →
      ((view.isStrictSubtype t u c).1 = true ↔ t.key ≠ u.key ∧ Relation.TransGen (IsBase c) t u)) ∧
    (∀ t, Supplied loads c t → (view.isStrictSubtype t t c).1 = false) ∧
    (∀ t u x, Supplied loads c t → Supplied loads c u → Supplied loads c x → (view.isStrictSubtype t u c).1 = true →
      (view.isStrictSubtype u x c).1 = true → t ≠ x → (view.isStrictSubtype t x c).1 = true) ∧
    (∀ d, InUse loads d → Resolves (written loads) c d → ∀ t u, Supplied loads c t →
      (view.ancestors t d).1 = (view.ancestors t c).1 ∧
        (view.isStrictSubtype t u d).1 = (view.isStrictSubtype t u c).1) := by
  refine ⟨fun t ht => listsAncestors hc.sound hone ht, fun t u ht hu => isStrictSubtype_iff hc.sound hone ht hu,
    fun t ht => ?_, fun t u x ht hu hx htu hux hne => ?_, fun d hd hcd t u ht => ?_⟩
  · rw [Bool.eq_false_iff]
    intro hbelow
    exact ((isStrictSubtype_iff hc.sound hone ht ht).mp hbelow).1 rfl
  · obtain ⟨-, hup⟩ := (isStrictSubtype_iff hc.sound hone ht hu).mp htu
    obtain ⟨-, hon⟩ := (isStrictSubtype_iff hc.sound hone hu hx).mp hux
    have hkeys : t.key ≠ x.key := fun he =>
      hne ((ht.denoted hc.sound hone).eq_of_key (hx.denoted hc.sound hone) he)
    exact (isStrictSubtype_iff hc.sound hone ht hx).mpr ⟨hkeys, hup.trans hon⟩
  · have hknown := (ht.current hc.sound hone).known
    exact ⟨hone.answer_eq hd.sound hcd hc.sound Resolves.start (answers_ancestors hknown),
      hone.answer_eq hd.sound hcd hc.sound Resolves.start (answers_isStrictSubtype hknown u)⟩

/-- A diamond of classes whose top inherits from its bottom. -/
def knot : List ModuleFacts :=
  [⟨"m", "m.py", [], [heir "A" ["D"] [], heir "B" ["A"] [], heir "C" ["A"] [], heir "D" ["B", "C"] []]⟩]

theorem ancestors_exact_knot : InUse knot (loaded knot) ∧ OneForKey knot (loaded knot) ∧
    (view.ancestors (.declared 3 (heir "D" ["B", "C"] [])) (loaded knot)).1.map Descriptor.key =
      ["m.B", "m.C", "m.A"] ∧
    ListsAncestors (loaded knot) (.declared 3 (heir "D" ["B", "C"] []))
      (view.ancestors (.declared 3 (heir "D" ["B", "C"] [])) (loaded knot)) := by
  have hc : InUse knot (loaded knot) := inUse_loaded knot
  have hrefs : ∀ r ∈ TypeRef.partsOf (written knot), ∀ r' ∈ TypeRef.partsOf (written knot), r.key = r'.key → r = r' := by
    have hparts : TypeRef.partsOf (written knot) =
        [.named "m.D", .named "m.A", .named "m.A", .named "m.B", .named "m.C"] := rfl
    rw [hparts]
    simp [TypeRef.key]
  have hunambiguous : Unambiguous knot := ⟨by decide, hrefs⟩
  have hone : OneForKey knot (loaded knot) := hunambiguous.oneForKey rfl
  have hbottom : Supplied knot (loaded knot) (.declared 3 (heir "D" ["B", "C"] [])) :=
    Or.inl ⟨3, heir "D" ["B", "C"] [], rfl, rfl⟩
  exact ⟨hc, hone, by decide, (ancestors_exact hc hone).1 _ hbottom⟩

end ModelReach.Catalogue
