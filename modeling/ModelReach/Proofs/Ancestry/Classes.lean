import ModelReach.Proofs.Catalogue.Reading

/-! The ancestry of classes, whatever order they were read in. If modules share no full name, a class stands
under its name wherever it was read; and the names that are climbed to from a class, or from its namesake, are
those above it. -/
namespace ModelReach.Catalogue
set_option autoImplicit false

/-! ## Standing classes -/

/-- The class is the last one of its module that has the name. -/
def StandsIn (facts : ModuleFacts) (name : String) (c : ClassFacts) : Prop :=
  facts.classes.reverse.find? (·.qualifiedName == name) = some c

/-- No class of one module has the full name of a class of another module that was read. -/
def Separate (loads : List ModuleFacts) : Prop :=
  loads.Pairwise fun a b => ∀ c ∈ a.classes, ∀ d ∈ b.classes, c.qualifiedName ≠ d.qualifiedName

theorem StandsIn.mem {facts : ModuleFacts} {name : String} {c : ClassFacts} (h : StandsIn facts name c) :
    c ∈ facts.classes := List.mem_reverse.mp (List.mem_of_find?_eq_some h)

theorem StandsIn.qualifiedName_eq {facts : ModuleFacts} {name : String} {c : ClassFacts}
    (h : StandsIn facts name c) : c.qualifiedName = name := by
  have hname := List.find?_some h
  exact beq_iff_eq.mp hname

theorem find?_numbered (name : String) (n : Nat) (l : List ClassFacts) :
    ((numbered n l).reverse.find? (·.key == name)).bind Descriptor.facts? =
      l.reverse.find? (·.qualifiedName == name) := by
  induction l generalizing n with
  | nil => rfl
  | cons f l ih =>
    rw [numbered, List.reverse_cons, List.reverse_cons, List.find?_append, List.find?_append, ← ih (n + 1)]
    cases hlater : (numbered (n + 1) l).reverse.find? (·.key == name) with
    | none =>
      have hkey : (Descriptor.declared n f).key = f.qualifiedName := rfl
      rw [Option.none_or, Option.bind_none, Option.none_or, List.find?_singleton, List.find?_singleton, hkey]
      cases f.qualifiedName == name <;> rfl
    | some t =>
      obtain ⟨i, g, _, rfl⟩ := mem_numbered.mp (List.mem_reverse.mp (List.mem_of_find?_eq_some hlater))
      rfl

/-- Under a name stands the last class that was read with it. -/
theorem mem_nextNames {loads : List ModuleFacts} {m n : String} :
    n ∈ nextNames loads m ↔ ∃ d, (classesIn loads).reverse.find? (·.qualifiedName == m) = some d ∧
      n ∈ baseNames d := by
  rw [← find?_numbered m 0 (classesIn loads), ← loaded_get?, nextNames]
  cases hg : (loaded loads).get? m with
  | none => simp
  | some t =>
    obtain ⟨i, f, _, rfl⟩ := registered_of_get? hg
    constructor
    · exact fun h => ⟨f, rfl, h⟩
    · rintro ⟨d, hd, h⟩
      cases hd
      exact h

theorem find?_classesIn {loads : List ModuleFacts} (h : Separate loads) {name : String} {c : ClassFacts} :
    (classesIn loads).reverse.find? (·.qualifiedName == name) = some c ↔
      ∃ facts ∈ loads, StandsIn facts name c := by
  induction loads with
  | nil => simp [classesIn]
  | cons facts loads ih =>
    obtain ⟨hfirst, hrest⟩ := List.pairwise_cons.mp h
    have hsplit : (classesIn (facts :: loads)).reverse = (classesIn loads).reverse ++ facts.classes.reverse := by
      rw [classesIn, List.flatMap_cons, List.reverse_append]
      rfl
    rw [hsplit, List.find?_append, Option.or_eq_some_iff, ih hrest]
    constructor
    · rintro (⟨later, hlater, hc⟩ | ⟨_, hc⟩)
      · exact ⟨later, List.mem_cons_of_mem facts hlater, hc⟩
      · exact ⟨facts, List.mem_cons_self .., hc⟩
    · rintro ⟨found, hfound, hc⟩
      rcases List.mem_cons.mp hfound with rfl | hfound
      · -- a later class with the name would be one of another module
        refine Or.inr ⟨?_, hc⟩
        rw [List.find?_eq_none]
        intro d hd hname
        obtain ⟨later, hlater, hd⟩ := List.mem_flatMap.mp (List.mem_reverse.mp hd)
        exact hfirst later hlater c hc.mem d hd (hc.qualifiedName_eq.trans (beq_iff_eq.mp hname).symm)
      · exact Or.inl ⟨found, hfound, hc⟩

/-! ## Names above a class -/

/-- A name above a class: that of a base, or of a base of a class that stands under a name above it. -/
inductive Above (stands : String → ClassFacts → Prop) (c : ClassFacts) : String → Prop
  | base {n : String} (h : n ∈ baseNames c) : Above stands c n
  | next {m n : String} {d : ClassFacts} (hm : Above stands c m) (hd : stands m d) (h : n ∈ baseNames d) :
    Above stands c n

section Climbing
variable {stands : String → ClassFacts → Prop} {next : String → List String}
  (hnext : ∀ m n, n ∈ next m ↔ ∃ d, stands m d ∧ n ∈ baseNames d)

include hnext

theorem above_of_climbs {origin n : String} {c : ClassFacts} (h : Climbs next origin (baseNames c) n) :
    Above stands c n := by
  induction h with
  | start h _ => exact Above.base h
  | @next m n _ h _ ih =>
    obtain ⟨d, hd, hn⟩ := (hnext m n).mp h
    exact Above.next ih hd hn

/-- A way up that passes the origin goes on from the class that stands there. -/
theorem climbs_of_above {origin n : String} {c : ClassFacts} (h : Above stands c n) :
    n = origin ∨ Climbs next origin (baseNames c) n ∨
      ∃ d, stands origin d ∧ Climbs next origin (baseNames d) n := by
  induction h with
  | @base n h =>
    by_cases hn : n = origin
    · exact Or.inl hn
    · exact Or.inr (Or.inl (Climbs.start h hn))
  | @next m n d _ hd h ih =>
    by_cases hn : n = origin
    · exact Or.inl hn
    · rcases ih with rfl | hm | ⟨e, he, hm⟩
      · exact Or.inr (Or.inr ⟨d, hd, Climbs.start h hn⟩)
      · exact Or.inr (Or.inl (Climbs.next hm ((hnext m n).mpr ⟨d, hd, h⟩) hn))
      · exact Or.inr (Or.inr ⟨e, he, Climbs.next hm ((hnext m n).mpr ⟨d, hd, h⟩) hn⟩)

end Climbing

end ModelReach.Catalogue
