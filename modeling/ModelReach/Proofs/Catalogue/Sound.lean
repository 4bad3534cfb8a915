import ModelReach.Proofs.Catalogue.Reading

/-! Sound catalogues: those into which files have been read and which have been asked questions since. What is
settled about a class agrees with the types resolved so far, and goes on to agree as more are resolved. -/
namespace ModelReach.Catalogue
set_option autoImplicit false

variable {loads : List ModuleFacts}

/-! ## Sound catalogues -/

/-- What is settled about a class is what the resolved types say. -/
structure Tied (loads : List ModuleFacts) (table : List (String × Descriptor)) (facts : ClassFacts)
    (s : Settled) : Prop where
  bases : ∀ a, s.bases = some a →
    a = basesIn table facts ∧ ∀ name ∈ baseNames facts, Holds table (.named name)
  properties : ∀ a, s.properties = some a →
    a = facts.properties.map (propertyIn table) ∧ ∀ p ∈ facts.properties, Holds table p.type
  methods : ∀ a, s.methods = some a →
    a = facts.methods.map (methodIn table) ∧
      ∀ f ∈ facts.methods, (∀ r ∈ f.returns, Holds table r) ∧
        ∀ p ∈ f.parameters, ∀ r ∈ p.type, Holds table r
  kind : ∀ k, s.kind = some k → k = kindOf loads facts

/-- A catalogue into which files have been read, and of which questions may have been asked since. -/
structure Sound (loads : List ModuleFacts) (c : Catalogue) : Prop where
  edges : c.edges = (loaded loads).edges
  byModule : c.byModule = (loaded loads).byModule
  declared : c.declared = (loaded loads).declared
  size : c.settled.length = (classesIn loads).length
  resolved : Resolved loads c.resolved
  tied : ∀ (n : Nat) facts (s : Settled), (classesIn loads)[n]? = some facts → c.settled[n]? = some s →
    Tied loads c.resolved facts s

theorem tied_nothing (table : List (String × Descriptor)) (facts : ClassFacts) :
    Tied loads table facts .nothing where
  bases _ h := nomatch h
  properties _ h := nomatch h
  methods _ h := nomatch h
  kind _ h := nomatch h

theorem sound_loaded (loads : List ModuleFacts) : Sound loads (loaded loads) where
  edges := rfl
  byModule := rfl
  declared := rfl
  size := length_loaded_settled loads
  resolved := resolved_loaded
  tied n facts s _ hs := by
    rw [loaded_settled, List.getElem?_map, Option.map_eq_some_iff] at hs
    obtain ⟨_, _, rfl⟩ := hs
    exact tied_nothing (loaded loads).resolved facts

theorem meanings_stable {a b : List (String × Descriptor)} (h : Extends a b) (facts : ClassFacts)
    (hn : ∀ name ∈ baseNames facts, Holds a (.named name)) : basesIn b facts = basesIn a facts :=
  List.map_congr_left fun name hname => (hn name hname).meaning_eq h

theorem properties_stable {a b : List (String × Descriptor)} (h : Extends a b)
    {ps : List PropertyFacts} (hp : ∀ p ∈ ps, Holds a p.type) :
    ps.map (propertyIn b) = ps.map (propertyIn a) := by
  apply List.map_congr_left
  intro p hm
  rw [propertyIn, propertyIn, (hp p hm).meaning_eq h]

theorem map_meaning_stable {a b : List (String × Descriptor)} (h : Extends a b)
    {r : Option TypeRef} (hr : ∀ x ∈ r, Holds a x) : r.map (meaning b) = r.map (meaning a) := by
  cases r with
  | none => rfl
  | some x => rw [Option.map_some, Option.map_some, (hr x rfl).meaning_eq h]

theorem method_stable {a b : List (String × Descriptor)} (h : Extends a b) {f : MethodFacts}
    (hr : ∀ r ∈ f.returns, Holds a r) (hp : ∀ p ∈ f.parameters, ∀ r ∈ p.type, Holds a r) :
    methodIn b f = methodIn a f := by
  have hps : f.parameters.map (parameterIn b) = f.parameters.map (parameterIn a) := by
    apply List.map_congr_left
    intro p hm
    rw [parameterIn, parameterIn, map_meaning_stable h (hp p hm)]
  rw [methodIn, methodIn, map_meaning_stable h hr, hps]

theorem Tied.mono {a b : List (String × Descriptor)} {facts : ClassFacts} {s : Settled}
    (hs : Tied loads a facts s) (h : Extends a b) : Tied loads b facts s where
  bases x hx := by
    obtain ⟨rfl, hn⟩ := hs.bases x hx
    exact ⟨(meanings_stable h facts hn).symm, fun name hm => (hn name hm).mono h⟩
  properties x hx := by
    obtain ⟨rfl, hp⟩ := hs.properties x hx
    exact ⟨(properties_stable h hp).symm, fun p hm => (hp p hm).mono h⟩
  methods x hx := by
    obtain ⟨rfl, hf⟩ := hs.methods x hx
    refine ⟨?_, fun f hm => ⟨fun r hr => ((hf f hm).1 r hr).mono h,
      fun p hp r hr => ((hf f hm).2 p hp r hr).mono h⟩⟩
    apply List.map_congr_left
    intro f hm
    exact (method_stable h (hf f hm).1 (hf f hm).2).symm
  kind := hs.kind

/-! ## Changes -/

/-- One catalogue comes from another by questions. -/
structure Follows (loads : List ModuleFacts) (before after : Catalogue) : Prop where
  sound : Sound loads after
  more : Extends before.resolved after.resolved

theorem Follows.refl {c : Catalogue} (h : Sound loads c) : Follows loads c c :=
  ⟨h, Extends.refl c.resolved⟩

theorem Follows.trans {a b c : Catalogue} (h₁ : Follows loads a b) (h₂ : Follows loads b c) :
    Follows loads a c := ⟨h₂.sound, h₁.more.trans h₂.more⟩

theorem Sound.keep {c : Catalogue} (h : Sound loads c) {k : String} (hk : c.resolved.lookup k = none)
    {t : Descriptor} (ht : t.key = k) (hc : Current loads t) : Follows loads c (keep k t c).2 where
  sound :=
    { edges := h.edges
      byModule := h.byModule
      declared := h.declared
      size := h.size
      resolved := h.resolved.assign hk ht hc
      tied := fun n facts s hf hs => (h.tied n facts s hf hs).mono (Extends.assign hk t) }
  more := Extends.assign hk t

theorem Sound.settle {c : Catalogue} (h : Sound loads c) {n : Nat} {facts : ClassFacts}
    (hf : (classesIn loads)[n]? = some facts) {change : Settled → Settled}
    (hs : ∀ s, Tied loads c.resolved facts s → Tied loads c.resolved facts (change s)) :
    Follows loads c (settle n change c).2 where
  sound :=
    { edges := h.edges
      byModule := h.byModule
      declared := h.declared
      size := (List.length_modify ..).trans h.size
      resolved := h.resolved
      tied := by
        intro m facts' s hf' hm
        change (c.settled.modify n change)[m]? = some s at hm
        rw [List.getElem?_modify] at hm
        obtain ⟨s', hs', rfl⟩ := Option.map_eq_some_iff.mp hm
        by_cases hnm : n = m
        · subst hnm
          rw [hf] at hf'
          rw [← Option.some.inj hf', if_pos rfl]
          exact hs s' (h.tied n facts s' hf hs')
        · rw [if_neg hnm]
          exact h.tied m facts' s' hf' hs' }
  more := Extends.refl c.resolved

/-! ## Resolution -/

/-- What resolving references leaves: each is held with its answer, and no longer key is touched. -/
structure Resolving (loads : List ModuleFacts) (before : Catalogue) (refs : List TypeRef)
    (answer : List Descriptor) (after : Catalogue) : Prop extends Follows loads before after where
  held : List.Forall₂ (fun r t => after.resolved.lookup r.key = some t) refs answer
  longer : ∀ k : String, (∀ r ∈ refs, r.key.length < k.length) →
    after.resolved.lookup k = before.resolved.lookup k

theorem Resolving.nil {c : Catalogue} (h : Sound loads c) : Resolving loads c [] [] c where
  toFollows := Follows.refl h
  held := List.Forall₂.nil
  longer _ _ := rfl

theorem Resolving.append {a b c : Catalogue} {refs₁ refs₂ : List TypeRef}
    {ts₁ ts₂ : List Descriptor} (h₁ : Resolving loads a refs₁ ts₁ b)
    (h₂ : Resolving loads b refs₂ ts₂ c) : Resolving loads a (refs₁ ++ refs₂) (ts₁ ++ ts₂) c where
  toFollows := h₁.toFollows.trans h₂.toFollows
  held := List.rel_append (h₁.held.imp fun _ _ h => h₂.more _ _ h) h₂.held
  longer k hk := by
    rw [h₂.longer k fun r hr => hk r (List.mem_append_right _ hr),
      h₁.longer k fun r hr => hk r (List.mem_append_left _ hr)]

theorem Resolving.kept {c : Catalogue} (h : Sound loads c) {r : TypeRef} {t : Descriptor}
    (ht : c.resolved.lookup r.key = some t) : Resolving loads c [r] [t] c where
  toFollows := Follows.refl h
  held := List.Forall₂.cons ht List.Forall₂.nil
  longer _ _ := rfl

/-- Keep the type that was made of resolved parts. -/
theorem Resolving.make {c d : Catalogue} {parts : List TypeRef} {ts : List Descriptor}
    (h : Resolving loads c parts ts d) {r : TypeRef} (hr : c.resolved.lookup r.key = none)
    (hp : ∀ p ∈ parts, p.key.length < r.key.length) {t : Descriptor} (ht : t.key = r.key)
    (hc : Current loads t) : Resolving loads c [r] [t] (keep r.key t d).2 where
  toFollows := by
    have hd : d.resolved.lookup r.key = none := by rw [h.longer r.key hp, hr]
    exact h.toFollows.trans (h.sound.keep hd ht hc)
  held := List.Forall₂.cons (lookup_assign_self d.resolved r.key t) List.Forall₂.nil
  longer k hk := by
    have hlen := hk r (List.mem_singleton_self r)
    have hne : k ≠ r.key := fun he => by rw [he] at hlen; omega
    rw [show (keep r.key t d).2.resolved = assign d.resolved r.key t from rfl,
      lookup_assign_of_ne _ hne]
    exact h.longer k fun p hm => (hp p hm).trans hlen

theorem Resolving.current {c d : Catalogue} {refs : List TypeRef} {ts : List Descriptor}
    (h : Resolving loads c refs ts d) : ∀ t ∈ ts, Current loads t := by
  have hall : ∀ t ∈ ts, ∃ r : TypeRef, d.resolved.lookup r.key = some t := by
    have hheld := h.held
    clear h
    induction hheld with
    | nil => exact fun t ht => absurd ht List.not_mem_nil
    | @cons r t refs ts hr _ ih =>
      intro t' ht'
      rcases List.mem_cons.mp ht' with rfl | ht'
      · exact ⟨r, hr⟩
      · exact ih t' ht'
  intro t ht
  obtain ⟨r, hr⟩ := hall t ht
  exact h.sound.resolved.current r.key t hr

theorem Resolving.eq_meanings {c d : Catalogue} {refs : List TypeRef} {ts : List Descriptor}
    (h : Resolving loads c refs ts d) : ts = refs.map (meaning d.resolved) := by
  have hheld := h.held
  clear h
  induction hheld with
  | nil => rfl
  | cons hr _ ih => rw [List.map_cons, ← ih, meaning_of_lookup hr]

theorem Resolving.keys {c d : Catalogue} {refs : List TypeRef} {ts : List Descriptor}
    (h : Resolving loads c refs ts d) : ts.map Descriptor.key = refs.map TypeRef.key := by
  rw [h.eq_meanings, List.map_map]
  exact List.map_congr_left fun r _ => h.sound.resolved.key_meaning r

theorem Resolving.holds {c d : Catalogue} {refs : List TypeRef} {ts : List Descriptor}
    (h : Resolving loads c refs ts d) : ∀ r ∈ refs, Holds d.resolved r := by
  have hheld := h.held
  clear h
  induction hheld with
  | nil => exact fun r hr => absurd hr List.not_mem_nil
  | @cons r t refs ts hr _ ih =>
    intro r' hr'
    rcases List.mem_cons.mp hr' with rfl | hr'
    · exact ⟨t, hr⟩
    · exact ih r' hr'

mutual

theorem resolving_resolve : ∀ (r : TypeRef) {c : Catalogue}, Sound loads c →
    Resolving loads c [r] [(resolve r c).1] (resolve r c).2
  | .named name, c, h => by
    rw [resolve, keptOr]
    split
    · rename_i t ht
      exact Resolving.kept (r := .named name) h ht
    · rename_i ht
      exact (Resolving.nil h).make (r := .named name) ht (fun p hp => absurd hp List.not_mem_nil) rfl
        (Current.leaf (h.resolved.get?_eq_none ht))
  | .array element unique, c, h => by
    rw [resolve, keptOr]
    split
    · rename_i t ht
      exact Resolving.kept (r := .array element unique) h ht
    · rename_i ht
      have he := resolving_resolve element h
      refine he.make (r := .array element unique) ht (fun p hp => ?_) rfl
        (Current.array ?_ (h.resolved.get?_eq_none ht) (he.current _ (List.mem_singleton_self _)))
      · rw [List.mem_singleton.mp hp]
        exact length_key_array element unique
      · rw [key_array, List.head_eq_of_cons_eq he.keys]
  | .generic origin args, c, h => by
    rw [resolve, keptOr]
    split
    · rename_i t ht
      exact Resolving.kept (r := .generic origin args) h ht
    · rename_i ht
      have ha := resolving_resolveAll args h
      exact ha.make (r := .generic origin args) ht (fun p hp => length_key_generic origin hp) rfl
        (Current.generic (by rw [key_generic, ha.keys]) (h.resolved.get?_eq_none ht) ha.current)

theorem resolving_resolveAll : ∀ (refs : List TypeRef) {c : Catalogue}, Sound loads c →
    Resolving loads c refs (resolveAll refs c).1 (resolveAll refs c).2
  | [], c, h => Resolving.nil h
  | r :: refs, c, h => by
    have hr := resolving_resolve r h
    have hrefs := resolving_resolveAll refs hr.sound
    rw [resolveAll]
    exact hr.append hrefs

end

end ModelReach.Catalogue
