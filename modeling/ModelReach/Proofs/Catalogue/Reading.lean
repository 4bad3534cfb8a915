import ModelReach.Proofs.Ancestry.Names
import ModelReach.Proofs.Catalogue.Meaning

/-! What a catalogue shows without being changed: bases, properties, methods and kinds of types, as the types
resolved so far have them. Ancestors and kinds depend on the names of bases alone. -/
namespace ModelReach.Catalogue
set_option autoImplicit false

/-! ## Readings -/

def basesIn (table : List (String × Descriptor)) (facts : ClassFacts) : List Descriptor :=
  (baseNames facts).map fun name => meaning table (.named name)

def propertyIn (table : List (String × Descriptor)) (p : PropertyFacts) : Property :=
  ⟨p.name, meaning table p.type, p.hasDefault, p.tags⟩

def parameterIn (table : List (String × Descriptor)) (p : ParameterFacts) : MethodParameter :=
  ⟨p.name, p.type.map (meaning table), p.tags⟩

def methodIn (table : List (String × Descriptor)) (f : MethodFacts) : Method :=
  ⟨f.name, f.returns.map (meaning table), f.parameters.map (parameterIn table)⟩

/-- The base types as the types resolved so far show them. -/
def lineageReading (c : Catalogue) : Lineage Id where
  bases
    | .declared _ facts => pure (basesIn c.resolved facts)
    | _ => pure []
  edgeBound := pure c.edges

/-- All that is known about types as the types resolved so far show it. -/
def reading (c : Catalogue) : View Id where
  toLineage := c.lineageReading
  properties
    | .declared _ facts => pure (facts.properties.map (propertyIn c.resolved))
    | _ => pure []
  methods
    | .declared _ facts => pure (facts.methods.map (methodIn c.resolved))
    | _ => pure []
  kind
    | .declared n facts => c.lineageReading.classify (.declared n facts)
    | .leaf form => pure (if form.form = .primitive then .primitive else .other)
    | .array _ _ _ => pure .array
    | .generic _ _ _ => pure .generic
  moduleTypes module := pure (c.classesOf module)
  classBound := pure c.settled.length

/-! ## Kinds by name -/

/-- The names above a class, nearest first. -/
def namesAbove (loads : List ModuleFacts) (facts : ClassFacts) : List String :=
  visitNames (nextNames loads) ((baseNames facts).length + (loaded loads).edges + 1)
    [facts.qualifiedName] [] (baseNames facts)

/-- The kind of a class, by the names above it. -/
def kindOf (loads : List ModuleFacts) (facts : ClassFacts) : Kind :=
  if (baseNames facts).any interfaceBases.contains then .interface
  else if (namesAbove loads facts).any enumBases.contains then .enum else .ofClass

variable {loads : List ModuleFacts}

theorem map_key_basesIn {table : List (String × Descriptor)} (h : Resolved loads table)
    (facts : ClassFacts) : (basesIn table facts).map Descriptor.key = baseNames facts := by
  rw [basesIn, List.map_map]
  conv => rhs; rw [← List.map_id (baseNames facts)]
  apply List.map_congr_left
  intro name _
  exact h.key_meaning (.named name)

theorem current_of_mem_basesIn {table : List (String × Descriptor)} (h : Resolved loads table)
    {facts : ClassFacts} {b : Descriptor} (hb : b ∈ basesIn table facts) : Current loads b := by
  obtain ⟨name, _, rfl⟩ := List.mem_map.mp hb
  exact h.current_meaning (.named name)

theorem current_of_mem_bases {c : Catalogue} (h : Resolved loads c.resolved) {t b : Descriptor}
    (hb : b ∈ (c.lineageReading.bases t).run) : Current loads b := by
  cases t with
  | declared n facts => exact current_of_mem_basesIn h hb
  | leaf _ => cases hb
  | array _ _ _ => cases hb
  | generic _ _ _ => cases hb

theorem map_key_bases {c : Catalogue} (h : Resolved loads c.resolved) {t : Descriptor}
    (ht : Current loads t) :
    (c.lineageReading.bases t).run.map Descriptor.key = nextNames loads t.key := by
  rw [nextNames_eq]
  cases ht with
  | @declared n facts hg =>
    rw [show (Descriptor.declared n facts).key = facts.qualifiedName from rfl, hg]
    exact map_key_basesIn h facts
  | @leaf name hg =>
    rw [show (leafOfName name).key = name from rfl, hg]
    rfl
  | @array key _ unique _ hg _ =>
    rw [show (Descriptor.array key _ unique).key = key from rfl, hg]
    rfl
  | @generic key origin _ _ hg _ =>
    rw [show (Descriptor.generic key origin _).key = key from rfl, hg]
    rfl

/-- Visiting bases is visiting their names. -/
theorem map_key_visitBases {c : Catalogue} (h : Resolved loads c.resolved) (rounds : Nat)
    (seen : List String) (done queue : List Descriptor) (hq : ∀ t ∈ queue, Current loads t) :
    (c.lineageReading.visitBases rounds seen done queue).run.map Descriptor.key =
      visitNames (nextNames loads) rounds seen (done.map Descriptor.key)
        (queue.map Descriptor.key) := by
  induction rounds generalizing seen done queue with
  | zero => exact List.map_reverse
  | succ rounds ih =>
    cases queue with
    | nil => exact List.map_reverse
    | cons base queue =>
      have hrest : ∀ t ∈ queue, Current loads t := fun t ht => hq t (List.mem_cons_of_mem _ ht)
      have hbase : Current loads base := hq base (List.mem_cons_self ..)
      rw [List.map_cons, visitNames, Lineage.visitBases]
      by_cases hs : seen.contains base.key = true
      · rw [if_pos hs, if_pos hs]
        exact ih seen done queue hrest
      · rw [if_neg hs, if_neg hs, ← map_key_bases h hbase, ← List.map_append, ← List.map_cons,
          ← ih _ _ _ (fun t ht => ?_)]
        · rfl
        · rcases List.mem_append.mp ht with ht | ht
          · exact hrest t ht
          · exact current_of_mem_bases h ht

theorem map_key_ancestors {c : Catalogue} (h : Resolved loads c.resolved)
    (he : c.edges = (loaded loads).edges) (n : Nat) (facts : ClassFacts) :
    (c.lineageReading.ancestors (.declared n facts)).run.map Descriptor.key =
      namesAbove loads facts := by
  have hv := map_key_visitBases h ((basesIn c.resolved facts).length + c.edges + 1)
    [facts.qualifiedName] [] (basesIn c.resolved facts) (fun t ht => current_of_mem_basesIn h ht)
  rw [map_key_basesIn h, List.map_nil, he] at hv
  rw [namesAbove, ← map_key_basesIn h facts, List.length_map, map_key_basesIn h, ← hv, ← he]
  rfl

theorem any_qualifiedName {l : List Descriptor} (h : ∀ t ∈ l, t.qualifiedName = t.key)
    (p : String → Bool) : (l.any fun t => p t.qualifiedName) = (l.map Descriptor.key).any p := by
  rw [List.any_map]
  apply Bool.eq_iff_iff.mpr
  rw [List.any_eq_true, List.any_eq_true]
  constructor
  · rintro ⟨t, ht, hp⟩
    exact ⟨t, ht, by rw [Function.comp_apply, ← h t ht]; exact hp⟩
  · rintro ⟨t, ht, hp⟩
    exact ⟨t, ht, by rw [h t ht]; exact hp⟩

theorem current_of_mem_visitBases {c : Catalogue} (h : Resolved loads c.resolved) (rounds : Nat)
    (seen : List String) (done queue : List Descriptor) (hd : ∀ t ∈ done, Current loads t)
    (hq : ∀ t ∈ queue, Current loads t) :
    ∀ t ∈ (c.lineageReading.visitBases rounds seen done queue).run, Current loads t := by
  induction rounds generalizing seen done queue with
  | zero => exact fun t ht => hd t (List.mem_reverse.mp ht)
  | succ rounds ih =>
    cases queue with
    | nil => exact fun t ht => hd t (List.mem_reverse.mp ht)
    | cons base queue =>
      have hrest : ∀ t ∈ queue, Current loads t := fun t ht => hq t (List.mem_cons_of_mem _ ht)
      rw [Lineage.visitBases]
      split
      · exact ih seen done queue hd hrest
      · refine ih _ _ _ (fun t ht => ?_) (fun t ht => ?_)
        · rcases List.mem_cons.mp ht with rfl | ht
          · exact hq _ (List.mem_cons_self ..)
          · exact hd t ht
        · rcases List.mem_append.mp ht with ht | ht
          · exact hrest t ht
          · exact current_of_mem_bases h ht

theorem current_of_mem_ancestors {c : Catalogue} (h : Resolved loads c.resolved) {t a : Descriptor}
    (ha : a ∈ (c.lineageReading.ancestors t).run) : Current loads a :=
  current_of_mem_visitBases h _ _ [] _ (fun _ ht => absurd ht List.not_mem_nil)
    (fun _ hb => current_of_mem_bases h hb) a ha

theorem run_classify {c : Catalogue} (h : Resolved loads c.resolved)
    (he : c.edges = (loaded loads).edges) (n : Nat) (facts : ClassFacts) :
    (c.lineageReading.classify (.declared n facts)).run = kindOf loads facts := by
  have hbases := any_qualifiedName (l := basesIn c.resolved facts)
    (fun t ht => (current_of_mem_basesIn h ht).qualifiedName_eq) interfaceBases.contains
  have habove := any_qualifiedName (l := (c.lineageReading.ancestors (.declared n facts)).run)
    (fun t ht => (current_of_mem_ancestors h ht).qualifiedName_eq) enumBases.contains
  rw [map_key_basesIn h] at hbases
  rw [map_key_ancestors h he] at habove
  rw [kindOf, ← hbases, ← habove]
  change Id.run (if (basesIn c.resolved facts).any (fun b => interfaceBases.contains b.qualifiedName) then
    pure Kind.interface else _) = _
  split <;> rfl

end ModelReach.Catalogue
