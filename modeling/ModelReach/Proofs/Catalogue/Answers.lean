import ModelReach.Proofs.Catalogue.Growth

/-! Answers of a catalogue. What is asked of a catalogue changes it, since types are resolved and answers
settled on the way. Yet the answer is the one that the readings of all later catalogues give, so that a rule run
on the catalogue itself finds what it finds on the last reading. -/
namespace ModelReach.Catalogue
set_option autoImplicit false

variable {loads : List ModuleFacts} {α β : Type}

/-! ## Answers -/

/-- A question leaves a sound catalogue sound, and its answer is what any later catalogue shows. It resolves
written references only, and looks neither at failures nor at files. -/
structure Answers (loads : List ModuleFacts) (x : StateM Catalogue α) (y : Catalogue → Id α) : Prop where
  run : ∀ c, Sound loads c → Follows loads c (x c).2 ∧ ∀ d, Follows loads (x c).2 d → (y d).run = (x c).1
  resolves : ∀ c, Sound loads c → Resolves (written loads) c (x c).2
  unheeding : ∀ c, Sound loads c → Unheeding x c

theorem Answers.pure (a : α) : Answers loads (pure a) (fun _ => pure a) where
  run _ hc := ⟨Follows.refl hc, fun _ _ => rfl⟩
  resolves _ _ := Resolves.start
  unheeding c _ := Unheeding.pure a c

theorem Answers.sound {x : StateM Catalogue α} {y : Catalogue → Id α} (h : Answers loads x y) {c : Catalogue}
    (hc : Sound loads c) : Sound loads (x c).2 := (h.run c hc).1.sound

/-- The catalogue that a question leaves shows its answer. -/
theorem Answers.shown {x : StateM Catalogue α} {y : Catalogue → Id α} (h : Answers loads x y) {c : Catalogue}
    (hc : Sound loads c) : (y (x c).2).run = (x c).1 := (h.run c hc).2 _ (Follows.refl (h.sound hc))

/-- What comes next need only answer for what some sound catalogue shows. -/
theorem Answers.bind {x : StateM Catalogue α} {y : Catalogue → Id α} {f : α → StateM Catalogue β}
    {g : Catalogue → α → Id β} (hx : Answers loads x y)
    (hf : ∀ d, Sound loads d → Answers loads (f (y d).run) (fun e => g e (y d).run)) :
    Answers loads (x >>= f) (fun e => y e >>= g e) := by
  have hnext : ∀ c, Sound loads c → Answers loads (f (x c).1) (fun e => g e (x c).1) := by
    intro c hc
    have hf' := hf (x c).2 (hx.sound hc)
    rw [hx.shown hc] at hf'
    exact hf'
  refine ⟨fun c hc => ?_, fun c hc => ?_, fun c hc => ?_⟩
  · obtain ⟨hx₁, hx₂⟩ := hx.run c hc
    obtain ⟨hf₁, hf₂⟩ := (hnext c hc).run (x c).2 hx₁.sound
    refine ⟨hx₁.trans hf₁, fun d hd => ?_⟩
    have hy : (y d).run = (x c).1 := hx₂ d (hf₁.trans hd)
    change (g d (y d).run).run = (f (x c).1 (x c).2).1
    rw [hy]
    exact hf₂ d hd
  · exact (hx.resolves c hc).trans ((hnext c hc).resolves _ (hx.sound hc))
  · exact (hx.unheeding c hc).bind ((hnext c hc).unheeding _ (hx.sound hc))

theorem Answers.ite {p : Prop} [Decidable p] {x₁ x₂ : StateM Catalogue α} {y₁ y₂ : Catalogue → Id α}
    (h₁ : p → Answers loads x₁ y₁) (h₂ : ¬p → Answers loads x₂ y₂) :
    Answers loads (if p then x₁ else x₂) (fun c => if p then y₁ c else y₂ c) := by
  by_cases hp : p
  · simp only [if_pos hp]
    exact h₁ hp
  · simp only [if_neg hp]
    exact h₂ hp

theorem Answers.foldlM {f : β → α → StateM Catalogue β} {g : Catalogue → β → α → Id β} {l : List α}
    (h : ∀ b, ∀ a ∈ l, Answers loads (f b a) (fun c => g c b a)) (b : β) :
    Answers loads (l.foldlM f b) (fun c => l.foldlM (g c) b) := by
  induction l generalizing b with
  | nil => exact Answers.pure b
  | cons a l ih =>
    simp only [List.foldlM_cons]
    exact (h b a (List.mem_cons_self ..)).bind fun d _ =>
      ih (fun b' a' ha' => h b' a' (List.mem_cons_of_mem _ ha')) _

theorem Answers.mapM {f : α → StateM Catalogue β} {g : Catalogue → α → Id β} {l : List α}
    (h : ∀ a ∈ l, Answers loads (f a) (fun c => g c a)) :
    Answers loads (l.mapM f) (fun c => l.mapM (g c)) := by
  induction l with
  | nil => exact Answers.pure []
  | cons a l ih =>
    simp only [List.mapM_cons]
    exact (h a (List.mem_cons_self ..)).bind fun d _ =>
      (ih fun a' ha' => h a' (List.mem_cons_of_mem _ ha')).bind fun e _ => Answers.pure _

/-! ## Finding what is to be settled -/

/-- A search for the meanings of some references: it resolves them all, and its result depends on their
meanings alone. -/
structure Finds (loads : List ModuleFacts) (refs : List TypeRef) (x : StateM Catalogue α)
    (y : List (String × Descriptor) → α) : Prop where
  stable : ∀ a b, Extends a b → (∀ r ∈ refs, Holds a r) → y b = y a
  run : ∀ c, Sound loads c → Follows loads c (x c).2 ∧ (∀ r ∈ refs, Holds (x c).2.resolved r) ∧
    (x c).1 = y (x c).2.resolved
  resolves : ∀ c, Resolves refs c (x c).2
  unheeding : ∀ c, Unheeding x c

theorem Finds.pure (a : α) : Finds loads [] (pure a) (fun _ => a) where
  stable _ _ _ _ := rfl
  run _ hc := ⟨Follows.refl hc, fun _ hr => absurd hr List.not_mem_nil, rfl⟩
  resolves _ := Resolves.start
  unheeding := Unheeding.pure a

theorem Finds.bind {refs₁ refs₂ : List TypeRef} {x : StateM Catalogue α}
    {y : List (String × Descriptor) → α} {f : α → StateM Catalogue β}
    {z : α → List (String × Descriptor) → β} (hx : Finds loads refs₁ x y)
    (hf : ∀ a, Finds loads refs₂ (f a) (z a)) :
    Finds loads (refs₁ ++ refs₂) (x >>= f) (fun table => z (y table) table) where
  stable a b h hr := by
    rw [hx.stable a b h fun r hm => hr r (List.mem_append_left _ hm)]
    exact (hf (y a)).stable a b h fun r hm => hr r (List.mem_append_right _ hm)
  run c hc := by
    obtain ⟨hx₁, hx₂, hx₃⟩ := hx.run c hc
    obtain ⟨hf₁, hf₂, hf₃⟩ := (hf (x c).1).run (x c).2 hx₁.sound
    have hy : y (f (x c).1 (x c).2).2.resolved = (x c).1 := by
      rw [hx.stable _ _ hf₁.more hx₂, ← hx₃]
    refine ⟨hx₁.trans hf₁, fun r hr => ?_, ?_⟩
    · rcases List.mem_append.mp hr with hr | hr
      · exact (hx₂ r hr).mono hf₁.more
      · exact hf₂ r hr
    · change (f (x c).1 (x c).2).1 = z (y (f (x c).1 (x c).2).2.resolved) (f (x c).1 (x c).2).2.resolved
      rw [hy]
      exact hf₃
  resolves c := ((hx.resolves c).mono (List.subset_append_left ..)).trans
    (((hf (x c).1).resolves (x c).2).mono (List.subset_append_right ..))
  unheeding c := (hx.unheeding c).bind ((hf (x c).1).unheeding (x c).2)

theorem Finds.mapM {f : α → StateM Catalogue β} {refs : α → List TypeRef}
    {y : α → List (String × Descriptor) → β} (h : ∀ a, Finds loads (refs a) (f a) (y a))
    (l : List α) :
    Finds loads (l.flatMap refs) (l.mapM f) (fun table => l.map fun a => y a table) := by
  induction l with
  | nil => exact Finds.pure []
  | cons a l ih =>
    rw [List.mapM_cons, List.flatMap_cons]
    have hrest : ∀ b, Finds loads _ _ _ := fun b => ih.bind fun bs => Finds.pure (b :: bs)
    simp only [List.append_nil] at hrest
    exact (h a).bind hrest

theorem finds_resolve (loads : List ModuleFacts) (r : TypeRef) : Finds loads [r] (resolve r) (fun table => meaning table r) where
  stable a b h hr := (hr r (List.mem_singleton_self r)).meaning_eq h
  run c hc := by
    have h := resolving_resolve r hc
    refine ⟨h.toFollows, h.holds, ?_⟩
    have he := h.eq_meanings
    rw [List.map_singleton] at he
    exact List.cons.inj he |>.1
  resolves := resolves_resolve r
  unheeding := unheeding_resolve r

theorem finds_resolveAll (loads : List ModuleFacts) (refs : List TypeRef) :
    Finds loads refs (resolveAll refs) (fun table => refs.map (meaning table)) where
  stable a b h hr := List.map_congr_left fun r hm => (hr r hm).meaning_eq h
  run c hc := by
    have h := resolving_resolveAll refs hc
    exact ⟨h.toFollows, h.holds, h.eq_meanings⟩
  resolves := resolves_resolveAll refs
  unheeding := unheeding_resolveAll refs

theorem finds_resolveOption (loads : List ModuleFacts) (r : Option TypeRef) :
    Finds loads r.toList (resolveOption r) (fun table => r.map (meaning table)) := by
  cases r with
  | none => exact Finds.pure none
  | some r =>
    have h := (finds_resolve loads r).bind fun t => Finds.pure (some t)
    rw [List.append_nil] at h
    exact h

theorem finds_resolveBases (loads : List ModuleFacts) (facts : ClassFacts) :
    Finds loads (baseRefs facts) (resolveBases facts)
      (fun table => basesIn table facts) := by
  have h := finds_resolveAll loads ((baseNames facts).map TypeRef.named)
  simp only [List.map_map] at h
  exact h

theorem finds_resolveProperty (loads : List ModuleFacts) (p : PropertyFacts) :
    Finds loads [p.type] (resolveProperty p) (fun table => propertyIn table p) :=
  (finds_resolve loads p.type).bind fun _ => Finds.pure _

theorem finds_resolveParameter (loads : List ModuleFacts) (p : ParameterFacts) :
    Finds loads p.type.toList (resolveParameter p) (fun table => parameterIn table p) := by
  have h := (finds_resolveOption loads p.type).bind fun t =>
    Finds.pure (⟨p.name, t, p.tags⟩ : MethodParameter)
  rw [List.append_nil] at h
  exact h

theorem finds_resolveMethod (loads : List ModuleFacts) (f : MethodFacts) :
    Finds loads (f.returns.toList ++ f.parameters.flatMap fun p => p.type.toList) (resolveMethod f)
      (fun table => methodIn table f) := by
  have h := (finds_resolveOption loads f.returns).bind fun r =>
    (Finds.mapM (finds_resolveParameter loads) f.parameters).bind fun ps =>
      Finds.pure (⟨f.name, r, ps⟩ : Method)
  rw [List.append_nil] at h
  exact h

/-! ## Settled answers -/

theorem Sound.tied_settledAt {c : Catalogue} (h : Sound loads c) {n : Nat} {facts : ClassFacts}
    (hf : (classesIn loads)[n]? = some facts) : Tied loads c.resolved facts (c.settledAt n) := by
  have hlen : n < c.settled.length := by
    rw [h.size]
    exact (List.getElem?_eq_some_iff.mp hf).1
  have hs : c.settled[n]? = some c.settled[n] := List.getElem?_eq_getElem hlen
  rw [settledAt, hs, Option.getD_some]
  exact h.tied n facts _ hf hs

/-- What is settled by the first question goes on to be the answer, if it agrees with the resolved types. -/
theorem answers_settledOr {n : Nat} {facts : ClassFacts} (hf : (classesIn loads)[n]? = some facts)
    {get : Settled → Option α} {set : α → Settled → Settled} {find : StateM Catalogue α}
    {y : Catalogue → Id α} (hfind : Answers loads find y)
    (hget : ∀ c d a s, Sound loads c → Tied loads c.resolved facts s → get s = some a →
      Follows loads c d → (y d).run = a)
    (hset : ∀ c s, Sound loads c → Tied loads (find c).2.resolved facts s →
      Tied loads (find c).2.resolved facts (set (find c).1 s)) :
    Answers loads (settledOr n get set find) y where
  run c hc := by
    rw [settledOr]
    split
    · rename_i a ha
      exact ⟨Follows.refl hc, fun d hd => hget c d a _ hc (hc.tied_settledAt hf) ha hd⟩
    · obtain ⟨hf₁, hf₂⟩ := hfind.run c hc
      have hs : Follows loads (find c).2 (settle n (set (find c).1) (find c).2).2 :=
        hf₁.sound.settle hf fun s h => hset c s hc h
      exact ⟨hf₁.trans hs, fun d hd => hf₂ d (hs.trans hd)⟩
  resolves c hc := by
    rw [settledOr]
    split
    · exact Resolves.start
    · exact (hfind.resolves c hc).same rfl
  unheeding c hc := unheeding_settledOr (hfind.unheeding c hc)

theorem Finds.answers {refs : List TypeRef} {x : StateM Catalogue α}
    {y : List (String × Descriptor) → α} (h : Finds loads refs x y) (hr : refs ⊆ written loads) :
    Answers loads x (fun c => Pure.pure (y c.resolved)) where
  run c hc := by
    obtain ⟨h₁, h₂, h₃⟩ := h.run c hc
    refine ⟨h₁, fun d hd => ?_⟩
    rw [h₃]
    exact h.stable _ _ hd.more h₂
  resolves c _ := (h.resolves c).mono hr
  unheeding c _ := h.unheeding c

theorem answers_bases {t : Descriptor} (ht : Known loads t) :
    Answers loads (bases t) (fun c => c.lineageReading.bases t) := by
  cases t with
  | declared n facts =>
    have hfinds := (finds_resolveBases loads facts).answers (baseRefs_subset (ht n facts rfl))
    refine answers_settledOr (ht n facts rfl) hfinds (fun c d a s _ hs ha hd => ?_) (fun c s hc hs => ?_)
    · obtain ⟨rfl, hn⟩ := hs.bases a ha
      exact meanings_stable hd.more facts hn
    · obtain ⟨_, h₂, h₃⟩ := (finds_resolveBases loads facts).run c hc
      exact ⟨fun a ha => by
        cases ha
        exact ⟨h₃, fun name hn => h₂ _ (List.mem_map_of_mem hn)⟩, hs.properties, hs.methods, hs.kind⟩
  | leaf _ => exact Answers.pure []
  | array _ _ _ => exact Answers.pure []
  | generic _ _ _ => exact Answers.pure []

theorem answers_properties {t : Descriptor} (ht : Known loads t) :
    Answers loads (properties t) (fun c => c.reading.properties t) := by
  cases t with
  | declared n facts =>
    have hfinds := Finds.mapM (finds_resolveProperty loads) facts.properties
    refine answers_settledOr (ht n facts rfl) (hfinds.answers (propertyRefs_subset (ht n facts rfl)))
      (fun c d a s _ hs ha hd => ?_) (fun c s hc hs => ?_)
    · obtain ⟨rfl, hp⟩ := hs.properties a ha
      exact properties_stable hd.more hp
    · obtain ⟨_, h₂, h₃⟩ := hfinds.run c hc
      exact ⟨hs.bases, fun a ha => by
        cases ha
        exact ⟨h₃, fun p hp => h₂ _ (List.mem_flatMap.mpr ⟨p, hp, List.mem_singleton_self _⟩)⟩,
        hs.methods, hs.kind⟩
  | leaf _ => exact Answers.pure []
  | array _ _ _ => exact Answers.pure []
  | generic _ _ _ => exact Answers.pure []

theorem answers_methods {t : Descriptor} (ht : Known loads t) :
    Answers loads (methods t) (fun c => c.reading.methods t) := by
  cases t with
  | declared n facts =>
    have hfinds := Finds.mapM (finds_resolveMethod loads) facts.methods
    refine answers_settledOr (ht n facts rfl) (hfinds.answers (methodRefs_subset (ht n facts rfl)))
      (fun c d a s _ hs ha hd => ?_) (fun c s hc hs => ?_)
    · obtain ⟨rfl, hm⟩ := hs.methods a ha
      exact List.map_congr_left fun f hf => method_stable hd.more (hm f hf).1 (hm f hf).2
    · obtain ⟨_, h₂, h₃⟩ := hfinds.run c hc
      exact ⟨hs.bases, hs.properties, fun a ha => by
        cases ha
        refine ⟨h₃, fun f hf => ⟨fun r hr => ?_, fun p hp r hr => ?_⟩⟩
        · exact h₂ r (List.mem_flatMap.mpr ⟨f, hf, List.mem_append_left _ (Option.mem_toList.mpr hr)⟩)
        · exact h₂ r (List.mem_flatMap.mpr ⟨f, hf, List.mem_append_right _
            (List.mem_flatMap.mpr ⟨p, hp, Option.mem_toList.mpr hr⟩)⟩), hs.kind⟩
  | leaf _ => exact Answers.pure []
  | array _ _ _ => exact Answers.pure []
  | generic _ _ _ => exact Answers.pure []

/-! ## Ancestors and kinds -/

theorem answers_edgeBound :
    Answers loads lineage.edgeBound (fun c => c.lineageReading.edgeBound) where
  run _ hc := ⟨Follows.refl hc, fun _ hd => hd.sound.edges.trans hc.edges.symm⟩
  resolves _ _ := Resolves.start
  unheeding _ _ _ _ := rfl

theorem answers_visitBases (rounds : Nat) (seen : List String) (done queue : List Descriptor)
    (hq : ∀ t ∈ queue, Known loads t) :
    Answers loads (lineage.visitBases rounds seen done queue)
      (fun c => c.lineageReading.visitBases rounds seen done queue) := by
  induction rounds generalizing seen done queue with
  | zero => exact Answers.pure _
  | succ rounds ih =>
    cases queue with
    | nil => exact Answers.pure _
    | cons base queue =>
      have hrest : ∀ t ∈ queue, Known loads t := fun t ht => hq t (List.mem_cons_of_mem _ ht)
      simp only [Lineage.visitBases]
      refine Answers.ite (fun _ => ih _ _ _ hrest) fun _ => ?_
      refine (answers_bases (hq base (List.mem_cons_self ..))).bind fun d hd => ih _ _ _ fun t ht => ?_
      rcases List.mem_append.mp ht with ht | ht
      · exact hrest t ht
      · exact (current_of_mem_bases hd.resolved ht).known

theorem answers_ancestors {t : Descriptor} (ht : Known loads t) :
    Answers loads (lineage.ancestors t) (fun c => c.lineageReading.ancestors t) :=
  (answers_bases ht).bind fun d hd => answers_edgeBound.bind fun e he => by
    rw [show (e.lineageReading.edgeBound).run = (loaded loads).edges from he.edges]
    exact answers_visitBases _ _ _ _ fun b hb => (current_of_mem_bases hd.resolved hb).known

theorem answers_implements {t : Descriptor} (ht : Known loads t) (names : List String) :
    Answers loads (lineage.implements t names) (fun c => c.lineageReading.implements t names) :=
  (answers_ancestors ht).bind fun _ _ => Answers.pure _

theorem answers_isStrictSubtype {t : Descriptor} (ht : Known loads t) (base : Descriptor) :
    Answers loads (lineage.isStrictSubtype t base)
      (fun c => c.lineageReading.isStrictSubtype t base) := by
  simp only [Lineage.isStrictSubtype]
  exact Answers.ite (fun _ => Answers.pure false) fun _ =>
    (answers_ancestors ht).bind fun _ _ => Answers.pure _

theorem answers_classify {t : Descriptor} (ht : Known loads t) :
    Answers loads (lineage.classify t) (fun c => c.lineageReading.classify t) := by
  simp only [Lineage.classify]
  exact (answers_bases ht).bind fun _ _ => Answers.ite (fun _ => Answers.pure _) fun _ =>
    (answers_ancestors ht).bind fun _ _ => Answers.pure _

theorem answers_kind {t : Descriptor} (ht : Known loads t) :
    Answers loads (kind t) (fun c => c.reading.kind t) := by
  cases t with
  | declared n facts =>
    have hclassify := answers_classify ht
    refine answers_settledOr (ht n facts rfl) hclassify (fun c d k s _ hs hk hd => ?_)
      (fun c s hc hs => ?_)
    · rw [hs.kind k hk]
      exact run_classify hd.sound.resolved hd.sound.edges n facts
    · have hsound := hclassify.sound hc
      refine ⟨hs.bases, hs.properties, hs.methods, fun k hk => ?_⟩
      cases hk
      rw [← hclassify.shown hc]
      exact run_classify hsound.resolved hsound.edges n facts
  | leaf _ => exact Answers.pure _
  | array _ _ _ => exact Answers.pure _
  | generic _ _ _ => exact Answers.pure _

end ModelReach.Catalogue
