import ModelReach.Proofs.Inheritance.Order

/-! What is asked of a catalogue on the way through the classes above one: the properties of each of them. The rounds
that a question is given suffice: with more it would go on alike. -/
namespace ModelReach.Catalogue
set_option autoImplicit false

variable {loads : List ModuleFacts} {t : Descriptor}

/-! ## Steps -/

theorem answers_inheritStep (n : Nat) (acc : List Property × List String) {b : Descriptor} (hb : Known loads b) :
    Answers loads (inheritStep view n acc b) (fun c => inheritStep c.reading n acc b) :=
  Answers.ite (fun _ => (answers_inherited n acc.2 hb).bind fun _ _ => Answers.pure _) fun _ => Answers.pure _

theorem answers_inheritSteps (n : Nat) (acc : List Property × List String) {bs : List Descriptor}
    (hbs : ∀ b ∈ bs, Known loads b) :
    Answers loads (bs.foldlM (inheritStep view n) acc) (fun c => bs.foldlM (inheritStep c.reading n) acc) :=
  Answers.foldlM (fun acc b hb => answers_inheritStep n acc (hbs b hb)) acc

theorem answers_inheritOwn (acc : List Property × List String) {u : Descriptor} (hu : Known loads u) :
    Answers loads (view.properties u >>= fun own => pure (mergeProperties acc.1 own, acc.2))
      (fun c => c.reading.properties u >>= fun own => pure (mergeProperties acc.1 own, acc.2)) :=
  (answers_properties hu).bind fun _ _ => Answers.pure _

/-- What comes after the bases of a class are known. -/
theorem answers_inheritRest (n : Nat) (seen : List String) {u : Descriptor} (hu : Known loads u)
    {bs : List Descriptor} (hbs : ∀ b ∈ bs, Known loads b) :
    Answers loads (bs.reverse.foldlM (inheritStep view n) ([], seen) >>= fun acc =>
        view.properties u >>= fun own => pure (mergeProperties acc.1 own, acc.2))
      (fun c => bs.reverse.foldlM (inheritStep c.reading n) ([], seen) >>= fun acc =>
        c.reading.properties u >>= fun own => pure (mergeProperties acc.1 own, acc.2)) :=
  (answers_inheritSteps n _ fun b hb => hbs b (List.mem_reverse.mp hb)).bind fun _ _ => answers_inheritOwn _ hu

theorem known_of_mem_bases {c : Catalogue} (hc : Sound loads c) (u : Descriptor) :
    ∀ b ∈ (c.reading.bases u).run, Known loads b := fun _ hb => (current_of_mem_bases hc.resolved hb).known

/-! ## Properties asked on the way -/

/-- All properties of the classes whose names were opened have been asked for. -/
def AskedAll (loads : List ModuleFacts) (t : Descriptor) (d : Catalogue) (s : Opened) : Prop :=
  ∀ k ∈ s.done, ∀ w ∈ seenFrom loads t k, Asked loads (view.properties w) d

section Asked
variable {d : Catalogue} (ht : Registered loads t)
include ht

theorem askedAll_step {n : Nat} {s : Opened} {b : Descriptor} (hb : Current loads b) (hself : t.key ∈ s.seen)
    (ih : ∀ {seen : List String} {u : Descriptor}, Entering loads t seen u →
      Asked loads (view.inherited n seen u) d →
        AskedAll loads t d (openName (classNamesFrom loads t) n ⟨seen, []⟩ u.key))
    (hs : AskedAll loads t d s)
    (hasked : Asked loads (inheritStep view n (gathered loads t d.reading s) b) d) :
    AskedAll loads t d
      (if (seenFrom loads t b.key).isSome = true then openName (classNamesFrom loads t) n s b.key else s) := by
  rw [isSome_seenFrom_key ht hb]
  split
  · rename_i hd
    by_cases hseen : b.key ∈ s.seen
    · rw [openName_of_mem n hseen]
      exact hs
    · have hnot : (!(gathered loads t d.reading s).2.contains b.key) = true := by
        rw [Bool.not_eq_true', ← Bool.not_eq_true, List.contains_iff_mem]
        exact hseen
      rw [inheritStep, hd, hnot, Bool.true_and, if_pos rfl] at hasked
      have hbase := ih (Entering.base hb hd hself hseen)
        (hasked.first (answers_inherited n _ hb.known) fun _ _ => ⟨_, Answers.pure _⟩)
      have hdone : openName (classNamesFrom loads t) n s b.key = _ := openName_done n s.seen s.done b.key
      rw [hdone]
      intro k hk
      exact (List.mem_append.mp hk).elim (hs k) (hbase k)
  · exact hs

theorem askedAll_steps (hd : Sound loads d) {n : Nat} {seen : List String} {bs : List Descriptor}
    (hbs : ∀ b ∈ bs, Current loads b) (hself : t.key ∈ seen)
    (ih : ∀ {seen : List String} {u : Descriptor}, Entering loads t seen u →
      Asked loads (view.inherited n seen u) d →
        AskedAll loads t d (openName (classNamesFrom loads t) n ⟨seen, []⟩ u.key))
    (hasked : Asked loads (bs.reverse.foldlM (inheritStep view n) ([], seen)) d) :
    AskedAll loads t d (openBases loads t n bs ⟨seen, []⟩) := by
  induction bs with
  | nil => exact fun k hk => absurd hk List.not_mem_nil
  | cons b bs ihbs =>
    have hb : Current loads b := hbs b (List.mem_cons_self ..)
    have hrest : ∀ b ∈ bs, Current loads b := fun b' hb' => hbs b' (List.mem_cons_of_mem b hb')
    have hknown : ∀ b ∈ bs.reverse, Known loads b := fun b' hb' => (hrest b' (List.mem_reverse.mp hb')).known
    have hlast : ∀ acc, Answers loads ([b].foldlM (inheritStep view n) acc)
        (fun c => [b].foldlM (inheritStep c.reading n) acc) := fun acc =>
      answers_inheritSteps n acc fun b' hb' => by
        rw [List.mem_singleton.mp hb']
        exact hb.known
    have hfold := foldlM_gathered (c := d) (n := n) (s := ⟨seen, []⟩) ht hrest hself fun _ _ hb =>
      inherited_gathered hd ht n hb
    rw [List.reverse_cons, List.foldlM_append] at hasked
    have hbefore := hasked.first (answers_inheritSteps n _ hknown) fun _ _ => ⟨_, hlast _⟩
    have hstep := hasked.second (answers_inheritSteps n _ hknown) fun _ _ => ⟨_, hlast _⟩
    rw [show (bs.reverse.foldlM (inheritStep d.reading n) ([], seen)).run = _ from hfold, List.foldlM_cons] at hstep
    rw [openBases_cons]
    exact askedAll_step ht hb (seen_subset_openBases n bs ⟨seen, []⟩ hself) ih (ihbs hrest hbefore)
      (hstep.first (answers_inheritStep n _ hb.known) fun _ _ => ⟨_, Answers.pure _⟩)

theorem askedAll_inherited (hd : Sound loads d) (n : Nat) {seen : List String} {u : Descriptor}
    (h : Entering loads t seen u) (hasked : Asked loads (view.inherited n seen u) d) :
    AskedAll loads t d (openName (classNamesFrom loads t) n ⟨seen, []⟩ u.key) := by
  induction n generalizing seen u with
  | zero => exact fun k hk => absurd hk List.not_mem_nil
  | succ n ih =>
    have hu : Known loads u := (registered_of_seenFrom ht h.stands).known
    have hbases := known_of_mem_bases hd u
    rw [inherited_succ] at hasked
    have hrest := hasked.second (answers_bases hu) fun e he =>
      ⟨_, answers_inheritRest n (u.key :: seen) hu (known_of_mem_bases he u)⟩
    have hreverse : ∀ b ∈ (d.reading.bases u).run.reverse, Known loads b := fun b hb =>
      hbases b (List.mem_reverse.mp hb)
    have hsteps := answers_inheritSteps n ([], u.key :: seen) hreverse
    have habove := askedAll_steps ht hd (fun _ hb => current_of_mem_bases hd.resolved hb) h.self ih
      (hrest.first hsteps fun _ _ => ⟨_, answers_inheritOwn _ hu⟩)
    have hown := (hrest.second hsteps fun _ _ => ⟨_, answers_inheritOwn _ hu⟩).first (answers_properties hu)
      fun _ _ => ⟨_, Answers.pure _⟩
    rw [openName_of_notMem n h.fresh, ← openBases_bases hd ht h.stands]
    intro k hk w hw
    rcases List.mem_append.mp hk with hk | hk
    · exact habove k hk w hw
    · rw [List.mem_singleton.mp hk, h.stands, Option.mem_some_iff] at hw
      rw [← hw]
      exact hown

end Asked

/-! ## Rounds -/

theorem bind_apply {σ α β : Type} (x : StateM σ α) (f : α → StateM σ β) (s : σ) :
    (x >>= f) s = f (x s).1 (x s).2 := rfl

/-- Two folds whose steps agree as long as something holds, which the steps keep, agree. -/
theorem foldlM_congr_while {σ α β : Type} {f g : β → α → StateM σ β} {P : β → σ → Prop} {l : List α}
    (h : ∀ a ∈ l, ∀ b s, P b s → f b a s = g b a s ∧ P (g b a s).1 (g b a s).2) {b : β} {s : σ} (hP : P b s) :
    l.foldlM f b s = l.foldlM g b s := by
  induction l generalizing b s with
  | nil => rfl
  | cons a l ih =>
    obtain ⟨hstep, hkeeps⟩ := h a (List.mem_cons_self ..) b s hP
    rw [List.foldlM_cons, List.foldlM_cons]
    change l.foldlM f (f b a s).1 (f b a s).2 = l.foldlM g (g b a s).1 (g b a s).2
    rw [hstep]
    exact ih (fun a' ha' => h a' (List.mem_cons_of_mem a ha')) hkeeps

section Rounds
variable {c : Catalogue} (ht : Registered loads t)
include ht

/-- What was seen before is seen after. -/
theorem seen_subset_inherited (hc : Sound loads c) (n : Nat) {seen : List String} {u : Descriptor}
    (h : Entering loads t seen u) : seen ⊆ (view.inherited n seen u c).1.2 := by
  have hanswers := answers_inherited n seen (registered_of_seenFrom ht h.stands).known
  rw [← hanswers.shown hc, inherited_gathered (hanswers.sound hc) ht n h]
  exact (before_openName n ⟨seen, []⟩ u.key).seen

/-- A question about a class with as many rounds as there are classes left goes on alike with one more. -/
theorem inherited_succ_eq (hc : Sound loads c) {n : Nat} {seen : List String} {u : Descriptor}
    (h : Entering loads t seen u) (hn : unseen (classNames loads) seen ≤ n) :
    view.inherited (n + 1) seen u c = view.inherited n seen u c := by
  induction n generalizing seen u c with
  | zero =>
    have hleft := unseen_cons (key_mem_classNames (registered_of_seenFrom ht h.stands)) h.fresh
    omega
  | succ n ih =>
    have hregistered := registered_of_seenFrom ht h.stands
    have hleft := unseen_cons (key_mem_classNames hregistered) h.fresh
    have hbases : Answers loads (view.bases u) (fun c => c.reading.bases u) := answers_bases hregistered.known
    have hcurrent : ∀ b ∈ (view.bases u c).1, Current loads b := by
      intro b hb
      rw [← hbases.shown hc] at hb
      exact current_of_mem_bases (hbases.sound hc).resolved hb
    have hstep : ∀ b ∈ (view.bases u c).1.reverse, ∀ acc d, Sound loads d ∧ u.key :: seen ⊆ acc.2 →
        inheritStep view (n + 1) acc b d = inheritStep view n acc b d ∧
          Sound loads (inheritStep view n acc b d).2 ∧ u.key :: seen ⊆ (inheritStep view n acc b d).1.2 := by
      intro b hb acc d ⟨hd, hacc⟩
      have hb := hcurrent b (List.mem_reverse.mp hb)
      refine and_left_comm.mp ⟨(answers_inheritStep n acc hb.known).sound hd, ?_⟩
      rw [inheritStep, inheritStep]
      split
      · rename_i hopen
        obtain ⟨hdeclared, hfresh⟩ := Bool.and_eq_true_iff.mp hopen
        rw [Bool.not_eq_true', ← Bool.not_eq_true, List.contains_iff_mem] at hfresh
        have hbase := Entering.base hb hdeclared (hacc h.self) hfresh
        have hmono : unseen (classNames loads) acc.2 ≤ unseen (classNames loads) (u.key :: seen) := unseen_mono hacc
        rw [bind_apply, bind_apply, ih hd hbase (by omega)]
        exact ⟨rfl, List.Subset.trans hacc (seen_subset_inherited ht hd n hbase)⟩
      · exact ⟨rfl, hacc⟩
    have hfold := foldlM_congr_while (P := fun acc d => Sound loads d ∧ u.key :: seen ⊆ acc.2)
      (b := ([], u.key :: seen)) hstep ⟨hbases.sound hc, List.Subset.refl _⟩
    rw [inherited_succ, inherited_succ, bind_apply, bind_apply, bind_apply, hfold]
    rfl

/-- The rounds of a question about all properties of a class suffice. -/
theorem inherited_rounds (hc : Sound loads c) {n : Nat} (hn : c.settled.length + 1 ≤ n) :
    view.inherited n [] t c = view.inherited (c.settled.length + 1) [] t c := by
  have hunseen : unseen (classNames loads) [] ≤ c.settled.length := by
    have hle := unseen_le (classNames loads) []
    rw [hc.size, ← List.length_map ClassFacts.qualifiedName]
    exact hle
  induction hn with
  | refl => rfl
  | step hle ih => rw [inherited_succ_eq ht hc Entering.init (Nat.le_trans (Nat.le_succ_of_le hunseen) hle), ih]

end Rounds

end ModelReach.Catalogue
