import ModelReach.Proofs.Catalogue.Lifetime
import ModelReach.Proofs.Inheritance.Order

/-! The types of properties. Those that have been settled, and those that a class answers with or inherits at any time
in the life of a catalogue, are made of registered classes, as all resolved types are. Of the properties of a class no
two have one name. -/
namespace ModelReach.Catalogue
set_option autoImplicit false

variable {c d : Catalogue} {α β : Type} {P : Catalogue → Prop} {Q : α → Prop} {R : β → Prop}

/-! ## Questions that keep something -/

/-- Where `P` holds, the question keeps it and has an answer with `Q`. -/
def Yields (P : Catalogue → Prop) (x : StateM Catalogue α) (Q : α → Prop) : Prop :=
  ∀ c, P c → P (x c).2 ∧ Q (x c).1

theorem Yields.pure {a : α} (h : Q a) : Yields P (pure a) Q := fun _ hc => ⟨hc, h⟩

theorem Yields.bind {x : StateM Catalogue α} {f : α → StateM Catalogue β} (hx : Yields P x Q)
    (hf : ∀ a, Q a → Yields P (f a) R) : Yields P (x >>= f) R := fun c hc =>
  hf (x c).1 (hx c hc).2 (x c).2 (hx c hc).1

theorem Yields.ite {p : Prop} [Decidable p] {x y : StateM Catalogue α} (hx : Yields P x Q) (hy : Yields P y Q) :
    Yields P (if p then x else y) Q := by
  split
  · exact hx
  · exact hy

theorem Yields.mapM {f : β → StateM Catalogue α} (hf : ∀ b, Yields P (f b) Q) (l : List β) :
    Yields P (l.mapM f) fun answers => ∀ a ∈ answers, Q a := by
  induction l with
  | nil => exact Yields.pure nofun
  | cons b l ih =>
    rw [List.mapM_cons]
    refine (hf b).bind fun a ha => ih.bind fun answers h => Yields.pure ?_
    exact List.forall_mem_cons.mpr ⟨ha, h⟩

theorem Yields.foldlM {f : α → β → StateM Catalogue α} (hf : ∀ a, Q a → ∀ b, Yields P (f a b) Q) (l : List β) {a : α}
    (ha : Q a) : Yields P (l.foldlM f a) Q := by
  induction l generalizing a with
  | nil => exact Yields.pure ha
  | cons b l ih =>
    rw [List.foldlM_cons]
    exact (hf a ha b).bind fun a' ha' => ih ha'

/-! ## Settled properties -/

/-- The types of all settled properties, too, are made of registered classes. -/
structure Typed (c : Catalogue) : Prop extends Formed c where
  properties : ∀ n l, (c.settledAt n).properties = some l → ∀ p ∈ l, Made c.settled.length p.type

theorem typed_empty : Typed empty := ⟨formed_empty, fun _ _ h => nomatch h⟩

/-- What leaves the properties of all classes unsettled or settled as they were. -/
theorem Typed.of_keeps (h : Typed c) (hkeeps : Keeps c d)
    (hsame : ∀ n, (d.settledAt n).properties = (c.settledAt n).properties) : Typed d := by
  refine ⟨hkeeps.formed, fun n l hl p hp => ?_⟩
  rw [hsame] at hl
  exact (h.properties n l hl p hp).mono hkeeps.size

theorem Typed.rests (h : Typed c) (hrests : Rests c d) : Typed d :=
  h.of_keeps hrests.keeps fun n => by rw [hrests.settledAt]

theorem typed_register (h : Typed c) (facts : ModuleFacts) : Typed (c.register facts) :=
  h.of_keeps (keeps_register h.toFormed facts) fun n => by rw [settledAt_register]

theorem typed_failures (h : Typed c) (failures : List (String × Option String)) :
    Typed { c with failures := failures } :=
  h.of_keeps (keeps_failures h.toFormed failures) fun _ => rfl

theorem typed_declaredTypes (h : Typed c) (t : Files.FileTree) (file : Files.ModuleFile) :
    Typed (c.declaredTypes t file).2 := by
  rcases declaredTypes_cases t file c with ⟨facts, _, _, he⟩ | ⟨_, failures, he⟩
  · rw [he]
    exact typed_register h facts
  · rw [he]
    exact typed_failures h failures

/-- Settle more about a class whose properties, if they are settled then, have such types. -/
theorem typed_settle (h : Typed c) {n : Nat} {change : Settled → Settled} (hformed : Formed (settle n change c).2)
    (hproperties : ∀ l, (change (c.settledAt n)).properties = some l → ∀ p ∈ l, Made c.settled.length p.type) :
    Typed (settle n change c).2 := by
  have hsize : (settle n change c).2.settled.length = c.settled.length := List.length_modify ..
  refine ⟨hformed, fun m l hl p hp => ?_⟩
  rw [settledAt_settle] at hl
  rw [hsize]
  split at hl
  · rename_i hnm
    obtain ⟨rfl, -⟩ := hnm
    exact hproperties l hl p hp
  · exact h.properties m l hl p hp

theorem typed_settledOr {n : Nat} {get : Settled → Option α} {set : α → Settled → Settled} {find : StateM Catalogue α}
    (h : Typed c) (hfind : Typed (find c).2) (hformed : Formed (settledOr n get set find c).2)
    (hset : ∀ a s, (set a s).properties = s.properties) : Typed (settledOr n get set find c).2 := by
  rw [settledOr] at hformed ⊢
  split at hformed
  · exact h
  · refine typed_settle hfind hformed fun l hl => ?_
    rw [hset] at hl
    exact hfind.properties n l hl

theorem typed_bases (h : Typed c) (t : Descriptor) : Typed (bases t c).2 := by
  cases t with
  | declared n facts =>
    have hfind := h.rests (rests_resolveBases h.toFormed facts).1
    exact typed_settledOr h hfind (opens_bases h.toFormed (.declared n facts)).formed fun _ _ => rfl
  | leaf _ => exact h
  | array _ _ _ => exact h
  | generic _ _ _ => exact h

theorem typed_methods (h : Typed c) (t : Descriptor) : Typed (methods t c).2 := by
  cases t with
  | declared n facts =>
    have hfind := h.rests (rests_mapM rests_resolveMethod facts.methods h.toFormed)
    exact typed_settledOr h hfind (keeps_methods h.toFormed (.declared n facts)).formed fun _ _ => rfl
  | leaf _ => exact h
  | array _ _ _ => exact h
  | generic _ _ _ => exact h

/-! ## Kinds -/

theorem typed_visitBases (rounds : Nat) (seen : List String) (done queue : List Descriptor) (h : Typed c) :
    Typed (lineage.visitBases rounds seen done queue c).2 := by
  induction rounds generalizing seen done queue c with
  | zero => exact h
  | succ rounds ih =>
    cases queue with
    | nil => exact h
    | cons base queue =>
      rw [Lineage.visitBases]
      split
      · exact ih _ _ _ h
      · exact ih _ _ _ (typed_bases h base)

theorem typed_classify (h : Typed c) (t : Descriptor) : Typed (lineage.classify t c).2 := by
  have hbases := typed_bases h t
  rcases classify_cases t c with he | ⟨_, _, he⟩
  · rw [he]
    exact hbases
  · rw [he]
    exact typed_visitBases _ _ _ _ (typed_bases hbases t)

theorem typed_kind (h : Typed c) (t : Descriptor) : Typed (kind t c).2 := by
  cases t with
  | declared n facts =>
    exact typed_settledOr h (typed_classify h _) (keeps_kind h.toFormed (.declared n facts)).formed fun _ _ => rfl
  | leaf _ => exact h
  | array _ _ _ => exact h
  | generic _ _ _ => exact h

/-! ## Properties -/

/-- Made of classes of some catalogue. -/
def HasForm (t : Descriptor) : Prop := ∃ size, Made size t

theorem yields_resolveProperty (c : Catalogue) (f : PropertyFacts) :
    Yields (Rests c) (resolveProperty f) fun p => Made c.settled.length p.type := by
  intro d hd
  obtain ⟨hrests, hmade⟩ := rests_resolve f.type hd.formed
  rw [hd.settled] at hmade
  exact ⟨hd.trans hrests, hmade⟩

theorem yields_properties (t : Descriptor) : Yields Typed (properties t) fun l => ∀ p ∈ l, HasForm p.type := by
  intro c hc
  cases t with
  | declared n facts =>
    have hformed := (keeps_properties hc.toFormed (.declared n facts)).formed
    rw [properties, settledOr] at hformed ⊢
    split at hformed
    · rename_i l hl
      exact ⟨hc, fun p hp => ⟨_, hc.properties n l hl p hp⟩⟩
    · obtain ⟨hrests, hmade⟩ := Yields.mapM (yields_resolveProperty c) facts.properties c (Rests.refl hc.toFormed)
      refine ⟨typed_settle (hc.rests hrests) hformed fun l hl p hp => ?_, fun p hp => ⟨_, hmade p hp⟩⟩
      cases hl
      rw [hrests.settled]
      exact hmade p hp
  | leaf _ => exact ⟨hc, List.forall_mem_nil _⟩
  | array _ _ _ => exact ⟨hc, List.forall_mem_nil _⟩
  | generic _ _ _ => exact ⟨hc, List.forall_mem_nil _⟩

theorem Lives.typed (h : Lives c d) (hc : Typed c) : Typed d := by
  induction h with
  | here => exact hc
  | declare _ t file ih => exact typed_declaredTypes ih t file
  | fail _ path reason ih => exact typed_failures ih _
  | resolve _ r ih => exact ih.rests (rests_resolve r ih.toFormed).1
  | bases _ t ih => exact typed_bases ih t
  | properties _ t ih => exact (yields_properties t _ ih).1
  | methods _ t ih => exact typed_methods ih t
  | kind _ t ih => exact typed_kind ih t

/-! ## Inherited properties -/

/-- Properties with formed types, no two of one name. -/
structure Distinct (l : List Property) : Prop where
  formed : ∀ p ∈ l, HasForm p.type
  names : (namesOfProperties l).Nodup

theorem distinct_nil : Distinct [] := ⟨nofun, List.nodup_nil⟩

theorem Distinct.merge {l more : List Property} (h : Distinct l) (hmore : ∀ p ∈ more, HasForm p.type) :
    Distinct (mergeProperties l more) where
  formed p hp := (mem_mergeProperties hp).elim (h.formed p) (hmore p)
  names := nodup_mergeProperties h.names more

theorem yields_inherited (rounds : Nat) (seen : List String) (t : Descriptor) :
    Yields Typed (view.inherited rounds seen t) fun found => Distinct found.1 := by
  induction rounds generalizing seen t with
  | zero => exact Yields.pure distinct_nil
  | succ rounds ih =>
    rw [inherited_succ]
    have hbases : Yields Typed (view.bases t) fun _ => True := fun c hc => ⟨typed_bases hc t, trivial⟩
    have hstep : ∀ acc : List Property × List String, Distinct acc.1 → ∀ base,
        Yields Typed (inheritStep view rounds acc base) fun found => Distinct found.1 := by
      intro acc hacc base
      refine Yields.ite ?_ (Yields.pure hacc)
      exact (ih acc.2 base).bind fun found hfound => Yields.pure (hacc.merge hfound.formed)
    refine hbases.bind fun bases _ => (Yields.foldlM hstep bases.reverse distinct_nil).bind fun acc hacc => ?_
    exact (yields_properties t).bind fun own hown => Yields.pure (hacc.merge hown)

theorem yields_allProperties (n : Nat) (facts : ClassFacts) :
    Yields Typed (view.allProperties (.declared n facts)) Distinct := fun c hc =>
  yields_inherited (c.settled.length + 1) [] (.declared n facts) c hc

end ModelReach.Catalogue
