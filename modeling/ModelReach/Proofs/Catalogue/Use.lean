import ModelReach.Proofs.Catalogue.Answers

/-! Catalogues in use: files have been read, and any questions may have been asked since. A question that was
asked once is answered alike ever after. -/
namespace ModelReach.Catalogue
set_option autoImplicit false

/-! ## Catalogues in use -/

/-- A catalogue into which the files were read, while others may have failed, and of which anything may have
been asked since. -/
inductive InUse (loads : List ModuleFacts) : Catalogue → Prop
  | loaded (failures : List (String × Option String)) :
    InUse loads { loaded loads with failures := failures }
  | resolve {c : Catalogue} (h : InUse loads c) (r : TypeRef) : InUse loads (resolve r c).2
  | bases {c : Catalogue} (h : InUse loads c) {t : Descriptor} (ht : Registered loads t) :
    InUse loads (bases t c).2
  | properties {c : Catalogue} (h : InUse loads c) {t : Descriptor} (ht : Registered loads t) :
    InUse loads (properties t c).2
  | methods {c : Catalogue} (h : InUse loads c) {t : Descriptor} (ht : Registered loads t) :
    InUse loads (methods t c).2
  | kind {c : Catalogue} (h : InUse loads c) {t : Descriptor} (ht : Registered loads t) :
    InUse loads (kind t c).2

theorem inUse_loaded (loads : List ModuleFacts) : InUse loads (loaded loads) := InUse.loaded (loaded loads).failures

variable {loads : List ModuleFacts} {α β : Type}

theorem Sound.failures {c : Catalogue} (h : Sound loads c) (failures : List (String × Option String)) :
    Sound loads { c with failures := failures } := ⟨h.1, h.2, h.3, h.4, h.5, h.6⟩

theorem InUse.sound {c : Catalogue} (h : InUse loads c) : Sound loads c := by
  induction h with
  | loaded failures => exact (sound_loaded loads).failures failures
  | resolve _ r ih => exact (resolving_resolve r ih).sound
  | bases _ ht ih => exact (answers_bases ht.known).sound ih
  | properties _ ht ih => exact (answers_properties ht.known).sound ih
  | methods _ ht ih => exact (answers_methods ht.known).sound ih
  | kind _ ht ih => exact (answers_kind ht.known).sound ih

theorem Sound.get?_eq {c : Catalogue} (h : Sound loads c) (name : String) :
    c.get? name = (loaded loads).get? name := by
  rw [get?, get?, h.declared]

/-! ## Questions asked before -/

/-- A question has been asked on the way to a catalogue. -/
def Asked (loads : List ModuleFacts) (x : StateM Catalogue α) (d : Catalogue) : Prop :=
  ∃ c, Sound loads c ∧ Follows loads (x c).2 d

theorem Answers.asked {x : StateM Catalogue α} {y : Catalogue → Id α} (hx : Answers loads x y)
    {c : Catalogue} (hc : Sound loads c) : Asked loads x (x c).2 :=
  ⟨c, hc, Follows.refl (hx.sound hc)⟩

theorem Asked.later {x : StateM Catalogue α} {c d : Catalogue} (h : Asked loads x c)
    (hd : Follows loads c d) : Asked loads x d := by
  obtain ⟨b, hb, hc⟩ := h
  exact ⟨b, hb, hc.trans hd⟩

/-- The answer is what the reading of the catalogue gives. -/
theorem Asked.answer {x : StateM Catalogue α} {y : Catalogue → Id α} {d : Catalogue}
    (h : Asked loads x d) (hx : Answers loads x y) : (x d).1 = (y d).run := by
  obtain ⟨c, hc, hd⟩ := h
  have hagain := (hx.run d hd.sound).1
  have hbefore := (hx.run c hc).2
  rw [← hx.shown hd.sound, hbefore _ (hd.trans hagain), hbefore d hd]

theorem Asked.reading_stays {x : StateM Catalogue α} {y : Catalogue → Id α} {c d : Catalogue}
    (h : Asked loads x c) (hx : Answers loads x y) (hd : Follows loads c d) :
    (y d).run = (y c).run := by
  obtain ⟨b, hb, hc⟩ := h
  rw [(hx.run b hb).2 d (hc.trans hd), (hx.run b hb).2 c hc]

/-! ## Parts of questions -/

theorem Asked.first {x : StateM Catalogue α} {y : Catalogue → Id α} {f : α → StateM Catalogue β}
    {d : Catalogue} (h : Asked loads (x >>= f) d) (hx : Answers loads x y)
    (hf : ∀ e, Sound loads e → ∃ z, Answers loads (f (y e).run) z) :
    Asked loads x d := by
  obtain ⟨c, hc, hd⟩ := h
  obtain ⟨hx₁, hx₂⟩ := hx.run c hc
  obtain ⟨z, hz⟩ := hf (x c).2 hx₁.sound
  have hrest := hz.run (x c).2 hx₁.sound
  rw [hx₂ _ (Follows.refl hx₁.sound)] at hrest
  exact ⟨c, hc, hrest.1.trans hd⟩

theorem Asked.second {x : StateM Catalogue α} {y : Catalogue → Id α} {f : α → StateM Catalogue β}
    {d : Catalogue} (h : Asked loads (x >>= f) d) (hx : Answers loads x y)
    (hf : ∀ e, Sound loads e → ∃ z, Answers loads (f (y e).run) z) :
    Asked loads (f (y d).run) d := by
  obtain ⟨c, hc, hd⟩ := h
  obtain ⟨hx₁, hx₂⟩ := hx.run c hc
  obtain ⟨z, hz⟩ := hf (x c).2 hx₁.sound
  have hrest := hz.run (x c).2 hx₁.sound
  rw [hx₂ _ (Follows.refl hx₁.sound)] at hrest
  rw [hx₂ d (hrest.1.trans hd)]
  exact ⟨(x c).2, hx₁.sound, hd⟩

theorem Asked.step {f : β → α → StateM Catalogue β} {g : Catalogue → β → α → Id β} {l : List α}
    (hf : ∀ b, ∀ a ∈ l, Answers loads (f b a) (fun c => g c b a)) {b : β} {d : Catalogue}
    (h : Asked loads (l.foldlM f b) d) : ∀ a ∈ l, ∃ b', Asked loads (f b' a) d := by
  induction l generalizing b with
  | nil => exact fun a ha => absurd ha List.not_mem_nil
  | cons a l ih =>
    have ha := hf b a (List.mem_cons_self ..)
    have hl : ∀ b, ∀ a ∈ l, Answers loads (f b a) (fun c => g c b a) := fun b' a' ha' =>
      hf b' a' (List.mem_cons_of_mem _ ha')
    have hrest : ∀ e, Sound loads e → ∃ z, Answers loads (l.foldlM f (g e b a).run) z :=
      fun e _ => ⟨_, Answers.foldlM hl _⟩
    rw [List.foldlM_cons] at h
    intro a' ha'
    rcases List.mem_cons.mp ha' with rfl | ha'
    · exact ⟨b, h.first ha hrest⟩
    · exact ih hl (h.second ha hrest) a' ha'

end ModelReach.Catalogue
