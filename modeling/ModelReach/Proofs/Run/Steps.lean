import ModelReach.Run.Modules

/-! The steps of a run: when a run of several steps gives a result, and what each kind of step does to the
state. -/
namespace ModelReach.Run
set_option autoImplicit false

variable {α β : Type}

/-- From one state, the steps give a result and leave another state. -/
def Gives (x : RunM α) (s : RunState) (a : α) (s' : RunState) : Prop := x.run.run s = (.ok a, s')

theorem gives_bind {x : RunM α} {f : α → RunM β} {s s' : RunState} {b : β} :
    Gives (x >>= f) s b s' ↔ ∃ a s₁, Gives x s a s₁ ∧ Gives (f a) s₁ b s' := by
  have hrun : (x >>= f).run.run s = match x.run.run s with
      | (.ok a, s₁) => (f a).run.run s₁
      | (.error fault, s₁) => (.error fault, s₁) := by
    rw [ExceptT.run_bind, StateT.run_bind]
    rcases x.run.run s with ⟨_ | _, _⟩ <;> rfl
  rw [Gives, hrun]
  rcases hx : x.run.run s with ⟨fault | a, s₁⟩
  · constructor
    · intro h
      cases h
    · rintro ⟨a, s₂, ha, _⟩
      rw [Gives, hx] at ha
      cases ha
  · constructor
    · exact fun h => ⟨a, s₁, hx, h⟩
    · rintro ⟨a', s₂, ha, h⟩
      rw [Gives, hx] at ha
      cases ha
      exact h

theorem gives_pure {a b : α} {s s' : RunState} : Gives (pure a) s b s' ↔ b = a ∧ s' = s := by
  constructor
  · intro h
    cases h
    exact ⟨rfl, rfl⟩
  · rintro ⟨rfl, rfl⟩
    rfl

theorem not_gives_throw {fault : RunFault} {a : α} {s s' : RunState} :
    ¬ Gives (throw fault) s a s' := by
  intro h
  cases h

theorem gives_note {level : Level} {logger message : String} {s s' : RunState} {u : Unit} :
    Gives (note level logger message) s u s' ↔ s' = { s with log := s.log ++ [⟨level, logger, message⟩] } := by
  constructor
  · intro h
    cases h
    rfl
  · rintro rfl
    rfl

theorem gives_ask {question : StateM Catalogue α} {s s' : RunState} {a : α} :
    Gives (ask question) s a s' ↔
      a = (question s.catalogue).1 ∧ s' = { s with catalogue := (question s.catalogue).2 } := by
  constructor
  · intro h
    cases h
    exact ⟨rfl, rfl⟩
  · rintro ⟨rfl, rfl⟩
    rfl

theorem gives_get {s s' r : RunState} : Gives get s r s' ↔ r = s ∧ s' = s := by
  constructor
  · intro h
    cases h
    exact ⟨rfl, rfl⟩
  · rintro ⟨rfl, rfl⟩
    rfl

/-! ## Steps for each element -/

/-- A list of steps, one for each element, that have given results one after the other. -/
inductive GivesAll (f : α → RunM β) : List α → RunState → List β → RunState → Prop
  | nil {s : RunState} : GivesAll f [] s [] s
  | cons {a : α} {as : List α} {b : β} {bs : List β} {s s₁ s₂ : RunState} (h : Gives (f a) s b s₁)
    (hs : GivesAll f as s₁ bs s₂) : GivesAll f (a :: as) s (b :: bs) s₂

theorem gives_mapM {f : α → RunM β} {as : List α} {bs : List β} {s s' : RunState} :
    Gives (as.mapM f) s bs s' ↔ GivesAll f as s bs s' := by
  induction as generalizing s bs with
  | nil =>
    rw [List.mapM_nil, gives_pure]
    constructor
    · rintro ⟨rfl, rfl⟩
      exact GivesAll.nil
    · intro h
      cases h
      exact ⟨rfl, rfl⟩
  | cons a as ih =>
    rw [List.mapM_cons, gives_bind]
    constructor
    · rintro ⟨b, s₁, h, hrest⟩
      obtain ⟨bs', s₂, hs, hpure⟩ := gives_bind.mp hrest
      obtain ⟨rfl, rfl⟩ := gives_pure.mp hpure
      exact GivesAll.cons h (ih.mp hs)
    · intro h
      cases h with
      | cons h hs => exact ⟨_, _, h, gives_bind.mpr ⟨_, _, ih.mpr hs, gives_pure.mpr ⟨rfl, rfl⟩⟩⟩

end ModelReach.Run
