import ModelReach.Proofs.Catalogue.Use
import ModelReach.Proofs.Run.Steps

/-! Reading the files of a run. As long as nothing is asked, the catalogue is the one that the files read so
far make, whichever files failed in between. -/
namespace ModelReach.Run
set_option autoImplicit false

open Catalogue
open Files (FileTree ModuleFile)

variable {loads : List ModuleFacts} {t : FileTree}

/-! ## Fresh catalogues -/

/-- Files have been read and others have failed, and nothing has been asked. -/
def Fresh (loads : List ModuleFacts) (c : Catalogue) : Prop :=
  ∃ failures, c = { loaded loads with failures := failures }

theorem fresh_start : Fresh [] RunState.start.catalogue := ⟨[], rfl⟩

theorem Fresh.inUse {c : Catalogue} (h : Fresh loads c) : InUse loads c := by
  obtain ⟨failures, rfl⟩ := h
  exact InUse.loaded failures

theorem Fresh.fail {c : Catalogue} (h : Fresh loads c) (path : String) (reason : Option String) :
    Fresh loads (c.fail path reason) := by
  obtain ⟨failures, rfl⟩ := h
  exact ⟨_, rfl⟩

theorem Fresh.register {c : Catalogue} (h : Fresh loads c) (facts : ModuleFacts) :
    Fresh (loads ++ [facts]) (c.register facts) := by
  obtain ⟨failures, rfl⟩ := h
  exact ⟨failures, by rw [loaded_concat]; rfl⟩

theorem Fresh.modules {c : Catalogue} (h : Fresh loads c) : c.modules = (loaded loads).modules := by
  obtain ⟨failures, rfl⟩ := h
  rfl

/-! ## Finding files -/

theorem keepReadable_gives {file : ModuleFile} {s s' : RunState} {kept : Option ModuleFile}
    (h : Gives (keepReadable t file) s kept s') (hs : Fresh loads s.catalogue) :
    Fresh loads s'.catalogue ∧ kept = if t.isReadable file.path then some file else none := by
  unfold keepReadable at h
  split at h
  · rename_i hr
    obtain ⟨rfl, rfl⟩ := gives_pure.mp h
    exact ⟨hs, (if_pos hr).symm⟩
  · rename_i hr
    obtain ⟨_, s₁, hfail, h⟩ := gives_bind.mp h
    obtain ⟨_, s₂, hnote, h⟩ := gives_bind.mp h
    obtain ⟨rfl, rfl⟩ := gives_pure.mp h
    obtain ⟨_, rfl⟩ := gives_ask.mp hfail
    rw [gives_note.mp hnote]
    exact ⟨hs.fail file.path _, (if_neg hr).symm⟩

theorem keepReadables_give {files : List ModuleFile} {s s' : RunState} {kept : List (Option ModuleFile)}
    (h : GivesAll (keepReadable t) files s kept s') (hs : Fresh loads s.catalogue) :
    Fresh loads s'.catalogue ∧ kept.filterMap id = files.filter fun f => t.isReadable f.path := by
  induction h with
  | nil => exact ⟨hs, rfl⟩
  | @cons file files _ _ s s₁ s₂ h _ ih =>
    obtain ⟨hs₁, rfl⟩ := keepReadable_gives h hs
    obtain ⟨hs₂, hrest⟩ := ih hs₁
    refine ⟨hs₂, ?_⟩
    rw [List.filterMap_cons, List.filter_cons, hrest]
    cases t.isReadable file.path <;> rfl

/-- The files of a run are those scanned that may be read. -/
theorem loadModules_gives {root : String} {patterns : List String} {s s' : RunState}
    {files : List ModuleFile} (h : Gives (loadModules t root patterns) s files s')
    (hs : Fresh loads s.catalogue) :
    Fresh loads s'.catalogue ∧ ∃ scanned, Files.scan t root patterns = .ok scanned ∧
      files = scanned.filter fun f => t.isReadable f.path := by
  unfold loadModules at h
  cases hscan : Files.scan t root patterns with
  | error fault =>
    rw [hscan] at h
    exact absurd h not_gives_throw
  | ok scanned =>
    rw [hscan] at h
    obtain ⟨kept, s₁, hkept, h⟩ := gives_bind.mp h
    obtain ⟨_, s₂, hnote, h⟩ := gives_bind.mp h
    obtain ⟨rfl, rfl⟩ := gives_pure.mp h
    obtain ⟨hs₁, hfiles⟩ := keepReadables_give (gives_mapM.mp hkept) hs
    rw [gives_note.mp hnote]
    exact ⟨hs₁, scanned, rfl, hfiles⟩

/-! ## Reading files -/

/-- What asking for the classes of a file does: a file read before is not read again, and one that cannot be
read leaves the others as they are. -/
inductive Enumerated (t : FileTree) (loads : List ModuleFacts) (file : ModuleFile) :
    List Descriptor → List ModuleFacts → Prop
  | again {module : String} (h : (loaded loads).modules.lookup file.path = some module) :
    Enumerated t loads file ((loaded loads).classesOf module) loads
  | read {facts : ModuleFacts} (h : (loaded loads).modules.lookup file.path = none)
    (hf : readFacts t file = .ok facts) :
    Enumerated t loads file ((loaded (loads ++ [facts])).classesOf facts.module) (loads ++ [facts])
  | failed {cause : LoadCause} (h : (loaded loads).modules.lookup file.path = none)
    (hf : readFacts t file = .error cause) : Enumerated t loads file [] loads

theorem Enumerated.registered {file : ModuleFile} {classes : List Descriptor} {more : List ModuleFacts}
    (h : Enumerated t loads file classes more) : ∀ c ∈ classes, Registered more c := by
  cases h with
  | again _ => exact fun c hc => registered_of_mem_classesOf hc
  | read _ _ => exact fun c hc => registered_of_mem_classesOf hc
  | failed _ _ => exact fun c hc => absurd hc List.not_mem_nil

/-- What a file's classes are, or why there are none. -/
theorem declaredTypes_fresh (t : FileTree) (file : ModuleFile) {c : Catalogue} (hc : Fresh loads c) :
    match c.declaredTypes t file with
    | (.ok classes, c') => ∃ more, Fresh more c' ∧ Enumerated t loads file classes more
    | (.error (.failed _ _), c') => Fresh loads c' ∧ Enumerated t loads file [] loads
    | (.error (.fatal fault), _) => readFacts t file = .error (.source fault) ∧ fault.isLoadFailure = false := by
  unfold Catalogue.declaredTypes
  cases hm : c.modules.lookup file.path with
  | some module =>
    obtain ⟨failures, rfl⟩ := hc
    exact ⟨loads, ⟨failures, rfl⟩, Enumerated.again hm⟩
  | none =>
    have hnone : (loaded loads).modules.lookup file.path = none := by rw [← hc.modules, hm]
    cases hf : readFacts t file with
    | ok facts =>
      have hr := hc.register facts
      refine ⟨loads ++ [facts], hr, ?_⟩
      obtain ⟨failures, he⟩ := hr
      have hclasses : (c.register facts).classesOf facts.module =
          (loaded (loads ++ [facts])).classesOf facts.module := by rw [he]; rfl
      rw [hclasses]
      exact Enumerated.read hnone hf
    | error cause =>
      cases cause with
      | file fault => exact ⟨hc.fail _ _, Enumerated.failed hnone hf⟩
      | encoding fault => exact ⟨hc.fail _ _, Enumerated.failed hnone hf⟩
      | source fault =>
        cases hl : fault.isLoadFailure with
        | true =>
          simp only [hl]
          exact ⟨hc.fail _ _, Enumerated.failed hnone hf⟩
        | false =>
          simp only [hl]
          exact ⟨rfl, hl⟩

theorem enumerate_gives {file : ModuleFile} {s s' : RunState} {classes : List Descriptor}
    (h : Gives (enumerate t file) s classes s') (hs : Fresh loads s.catalogue) :
    ∃ more, Fresh more s'.catalogue ∧ Enumerated t loads file classes more := by
  unfold enumerate at h
  obtain ⟨answer, s₁, hask, h⟩ := gives_bind.mp h
  obtain ⟨ha, rfl⟩ := gives_ask.mp hask
  have hdeclared := declaredTypes_fresh t file hs
  rcases hd : s.catalogue.declaredTypes t file with ⟨fault | found, c⟩
  · rw [hd] at hdeclared ha h
    subst ha
    cases fault with
    | failed path cause =>
      obtain ⟨_, s₂, hnote, h⟩ := gives_bind.mp h
      obtain ⟨rfl, rfl⟩ := gives_pure.mp h
      rw [gives_note.mp hnote]
      exact ⟨loads, hdeclared⟩
    | fatal fault => exact absurd h not_gives_throw
  · rw [hd] at hdeclared ha h
    subst ha
    obtain ⟨rfl, rfl⟩ := gives_pure.mp h
    exact hdeclared

/-- The files are read one after the other. -/
inductive ReadAll (t : FileTree) : List ModuleFacts → List ModuleFile → List (List Descriptor) →
    List ModuleFacts → Prop
  | nil {loads : List ModuleFacts} : ReadAll t loads [] [] loads
  | cons {loads more last : List ModuleFacts} {file : ModuleFile} {files : List ModuleFile}
    {classes : List Descriptor} {rest : List (List Descriptor)} (h : Enumerated t loads file classes more)
    (hs : ReadAll t more files rest last) : ReadAll t loads (file :: files) (classes :: rest) last

theorem enumerate_all {files : List ModuleFile} {s s' : RunState} {classes : List (List Descriptor)}
    (h : GivesAll (enumerate t) files s classes s') (hs : Fresh loads s.catalogue) :
    ∃ last, Fresh last s'.catalogue ∧ ReadAll t loads files classes last := by
  induction h generalizing loads with
  | nil => exact ⟨loads, hs, ReadAll.nil⟩
  | cons h _ ih =>
    obtain ⟨more, hmore, he⟩ := enumerate_gives h hs
    obtain ⟨last, hlast, hrest⟩ := ih hmore
    exact ⟨last, hlast, ReadAll.cons he hrest⟩

/-- Reading more files keeps what was read. -/
theorem Enumerated.grows {file : ModuleFile} {classes : List Descriptor} {more : List ModuleFacts}
    (h : Enumerated t loads file classes more) :
    more = loads ∨ ∃ facts, readFacts t file = .ok facts ∧ more = loads ++ [facts] := by
  cases h with
  | again _ => exact Or.inl rfl
  | read _ hf => exact Or.inr ⟨_, hf, rfl⟩
  | failed _ _ => exact Or.inl rfl

theorem ReadAll.origin {files : List ModuleFile} {classes : List (List Descriptor)}
    {last : List ModuleFacts} (h : ReadAll t loads files classes last) :
    ∀ facts ∈ last, facts ∈ loads ∨ ∃ file ∈ files, readFacts t file = .ok facts := by
  induction h with
  | nil => exact fun facts hf => Or.inl hf
  | cons h _ ih =>
    intro facts hf
    rcases ih facts hf with hf | ⟨file, hfile, hf⟩
    · rcases h.grows with he | ⟨found, hread, he⟩
      · exact Or.inl (he ▸ hf)
      · rw [he] at hf
        rcases List.mem_append.mp hf with hf | hf
        · exact Or.inl hf
        · rw [List.mem_singleton.mp hf]
          exact Or.inr ⟨_, List.mem_cons_self .., hread⟩
    · exact Or.inr ⟨file, List.mem_cons_of_mem _ hfile, hf⟩

theorem Enumerated.registered_of {file : ModuleFile} {classes : List Descriptor} {more : List ModuleFacts}
    (h : Enumerated t loads file classes more) {c : Descriptor} (hc : Registered loads c) :
    Registered more c := by
  rcases h.grows with rfl | ⟨facts, _, rfl⟩
  · exact hc
  · exact registered_concat facts hc

theorem ReadAll.registered_of {files : List ModuleFile} {classes : List (List Descriptor)}
    {last : List ModuleFacts} (h : ReadAll t loads files classes last) {c : Descriptor}
    (hc : Registered loads c) : Registered last c := by
  induction h with
  | nil => exact hc
  | cons h _ ih => exact ih (h.registered_of hc)

theorem ReadAll.registered {files : List ModuleFile} {classes : List (List Descriptor)}
    {last : List ModuleFacts} (h : ReadAll t loads files classes last) :
    ∀ c ∈ classes.flatten, Registered last c := by
  induction h with
  | nil => exact fun c hc => absurd hc List.not_mem_nil
  | cons h hs ih =>
    intro c hc
    rw [List.flatten_cons] at hc
    rcases List.mem_append.mp hc with hc | hc
    · exact hs.registered_of (h.registered c hc)
    · exact ih c hc

end ModelReach.Run
