import ModelReach.Proofs.Reach.Phases
import ModelReach.Proofs.Run.Collect

/-! The result of a run, taken apart: reading the files is all that can fail, and the result is what the catalogue
that has read them answers. -/
namespace ModelReach.Run
set_option autoImplicit false

open Catalogue
open Files (FileTree ModuleFile)

variable {loads : List ModuleFacts} {t : FileTree}

/-! ## Entry types -/

/-- The entry types of files are found when all files have been read. -/
structure EntriesOf (t : FileTree) (files : List ModuleFile) (markers : List String) (s : RunState)
    (entries : TypeSet) (c : Catalogue) : Prop where
  steps : ∃ classes s₁, GivesAll (enumerate t) files s classes s₁ ∧
    entries = TypeSet.ofList (implementing lineage markers classes.flatten s₁.catalogue).1 ∧
    c = (implementing lineage markers classes.flatten s₁.catalogue).2

theorem collectEntryTypes_iff {files : List ModuleFile} {markers : List String} {s : RunState} {entries : TypeSet}
    {c : Catalogue} :
    (∃ s', Gives (collectEntryTypes t files markers) s entries s' ∧ s'.catalogue = c) ↔
      EntriesOf t files markers s entries c := by
  constructor
  · rintro ⟨s', h, rfl⟩
    unfold collectEntryTypes at h
    obtain ⟨classes, s₁, hall, h⟩ := gives_bind.mp h
    obtain ⟨found, s₂, hask, h⟩ := gives_bind.mp h
    obtain ⟨_, s₃, hnote, h⟩ := gives_bind.mp h
    obtain ⟨rfl, rfl⟩ := gives_pure.mp h
    obtain ⟨rfl, rfl⟩ := gives_ask.mp hask
    rw [gives_note.mp hnote]
    exact ⟨classes, s₁, gives_mapM.mp hall, rfl, rfl⟩
  · rintro ⟨classes, s₁, hall, rfl, rfl⟩
    exact ⟨_, gives_bind.mpr ⟨classes, s₁, gives_mapM.mpr hall, gives_bind.mpr ⟨_, _, gives_ask.mpr ⟨rfl, rfl⟩,
      gives_bind.mpr ⟨(), _, gives_note.mpr rfl, gives_pure.mpr ⟨rfl, rfl⟩⟩⟩⟩, rfl⟩

/-! ## Results -/

/-- What a run finds, from the models that it has reached and the catalogue that has found them. -/
def resultFrom (policy : Policy) (o : SetOrder) (reached : Reach.Reachability) (c : Catalogue) : RunResult :=
  let described := generateSchemas view (some policy) (reached.models.visit o) c
  { entryTypes := sortedNames reached.entryTypes
    implementingModels := sortedNames reached.implementing
    models := sortedNames reached.models
    failedModules := sortStrings (described.2.failures.map (·.1))
    schemas := described.1.map ModelSchema.document }

/-- What a run finds, from entry types and the catalogue that has found them. -/
def resultOf (policy : Policy) (o : SetOrder) (entries : TypeSet) (c : Catalogue) : RunResult :=
  let built := Reach.build policy view o entries.members c
  resultFrom policy o built.1 built.2

/-- The same result, with other paths of files that failed. -/
def RunResult.withFailed (r : RunResult) (paths : List String) : RunResult := { r with failedModules := paths }

/-- The result depends on the failures in one place only, and nowhere on the files that the catalogue knows. -/
theorem resultOf_failures {c : Catalogue} (hc : Sound loads c) (p : Policy) (o : SetOrder) {entries : TypeSet}
    (he : ∀ e ∈ entries.members, Registered loads e) (failures : List (String × Option String))
    (modules : List (String × String)) :
    resultOf p o entries { c with failures := failures, modules := modules } =
      (resultOf p o entries c).withFailed (sortStrings (failures.map Prod.fst)) := by
  have hbuild := Reach.answers_build p o fun e hmem => (he e hmem).known
  have hbuilt := Reach.built hc p o fun e hmem => (he e hmem).known
  have hknown : ∀ m ∈ (Reach.build p view o entries.members c).1.models.visit o, Known loads m := fun m hm =>
    (hbuilt.models.all m (TypeSet.mem_visit.mp hm)).registered.known
  have hgenerate := (answers_generateSchemas (some p) hknown).unheeding _ (hbuild.sound hc) failures modules
  unfold resultOf resultFrom
  dsimp only
  rw [hbuild.unheeding c hc failures modules]
  dsimp only
  rw [hgenerate]
  rfl

theorem failedModules_resultOf {c : Catalogue} (hc : Sound loads c) (p : Policy) (o : SetOrder) {entries : TypeSet}
    (he : ∀ e ∈ entries.members, Registered loads e) :
    (resultOf p o entries c).failedModules = sortStrings (c.failures.map Prod.fst) :=
  congrArg RunResult.failedModules (resultOf_failures hc p o he c.failures c.modules)

theorem noteBuild_ends (r : Reach.Reachability) (s : RunState) :
    ∃ s', Gives (noteBuild r) s () s' ∧ s'.catalogue = s.catalogue := ⟨_, rfl, rfl⟩

/-- A run completes if it reaches models. -/
theorem collect_iff_reach {options : ScanOptions} {o : SetOrder} {result : RunResult} :
    (∃ s, (collect t options o).run.run .start = (.ok result, s)) ↔
      ∃ reached s₁, Gives (reach t options o) .start reached s₁ ∧
        result = resultFrom options.policy o reached s₁.catalogue := by
  constructor
  · rintro ⟨s, h⟩
    change Gives (collect t options o) .start result s at h
    unfold collect at h
    obtain ⟨reached, s₁, hreach, h⟩ := gives_bind.mp h
    obtain ⟨_, s₂, hnotes, h⟩ := gives_bind.mp h
    obtain ⟨schemas, s₃, hask, h⟩ := gives_bind.mp h
    obtain ⟨_, s₄, hget, h⟩ := gives_bind.mp h
    obtain ⟨rfl, rfl⟩ := gives_pure.mp h
    obtain ⟨rfl, rfl⟩ := gives_get.mp hget
    obtain ⟨rfl, rfl⟩ := gives_ask.mp hask
    rw [gives_noteBuild hnotes]
    exact ⟨reached, s₁, hreach, rfl⟩
  · rintro ⟨reached, s₁, hreach, rfl⟩
    obtain ⟨s₂, hnotes, hsame⟩ := noteBuild_ends reached s₁
    rw [← hsame]
    exact ⟨_, gives_bind.mpr ⟨_, _, hreach, gives_bind.mpr ⟨(), _, hnotes, gives_bind.mpr ⟨_, _,
      gives_ask.mpr ⟨rfl, rfl⟩, gives_bind.mpr ⟨_, _, gives_get.mpr ⟨rfl, rfl⟩, gives_pure.mpr ⟨rfl, rfl⟩⟩⟩⟩⟩⟩

/-- A run completes if all its files are read, and then its result is what the catalogue says. -/
theorem collect_iff {options : ScanOptions} {o : SetOrder} {result : RunResult} :
    (∃ s, (collect t options o).run.run .start = (.ok result, s)) ↔
      ∃ files s₁ entries c, Gives (loadModules t options.source options.patterns) .start files s₁ ∧
        EntriesOf t files options.entryMarkers s₁ entries c ∧ result = resultOf options.policy o entries c := by
  rw [collect_iff_reach]
  constructor
  · rintro ⟨reached, s, h, rfl⟩
    unfold reach at h
    obtain ⟨files, s₁, hload, h⟩ := gives_bind.mp h
    obtain ⟨entries, s₂, hentries, hbuild⟩ := gives_bind.mp h
    obtain ⟨rfl, rfl⟩ := gives_ask.mp hbuild
    exact ⟨files, s₁, entries, s₂.catalogue, hload, collectEntryTypes_iff.mp ⟨s₂, hentries, rfl⟩, rfl⟩
  · rintro ⟨files, s₁, entries, c, hload, hentries, rfl⟩
    obtain ⟨s₂, hcollect, rfl⟩ := collectEntryTypes_iff.mpr hentries
    exact ⟨_, _, gives_bind.mpr ⟨files, s₁, hload, gives_bind.mpr ⟨entries, s₂, hcollect,
      gives_ask.mpr ⟨rfl, rfl⟩⟩⟩, rfl⟩

end ModelReach.Run
