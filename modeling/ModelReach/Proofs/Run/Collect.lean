import ModelReach.Proofs.Reach.Build
import ModelReach.Proofs.Run.Loading
import ModelReach.Proofs.Schema.Describing
import ModelReach.Run.Collect

/-! What a whole run finds. All models are accepted classes of the files scanned, and models and documents are
listed alike, in the strict order of their names. -/
namespace ModelReach.Run
set_option autoImplicit false

open Catalogue
open Files (FileTree ModuleFile)

variable {loads : List ModuleFacts} {t : FileTree}

/-! ## Entry types -/

theorem answers_implementing (names : List String) {l : List Descriptor} (h : ∀ d ∈ l, Known loads d) :
    Answers loads (implementing lineage names l) (fun c => implementing c.lineageReading names l) := by
  induction l with
  | nil => exact Answers.pure []
  | cons d l ih =>
    exact (answers_implements (h d (List.mem_cons_self ..)) names).bind fun _ _ =>
      (ih fun d' hd' => h d' (List.mem_cons_of_mem _ hd')).bind fun _ _ => Answers.pure _

theorem mem_implementing (v : Lineage Id) (names : List String) {l : List Descriptor} {d : Descriptor} :
    d ∈ (implementing v names l).run ↔ d ∈ l ∧ (v.implements d names).run = true := by
  induction l with
  | nil => exact ⟨fun h => absurd h List.not_mem_nil, fun h => absurd h.1 List.not_mem_nil⟩
  | cons e l ih =>
    have hrun : (implementing v names (e :: l)).run =
        if (v.implements e names).run = true then e :: (implementing v names l).run
        else (implementing v names l).run := rfl
    rw [hrun, List.mem_cons]
    split
    · rename_i he
      rw [List.mem_cons, ih]
      constructor
      · rintro (rfl | ⟨hd, hi⟩)
        · exact ⟨Or.inl rfl, he⟩
        · exact ⟨Or.inr hd, hi⟩
      · rintro ⟨rfl | hd, hi⟩
        · exact Or.inl rfl
        · exact Or.inr ⟨hd, hi⟩
    · rename_i he
      rw [ih]
      constructor
      · exact fun h => ⟨Or.inr h.1, h.2⟩
      · rintro ⟨rfl | hd, hi⟩
        · exact absurd hi he
        · exact ⟨hd, hi⟩

/-- The entry types are those among the classes of the files read that have a marker above them. -/
theorem collectEntryTypes_gives {files : List ModuleFile} {markers : List String} {s s' : RunState}
    {entries : TypeSet} (h : Gives (collectEntryTypes t files markers) s entries s')
    (hs : Fresh loads s.catalogue) :
    ∃ classes last, ReadAll t loads files classes last ∧ Sound last s'.catalogue ∧
      entries = TypeSet.ofList
        (implementing s'.catalogue.lineageReading markers classes.flatten).run := by
  unfold collectEntryTypes at h
  obtain ⟨classes, s₁, hall, h⟩ := gives_bind.mp h
  obtain ⟨found, s₂, hask, h⟩ := gives_bind.mp h
  obtain ⟨_, s₃, hnote, h⟩ := gives_bind.mp h
  obtain ⟨rfl, rfl⟩ := gives_pure.mp h
  obtain ⟨last, hfresh, hread⟩ := enumerate_all (gives_mapM.mp hall) hs
  have hknown : ∀ d ∈ classes.flatten, Known last d := fun d hd => (hread.registered d hd).known
  obtain ⟨hfollows, hlater⟩ := (answers_implementing markers hknown).run s₁.catalogue hfresh.inUse.sound
  obtain ⟨rfl, rfl⟩ := gives_ask.mp hask
  rw [gives_note.mp hnote]
  exact ⟨classes, last, hread, hfollows.sound, by rw [hlater _ (Follows.refl hfollows.sound)]⟩

/-! ## Models -/

/-- The facts are about a file that was scanned and may be read. -/
def FromScan (t : FileTree) (options : ScanOptions) (facts : ModuleFacts) : Prop :=
  ∃ files, Files.scan t options.source options.patterns = .ok files ∧
    ∃ file ∈ files, t.isReadable file.path = true ∧ readFacts t file = .ok facts

theorem reach_gives {options : ScanOptions} {o : SetOrder} {s : RunState} {reached : Reach.Reachability}
    (h : Gives (reach t options o) .start reached s) :
    ∃ loads c, (∀ facts ∈ loads, FromScan t options facts) ∧
      Reach.Built loads options.policy c reached s.catalogue := by
  unfold reach at h
  obtain ⟨files, s₁, hload, h⟩ := gives_bind.mp h
  obtain ⟨entries, s₂, hentries, hask⟩ := gives_bind.mp h
  obtain ⟨hfresh, scanned, hscan, rfl⟩ := loadModules_gives hload fresh_start
  obtain ⟨classes, loads, hread, hsound, he⟩ := collectEntryTypes_gives hentries hfresh
  obtain ⟨rfl, rfl⟩ := gives_ask.mp hask
  refine ⟨loads, s₂.catalogue, fun facts hf => ?_, Reach.built hsound options.policy o fun d hd => ?_⟩
  · rcases hread.origin facts hf with hf | ⟨file, hfile, hf⟩
    · cases hf
    · obtain ⟨hfile, hreadable⟩ := List.mem_filter.mp hfile
      exact ⟨scanned, hscan, file, hfile, hreadable, hf⟩
  · rw [he] at hd
    have hmem := ((mem_implementing _ _).mp (TypeSet.mem_of_mem_ofList hd)).1
    exact (hread.registered d hmem).known

theorem gives_noteBuild {r : Reach.Reachability} {s s' : RunState} {u : Unit}
    (h : Gives (noteBuild r) s u s') : s'.catalogue = s.catalogue := by
  unfold noteBuild noteModels notePhase at h
  obtain ⟨_, s₁, h₁, h⟩ := gives_bind.mp h
  obtain ⟨_, s₂, h₂, h⟩ := gives_bind.mp h
  obtain ⟨_, s₃, h₃, h⟩ := gives_bind.mp h
  obtain ⟨_, s₄, h₄, h⟩ := gives_bind.mp h
  obtain ⟨_, s₅, h₅, h⟩ := gives_bind.mp h
  rw [gives_note.mp h, gives_note.mp h₅, gives_note.mp h₄, gives_note.mp h₃, gives_note.mp h₂,
    gives_note.mp h₁]

/-- A collection that has given a result has reached models and described them. -/
structure Collected (t : FileTree) (options : ScanOptions) (o : SetOrder) (reached : Reach.Reachability)
    (before : Catalogue) (result : RunResult) (after : Catalogue) : Prop where
  models : result.models = sortedNames reached.models
  implementing : result.implementingModels = sortedNames reached.implementing
  schemas : result.schemas = (generateSchemas view (some options.policy) (reached.models.visit o)
    before).1.map ModelSchema.document
  after : after = (generateSchemas view (some options.policy) (reached.models.visit o) before).2

theorem collect_gives {options : ScanOptions} {o : SetOrder} {s : RunState} {result : RunResult}
    (h : Gives (collect t options o) .start result s) :
    ∃ reached s₁, Gives (reach t options o) .start reached s₁ ∧
      Collected t options o reached s₁.catalogue result s.catalogue := by
  unfold collect at h
  obtain ⟨reached, s₁, hreach, h⟩ := gives_bind.mp h
  obtain ⟨_, s₂, hnotes, h⟩ := gives_bind.mp h
  obtain ⟨schemas, s₃, hask, h⟩ := gives_bind.mp h
  obtain ⟨_, s₄, hget, h⟩ := gives_bind.mp h
  obtain ⟨rfl, rfl⟩ := gives_pure.mp h
  obtain ⟨rfl, rfl⟩ := gives_get.mp hget
  obtain ⟨rfl, rfl⟩ := gives_ask.mp hask
  rw [gives_noteBuild hnotes]
  exact ⟨reached, s₁, hreach, ⟨rfl, rfl, rfl, rfl⟩⟩

/-- Describing the models leaves a catalogue that answers as before, and the schemas are those that its
reading gives. -/
theorem Collected.describes {options : ScanOptions} {o : SetOrder} {reached : Reach.Reachability}
    {before c after : Catalogue} {result : RunResult} (h : Collected t options o reached before result after)
    (hb : Reach.Built loads options.policy c reached before) :
    Follows loads before after ∧ result.schemas = (generateSchemas after.reading (some options.policy)
      (reached.models.visit o)).run.map ModelSchema.document := by
  have hknown : ∀ m ∈ reached.models.visit o, Known loads m := fun m hm =>
    (hb.models.all m (TypeSet.mem_visit.mp hm)).registered.known
  obtain ⟨hf, ha⟩ := (answers_generateSchemas (some options.policy) hknown).run before hb.follows.sound
  rw [h.after, h.schemas]
  exact ⟨hf, by rw [ha _ (Follows.refl hf.sound)]⟩

theorem qualifiedName_of_registered {m : Descriptor} (h : Registered loads m) : m.qualifiedName = m.key := by
  obtain ⟨n, f, _, rfl⟩ := h
  rfl

theorem sortedNames_eq {s : TypeSet} (h : ∀ m ∈ s.members, Registered loads m) :
    sortedNames s = sortStrings s.keys := by
  rw [sortedNames, TypeSet.keys]
  exact congrArg sortStrings (List.map_congr_left fun m hm => qualifiedName_of_registered (h m hm))

theorem nodup_visit {s : TypeSet} (h : s.keys.Nodup) (o : SetOrder) :
    ((s.visit o).map Descriptor.key).Nodup :=
  ((o.perm s.members).map Descriptor.key).nodup_iff.mpr h

/-- A class statement of a file that was scanned, which the policy accepts as the catalogue answers. -/
structure AcceptedClass (t : FileTree) (options : ScanOptions) (c : Catalogue) (m : Descriptor) : Prop where
  declared : ∃ number facts module, m = .declared number facts ∧ facts ∈ module.classes ∧
    FromScan t options module
  accepts : (options.policy.accepts view m c).1 = true
  acceptable : Reach.Acceptable options.policy (view.kind m c).1 m

theorem acceptedClass_of_accepted {options : ScanOptions} {c : Catalogue} {m : Descriptor}
    (hc : Sound loads c) (hl : ∀ facts ∈ loads, FromScan t options facts)
    (h : Reach.Accepted loads options.policy m) : AcceptedClass t options c m where
  declared := by
    obtain ⟨n, f, hf, rfl⟩ := h.registered
    obtain ⟨module, hmodule, hclass⟩ := List.mem_flatMap.mp (List.mem_of_getElem? hf)
    exact ⟨n, f, module, rfl, hclass, hl module hmodule⟩
  accepts := (Reach.accepts_view hc h.registered.known).trans (h.accepts c hc)
  acceptable := by
    rw [Reach.kind_view hc h.registered.known]
    exact Reach.acceptable_of_accepts (h.accepts c hc)

/-- A service with a method that returns a model, which refers to itself and to an ignored class. -/
def sampleSource : String :=
  "class S(B):\n  def f(self)->A:\n    pass\nclass A:\n  a: list[A]\n  d: D\n@schema_ignore\nclass D:\n  y: int\n"

def sampleTree : FileTree :=
  ⟨[(["r"], .directory), (["r", "m.py"], .file (Text.ofString sampleSource))], [], []⟩

def sampleOptions : ScanOptions := ⟨"/r", ["*.py"], ["B"], defaultIgnoreMarker, [], false⟩

/-- The names of the models that a collection has found; none if it has failed. -/
def modelNames : Except RunFault RunResult → List String
  | .ok result => result.models
  | .error _ => []

theorem sample_completes : ∃ result s,
    (collect sampleTree sampleOptions .inserted).run.run .start = (.ok result, s) ∧
      result.models = ["m.A"] := by
  have hnames : modelNames ((collect sampleTree sampleOptions .inserted).run.run .start).1 = ["m.A"] := by
    decide +kernel
  rcases hrun : (collect sampleTree sampleOptions .inserted).run.run .start with ⟨fault | result, s⟩
  · rw [hrun] at hnames
    cases hnames
  · rw [hrun] at hnames
    exact ⟨result, s, rfl, hnames⟩

end ModelReach.Run
