import ModelReach.Proofs.Files.Scans
import ModelReach.Proofs.Run.Entries
import ModelReach.Proofs.Run.Result

/-! Files that fail. Each is noted under its path, and a run without them finds everything else alike: reading the
others leaves the same catalogue up to the failures, and no question looks at these. Links can bring another file to
light where one is taken away; without links none comes. -/
namespace ModelReach.Run
set_option autoImplicit false

open Catalogue
open Files (FileTree ModuleFile WellFormed)

variable {loads : List ModuleFacts} {t : FileTree}

/-! ## Failing files -/

/-- Does a file fail: may it not be read, or does reading it give no facts? -/
def fails (t : FileTree) (file : ModuleFile) : Bool := !t.isReadable file.path || !(readFacts t file).isOk

theorem fails_eq_false {file : ModuleFile} :
    fails t file = false ↔ t.isReadable file.path = true ∧ (readFacts t file).isOk = true := by
  rw [fails, Bool.or_eq_false_iff, Bool.not_eq_false', Bool.not_eq_false']

/-- The parts where a file stands; links are followed. -/
def place (t : FileTree) (file : ModuleFile) : Option (List String) := (t.find file.path).toOption.map Prod.fst

/-- The parts where the files of a list stand that fail. -/
def failing (t : FileTree) (files : List ModuleFile) : List (List String) :=
  (files.filter (fails t)).filterMap (place t)

theorem mem_failing {files : List ModuleFile} {parts : List String} :
    parts ∈ failing t files ↔ ∃ file ∈ files, fails t file = true ∧ place t file = some parts := by
  unfold failing
  simp only [List.mem_filterMap, List.mem_filter, and_assoc]

/-- The tree without those of the files that fail. -/
def withoutFailing (t : FileTree) (files : List ModuleFile) : FileTree := t.eraseAll (failing t files)

/-- The files that fail can be taken away from a scan: only they are found under their paths below the root, and
where one of them stands no other path leads to a file that does not fail. -/
structure Isolable (t : FileTree) (root : String) (patterns : List String) (files : List ModuleFile) : Prop where
  alone : ∀ f ∈ files, fails t f = true → ∀ g, Files.Met t root patterns g → g.relPath = f.relPath →
    ∃ other ∈ files, fails t other = true ∧ place t g = place t other
  together : ∀ f ∈ files, ∀ g ∈ files, place t f = place t g → fails t f = fails t g

/-! ## Noting failures -/

/-- If a file fails to load, its path is noted among the failures, and nothing else changes. -/
theorem declaredTypes_failed {file : ModuleFile} {c c' : Catalogue} {path : String} {cause : LoadCause}
    (h : c.declaredTypes t file = (.error (.failed path cause), c')) :
    path = file.path ∧ c' = { c with failures := assign c.failures file.path cause.message } := by
  unfold Catalogue.declaredTypes at h
  split at h
  · cases h
  · split at h
    · cases h
    · split at h
      · cases h
        exact ⟨rfl, rfl⟩
      · cases h
    · cases h
      exact ⟨rfl, rfl⟩

/-- A fault that ends the run changes nothing. -/
theorem declaredTypes_fatal {file : ModuleFile} {c c' : Catalogue} {fault : Source.SourceFault}
    (h : c.declaredTypes t file = (.error (.fatal fault), c')) : c' = c := by
  unfold Catalogue.declaredTypes at h
  split at h
  · cases h
  · split at h
    · cases h
    · split at h
      · cases h
      · cases h
        rfl
    · cases h

theorem declaredTypes_ok {file : ModuleFile} {c c' : Catalogue} {classes : List Descriptor}
    (h : c.declaredTypes t file = (.ok classes, c')) : c'.failures = c.failures := by
  unfold Catalogue.declaredTypes at h
  split at h
  · cases h
    rfl
  · split at h
    · cases h
      rfl
    · split at h <;> cases h
    · cases h

theorem isOk_declaredTypes {file : ModuleFile} {c : Catalogue} (h : c.modules.lookup file.path = none) :
    (c.declaredTypes t file).1.isOk = (readFacts t file).isOk := by
  unfold Catalogue.declaredTypes
  rw [h]
  dsimp only
  rcases readFacts t file with ⟨_ | _ | fault⟩ | facts
  · rfl
  · rfl
  · dsimp only
    split <;> rfl
  · rfl

/-- The paths of the files that failed so far. -/
def failedPaths (s : RunState) : List String := s.catalogue.failures.map Prod.fst

/-- Paths stay distinct when the first of those to come is noted or passed over. -/
theorem nodup_noted {known paths : List String} {path : String} (h : (known ++ path :: paths).Nodup) (good : Bool) :
    ((known ++ if good then [] else [path]) ++ paths).Nodup := by
  rw [List.append_assoc]
  refine List.Pairwise.sublist ((List.Sublist.refl _).append ?_) h
  split
  · exact List.sublist_cons_self _ _
  · exact List.Sublist.refl _

theorem notMem_of_nodup {known paths : List String} {path : String} (h : (known ++ path :: paths).Nodup) :
    path ∉ known := fun hm => (List.nodup_append.mp h).2.2 _ hm _ (List.mem_cons_self ..) rfl

theorem keepReadable_fails {file : ModuleFile} {s s' : RunState} {kept : Option ModuleFile}
    (h : Gives (keepReadable t file) s kept s') (hnew : file.path ∉ failedPaths s) :
    failedPaths s' = failedPaths s ++ if t.isReadable file.path then [] else [file.path] := by
  unfold keepReadable at h
  split at h
  · rename_i hr
    obtain ⟨rfl, rfl⟩ := gives_pure.mp h
    rw [if_pos hr, List.append_nil]
  · rename_i hr
    obtain ⟨_, s₁, hfail, h⟩ := gives_bind.mp h
    obtain ⟨_, s₂, hnote, h⟩ := gives_bind.mp h
    obtain ⟨rfl, rfl⟩ := gives_pure.mp h
    obtain ⟨_, rfl⟩ := gives_ask.mp hfail
    rw [gives_note.mp hnote, if_neg hr]
    exact (keys_assign s.catalogue.failures file.path _).trans (if_neg hnew)

theorem keepReadables_fail {files : List ModuleFile} {s s' : RunState} {kept : List (Option ModuleFile)}
    (h : GivesAll (keepReadable t) files s kept s') (hnew : (failedPaths s ++ files.map ModuleFile.path).Nodup) :
    failedPaths s' = failedPaths s ++ (files.filter fun f => !t.isReadable f.path).map ModuleFile.path := by
  induction h with
  | nil => exact (List.append_nil _).symm
  | @cons file files _ _ s s₁ s₂ h _ ih =>
    rw [List.map_cons] at hnew
    have hfirst := keepReadable_fails h (notMem_of_nodup hnew)
    have hrest : (failedPaths s₁ ++ files.map ModuleFile.path).Nodup := hfirst ▸ nodup_noted hnew _
    rw [ih hrest, hfirst, List.append_assoc, List.filter_cons]
    congr 1
    cases t.isReadable file.path <;> rfl

theorem loadModules_fails {root : String} {patterns : List String} {files kept : List ModuleFile} {s' : RunState}
    (h : Gives (loadModules t root patterns) .start kept s') (hscan : Files.scan t root patterns = .ok files)
    (hnodup : (files.map ModuleFile.path).Nodup) :
    failedPaths s' = (files.filter fun f => !t.isReadable f.path).map ModuleFile.path := by
  unfold loadModules at h
  rw [hscan] at h
  obtain ⟨found, s₁, hfound, h⟩ := gives_bind.mp h
  obtain ⟨_, s₂, hnote, h⟩ := gives_bind.mp h
  obtain ⟨rfl, rfl⟩ := gives_pure.mp h
  rw [gives_note.mp hnote]
  exact keepReadables_fail (gives_mapM.mp hfound) hnodup

theorem enumerate_fails {file : ModuleFile} {s s' : RunState} {classes : List Descriptor}
    (h : Gives (enumerate t file) s classes s') (hunread : s.catalogue.modules.lookup file.path = none)
    (hnew : file.path ∉ failedPaths s) :
    failedPaths s' = failedPaths s ++ if (readFacts t file).isOk then [] else [file.path] := by
  have hisOk := isOk_declaredTypes (t := t) hunread
  unfold enumerate at h
  obtain ⟨answer, s₁, hask, h⟩ := gives_bind.mp h
  obtain ⟨ha, rfl⟩ := gives_ask.mp hask
  rcases hd : s.catalogue.declaredTypes t file with ⟨fault | found, c⟩
  · rw [hd] at ha h hisOk
    subst ha
    cases fault with
    | failed path cause =>
      obtain ⟨_, s₂, hnote, h⟩ := gives_bind.mp h
      obtain ⟨rfl, rfl⟩ := gives_pure.mp h
      obtain ⟨rfl, rfl⟩ := declaredTypes_failed hd
      rw [gives_note.mp hnote, ← hisOk]
      exact (keys_assign s.catalogue.failures file.path _).trans (if_neg hnew)
    | fatal fault => exact absurd h not_gives_throw
  · rw [hd] at ha h hisOk
    subst ha
    obtain ⟨rfl, rfl⟩ := gives_pure.mp h
    rw [← hisOk]
    change c.failures.map Prod.fst = _ ++ []
    rw [declaredTypes_ok hd, List.append_nil]
    rfl

theorem enumerates_fail {files : List ModuleFile} {s s' : RunState} {classes : List (List Descriptor)}
    (h : GivesAll (enumerate t) files s classes s') (hs : Fresh loads s.catalogue)
    (hunread : (loads.map ModuleFacts.path ++ files.map ModuleFile.path).Nodup)
    (hnew : (failedPaths s ++ files.map ModuleFile.path).Nodup) :
    failedPaths s' = failedPaths s ++ (files.filter fun f => !(readFacts t f).isOk).map ModuleFile.path := by
  induction h generalizing loads with
  | nil => exact (List.append_nil _).symm
  | @cons file files _ _ s s₁ s₂ h _ ih =>
    rw [List.map_cons] at hnew hunread
    have hfile : (loaded loads).modules.lookup file.path = none := lookup_modules_eq_none (notMem_of_nodup hunread)
    have hfirst := enumerate_fails h (hs.modules ▸ hfile) (notMem_of_nodup hnew)
    obtain ⟨more, hmore, henumerated⟩ := enumerate_gives h hs
    obtain ⟨_, rfl⟩ := henumerated.unread hfile
    have hreadNext : ((loads ++ readable t [file]).map ModuleFacts.path ++ files.map ModuleFile.path).Nodup := by
      rw [List.map_append, List.append_assoc]
      exact List.Pairwise.sublist ((List.Sublist.refl _).append ((paths_readable t file).append (List.Sublist.refl _)))
        hunread
    have hnewNext : (failedPaths s₁ ++ files.map ModuleFile.path).Nodup := hfirst ▸ nodup_noted hnew _
    rw [ih hmore hreadNext hnewNext, hfirst, List.append_assoc, List.filter_cons]
    congr 1
    cases (readFacts t file).isOk <;> rfl

/-! ## The tree without failing files -/

section Without
variable (hw : WellFormed t) {root : String} {patterns : List String} {files : List ModuleFile}
  (hscan : Files.scan t root patterns = .ok files)
include hw hscan

omit hw hscan in
theorem place_of_scanned {p : Files.PurePath} {file : ModuleFile}
    (h : Files.Scanned t (Files.PurePath.ofString root) p file) :
    ∃ parts content, t.find file.path = .ok (parts, .file content) ∧ place t file = some parts := by
  obtain ⟨parts, content, hfind⟩ := h.find
  exact ⟨parts, content, hfind, by rw [place, hfind]; rfl⟩

omit hscan in
/-- Without links a file stands where its path says. -/
theorem place_eq (hl : t.LinkFree) {p : Files.PurePath} {file : ModuleFile}
    (h : Files.Scanned t (Files.PurePath.ofString root) p file) :
    place t file = some (Files.absoluteParts t.workDir p) := by
  obtain ⟨_, _, hfind, hplace⟩ := place_of_scanned h
  rw [hplace, h.parts_eq_of_find hw hl hfind]

/-- Without links a path below the root stands for one file. -/
theorem isolable_of_linkFree (hl : t.LinkFree) : Isolable t root patterns files where
  alone f hf hfails g hmet hrel := by
    obtain ⟨p, hsf⟩ := Files.scanned_of_scan hw hscan hf
    obtain ⟨q, hsg⟩ := Files.scanned_of_met hw hmet
    refine ⟨f, hf, hfails, ?_⟩
    rw [place_eq hw hl hsf, place_eq hw hl hsg, hsg.parts_eq hw hsf hrel]
  together f hf g hg hplace := by
    obtain ⟨_, hsf⟩ := Files.scanned_of_scan hw hscan hf
    obtain ⟨_, hsg⟩ := Files.scanned_of_scan hw hscan hg
    obtain ⟨_, _, hfindF, hplaceF⟩ := place_of_scanned hsf
    obtain ⟨_, _, hfindG, hplaceG⟩ := place_of_scanned hsg
    rw [hplaceF, hplaceG] at hplace
    cases hplace
    rw [Files.eq_of_find hw hscan hl hf hg hfindF hfindG]

theorem allFiles_failing : t.AllFiles (failing t files) := by
  intro parts hparts
  obtain ⟨file, hfile, _, hplace⟩ := mem_failing.mp hparts
  obtain ⟨p, hscanned⟩ := Files.scanned_of_scan hw hscan hfile
  obtain ⟨_, content, hfind, hparts⟩ := place_of_scanned hscanned
  cases hplace.symm.trans hparts
  exact ⟨content, (Files.FileTree.find_ok hfind).2.2.1⟩

omit hw hscan in
/-- What is not left in the tree stands where some file stands that fails. -/
theorem isKept_eq_false {file : ModuleFile} {parts : List String} (h : place t file = some parts) :
    Files.isKept t (failing t files) file = false ↔
      ∃ other ∈ files, fails t other = true ∧ place t file = place t other := by
  rw [h, Files.isKept]
  rw [place] at h
  cases hfind : t.find file.path with
  | error fault =>
    rw [hfind] at h
    cases h
  | ok found =>
    rw [hfind] at h
    cases h
    dsimp only
    rw [Bool.not_eq_false', List.contains_iff_mem, mem_failing]
    simp only [eq_comm]

variable (hi : Isolable t root patterns files)
include hi

/-- A file is left in the tree if it does not fail. -/
theorem isKept_failing {file : ModuleFile} (hfile : file ∈ files) :
    Files.isKept t (failing t files) file = !fails t file := by
  obtain ⟨p, hscanned⟩ := Files.scanned_of_scan hw hscan hfile
  obtain ⟨_, _, _, hplace⟩ := place_of_scanned hscanned
  have hleft : Files.isKept t (failing t files) file = false ↔ _ := isKept_eq_false hplace
  cases hfails : fails t file with
  | true => exact hleft.mpr ⟨file, hfile, hfails, rfl⟩
  | false =>
    refine Bool.eq_true_of_not_eq_false fun hgone => ?_
    obtain ⟨other, hother, hbad, hsame⟩ := hleft.mp hgone
    rw [hi.together file hfile other hother hsame, hbad] at hfails
    cases hfails

theorem scan_withoutFailing :
    Files.scan (withoutFailing t files) root patterns = .ok (files.filter fun f => !fails t f) := by
  rw [withoutFailing, Files.scan_eraseAll hw (allFiles_failing hw hscan) hscan]
  · exact congrArg Except.ok (List.filter_congr fun f hf => isKept_failing hw hscan hi hf)
  · intro f hf g hmet hrel hkept
    rw [isKept_failing hw hscan hi hf, Bool.not_eq_true']
    refine Bool.eq_false_iff.mpr fun hfails => ?_
    obtain ⟨_, hscanned⟩ := Files.scanned_of_met hw hmet
    obtain ⟨_, _, _, hplace⟩ := place_of_scanned hscanned
    rw [(isKept_eq_false hplace).mpr (hi.alone f hf hfails g hmet hrel.symm)] at hkept
    cases hkept

/-- A file that does not fail is found as before. -/
theorem find_withoutFailing {file : ModuleFile} (hfile : file ∈ files) (hgood : fails t file = false) :
    (withoutFailing t files).find file.path = t.find file.path := by
  obtain ⟨p, hscanned⟩ := Files.scanned_of_scan hw hscan hfile
  obtain ⟨parts, content, hfind, _⟩ := place_of_scanned hscanned
  have hkept := isKept_failing hw hscan hi hfile
  rw [hgood, Files.isKept, hfind] at hkept
  have hleft : parts ∉ failing t files := fun hm => by
    dsimp only at hkept
    rw [List.contains_iff_mem.mpr hm] at hkept
    cases hkept
  rw [hfind]
  exact Files.FileTree.find_eraseAll_of_notMem hw (allFiles_failing hw hscan) hfind hleft

theorem isReadable_withoutFailing {file : ModuleFile} (hfile : file ∈ files) (hgood : fails t file = false) :
    (withoutFailing t files).isReadable file.path = true := by
  rw [← (fails_eq_false.mp hgood).1, FileTree.isReadable, FileTree.isReadable,
    find_withoutFailing hw hscan hi hfile hgood, withoutFailing, Files.FileTree.unreadable_eraseAll]

theorem readFacts_withoutFailing {file : ModuleFile} (hfile : file ∈ files) (hgood : fails t file = false) :
    readFacts (withoutFailing t files) file = readFacts t file := by
  rw [readFacts, readFacts, FileTree.read, FileTree.read, find_withoutFailing hw hscan hi hfile hgood,
    withoutFailing, Files.FileTree.unreadable_eraseAll]

/-- No file fails that is left. -/
theorem fails_withoutFailing {file : ModuleFile} (hfile : file ∈ files.filter fun f => !fails t f) :
    fails (withoutFailing t files) file = false := by
  obtain ⟨hmem, hgood⟩ := List.mem_filter.mp hfile
  rw [Bool.not_eq_true'] at hgood
  refine fails_eq_false.mpr ⟨isReadable_withoutFailing hw hscan hi hmem hgood, ?_⟩
  rw [readFacts_withoutFailing hw hscan hi hmem hgood]
  exact (fails_eq_false.mp hgood).2

/-- The facts of the files that are left are those of all files that may be read. -/
theorem readable_withoutFailing : readable (withoutFailing t files) (files.filter fun f => !fails t f) =
    readable t (files.filter fun f => t.isReadable f.path) := by
  unfold readable
  rw [List.filterMap_filter, List.filterMap_filter]
  apply List.filterMap_congr
  intro file hfile
  cases hfails : fails t file with
  | false =>
    rw [if_pos (Bool.not_false), if_pos (fails_eq_false.mp hfails).1,
      readFacts_withoutFailing hw hscan hi hfile hfails]
  | true =>
    rw [if_neg (by decide)]
    split
    · rename_i hreadable
      rw [fails, hreadable] at hfails
      cases hread : readFacts t file with
      | error fault => rfl
      | ok facts =>
        rw [hread] at hfails
        cases hfails
    · rfl

end Without

/-! ## Runs with and without failing files -/

theorem keepReadables_end (t : FileTree) (files : List ModuleFile) (s : RunState) :
    ∃ kept s', GivesAll (keepReadable t) files s kept s' := by
  induction files generalizing s with
  | nil => exact ⟨[], s, GivesAll.nil⟩
  | cons file files ih =>
    obtain ⟨kept, s₁, h⟩ : ∃ kept s₁, Gives (keepReadable t file) s kept s₁ := by
      unfold keepReadable
      split
      · exact ⟨_, _, gives_pure.mpr ⟨rfl, rfl⟩⟩
      · exact ⟨_, _, gives_bind.mpr ⟨_, _, gives_ask.mpr ⟨rfl, rfl⟩,
          gives_bind.mpr ⟨(), _, gives_note.mpr rfl, gives_pure.mpr ⟨rfl, rfl⟩⟩⟩⟩
    obtain ⟨rest, s₂, hrest⟩ := ih s₁
    exact ⟨kept :: rest, s₂, GivesAll.cons h hrest⟩

theorem loadModules_ends {root : String} {patterns : List String} {files : List ModuleFile}
    (hscan : Files.scan t root patterns = .ok files) (s : RunState) :
    ∃ loaded s', Gives (loadModules t root patterns) s loaded s' := by
  obtain ⟨kept, s₁, hkept⟩ := keepReadables_end t files s
  unfold loadModules
  rw [hscan]
  exact ⟨_, _, gives_bind.mpr ⟨kept, s₁, gives_mapM.mpr hkept,
    gives_bind.mpr ⟨(), _, gives_note.mpr rfl, gives_pure.mpr ⟨rfl, rfl⟩⟩⟩⟩

/-- The entry types among the classes that were read, and the catalogue that has found them. -/
def entriesIn (markers : List String) (loads : List ModuleFacts) : TypeSet × Catalogue :=
  let found := implementing lineage markers (numbered 0 (classesIn loads)) (loaded loads)
  (TypeSet.ofList found.1, found.2)

theorem known_numbered (loads : List ModuleFacts) : ∀ d ∈ numbered 0 (classesIn loads), Known loads d := fun _ hd =>
  (registered_iff_mem.mpr hd).known

theorem sound_entriesIn (markers : List String) (loads : List ModuleFacts) :
    Sound loads (entriesIn markers loads).2 :=
  (answers_implementing markers (known_numbered _)).sound (sound_loaded loads)

theorem registered_entriesIn (markers : List String) (loads : List ModuleFacts) :
    ∀ e ∈ (entriesIn markers loads).1.members, Registered loads e := by
  intro e he
  have hanswers := answers_implementing markers (known_numbered loads)
  have he := TypeSet.mem_of_mem_ofList he
  rw [← hanswers.shown (sound_loaded loads)] at he
  exact registered_iff_mem.mpr ((mem_implementing _ _).mp he).1

/-- If no file is read twice, the entry types are those among the classes of the files that can be read. -/
theorem EntriesOf.eq_entriesIn {files : List ModuleFile} {markers : List String} {s : RunState} {entries : TypeSet}
    {c : Catalogue} (h : EntriesOf t files markers s entries c) (hs : Fresh [] s.catalogue)
    (hnodup : (failedPaths s ++ files.map ModuleFile.path).Nodup) :
    entries = (entriesIn markers (readable t files)).1 ∧
      ∃ failures, c = { (entriesIn markers (readable t files)).2 with failures := failures } ∧
        failures.map Prod.fst =
          failedPaths s ++ (files.filter fun f => !(readFacts t f).isOk).map ModuleFile.path := by
  obtain ⟨classes, s₁, hall, rfl, rfl⟩ := h
  have hpaths : (files.map ModuleFile.path).Nodup := (List.nodup_append.mp hnodup).2.1
  have hfailed := enumerates_fail hall hs hpaths hnodup
  obtain ⟨last, hfresh, hread⟩ := enumerate_all hall hs
  obtain ⟨hclasses, rfl⟩ := hread.unread hpaths
  obtain ⟨failures, hcatalogue⟩ := hfresh
  have hunheeding := (answers_implementing markers (known_numbered _)).unheeding _ (sound_loaded (readable t files))
  have hfound := hunheeding.failed failures
  change classes.flatten = numbered 0 (classesIn (readable t files)) at hclasses
  rw [List.nil_append] at hcatalogue
  rw [failedPaths, hcatalogue] at hfailed
  rw [hclasses, hcatalogue, hfound]
  exact ⟨rfl, failures, rfl, hfailed⟩

/-- The files that fail are those that may not be read, and of the others those that give no facts. -/
theorem failing_perm (t : FileTree) (files : List ModuleFile) :
    ((files.filter fun f => !t.isReadable f.path) ++
      (files.filter fun f => t.isReadable f.path).filter fun f => !(readFacts t f).isOk).Perm
        (files.filter (fails t)) := by
  have hfirst : (files.filter (fails t)).filter (fun f => !t.isReadable f.path) =
      files.filter fun f => !t.isReadable f.path := by
    rw [List.filter_filter]
    refine List.filter_congr fun f _ => ?_
    rw [fails]
    cases t.isReadable f.path <;> rfl
  have hsecond : (files.filter (fails t)).filter (fun f => !!t.isReadable f.path) =
      (files.filter fun f => t.isReadable f.path).filter fun f => !(readFacts t f).isOk := by
    rw [List.filter_filter, List.filter_filter]
    refine List.filter_congr fun f _ => ?_
    rw [fails]
    cases t.isReadable f.path <;> cases (readFacts t f).isOk <;> rfl
  rw [← hfirst, ← hsecond]
  exact List.filter_append_perm _ _

/-- What a run finds, if no file is found twice: the failures are the paths of the files that fail, and the rest is
found among the classes of the others. -/
theorem collect_eq {options : ScanOptions} {o : SetOrder} {s : RunState} {result : RunResult}
    (h : (collect t options o).run.run .start = (.ok result, s)) {files : List ModuleFile}
    (hscan : Files.scan t options.source options.patterns = .ok files)
    (hnodup : (files.map ModuleFile.path).Nodup) :
    result = (resultOf options.policy o
        (entriesIn options.entryMarkers (readable t (files.filter fun f => t.isReadable f.path))).1
        (entriesIn options.entryMarkers (readable t (files.filter fun f => t.isReadable f.path))).2).withFailed
      (sortStrings ((files.filter (fails t)).map ModuleFile.path)) := by
  obtain ⟨kept, s₁, entries, c, hload, hentries, rfl⟩ := collect_iff.mp ⟨s, h⟩
  obtain ⟨hfresh, scanned, hscanned, rfl⟩ := loadModules_gives hload fresh_start
  cases hscan.symm.trans hscanned
  have hfailed := loadModules_fails hload hscan hnodup
  have hall : (failedPaths s₁ ++ (files.filter fun f => t.isReadable f.path).map ModuleFile.path).Nodup := by
    have hperm := List.filter_append_perm (fun f => t.isReadable f.path) files
    rw [hfailed, ← List.map_append]
    have hsplit := (hperm.map ModuleFile.path).nodup_iff.mpr hnodup
    exact (List.perm_append_comm.map ModuleFile.path).nodup_iff.mpr hsplit
  obtain ⟨rfl, failures, rfl, hfailures⟩ := hentries.eq_entriesIn hfresh hall
  have hpaths : sortStrings (failures.map Prod.fst) = sortStrings ((files.filter (fails t)).map ModuleFile.path) := by
    rw [hfailures, hfailed, ← List.map_append]
    exact sortStrings_congr ((failing_perm t files).map _)
  rw [resultOf_failures (sound_entriesIn _ _) options.policy o (registered_entriesIn _ _) failures
    (entriesIn options.entryMarkers (readable t (files.filter fun f => t.isReadable f.path))).2.modules, hpaths]

/-- A run completes if each file that may be read can be read or fails alone. -/
theorem collect_completes {options : ScanOptions} (o : SetOrder) {files : List ModuleFile}
    (hscan : Files.scan t options.source options.patterns = .ok files)
    (hf : ∀ f ∈ files, t.isReadable f.path = true → FailsAlone t f) :
    ∃ result s, (collect t options o).run.run .start = (.ok result, s) := by
  obtain ⟨kept, s₁, hload⟩ := loadModules_ends hscan .start
  obtain ⟨hfresh, scanned, hscanned, rfl⟩ := loadModules_gives hload fresh_start
  cases hscan.symm.trans hscanned
  obtain ⟨classes, s₂, hall⟩ := enumerate_all_ends (fun f hm =>
    hf f (List.mem_filter.mp hm).1 (List.mem_filter.mp hm).2) s₁
  have hentries : EntriesOf t _ options.entryMarkers s₁ _ _ := ⟨classes, s₂, hall, rfl, rfl⟩
  exact ⟨_, collect_iff.mpr ⟨_, s₁, _, _, hload, hentries, rfl⟩⟩

/-- Whether a file fails alone can be computed. -/
theorem failsAlone_of_ne {file : ModuleFile}
    (h : ((readFacts t file).map fun _ => ()).mapError LoadCause.isLoadFailure ≠ .error false) : FailsAlone t file := by
  intro fault hfault
  rw [hfault] at h
  exact Bool.eq_true_of_not_eq_false fun he => h (congrArg Except.error he)

/-- A run completes on the tree without the files that fail, and finds the same but for the failures. -/
theorem collect_withoutFailing (hw : WellFormed t) {options : ScanOptions} {o : SetOrder} {s : RunState}
    {result : RunResult} (h : (collect t options o).run.run .start = (.ok result, s)) {files : List ModuleFile}
    (hscan : Files.scan t options.source options.patterns = .ok files)
    (hi : Isolable t options.source options.patterns files) :
    ∃ s', (collect (withoutFailing t files) options o).run.run .start =
      (.ok { result with failedModules := [] }, s') := by
  have hnodup := Files.nodup_path_scan hw hscan
  have hleft := scan_withoutFailing hw hscan hi
  have hgood : ∀ f ∈ files.filter (fun f => !fails t f),
      (withoutFailing t files).isReadable f.path = true ∧ (readFacts (withoutFailing t files) f).isOk = true :=
    fun f hf => fails_eq_false.mp (fails_withoutFailing hw hscan hi hf)
  obtain ⟨result', s', hrun⟩ := collect_completes o hleft fun f hf _ fault hfault => by
    have hread := (hgood f hf).2
    rw [hfault] at hread
    cases hread
  have hresult' := collect_eq hrun hleft (hnodup.sublist ((List.filter_sublist).map _))
  have hall : (files.filter fun f => !fails t f).filter
      (fun f => (withoutFailing t files).isReadable f.path) = files.filter fun f => !fails t f :=
    List.filter_eq_self.mpr fun f hf => (hgood f hf).1
  have hnone : (files.filter fun f => !fails t f).filter (fails (withoutFailing t files)) = [] := by
    rw [List.filter_eq_nil_iff]
    exact fun f hf => Bool.not_eq_true _ ▸ fails_withoutFailing hw hscan hi hf
  have hempty : sortStrings [] = [] := List.mergeSort_nil
  rw [hall, hnone, readable_withoutFailing hw hscan hi, List.map_nil, hempty] at hresult'
  refine ⟨s', hrun.trans ?_⟩
  rw [hresult', collect_eq h hscan hnodup]
  rfl

/-- The names of the models that are reached from the entry types among the classes that were read. -/
def modelsIn (options : ScanOptions) (o : SetOrder) (loads : List ModuleFacts) : List String :=
  let entries := entriesIn options.entryMarkers loads
  (Reach.build options.policy view o entries.1.members entries.2).1.models.members.map Descriptor.qualifiedName

/-- A run on files each of which can be read or fails alone. -/
theorem collect_on {options : ScanOptions} (o : SetOrder) {files : List ModuleFile}
    (hscan : Files.scan t options.source options.patterns = .ok files) (hnodup : (files.map ModuleFile.path).Nodup)
    (hf : ∀ f ∈ files, ((readFacts t f).map fun _ => ()).mapError LoadCause.isLoadFailure ≠ .error false) :
    ∃ result s, (collect t options o).run.run .start = (.ok result, s) ∧
      result.failedModules = sortStrings ((files.filter (fails t)).map ModuleFile.path) ∧
      result.models = sortStrings (modelsIn options o (readable t (files.filter fun f => t.isReadable f.path))) := by
  obtain ⟨result, s, hrun⟩ := collect_completes o hscan fun f hm _ => failsAlone_of_ne (hf f hm)
  refine ⟨result, s, hrun, ?_, ?_⟩
  · rw [collect_eq hrun hscan hnodup]
    rfl
  · rw [collect_eq hrun hscan hnodup]
    rfl

/-- A file that breaks off, one that may not be read, and one with a service and its models. -/
def brokenTree : FileTree :=
  ⟨[(["r"], .directory), (["r", "bad.py"], .file (Text.ofString "class (")),
    (["r", "locked.py"], .file (Text.ofString "class M:\n  pass\n")),
    (["r", "m.py"], .file (Text.ofString "class S(B):\n  def f(self)->A:\n    pass\nclass A:\n  x: int\n"))],
    [], [["r", "locked.py"]]⟩

def brokenFiles : List ModuleFile :=
  [⟨"/r/bad.py", "bad.py", "bad", false⟩, ⟨"/r/locked.py", "locked.py", "locked", false⟩,
    ⟨"/r/m.py", "m.py", "m", false⟩]

theorem scan_broken : Files.scan brokenTree "/r" ["*.py"] = .ok brokenFiles :=
  Files.scan_of_sorted (by decide +kernel) (by decide +kernel)

/-- A file that breaks off, and a link through which a file with a service is found under the same path below the
root. -/
def uncoveredTree : FileTree :=
  ⟨[(["r"], .directory), (["r", "a.py"], .file (Text.ofString "class (")), (["r", "link"], .link "../d"),
    (["d"], .directory),
    (["a.py"], .file (Text.ofString "class S(B):\n  def f(self)->A:\n    pass\nclass A:\n  x: int\n"))],
    [], []⟩

def uncoveredOptions : ScanOptions := ⟨"/r", ["a.py", "link/../a.py"], ["B"], defaultIgnoreMarker, [], false⟩

def uncoveredFiles : List ModuleFile := [⟨"/r/a.py", "a.py", "a", false⟩]

/-- A file whose text is in the grammar, with a decorator that cannot be written out. -/
def labelledTree : FileTree :=
  ⟨[(["r"], .directory),
    (["r", "m.py"], .file (Text.ofString "class C:\n  x: int\n  @labels[f\"\x7b'\x7f'\x7d\"]\n  def _label(self): ...\n"))],
    [], []⟩

def labelledFiles : List ModuleFile := [⟨"/r/m.py", "m.py", "m", false⟩]

theorem scan_uncovered :
    Files.scan uncoveredTree uncoveredOptions.source uncoveredOptions.patterns = .ok uncoveredFiles :=
  Files.scan_of_sorted (by decide +kernel) (by decide +kernel)

theorem scan_labelled : Files.scan labelledTree sampleOptions.source sampleOptions.patterns = .ok labelledFiles :=
  Files.scan_of_sorted (by decide +kernel) (by decide +kernel)

/-- Without the file that fails the scan finds the one that is uncovered. -/
theorem scan_uncovered_without : Files.scan (withoutFailing uncoveredTree uncoveredFiles) uncoveredOptions.source
    uncoveredOptions.patterns = .ok [⟨"/r/link/../a.py", "a.py", "a", false⟩] :=
  Files.scan_of_sorted (by decide +kernel) (by decide +kernel)

end ModelReach.Run
