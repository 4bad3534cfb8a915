import ModelReach.Proofs.Files.Absolute
import ModelReach.Proofs.Run.Isolation
import ModelReach.Run.Service

/-! Runs over a source that is spelled in different ways. No question looks at the paths of the files that were read,
so such runs find the same, and their failures are the same files. -/
namespace ModelReach.Run
set_option autoImplicit false

open Catalogue
open Files (FileTree LeadTogether ModuleFile OverlongScan PurePath SameFile SystemNames WellFormed)

variable {t : FileTree}

/-! ## Facts from other paths -/

/-- The same facts, from a file with another path. -/
def Relocated (facts facts' : ModuleFacts) : Prop := facts' = { facts with path := facts'.path }

theorem ofText_path (module path path' : String) (isPackage : Bool) (text : Text) :
    Facts.ofText module path' isPackage text =
      (Facts.ofText module path isPackage text).map fun facts => { facts with path := path' } := by
  unfold Facts.ofText
  cases Source.readModule text with
  | error fault => rfl
  | ok body =>
    change Facts.moduleFacts Source.readExpression module path' isPackage body =
      (Facts.moduleFacts Source.readExpression module path isPackage body).map _
    unfold Facts.moduleFacts
    dsimp only
    cases body.mapM (Facts.stmtFacts Source.readExpression (Facts.scopeOf module isPackage body)) <;> rfl

section Files
variable {r r' : PurePath} {file file' : ModuleFile} {files files' : List ModuleFile}

theorem isReadable_sameFile (h : SameFile t r r' file file') : t.isReadable file.path = t.isReadable file'.path := by
  obtain ⟨parts, content, hfind, hfind'⟩ := h.together
  rw [FileTree.isReadable, FileTree.isReadable, hfind, hfind']

/-- What reading a file gives under two paths: only the path in the facts or in a fault of the file differs. -/
inductive SameFacts (path' : String) : Except LoadCause ModuleFacts → Except LoadCause ModuleFacts → Prop
  | read (facts : ModuleFacts) : SameFacts path' (.ok facts) (.ok { facts with path := path' })
  | denied (fault fault' : Files.FileFault) : SameFacts path' (.error (.file fault)) (.error (.file fault'))
  | failed (cause : LoadCause) : SameFacts path' (.error cause) (.error cause)

theorem readFacts_sameFile (h : SameFile t r r' file file') :
    SameFacts file'.path (readFacts t file) (readFacts t file') := by
  obtain ⟨parts, content, hfind, hfind'⟩ := h.together
  rw [readFacts, readFacts, FileTree.read, FileTree.read, hfind, hfind', ← h.module, ← h.isPackage]
  dsimp only [bind, Except.bind, pure, Except.pure]
  by_cases hdenied : t.unreadable.contains parts = true
  · rw [if_pos hdenied, if_pos hdenied]
    exact SameFacts.denied _ _
  · rw [if_neg hdenied, if_neg hdenied]
    dsimp only
    cases Text.ofUtf8 content with
    | error fault => exact SameFacts.failed _
    | ok text =>
      dsimp only
      rw [ofText_path file.module file.path file'.path]
      cases Facts.ofText file.module file.path file.isPackage text.lineFeeds with
      | error fault => exact SameFacts.failed _
      | ok facts => exact SameFacts.read facts

theorem fails_sameFile (h : SameFile t r r' file file') : fails t file = fails t file' := by
  have hfacts := readFacts_sameFile h
  rw [fails, fails, isReadable_sameFile h]
  generalize readFacts t file = x, readFacts t file' = y at hfacts
  cases hfacts <;> rfl

theorem failsAlone_sameFile (h : SameFile t r r' file file') : FailsAlone t file ↔ FailsAlone t file' := by
  have hfacts := readFacts_sameFile h
  rw [FailsAlone, FailsAlone]
  generalize readFacts t file = x, readFacts t file' = y at hfacts
  cases hfacts with
  | read facts => exact ⟨fun _ _ he => (nomatch he), fun _ _ he => (nomatch he)⟩
  | denied fault fault' => exact ⟨fun _ _ he => (nomatch he), fun _ _ he => (nomatch he)⟩
  | failed cause => exact Iff.rfl

theorem readable_sameFiles (h : List.Forall₂ (SameFile t r r') files files') :
    List.Forall₂ Relocated (readable t files) (readable t files') := by
  refine List.rel_filterMap (fun file file' hfile => ?_) h
  have hfacts := readFacts_sameFile hfile
  generalize readFacts t file = x, readFacts t file' = y at hfacts
  cases hfacts with
  | read facts => exact Option.Rel.some rfl
  | denied fault fault' => exact Option.Rel.none
  | failed cause => exact Option.Rel.none

end Files

/-! ## Catalogues of relocated files -/

section Relocated
variable {loads loads' : List ModuleFacts}

theorem classesIn_relocated (h : List.Forall₂ Relocated loads loads') : classesIn loads' = classesIn loads := by
  induction h with
  | nil => rfl
  | cons hfacts _ ih =>
    rw [classesIn, classesIn, List.flatMap_cons, List.flatMap_cons, hfacts]
    exact congrArg _ ih

theorem foldl_register_relocated (h : List.Forall₂ Relocated loads loads') (c : Catalogue)
    (modules : List (String × String)) : ∃ modules', loads'.foldl register { c with modules := modules } =
      { loads.foldl register c with modules := modules' } := by
  induction h generalizing c modules with
  | nil => exact ⟨modules, rfl⟩
  | @cons facts facts' _ _ hfacts _ ih =>
    rw [List.foldl_cons, List.foldl_cons, hfacts]
    exact ih (c.register facts) (assign modules facts'.path facts.module)

/-- The catalogues differ in the paths of the files that they know. -/
theorem loaded_relocated (h : List.Forall₂ Relocated loads loads') :
    ∃ modules, loaded loads' = { loaded loads with modules := modules } :=
  foldl_register_relocated h Catalogue.empty []

theorem entriesIn_relocated (h : List.Forall₂ Relocated loads loads') (markers : List String) :
    ∃ failures modules, entriesIn markers loads' = ((entriesIn markers loads).1,
      { (entriesIn markers loads).2 with failures := failures, modules := modules }) := by
  obtain ⟨modules, hloaded⟩ := loaded_relocated h
  have hunheeding := (answers_implementing markers (known_numbered loads)).unheeding _ (sound_loaded loads)
  refine ⟨(loaded loads).failures, modules, ?_⟩
  have hfound := hunheeding (loaded loads).failures modules
  rw [entriesIn, classesIn_relocated h, hloaded]
  change (TypeSet.ofList (implementing lineage markers (numbered 0 (classesIn loads))
    { loaded loads with failures := (loaded loads).failures, modules := modules }).1, _) = _
  rw [hfound]
  rfl

end Relocated

/-! ## When runs complete -/

theorem failsAlone_of_enumerate {file : ModuleFile} {s s' : RunState} {classes : List Descriptor}
    (h : Gives (enumerate t file) s classes s') (hunread : s.catalogue.modules.lookup file.path = none) :
    FailsAlone t file := by
  intro fault hread
  by_contra hfatal
  have hends : s.catalogue.declaredTypes t file = (.error (.fatal fault), s.catalogue) := by
    rw [Catalogue.declaredTypes, hunread]
    dsimp only
    rw [hread]
    dsimp only
    rw [if_neg hfatal]
  obtain ⟨answer, s₁, hask, hthrow⟩ := gives_bind.mp h
  obtain ⟨rfl, rfl⟩ := gives_ask.mp hask
  rw [hends] at hthrow
  exact not_gives_throw hthrow

theorem failsAlone_of_enumerates {loads : List ModuleFacts} {files : List ModuleFile} {s s' : RunState}
    {classes : List (List Descriptor)} (h : GivesAll (enumerate t) files s classes s') (hs : Fresh loads s.catalogue)
    (hunread : (loads.map ModuleFacts.path ++ files.map ModuleFile.path).Nodup) :
    ∀ file ∈ files, FailsAlone t file := by
  induction h generalizing loads with
  | nil => exact fun _ hm => absurd hm List.not_mem_nil
  | @cons file files _ _ s s₁ s₂ h _ ih =>
    rw [List.map_cons] at hunread
    have hfile : (loaded loads).modules.lookup file.path = none := lookup_modules_eq_none (notMem_of_nodup hunread)
    obtain ⟨more, hmore, henumerated⟩ := enumerate_gives h hs
    obtain ⟨_, rfl⟩ := henumerated.unread hfile
    have hnext : ((loads ++ readable t [file]).map ModuleFacts.path ++ files.map ModuleFile.path).Nodup := by
      rw [List.map_append, List.append_assoc]
      exact List.Pairwise.sublist ((List.Sublist.refl _).append ((paths_readable t file).append (List.Sublist.refl _)))
        hunread
    exact List.forall_mem_cons.mpr ⟨failsAlone_of_enumerate h (hs.modules ▸ hfile), ih hmore hnext⟩

theorem collectFrom_eq_ok {options : ScanOptions} {o : SetOrder} {result : RunResult} :
    (collectFrom t options o).1 = .ok result ↔
      ∃ s, (collect t options o).run.run .start = (.ok result, s) :=
  ⟨fun h => ⟨_, Prod.ext h rfl⟩, fun ⟨_, h⟩ => congrArg Prod.fst h⟩

/-- A run completes just if its scan does and no file that may be read has a fault that ends the run. -/
theorem collect_completes_iff (hw : WellFormed t) {options : ScanOptions} {o : SetOrder} :
    (∃ result, (collectFrom t options o).1 = .ok result) ↔
      ∃ files, Files.scan t options.source options.patterns = .ok files ∧
        ∀ f ∈ files, t.isReadable f.path = true → FailsAlone t f := by
  constructor
  · rintro ⟨result, h⟩
    obtain ⟨kept, s₁, entries, c, hload, hentries, _⟩ := collect_iff.mp (collectFrom_eq_ok.mp h)
    obtain ⟨hfresh, files, hscan, rfl⟩ := loadModules_gives hload fresh_start
    obtain ⟨classes, s₂, hall, _⟩ := hentries
    have hnodup : ((files.filter fun f => t.isReadable f.path).map ModuleFile.path).Nodup :=
      (Files.nodup_path_scan hw hscan).sublist ((List.filter_sublist).map _)
    exact ⟨files, hscan, fun f hf hreadable =>
      failsAlone_of_enumerates hall hfresh hnodup f (List.mem_filter.mpr ⟨hf, hreadable⟩)⟩
  · rintro ⟨files, hscan, halone⟩
    obtain ⟨result, s, hrun⟩ := collect_completes o hscan halone
    exact ⟨result, collectFrom_eq_ok.mpr ⟨s, hrun⟩⟩

theorem not_completes_of_scan (hw : WellFormed t) (options : ScanOptions) (o : SetOrder) {fault : Files.ScanFault}
    (hscan : Files.scan t options.source options.patterns = .error fault) :
    ¬∃ result, (collectFrom t options o).1 = .ok result := by
  rw [collect_completes_iff hw]
  rintro ⟨files, hfiles, _⟩
  rw [hscan] at hfiles
  cases hfiles

/-! ## Runs over two spellings -/

/-- The same result, with the same files among the failures, be their paths spelled as they may. -/
structure SameResult (t : FileTree) (r r' : RunResult) : Prop where
  entryTypes : r.entryTypes = r'.entryTypes
  implementingModels : r.implementingModels = r'.implementingModels
  models : r.models = r'.models
  schemas : r.schemas = r'.schemas
  failedModules : List.Forall₂ (LeadTogether t) r.failedModules r'.failedModules

/-- Two runs fail together or have the same result. -/
def SameOutcome (t : FileTree) : Except RunFault RunResult → Except RunFault RunResult → Prop
  | .ok r, .ok r' => SameResult t r r'
  | .error _, .error _ => True
  | _, _ => False

theorem sameOutcome_iff {x y : Except RunFault RunResult} : SameOutcome t x y ↔
    ((∃ result, x = .ok result) ↔ ∃ result, y = .ok result) ∧
      ∀ result result', x = .ok result → y = .ok result' → SameResult t result result' := by
  rcases x with fault | result <;> rcases y with fault' | result' <;> simp [SameOutcome]

section Two
variable (hw : WellFormed t) (options options' : ScanOptions) {r r' : PurePath} {files files' : List ModuleFile}
  (hscan : Files.scan t options.source options.patterns = .ok files)
  (hscan' : Files.scan t options'.source options'.patterns = .ok files')
  (hfiles : List.Forall₂ (SameFile t r r') files files')
include hw hscan hscan' hfiles

theorem completes_sameFiles {o : SetOrder} : (∃ result, (collectFrom t options o).1 = .ok result) ↔
    ∃ result, (collectFrom t options' o).1 = .ok result := by
  have halone : (∀ f ∈ files, t.isReadable f.path = true → FailsAlone t f) ↔
      ∀ f ∈ files', t.isReadable f.path = true → FailsAlone t f := by
    clear hscan hscan'
    induction hfiles with
    | nil => exact Iff.rfl
    | cons hfile _ ih =>
      rw [List.forall_mem_cons, List.forall_mem_cons, ih, isReadable_sameFile hfile, failsAlone_sameFile hfile]
  rw [collect_completes_iff hw, collect_completes_iff hw, hscan, hscan']
  simp only [Except.ok.injEq, exists_eq_left', halone]

theorem sameResult_of_sameFiles (hpolicy : options.policy = options'.policy)
    (hmarkers : options.entryMarkers = options'.entryMarkers) {o : SetOrder} {result result' : RunResult}
    (h : (collectFrom t options o).1 = .ok result) (h' : (collectFrom t options' o).1 = .ok result') :
    SameResult t result result' := by
  obtain ⟨s, hrun⟩ := collectFrom_eq_ok.mp h
  obtain ⟨s', hrun'⟩ := collectFrom_eq_ok.mp h'
  have hleft := collect_eq hrun hscan (Files.nodup_path_scan hw hscan)
  have hright := collect_eq hrun' hscan' (Files.nodup_path_scan hw hscan')
  have hfailing : List.Forall₂ (SameFile t r r') (files.filter (fails t)) (files'.filter (fails t)) :=
    Files.forall₂_filter (fun _ _ hfile => fails_sameFile hfile) hfiles
  have hreadable : List.Forall₂ (SameFile t r r') (files.filter fun f => t.isReadable f.path)
      (files'.filter fun f => t.isReadable f.path) :=
    Files.forall₂_filter (fun _ _ hfile => isReadable_sameFile hfile) hfiles
  obtain ⟨failures, modules, hentries⟩ := entriesIn_relocated (readable_sameFiles hreadable) options.entryMarkers
  rw [← hpolicy, ← hmarkers, hentries, resultOf_failures (sound_entriesIn _ _) options.policy o
    (registered_entriesIn _ _) failures modules] at hright
  rw [hleft, hright]
  exact ⟨rfl, rfl, rfl, rfl, Files.leadTogether_sorted hfailing⟩

end Two

/-- The same options for another source. -/
def ScanOptions.withSource (options : ScanOptions) (source : String) : ScanOptions := { options with source := source }

/-- Runs over two spellings of a source have the same outcome, unless one of them comes upon a path that is too
long. -/
theorem collect_respelled (hw : WellFormed t) (hl : t.LinkFree) (options : ScanOptions) (source : String)
    {here : List String} (h : Files.Spells t here (PurePath.ofString options.source))
    (h' : Files.Spells t here (PurePath.ofString source))
    (o : SetOrder)
    (hshort : ∀ fault, OverlongScan fault → Files.scan t options.source options.patterns ≠ .error fault)
    (hshort' : ∀ fault, OverlongScan fault → Files.scan t source options.patterns ≠ .error fault) :
    SameOutcome t (collectFrom t options o).1 (collectFrom t (options.withSource source) o).1 := by
  have hscans := Files.scan_respelled hw hl h h' options.patterns
  rw [sameOutcome_iff]
  rcases hscans.resolve hshort hshort' with ⟨files, files', hscan, hscan', hfiles⟩ | ⟨fault, fault', hscan, hscan'⟩
  · exact ⟨completes_sameFiles hw options (options.withSource source) hscan hscan' hfiles, fun _ _ hrun hrun' =>
      sameResult_of_sameFiles hw options (options.withSource source) hscan hscan' hfiles rfl rfl hrun hrun'⟩
  · have hleft := not_completes_of_scan hw options o hscan
    have hright := not_completes_of_scan hw (options.withSource source) o hscan'
    exact ⟨iff_of_false hleft hright, fun result _ hrun _ => absurd ⟨result, hrun⟩ hleft⟩

/-- On request a run goes over the absolute spelling of a directory. -/
theorem serve_eq (hw : WellFormed t) (hl : t.LinkFree) (hn : SystemNames t) (options : ScanOptions) (o : SetOrder)
    {here : List String}
    (hsource : t.find (PurePath.ofString options.source).render = .ok (here, .directory))
    (hshort : (Files.absolute t.workDir options.source).render.utf8ByteSize ≤ FileTree.maxPathBytes) :
    serve t options o =
      .done (collectFrom t (options.withSource (Files.absolute t.workDir options.source).render) o).1 := by
  have hspells := Files.spells_absolute hw hl hn hsource
  have hclean := Files.clean_absolute hw hl hsource
  rw [Files.ofString_render hclean] at hspells
  have hfind := Files.find_of_spells hw hl (Files.FileTree.find_ok hsource).2.2.1 hspells hshort
  have hdirectory : t.isDirectory (Files.absolute t.workDir options.source).render = true := by
    rw [FileTree.isDirectory, hfind]
  rw [serve, if_pos hdirectory]
  rfl

/-- A file that breaks off and one with a class, below the working directory. -/
def roundTree : FileTree :=
  ⟨[(["w"], .directory), (["w", "r"], .directory), (["w", "r", "bad.py"], .file (Text.ofString "class (")),
    (["w", "r", "m.py"], .file (Text.ofString "class A(B):\n  pass\n"))], ["w"], []⟩

theorem wellFormed_round : WellFormed roundTree := by decide

theorem linkFree_round : roundTree.LinkFree := by decide

theorem systemNames_round : SystemNames roundTree := by decide

def roundOptions : ScanOptions := ⟨"r/../r", ["*.py"], ["B"], defaultIgnoreMarker, [], false⟩

/-- The files below a spelling of the source. -/
def roundFiles (source : String) : List ModuleFile :=
  [⟨source ++ "/bad.py", "bad.py", "bad", false⟩, ⟨source ++ "/m.py", "m.py", "m", false⟩]

theorem scan_round_spelled : Files.scan roundTree "r/../r" ["*.py"] = .ok (roundFiles "r/../r") :=
  Files.scan_of_sorted (by decide) (by decide)

theorem scan_round_absolute : Files.scan roundTree "/w/r" ["*.py"] = .ok (roundFiles "/w/r") :=
  Files.scan_of_sorted (by decide) (by decide)

/-- A run over the files completes if none of them has a fault that ends it. -/
theorem completes_of_scan_round (options : ScanOptions) {source : String}
    (hscan : Files.scan roundTree options.source options.patterns = .ok (roundFiles source))
    (hends : ∀ f ∈ roundFiles source,
      ((readFacts roundTree f).map fun _ => ()).mapError LoadCause.isLoadFailure ≠ .error false) :
    ∃ result, (collectFrom roundTree options .inserted).1 = .ok result := by
  refine (collect_completes_iff wellFormed_round).mpr ⟨_, hscan, fun f hf _ fault hfault => ?_⟩
  have hload := hends f hf
  rw [hfault] at hload
  exact Bool.eq_true_of_not_eq_false fun he => hload (congrArg Except.error he)

theorem completes_round : ∃ result, (collectFrom roundTree roundOptions .inserted).1 = .ok result ∧
    result.failedModules = ["r/../r/bad.py"] := by
  have hscan : Files.scan roundTree roundOptions.source roundOptions.patterns = .ok (roundFiles "r/../r") :=
    scan_round_spelled
  have hfails : ((roundFiles "r/../r").filter (fails roundTree)).map ModuleFile.path = ["r/../r/bad.py"] := by
    decide
  obtain ⟨result, hrun⟩ := completes_of_scan_round roundOptions hscan (by decide)
  obtain ⟨s, hcollect⟩ := collectFrom_eq_ok.mp hrun
  have hfailed := congrArg RunResult.failedModules (collect_eq hcollect hscan (by decide))
  change result.failedModules = sortStrings _ at hfailed
  rw [hfails] at hfailed
  exact ⟨result, hrun, hfailed.trans (List.mergeSort_singleton _)⟩

/-- The way to a directory, and up and down again some times. -/
def wander : Nat → List String
  | 0 => ["r"]
  | n + 1 => "r" :: ".." :: wander n

theorem wander_ne_nil (n : Nat) : wander n ≠ [] := by
  cases n <;> exact List.cons_ne_nil _ _

theorem mem_wander {n : Nat} {part : String} (h : part ∈ wander n) : part = "r" ∨ part = ".." := by
  induction n with
  | zero => exact Or.inl (List.mem_singleton.mp h)
  | succ n ih =>
    rcases List.mem_cons.mp h with rfl | h
    · exact Or.inl rfl
    · rcases List.mem_cons.mp h with rfl | h
      · exact Or.inr rfl
      · exact ih h

theorem walk_wander (n : Nat) : roundTree.walk ["w"] (wander n) = .ok ["w", "r"] := by
  induction n with
  | zero => decide
  | succ n ih =>
    have hround : roundTree.walk ["w"] ["r", ".."] = .ok ["w"] := by decide
    have hsplit : wander (n + 1) = ["r", ".."] ++ wander n := rfl
    rw [hsplit, Files.FileTree.walk_append linkFree_round, hround]
    exact ih

theorem utf8ByteSize_wander (n : Nat) : ("/".intercalate (wander n)).utf8ByteSize = 5 * n + 1 := by
  induction n with
  | zero => decide
  | succ n ih =>
    rw [wander, String.intercalate_cons_of_ne_nil (List.cons_ne_nil _ _),
      String.intercalate_cons_of_ne_nil (wander_ne_nil n)]
    simp only [String.utf8ByteSize_append, ih]
    have hr : "r".utf8ByteSize = 1 := by decide
    have hup : "..".utf8ByteSize = 2 := by decide
    have hslash : "/".utf8ByteSize = 1 := by decide
    omega

theorem spells_wander (n : Nat) : Files.Spells roundTree ["w", "r"] ⟨"", wander n⟩ where
  clean := ⟨Or.inl rfl, fun part h => by rcases mem_wander h with rfl | rfl <;> decide⟩
  leads := walk_wander n
  nullFree part h := by rcases mem_wander h with rfl | rfl <;> decide

theorem render_wander (n : Nat) : PurePath.render ⟨"", wander n⟩ = "/".intercalate (wander n) := by
  rw [PurePath.render, if_neg, String.empty_append]
  rw [Bool.and_eq_true, List.isEmpty_iff]
  exact fun h => wander_ne_nil n h.2

theorem utf8ByteSize_child_wander (n : Nat) :
    (PurePath.child ⟨"", wander n⟩ "m.py").render.utf8ByteSize = 5 * n + 6 := by
  have hbelow : (PurePath.child ⟨"", wander n⟩ "m.py").render = "/".intercalate (wander n) ++ "/" ++ "m.py" := by
    rw [PurePath.render, if_neg, PurePath.child,
      String.intercalate_append_of_ne_nil (wander_ne_nil n) (List.cons_ne_nil _ _), String.intercalate_singleton]
    · exact String.empty_append
    · rw [Bool.and_eq_true, List.isEmpty_iff]
      exact fun h => List.append_ne_nil_of_right_ne_nil _ (List.cons_ne_nil _ _) h.2
  have hname : "/".utf8ByteSize = 1 ∧ "m.py".utf8ByteSize = 4 := by decide
  rw [hbelow, String.utf8ByteSize_append, String.utf8ByteSize_append, utf8ByteSize_wander]
  omega

def wanderOptions (n : Nat) : ScanOptions :=
  ⟨PurePath.render ⟨"", wander n⟩, ["*.py"], ["B"], defaultIgnoreMarker, [], false⟩

section Wander
variable {n : Nat}

theorem ofString_wander (n : Nat) : PurePath.ofString (wanderOptions n).source = ⟨"", wander n⟩ :=
  Files.ofString_render (spells_wander n).clean

theorem find_wander (hshort : 5 * n + 1 ≤ Files.FileTree.maxPathBytes) :
    roundTree.find (PurePath.render ⟨"", wander n⟩) = .ok (["w", "r"], .directory) :=
  Files.find_of_spells wellFormed_round linkFree_round (by decide) (spells_wander n)
    (by rw [render_wander, utf8ByteSize_wander]; exact hshort)

theorem scan_wander (hshort : 5 * n + 1 ≤ Files.FileTree.maxPathBytes)
    (hlong : Files.FileTree.maxPathBytes < 5 * n + 6) : ∃ fault,
      Files.scan roundTree (wanderOptions n).source (wanderOptions n).patterns = .error fault := by
  have hpattern : Files.globParts "*.py" = .ok [.wildcard (Files.wildcards "*.py")] := rfl
  obtain ⟨fault, hglob⟩ := Files.glob_overlong wellFormed_round linkFree_round (spells_wander n) hpattern
    (find_wander hshort)
    (show "m.py" ∈ roundTree.names ["w", "r"] by decide) (by decide) (by decide)
    (by rw [utf8ByteSize_child_wander]; exact hlong)
  have hpatterns : (wanderOptions n).patterns = ["*.py"] := rfl
  rw [Files.scan_eq, ofString_wander, hpatterns, List.mapM_cons, Files.seek, hglob]
  exact ⟨_, rfl⟩

theorem absolute_wander (n : Nat) : (Files.absolute roundTree.workDir (wanderOptions n).source).render = "/w/r" := by
  have hspells := spells_wander n
  rw [← ofString_wander n] at hspells
  have hroot : Files.rootOf (wanderOptions n).source = "" := Files.rootOf_render (spells_wander n).clean
  rw [Files.absolute_eq wellFormed_round linkFree_round hspells, hroot]
  decide

/-- On the longest way that can be looked up a run fails where one over the absolute spelling completes. -/
theorem not_sameOutcome_wander (hshort : 5 * n + 1 ≤ Files.FileTree.maxPathBytes)
    (hlong : Files.FileTree.maxPathBytes < 5 * n + 6) :
    roundTree.find (PurePath.ofString (wanderOptions n).source).render = .ok (["w", "r"], .directory) ∧
    ¬SameOutcome roundTree (collectFrom roundTree (wanderOptions n) .inserted).1
      (collectFrom roundTree ((wanderOptions n).withSource
        (Files.absolute roundTree.workDir (wanderOptions n).source).render) .inserted).1 := by
  refine ⟨by rw [ofString_wander]; exact find_wander hshort, fun hsame => ?_⟩
  obtain ⟨fault, hscan⟩ := scan_wander hshort hlong
  rw [absolute_wander, sameOutcome_iff] at hsame
  have hright : ∃ result, (collectFrom roundTree ((wanderOptions n).withSource "/w/r") .inserted).1 = .ok result :=
    completes_of_scan_round ((wanderOptions n).withSource "/w/r") scan_round_absolute (by decide)
  exact not_completes_of_scan wellFormed_round (wanderOptions n) .inserted hscan (hsame.1.mpr hright)

end Wander

end ModelReach.Run
