import ModelReach.Proofs.Files.Modules

/-! Scans by several patterns. What a scan tells of a file depends on the path of the file below the root alone. So the
files that are found by a list of patterns are those found by its parts, each once and in strict order, whatever the
order of the patterns and however often they repeat or overlap. -/
namespace ModelReach.Files
set_option autoImplicit false

open FileTree

/-! ## What a scan tells of a file -/

/-- What a scan tells of a file, apart from the spelling under which it was found. -/
def ModuleFile.told (f : ModuleFile) : String × String × Bool := (f.relPath, f.module, f.isPackage)

section Told
variable {t : FileTree} {root p q : PurePath} {f g : ModuleFile}

/-- A path that leads to a source file ends in the name of the file, wherever it begins. -/
theorem Scanned.getLast?_absoluteParts (h : Scanned t root p f) :
    (absoluteParts t.workDir p).getLast? = p.name? := by
  obtain ⟨name, hname, _, hproper⟩ := h.exists_sourceName
  rw [hname, Files.getLast?_absoluteParts t.workDir hname hproper]

/-- What is told of a file depends on its path below the root. -/
theorem Scanned.told_eq (hw : WellFormed t) (hf : Scanned t root p f) (hg : Scanned t root q g)
    (h : f.relPath = g.relPath) :
    f.told = g.told := by
  have hparts := hf.parts_eq hw hg h
  have hrel : relativePath t.workDir root p = relativePath t.workDir root q := by
    rw [relativePath, relativePath, hparts]
  have hmodule : f.module = g.module := by
    have hboth := hf.module.symm.trans (hrel ▸ hg.module)
    exact Option.some.inj (Except.ok.inj hboth)
  have hname : p.name? = q.name? := by
    rw [← hf.getLast?_absoluteParts, hparts, hg.getLast?_absoluteParts]
  have hpackage : f.isPackage = g.isPackage := by rw [hf.isPackage, hg.isPackage, hname]
  rw [ModuleFile.told, ModuleFile.told, h, hmodule, hpackage]

end Told

/-! ## Each file once -/

theorem exists_mem_addDistinct {done : List ModuleFile} {f g : ModuleFile} (h : g ∈ done ∨ g = f) :
    ∃ g' ∈ addDistinct done f, g'.relPath = g.relPath := by
  unfold addDistinct
  split
  · rename_i hknown
    rcases h with h | rfl
    · exact ⟨g, h, rfl⟩
    · exact any_relPath_iff.mp hknown
  · exact ⟨g, List.mem_append.mpr (h.imp_right List.mem_singleton.mpr), rfl⟩

theorem exists_mem_foldl_addDistinct {l done : List ModuleFile} {g : ModuleFile} (h : g ∈ done ∨ g ∈ l) :
    ∃ g' ∈ l.foldl addDistinct done, g'.relPath = g.relPath := by
  induction l generalizing done g with
  | nil => exact ⟨g, h.resolve_right List.not_mem_nil, rfl⟩
  | cons f l ih =>
    have hnext : (g ∈ done ∨ g = f) ∨ g ∈ l := by
      rcases h with h | h
      · exact Or.inl (Or.inl h)
      · exact (List.mem_cons.mp h).imp_left Or.inr
    rcases hnext with hnext | hlater
    · obtain ⟨g', hg', hsame⟩ := exists_mem_addDistinct hnext
      obtain ⟨g'', hg'', hsame'⟩ := ih (Or.inl hg')
      exact ⟨g'', hg'', hsame'.trans hsame⟩
    · exact ih (Or.inr hlater)

/-- Of the files with one path below the root, one is left. -/
theorem exists_mem_distinctFiles {files : List ModuleFile} {g : ModuleFile} (h : g ∈ files) :
    ∃ g' ∈ distinctFiles files, g'.relPath = g.relPath :=
  exists_mem_foldl_addDistinct (Or.inr h)

/-! ## One pattern -/

/-- A pattern finds a file of which this is told. -/
def Finds (t : FileTree) (root : PurePath) (x : String × String × Bool) (pattern : String) : Prop :=
  ∃ found, seek t root pattern = .ok found ∧ ∃ p ∈ found, ∃ f, moduleFile? t root p = some f ∧ f.told = x

/-- A scan succeeds if the search for each pattern does. -/
theorem scan_ok_iff {t : FileTree} {root : String} {patterns : List String} :
    (∃ files, scan t root patterns = .ok files) ↔
      ∀ pattern ∈ patterns, ∃ found, seek t (PurePath.ofString root) pattern = .ok found := by
  refine Iff.trans ?_ Facts.mapM_ok_iff
  rw [scan_eq]
  cases patterns.mapM (seek t (PurePath.ofString root)) with
  | error fault => exact ⟨fun ⟨_, h⟩ => (nomatch h), fun ⟨_, h⟩ => (nomatch h)⟩
  | ok lists => exact ⟨fun _ => ⟨lists, rfl⟩, fun _ => ⟨_, rfl⟩⟩

/-! ## The files of a scan -/

section Scan
variable {t : FileTree} {root : String} {patterns : List String} {files : List ModuleFile}
  (hscan : scan t root patterns = .ok files)
include hscan

/-- The files of a scan stand in strict order. -/
theorem strict_scan : files.Pairwise fun f g => f.relPath < g.relPath := by
  have hnodup := nodup_relPath_scan hscan
  obtain ⟨found, _, rfl⟩ := scan_parts hscan
  have hle := pairwise_sorted ModuleFile.relPath
    (distinctFiles (found.filterMap (moduleFile? t (PurePath.ofString root))))
  exact (List.pairwise_and_iff.mpr ⟨hle, List.pairwise_map.mp hnodup⟩).imp fun h => lt_of_le_of_ne h.1 h.2

theorem nodup_told_scan : (files.map ModuleFile.told).Nodup :=
  List.pairwise_map.mpr ((strict_scan hscan).imp fun h he => absurd (congrArg Prod.fst he) h.ne)

variable (hw : WellFormed t)
include hw

/-- A scan tells what its patterns find. -/
theorem mem_told_scan {x : String × String × Bool} :
    x ∈ files.map ModuleFile.told ↔ ∃ pattern ∈ patterns, Finds t (PurePath.ofString root) x pattern := by
  obtain ⟨found, hfound, rfl⟩ := scan_parts hscan
  have hclean := clean_of_scan hw hfound
  rw [List.mem_map]
  constructor
  · rintro ⟨f, hf, hx⟩
    obtain ⟨p, hp, hfile⟩ := List.mem_filterMap.mp
      (mem_of_mem_distinctFiles ((List.mergeSort_perm _ _).mem_iff.mp hf))
    obtain ⟨pattern, hpattern, l, hglob, hl⟩ := (mem_found hfound).mp hp
    exact ⟨pattern, hpattern, l, hglob, p, hl, f, hfile, hx⟩
  · rintro ⟨pattern, hpattern, l, hglob, p, hl, f, hfile, rfl⟩
    have hp := (mem_found hfound).mpr ⟨pattern, hpattern, l, hglob, hl⟩
    obtain ⟨g, hg, hsame⟩ := exists_mem_distinctFiles (List.mem_filterMap.mpr ⟨p, hp, hfile⟩)
    obtain ⟨q, hq, hgfile⟩ := List.mem_filterMap.mp (mem_of_mem_distinctFiles hg)
    refine ⟨g, (List.mergeSort_perm _ _).mem_iff.mpr hg, ?_⟩
    exact (scanned_of_moduleFile (hclean q hq) hgfile).told_eq hw (scanned_of_moduleFile (hclean p hp) hfile) hsame

/-- Scans by the same patterns tell the same, in the same order. -/
theorem map_told_eq {patterns' : List String} {files' : List ModuleFile}
    (hscan' : scan t root patterns' = .ok files') (h : ∀ pattern, pattern ∈ patterns' ↔ pattern ∈ patterns) :
    files'.map ModuleFile.told = files.map ModuleFile.told := by
  have hmem : ∀ x, x ∈ files'.map ModuleFile.told ↔ x ∈ files.map ModuleFile.told := by
    intro x
    rw [mem_told_scan hscan hw, mem_told_scan hscan' hw]
    exact exists_congr fun pattern => and_congr_left fun _ => h pattern
  have hperm := (List.perm_ext_iff_of_nodup (nodup_told_scan hscan') (nodup_told_scan hscan)).mpr hmem
  have hstrict : (files.map ModuleFile.told).Pairwise fun x y => x.1 < y.1 :=
    List.pairwise_map.mpr (strict_scan hscan)
  have hstrict' : (files'.map ModuleFile.told).Pairwise fun x y => x.1 < y.1 :=
    List.pairwise_map.mpr (strict_scan hscan')
  exact hperm.eq_of_pairwise (fun x y _ _ hxy hyx => absurd hxy hyx.asymm) hstrict' hstrict

/-- No directory on the way from the root to a file is ignored. -/
theorem notMem_ignoredDirectories {f : ModuleFile} (hf : f ∈ files) :
    ∀ part ∈ f.directory, part ∉ ignoredDirectories := by
  obtain ⟨p, hscanned⟩ := scanned_of_scan hw hscan hf
  obtain ⟨name, hlast⟩ : ∃ name, f.parts.getLast? = some name :=
    ⟨_, List.getLast?_eq_some_getLast (hscanned.parts_ne_nil hw)⟩
  have hmodule : moduleOfPath ⟨"", f.parts⟩ = .ok (some f.module) := by
    rw [parts_of_scanned hw hscanned]
    exact hscanned.module
  have hwithout : withoutSuffix f.parts = f.directory ++ [(cutSuffix name).1] := by
    rw [withoutSuffix, hlast]
    rfl
  rw [moduleOfPath, hwithout] at hmodule
  split at hmodule
  · cases hmodule
  · have hnamed : moduleOfParts (f.directory ++ [(cutSuffix name).1]) = some f.module := Except.ok.inj hmodule
    rw [moduleOfParts, List.dropLast_concat] at hnamed
    split at hnamed
    · cases hnamed
    · rename_i hnone
      intro part hpart hignored
      exact hnone (List.any_eq_true.mpr ⟨part, hpart, List.contains_iff_mem.mpr hignored⟩)

end Scan

/-! ## Lists of patterns -/

/-- A scan by two lists of patterns succeeds if the scans by each of them do, and it tells what they tell together. Its
files stand in strict order of their paths below the root, which leave out ignored directories; each has a module, and
without links no two of them are the same file of the tree. A scan by the same patterns in another order, however often
they are repeated, tells the same. -/
theorem scan_append (t : FileTree) (hw : WellFormed t) (root : String) (before after : List String) :
    ((∃ files, scan t root (before ++ after) = .ok files) ↔
      (∃ files, scan t root before = .ok files) ∧ ∃ files, scan t root after = .ok files) ∧
    ∀ files, scan t root (before ++ after) = .ok files →
      (∀ files₁ files₂, scan t root before = .ok files₁ → scan t root after = .ok files₂ →
        ∀ x, x ∈ files.map ModuleFile.told ↔ x ∈ files₁.map ModuleFile.told ∨ x ∈ files₂.map ModuleFile.told) ∧
      files.Pairwise (fun f g => f.relPath < g.relPath) ∧
      (∀ f ∈ files, f.module ≠ "" ∧ ∀ part ∈ f.directory, part ∉ ignoredDirectories) ∧
      (t.LinkFree → ∀ f ∈ files, ∀ g ∈ files, ∀ parts node node', t.find f.path = .ok (parts, node) →
        t.find g.path = .ok (parts, node') → f = g) ∧
      ∀ patterns, (∀ pattern, pattern ∈ patterns ↔ pattern ∈ before ∨ pattern ∈ after) →
        ∃ files', scan t root patterns = .ok files' ∧
          files'.map ModuleFile.told = files.map ModuleFile.told := by
  refine ⟨?_, fun files hscan => ⟨fun files₁ files₂ h₁ h₂ x => ?_, strict_scan hscan, fun f hf => ⟨?_, ?_⟩,
    fun hl f hf g hg parts node node' hfind hfind' => eq_of_find hw hscan hl hf hg hfind hfind', fun patterns h => ?_⟩⟩
  · simp only [scan_ok_iff, List.mem_append, or_imp, forall_and]
  · rw [mem_told_scan hscan hw, mem_told_scan h₁ hw, mem_told_scan h₂ hw]
    simp only [List.mem_append, or_and_right, exists_or]
  · obtain ⟨p, hscanned⟩ := scanned_of_scan hw hscan hf
    exact hscanned.named
  · exact notMem_ignoredDirectories hscan hw hf
  · have hsame : ∀ pattern, pattern ∈ patterns ↔ pattern ∈ before ++ after := fun pattern =>
      (h pattern).trans List.mem_append.symm
    obtain ⟨files', hscan'⟩ : ∃ files', scan t root patterns = .ok files' :=
      scan_ok_iff.mpr fun pattern hp => scan_ok_iff.mp ⟨files, hscan⟩ pattern ((hsame pattern).mp hp)
    exact ⟨files', hscan', map_told_eq hscan hw hscan' hsame⟩

def overlapTree : FileTree :=
  ⟨[(["r"], .directory), (["r", "a-b.py"], .file []), (["r", "p"], .directory), (["r", "p", "__init__.py"], .file []),
    (["r", "p", "m.py"], .file []), (["r", "build"], .directory), (["r", "build", "m.py"], .file [])], [], []⟩

def overlapFiles : List ModuleFile :=
  [⟨"r/a-b.py", "a-b.py", "a_b", false⟩, ⟨"r/p/__init__.py", "p/__init__.py", "p", true⟩,
    ⟨"r/p/m.py", "p/m.py", "p.m", false⟩]

/-- Three patterns find one file, under two spellings, and the one that asks for an ignored directory finds nothing. -/
theorem scan_append_overlap : WellFormed overlapTree ∧
    scan overlapTree "r" (["*.py", "p/../*.py"] ++ ["build/*.py", "**/*.py"]) = .ok overlapFiles ∧
    (∃ files₁ files₂, scan overlapTree "r" ["*.py", "p/../*.py"] = .ok files₁ ∧
      scan overlapTree "r" ["build/*.py", "**/*.py"] = .ok files₂ ∧
      ∀ x, x ∈ overlapFiles.map ModuleFile.told ↔ x ∈ files₁.map ModuleFile.told ∨ x ∈ files₂.map ModuleFile.told) ∧
    ∃ files, scan overlapTree "r" ["**/*.py", "build/*.py", "p/../*.py", "*.py", "*.py"] = .ok files ∧
      files.map ModuleFile.told =
        [("a-b.py", "a_b", false), ("p/__init__.py", "p", true), ("p/m.py", "p.m", false)] := by
  have hw : WellFormed overlapTree := by decide
  have hscan : scan overlapTree "r" (["*.py", "p/../*.py"] ++ ["build/*.py", "**/*.py"]) = .ok overlapFiles :=
    scan_of_sorted (by decide +kernel) (by decide)
  obtain ⟨hends, htells⟩ := scan_append overlapTree hw "r" ["*.py", "p/../*.py"] ["build/*.py", "**/*.py"]
  obtain ⟨⟨files₁, h₁⟩, files₂, h₂⟩ := hends.mp ⟨_, hscan⟩
  obtain ⟨hunion, _, _, _, hsame⟩ := htells overlapFiles hscan
  refine ⟨hw, hscan, ⟨files₁, files₂, h₁, h₂, hunion files₁ files₂ h₁ h₂⟩, hsame _ fun pattern => ?_⟩
  simp only [List.mem_cons, List.not_mem_nil, or_false]
  grind

end ModelReach.Files
