import ModelReach.Proofs.Run.Isolation

/-! Asking for the classes of all files of a run, in any order. Every class stays known under its full name. But a
module has one list of classes, that of the last file read with its name; so a file whose module bears the name of
another one's, as those of `a-b.py` and `a_b.py` do, may lose its classes there. -/
namespace ModelReach.Run
set_option autoImplicit false

open Catalogue
open Files (FileTree ModuleFile WellFormed)
open Source (Expr Identifier Stmt)

variable {loads : List ModuleFacts} {t : FileTree}

/-! ## Reading all files -/

/-- The catalogue after the classes of files have been asked for one after the other, whether they were given or
not. -/
def declareAll (t : FileTree) (files : List ModuleFile) (c : Catalogue) : Catalogue :=
  files.foldl (fun c file => (c.declaredTypes t file).2) c

theorem readable_of_error {file : ModuleFile} {cause : LoadCause} (h : readFacts t file = .error cause) :
    readable t [file] = [] := by
  rw [readable, List.filterMap_cons, h]
  rfl

theorem readable_of_ok {file : ModuleFile} {facts : ModuleFacts} (h : readFacts t file = .ok facts) :
    readable t [file] = [facts] := by
  rw [readable, List.filterMap_cons, h]
  rfl

/-- Asking for the classes of a file that was not read before adds its facts, if it can be read. -/
theorem Fresh.declaredTypes {c : Catalogue} (hc : Fresh loads c) {file : ModuleFile}
    (hnew : (loaded loads).modules.lookup file.path = none) :
    Fresh (loads ++ readable t [file]) (c.declaredTypes t file).2 := by
  have hdeclared := declaredTypes_fresh t file hc
  rcases hd : c.declaredTypes t file with ⟨fault | found, c'⟩
  · rw [hd] at hdeclared
    cases fault with
    | failed path cause =>
      rw [← (hdeclared.2.unread hnew).2]
      exact hdeclared.1
    | fatal fault =>
      rw [readable_of_error hdeclared.1, List.append_nil, declaredTypes_fatal hd]
      exact hc
  · rw [hd] at hdeclared
    obtain ⟨more, hmore, henumerated⟩ := hdeclared
    rw [← (henumerated.unread hnew).2]
    exact hmore

theorem ok_of_isOk {ε α : Type} {x : Except ε α} (h : x.isOk = true) : ∃ a, x = .ok a := by
  cases x with
  | error fault => cases h
  | ok a => exact ⟨a, rfl⟩

theorem Fresh.declareAll {files : List ModuleFile} {c : Catalogue} (hc : Fresh loads c)
    (hnew : (loads.map ModuleFacts.path ++ files.map ModuleFile.path).Nodup) :
    Fresh (loads ++ readable t files) (declareAll t files c) := by
  induction files generalizing loads c with
  | nil =>
    rw [show readable t [] = [] from rfl, List.append_nil]
    exact hc
  | cons file files ih =>
    rw [List.map_cons] at hnew
    have hnext := hc.declaredTypes (t := t) (lookup_modules_eq_none (notMem_of_nodup hnew))
    rw [readable_cons, ← List.append_assoc]
    refine ih hnext ?_
    rw [List.map_append, List.append_assoc]
    exact hnew.sublist ((List.Sublist.refl _).append ((paths_readable t file).append (List.Sublist.refl _)))

theorem readable_append (a b : List ModuleFile) : readable t (a ++ b) = readable t a ++ readable t b :=
  List.filterMap_append

theorem nodup_paths_readable {files : List ModuleFile} (h : (files.map ModuleFile.path).Nodup) :
    ((readable t files).map ModuleFacts.path).Nodup := by
  refine h.sublist ?_
  clear h
  induction files with
  | nil => exact List.Sublist.refl _
  | cons file files ih =>
    rw [readable_cons, List.map_append]
    exact (paths_readable t file).append ih

theorem declaredTypes_again {c : Catalogue} {file : ModuleFile} {module : String}
    (h : c.modules.lookup file.path = some module) : c.declaredTypes t file = (.ok (c.classesOf module), c) := by
  unfold Catalogue.declaredTypes
  rw [h]

/-! ## Classes kept -/

/-- Two files whose names differ in a dash alone. -/
def sharedTree : FileTree :=
  ⟨[(["r"], .directory), (["r", "a-b.py"], .file (Text.ofString "class A:\n  pass\n")),
    (["r", "a_b.py"], .file (Text.ofString "class B:\n  pass\n"))], [], []⟩

def dashedFile : ModuleFile := ⟨"/r/a-b.py", "a-b.py", "a_b", false⟩

def plainFile : ModuleFile := ⟨"/r/a_b.py", "a_b.py", "a_b", false⟩

theorem scan_shared : Files.scan sharedTree "/r" ["*.py"] = .ok [dashedFile, plainFile] :=
  Files.scan_of_sorted (by decide) (by decide)

/-- Loading files that may all be read leaves the catalogue empty. -/
theorem loadModules_empty {root : String} {patterns : List String} {files : List ModuleFile}
    (hscan : Files.scan t root patterns = .ok files) (hnodup : (files.map ModuleFile.path).Nodup)
    (hreadable : ∀ f ∈ files, t.isReadable f.path = true) :
    ∃ s, Gives (loadModules t root patterns) .start files s ∧ s.catalogue = .empty := by
  obtain ⟨kept, s, hload⟩ := loadModules_ends hscan .start
  obtain ⟨⟨failures, hcatalogue⟩, scanned, hscanned, rfl⟩ := loadModules_gives hload fresh_start
  cases hscan.symm.trans hscanned
  have hnone := loadModules_fails hload hscan hnodup
  rw [List.filter_eq_nil_iff.mpr fun f hf => by rw [hreadable f hf]; decide, failedPaths, hcatalogue] at hnone
  rw [List.filter_eq_self.mpr hreadable] at hload
  have hempty : failures = [] := List.map_eq_nil_iff.mp hnone
  rw [hempty] at hcatalogue
  exact ⟨s, hload, hcatalogue⟩

/-- A name among those of the classes is that of a class statement. -/
theorem exists_classDef {body : List Stmt} {name : String} (h : name ∈ Facts.classNames body) :
    ∃ decorators ident bases stmts, Stmt.classDef decorators ident bases stmts ∈ body ∧ ident.text = name := by
  obtain ⟨stmt, hstmt, h⟩ := List.mem_filterMap.mp h
  split at h
  · exact ⟨_, _, _, _, hstmt, Option.some.inj h⟩
  · cases h

theorem classNames_shared : (bodyOf sharedTree dashedFile).map Facts.classNames = some ["A"] := by decide

theorem exists_class_shared : ∃ body decorators ident bases stmts, bodyOf sharedTree dashedFile = some body ∧
    Stmt.classDef decorators ident bases stmts ∈ body ∧ ident.text = "A" := by
  obtain ⟨body, hbody, hnames⟩ := Option.map_eq_some_iff.mp classNames_shared
  obtain ⟨decorators, ident, bases, stmts, hstmt, hname⟩ := exists_classDef (hnames ▸ List.mem_singleton_self "A")
  exact ⟨body, decorators, ident, bases, stmts, hbody, hstmt, hname⟩

end ModelReach.Run
