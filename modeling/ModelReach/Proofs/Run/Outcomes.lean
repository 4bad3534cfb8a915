import ModelReach.Proofs.Facts.Faults
import ModelReach.Proofs.Run.Isolation

/-! How asking for the classes of a file can end. They are given, or the file's failure is noted and the run goes
on; only the two faults with a cause in the source end the run. Files without these causes never do, whatever their
bytes. -/
namespace ModelReach.Run
set_option autoImplicit false

open Catalogue
open Facts (AnyEmpty AnyTooLarge Caused convertedIn evaluatedIn scopeOf)
open Files (FileTree ModuleFile)
open Source (Faults SourceFault)

variable {t : FileTree}

/-! ## Causes in files -/

/-- A base or an annotation of a class of the file comes to a subscript without an index where one is asked for. -/
def EmptySubscriptIn (t : FileTree) (file : ModuleFile) : Prop :=
  ∃ body, bodyOf t file = some body ∧
    AnyEmpty Source.readExpression (scopeOf file.module file.isPackage body)
      (convertedIn Source.readExpression (scopeOf file.module file.isPackage body) body)

/-- A member of a class of the file is assigned a sum of an integer that is too large and an imaginary number. -/
def LargeSumIn (t : FileTree) (file : ModuleFile) : Prop :=
  ∃ body, bodyOf t file = some body ∧ AnyTooLarge (evaluatedIn body)

/-- A fault in the source of a file has its cause there, if it ends the run. -/
theorem caused_of_readFacts {file : ModuleFile} {fault : SourceFault}
    (h : readFacts t file = .error (.source fault)) :
    Caused (EmptySubscriptIn t file) (LargeSumIn t file) fault := by
  unfold readFacts at h
  split at h
  · cases h
  · rename_i bytes hbytes
    split at h
    · cases h
    · rename_i text htext
      split at h
      · rename_i fault' hfault
        cases h
        refine Source.faults_bind (Facts.faults_caused (Source.loading_readModule text.lineFeeds))
          (fun body hbody => ?_) fault hfault
        have hsome : bodyOf t file = some body := by
          rw [bodyOf_eq hbytes htext, hbody]
          rfl
        exact Facts.faults_caused_imp (Facts.faults_moduleFacts Source.loading_readExpression file.module file.path
          file.isPackage body) (fun h => ⟨body, hsome, h⟩) fun h => ⟨body, hsome, h⟩
      · cases h

/-- Nothing in the file ends a run. -/
theorem failsAlone_of_causes {file : ModuleFile} (hempty : ¬ EmptySubscriptIn t file) (hlarge : ¬ LargeSumIn t file) :
    FailsAlone t file := by
  intro fault h
  have hcaused := caused_of_readFacts h
  cases fault with
  | noIndex => exact absurd hcaused hempty
  | integerTooLarge => exact absurd hcaused hlarge
  | _ => rfl

/-! ## Outcomes -/

/-- What asking a catalogue for the classes of a file comes to: those of its module are given and no failure is added,
or the file's failure is noted under its path and nothing else changes, or a fault with its cause in the file ends the
run and changes nothing. -/
def Outcome (t : FileTree) (file : ModuleFile) (c : Catalogue) :
    Except LoadFault (List Descriptor) × Catalogue → Prop
  | (.ok classes, c') => c'.failures = c.failures ∧
    ∃ module, c'.modules.lookup file.path = some module ∧ classes = c'.classesOf module
  | (.error (.failed path cause), c') =>
    path = file.path ∧ c' = { c with failures := assign c.failures file.path cause.message }
  | (.error (.fatal fault), c') => c' = c ∧
    (fault = .noIndex ∧ EmptySubscriptIn t file ∨ fault = .integerTooLarge ∧ LargeSumIn t file)

theorem classes_of_declaredTypes {file : ModuleFile} {c c' : Catalogue} {classes : List Descriptor}
    (h : c.declaredTypes t file = (.ok classes, c')) :
    ∃ module, c'.modules.lookup file.path = some module ∧ classes = c'.classesOf module := by
  unfold Catalogue.declaredTypes at h
  split at h
  · rename_i module hmodule
    cases h
    exact ⟨module, hmodule, rfl⟩
  · split at h
    · rename_i facts hread
      cases h
      refine ⟨facts.module, ?_, rfl⟩
      rw [← path_of_readFacts hread]
      exact lookup_assign_self c.modules facts.path facts.module
    · split at h <;> cases h
    · cases h

theorem declaredTypes_outcome (t : FileTree) (file : ModuleFile) (c : Catalogue) :
    Outcome t file c (c.declaredTypes t file) := by
  rcases hd : c.declaredTypes t file with ⟨(⟨path, cause⟩ | fault) | classes, c'⟩
  · exact declaredTypes_failed hd
  · obtain ⟨hread, hfatal⟩ := fatal_of_declaredTypes hd
    have hcaused := caused_of_readFacts hread
    refine ⟨declaredTypes_fatal hd, ?_⟩
    cases fault with
    | noIndex => exact Or.inl ⟨rfl, hcaused⟩
    | integerTooLarge => exact Or.inr ⟨rfl, hcaused⟩
    | _ => cases hfatal
  · exact ⟨declaredTypes_ok hd, classes_of_declaredTypes hd⟩

/-- Is the expression a name? -/
def isName : Source.Expr → Bool
  | .name _ => true
  | _ => false

/-- A file of which only names are converted and nothing is evaluated holds no cause for the end of a run. -/
theorem no_causes_of_names {file : ModuleFile} (h : (bodyOf t file).all (fun body =>
      (convertedIn Source.readExpression (scopeOf file.module file.isPackage body) body).all isName &&
        (evaluatedIn body).isEmpty) = true) :
    ¬ EmptySubscriptIn t file ∧ ¬ LargeSumIn t file := by
  constructor
  · rintro ⟨body, hbody, e, he, hempty⟩
    rw [hbody, Option.all_some, Bool.and_eq_true, List.all_eq_true] at h
    have hname := h.1 e he
    cases hempty <;> cases hname
  · rintro ⟨body, hbody, e, he, _⟩
    rw [hbody, Option.all_some, Bool.and_eq_true, List.isEmpty_iff] at h
    rw [h.2] at he
    cases he

/-- A file with an annotation that lacks its index, and one with a class. -/
def fatalTree : FileTree :=
  ⟨[(["r"], .directory), (["r", "empty.py"], .file (Text.ofString "class C:\n  x: list[()]\n")),
    (["r", "m.py"], .file (Text.ofString "class M:\n  pass\n"))], [], []⟩

def fatalFile : ModuleFile := ⟨"/r/empty.py", "empty.py", "empty", false⟩

def goodFile : ModuleFile := ⟨"/r/m.py", "m.py", "m", false⟩

/-- The fault that ends a run when the classes of a file are asked for. -/
def fatalOf : Except LoadFault (List Descriptor) → Option SourceFault
  | .error (.fatal fault) => some fault
  | _ => none

theorem fatal_of_fatalOf {file : ModuleFile} {c : Catalogue} {fault : SourceFault}
    (h : fatalOf (c.declaredTypes t file).1 = some fault) : c.declaredTypes t file = (.error (.fatal fault), c) := by
  rcases hd : c.declaredTypes t file with ⟨(⟨path, cause⟩ | fault') | classes, c'⟩
  · rw [hd] at h
    cases h
  · rw [hd] at h
    cases h
    rw [declaredTypes_fatal hd]
  · rw [hd] at h
    cases h

theorem not_gives_of_fatal {file : ModuleFile} {s : RunState} {fault : SourceFault}
    (h : s.catalogue.declaredTypes t file = (.error (.fatal fault), s.catalogue)) (files : List ModuleFile)
    (markers : List String) (entries : TypeSet) (s' : RunState) :
    ¬ Gives (collectEntryTypes t (file :: files) markers) s entries s' := by
  intro hgives
  obtain ⟨classes, s₁, hall, _⟩ := gives_bind.mp hgives
  cases gives_mapM.mp hall with
  | cons hfirst _ =>
    obtain ⟨answer, s₂, hask, hthrow⟩ := gives_bind.mp hfirst
    obtain ⟨rfl, rfl⟩ := gives_ask.mp hask
    rw [h] at hthrow
    exact absurd hthrow not_gives_throw

end ModelReach.Run
