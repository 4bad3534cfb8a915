import ModelReach.Proofs.Text.Dotted
import ModelReach.Types.Loading

/-! What the facts about a file say of its classes: they bear the name of the file's module, and their own names
have no point. So the full name of a class can be cut into the two again. -/
namespace ModelReach
set_option autoImplicit false

open Files (FileTree ModuleFile)

/-! ## Classes of a module -/

namespace Facts
open Source (Stmt Identifier)

theorem bind_ok {ε α β : Type} {x : Except ε α} {f : α → Except ε β} {b : β} :
    x >>= f = .ok b ↔ ∃ a, x = .ok a ∧ f a = .ok b := by
  cases x with
  | error fault =>
    constructor
    · intro h
      cases h
    · rintro ⟨a, ha, _⟩
      cases ha
  | ok a =>
    constructor
    · exact fun h => ⟨a, rfl, h⟩
    · rintro ⟨a', ha, h⟩
      cases ha
      exact h

theorem mem_of_mapM_ok {ε α β : Type} {f : α → Except ε β} {l : List α} {bs : List β}
    (h : l.mapM f = .ok bs) : ∀ b ∈ bs, ∃ a ∈ l, f a = .ok b := by
  induction l generalizing bs with
  | nil =>
    cases h
    exact fun b hb => absurd hb List.not_mem_nil
  | cons a l ih =>
    rw [List.mapM_cons] at h
    obtain ⟨b, hb, h⟩ := bind_ok.mp h
    obtain ⟨bs', hbs, h⟩ := bind_ok.mp h
    cases h
    intro b' hb'
    rcases List.mem_cons.mp hb' with rfl | hb'
    · exact ⟨a, List.mem_cons_self .., hb⟩
    · obtain ⟨a', ha', hf⟩ := ih hbs b' hb'
      exact ⟨a', List.mem_cons_of_mem a ha', hf⟩

theorem exists_of_mapM_ok {ε α β : Type} {f : α → Except ε β} {l : List α} {bs : List β}
    (h : l.mapM f = .ok bs) : ∀ a ∈ l, ∃ b ∈ bs, f a = .ok b := by
  induction l generalizing bs with
  | nil => exact fun a ha => absurd ha List.not_mem_nil
  | cons a l ih =>
    rw [List.mapM_cons] at h
    obtain ⟨b, hb, h⟩ := bind_ok.mp h
    obtain ⟨bs', hbs, h⟩ := bind_ok.mp h
    cases h
    intro a' ha'
    rcases List.mem_cons.mp ha' with rfl | ha'
    · exact ⟨b, List.mem_cons_self .., hb⟩
    · obtain ⟨b', hb', hf⟩ := ih hbs a' ha'
      exact ⟨b', List.mem_cons_of_mem b hb', hf⟩

theorem mapM_ok_iff {ε α β : Type} {f : α → Except ε β} {l : List α} :
    (∃ bs, l.mapM f = .ok bs) ↔ ∀ a ∈ l, ∃ b, f a = .ok b := by
  constructor
  · rintro ⟨bs, h⟩ a ha
    obtain ⟨b, _, hb⟩ := exists_of_mapM_ok h a ha
    exact ⟨b, hb⟩
  · intro h
    induction l with
    | nil => exact ⟨[], rfl⟩
    | cons a l ih =>
      obtain ⟨b, hb⟩ := h a (List.mem_cons_self ..)
      obtain ⟨bs, hbs⟩ := ih fun a' ha' => h a' (List.mem_cons_of_mem a ha')
      refine ⟨b :: bs, ?_⟩
      rw [List.mapM_cons, hb, hbs]
      rfl

theorem length_of_mapM_ok {ε α β : Type} {f : α → Except ε β} {l : List α} {bs : List β} (h : l.mapM f = .ok bs) :
    bs.length = l.length := by
  induction l generalizing bs with
  | nil =>
    cases h
    rfl
  | cons a l ih =>
    rw [List.mapM_cons] at h
    obtain ⟨b, _, h⟩ := bind_ok.mp h
    obtain ⟨bs', hbs, h⟩ := bind_ok.mp h
    cases h
    rw [List.length_cons, List.length_cons, ih hbs]

theorem classFacts_ok {read : Reader} {s : Scope} {decorators bases : List Source.Expr} {name : String}
    {body : List Stmt} {c : ClassFacts} (h : classFacts read s decorators name bases body = .ok c) :
    c.module = s.module ∧ c.name = name := by
  unfold classFacts at h
  obtain ⟨_, _, h⟩ := bind_ok.mp h
  obtain ⟨_, _, h⟩ := bind_ok.mp h
  obtain ⟨_, _, h⟩ := bind_ok.mp h
  cases h
  exact ⟨rfl, rfl⟩

/-- Only class statements give facts about a class; these bear the name of the module and an identifier. -/
theorem stmtFacts_ok {read : Reader} {s : Scope} {stmt : Stmt} {c : ClassFacts}
    (h : stmtFacts read s stmt = .ok (some c)) :
    c.module = s.module ∧ ∃ name : Identifier, c.name = name.text := by
  unfold stmtFacts at h
  split at h
  · rename_i name _ _
    obtain ⟨found, hfound, h⟩ := bind_ok.mp h
    cases h
    obtain ⟨hmodule, hname⟩ := classFacts_ok hfound
    exact ⟨hmodule, name, hname⟩
  · cases h

/-- The facts about a module are those about the file and the class statements at its top. -/
theorem moduleFacts_ok {read : Reader} {module path : String} {isPackage : Bool} {body : List Stmt}
    {facts : ModuleFacts} (h : moduleFacts read module path isPackage body = .ok facts) :
    facts.path = path ∧ ∀ c ∈ facts.classes,
      c.module = module ∧ ∃ name : Identifier, c.name = name.text := by
  unfold moduleFacts at h
  obtain ⟨classes, hclasses, h⟩ := bind_ok.mp h
  cases h
  refine ⟨rfl, fun c hc => ?_⟩
  obtain ⟨found, hfound, rfl⟩ := List.mem_filterMap.mp hc
  obtain ⟨stmt, _, hstmt⟩ := mem_of_mapM_ok hclasses _ hfound
  exact stmtFacts_ok hstmt

/-- Every class statement at the top of a module is among its facts. -/
theorem moduleFacts_classes {read : Reader} {module path : String} {isPackage : Bool} {body : List Stmt}
    {facts : ModuleFacts} (h : moduleFacts read module path isPackage body = .ok facts)
    {decorators bases : List Source.Expr} {name : Identifier} {stmts : List Stmt}
    (hstmt : Stmt.classDef decorators name bases stmts ∈ body) :
    ∃ c ∈ facts.classes, c.qualifiedName = module ++ "." ++ name.text := by
  unfold moduleFacts at h
  obtain ⟨classes, hclasses, h⟩ := bind_ok.mp h
  cases h
  obtain ⟨found, hfound, hfacts⟩ := exists_of_mapM_ok hclasses _ hstmt
  obtain ⟨c, hc, h⟩ := bind_ok.mp hfacts
  cases h
  obtain ⟨hmodule, hname⟩ := classFacts_ok hc
  refine ⟨c, List.mem_filterMap.mpr ⟨some c, hfound, rfl⟩, ?_⟩
  rw [ClassFacts.qualifiedName, hmodule, hname]
  rfl

theorem module_of_moduleFacts {read : Reader} {module path : String} {isPackage : Bool} {body : List Stmt}
    {facts : ModuleFacts} (h : moduleFacts read module path isPackage body = .ok facts) :
    facts.module = module := by
  unfold moduleFacts at h
  obtain ⟨_, _, h⟩ := bind_ok.mp h
  cases h
  rfl

end Facts

/-! ## Facts about a file -/

/-- The statements of a file, if it can be read and is source. -/
def bodyOf (t : FileTree) (file : ModuleFile) : Option (List Source.Stmt) := do
  let bytes ← (t.read file.path).toOption
  let text ← (Text.ofUtf8 bytes).toOption
  (Source.readModule text.lineFeeds).toOption

theorem bodyOf_eq {t : FileTree} {file : ModuleFile} {bytes : List Nat} {text : Text}
    (hbytes : t.read file.path = .ok bytes) (htext : Text.ofUtf8 bytes = .ok text) :
    bodyOf t file = (Source.readModule text.lineFeeds).toOption := by
  unfold bodyOf
  rw [hbytes]
  change (Text.ofUtf8 bytes).toOption.bind _ = _
  rw [htext]
  rfl

/-- The facts about a file are those about its statements. -/
theorem readFacts_body {t : FileTree} {file : ModuleFile} {facts : ModuleFacts}
    (h : readFacts t file = .ok facts) : ∃ body, bodyOf t file = some body ∧
      Facts.moduleFacts Source.readExpression file.module file.path file.isPackage body = .ok facts := by
  unfold readFacts at h
  split at h
  · cases h
  · rename_i bytes hbytes
    split at h
    · cases h
    · rename_i text htext
      split at h
      · cases h
      · rename_i found hfound
        cases h
        obtain ⟨body, hbody, hfacts⟩ := Facts.bind_ok.mp hfound
        refine ⟨body, ?_, hfacts⟩
        rw [bodyOf_eq hbytes htext, hbody]
        rfl

theorem readFacts_ok {t : FileTree} {file : ModuleFile} {facts : ModuleFacts}
    (h : readFacts t file = .ok facts) :
    ∃ body, Facts.moduleFacts Source.readExpression file.module file.path file.isPackage body = .ok facts := by
  obtain ⟨body, _, hfacts⟩ := readFacts_body h
  exact ⟨body, hfacts⟩

theorem path_of_readFacts {t : FileTree} {file : ModuleFile} {facts : ModuleFacts}
    (h : readFacts t file = .ok facts) : facts.path = file.path := by
  obtain ⟨body, hbody⟩ := readFacts_ok h
  exact (Facts.moduleFacts_ok hbody).1

theorem module_of_readFacts {t : FileTree} {file : ModuleFile} {facts : ModuleFacts}
    (h : readFacts t file = .ok facts) : facts.module = file.module := by
  obtain ⟨body, hbody⟩ := readFacts_ok h
  exact Facts.module_of_moduleFacts hbody

theorem module_of_class {t : FileTree} {file : ModuleFile} {facts : ModuleFacts}
    (h : readFacts t file = .ok facts) {c : ClassFacts} (hc : c ∈ facts.classes) : c.module = facts.module := by
  obtain ⟨body, hbody⟩ := readFacts_ok h
  rw [((Facts.moduleFacts_ok hbody).2 c hc).1, Facts.module_of_moduleFacts hbody]

/-- What stands before the last point of a class's full name is the module of its file. -/
theorem parent_qualifiedName {t : FileTree} {file : ModuleFile} {facts : ModuleFacts}
    (h : readFacts t file = .ok facts) {c : ClassFacts} (hc : c ∈ facts.classes) :
    Dotted.parent c.qualifiedName = file.module := by
  obtain ⟨body, hbody⟩ := readFacts_ok h
  obtain ⟨hmodule, name, hname⟩ := (Facts.moduleFacts_ok hbody).2 c hc
  rw [ClassFacts.qualifiedName, hname, Dotted.parent_join c.module name.unpointed, hmodule]

end ModelReach
