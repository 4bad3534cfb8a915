import ModelReach.Proofs.Catalogue.Entries
import ModelReach.Proofs.Facts.Module
import ModelReach.Proofs.Files.Modules

/-! What imports bind. The last import of a name decides what it stands for, and a class that an import leads to is
known by its full name, whichever form the import has. -/
namespace ModelReach.Facts
set_option autoImplicit false

open Files (FileTree ModuleFile WellFormed)
open Source (Stmt ImportName)

/-! ## Bindings in their order -/

/-- The names that a statement binds, each with the import that binds it. A star binds none that is known. -/
def bindings : Stmt → List (String × ImportName)
  | .importModules names => names.map fun n => (n.boundAs.getD (Dotted.head n.name), n)
  | .importFrom _ _ names => (names.filter (·.name ≠ "*")).map fun n => (n.boundAs.getD n.name, n)
  | _ => []

/-- What an import in a statement makes its name stand for. -/
def target (module : String) (isPackage : Bool) (n : ImportName) : Stmt → String
  | .importFrom level base _ =>
    let base := importBase module isPackage level base
    normalName (if base = "" then n.name else base ++ "." ++ n.name)
  | _ => if n.boundAs.isSome then n.name else Dotted.head n.name

/-- The bindings that a statement makes. -/
def made (module : String) (isPackage : Bool) (stmt : Stmt) : List (String × String) :=
  (bindings stmt).map fun b => (b.1, target module isPackage b.2 stmt)

/-- Bind names one after the other. -/
def bindAll (known : List (String × String)) (more : List (String × String)) : List (String × String) :=
  more.foldl (fun known b => bind known b.1 b.2) known

theorem bindAll_append (known more further : List (String × String)) :
    bindAll known (more ++ further) = bindAll (bindAll known more) further := List.foldl_append

theorem lookup_bind (known : List (String × String)) (name name' value : String) :
    (bind known name value).lookup name' = if name' = name then some value else known.lookup name' :=
  Catalogue.lookup_assign known name name' value

theorem lookup_bindAll_of_notMem {known more : List (String × String)} {name : String}
    (h : name ∉ more.map Prod.fst) : (bindAll known more).lookup name = known.lookup name := by
  induction more generalizing known with
  | nil => rfl
  | cons b more ih =>
    rw [List.map_cons, List.mem_cons, not_or] at h
    exact (ih h.2).trans ((lookup_bind known b.1 name b.2).trans (if_neg h.1))

/-- The last binding of a name counts. -/
theorem lookup_bindAll {known before after : List (String × String)} {name value : String}
    (h : name ∉ after.map Prod.fst) :
    (bindAll known (before ++ (name, value) :: after)).lookup name = some value := by
  rw [bindAll_append]
  exact (lookup_bindAll_of_notMem h).trans ((lookup_bind _ name name value).trans (if_pos rfl))

theorem bindModules_eq (module : String) (isPackage : Bool) (known : List (String × String))
    (names : List ImportName) :
    bindModules known names = bindAll known (made module isPackage (.importModules names)) := by
  induction names generalizing known with
  | nil => rfl
  | cons n names ih =>
    obtain ⟨name, _ | other⟩ := n
    · exact ih (bind known (Dotted.head name) (Dotted.head name))
    · exact ih (bind known other name)

theorem made_cons (module : String) (isPackage : Bool) (level : Nat) (base : Option String) (n : ImportName)
    (names : List ImportName) : made module isPackage (.importFrom level base (n :: names)) =
      if n.name = "*" then made module isPackage (.importFrom level base names)
      else (n.boundAs.getD n.name, target module isPackage n (.importFrom level base names)) ::
        made module isPackage (.importFrom level base names) := by
  change List.map _ (List.map _ (List.filter _ (n :: names))) = _
  by_cases hstar : n.name = "*"
  · rw [if_pos hstar, List.filter_cons_of_neg (by simp [hstar])]
    rfl
  · rw [if_neg hstar, List.filter_cons_of_pos (by simp [hstar])]
    rfl

theorem bindMembers_eq (module : String) (isPackage : Bool) (level : Nat) (base : Option String)
    (known : List (String × String)) (names : List ImportName) :
    bindMembers (importBase module isPackage level base) known names =
      bindAll known (made module isPackage (.importFrom level base names)) := by
  induction names generalizing known with
  | nil => rfl
  | cons n names ih =>
    unfold bindMembers at ih ⊢
    rw [List.foldl_cons, made_cons]
    by_cases hstar : n.name = "*"
    · rw [if_pos hstar, if_pos hstar]
      exact ih known
    · rw [if_neg hstar, if_neg hstar]
      exact ih _

theorem bindStmt_eq (module : String) (isPackage : Bool) (known : List (String × String)) (stmt : Stmt) :
    bindStmt module isPackage known stmt = bindAll known (made module isPackage stmt) := by
  cases stmt with
  | importModules names => exact bindModules_eq module isPackage known names
  | importFrom level base names => exact bindMembers_eq module isPackage level base known names
  | _ => rfl

theorem importsOf_eq (module : String) (isPackage : Bool) (body : List Stmt) :
    importsOf module isPackage body = bindAll [] ((topLevel body).flatMap (made module isPackage)) := by
  unfold importsOf
  generalize ([] : List (String × String)) = known
  induction topLevel body generalizing known with
  | nil => rfl
  | cons stmt rest ih => rw [List.foldl_cons, List.flatMap_cons, bindAll_append, ih, bindStmt_eq]

/-! ## The last binding -/

/-- An import in a statement is the last of a module's imports to bind a name. -/
def LastBinding (body : List Stmt) (stmt : Stmt) (n : ImportName) (name : String) : Prop :=
  ∃ before after earlier later, topLevel body = before ++ stmt :: after ∧
    bindings stmt = earlier ++ (name, n) :: later ∧ name ∉ (later ++ after.flatMap bindings).map Prod.fst

theorem names_made (module : String) (isPackage : Bool) (stmts : List Stmt) :
    (stmts.flatMap (made module isPackage)).map Prod.fst = (stmts.flatMap bindings).map Prod.fst := by
  rw [List.map_flatMap, List.map_flatMap]
  refine List.flatMap_congr fun stmt _ => ?_
  rw [made, List.map_map]
  rfl

/-- What the last binding of a name makes it stand for. -/
theorem lookup_importsOf {module : String} {isPackage : Bool} {body : List Stmt} {stmt : Stmt} {n : ImportName}
    {name : String} (h : LastBinding body stmt n name) :
    (importsOf module isPackage body).lookup name = some (target module isPackage n stmt) := by
  obtain ⟨before, after, earlier, later, hbody, hstmt, hlast⟩ := h
  have hmade : made module isPackage stmt = earlier.map (fun b => (b.1, target module isPackage b.2 stmt)) ++
      (name, target module isPackage n stmt) :: later.map fun b => (b.1, target module isPackage b.2 stmt) := by
    rw [made, hstmt, List.map_append, List.map_cons]
  rw [importsOf_eq, hbody, List.flatMap_append, List.flatMap_cons, hmade, List.append_assoc, List.cons_append,
    ← List.append_assoc]
  apply lookup_bindAll
  rw [List.map_append, names_made, List.map_map]
  rw [List.map_append] at hlast
  exact hlast

/-! ## Normal names -/

/-- Backports are known by the beginning of their names. -/
def Normal (name : String) : Prop := ¬ "typing_ext".toList <+: name.toList

instance (name : String) : Decidable (Normal name) := inferInstanceAs (Decidable (¬ _))

theorem normalName_eq {name : String} (h : Normal name) : normalName name = name := by
  unfold normalName
  split
  · rename_i hprefix
    rw [List.isPrefixOf_iff_prefix] at hprefix
    refine absurd (List.IsPrefix.trans ?_ hprefix) h
    exact ⟨"ensions.".toList, rfl⟩
  · rfl

theorem Normal.member {module : String} (h : Normal module) (name : String) : Normal (module ++ "." ++ name) := by
  intro hprefix
  rw [Dotted.toList_join] at hprefix
  have hwhole : module.toList ++ '.' :: name.toList = (module.toList ++ ['.']) ++ name.toList := by
    rw [List.append_assoc, List.singleton_append]
  rw [hwhole] at hprefix
  -- The beginning of the names of backports holds no point, so it ends before the one that follows the module.
  have hpoint : '.' ∉ "typing_ext".toList := by decide
  rcases List.prefix_or_prefix_of_prefix hprefix (List.prefix_append (module.toList ++ ['.']) name.toList) with hp | hp
  · rcases List.prefix_concat_iff.mp hp with he | hp
    · exact hpoint (he ▸ List.mem_append_right _ (List.mem_singleton_self '.'))
    · exact h hp
  · exact hpoint (hp.subset (List.mem_append_right _ (List.mem_singleton_self '.')))

/-! ## Packages -/

theorem notMem_withoutDashes {s : String} (h : '.' ∉ s.toList) : '.' ∉ (Files.withoutDashes s).toList := by
  rw [Files.withoutDashes, String.toList_ofList, List.mem_map]
  rintro ⟨c, hc, he⟩
  split at he
  · exact absurd he (by decide)
  · exact h (he ▸ hc)

theorem withoutDashes_ne_empty {s : String} (h : s ≠ "") : Files.withoutDashes s ≠ "" := by
  intro he
  rw [← String.toList_eq_nil_iff, Files.withoutDashes, String.toList_ofList, List.map_eq_nil_iff] at he
  exact h (String.toList_eq_nil_iff.mp he)

theorem intercalate_ne_empty {names : List String} (h : names ≠ []) (hne : ∀ name ∈ names, name ≠ "") :
    ".".intercalate names ≠ "" := by
  cases names with
  | nil => exact absurd rfl h
  | cons name names =>
    by_cases hnil : names = []
    · rw [hnil, String.intercalate_singleton]
      exact hne name (List.mem_cons_self ..)
    · rw [String.intercalate_cons_of_ne_nil hnil]
      intro he
      rw [← String.toList_eq_nil_iff, Dotted.toList_join] at he
      exact absurd (List.append_eq_nil_iff.mp he).2 (List.cons_ne_nil _ _)

/-- To drop parts from the end of a joined name is to drop names from the end, if these hold no point. -/
theorem dropParts_parts {names : List String} (n : Nat) (hne : ∀ name ∈ names, name ≠ "")
    (h : ∀ name ∈ names.drop (names.length - n), '.' ∉ name.toList) :
    dropParts n (Dotted.parts (".".intercalate names)) = (dropParts n names).flatMap (Text.piecesOf '.') := by
  by_cases hnil : names = []
  · rw [hnil, String.intercalate_nil, Dotted.parts, if_pos rfl, dropParts, List.take_nil, List.flatMap_nil]
  · have hsplit : names.flatMap (Text.piecesOf '.') =
        (dropParts n names).flatMap (Text.piecesOf '.') ++ names.drop (names.length - n) := by
      rw [← Text.flatMap_piecesOf h, ← List.flatMap_append, dropParts, List.take_append_drop]
    have hpieces : Dotted.parts (".".intercalate names) = names.flatMap (Text.piecesOf '.') :=
      (Dotted.parts_of_ne_empty (intercalate_ne_empty hnil hne)).trans (Text.piecesOf_intercalate hnil)
    rw [hpieces, hsplit]
    rcases Nat.le_total n names.length with hn | hn
    · have hlength : (names.drop (names.length - n)).length = n := by
        rw [List.length_drop]
        omega
      rw [dropParts, List.length_append, hlength, Nat.add_sub_cancel, List.take_left]
    · -- All names are dropped, and no more parts are there than names.
      have hall : names.length - n = 0 := Nat.sub_eq_zero_of_le hn
      have hnone : dropParts n names = [] := by rw [dropParts, hall, List.take_zero]
      rw [hnone, List.flatMap_nil, List.nil_append, hall, List.drop_zero, dropParts, hall, List.take_zero]

/-- The module that a relative import counts from: so many directories are dropped, and a path is appended. -/
def relativeBase (x : ModuleFile) (up : Nat) (path : Option String) : String :=
  ".".intercalate (dropParts up (x.directory.map Files.withoutDashes) ++ path.toList)

/-- The names that a relative import of a file goes by hold no point: those of the directories that it drops, and
the file's own unless it is that of a package. -/
def Unpointed (x : ModuleFile) : Stmt → Prop
  | .importFrom (up + 1) _ _ => (x.stem ≠ "__init__" → '.' ∉ x.stem.toList) ∧
      ∀ part ∈ x.directory.drop (x.directory.length - up), '.' ∉ part.toList
  | _ => True

section Scanned
variable {t : FileTree} (hw : WellFormed t) {root : String} {patterns : List String} {files : List ModuleFile}
  (hscan : Files.scan t root patterns = .ok files) {x : ModuleFile} (hx : x ∈ files)
include hw hscan hx

omit hw hscan hx in
/-- Steps to the parent are no names without points. -/
theorem getLast?_parts_ne (h : x.stem ≠ "__init__" → '.' ∉ x.stem.toList) : x.parts.getLast? ≠ some ".." := by
  intro hlast
  have hstem : x.stem = ".." := by
    rw [Files.ModuleFile.stem, hlast]
    decide
  rw [hstem] at h
  exact h (by decide) (by decide)

/-- The package of a file is named by its directory. -/
theorem package_eq (h : x.stem ≠ "__init__" → '.' ∉ x.stem.toList) :
    (if x.isPackage then x.module else Dotted.parent x.module) =
      ".".intercalate (x.directory.map Files.withoutDashes) := by
  have hshaped := Files.shaped_of_scan hw hscan hx (getLast?_parts_ne h)
  have hmodule := hshaped.module
  rw [Files.ModuleFile.moduleParts] at hmodule
  by_cases hstem : x.stem = "__init__"
  · rw [if_pos (hshaped.isPackage.mpr hstem), hmodule, if_pos hstem, List.append_nil]
  · have hpoint := notMem_withoutDashes (h hstem)
    rw [if_neg fun he => hstem (hshaped.isPackage.mp he), hmodule, if_neg hstem, List.map_append, List.map_singleton]
    by_cases hnil : x.directory.map Files.withoutDashes = []
    · rw [hnil, List.nil_append, String.intercalate_singleton, String.intercalate_nil,
        Dotted.parent_of_notMem hpoint]
    · rw [String.intercalate_append_of_ne_nil hnil (List.cons_ne_nil _ _), String.intercalate_singleton,
        Dotted.parent_join _ hpoint]

theorem importBase_eq {up : Nat} {path : Option String} {names : List ImportName}
    (h : Unpointed x (.importFrom (up + 1) path names)) :
    importBase x.module x.isPackage (up + 1) path = relativeBase x up path := by
  obtain ⟨hplain, hdropped⟩ := h
  have hne : ∀ name ∈ x.directory.map Files.withoutDashes, name ≠ "" := by
    intro name hname
    obtain ⟨part, hpart, rfl⟩ := List.mem_map.mp hname
    have hmem : part ∈ x.parts := List.dropLast_subset _ hpart
    exact withoutDashes_ne_empty (Files.isStep_iff.mp (Files.isPart_of_mem_parts hw hscan hx hmem).step).1
  have hpoints : ∀ name ∈ (x.directory.map Files.withoutDashes).drop
      ((x.directory.map Files.withoutDashes).length - up), '.' ∉ name.toList := by
    intro name hname
    rw [List.length_map, ← List.map_drop] at hname
    obtain ⟨part, hpart, rfl⟩ := List.mem_map.mp hname
    exact notMem_withoutDashes (hdropped part hpart)
  rw [importBase, if_neg (Nat.succ_ne_zero up)]
  dsimp only
  rw [package_eq hw hscan hx hplain, Nat.add_sub_cancel, dropParts_parts up hne hpoints, Dotted.intercalate_flatMap,
    relativeBase]

end Scanned

/-! ## Forms of imports -/

/-- A word of the kind that names are written with. -/
structure IsWord (s : String) : Prop where
  unpointed : '.' ∉ s.toList
  nonempty : s ≠ ""

instance (s : String) : Decidable (IsWord s) :=
  decidable_of_iff ('.' ∉ s.toList ∧ s ≠ "") ⟨fun h => ⟨h.1, h.2⟩, fun h => ⟨h.unpointed, h.nonempty⟩⟩

/-- An import in a statement of a file that leads to a class of a module, and how the class is then written: under
the name imported or another given to it, or below its module. -/
inductive Leads (x : ModuleFile) (module name : String) : Stmt → ImportName → String → Prop
  | member {names : List ImportName} {other : Option String} :
    Leads x module name (.importFrom 0 (some module) names) ⟨name, other⟩ (other.getD name)
  | whole {names : List ImportName} :
    Leads x module name (.importModules names) ⟨module, none⟩ (module ++ "." ++ name)
  | renamed {names : List ImportName} {other : String} :
    Leads x module name (.importModules names) ⟨module, some other⟩ (other ++ "." ++ name)
  | submodule {names : List ImportName} {parent last : String} {other : Option String} (hp : parent ≠ "")
    (hm : module = parent ++ "." ++ last) :
    Leads x module name (.importFrom 0 (some parent) names) ⟨last, other⟩ (other.getD last ++ "." ++ name)
  | relativeMember {names : List ImportName} {up : Nat} {path other : Option String}
    (hm : relativeBase x up path = module) :
    Leads x module name (.importFrom (up + 1) path names) ⟨name, other⟩ (other.getD name)
  | relativeSubmodule {names : List ImportName} {up : Nat} {path other : Option String} {last : String}
    (hm : module = if relativeBase x up path = "" then last else relativeBase x up path ++ "." ++ last) :
    Leads x module name (.importFrom (up + 1) path names) ⟨last, other⟩ (other.getD last ++ "." ++ name)

/-- The names that an import is written with are words. A module is named by words joined by points. -/
def Worded (n : ImportName) : Stmt → Prop
  | .importFrom _ _ _ => IsWord n.name ∧ ∀ other ∈ n.boundAs, IsWord other
  | _ => ∀ other ∈ n.boundAs, IsWord other

theorem isWord_getD {name : String} {boundAs : Option String} (h : IsWord name)
    (hother : ∀ other ∈ boundAs, IsWord other) : IsWord (boundAs.getD name) := by
  cases boundAs with
  | none => exact h
  | some other => exact hother other rfl

section Qualify
variable {module : String} {isPackage : Bool} {body : List Stmt} {stmt : Stmt} {n : ImportName} {written : String}
  (hlast : LastBinding body stmt n (Dotted.head written)) (hlocal : Dotted.head written ∉ classNames body)
include hlast hlocal

theorem qualify_eq : (scopeOf module isPackage body).qualify written =
    normalName (if Dotted.rest written = "" then target module isPackage n stmt
      else target module isPackage n stmt ++ "." ++ Dotted.rest written) := by
  have hcontains : (classNames body).contains (Dotted.head written) = false := by
    rw [← Bool.not_eq_true, List.contains_iff_mem]
    exact hlocal
  have htarget : (scopeOf module isPackage body).headTarget (Dotted.head written) = target module isPackage n stmt := by
    unfold Scope.headTarget scopeOf
    dsimp only
    rw [hcontains, if_neg Bool.false_ne_true, lookup_importsOf hlast]
  rw [Scope.qualify, htarget]

theorem qualify_word (hword : IsWord written) :
    (scopeOf module isPackage body).qualify written = normalName (target module isPackage n stmt) := by
  rw [qualify_eq hlast hlocal, Dotted.rest_of_notMem hword.unpointed, if_pos rfl]

end Qualify

/-- A name below a word is one below what the word stands for. -/
theorem qualify_below {module : String} {isPackage : Bool} {body : List Stmt} {stmt : Stmt} {n : ImportName}
    {word name : String} (hlast : LastBinding body stmt n (Dotted.head (word ++ "." ++ name)))
    (hlocal : Dotted.head (word ++ "." ++ name) ∉ classNames body) (hword : IsWord word) (hname : name ≠ "") :
    (scopeOf module isPackage body).qualify (word ++ "." ++ name) =
      normalName (target module isPackage n stmt ++ "." ++ name) := by
  rw [qualify_eq hlast hlocal, Dotted.rest_join hword.unpointed, if_neg hname]

/-- What an import of an absolute name makes a name stand for. -/
theorem target_absolute (module : String) (isPackage : Bool) (n : ImportName) {base : String} (h : base ≠ "")
    (names : List ImportName) :
    target module isPackage n (.importFrom 0 (some base) names) = normalName (base ++ "." ++ n.name) := by
  rw [target, importBase, if_pos rfl, Option.getD_some, if_neg h]

section Import
variable {t : FileTree} (hw : WellFormed t) {root : String} {patterns : List String} {files : List ModuleFile}
  (hscan : Files.scan t root patterns = .ok files)
include hw hscan

/-- What a relative import makes a name stand for. -/
theorem target_relative {x : ModuleFile} (hx : x ∈ files) (n : ImportName) {up : Nat} {path : Option String}
    {names : List ImportName} (h : Unpointed x (.importFrom (up + 1) path names)) :
    target x.module x.isPackage n (.importFrom (up + 1) path names) =
      normalName (if relativeBase x up path = "" then n.name else relativeBase x up path ++ "." ++ n.name) := by
  rw [target, importBase_eq hw hscan hx h]

/-- Every form of import leads to the class as it is declared. -/
theorem qualify_import {f x : ModuleFile} (hf : f ∈ files) (hx : x ∈ files) {facts : ModuleFacts}
    (hfacts : readFacts t f = .ok facts) {c : ClassFacts} (hc : c ∈ facts.classes) (hname : IsWord c.name)
    (hnormal : Normal f.module) {body : List Stmt} {stmt : Stmt} {n : ImportName} {written : String}
    (hleads : Leads x f.module c.name stmt n written) (hlast : LastBinding body stmt n (Dotted.head written))
    (hlocal : Dotted.head written ∉ classNames body) (hworded : Worded n stmt) (hunpointed : Unpointed x stmt) :
    (scopeOf x.module x.isPackage body).qualify written = f.module ++ "." ++ c.name ∧
      ∀ number, (Descriptor.declared number c).key = f.module ++ "." ++ c.name := by
  have hmodule : f.module ≠ "" := Files.module_ne_empty hw hscan hf
  have hnormalMember := normalName_eq (hnormal.member c.name)
  constructor
  · cases hleads with
    | member =>
      rw [qualify_word hlast hlocal (isWord_getD hname hworded.2), target_absolute _ _ _ hmodule]
      exact (congrArg normalName hnormalMember).trans hnormalMember
    | @whole names =>
      -- The head of the module's name is bound, and stands for itself.
      have hpoint : '.' ∈ (f.module ++ "." ++ c.name).toList := by
        rw [Dotted.toList_join]
        exact List.mem_append_right _ (List.mem_cons_self ..)
      have htarget : target x.module x.isPackage ⟨f.module, none⟩ (.importModules names) =
          Dotted.head (f.module ++ "." ++ c.name) := (Dotted.head_append f.module c.name).symm
      rw [qualify_eq hlast hlocal, if_neg (Dotted.rest_ne_empty f.module hname.nonempty), htarget,
        Dotted.head_append_rest hpoint, hnormalMember]
    | renamed => exact (qualify_below hlast hlocal (hworded _ rfl) hname.nonempty).trans hnormalMember
    | submodule hp hm =>
      rw [qualify_below hlast hlocal (isWord_getD hworded.1 hworded.2) hname.nonempty, target_absolute _ _ _ hp, ← hm,
        normalName_eq hnormal, hnormalMember]
    | relativeMember hm =>
      rw [qualify_word hlast hlocal (isWord_getD hname hworded.2), target_relative hw hscan hx _ hunpointed, hm,
        if_neg hmodule]
      exact (congrArg normalName hnormalMember).trans hnormalMember
    | relativeSubmodule hm =>
      rw [qualify_below hlast hlocal (isWord_getD hworded.1 hworded.2) hname.nonempty,
        target_relative hw hscan hx _ hunpointed, ← hm, normalName_eq hnormal, hnormalMember]
  · intro number
    obtain ⟨body', hbody⟩ := readFacts_ok hfacts
    rw [← ((moduleFacts_ok hbody).2 c hc).1]
    rfl

end Import

/-- A class, and two modules that import it from the directory above theirs. The name of one directory holds a
point. -/
def versionTree : FileTree :=
  ⟨[(["r"], .directory), (["r", "p.py"], .file (Text.ofString "class C:\n  pass\n")),
    (["r", "v1-2"], .directory), (["r", "v1-2", "x.py"], .file (Text.ofString "from ..p import C\n")),
    (["r", "v1.2"], .directory), (["r", "v1.2", "x.py"], .file (Text.ofString "from ..p import C\n"))], [], []⟩

def declaringFile : ModuleFile := ⟨"/r/p.py", "p.py", "p", false⟩

def dashedFile : ModuleFile := ⟨"/r/v1-2/x.py", "v1-2/x.py", "v1_2.x", false⟩

def pointedFile : ModuleFile := ⟨"/r/v1.2/x.py", "v1.2/x.py", "v1.2.x", false⟩

def memberImport : Stmt := .importFrom 2 (some "p") [⟨"C", none⟩]

theorem scan_version : Files.scan versionTree "/r" ["**/*.py"] = .ok [declaringFile, dashedFile, pointedFile] := by
  have hglob : (["**/*.py"].mapM (Files.seek versionTree (Files.PurePath.ofString "/r"))).map List.flatten =
      .ok [⟨"/", ["r", "p.py"]⟩, ⟨"/", ["r", "v1-2", "x.py"]⟩, ⟨"/", ["r", "v1.2", "x.py"]⟩] := by decide +kernel
  have hfiles : Files.distinctFiles (([⟨"/", ["r", "p.py"]⟩, ⟨"/", ["r", "v1-2", "x.py"]⟩,
      ⟨"/", ["r", "v1.2", "x.py"]⟩] : List Files.PurePath).filterMap
        (Files.moduleFile? versionTree (Files.PurePath.ofString "/r"))) =
      [declaringFile, dashedFile, pointedFile] := by decide +kernel
  rw [Files.scan_eq, hglob, Except.map, hfiles, List.mergeSort_of_pairwise (by decide +kernel)]

theorem readFacts_version : ∃ facts c, readFacts versionTree declaringFile = .ok facts ∧ c ∈ facts.classes ∧
    c.name = "C" ∧ c.qualifiedName = "p.C" := by
  have hread : ((readFacts versionTree declaringFile).toOption.any fun facts =>
      facts.classes.any fun c => c.name = "C" ∧ c.qualifiedName = "p.C") = true := by decide +kernel
  cases hfacts : readFacts versionTree declaringFile with
  | error cause =>
    rw [hfacts] at hread
    cases hread
  | ok facts =>
    rw [hfacts] at hread
    obtain ⟨c, hc, hclass⟩ := List.any_eq_true.mp hread
    exact ⟨facts, c, rfl, hc, of_decide_eq_true hclass⟩

theorem lastBinding_memberImport : LastBinding [memberImport] memberImport ⟨"C", none⟩ (Dotted.head "C") :=
  ⟨[], [], [], [], rfl, by rw [show Dotted.head "C" = "C" by decide +kernel]; rfl, List.not_mem_nil⟩

theorem worded_memberImport : Worded ⟨"C", none⟩ memberImport :=
  ⟨by decide, fun _ h => absurd h (Option.not_mem_none _)⟩

theorem qualify_import_dashed : ∃ facts c, readFacts versionTree declaringFile = .ok facts ∧ c ∈ facts.classes ∧
    (scopeOf dashedFile.module dashedFile.isPackage [memberImport]).qualify "C" = (Descriptor.declared 0 c).key := by
  obtain ⟨facts, c, hfacts, hc, hname, _⟩ := readFacts_version
  have hw : WellFormed versionTree := by decide +kernel
  have hword : IsWord c.name := hname ▸ by decide
  have hleads : Leads dashedFile declaringFile.module c.name memberImport ⟨"C", none⟩ "C" :=
    hname ▸ .relativeMember (by decide +kernel)
  have hunpointed : Unpointed dashedFile memberImport := ⟨fun _ => by decide +kernel, by decide +kernel⟩
  obtain ⟨hqualify, hkey⟩ := qualify_import hw scan_version (List.mem_cons_self ..)
    (List.mem_cons_of_mem _ (List.mem_cons_self ..)) hfacts hc hword (by decide +kernel) hleads
    lastBinding_memberImport (by decide +kernel) worded_memberImport hunpointed
  exact ⟨facts, c, hfacts, hc, hqualify.trans (hkey 0).symm⟩

/-- A point in the name of a directory counts as the end of a part, so the import does not get out of it. -/
theorem qualify_import_pointed : ∃ facts c, WellFormed versionTree ∧
    Files.scan versionTree "/r" ["**/*.py"] = .ok [declaringFile, dashedFile, pointedFile] ∧
      readFacts versionTree declaringFile = .ok facts ∧ c ∈ facts.classes ∧
      (∀ part ∈ declaringFile.directory ++ [declaringFile.stem], '.' ∉ part.toList) ∧
      (readFacts versionTree pointedFile).toOption.map ModuleFacts.imports = some [("C", "v1.p.C")] ∧
      Leads pointedFile declaringFile.module c.name memberImport ⟨"C", none⟩ "C" ∧
      LastBinding [memberImport] memberImport ⟨"C", none⟩ (Dotted.head "C") ∧
      Dotted.head "C" ∉ classNames [memberImport] ∧ IsWord c.name ∧ Worded ⟨"C", none⟩ memberImport ∧
      Normal declaringFile.module ∧
      (scopeOf pointedFile.module pointedFile.isPackage [memberImport]).qualify "C" = "v1.p.C" ∧
      (Descriptor.declared 0 c).key = "p.C" := by
  obtain ⟨facts, c, hfacts, hc, hname, hkey⟩ := readFacts_version
  have hleads : Leads pointedFile declaringFile.module c.name memberImport ⟨"C", none⟩ "C" :=
    hname ▸ .relativeMember (by decide +kernel)
  exact ⟨facts, c, by decide +kernel, scan_version, hfacts, hc, by decide +kernel, by decide +kernel,
    hleads, lastBinding_memberImport, by decide +kernel, hname ▸ by decide,
    worded_memberImport, by decide +kernel, by decide +kernel, hkey⟩

end ModelReach.Facts
