import ModelReach.Proofs.Ancestry.Classes
import ModelReach.Proofs.Facts.Module
import ModelReach.Proofs.Run.Collect

/-! Entry types, whatever the order of the files. All files are read before any ancestry is looked at, so the
classes that have a marker above them are the same in every order. -/
namespace ModelReach.Run
set_option autoImplicit false

open Catalogue
open Files (FileTree ModuleFile)

variable {loads : List ModuleFacts} {t : FileTree}

/-! ## The facts of files -/

/-- The facts about the files that can be read, in their order. -/
def readable (t : FileTree) (files : List ModuleFile) : List ModuleFacts :=
  files.filterMap fun file => (readFacts t file).toOption

theorem toOption_eq_some {ε α : Type} {x : Except ε α} {a : α} : x.toOption = some a ↔ x = .ok a := by
  cases x with
  | error fault =>
    constructor
    · intro h
      cases h
    · intro h
      cases h
  | ok b =>
    constructor
    · intro h
      cases h
      rfl
    · intro h
      cases h
      rfl

theorem mem_readable {files : List ModuleFile} {facts : ModuleFacts} :
    facts ∈ readable t files ↔ ∃ file ∈ files, readFacts t file = .ok facts := by
  simp only [readable, List.mem_filterMap, toOption_eq_some]

theorem separate_readable {files : List ModuleFile} (h : (files.map ModuleFile.module).Nodup) :
    Separate (readable t files) := by
  unfold Separate readable
  rw [List.pairwise_filterMap]
  have hmodules : files.Pairwise fun a b => a.module ≠ b.module := List.pairwise_map.mp h
  apply hmodules.imp
  intro f g hne a ha b hb c hc d hd he
  rw [toOption_eq_some] at ha hb
  exact hne (by rw [← parent_qualifiedName ha hc, ← parent_qualifiedName hb hd, he])

/-! ## Reading each file once -/

theorem lookup_modules_eq_none {path : String} (h : path ∉ loads.map ModuleFacts.path) :
    (loaded loads).modules.lookup path = none := by
  induction loads using List.reverseRecOn with
  | nil => rfl
  | append_singleton loads facts ih =>
    rw [List.map_append, List.mem_append, not_or] at h
    rw [loaded_concat]
    change (assign (loaded loads).modules facts.path facts.module).lookup path = none
    rw [lookup_assign_of_ne]
    · exact ih h.1
    · exact fun he => h.2 (he ▸ List.mem_singleton_self _)

/-- A file that was not read before adds its facts and shows its classes, if it can be read. -/
theorem Enumerated.unread {file : ModuleFile} {classes : List Descriptor} {more : List ModuleFacts}
    (h : Enumerated t loads file classes more) (hnew : (loaded loads).modules.lookup file.path = none) :
    classes = numbered (classesIn loads).length (classesIn (readable t [file])) ∧
      more = loads ++ readable t [file] := by
  cases h with
  | again h =>
    rw [hnew] at h
    cases h
  | @read facts _ hf =>
    have hreadable : readable t [file] = [facts] := by
      rw [readable, List.filterMap_cons, hf]
      rfl
    have hclasses : classesIn [facts] = facts.classes := List.append_nil _
    rw [hreadable, hclasses, loaded_concat, classesOf]
    change ((assign (loaded loads).byModule facts.module
      (numbered (loaded loads).settled.length facts.classes)).lookup facts.module).getD [] = _ ∧ _
    rw [lookup_assign_self, Option.getD_some, length_loaded_settled]
    exact ⟨rfl, rfl⟩
  | failed _ hf =>
    have hreadable : readable t [file] = [] := by
      rw [readable, List.filterMap_cons, hf]
      rfl
    rw [hreadable]
    exact ⟨rfl, (List.append_nil loads).symm⟩

theorem readable_cons (file : ModuleFile) (files : List ModuleFile) :
    readable t (file :: files) = readable t [file] ++ readable t files := by
  rw [readable, readable, readable, ← List.filterMap_append]
  rfl

theorem paths_readable (t : FileTree) (file : ModuleFile) :
    ((readable t [file]).map ModuleFacts.path).Sublist [file.path] := by
  rw [readable, List.filterMap_cons]
  cases hf : readFacts t file with
  | error fault => exact List.nil_sublist _
  | ok facts =>
    change [facts.path].Sublist [file.path]
    rw [path_of_readFacts hf]

/-- If no file is read twice, the classes of all files are numbered in the order of reading. -/
theorem ReadAll.unread {files : List ModuleFile} {classes : List (List Descriptor)} {last : List ModuleFacts}
    (h : ReadAll t loads files classes last)
    (hnew : (loads.map ModuleFacts.path ++ files.map ModuleFile.path).Nodup) :
    classes.flatten = numbered (classesIn loads).length (classesIn (readable t files)) ∧
      last = loads ++ readable t files := by
  induction h with
  | nil => exact ⟨rfl, (List.append_nil _).symm⟩
  | @cons loads more last file files classes rest h hs ih =>
    rw [List.map_cons] at hnew
    have hfile : file.path ∉ loads.map ModuleFacts.path := fun hmem =>
      (List.nodup_append.mp hnew).2.2 file.path hmem file.path (List.mem_cons_self ..) rfl
    obtain ⟨rfl, rfl⟩ := h.unread (lookup_modules_eq_none hfile)
    have hrest : ((loads ++ readable t [file]).map ModuleFacts.path ++ files.map ModuleFile.path).Nodup := by
      rw [List.map_append, List.append_assoc]
      apply List.Pairwise.sublist _ hnew
      exact (List.Sublist.refl _).append ((paths_readable t file).append (List.Sublist.refl _))
    obtain ⟨hclasses, hlast⟩ := ih hrest
    rw [List.flatten_cons, hclasses, hlast, readable_cons file files]
    refine ⟨?_, List.append_assoc ..⟩
    rw [classesIn_append, classesIn_append, List.length_append, ← numbered_append]

/-! ## Reading ends -/

/-- If reading a file fails, the failure concerns the file alone. -/
def FailsAlone (t : FileTree) (file : ModuleFile) : Prop :=
  ∀ fault, readFacts t file = .error (.source fault) → fault.isLoadFailure = true

/-- A fault ends the run only if it was found in the source and does not just make the file fail to load. -/
theorem fatal_of_declaredTypes {file : ModuleFile} {c c' : Catalogue} {fault : Source.SourceFault}
    (h : c.declaredTypes t file = (.error (.fatal fault), c')) :
    readFacts t file = .error (.source fault) ∧ fault.isLoadFailure = false := by
  unfold Catalogue.declaredTypes at h
  split at h
  · cases h
  · split at h
    · cases h
    · rename_i hread
      split at h
      · cases h
      · rename_i hload
        cases h
        exact ⟨hread, Bool.eq_false_of_not_eq_true hload⟩
    · cases h

theorem enumerate_ends {file : ModuleFile} (hf : FailsAlone t file) (s : RunState) :
    ∃ classes s', Gives (enumerate t file) s classes s' := by
  have hask : Gives (declaredTypes t file) s (s.catalogue.declaredTypes t file).1
      { s with catalogue := (s.catalogue.declaredTypes t file).2 } := gives_ask.mpr ⟨rfl, rfl⟩
  unfold enumerate
  rcases hd : s.catalogue.declaredTypes t file with ⟨fault | found, c⟩
  · rw [hd] at hask
    cases fault with
    | failed path cause =>
      exact ⟨[], _, gives_bind.mpr ⟨_, _, hask,
        gives_bind.mpr ⟨(), _, gives_note.mpr rfl, gives_pure.mpr ⟨rfl, rfl⟩⟩⟩⟩
    | fatal fault =>
      obtain ⟨hread, hfatal⟩ := fatal_of_declaredTypes hd
      rw [hf fault hread] at hfatal
      cases hfatal
  · rw [hd] at hask
    exact ⟨found, _, gives_bind.mpr ⟨_, _, hask, gives_pure.mpr ⟨rfl, rfl⟩⟩⟩

theorem enumerate_all_ends {files : List ModuleFile} (hf : ∀ file ∈ files, FailsAlone t file) (s : RunState) :
    ∃ classes s', GivesAll (enumerate t) files s classes s' := by
  induction files generalizing s with
  | nil => exact ⟨[], s, GivesAll.nil⟩
  | cons file files ih =>
    obtain ⟨classes, s₁, h⟩ := enumerate_ends (hf file (List.mem_cons_self ..)) s
    obtain ⟨rest, s₂, hrest⟩ := ih (fun g hg => hf g (List.mem_cons_of_mem file hg)) s₁
    exact ⟨classes :: rest, s₂, GivesAll.cons h hrest⟩

theorem collectEntryTypes_ends {files : List ModuleFile} (markers : List String)
    (hf : ∀ file ∈ files, FailsAlone t file) (s : RunState) :
    ∃ entries s', Gives (collectEntryTypes t files markers) s entries s' := by
  obtain ⟨classes, s₁, hall⟩ := enumerate_all_ends hf s
  exact ⟨_, _, gives_bind.mpr ⟨classes, s₁, gives_mapM.mpr hall, gives_bind.mpr ⟨_, _, gives_ask.mpr ⟨rfl, rfl⟩,
    gives_bind.mpr ⟨(), _, gives_note.mpr rfl, gives_pure.mpr ⟨rfl, rfl⟩⟩⟩⟩⟩

/-! ## Entries and markers -/

/-- A name is marked if it is among the markers, or its last part is. -/
def Marked (markers : List String) (name : String) : Prop :=
  name ∈ markers ∨ Dotted.lastPart name ∈ markers

theorem implements_iff {c : Catalogue} (hc : Sound loads c) (markers : List String) (n : Nat)
    (facts : ClassFacts) :
    (c.lineageReading.implements (.declared n facts) markers).run = true ↔
      ∃ name, Climbs (nextNames loads) facts.qualifiedName (baseNames facts) name ∧ Marked markers name := by
  have hany := any_qualifiedName (l := (c.lineageReading.ancestors (.declared n facts)).run)
    (fun a ha => (current_of_mem_ancestors hc.resolved ha).qualifiedName_eq)
    fun name => markers.contains name || markers.contains (Dotted.lastPart name)
  rw [map_key_ancestors hc.resolved hc.edges] at hany
  have hrun : (c.lineageReading.implements (.declared n facts) markers).run =
      (c.lineageReading.ancestors (.declared n facts)).run.any (·.isNamed markers) := rfl
  rw [hrun]
  unfold Descriptor.isNamed Descriptor.name
  rw [hany, List.any_eq_true]
  constructor
  · rintro ⟨name, hname, hm⟩
    refine ⟨name, (mem_visitNames (bounded_nextNames loads) name).mp hname, ?_⟩
    rw [Bool.or_eq_true, List.contains_iff_mem, List.contains_iff_mem] at hm
    exact hm
  · rintro ⟨name, hname, hm⟩
    refine ⟨name, (mem_visitNames (bounded_nextNames loads) name).mpr hname, ?_⟩
    rw [Bool.or_eq_true, List.contains_iff_mem, List.contains_iff_mem]
    exact hm

/-- The entries among the classes read are those from which a marked name is climbed to. -/
theorem mem_keys_entries {c : Catalogue} (hc : Sound loads c) (markers : List String) (k : String) :
    k ∈ (TypeSet.ofList (implementing c.lineageReading markers (numbered 0 (classesIn loads))).run).keys ↔
      ∃ facts ∈ classesIn loads, facts.qualifiedName = k ∧
        ∃ name, Climbs (nextNames loads) k (baseNames facts) name ∧ Marked markers name := by
  rw [TypeSet.mem_keys_ofList, List.mem_map]
  constructor
  · rintro ⟨d, hd, rfl⟩
    obtain ⟨hd, himplements⟩ := (mem_implementing _ _).mp hd
    obtain ⟨i, facts, hfacts, rfl⟩ := mem_numbered.mp hd
    exact ⟨facts, List.mem_of_getElem? hfacts, rfl, (implements_iff hc markers _ facts).mp himplements⟩
  · rintro ⟨facts, hfacts, rfl, hmarked⟩
    obtain ⟨i, hi⟩ := List.getElem?_of_mem hfacts
    refine ⟨.declared (0 + i) facts, (mem_implementing _ _).mpr ⟨mem_numbered.mpr ⟨i, facts, hi, rfl⟩, ?_⟩, rfl⟩
    exact (implements_iff hc markers _ facts).mpr hmarked

/-! ## Entry types by class -/

/-- The class is one of those at the top of a file that can be read. -/
def Declares (t : FileTree) (files : List ModuleFile) (c : ClassFacts) : Prop :=
  ∃ file ∈ files, ∃ facts, readFacts t file = .ok facts ∧ c ∈ facts.classes

/-- The class stands under the name, as the last one of its file that has it. -/
def Registers (t : FileTree) (files : List ModuleFile) (name : String) (c : ClassFacts) : Prop :=
  ∃ file ∈ files, ∃ facts, readFacts t file = .ok facts ∧ StandsIn facts name c

theorem Registers.declares {files : List ModuleFile} {name : String} {c : ClassFacts}
    (h : Registers t files name c) : Declares t files c ∧ c.qualifiedName = name := by
  obtain ⟨file, hfile, facts, hfacts, hc⟩ := h
  exact ⟨⟨file, hfile, facts, hfacts, hc.mem⟩, hc.qualifiedName_eq⟩

theorem mem_classesIn_readable {files : List ModuleFile} {c : ClassFacts} :
    c ∈ classesIn (readable t files) ↔ Declares t files c := by
  rw [classesIn, List.mem_flatMap]
  constructor
  · rintro ⟨facts, hfacts, hc⟩
    obtain ⟨file, hfile, hread⟩ := mem_readable.mp hfacts
    exact ⟨file, hfile, facts, hread, hc⟩
  · rintro ⟨file, hfile, facts, hread, hc⟩
    exact ⟨facts, mem_readable.mpr ⟨file, hfile, hread⟩, hc⟩

theorem mem_nextNames_readable {files : List ModuleFile} (h : (files.map ModuleFile.module).Nodup)
    (m n : String) :
    n ∈ nextNames (readable t files) m ↔ ∃ d, Registers t files m d ∧ n ∈ baseNames d := by
  rw [mem_nextNames]
  constructor
  · rintro ⟨d, hd, hn⟩
    obtain ⟨facts, hfacts, hd⟩ := (find?_classesIn (separate_readable h)).mp hd
    obtain ⟨file, hfile, hread⟩ := mem_readable.mp hfacts
    exact ⟨d, ⟨file, hfile, facts, hread, hd⟩, hn⟩
  · rintro ⟨d, ⟨file, hfile, facts, hread, hd⟩, hn⟩
    have hfacts : facts ∈ readable t files := mem_readable.mpr ⟨file, hfile, hread⟩
    exact ⟨d, (find?_classesIn (separate_readable h)).mpr ⟨facts, hfacts, hd⟩, hn⟩

theorem declares_perm {files order : List ModuleFile} (h : order.Perm files) :
    Declares t order = Declares t files := by
  funext c
  simp only [Declares, h.mem_iff]

theorem registers_perm {files order : List ModuleFile} (h : order.Perm files) :
    Registers t order = Registers t files := by
  funext name c
  simp only [Registers, h.mem_iff]

/-- A marked name is climbed to from some class with the key just if one other than the key is above some. -/
theorem exists_climbs_iff {files : List ModuleFile} (h : (files.map ModuleFile.module).Nodup) (k : String)
    (p : String → Prop) :
    (∃ c, Declares t files c ∧ c.qualifiedName = k ∧
        ∃ n, Climbs (nextNames (readable t files)) k (baseNames c) n ∧ p n) ↔
      ∃ c, Declares t files c ∧ c.qualifiedName = k ∧ ∃ n, Above (Registers t files) c n ∧ n ≠ k ∧ p n := by
  have hnext := mem_nextNames_readable (t := t) h
  constructor
  · rintro ⟨c, hc, hk, n, hn, hp⟩
    exact ⟨c, hc, hk, n, above_of_climbs hnext hn, hn.ne_origin, hp⟩
  · rintro ⟨c, hc, hk, n, hn, hne, hp⟩
    rcases climbs_of_above hnext hn with he | hn | ⟨d, hd, hn⟩
    · exact absurd he hne
    · exact ⟨c, hc, hk, n, hn, hp⟩
    · exact ⟨d, hd.declares.1, hd.declares.2, n, hn, hp⟩

/-- A file with a class below one of another file, and that file, whose class is below the class of a library. -/
def chainTree : FileTree :=
  ⟨[(["r"], .directory),
    (["r", "a.py"], .file (Text.ofString "from b import B\nclass S(B):\n  pass\n")),
    (["r", "b.py"], .file (Text.ofString "import lib\nclass B(lib.Base):\n  pass\n"))], [], []⟩

def chainFiles : List ModuleFile := [⟨"/r/b.py", "b.py", "b", false⟩, ⟨"/r/a.py", "a.py", "a", false⟩]

/-- The keys of the types that a step gives; none if it fails. -/
def keysGiven : Except RunFault TypeSet → List String
  | .ok types => types.keys
  | .error _ => []

theorem failsAlone_of_read {file : ModuleFile} (h : (readFacts t file).toBool = true) : FailsAlone t file := by
  intro fault hf
  rw [hf] at h
  cases h

end ModelReach.Run
