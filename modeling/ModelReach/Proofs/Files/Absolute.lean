import Mathlib.Data.List.Induction
import ModelReach.Proofs.Files.Spellings

/-! The absolute spelling of a path leads where the path does, and the paths of files that are found below two
spellings have the same order. -/
namespace ModelReach.Files
set_option autoImplicit false

open FileTree

/-! ## Paths in order -/

/-- The text of a path begins those of the paths below it in one way. -/
theorem render_below (r : PurePath) :
    ∃ before : String, ∀ names, names ≠ [] → (r.descend names).render = before ++ "/".intercalate names := by
  have hbelow : ∀ names, names ≠ [] → (r.descend names).render = r.root ++ "/".intercalate (r.parts ++ names) := by
    intro names hn
    rw [PurePath.render, if_neg]
    · rfl
    · rw [Bool.and_eq_true, List.isEmpty_iff]
      exact fun h => hn (List.append_eq_nil_iff.mp h.2).2
  by_cases hparts : r.parts = []
  · refine ⟨r.root, fun names hn => ?_⟩
    rw [hbelow names hn, hparts, List.nil_append]
  · refine ⟨r.root ++ "/".intercalate r.parts ++ "/", fun names hn => ?_⟩
    rw [hbelow names hn, String.intercalate_append_of_ne_nil hparts hn]
    simp only [String.append_assoc]

section Paths
variable {t : FileTree} {r r' : PurePath} {files files' : List ModuleFile}

theorem exists_tails {before before' : String}
    (hbefore : ∀ names, names ≠ [] → (r.descend names).render = before ++ "/".intercalate names)
    (hbefore' : ∀ names, names ≠ [] → (r'.descend names).render = before' ++ "/".intercalate names)
    (h : List.Forall₂ (SameFile t r r') files files') :
    ∃ tails : List String, files.map ModuleFile.path = tails.map (before ++ ·) ∧
      files'.map ModuleFile.path = tails.map (before' ++ ·) ∧
      ∀ tail ∈ tails, LeadTogether t (before ++ tail) (before' ++ tail) := by
  induction h with
  | nil => exact ⟨[], rfl, rfl, fun _ hm => absurd hm List.not_mem_nil⟩
  | cons hsame _ ih =>
    obtain ⟨tails, htails, htails', hall⟩ := ih
    obtain ⟨names, hnames, hpath, hpath'⟩ := hsame.path
    rw [hbefore names hnames] at hpath
    rw [hbefore' names hnames] at hpath'
    refine ⟨"/".intercalate names :: tails, ?_, ?_, List.forall_mem_cons.mpr ⟨?_, hall⟩⟩
    · rw [List.map_cons, List.map_cons, htails, hpath]
    · rw [List.map_cons, List.map_cons, htails', hpath']
    · rw [← hpath, ← hpath']
      exact hsame.together

/-- The sorted paths of the same files lead to the same files one by one. -/
theorem leadTogether_sorted (h : List.Forall₂ (SameFile t r r') files files') :
    List.Forall₂ (LeadTogether t) (sortStrings (files.map ModuleFile.path))
      (sortStrings (files'.map ModuleFile.path)) := by
  obtain ⟨before, hbefore⟩ := render_below r
  obtain ⟨before', hbefore'⟩ := render_below r'
  obtain ⟨tails, htails, htails', hall⟩ := exists_tails hbefore hbefore' h
  rw [htails, htails', sortStrings_append, sortStrings_append, List.forall₂_map_left_iff,
    List.forall₂_map_right_iff, List.forall₂_same]
  exact fun tail hm => hall tail (mem_sortStrings.mp hm)

end Paths

/-! ## Absolute spellings -/

/-- Names as a system takes them: not too long, and without the character zero. -/
def SystemNames (t : FileTree) : Prop :=
  ∀ e ∈ t.entries, ∀ name ∈ e.1, name.utf8ByteSize ≤ maxNameBytes ∧ '\x00' ∉ name.toList

instance (t : FileTree) : Decidable (SystemNames t) :=
  inferInstanceAs (Decidable (∀ e ∈ t.entries, ∀ name ∈ e.1,
    name.utf8ByteSize ≤ maxNameBytes ∧ '\x00' ∉ name.toList))

section Absolute
variable {t : FileTree} (hw : WellFormed t) (hl : t.LinkFree) {here : List String} {node : Node}

section Names
variable (hn : SystemNames t) (h : t.node? here = some node)
include hn h

theorem systemName_of_mem : ∀ name ∈ here, name.utf8ByteSize ≤ maxNameBytes ∧ '\x00' ∉ name.toList := by
  by_cases hnil : here = []
  · rw [hnil]
    exact fun _ hm => absurd hm List.not_mem_nil
  · exact hn _ (mem_entries_of_node? h hnil)

include hw hl

/-- The parts of a node lead to it from the topmost directory. -/
theorem walk_parts : t.walk [] here = .ok here := by
  induction here using List.reverseRecOn generalizing node with
  | nil => exact walk_nil t []
  | append_singleton above name ih =>
    have habove : t.node? above = some .directory := by
      have hparent := node?_dropLast hw h
      rwa [List.dropLast_concat] at hparent
    have hlast : name ∈ above ++ [name] := List.mem_append_right _ (List.mem_singleton_self name)
    have hname := isName_of_node? hw h name hlast
    have hshort := (systemName_of_mem hn h name hlast).1
    rw [walk_append hl, ih habove]
    dsimp only [Except.bind]
    rw [walk_cons hl, habove]
    simp only [hname.step, Bool.not_true, Bool.false_eq_true, if_false, hname.proper, Nat.not_lt.mpr hshort, h]
    exact walk_nil t _

end Names

include hw

theorem spells_ofString {s : String} (h : t.find (PurePath.ofString s).render = .ok (here, node)) :
    Spells t here (PurePath.ofString s) := by
  obtain ⟨hcheck, hwalk, _⟩ := (find_render_iff hw (clean_ofString s)).mp h
  refine ⟨clean_ofString s, hwalk, fun part hpart hnull => (checkText_iff.mp hcheck).1 ?_⟩
  rw [← exists_mem_parts_render (by decide) (by decide) (clean_ofString s)]
  exact ⟨part, hpart, hnull⟩

omit hw in
theorem beforeNull_eq {s : String} (h : '\x00' ∉ s.toList) : beforeNull s = s := by
  have hall : s.toList.takeWhile (· != '\x00') = s.toList :=
    List.takeWhile_eq_self_iff.mpr (Text.all_of_notMem h)
  rw [beforeNull, hall, String.ofList_toList]

include hl in
/-- The absolute form of a text has the parts to which the text leads. -/
theorem absolute_eq {s : String} (h : Spells t here (PurePath.ofString s)) :
    absolute t.workDir s = ⟨if rootOf s = "" then "/" else rootOf s, here⟩ := by
  have hnull : '\x00' ∉ s.toList := by
    rw [← exists_mem_parts (by decide) (by decide)]
    exact fun ⟨part, hpart, hm⟩ => h.nullFree part hpart hm
  rw [absolute, beforeNull_eq hnull, ← h.absoluteParts_eq hw hl]
  rfl

omit hw in
theorem root_absolute (workDir : List String) (s : String) :
    (absolute workDir s).root = "/" ∨ (absolute workDir s).root = "//" := by
  rw [absolute]
  dsimp only
  rcases (clean_ofString (beforeNull s)).root with he | he | he <;> rw [he] <;> decide

include hl in
theorem clean_absolute {s : String} (h : t.find (PurePath.ofString s).render = .ok (here, node)) :
    Clean (absolute t.workDir s) where
  root := Or.inr (root_absolute t.workDir s)
  parts part hm := by
    rw [absolute_eq hw hl (spells_ofString hw h)] at hm
    exact (isName_of_node? hw (find_ok h).2.2.1 part hm).toIsPart

include hl in
/-- The absolute form of a text leads where the text does, if there is something. -/
theorem spells_absolute (hn : SystemNames t) {s : String}
    (h : t.find (PurePath.ofString s).render = .ok (here, node)) :
    Spells t here (PurePath.ofString (absolute t.workDir s).render) := by
  have hnode := (find_ok h).2.2.1
  have hparts : (absolute t.workDir s).parts = here := by rw [absolute_eq hw hl (spells_ofString hw h)]
  have hroot : (absolute t.workDir s).root ≠ "" := by
    rcases root_absolute t.workDir s with he | he <;> rw [he] <;> decide
  have horigin : t.origin (absolute t.workDir s) = [] := if_neg hroot
  rw [ofString_render (clean_absolute hw hl h)]
  exact ⟨clean_absolute hw hl h, by rw [horigin, hparts]; exact walk_parts hw hl hn hnode,
    fun part hm => (systemName_of_mem hn hnode part (hparts ▸ hm)).2⟩

include hl in
/-- A spelling that is not too long is found. -/
theorem find_of_spells (hnode : t.node? here = some node) {r : PurePath} (h : Spells t here r)
    (hshort : r.render.utf8ByteSize ≤ maxPathBytes) : t.find r.render = .ok (here, node) := by
  have hlookUp : t.lookUp here [] = .ok (here, node) := by
    rw [lookUp, walk_nil]
    dsimp only [Except.bind]
    rw [hnode]
  have hfind := find_descend_eq hw hl h (fun n hn => absurd hn List.not_mem_nil)
    (congrArg PurePath.render (descend_nil r).symm)
  rcases hfind with ⟨⟨_, hm, _⟩, _⟩ | ⟨hlong, _⟩ | ⟨_, _, hfind⟩
  · exact absurd hm List.not_mem_nil
  · exact absurd hlong (Nat.not_lt.mpr hshort)
  · rw [hfind, hlookUp]
    rfl

end Absolute

end ModelReach.Files
