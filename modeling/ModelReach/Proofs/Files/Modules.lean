import Mathlib.Data.List.Induction
import Mathlib.Data.List.TakeWhile
import ModelReach.Proofs.Files.Scans

/-! The modules of scanned files. A file stands in a directory below the root and bears a name with a suffix, and the
name of its module is that of its directory, followed by the name without suffix unless it is the package's own. -/
namespace ModelReach.Files
set_option autoImplicit false

open FileTree

/-! ## Suffixes -/

theorem cutSuffix_of_notMem {name : String} (h : '.' ∉ name.toList) : (cutSuffix name).2 = "" := by
  have htail : name.toList.reverse.takeWhile (· != '.') = name.toList.reverse := by
    exact List.takeWhile_eq_self_iff.mpr (Text.all_of_notMem fun hm => h (List.mem_reverse.mp hm))
  have hstem : name.toList.take (name.toList.length - name.toList.length - 1) = [] := by
    rw [Nat.sub_self, Nat.zero_sub, List.take_zero]
  unfold cutSuffix
  dsimp only
  rw [htail, List.reverse_reverse, hstem, List.isEmpty_nil, Bool.or_true, if_pos rfl]

theorem cutSuffix_append (before : List Char) {after : List Char} (h : '.' ∉ after) :
    cutSuffix (String.ofList (before ++ '.' :: after)) =
      if after.isEmpty || before.isEmpty then (String.ofList (before ++ '.' :: after), "")
      else (String.ofList before, String.ofList ('.' :: after)) := by
  have hlength : (before ++ '.' :: after).length - after.length - 1 = before.length := by
    rw [List.length_append, List.length_cons]
    omega
  unfold cutSuffix
  dsimp only
  rw [String.toList_ofList, Text.takeWhile_reverse_join before h, List.reverse_reverse, hlength, List.take_left]

/-- A name with the suffix of source files is what stands before it and the suffix. -/
theorem eq_of_cutSuffix {name : String} (h : (cutSuffix name).2 = ".py") : name = (cutSuffix name).1 ++ ".py" := by
  by_cases hpoint : '.' ∈ name.toList
  · obtain ⟨after, before, hsplit, hafter⟩ := List.eq_append_cons_of_mem (List.mem_reverse.mpr hpoint)
    have hname : name = String.ofList (before.reverse ++ '.' :: after.reverse) := by
      rw [← String.toList_inj, String.toList_ofList, ← List.reverse_reverse name.toList, hsplit, List.reverse_append,
        List.reverse_cons, List.append_assoc]
      rfl
    have hcut := cutSuffix_append before.reverse fun hm => hafter (List.mem_reverse.mp hm)
    rw [← hname] at hcut
    rw [hcut] at h ⊢
    split at h
    · exact absurd h (show "" ≠ ".py" by decide)
    · rename_i hparts
      rw [if_neg hparts, ← h, hname, ← String.ofList_append]
  · rw [cutSuffix_of_notMem hpoint] at h
    exact absurd h (by decide)

/-! ## Parts of files -/

/-- The parts of a file's path below the root. -/
def ModuleFile.parts (f : ModuleFile) : List String := (PurePath.ofString f.relPath).parts

/-- The directories below the root that lead to a file. -/
def ModuleFile.directory (f : ModuleFile) : List String := f.parts.dropLast

/-- The name of a file without its suffix. -/
def ModuleFile.stem (f : ModuleFile) : String := (f.parts.getLast?.map fun name => (cutSuffix name).1).getD ""

/-- The parts of the name of a file's module, in directories that are not ignored. -/
def ModuleFile.moduleParts (f : ModuleFile) : List String :=
  (f.directory ++ if f.stem = "__init__" then [] else [f.stem]).map withoutDashes

/-- How a file is named: it has the suffix of source files, and the name of its module is joined from parts. -/
structure ModuleFile.Shaped (f : ModuleFile) : Prop where
  parts : f.parts = f.directory ++ [f.stem ++ ".py"]
  isPackage : f.isPackage = true ↔ f.stem = "__init__"
  module : f.module = ".".intercalate f.moduleParts

/-- A path that ends in a name gives the module of the name's stem. -/
theorem module_of_parts {f : ModuleFile} {name : String} (hlast : f.parts.getLast? = some name)
    (h : moduleOfPath ⟨"", f.parts⟩ = .ok (some f.module)) : f.module = ".".intercalate f.moduleParts := by
  have hwithout : withoutSuffix f.parts = f.directory ++ [f.stem] := by
    rw [withoutSuffix, ModuleFile.stem, hlast]
    rfl
  rw [moduleOfPath, hwithout] at h
  split at h
  · cases h
  · have hnamed : moduleOfParts (f.directory ++ [f.stem]) = some f.module := Except.ok.inj h
    rw [moduleOfParts] at hnamed
    split at hnamed
    · cases hnamed
    · rw [List.getLast?_concat, List.dropLast_concat] at hnamed
      rw [← Option.some.inj hnamed, ModuleFile.moduleParts]
      by_cases hinit : f.stem = "__init__"
      · rw [if_pos hinit, if_pos (congrArg some hinit), List.append_nil]
      · rw [if_neg hinit, if_neg fun he => hinit (Option.some.inj he)]

theorem getLast?_absoluteParts (workDir : List String) {p : PurePath} {name : String} (h : p.name? = some name)
    (hname : IsName name) : (absoluteParts workDir p).getLast? = some name := by
  obtain ⟨before, hparts⟩ := List.getLast?_eq_some_iff.mp h
  have hstep : ∀ l : List String, (normalize (l ++ [name])).getLast? = some name := by
    intro l
    change ((l ++ [name]).foldl stepFrom []).getLast? = some name
    rw [List.foldl_append, foldl_stepFrom_names _ fun n hn => List.mem_singleton.mp hn ▸ hname,
      List.getLast?_concat]
  unfold absoluteParts
  rw [hparts]
  split
  · rw [← List.append_assoc]
    exact hstep _
  · exact hstep _

/-- A path below a directory ends as the path does where it stands, unless it is all steps to the parent. -/
theorem getLast?_relativeParts {start parts : List String} (hne : relativeParts start parts ≠ [])
    (hlast : (relativeParts start parts).getLast? ≠ some "..") :
    (relativeParts start parts).getLast? = parts.getLast? := by
  obtain ⟨common, _, hparts⟩ := dropCommon_eq start parts
  have hdown : (dropCommon start parts).2 ≠ [] := by
    intro hnil
    have hups : relativeParts start parts = (dropCommon start parts).1.map fun _ => ".." := by
      change _ ++ (dropCommon start parts).2 = _
      rw [hnil, List.append_nil]
    rw [hups, ne_eq, List.map_eq_nil_iff] at hne
    rw [hups, List.getLast?_map, List.getLast?_eq_some_getLast hne] at hlast
    exact hlast rfl
  have hends : ∀ l : List String, (l ++ (dropCommon start parts).2).getLast? =
      (dropCommon start parts).2.getLast? := fun l => by
    rw [List.getLast?_append, List.getLast?_eq_some_getLast hdown, Option.some_or]
  calc (relativeParts start parts).getLast?
      = (dropCommon start parts).2.getLast? := hends _
    _ = (common ++ (dropCommon start parts).2).getLast? := (hends common).symm
    _ = parts.getLast? := by rw [← hparts]

/-! ## Files of a scan -/

theorem parts_of_scanned {t : FileTree} (hw : WellFormed t) {root p : PurePath} {f : ModuleFile}
    (h : Scanned t root p f) :
    f.parts = relativeParts (absoluteParts t.workDir root) (absoluteParts t.workDir p) := by
  rw [ModuleFile.parts, h.relPath, ofString_render (h.clean_relative hw)]
  rfl

/-- The path of a source file ends in a name with the suffix of source files. -/
theorem Scanned.exists_sourceName {t : FileTree} {root p : PurePath} {f : ModuleFile} (h : Scanned t root p f) :
    ∃ name, p.name? = some name ∧ (cutSuffix name).2 = ".py" ∧ IsName name := by
  obtain ⟨name, hname, hsuffix⟩ := (Option.any_eq_true _ _).mp (Bool.and_eq_true_iff.mp h.source).1
  have hsuffix := of_decide_eq_true hsuffix
  refine ⟨name, hname, hsuffix, { h.clean.parts name (List.mem_of_getLast? hname) with proper := fun he => ?_ }⟩
  rw [he] at hsuffix
  exact absurd hsuffix (by decide)

theorem Scanned.parts_ne_nil {t : FileTree} (hw : WellFormed t) {root p : PurePath} {f : ModuleFile}
    (h : Scanned t root p f) : f.parts ≠ [] := by
  intro hnil
  have hmodule := h.module
  rw [parts_of_scanned hw h] at hnil
  have hnone : moduleOfPath (relativePath t.workDir root p) = .error ⟨relativePath t.workDir root p⟩ := if_pos hnil
  rw [hnone] at hmodule
  cases hmodule

/-- The name of a scanned file has the suffix of source files, and its path below the root ends in that name, unless
it is all steps to the parent. -/
theorem Scanned.exists_name {t : FileTree} (hw : WellFormed t) {root p : PurePath} {f : ModuleFile}
    (h : Scanned t root p f) (hlast : f.parts.getLast? ≠ some "..") :
    ∃ name, p.name? = some name ∧ (cutSuffix name).2 = ".py" ∧ f.parts.getLast? = some name := by
  obtain ⟨name, hname, hsuffix, hproper⟩ := h.exists_sourceName
  have hne := h.parts_ne_nil hw
  rw [parts_of_scanned hw h] at hlast hne
  refine ⟨name, hname, hsuffix, ?_⟩
  rw [parts_of_scanned hw h, getLast?_relativeParts hne hlast, getLast?_absoluteParts t.workDir hname hproper]

section Scan
variable {t : FileTree} (hw : WellFormed t) {root : String} {patterns : List String} {files : List ModuleFile}
  (hscan : scan t root patterns = .ok files) {f : ModuleFile} (hf : f ∈ files)
include hw hscan hf

theorem isPart_of_mem_parts {part : String} (h : part ∈ f.parts) : IsPart part := by
  obtain ⟨p, hscanned⟩ := scanned_of_scan hw hscan hf
  rw [parts_of_scanned hw hscanned] at h
  exact (hscanned.clean_relative hw).parts part h

theorem module_ne_empty : f.module ≠ "" := by
  obtain ⟨p, hscanned⟩ := scanned_of_scan hw hscan hf
  exact hscanned.named

/-- A file is named by its path below the root, which a link may make end in a step to the parent. -/
theorem shaped_of_scan (hlast : f.parts.getLast? ≠ some "..") : f.Shaped := by
  obtain ⟨p, hscanned⟩ := scanned_of_scan hw hscan hf
  obtain ⟨name, hname, hsuffix, hlast⟩ := hscanned.exists_name hw hlast
  have hstem : f.stem = (cutSuffix name).1 := by
    rw [ModuleFile.stem, hlast]
    rfl
  have hwhole : name = f.stem ++ ".py" := hstem ▸ eq_of_cutSuffix hsuffix
  have hsplit : f.parts = f.directory ++ [name] :=
    (List.dropLast_append_getLast? name (Option.mem_def.mpr hlast)).symm
  refine ⟨hwhole ▸ hsplit, ?_, module_of_parts hlast ?_⟩
  · rw [hscanned.isPackage, decide_eq_true_eq, hname]
    constructor
    · intro he
      rw [hstem, Option.some.inj he]
      decide
    · intro he
      rw [hwhole, he]
      rfl
  · rw [parts_of_scanned hw hscanned]
    exact hscanned.module

end Scan

end ModelReach.Files
