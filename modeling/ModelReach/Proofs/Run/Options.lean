import ModelReach.Proofs.Facts.Module
import ModelReach.Proofs.Files.SystemPaths
import ModelReach.Proofs.Json.Faults
import ModelReach.Run.Options

/-! Loading the options of a run ends with options whose source is a directory or with a fault of the configuration,
whatever stands in the file, in all but four cases: a path with a surrogate that stands for no byte or with a null
character, bytes that are no text, and an integer with too many digits. Which library checks the values does not
matter, as long as it answers with options or with reports. -/
namespace ModelReach.Run
set_option autoImplicit false

open Files (FileTree FileFault Names SystemProblem)
open Validation (Fields)

variable {t : FileTree} {path : Text}

/-! ## Bytes of files -/

theorem checkText_eq_nullInPath {s : String} : FileTree.checkText s = .error .nullInPath ↔ '\x00' ∈ s.toList := by
  rw [← List.contains_iff_mem, FileTree.checkText]
  split
  · next h => exact iff_of_true rfl h
  · next h =>
    refine iff_of_false (fun hcheck => ?_) h
    split at hcheck
    · cases hcheck
    split at hcheck
    · cases hcheck
    · cases hcheck

theorem find_eq_nullInPath {s : String} : t.find s = .error .nullInPath ↔ '\x00' ∈ s.toList := by
  rw [← checkText_eq_nullInPath, FileTree.find]
  cases hcheck : FileTree.checkText s with
  | error fault =>
    change (.error fault : Except FileFault (List String × Files.Node)) = _ ↔ _
    rw [Except.error.injEq, Except.error.injEq]
  | ok u =>
    -- a path that is looked up has only faults of the system
    have hnamed : ∀ x : Except SystemProblem (List String × Files.Node), FileTree.named s x ≠ .error .nullInPath := by
      intro x h
      cases x <;> cases h
    exact iff_of_false (hnamed _) nofun

/-- Reading a file has only faults of the system, the null character in its path apart. -/
theorem read_ne_nullInPath {s : String} (h : '\x00' ∉ s.toList) : t.read s ≠ .error .nullInPath := by
  intro hread
  rw [FileTree.read] at hread
  cases hfind : t.find s with
  | error fault =>
    rw [hfind] at hread
    cases hread
    exact h (find_eq_nullInPath.mp hfind)
  | ok found =>
    obtain ⟨parts, node⟩ := found
    rw [hfind] at hread
    dsimp only [bind, Except.bind] at hread
    split at hread
    · cases hread
    · cases node <;> cases hread

theorem fileBytes_eq_ok {bytes : List Nat} :
    fileBytes t path = .ok bytes ↔ ∃ s, Names path s ∧ t.read s = .ok bytes := by
  unfold fileBytes
  constructor
  · intro h
    split at h
    · cases h
    · cases h
    · next s hs =>
      refine ⟨s, Files.systemPath_eq_some.mp hs, ?_⟩
      split at h
      · next hread => rw [hread, Except.ok.inj h]
      · cases h
      · cases h
  · rintro ⟨s, hs, hread⟩
    rw [Files.systemPath_eq_some.mpr hs]
    dsimp only
    rw [hread]

/-- A file that a path stands for is read, or there is a fault of the configuration. -/
theorem fileBytes_escapes : (∃ fault, fileBytes t path = .error fault ∧ fault.isConfiguration = false) ↔
    (∃ c ∈ path, Files.isUnencodable c = true) ∨ 0 ∈ path := by
  rw [← Files.exists_systemPath_error, fileBytes]
  constructor
  · rintro ⟨fault, h, hfault⟩
    split at h
    · next fault hpath => exact ⟨fault, hpath⟩
    · cases h
      cases hfault
    · next s hs =>
      split at h
      · cases h
      · cases h
        cases hfault
      · next hread => exact absurd hread (read_ne_nullInPath (Files.systemPath_eq_some.mp hs).notMem)
  · rintro ⟨fault, hpath⟩
    rw [hpath]
    exact ⟨_, rfl, rfl⟩

/-! ## Files -/

/-- Something about a file that nothing represents: a path of the system, a text, or an integer. -/
inductive Escapes (t : FileTree) (path : Text) : Prop
  | surrogate {c : Nat} (hc : c ∈ path) (hsurrogate : Text.isSurrogate c = true)
      (hbyte : ¬(0xDC80 ≤ c ∧ c ≤ 0xDCFF))
  | null (hnull : 0 ∈ path)
  | bytes {s : String} {bytes : List Nat} (hpath : Names path s) (hread : t.read s = .ok bytes)
      (hnone : ∀ text : Text, (∀ c ∈ text, Text.IsScalar c) → text.toUtf8 ≠ bytes)
  | integer {s : String} {text : Text} {digits : Nat} (hpath : Names path s)
      (hscalar : ∀ c ∈ text, Text.IsScalar c) (hread : t.read s = .ok text.toUtf8)
      (hfault : Json.ofText text.lineFeeds = .error (.integerTooLong digits))
      (hlong : Json.TooLong text.lineFeeds digits)

theorem escapes_of_readFields {fault : OptionsFault} (h : readFields t path = .error fault)
    (hfault : fault.isConfiguration = false) : Escapes t path := by
  rw [readFields] at h
  cases hbytes : fileBytes t path with
  | error problem =>
    rw [hbytes] at h
    cases h
    rcases fileBytes_escapes.mp ⟨fault, hbytes, hfault⟩ with ⟨c, hc, hbad⟩ | hnull
    · obtain ⟨hsurrogate, hbyte⟩ := Files.isUnencodable_iff.mp hbad
      exact Escapes.surrogate hc hsurrogate hbyte
    · exact Escapes.null hnull
  | ok bytes =>
    obtain ⟨s, hs, hread⟩ := fileBytes_eq_ok.mp hbytes
    rw [hbytes] at h
    dsimp only [bind, Except.bind] at h
    split at h
    · next problem hutf8 => exact Escapes.bytes hs hread (Text.exists_ofUtf8_error.mp ⟨problem, hutf8⟩)
    next text hutf8 =>
    obtain ⟨hscalar, rfl⟩ := Text.ofUtf8_eq_ok.mp hutf8
    split at h
    · next problem hjson =>
      cases h
      cases problem with
      | problem kind remaining => cases hfault
      | integerTooLong digits => exact Escapes.integer hs hscalar hread hjson (Json.tooLong_of_ofText hjson)
    · cases h
    · cases h
      cases hfault

theorem Escapes.exists_fault (h : Escapes t path) :
    ∃ fault, readFields t path = .error fault ∧ fault.isConfiguration = false := by
  have hlost : (∃ fault, fileBytes t path = .error fault ∧ fault.isConfiguration = false) →
      ∃ fault, readFields t path = .error fault ∧ fault.isConfiguration = false := by
    rintro ⟨fault, hbytes, hfault⟩
    refine ⟨fault, ?_, hfault⟩
    rw [readFields, hbytes]
    rfl
  cases h with
  | @surrogate c hc hsurrogate hbyte =>
    exact hlost (fileBytes_escapes.mpr (Or.inl ⟨c, hc, Files.isUnencodable_iff.mpr ⟨hsurrogate, hbyte⟩⟩))
  | null hnull => exact hlost (fileBytes_escapes.mpr (Or.inr hnull))
  | bytes hpath hread hnone =>
    obtain ⟨problem, hutf8⟩ := Text.exists_ofUtf8_error.mpr hnone
    refine ⟨.encoding problem, ?_, rfl⟩
    rw [readFields, fileBytes_eq_ok.mpr ⟨_, hpath, hread⟩]
    dsimp only [bind, Except.bind]
    rw [hutf8]
  | @integer s text digits hpath hscalar hread hfault hlong =>
    refine ⟨.noJson path text.lineFeeds (.integerTooLong digits), ?_, rfl⟩
    rw [readFields, fileBytes_eq_ok.mpr ⟨_, hpath, hread⟩]
    dsimp only [bind, Except.bind]
    rw [Text.ofUtf8_eq_ok.mpr ⟨hscalar, rfl⟩]
    dsimp only
    rw [hfault]

/-- The fields of a file are read, or there is a fault of the configuration, unless something in the file escapes. -/
theorem readFields_escapes :
    (∃ fault, readFields t path = .error fault ∧ fault.isConfiguration = false) ↔ Escapes t path :=
  ⟨fun ⟨_, h, hfault⟩ => escapes_of_readFields h hfault, Escapes.exists_fault⟩

theorem lineFeeds_eq_self {text : Text} (h : 13 ∉ text) : text.lineFeeds = text := by
  fun_induction Text.lineFeeds text with
  | case1 rest ih => exact absurd List.mem_cons_self h
  | case2 rest hfeed ih => exact absurd List.mem_cons_self h
  | case3 c rest hfeed hreturn ih => rw [ih (fun hrest => h (List.mem_cons_of_mem c hrest))]
  | case4 => rfl

/-- A file of digits escapes as soon as there are more of them than an integer may have. -/
theorem Escapes.of_digits {s : String} {ds : List Nat} (hpath : Names path s) (hread : t.read s = .ok ds)
    (hlong : Source.maxDecimalDigits < ds.length) (hzero : ds.head? ≠ some 48)
    (hdigits : ∀ c ∈ ds, Json.isJsonDigit c = true) : Escapes t path := by
  have hrange : ∀ c ∈ ds, 48 ≤ c ∧ c ≤ 57 := fun c hc => by simpa [Json.isJsonDigit] using hdigits c hc
  have hbytes : Text.toUtf8 ds = ds := Text.toUtf8_ascii fun c hc => by have := hrange c hc; omega
  have hscalar : ∀ c ∈ ds, Text.IsScalar c := fun c hc => Or.inl (by have := hrange c hc; omega)
  have hfeeds : Text.lineFeeds ds = ds := lineFeeds_eq_self fun hc => by have := hrange 13 hc; omega
  have hfault : Json.ofText (Text.lineFeeds ds) = .error (.integerTooLong ds.length) := by
    rw [hfeeds]
    exact Json.ofText_digits hlong hzero hdigits
  exact Escapes.integer hpath hscalar (by rw [hbytes]; exact hread) hfault (Json.tooLong_of_ofText hfault)

/-! ## Options -/

section Load
variable {Value Options : Type} {v : Validator Value Options} {values overrides : List (Text × Value)}
  {options : Options} {fault : OptionsFault}

theorem isDirectory_of_optionsOf (h : optionsOf v t values = .ok options) :
    t.isDirectoryText (v.source options) = true := by
  unfold optionsOf at h
  split at h
  · cases h
  · cases h
  split at h
  · next hdirectory =>
    cases h
    exact hdirectory
  · cases h

theorem isConfiguration_of_optionsOf (hv : v.Reports) (h : optionsOf v t values = .error fault) :
    fault.isConfiguration = true := by
  unfold optionsOf at h
  split at h
  · cases h
    rfl
  · next hother =>
    obtain ⟨_, hreports⟩ := hv _ _ hother
    cases hreports
  split at h
  · cases h
  · cases h
    rfl

theorem loadWith_none (v : Validator Value Options) (t : FileTree) (overrides : List (Text × Value)) :
    loadWith v t none overrides = optionsOf v t (override v [] overrides) := rfl

theorem loadWith_some (v : Validator Value Options) (t : FileTree) (path : Text) (overrides : List (Text × Value)) :
    loadWith v t (some path) overrides = readFields t path >>= fun fields =>
      optionsOf v t (override v (fields.map fun f => (f.1, v.ofJson f.2)) overrides) := rfl

/-- Only faults of reading the file are none of the configuration. -/
theorem loadWith_escapes (hv : v.Reports) (overrides : List (Text × Value)) :
    (∃ fault, loadWith v t (some path) overrides = .error fault ∧ fault.isConfiguration = false) ↔
      ∃ fault, readFields t path = .error fault ∧ fault.isConfiguration = false := by
  rw [loadWith_some]
  cases hfields : readFields t path with
  | error fault =>
    constructor
    · rintro ⟨_, h, hfault⟩
      cases h
      exact ⟨fault, rfl, hfault⟩
    · rintro ⟨_, h, hfault⟩
      cases h
      exact ⟨fault, rfl, hfault⟩
  | ok fields =>
    refine iff_of_false ?_ (fun ⟨_, h, _⟩ => nomatch h)
    rintro ⟨fault, h, hfault⟩
    rw [isConfiguration_of_optionsOf hv (show optionsOf v t _ = .error fault from h)] at hfault
    cases hfault

/-- The source of options that were loaded is a directory. If none were, the fault is one of the configuration, unless a
file is named and something about it escapes. -/
theorem loadOptions_contained (hv : v.Reports) (t : FileTree) (path : Option Text) (overrides : List (Text × Value)) :
    (∀ options, loadWith v t path overrides = .ok options → t.isDirectoryText (v.source options) = true) ∧
      ((∃ fault, loadWith v t path overrides = .error fault ∧ fault.isConfiguration = false) ↔
        ∃ file, path = some file ∧ Escapes t file) := by
  cases path with
  | none =>
    rw [loadWith_none]
    refine ⟨fun options h => isDirectory_of_optionsOf h, iff_of_false ?_ (fun ⟨_, h, _⟩ => nomatch h)⟩
    rintro ⟨fault, h, hfault⟩
    rw [isConfiguration_of_optionsOf hv h] at hfault
    cases hfault
  | some file =>
    constructor
    · intro options h
      rw [loadWith_some] at h
      obtain ⟨fields, -, h⟩ := Facts.bind_ok.mp h
      exact isDirectory_of_optionsOf h
    · rw [loadWith_escapes hv, readFields_escapes]
      exact ⟨fun h => ⟨file, rfl, h⟩, fun ⟨_, h, hescapes⟩ => by cases h; exact hescapes⟩

end Load

/-- Checking JSON values ends with options or with reports. -/
theorem reports_jsonValidator : jsonValidator.Reports := by
  intro values fault h
  dsimp only [jsonValidator] at h
  split at h
  · cases h
  · cases h
    exact ⟨_, rfl⟩

/-- A directory with a file in another encoding than UTF-8. -/
def latin : FileTree where
  entries := [(["work"], .directory), (["work", "options.json"], .file [0xFF])]
  workDir := ["work"]
  unreadable := []

def given : Fields :=
  [(Text.ofString "source", .text (Text.ofString ".")),
    (Text.ofString "entry_markers", .array [.text (Text.ofString "Api")]),
    (Text.ofString "destination", .text (Text.ofString "out.json"))]

def asked : RunOptions :=
  ⟨⟨".", defaultPatterns, ["Api"], defaultIgnoreMarker, defaultExcludedPrefixes, false⟩, "out.json"⟩

theorem escapes_latin : Escapes latin (Text.ofString "options.json") := by
  have hpath : Files.systemPath (Text.ofString "options.json") = .ok (some "options.json") := by decide +kernel
  have hread : latin.read "options.json" = .ok [0xFF] := by decide +kernel
  exact Escapes.bytes (Files.systemPath_eq_some.mp hpath) hread
    (Text.exists_ofUtf8_error.mp ⟨⟨0, [0xFF], .invalidStart⟩, rfl⟩)

theorem loadOptions_contained_latin :
    (∃ options, loadWith jsonValidator latin none given = .ok options ∧
        latin.isDirectoryText (jsonValidator.source options) = true) ∧
      ∃ fault, loadWith jsonValidator latin (some (Text.ofString "options.json")) given = .error fault ∧
        fault.isConfiguration = false := by
  have hvalid : jsonValidator.validate (override jsonValidator [] given) = .ok (Text.ofString ".", asked) := rfl
  have hdirectory : latin.isDirectoryText (Text.ofString ".") = true := by decide +kernel
  have hasked : loadWith jsonValidator latin none given = .ok (Text.ofString ".", asked) := by
    rw [loadWith_none, optionsOf, hvalid]
    exact if_pos hdirectory
  exact ⟨⟨_, hasked, (loadOptions_contained reports_jsonValidator latin none given).1 _ hasked⟩,
    (loadOptions_contained reports_jsonValidator latin (some (Text.ofString "options.json")) given).2.mpr
      ⟨_, rfl, escapes_latin⟩⟩

/-- Not every fault is one of the configuration: a file that is no text in UTF-8 has another one. -/
theorem not_contained_latin : ¬ ∀ (t : FileTree) (path : Option Text) (overrides : Fields),
    (∃ options, loadWith jsonValidator t path overrides = .ok options ∧
        t.isDirectoryText (jsonValidator.source options) = true) ∨
      ∃ fault, loadWith jsonValidator t path overrides = .error fault ∧ fault.isConfiguration = true := by
  intro h
  obtain ⟨fault, hload, hfault⟩ :=
    (loadWith_escapes reports_jsonValidator given).mpr (readFields_escapes.mpr escapes_latin)
  rcases h latin (some (Text.ofString "options.json")) given with ⟨options, hoptions, -⟩ | ⟨fault', hload', hfault'⟩
  · rw [hload] at hoptions
    cases hoptions
  · rw [hload] at hload'
    cases hload'
    rw [hfault] at hfault'
    cases hfault'

end ModelReach.Run
