import ModelReach.Files.SystemPath
import ModelReach.Proofs.Text.Utf8

/-! Which texts are paths. A text is none if it holds a surrogate that stands for no byte, or the character zero; it
stands for a name if its bytes are those that the name is written as. -/
namespace ModelReach.Files
set_option autoImplicit false

variable {path : Text} {s : String}

/-! ## Bytes -/

theorem isUnencodable_iff {c : Nat} :
    isUnencodable c = true ↔ Text.isSurrogate c = true ∧ ¬(0xDC80 ≤ c ∧ c ≤ 0xDCFF) := by
  unfold isUnencodable escapedByte?
  by_cases h : 0xDC80 ≤ c ∧ c ≤ 0xDCFF
  · simp [h]
  · simp [h]

theorem exists_unencodable : (∃ fault, unencodable? path = some fault) ↔ ∃ c ∈ path, isUnencodable c = true := by
  rw [unencodable?, ← Option.isSome_iff_exists, Option.isSome_map, List.find?_isSome]
  constructor
  · rintro ⟨p, hp, hbad⟩
    exact ⟨p.1, List.fst_mem_of_mem_zipIdx hp, hbad⟩
  · rintro ⟨c, hc, hbad⟩
    rw [← List.zipIdx_map_fst 0 path] at hc
    obtain ⟨p, hp, rfl⟩ := List.mem_map.mp hc
    exact ⟨p, hp, hbad⟩

theorem zero_mem_encodeOne {c : Nat} : 0 ∈ Text.encodeOne c ↔ c = 0 := by
  unfold Text.encodeOne
  split
  · rw [List.mem_singleton, eq_comm]
  · split
    · simp only [List.mem_cons, List.not_mem_nil, or_false]
      omega
    · split
      · simp only [List.mem_cons, List.not_mem_nil, or_false]
        omega
      · simp only [List.mem_cons, List.not_mem_nil, or_false]
        omega

theorem zero_mem_toUtf8 {t : Text} : 0 ∈ t.toUtf8 ↔ 0 ∈ t := by
  rw [Text.toUtf8, List.mem_flatMap]
  simp only [zero_mem_encodeOne, exists_eq_right]

theorem zero_mem_encodeInPath {c : Nat} : 0 ∈ encodeInPath c ↔ c = 0 := by
  unfold encodeInPath escapedByte?
  by_cases h : 0xDC80 ≤ c ∧ c ≤ 0xDCFF
  · rw [if_pos (by simp [h])]
    simp only [List.mem_singleton]
    omega
  · rw [if_neg (by simpa using h)]
    exact zero_mem_encodeOne

theorem zero_mem_pathBytes : 0 ∈ pathBytes path ↔ 0 ∈ path := by
  rw [pathBytes, List.mem_flatMap]
  simp only [zero_mem_encodeInPath, exists_eq_right]

/-! ## Names -/

/-- A text is the path of that name. -/
structure Names (path : Text) (s : String) : Prop where
  encodable : ∀ c ∈ path, isUnencodable c = false
  notNull : 0 ∉ path
  bytes : pathBytes path = Text.toUtf8 (Text.ofString s)

theorem toOption_ofUtf8 {bytes : List Nat} :
    (Text.ofUtf8 bytes).toOption.map Text.toString = some s ↔ bytes = Text.toUtf8 (Text.ofString s) := by
  constructor
  · intro h
    cases hread : Text.ofUtf8 bytes with
    | error fault =>
      rw [hread] at h
      cases h
    | ok text =>
      rw [hread] at h
      obtain ⟨hscalar, rfl⟩ := Text.ofUtf8_eq_ok.mp hread
      cases h
      rw [Text.ofString_toString hscalar]
  · rintro rfl
    rw [Text.ofUtf8_eq_ok.mpr ⟨Text.isScalar_ofString s, rfl⟩]
    exact congrArg some (Text.toString_ofString s)

theorem systemPath_eq_some : systemPath path = .ok (some s) ↔ Names path s := by
  unfold systemPath
  constructor
  · intro h
    split at h
    · cases h
    · next hencodable =>
      split at h
      · cases h
      · next hnull =>
        rw [List.contains_iff_mem] at hnull
        refine ⟨fun c hc => ?_, hnull, toOption_ofUtf8.mp (Except.ok.inj h)⟩
        refine Bool.eq_false_iff.mpr fun hbad => ?_
        obtain ⟨fault, hfault⟩ := exists_unencodable.mpr ⟨c, hc, hbad⟩
        rw [hencodable] at hfault
        cases hfault
  · rintro ⟨hencodable, hnull, hbytes⟩
    have hnone : unencodable? path = none := by
      rw [Option.eq_none_iff_forall_ne_some]
      intro fault hfault
      obtain ⟨c, hc, hbad⟩ := exists_unencodable.mp ⟨fault, hfault⟩
      rw [hencodable c hc] at hbad
      cases hbad
    rw [hnone]
    dsimp only
    rw [if_neg (by rwa [List.contains_iff_mem]), toOption_ofUtf8.mpr hbytes]

/-- A text is no path if it cannot be written as bytes or holds the character zero. -/
theorem exists_systemPath_error :
    (∃ fault, systemPath path = .error fault) ↔ (∃ c ∈ path, isUnencodable c = true) ∨ 0 ∈ path := by
  rw [← exists_unencodable, systemPath]
  cases hencodable : unencodable? path with
  | some fault => exact iff_of_true ⟨_, rfl⟩ (Or.inl ⟨_, rfl⟩)
  | none =>
    dsimp only
    by_cases hnull : 0 ∈ path
    · rw [if_pos (List.contains_iff_mem.mpr hnull)]
      exact iff_of_true ⟨_, rfl⟩ (Or.inr hnull)
    · rw [if_neg (by rwa [List.contains_iff_mem])]
      exact iff_of_false nofun (not_or.mpr ⟨nofun, hnull⟩)

theorem Names.notMem (h : Names path s) : '\x00' ∉ s.toList := by
  intro hm
  have hzero : 0 ∈ Text.ofString s := List.mem_map.mpr ⟨'\x00', hm, rfl⟩
  rw [← zero_mem_toUtf8, ← h.bytes, zero_mem_pathBytes] at hzero
  exact h.notNull hzero

end ModelReach.Files
