import ModelReach.Proofs.Text.Tables
import ModelReach.Proofs.Text.Utf8
import ModelReach.Text.IdentifierChar
import ModelReach.Text.Normal

/-! The normal form of identifiers. Decomposition gives letters or images of its table, marks are only moved, and
composition brings in nothing but composites. So the normal form of an identifier has neither a full stop nor a
closing bracket. -/
namespace ModelReach.Text
set_option autoImplicit false

/-! ## Decomposition and composites -/

/-- No code point of a text is a mark. -/
def Unmarked (t : List Nat) : Prop := ∀ c ∈ t, isMark c = false

theorem isMark_eq_false {c : Nat} : isMark c = false ↔ c ≠ 46 ∧ c ≠ 93 := by
  rw [isMark, Bool.or_eq_false_iff, beq_eq_false_iff_ne, beq_eq_false_iff_ne]
  rfl

theorem unmarked_singleton {c : Nat} (h : isMark c = false) : Unmarked [c] := fun d hd => by
  rw [List.mem_singleton.mp hd]
  exact h

theorem unmarked_hangulLetters (c : Nat) : Unmarked (hangulLetters c) := by
  intro d hd
  rw [isMark_eq_false]
  unfold hangulLetters at hd
  dsimp only at hd
  split at hd
  · simp only [List.mem_cons, List.not_mem_nil, or_false] at hd
    omega
  · simp only [List.mem_append, List.mem_cons, List.not_mem_nil, or_false] at hd
    omega

theorem isMark_run {first more k : Nat} (h : isUnmarkedRun first more = true) (hk : k ≤ more) :
    isMark (first + k) = false := by
  have hpoint : '.'.toNat = 46 := rfl
  have hbracket : ']'.toNat = 93 := rfl
  rw [isUnmarkedRun, Bool.and_eq_true, Bool.or_eq_true, decide_eq_true_iff, decide_eq_true_iff,
    decide_eq_true_iff] at h
  rw [isMark_eq_false]
  omega

theorem unmarked_decompose {c : Nat} (hc : isMark c = false) : Unmarked (decompose c) := by
  unfold decompose
  split
  · exact unmarked_singleton hc
  · split
    · exact unmarked_hangulLetters c
    · split
      · rename_i first image hfind
        obtain ⟨e, he, hfound, hfirst, hlast⟩ := RangeMap.found_of_find? hfind
        obtain ⟨rfl, himage⟩ := Prod.mk.inj hfound
        have hrun := unmarked_decompositionTable e he
        rw [hasUnmarkedImages, ← himage] at hrun
        exact unmarked_singleton (isMark_run hrun (by omega))
      · rename_i images hmore hfind
        obtain ⟨e, he, hfound, _, _⟩ := RangeMap.found_of_find? hfind
        obtain ⟨_, rfl⟩ := Prod.mk.inj hfound
        have himages := unmarked_decompositionTable e he
        unfold hasUnmarkedImages at himages
        split at himages
        · rename_i image himage
          exact absurd himage (hmore image)
        · intro d hd
          have hunmarked := List.all_eq_true.mp himages d hd
          rwa [Bool.not_eq_true'] at hunmarked
      · exact unmarked_singleton hc

theorem unmarked_composeHangul {a b c : Nat} (h : composeHangul? a b = some c) : isMark c = false := by
  rw [isMark_eq_false]
  unfold composeHangul? at h
  split at h
  · rw [Option.some_inj] at h
    omega
  · split at h
    · rw [Option.some_inj] at h
      omega
    · cases h

theorem unmarked_composite {a b c : Nat} (h : composite? a b = some c) : isMark c = false := by
  unfold composite? at h
  rcases Option.or_eq_some_iff.mp h with h | ⟨_, h⟩
  · exact unmarked_composeHangul h
  · obtain ⟨e, he, rfl⟩ := PairMap.mem_of_find? h
    have hunmarked := unmarked_compositionTable e he
    rwa [Bool.not_eq_true'] at hunmarked

/-! ## The stages of the normal form -/

theorem mem_insertMark {c d : Nat} {marks : List Nat} : d ∈ insertMark c marks ↔ d = c ∨ d ∈ marks := by
  induction marks with
  | nil => simp [insertMark]
  | cons m marks ih =>
    rw [insertMark]
    split
    · rw [List.mem_cons, ih, List.mem_cons]
      exact or_left_comm
    · rw [List.mem_cons]

theorem mem_place {done : List Nat} {c d : Nat} : d ∈ place done c ↔ d = c ∨ d ∈ done := by
  unfold place
  split
  · exact List.mem_cons
  · exact mem_insertMark

theorem mem_foldl_place {done t : List Nat} {d : Nat} : d ∈ t.foldl place done ↔ d ∈ done ∨ d ∈ t := by
  induction t generalizing done with
  | nil => simp
  | cons c t ih =>
    rw [List.foldl_cons, ih, mem_place, List.mem_cons, or_assoc]
    exact or_left_comm

theorem mem_orderMarks {t : List Nat} {d : Nat} : d ∈ orderMarks t ↔ d ∈ t := by
  rw [orderMarks, mem_foldl_place]
  simp

theorem Composing.mem_close {s : Composing} {d : Nat} :
    d ∈ s.close ↔ d ∈ s.finished ∨ s.starter = some d ∨ d ∈ s.marks := by
  rw [Composing.close, List.mem_append, List.mem_append, Option.mem_toList, or_assoc]

/-- Reading one more code point adds it, or puts a composite in the starter's place. -/
theorem Composing.mem_close_read {s : Composing} {c d : Nat} (h : d ∈ (s.read c).close) :
    d ∈ s.close ∨ d = c ∨ ∃ a, composite? a c = some d := by
  unfold Composing.read at h
  dsimp only at h
  rw [Composing.mem_close] at h
  split at h
  · rename_i hnone
    split at h
    · rcases h with h | h | h
      · exact Or.inl (Composing.mem_close.mpr (Or.inl h))
      · exact Or.inr (Or.inl (Option.some.inj h).symm)
      · exact Or.inl (Composing.mem_close.mpr (Or.inr (Or.inr h)))
    · rcases h with h | h | h
      · rcases List.mem_append.mp h with h | h
        · exact Or.inl (Composing.mem_close.mpr (Or.inl h))
        · exact Or.inr (Or.inl (List.mem_singleton.mp h))
      · exact Or.inl (Composing.mem_close.mpr (Or.inr (Or.inl h)))
      · exact Or.inl (Composing.mem_close.mpr (Or.inr (Or.inr h)))
  · rename_i a hstarter
    split at h
    · rename_i b hcomposite
      rcases h with h | h | h
      · exact Or.inl (Composing.mem_close.mpr (Or.inl h))
      · right; right
        split at hcomposite
        · cases hcomposite
        · exact ⟨a, by rw [hcomposite]; exact h⟩
      · exact Or.inl (Composing.mem_close.mpr (Or.inr (Or.inr h)))
    · split at h
      · rcases h with h | h | h
        · exact Or.inl h
        · exact Or.inr (Or.inl (Option.some.inj h).symm)
        · exact absurd h List.not_mem_nil
      · rcases h with h | h | h
        · exact Or.inl (Composing.mem_close.mpr (Or.inl h))
        · exact Or.inl (Composing.mem_close.mpr (Or.inr (Or.inl h)))
        · rcases List.mem_append.mp h with h | h
          · exact Or.inl (Composing.mem_close.mpr (Or.inr (Or.inr h)))
          · exact Or.inr (Or.inl (List.mem_singleton.mp h))

theorem unmarked_compose {t : List Nat} (h : Unmarked t) : Unmarked (compose t) := by
  have hread : ∀ s : Composing, Unmarked s.close → Unmarked (t.foldl Composing.read s).close := by
    induction t with
    | nil => exact fun s hs => hs
    | cons c t ih =>
      intro s hs
      rw [List.foldl_cons]
      apply ih fun d hd => h d (List.mem_cons_of_mem c hd)
      intro d hd
      rcases Composing.mem_close_read hd with hd | rfl | ⟨a, ha⟩
      · exact hs d hd
      · exact h d (List.mem_cons_self ..)
      · exact unmarked_composite ha
  exact hread _ fun d hd => absurd hd List.not_mem_nil

theorem unmarked_nfkc {t : List Nat} (h : Unmarked t) : Unmarked (nfkc t) := by
  apply unmarked_compose
  intro d hd
  rw [List.mem_reverse, mem_orderMarks] at hd
  obtain ⟨c, hc, hd⟩ := List.mem_flatMap.mp hd
  exact unmarked_decompose (h c hc) d hd

/-! ## Identifiers -/

theorem eq_of_isMark {c : Char} (h : isMark c.toNat = true) : c = '.' ∨ c = ']' := by
  rw [isMark, Bool.or_eq_true, beq_iff_eq, beq_iff_eq, Char.toNat_inj, Char.toNat_inj] at h
  exact h

theorem isMark_of_isIdentifierStart {c : Char} (h : isIdentifierStart c = true) : isMark c.toNat = false := by
  rw [Bool.eq_false_iff]
  intro hmark
  rcases eq_of_isMark hmark with rfl | rfl
  · exact absurd h (by decide)
  · exact absurd h (by decide)

theorem isMark_of_isIdentifierContinue {c : Char} (h : isIdentifierContinue c = true) :
    isMark c.toNat = false := by
  rw [Bool.eq_false_iff]
  intro hmark
  rcases eq_of_isMark hmark with rfl | rfl
  · exact absurd h (by decide)
  · exact absurd h (by decide)

theorem unmarked_of_isIdentifier {word : List Char} (h : isIdentifier word = true) :
    ∀ c ∈ word, isMark c.toNat = false := by
  cases word with
  | nil => exact fun c hc => absurd hc List.not_mem_nil
  | cons c rest =>
    obtain ⟨hc, hrest⟩ := Bool.and_eq_true_iff.mp h
    intro d hd
    rcases List.mem_cons.mp hd with rfl | hd
    · exact isMark_of_isIdentifierStart hc
    · exact isMark_of_isIdentifierContinue (List.all_eq_true.mp hrest d hd)

/-- Without marks there is neither a full stop nor a closing bracket. -/
theorem marks_notMem {cs : List Char} (h : ∀ c ∈ cs, isMark c.toNat = false) : '.' ∉ cs ∧ ']' ∉ cs :=
  ⟨fun hm => absurd (h _ hm) (by decide), fun hm => absurd (h _ hm) (by decide)⟩

theorem unmarked_toChars {t : Text} (h : Unmarked t) : ∀ c ∈ toChars t, isMark c.toNat = false := by
  intro d hd
  obtain ⟨c, hc, rfl⟩ := List.mem_map.mp hd
  by_cases hvalid : c.isValidChar
  · rw [toNat_charOf hvalid]
    exact h c hc
  · rw [charOf, if_neg hvalid]
    decide

/-- The normal form of an identifier has no marks. -/
theorem unmarked_toString_nfkc {word : List Char} (h : isIdentifier word = true) :
    ∀ c ∈ (Text.toString (nfkc (ofChars word))).toList, isMark c.toNat = false := by
  rw [Text.toString, String.toList_ofList]
  refine unmarked_toChars (unmarked_nfkc fun d hd => ?_)
  obtain ⟨c, hc, rfl⟩ := List.mem_map.mp hd
  exact unmarked_of_isIdentifier h c hc

end ModelReach.Text
