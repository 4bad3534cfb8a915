import ModelReach.Text.Basic

/-! Texts cut at a mark. To cut is to undo a joining of pieces that do not hold the mark, and to join the pieces
again gives the text. -/
namespace ModelReach.Text
set_option autoImplicit false

variable {mark : Char}

theorem all_of_notMem {l : List Char} (h : mark ∉ l) : ∀ c ∈ l, (c != mark) = true := fun _ hc =>
  bne_iff_ne.mpr fun he => h (he ▸ hc)

section Last
variable (before : List Char) {after : List Char} (h : mark ∉ after)
include h

/-- What stands after the last mark. -/
theorem takeWhile_reverse_join :
    (before ++ mark :: after).reverse.takeWhile (· != mark) = after.reverse := by
  rw [List.reverse_append, List.reverse_cons, List.append_assoc, List.singleton_append,
    List.takeWhile_append_of_pos (all_of_notMem fun hm => h (List.mem_reverse.mp hm)),
    List.takeWhile_cons_of_neg (by rw [bne_self_eq_false]; exact Bool.false_ne_true), List.append_nil]

/-- What stands before the last mark, and the mark. -/
theorem dropWhile_reverse_join :
    (before ++ mark :: after).reverse.dropWhile (· != mark) = mark :: before.reverse := by
  rw [List.reverse_append, List.reverse_cons, List.append_assoc, List.singleton_append,
    List.dropWhile_append_of_pos (all_of_notMem fun hm => h (List.mem_reverse.mp hm)),
    List.dropWhile_cons_of_neg (by rw [bne_self_eq_false]; exact Bool.false_ne_true)]

end Last

theorem pieces_eq_splitOn (mark : Char) (l : List Char) : pieces mark l = l.splitOn mark := by
  induction l with
  | nil => rfl
  | cons c l ih =>
    unfold pieces at ih ⊢
    rw [List.foldr_cons, ih, List.splitOn_cons_eq_if_modifyHead]
    cases hs : l.splitOn mark with
    | nil => exact absurd hs (List.splitOn_ne_nil mark l)
    | cons part rest => rfl

/-- The pieces of a string between the places where a mark stands. -/
def piecesOf (mark : Char) (s : String) : List String := (pieces mark s.toList).map String.ofList

theorem piecesOf_eq (mark : Char) (s : String) : piecesOf mark s = (s.toList.splitOn mark).map String.ofList := by
  rw [piecesOf, pieces_eq_splitOn]

theorem piecesOf_ne_nil (mark : Char) (s : String) : piecesOf mark s ≠ [] := by
  rw [piecesOf_eq]
  exact fun hnil => List.splitOn_ne_nil mark _ (List.map_eq_nil_iff.mp hnil)

theorem notMem_of_mem_splitOn {l part : List Char} (h : part ∈ l.splitOn mark) : mark ∉ part := by
  induction l generalizing part with
  | nil =>
    rw [List.splitOn_nil, List.mem_singleton] at h
    rw [h]
    exact List.not_mem_nil
  | cons c l ih =>
    rw [List.splitOn_cons_eq_if_modifyHead] at h
    split at h
    · rcases List.mem_cons.mp h with rfl | h
      · exact List.not_mem_nil
      · exact ih h
    · rename_i hc
      cases hs : l.splitOn mark with
      | nil => exact absurd hs (List.splitOn_ne_nil mark l)
      | cons first rest =>
        rw [hs, List.modifyHead_cons] at h
        rcases List.mem_cons.mp h with rfl | h
        · have hfirst : mark ∉ first := ih (hs ▸ List.mem_cons_self ..)
          intro hm
          rcases List.mem_cons.mp hm with rfl | hm
          · exact hc (beq_self_eq_true mark)
          · exact hfirst hm
        · exact ih (hs ▸ List.mem_cons_of_mem first h)

theorem notMem_of_mem_piecesOf {s part : String} (h : part ∈ piecesOf mark s) : mark ∉ part.toList := by
  rw [piecesOf_eq] at h
  obtain ⟨l, hl, rfl⟩ := List.mem_map.mp h
  rw [String.toList_ofList]
  exact notMem_of_mem_splitOn hl

theorem exists_mem_splitOn {c : Char} (hc : c ≠ mark) (l : List Char) :
    (∃ part ∈ l.splitOn mark, c ∈ part) ↔ c ∈ l := by
  induction l with
  | nil => simp only [List.splitOn_nil, List.mem_singleton, exists_eq_left]
  | cons d l ih =>
    rw [List.splitOn_cons_eq_if_modifyHead, List.mem_cons, ← ih]
    split
    · rename_i hd
      have hne : c ≠ d := fun he => hc (he.trans (beq_iff_eq.mp hd))
      simp only [List.mem_cons, or_and_right, exists_or, exists_eq_left, List.not_mem_nil, false_or, hne]
    · cases hs : l.splitOn mark with
      | nil => exact absurd hs (List.splitOn_ne_nil mark l)
      | cons first rest =>
        simp only [List.modifyHead_cons, List.mem_cons, or_and_right, exists_or, exists_eq_left, or_assoc]

/-- The pieces hold all characters of a text, but for the mark. -/
theorem exists_mem_piecesOf {c : Char} (hc : c ≠ mark) (s : String) :
    (∃ part ∈ piecesOf mark s, c ∈ part.toList) ↔ c ∈ s.toList := by
  rw [piecesOf_eq, ← exists_mem_splitOn hc]
  constructor
  · rintro ⟨part, hpart, hmem⟩
    obtain ⟨l, hl, rfl⟩ := List.mem_map.mp hpart
    rw [String.toList_ofList] at hmem
    exact ⟨l, hl, hmem⟩
  · rintro ⟨l, hl, hmem⟩
    exact ⟨String.ofList l, List.mem_map_of_mem hl, String.toList_ofList.symm ▸ hmem⟩

theorem piecesOf_of_notMem {s : String} (h : mark ∉ s.toList) : piecesOf mark s = [s] := by
  rw [piecesOf_eq, List.splitOn_eq_singleton h, List.map_singleton, String.ofList_toList]

/-- A text with a mark is cut there, and what stands on either side is cut on its own. -/
theorem piecesOf_append (mark : Char) (before after : String) :
    piecesOf mark (before ++ String.singleton mark ++ after) = piecesOf mark before ++ piecesOf mark after := by
  rw [piecesOf_eq, piecesOf_eq, piecesOf_eq, String.toList_append, String.toList_append, String.toList_singleton,
    List.append_assoc, List.singleton_append, List.splitOn_append_cons_self, List.map_append]

/-- Texts that are joined are cut each on its own. -/
theorem piecesOf_intercalate {parts : List String} (h : parts ≠ []) :
    piecesOf mark ((String.singleton mark).intercalate parts) = parts.flatMap (piecesOf mark) := by
  induction parts with
  | nil => exact absurd rfl h
  | cons part parts ih =>
    by_cases hnil : parts = []
    · rw [hnil, String.intercalate_singleton, List.flatMap_cons, List.flatMap_nil, List.append_nil]
    · rw [String.intercalate_cons_of_ne_nil hnil, piecesOf_append, ih hnil, List.flatMap_cons]

theorem flatMap_piecesOf {parts : List String} (h : ∀ part ∈ parts, mark ∉ part.toList) :
    parts.flatMap (piecesOf mark) = parts := by
  induction parts with
  | nil => rfl
  | cons part parts ih =>
    rw [List.flatMap_cons, piecesOf_of_notMem (h part (List.mem_cons_self ..)),
      ih fun other hm => h other (List.mem_cons_of_mem part hm), List.singleton_append]

theorem intercalate_piecesOf (mark : Char) (s : String) :
    (String.singleton mark).intercalate (piecesOf mark s) = s := by
  rw [← String.toList_inj, String.toList_intercalate, String.toList_singleton, piecesOf_eq, List.map_map]
  have hid : (s.toList.splitOn mark).map (String.toList ∘ String.ofList) = s.toList.splitOn mark :=
    (List.map_congr_left fun l _ => String.toList_ofList).trans (List.map_id _)
  rw [hid, List.intercalate_splitOn]

end ModelReach.Text
