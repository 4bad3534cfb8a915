import Mathlib.Data.List.TakeWhile
import ModelReach.Proofs.Text.Pieces
import ModelReach.Text.Dotted

/-! Dotted names cut into parts and joined again. -/
namespace ModelReach.Dotted
set_option autoImplicit false

/-! ## Joined names -/

theorem cutLast_join {before after : List Char} (h : '.' ∉ after) :
    cutLast (before ++ '.' :: after) = some (before, after) := by
  unfold cutLast
  rw [Text.dropWhile_reverse_join before h, Text.takeWhile_reverse_join before h, List.reverse_reverse]
  exact congrArg (fun front => some (front, after)) (List.reverse_reverse before)

theorem toList_join (before after : String) :
    (before ++ "." ++ after).toList = before.toList ++ '.' :: after.toList := by
  rw [String.toList_append, String.toList_append, List.append_assoc]
  rfl

theorem parent_join (before : String) {after : String} (h : '.' ∉ after.toList) :
    parent (before ++ "." ++ after) = before := by
  rw [parent, toList_join, cutLast_join h]
  exact String.ofList_toList

theorem parent_of_notMem {name : String} (h : '.' ∉ name.toList) : parent name = "" := by
  have hdrop : name.toList.reverse.dropWhile (· != '.') = [] :=
    List.dropWhile_eq_nil_iff.mpr (Text.all_of_notMem fun hm => h (List.mem_reverse.mp hm))
  rw [parent, cutLast, hdrop]

/-! ## First parts -/

theorem cutFirst_join {before : List Char} (h : '.' ∉ before) (after : List Char) :
    cutFirst (before ++ '.' :: after) = (before, after) := by
  have hall := Text.all_of_notMem h
  rw [cutFirst, List.takeWhile_append_of_pos hall, List.dropWhile_append_of_pos hall]
  exact Prod.ext (List.append_nil before) rfl

theorem cutFirst_of_notMem {name : List Char} (h : '.' ∉ name) : cutFirst name = (name, []) := by
  have hall := Text.all_of_notMem h
  rw [cutFirst, List.takeWhile_eq_self_iff.mpr hall, List.dropWhile_eq_nil_iff.mpr hall, List.drop_nil]

theorem head_join {before : String} (h : '.' ∉ before.toList) (after : String) :
    head (before ++ "." ++ after) = before := by
  rw [head, toList_join, cutFirst_join h, String.ofList_toList]

theorem rest_join {before : String} (h : '.' ∉ before.toList) (after : String) :
    rest (before ++ "." ++ after) = after := by
  rw [rest, toList_join, cutFirst_join h, String.ofList_toList]

theorem head_of_notMem {name : String} (h : '.' ∉ name.toList) : head name = name := by
  rw [head, cutFirst_of_notMem h, String.ofList_toList]

theorem rest_of_notMem {name : String} (h : '.' ∉ name.toList) : rest name = "" := by
  rw [rest, cutFirst_of_notMem h]

theorem head_append (before after : String) : head (before ++ "." ++ after) = head before := by
  by_cases h : '.' ∈ before.toList
  · obtain ⟨first, more, hsplit, hfirst⟩ := List.eq_append_cons_of_mem h
    rw [head, head, toList_join, hsplit, List.append_assoc, List.cons_append, cutFirst_join hfirst,
      cutFirst_join hfirst]
  · rw [head_join h, head_of_notMem h]

/-- The first part and the rest of a name with a point make it up. -/
theorem head_append_rest {name : String} (h : '.' ∈ name.toList) : head name ++ "." ++ rest name = name := by
  obtain ⟨first, more, hsplit, hfirst⟩ := List.eq_append_cons_of_mem h
  rw [← String.toList_inj, toList_join, head, rest, hsplit, cutFirst_join hfirst, String.toList_ofList,
    String.toList_ofList]

theorem rest_ne_empty (before : String) {after : String} (h : after ≠ "") : rest (before ++ "." ++ after) ≠ "" := by
  by_cases hpoint : '.' ∈ before.toList
  · obtain ⟨first, more, hsplit, hfirst⟩ := List.eq_append_cons_of_mem hpoint
    rw [rest, toList_join, hsplit, List.append_assoc, List.cons_append, cutFirst_join hfirst]
    intro he
    rw [← String.toList_eq_nil_iff, String.toList_ofList] at he
    exact absurd (List.append_eq_nil_iff.mp he).2 (List.cons_ne_nil _ _)
  · rwa [rest_join hpoint]

/-! ## Parts -/

theorem parts_of_ne_empty {name : String} (h : name ≠ "") : parts name = Text.piecesOf '.' name := if_neg h

/-- To cut some names of a list at points and to join everything is to join the list. -/
theorem intercalate_flatMap (names more : List String) :
    ".".intercalate (names.flatMap (Text.piecesOf '.') ++ more) = ".".intercalate (names ++ more) := by
  induction names with
  | nil => rfl
  | cons name names ih =>
    have hpieces := Text.piecesOf_ne_nil '.' name
    have hjoined : ".".intercalate (Text.piecesOf '.' name) = name := Text.intercalate_piecesOf '.' name
    rw [List.flatMap_cons, List.append_assoc, List.cons_append]
    by_cases hnil : names ++ more = []
    · obtain ⟨rfl, rfl⟩ := List.append_eq_nil_iff.mp hnil
      rw [List.flatMap_nil, List.append_nil, List.append_nil, hjoined, String.intercalate_singleton]
    · have hcut : names.flatMap (Text.piecesOf '.') ++ more ≠ [] := by
        intro hcut
        obtain ⟨hnames, rfl⟩ := List.append_eq_nil_iff.mp hcut
        cases names with
        | nil => exact hnil rfl
        | cons other names =>
          rw [List.flatMap_cons] at hnames
          exact Text.piecesOf_ne_nil '.' other (List.append_eq_nil_iff.mp hnames).1
      rw [String.intercalate_append_of_ne_nil hpieces hcut, ih, hjoined, String.intercalate_cons_of_ne_nil hnil]

end ModelReach.Dotted
