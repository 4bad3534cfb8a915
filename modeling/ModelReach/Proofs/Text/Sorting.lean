import Mathlib.Data.List.Sort
import Mathlib.Data.String.Basic
import ModelReach.Types.TypeSet

/-! Lists sorted by names. Names that are all different are put in one order only. -/
namespace ModelReach
set_option autoImplicit false

/-! ## Order of names -/

theorem pairwise_sorted {α : Type} (name : α → String) (l : List α) :
    (l.mergeSort fun a b => name a ≤ name b).Pairwise fun a b => name a ≤ name b := by
  have hsorted : (l.mergeSort fun a b => name a ≤ name b).Pairwise
      fun a b => decide (name a ≤ name b) = true := by
    apply List.pairwise_mergeSort
    · intro a b c hab hbc
      rw [decide_eq_true_eq] at hab hbc ⊢
      exact le_trans hab hbc
    · intro a b
      rw [Bool.or_eq_true, decide_eq_true_eq, decide_eq_true_eq]
      exact le_total (name a) (name b)
  exact hsorted.imp fun h => of_decide_eq_true h

theorem sortStrings_perm (l : List String) : (sortStrings l).Perm l := List.mergeSort_perm _ _

theorem mem_sortStrings {l : List String} {s : String} : s ∈ sortStrings l ↔ s ∈ l :=
  (sortStrings_perm l).mem_iff

theorem sortStrings_sorted (l : List String) : (sortStrings l).Pairwise (· ≤ ·) := pairwise_sorted id l

theorem sortStrings_congr {l l' : List String} (h : l.Perm l') : sortStrings l = sortStrings l' :=
  ((sortStrings_perm l).trans (h.trans (sortStrings_perm l').symm)).eq_of_pairwise'
    (sortStrings_sorted l) (sortStrings_sorted l')

/-- Names without repetition are put in strict order. -/
theorem sortStrings_strict {l : List String} (h : l.Nodup) : (sortStrings l).Pairwise (· < ·) := by
  have hle := sortStrings_sorted l
  have hne : (sortStrings l).Nodup := (sortStrings_perm l).nodup_iff.mpr h
  exact (List.pairwise_and_iff.mpr ⟨hle, hne⟩).imp fun h => lt_of_le_of_ne h.1 h.2

theorem strictMono_append (before : String) : StrictMono (before ++ ·) := by
  intro a b h
  rw [String.lt_iff_toList_lt] at h ⊢
  rw [String.toList_append, String.toList_append]
  exact List.append_left_lt h

/-- Names are put in the same order behind the same beginning. -/
theorem sortStrings_append (before : String) (l : List String) :
    sortStrings (l.map (before ++ ·)) = (sortStrings l).map (before ++ ·) :=
  (List.map_mergeSort fun _ _ _ _ => decide_eq_decide.mpr (strictMono_append before).le_iff_le.symm).symm

/-- To sort by names and take the names is to sort the names. -/
theorem map_name_sorted {α : Type} (name : α → String) (l : List α) :
    (l.mergeSort fun a b => name a ≤ name b).map name = sortStrings (l.map name) := by
  have hle : ((l.mergeSort fun a b => name a ≤ name b).map name).Pairwise (· ≤ ·) :=
    List.pairwise_map.mpr (pairwise_sorted name l)
  exact (((List.mergeSort_perm l _).map name).trans (sortStrings_perm _).symm).eq_of_pairwise' hle
    (sortStrings_sorted _)

/-- What has different names is sorted alike before and after some of it is left out. -/
theorem mergeSort_filter {α : Type} (name : α → String) (keep : α → Bool) {l : List α}
    (h : (l.map name).Nodup) : (l.filter keep).mergeSort (fun a b => name a ≤ name b) =
      (l.mergeSort fun a b => name a ≤ name b).filter keep := by
  refine List.Perm.eq_of_pairwise (fun a b ha hb hab hba => ?_) (pairwise_sorted name (l.filter keep))
    ((pairwise_sorted name l).filter keep)
    ((List.mergeSort_perm _ _).trans ((List.mergeSort_perm l _).filter keep).symm)
  have ha := (List.mem_filter.mp ((List.mergeSort_perm _ _).mem_iff.mp ha)).1
  have hb := (List.mergeSort_perm l _).mem_iff.mp (List.mem_filter.mp hb).1
  exact List.inj_on_of_nodup_map h ha hb (le_antisymm hab hba)

end ModelReach
