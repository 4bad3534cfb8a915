import ModelReach.Files.Scan
import ModelReach.Proofs.Files.Walks

/-! Trees from which files are removed. What is looked up is found as before unless it is one of these files; then
it is not found, which no search mistakes for anything else. -/
namespace ModelReach.Files
set_option autoImplicit false

namespace FileTree

/-! ## Removal -/

/-- The tree without the entries at some parts. -/
def eraseAll (t : FileTree) (gone : List (List String)) : FileTree := gone.foldl erase t

variable {t : FileTree} {gone : List (List String)}

theorem workDir_eraseAll (t : FileTree) (gone : List (List String)) : (t.eraseAll gone).workDir = t.workDir := by
  induction gone generalizing t with
  | nil => rfl
  | cons parts gone ih => exact ih (t.erase parts)

theorem unreadable_eraseAll (t : FileTree) (gone : List (List String)) :
    (t.eraseAll gone).unreadable = t.unreadable := by
  induction gone generalizing t with
  | nil => rfl
  | cons parts gone ih => exact ih (t.erase parts)

theorem entries_eraseAll (t : FileTree) (gone : List (List String)) :
    (t.eraseAll gone).entries = t.entries.filter fun e => !gone.contains e.1 := by
  induction gone generalizing t with
  | nil => exact (List.filter_eq_self.mpr fun _ _ => rfl).symm
  | cons parts gone ih =>
    change ((t.erase parts).eraseAll gone).entries = _
    rw [ih, erase, List.filter_filter]
    apply List.filter_congr
    intro e _
    by_cases he : e.1 = parts <;> simp [he]

theorem contains_eq_false {parts : List String} (h : parts ∉ gone) : gone.contains parts = false := by
  rw [← Bool.not_eq_true, List.contains_iff_mem]
  exact h

theorem lookup_filter_key {α β : Type} [BEq α] [LawfulBEq α] (l : List (α × β)) (keep : α → Bool) (k : α) :
    (l.filter fun e => keep e.1).lookup k = if keep k then l.lookup k else none := by
  induction l with
  | nil => cases keep k <;> rfl
  | cons e l ih =>
    rw [List.filter_cons, List.lookup_cons]
    by_cases hk : k = e.1
    · subst hk
      cases hkeep : keep e.1 with
      | true => rw [if_pos rfl, if_pos rfl, List.lookup_cons, beq_self_eq_true]
      | false =>
        rw [if_neg Bool.false_ne_true, if_neg Bool.false_ne_true, ih, hkeep, if_neg Bool.false_ne_true]
    · rw [beq_false_of_ne hk, ← ih]
      split
      · rw [List.lookup_cons, beq_false_of_ne hk]
      · rfl

theorem node?_eraseAll {parts : List String} (h : parts ∉ gone) :
    (t.eraseAll gone).node? parts = t.node? parts := by
  by_cases hnil : parts = []
  · rw [hnil, node?_nil, node?_nil]
  · rw [node?_of_ne_nil hnil, node?_of_ne_nil hnil, entries_eraseAll,
      lookup_filter_key t.entries (fun key => !gone.contains key), contains_eq_false h]
    rfl

theorem node?_eraseAll_of_mem {parts : List String} (h : parts ∈ gone) (hnil : parts ≠ []) :
    (t.eraseAll gone).node? parts = none := by
  rw [node?_of_ne_nil hnil, entries_eraseAll, lookup_filter_key t.entries (fun key => !gone.contains key),
    List.contains_iff_mem.mpr h]
  rfl

/-- The parts are those of files. -/
def AllFiles (t : FileTree) (gone : List (List String)) : Prop :=
  ∀ parts ∈ gone, ∃ content, t.node? parts = some (.file content)

theorem AllFiles.ne_nil (hg : AllFiles t gone) {parts : List String} (h : parts ∈ gone) : parts ≠ [] := by
  rintro rfl
  obtain ⟨content, hn⟩ := hg [] h
  rw [node?_nil] at hn
  cases hn

theorem AllFiles.notMem_of_directory (hg : AllFiles t gone) {parts : List String}
    (h : t.node? parts = some .directory) : parts ∉ gone := by
  intro hm
  obtain ⟨content, hn⟩ := hg parts hm
  rw [h] at hn
  cases hn

/-! ## Walks -/

/-- How a walk ends that ended somehow before files were removed. -/
inductive WalkLoses (gone : List (List String)) :
    Except SystemProblem (List String × Nat) → Except SystemProblem (List String × Nat) → Prop
  | kept {there : List String × Nat} (h : there.1 ∉ gone) : WalkLoses gone (.ok there) (.ok there)
  | lost {there : List String × Nat} (h : there.1 ∈ gone) : WalkLoses gone (.ok there) (.error .notFound)
  | tooLong : WalkLoses gone (.error .nameTooLong) (.error .nameTooLong)
  | failed {problem problem' : SystemProblem} (h : problem ≠ .nameTooLong) (h' : problem' ≠ .nameTooLong) :
    WalkLoses gone (.error problem) (.error problem')

theorem AllFiles.notMem_linkStart (hg : AllFiles t gone) {here : List String} (hh : here ∉ gone) (target : String) :
    linkStart here target ∉ gone := by
  unfold linkStart
  split
  · exact hh
  · exact hg.notMem_of_directory (node?_nil t)

/-- Links stay where they are, so both walks follow the same ones. -/
theorem walkFrom_eraseAll (hw : WellFormed t) (hg : AllFiles t gone) (links : Nat) {here : List String}
    (hh : here ∉ gone) (l : List String) :
    WalkLoses gone (t.walkFrom links here l) ((t.eraseAll gone).walkFrom links here l) := by
  induction links using Nat.strongRecOn generalizing here l with
  | ind links ihlinks =>
    induction l generalizing here with
    | nil =>
      rw [walkFrom_nil, walkFrom_nil]
      exact WalkLoses.kept hh
    | cons step l ih =>
      rw [walkFrom_cons, walkFrom_cons, node?_eraseAll hh]
      split
      · exact WalkLoses.failed (by decide) (by decide)
      · rename_i hn
        split
        · exact ih hh
        · split
          · exact ih (hg.notMem_of_directory (node?_dropLast hw hn))
          · split
            · exact WalkLoses.tooLong
            · by_cases hnext : here ++ [step] ∈ gone
              · rw [node?_eraseAll_of_mem hnext (hg.ne_nil hnext)]
                obtain ⟨content, hfile⟩ := hg _ hnext
                rw [hfile]
                dsimp only
                cases l with
                | nil =>
                  rw [walkFrom_nil]
                  exact WalkLoses.lost hnext
                | cons step' l =>
                  rw [walkFrom_cons, hfile]
                  exact WalkLoses.failed (by decide) (by decide)
              · rw [node?_eraseAll hnext]
                split
                · exact WalkLoses.failed (by decide) (by decide)
                · cases links with
                  | zero => exact WalkLoses.failed (by decide) (by decide)
                  | succ links => exact ihlinks links (Nat.lt_succ_self links) (hg.notMem_linkStart hh _) _
                · exact ih hnext
      · exact WalkLoses.failed (by decide) (by decide)

/-! ## Looking up -/

/-- How a text is looked up that was found or not before files were removed. -/
inductive FindLoses (gone : List (List String)) (s : String) :
    Except FileFault (List String × Node) → Except FileFault (List String × Node) → Prop
  | kept {parts : List String} {node : Node} (h : parts ∉ gone) :
    FindLoses gone s (.ok (parts, node)) (.ok (parts, node))
  | lost {parts : List String} {node : Node} (h : parts ∈ gone) :
    FindLoses gone s (.ok (parts, node)) (.error (.system .notFound s))
  | tooLong : FindLoses gone s (.error (.system .nameTooLong s)) (.error (.system .nameTooLong s))
  | failed {fault fault' : FileFault} (h : ∀ s', fault ≠ .system .nameTooLong s')
    (h' : ∀ s', fault' ≠ .system .nameTooLong s') : FindLoses gone s (.error fault) (.error fault')

theorem checkText_fault {s : String} {fault : FileFault} (h : checkText s = .error fault) :
    fault = .system .nameTooLong s ∨ ∀ s', fault ≠ .system .nameTooLong s' := by
  unfold checkText at h
  split at h
  · cases h
    exact Or.inr fun _ he => by cases he
  · split at h
    · cases h
      exact Or.inr fun _ he => by cases he
    · split at h
      · cases h
        exact Or.inl rfl
      · cases h

theorem find_eraseAll (hw : WellFormed t) (hg : AllFiles t gone) (s : String) :
    FindLoses gone s (t.find s) ((t.eraseAll gone).find s) := by
  have hstart : (t.eraseAll gone).start s = t.start s := by
    rw [start, start, workDir_eraseAll]
  have horigin : t.start s ∉ gone := by
    unfold start
    split
    · exact hg.notMem_of_directory hw.workDir
    · exact hg.notMem_of_directory (node?_nil t)
  rw [find_eq, find_eq, hstart, walk, walk]
  cases hc : checkText s with
  | error fault =>
    rcases checkText_fault hc with rfl | hshort
    · exact FindLoses.tooLong
    · exact FindLoses.failed hshort hshort
  | ok u =>
    dsimp only
    have hwalk := walkFrom_eraseAll hw hg maxLinks horigin (slashParts s)
    generalize t.walkFrom maxLinks (t.start s) (slashParts s) = x at hwalk
    generalize (t.eraseAll gone).walkFrom maxLinks (t.start s) (slashParts s) = y at hwalk
    cases hwalk with
    | @kept there h =>
      dsimp only [Except.map]
      rw [node?_eraseAll h]
      rcases t.node? there.1 with _ | _ | content | target
      · exact FindLoses.failed (fun _ he => by cases he) fun _ he => by cases he
      · exact FindLoses.kept h
      · dsimp only
        split
        · exact FindLoses.failed (fun _ he => by cases he) fun _ he => by cases he
        · exact FindLoses.kept h
      · exact FindLoses.failed (fun _ he => by cases he) fun _ he => by cases he
    | @lost there h =>
      obtain ⟨content, hfile⟩ := hg there.1 h
      dsimp only [Except.map]
      rw [hfile]
      dsimp only
      split
      · exact FindLoses.failed (fun _ he => by cases he) fun _ he => by cases he
      · exact FindLoses.lost h
    | tooLong => exact FindLoses.tooLong
    | failed h h' =>
      exact FindLoses.failed (fun _ he => h (by cases he; rfl)) fun _ he => h' (by cases he; rfl)

/-- The path does not lead to one of the files removed. -/
def Keeps (t : FileTree) (gone : List (List String)) (p : PurePath) : Prop :=
  ∀ parts node, t.find p.render = .ok (parts, node) → parts ∉ gone

theorem find_of_eraseAll (hw : WellFormed t) (hg : AllFiles t gone) {s : String} {parts : List String}
    {node : Node} (h : (t.eraseAll gone).find s = .ok (parts, node)) :
    t.find s = .ok (parts, node) ∧ parts ∉ gone := by
  have hloses := find_eraseAll hw hg s
  rw [h] at hloses
  generalize t.find s = x at hloses
  cases hloses with
  | kept h => exact ⟨rfl, h⟩

theorem find_eraseAll_of_notMem (hw : WellFormed t) (hg : AllFiles t gone) {s : String} {parts : List String}
    {node : Node} (h : t.find s = .ok (parts, node)) (hm : parts ∉ gone) :
    (t.eraseAll gone).find s = .ok (parts, node) := by
  have hloses := find_eraseAll hw hg s
  rw [h] at hloses
  generalize (t.eraseAll gone).find s = y at hloses
  cases hloses with
  | kept _ => rfl
  | lost hm' => exact absurd hm' hm

end FileTree
end ModelReach.Files
