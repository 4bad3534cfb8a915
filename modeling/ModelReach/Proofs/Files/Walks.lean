import Mathlib.Data.List.Induction
import ModelReach.Proofs.Files.Paths

/-! Walks through a tree of files. In a well-formed tree, to look up the text of a path is to walk along its parts
from where the path begins, and without links what is found stands at the absolute parts of the path. -/
namespace ModelReach.Files
set_option autoImplicit false

/-! ## Well-formed trees -/

/-- Each entry stands once, under names that can stand in a directory, and in a directory; the working directory
is one. -/
structure WellFormed (t : FileTree) : Prop where
  distinct : (t.entries.map Prod.fst).Nodup
  named : ∀ e ∈ t.entries, e.1 ≠ [] ∧ ∀ name ∈ e.1, IsName name
  parents : ∀ e ∈ t.entries, t.node? e.1.dropLast = some .directory
  workDir : t.node? t.workDir = some .directory

instance (t : FileTree) : Decidable (WellFormed t) :=
  decidable_of_iff ((t.entries.map Prod.fst).Nodup ∧ (∀ e ∈ t.entries, e.1 ≠ [] ∧ ∀ name ∈ e.1, IsName name) ∧
      (∀ e ∈ t.entries, t.node? e.1.dropLast = some .directory) ∧ t.node? t.workDir = some .directory)
    ⟨fun h => ⟨h.1, h.2.1, h.2.2.1, h.2.2.2⟩, fun h => ⟨h.distinct, h.named, h.parents, h.workDir⟩⟩

namespace FileTree

variable {t : FileTree}

theorem node?_nil (t : FileTree) : t.node? [] = some .directory := if_pos rfl

theorem node?_of_ne_nil {parts : List String} (h : parts ≠ []) : t.node? parts = t.entries.lookup parts := if_neg h

theorem mem_entries_of_node? {parts : List String} {node : Node} (h : t.node? parts = some node)
    (hne : parts ≠ []) : (parts, node) ∈ t.entries := by
  rw [node?_of_ne_nil hne] at h
  obtain ⟨l₁, l₂, he, _⟩ := List.lookup_eq_some_iff.mp h
  rw [he]
  exact List.mem_append_right _ (List.mem_cons_self ..)

theorem node?_of_mem_entries (hw : WellFormed t) {e : List String × Node} (h : e ∈ t.entries) :
    t.node? e.1 = some e.2 := by
  rw [node?_of_ne_nil (hw.named e h).1]
  obtain ⟨l₁, l₂, he⟩ := List.append_of_mem h
  have hdistinct := hw.distinct
  rw [he, List.map_append, List.nodup_append] at hdistinct
  rw [he, List.lookup_eq_some_iff]
  refine ⟨l₁, l₂, rfl, fun e' he' => ?_⟩
  exact bne_iff_ne.mpr fun hk => hdistinct.2.2 e'.1 (List.mem_map_of_mem he') e.1 (List.mem_cons_self ..) hk.symm

theorem isName_of_node? (hw : WellFormed t) {parts : List String} {node : Node}
    (h : t.node? parts = some node) : ∀ name ∈ parts, IsName name := by
  by_cases hne : parts = []
  · rw [hne]
    exact fun _ hn => absurd hn List.not_mem_nil
  · exact (hw.named _ (mem_entries_of_node? h hne)).2

theorem node?_dropLast (hw : WellFormed t) {parts : List String} {node : Node} (h : t.node? parts = some node) :
    t.node? parts.dropLast = some .directory := by
  by_cases hne : parts = []
  · rw [hne]
    exact node?_nil t
  · exact hw.parents _ (mem_entries_of_node? h hne)

/-- What leads to a node is a directory. -/
theorem node?_of_append (hw : WellFormed t) {parts more : List String} {node : Node}
    (h : t.node? (parts ++ more) = some node) (hne : more ≠ []) : t.node? parts = some .directory := by
  induction more using List.reverseRecOn generalizing node with
  | nil => exact absurd rfl hne
  | append_singleton more name ih =>
    have hparent := node?_dropLast hw h
    rw [← List.append_assoc, List.dropLast_concat] at hparent
    by_cases hnil : more = []
    · rwa [hnil, List.append_nil] at hparent
    · exact ih hparent hnil

/-! ## Steps -/

/-- Take one step from some parts. -/
def stepFrom (here : List String) (part : String) : List String :=
  if part = ".." then here.dropLast else if isStep part then here ++ [part] else here

theorem foldl_stepFrom_names (here : List String) {names : List String} (h : ∀ n ∈ names, IsName n) :
    names.foldl stepFrom here = here ++ names := by
  induction names generalizing here with
  | nil => exact (List.append_nil here).symm
  | cons n names ih =>
    have hn := h n (List.mem_cons_self ..)
    rw [List.foldl_cons, ih _ fun m hm => h m (List.mem_cons_of_mem n hm), stepFrom, if_neg hn.proper,
      if_pos hn.step, List.append_assoc, List.singleton_append]

/-- Steps along parts lead to names, from where names lead. -/
theorem isName_foldl_stepFrom {here l : List String} (hh : ∀ n ∈ here, IsName n) (hl : ∀ part ∈ l, IsPart part) :
    ∀ n ∈ l.foldl stepFrom here, IsName n := by
  induction l generalizing here with
  | nil => exact hh
  | cons part l ih =>
    refine ih (fun n hn => ?_) fun part' hm => hl part' (List.mem_cons_of_mem part hm)
    unfold stepFrom at hn
    split at hn
    · exact hh n (List.dropLast_subset _ hn)
    · rename_i hdots
      split at hn
      · rcases List.mem_append.mp hn with hn | hn
        · exact hh n hn
        · rw [List.mem_singleton.mp hn]
          exact { hl part (List.mem_cons_self ..) with proper := hdots }
      · exact hh n hn

/-! ## Walks -/

theorem walkFrom_nil (t : FileTree) (links : Nat) (here : List String) :
    t.walkFrom links here [] = .ok (here, links) := by
  cases links <;> rfl

/-- A walk takes a step, or goes on along the text of a link with one link less to follow. -/
theorem walkFrom_cons (t : FileTree) (links : Nat) (here : List String) (step : String) (l : List String) :
    t.walkFrom links here (step :: l) = match t.node? here with
      | none => .error .notFound
      | some .directory =>
        if !isStep step then t.walkFrom links here l
        else if step = ".." then t.walkFrom links here.dropLast l
        else if maxNameBytes < step.utf8ByteSize then .error .nameTooLong
        else match t.node? (here ++ [step]) with
        | none => .error .notFound
        | some (.link target) => match links with
          | 0 => .error .tooManyLinks
          | links + 1 => t.walkFrom links (linkStart here target) (slashParts target ++ l)
        | some _ => t.walkFrom links (here ++ [step]) l
      | some _ => .error .notDirectory := by
  cases links <;> rfl

/-- The number of links left is handed on from one part of a walk to the next. -/
theorem walkFrom_append (t : FileTree) (links : Nat) (here a b : List String) :
    t.walkFrom links here (a ++ b) = (t.walkFrom links here a).bind fun there => t.walkFrom there.2 there.1 b := by
  -- Each link may add steps, so that the number of links left decides before that of the steps.
  induction links using Nat.strongRecOn generalizing here a with
  | ind links ihlinks =>
    induction a generalizing here with
    | nil =>
      rw [walkFrom_nil]
      rfl
    | cons step a ih =>
      rw [List.cons_append, walkFrom_cons, walkFrom_cons]
      split
      · rfl
      · split
        · exact ih here
        · split
          · exact ih here.dropLast
          · split
            · rfl
            · split
              · rfl
              · cases links with
                | zero => rfl
                | succ links =>
                  dsimp only
                  rw [← List.append_assoc]
                  exact ihlinks links (Nat.lt_succ_self links) _ _
              · exact ih (here ++ [step])
      · rfl

/-- What are no steps leads nowhere from a directory. -/
theorem walkFrom_skip {links : Nat} {here pre : List String} (h : t.node? here = some .directory)
    (hpre : ∀ s ∈ pre, isStep s = false) : t.walkFrom links here pre = .ok (here, links) := by
  induction pre with
  | nil => exact walkFrom_nil t links here
  | cons s pre ih =>
    have hs := hpre s (List.mem_cons_self ..)
    rw [walkFrom_cons, h]
    simp only [hs, Bool.not_false, if_true]
    exact ih fun s' hs' => hpre s' (List.mem_cons_of_mem s hs')

/-- A walk that goes on went through a directory. -/
theorem node?_of_walkFrom_cons {links : Nat} {here l : List String} {step : String} {there : List String × Nat}
    (h : t.walkFrom links here (step :: l) = .ok there) : t.node? here = some .directory := by
  rw [walkFrom_cons] at h
  split at h
  · cases h
  · assumption
  · cases h

/-- A walk by names to what is no link ends where the names say. -/
theorem eq_of_walkFrom_names (hw : WellFormed t) {links : Nat} {here names : List String} {there : List String × Nat}
    (hnames : ∀ n ∈ names, IsName n) {node : Node} (hnode : t.node? (here ++ names) = some node)
    (hlink : ∀ target, node ≠ .link target) (h : t.walkFrom links here names = .ok there) :
    there = (here ++ names, links) := by
  induction names generalizing here with
  | nil =>
    rw [walkFrom_nil] at h
    rw [List.append_nil]
    exact (Except.ok.inj h).symm
  | cons n names ih =>
    have hn := hnames n (List.mem_cons_self ..)
    have happ : here ++ n :: names = here ++ [n] ++ names := by rw [List.append_assoc, List.singleton_append]
    rw [happ] at hnode ⊢
    obtain ⟨next, hnext, hplain⟩ : ∃ next, t.node? (here ++ [n]) = some next ∧ ∀ target, next ≠ .link target := by
      by_cases hnil : names = []
      · rw [hnil, List.append_nil] at hnode
        exact ⟨node, hnode, hlink⟩
      · exact ⟨.directory, node?_of_append hw hnode hnil, fun _ => Node.noConfusion⟩
    have hhere := node?_of_walkFrom_cons h
    refine ih (fun n' hn' => hnames n' (List.mem_cons_of_mem n hn')) hnode ?_
    rw [walkFrom_cons, hhere, hnext] at h
    simp only [hn.step, Bool.not_true, Bool.false_eq_true, if_false, hn.proper] at h
    split at h
    · cases h
    · cases next with
      | directory => exact h
      | file content => exact h
      | link target => exact absurd rfl (hplain target)

/-! ## Trees without links -/

def LinkFree (t : FileTree) : Prop := ∀ e ∈ t.entries, ∀ target, e.2 ≠ .link target

instance (node : Node) : Decidable (∀ target, node ≠ .link target) :=
  match node with
  | .directory => isTrue fun _ => Node.noConfusion
  | .file _ => isTrue fun _ => Node.noConfusion
  | .link target => isFalse fun h => h target rfl

instance (t : FileTree) : Decidable t.LinkFree :=
  inferInstanceAs (Decidable (∀ e ∈ t.entries, ∀ target, e.2 ≠ .link target))

theorem LinkFree.node?_ne (hl : t.LinkFree) {parts : List String} {target : String} :
    t.node? parts ≠ some (.link target) := by
  intro h
  by_cases hnil : parts = []
  · rw [hnil, node?_nil] at h
    cases h
  · exact hl _ (mem_entries_of_node? h hnil) target rfl

theorem walk_nil (t : FileTree) (here : List String) : t.walk here [] = .ok here := by
  rw [walk, walkFrom_nil]
  rfl

/-- A walk that arrives has followed no link. -/
theorem LinkFree.links_eq (hl : t.LinkFree) {links : Nat} {here l : List String} {there : List String × Nat}
    (h : t.walkFrom links here l = .ok there) : there.2 = links := by
  induction l generalizing here with
  | nil =>
    rw [walkFrom_nil] at h
    cases h
    rfl
  | cons step l ih =>
    rw [walkFrom_cons] at h
    split at h
    · cases h
    · split at h
      · exact ih h
      · split at h
        · exact ih h
        · split at h
          · cases h
          · split at h
            · cases h
            · rename_i hnode
              exact absurd hnode hl.node?_ne
            · exact ih h
    · cases h

section LinkFree
variable (hl : t.LinkFree)
include hl

theorem walk_cons (here : List String) (step : String) (l : List String) :
    t.walk here (step :: l) = match t.node? here with
      | none => .error .notFound
      | some .directory =>
        if !isStep step then t.walk here l
        else if step = ".." then t.walk here.dropLast l
        else if maxNameBytes < step.utf8ByteSize then .error .nameTooLong
        else match t.node? (here ++ [step]) with
        | none => .error .notFound
        | some _ => t.walk (here ++ [step]) l
      | some _ => .error .notDirectory := by
  rw [walk, walkFrom_cons]
  rcases t.node? here with _ | _ | _ | _
  · rfl
  · dsimp only
    split
    · rfl
    · split
      · rfl
      · split
        · rfl
        · rcases hnode : t.node? (here ++ [step]) with _ | _ | _ | _
          · rfl
          · rfl
          · rfl
          · exact absurd hnode hl.node?_ne
  · rfl
  · rfl

theorem walk_append (here a b : List String) :
    t.walk here (a ++ b) = (t.walk here a).bind fun there => t.walk there b := by
  rw [walk, walk, walkFrom_append]
  cases h : t.walkFrom maxLinks here a with
  | error problem => rfl
  | ok there =>
    have hlinks := hl.links_eq h
    change (t.walkFrom there.2 there.1 b).map Prod.fst = _
    rw [hlinks]
    rfl

theorem eq_of_walk {here l there : List String} (h : t.walk here l = .ok there) :
    there = l.foldl stepFrom here := by
  induction l generalizing here with
  | nil =>
    rw [walk_nil] at h
    cases h
    rfl
  | cons step l ih =>
    rw [walk_cons hl] at h
    rw [List.foldl_cons, stepFrom]
    split at h
    · cases h
    · split at h
      · rename_i hstep
        have hdots : step ≠ ".." := by
          rintro rfl
          cases hstep
        rw [if_neg hdots, if_neg (by rw [Bool.not_eq_true'] at hstep; rw [hstep]; exact Bool.false_ne_true)]
        exact ih h
      · rename_i hstep
        rw [Bool.not_eq_true', Bool.not_eq_false] at hstep
        split at h
        · rename_i hdots
          rw [if_pos hdots]
          exact ih h
        · rename_i hdots
          rw [if_neg hdots, if_pos hstep]
          split at h
          · cases h
          · split at h
            · cases h
            · exact ih h
    · cases h

end LinkFree

/-! ## Looking up -/

/-- Where a path begins. -/
def origin (t : FileTree) (p : PurePath) : List String := if p.root = "" then t.workDir else []

theorem node?_origin (hw : WellFormed t) (p : PurePath) : t.node? (t.origin p) = some .directory := by
  unfold origin
  split
  · exact hw.workDir
  · exact node?_nil t

theorem find_eq (t : FileTree) (s : String) : t.find s = match checkText s with
    | .error fault => .error fault
    | .ok () => match t.walk (t.start s) (slashParts s) with
      | .error problem => .error (.system problem s)
      | .ok here => match t.node? here with
        | some .directory => .ok (here, .directory)
        | some (.file content) =>
          if (slashParts s).getLast? = some "" then .error (.system .notDirectory s) else .ok (here, .file content)
        | _ => .error (.system .notFound s) := by
  unfold find
  cases checkText s with
  | error fault => rfl
  | ok u =>
    cases hwalk : t.walk (t.start s) (slashParts s) with
    | error problem => rfl
    | ok here =>
      dsimp only [bind, Except.bind]
      rcases t.node? here with _ | _ | content | target
      · rfl
      · rfl
      · dsimp only
        split <;> rfl
      · rfl

theorem find_ok {s : String} {parts : List String} {node : Node} (h : t.find s = .ok (parts, node)) :
    checkText s = .ok () ∧ t.walk (t.start s) (slashParts s) = .ok parts ∧ t.node? parts = some node ∧
      ∀ target, node ≠ .link target := by
  rw [find_eq] at h
  cases hc : checkText s with
  | error fault =>
    rw [hc] at h
    cases h
  | ok u =>
    rw [hc] at h
    cases hwalk : t.walk (t.start s) (slashParts s) with
    | error problem =>
      rw [hwalk] at h
      cases h
    | ok here =>
      rw [hwalk] at h
      dsimp only at h
      rcases hn : t.node? here with _ | _ | content | target
      · rw [hn] at h
        cases h
      · rw [hn] at h
        cases h
        exact ⟨rfl, rfl, hn, fun _ => Node.noConfusion⟩
      · rw [hn] at h
        dsimp only at h
        split at h
        · cases h
        · cases h
          exact ⟨rfl, rfl, hn, fun _ => Node.noConfusion⟩
      · rw [hn] at h
        cases h

section Clean
variable (hw : WellFormed t) {p : PurePath} (h : Clean p)
include hw h

theorem walk_render : t.walk (t.start p.render) (slashParts p.render) = t.walk (t.origin p) p.parts := by
  obtain ⟨pre, hpre, hnone⟩ := slashParts_render h
  have hstart : t.start p.render = t.origin p := by
    rw [start, rootOf_render h]
    rfl
  rw [hpre, hstart, walk, walk, walkFrom_append, walkFrom_skip (node?_origin hw p) hnone]
  rfl

theorem find_render_iff {parts : List String} {node : Node} : t.find p.render = .ok (parts, node) ↔
    checkText p.render = .ok () ∧ t.walk (t.origin p) p.parts = .ok parts ∧ t.node? parts = some node ∧
      ∀ target, node ≠ .link target := by
  rw [← walk_render hw h]
  refine ⟨find_ok, fun ⟨hc, hwalk, hn, hlink⟩ => ?_⟩
  rw [find_eq, hc, hwalk]
  dsimp only
  rw [hn]
  cases node with
  | directory => rfl
  | link target => exact absurd rfl (hlink target)
  | file content =>
    -- The text has no slash at the end, since the path has parts: without any it ends where it begins.
    have hne : p.parts ≠ [] := by
      intro hnil
      rw [walk_render hw h, hnil, walk_nil] at hwalk
      cases hwalk
      rw [node?_origin hw p] at hn
      cases hn
    dsimp only
    rw [if_neg (getLast?_slashParts_render h hne)]

theorem isName_absoluteParts : ∀ n ∈ absoluteParts t.workDir p, IsName n := by
  have hwork := isName_of_node? hw hw.workDir
  unfold absoluteParts
  change ∀ n ∈ (if p.root = "" then t.workDir ++ p.parts else p.parts).foldl stepFrom [], IsName n
  split
  · rw [List.foldl_append, foldl_stepFrom_names [] hwork, List.nil_append]
    exact isName_foldl_stepFrom hwork h.parts
  · exact isName_foldl_stepFrom (fun n hn => absurd hn List.not_mem_nil) h.parts

/-- What is found stands at the absolute parts of the path, if there are no links. -/
theorem absoluteParts_of_find (hl : t.LinkFree) {parts : List String} {node : Node}
    (hf : t.find p.render = .ok (parts, node)) : parts = absoluteParts t.workDir p := by
  obtain ⟨_, hwalk, _⟩ := (find_render_iff hw h).mp hf
  rw [eq_of_walk hl hwalk, origin, absoluteParts]
  change _ = (if p.root = "" then t.workDir ++ p.parts else p.parts).foldl stepFrom []
  split
  · rw [List.foldl_append, foldl_stepFrom_names [] (isName_of_node? hw hw.workDir), List.nil_append]
  · rfl

end Clean

end FileTree
end ModelReach.Files
