import Mathlib.Data.List.Basic
import ModelReach.Proofs.Facts.Module
import ModelReach.Proofs.Files.Removal

/-! Searches in a tree from which files are removed. A pattern finds the source files that it found before, apart
from those removed, in the same order. -/
namespace ModelReach.Files
set_option autoImplicit false

open FileTree

/-! ## Paths below a path -/

section Below
variable {p : PurePath} {names : List String}

theorem checkText_iff {s : String} :
    checkText s = .ok () ↔ '\x00' ∉ s.toList ∧ s ≠ "" ∧ s.utf8ByteSize ≤ maxPathBytes := by
  unfold checkText
  split
  · rename_i h
    exact ⟨fun h' => (nomatch h'), fun h' => absurd (List.contains_iff_mem.mp h) h'.1⟩
  · rename_i hnull
    split
    · rename_i h
      exact ⟨fun h' => (nomatch h'), fun h' => absurd h h'.2.1⟩
    · rename_i hempty
      split
      · rename_i h
        exact ⟨fun h' => (nomatch h'), fun h' => absurd h (Nat.not_lt.mpr h'.2.2)⟩
      · rename_i hlong
        exact ⟨fun _ => ⟨fun hm => hnull (List.contains_iff_mem.mpr hm), hempty, Nat.not_lt.mp hlong⟩,
          fun _ => rfl⟩

theorem checkText_of_append {s more : String} (h : checkText (s ++ more) = .ok ()) (hs : s ≠ "") :
    checkText s = .ok () := by
  rw [checkText_iff, String.toList_append, String.utf8ByteSize_append] at h
  rw [checkText_iff]
  exact ⟨fun hm => h.1 (List.mem_append_left _ hm), hs, Nat.le_trans (Nat.le_add_right _ _) h.2.2⟩

/-- The text of a path begins those of paths below it, unless it is a mere point. -/
theorem render_descend (hn : names ≠ []) :
    p.render = "." ∨ ∃ more, (p.descend names).render = p.render ++ more := by
  obtain ⟨root, parts⟩ := p
  have hbelow : PurePath.render (PurePath.descend ⟨root, parts⟩ names) =
      root ++ "/".intercalate (parts ++ names) := by
    rw [PurePath.render, if_neg]
    · rfl
    · rw [Bool.and_eq_true, List.isEmpty_iff]
      exact fun h => hn (List.append_eq_nil_iff.mp h.2).2
  by_cases hparts : parts = []
  · by_cases hroot : root = ""
    · left
      rw [PurePath.render, hroot, hparts]
      rfl
    · right
      refine ⟨"/".intercalate names, ?_⟩
      rw [hbelow, hparts, PurePath.render, if_neg]
      · rw [String.intercalate_nil, String.append_empty]
        rfl
      · rw [Bool.and_eq_true, decide_eq_true_eq]
        exact fun h => hroot h.1
  · right
    refine ⟨"/" ++ "/".intercalate names, ?_⟩
    rw [hbelow, String.intercalate_append_of_ne_nil hparts hn, PurePath.render, if_neg]
    · simp only [String.append_assoc]
    · rw [Bool.and_eq_true, List.isEmpty_iff]
      exact fun h => hparts h.2

theorem render_ne_empty (h : Clean p) : p.render ≠ "" := by
  intro he
  obtain ⟨root, parts⟩ := p
  have hread := ofString_render h
  rw [he] at hread
  cases hread
  exact absurd he (by decide)

variable {t : FileTree} (hw : WellFormed t)
include hw

/-- What is found below a path is found from where the path leads, which is a directory. -/
theorem find_descend (h : Clean p) (hn : names ≠ []) (hnames : ∀ n ∈ names, IsPart n) {parts : List String}
    {node : Node} (hf : t.find (p.descend names).render = .ok (parts, node)) :
    ∃ there links links', t.find p.render = .ok (there, .directory) ∧
      t.walkFrom links there names = .ok (parts, links') := by
  obtain ⟨hcheck, hwalk, _⟩ := (find_render_iff hw (h.descend hnames)).mp hf
  change (t.walkFrom maxLinks (t.origin p) (p.parts ++ names)).map Prod.fst = _ at hwalk
  rw [walkFrom_append] at hwalk
  cases hhere : t.walkFrom maxLinks (t.origin p) p.parts with
  | error problem =>
    rw [hhere] at hwalk
    cases hwalk
  | ok there =>
    rw [hhere] at hwalk
    change (t.walkFrom there.2 there.1 names).map Prod.fst = .ok parts at hwalk
    have hthere : t.walk (t.origin p) p.parts = .ok there.1 := by
      rw [FileTree.walk, hhere]
      rfl
    cases hlast : t.walkFrom there.2 there.1 names with
    | error problem =>
      rw [hlast] at hwalk
      cases hwalk
    | ok last =>
      rw [hlast] at hwalk
      cases hwalk
      obtain ⟨n, rest, rfl⟩ := List.exists_cons_of_ne_nil hn
      refine ⟨there.1, there.2, last.2, (find_render_iff hw h).mpr ⟨?_, hthere, node?_of_walkFrom_cons hlast,
        fun _ => Node.noConfusion⟩, hlast⟩
      rcases render_descend (p := p) hn with hdot | ⟨more, hmore⟩
      · rw [hdot]
        rfl
      · rw [hmore] at hcheck
        exact checkText_of_append hcheck (render_ne_empty h)

/-- What stands below a path under some names, and is no link, is found there. -/
theorem eq_of_find_descend (h : Clean p) (hn : names ≠ []) (hnames : ∀ n ∈ names, IsName n) {there parts : List String}
    {node node' : Node} (hf : t.find (p.descend names).render = .ok (parts, node))
    (hthere : ∀ here, t.find p.render = .ok (here, .directory) → here = there)
    (hnode : t.node? (there ++ names) = some node') (hlink : ∀ target, node' ≠ .link target) :
    parts = there ++ names := by
  obtain ⟨here, links, links', hhere, hwalk⟩ := find_descend hw h hn (fun n hm => (hnames n hm).toIsPart) hf
  rw [← hthere here hhere] at hnode ⊢
  exact congrArg Prod.fst (eq_of_walkFrom_names hw hnames hnode hlink hwalk)

end Below

/-! ## Questions after a removal -/

section Removal
variable {t : FileTree} {gone : List (List String)} (hw : WellFormed t) (hg : AllFiles t gone)
include hw hg

/-- A path that leads to no removed file has the state that it had. -/
theorem stat_of_keeps {p : PurePath} (hk : Keeps t gone p) : (t.eraseAll gone).stat p = t.stat p := by
  have hloses := find_eraseAll hw hg p.render
  rw [stat, stat]
  generalize hx : t.find p.render = x at hloses
  generalize (t.eraseAll gone).find p.render = y at hloses
  cases hloses with
  | kept _ => rfl
  | lost hm => exact absurd hm (hk _ _ hx)
  | tooLong => rfl
  | @failed fault fault' h h' =>
    rcases fault with ⟨problem, s⟩ | _ <;> rcases fault' with ⟨problem', s'⟩ | _
    · cases problem <;> cases problem' <;> first | rfl | exact absurd rfl (h _) | exact absurd rfl (h' _)
    · cases problem <;> first | rfl | exact absurd rfl (h _)
    · cases problem' <;> first | rfl | exact absurd rfl (h' _)
    · rfl

theorem stat_of_not_keeps {p : PurePath} (hk : ¬Keeps t gone p) :
    (∃ content, t.stat p = .ok (some (.file content))) ∧ (t.eraseAll gone).stat p = .ok none := by
  have hloses := find_eraseAll hw hg p.render
  rw [stat, stat]
  generalize hx : t.find p.render = x at hloses
  generalize (t.eraseAll gone).find p.render = y at hloses
  cases hloses with
  | kept hm =>
    refine absurd (fun parts node hf => ?_) hk
    rw [hx] at hf
    cases hf
    exact hm
  | @lost parts node hm =>
    obtain ⟨content, hfile⟩ := hg parts hm
    rw [(find_ok hx).2.2.1] at hfile
    rw [Option.some.inj hfile]
    exact ⟨⟨content, rfl⟩, rfl⟩
  | tooLong => exact absurd (fun parts node hf => by rw [hx] at hf; cases hf) hk
  | failed _ _ => exact absurd (fun parts node hf => by rw [hx] at hf; cases hf) hk

theorem isDirectoryAt_eraseAll (p : PurePath) : isDirectoryAt (t.eraseAll gone) p = isDirectoryAt t p := by
  unfold isDirectoryAt
  by_cases hk : Keeps t gone p
  · rw [stat_of_keeps hw hg hk]
  · obtain ⟨⟨content, h⟩, h'⟩ := stat_of_not_keeps hw hg hk
    rw [h, h']
    rfl

theorem find_of_isSourceFile {p : PurePath} (h : isSourceFile (t.eraseAll gone) p = true) :
    ∃ parts content, t.find p.render = .ok (parts, .file content) ∧ parts ∉ gone := by
  rw [isSourceFile, Bool.and_eq_true] at h
  have hstat := h.2
  unfold stat at hstat
  cases hf : (t.eraseAll gone).find p.render with
  | error fault =>
    rw [hf] at hstat
    rcases fault with ⟨problem, _⟩ | _
    · cases problem <;> cases hstat
    · cases hstat
  | ok found =>
    obtain ⟨parts, node⟩ := found
    rw [hf] at hstat
    cases node with
    | directory => cases hstat
    | link target => cases hstat
    | file content =>
      obtain ⟨hfind, hm⟩ := find_of_eraseAll hw hg hf
      exact ⟨parts, content, hfind, hm⟩

theorem partsAt_eraseAll {p : PurePath} (hk : Keeps t gone p) : partsAt (t.eraseAll gone) p = partsAt t p := by
  have hloses := find_eraseAll hw hg p.render
  rw [partsAt, partsAt]
  generalize hx : t.find p.render = x at hloses
  generalize (t.eraseAll gone).find p.render = y at hloses
  cases hloses with
  | kept _ => rfl
  | lost hm => exact absurd hm (hk _ _ hx)
  | tooLong => rfl
  | failed _ _ => rfl

omit hw hg in
theorem names_eraseAll (parts : List String) :
    (t.eraseAll gone).names parts = (t.names parts).filter fun name => !gone.contains (parts ++ [name]) := by
  rw [names, names, entries_eraseAll]
  generalize t.entries = entries
  induction entries with
  | nil => rfl
  | cons e entries ih =>
    have hat : ∀ name, e.1.dropLast = parts → e.1.getLast? = some name → parts ++ [name] = e.1 := by
      intro name hparts hname
      rw [← hparts]
      exact List.dropLast_append_getLast? name (Option.mem_def.mpr hname)
    rw [List.filter_cons, List.filterMap_cons]
    split
    · rename_i hkeep
      rw [List.filterMap_cons, ih]
      split
      · rfl
      · rename_i name hname
        split at hname
        · rename_i hparts
          rw [List.filter_cons, hat name hparts hname, if_pos hkeep]
        · cases hname
    · rename_i hkeep
      rw [ih]
      split
      · rfl
      · rename_i name hname
        split at hname
        · rename_i hparts
          rw [List.filter_cons, hat name hparts hname, if_neg hkeep]
        · cases hname

theorem directoriesBelow_eraseAll (parts : List String) :
    (t.eraseAll gone).directoriesBelow parts = t.directoriesBelow parts := by
  rw [directoriesBelow, directoriesBelow, entries_eraseAll, List.filterMap_filter]
  apply List.filterMap_congr
  intro e he
  split
  · rfl
  · rename_i hgone
    rw [Bool.not_eq_true', Bool.not_eq_false, List.contains_iff_mem] at hgone
    obtain ⟨content, hfile⟩ := hg _ hgone
    rw [node?_of_mem_entries hw he] at hfile
    rw [Option.some.inj hfile]
    rfl

end Removal

/-! ## Searches that agree -/

/-- A search finds what another one finds among what is to be kept, unless the other fails. -/
inductive SameKept {ε α : Type} (keep : α → Bool) : Except ε (List α) → Except ε (List α) → Prop
  | failed (x : Except ε (List α)) (fault : ε) : SameKept keep x (.error fault)
  | found {l l' : List α} (h : l.filter keep = l'.filter keep) : SameKept keep (.ok l) (.ok l')

section SameKept
variable {ε α β : Type} {keep : α → Bool} {f g : β → Except ε (List α)}

theorem SameKept.refl (x : Except ε (List α)) : SameKept keep x x := by
  cases x with
  | error fault => exact SameKept.failed _ fault
  | ok l => exact SameKept.found rfl

theorem mapM_flatten_cons (f : β → Except ε (List α)) (b : β) (l : List β) :
    ((b :: l).mapM f).map List.flatten =
      (f b).bind fun found => ((l.mapM f).map List.flatten).map (found ++ ·) := by
  rw [List.mapM_cons]
  cases f b with
  | error fault => rfl
  | ok found => cases l.mapM f <;> rfl

/-- Searches one after the other. -/
theorem SameKept.append {x x' y y' : Except ε (List α)} (h : SameKept keep x x') (hrest : SameKept keep y y') :
    SameKept keep (x.bind fun found => y.map (found ++ ·)) (x'.bind fun found => y'.map (found ++ ·)) := by
  cases h with
  | failed _ fault => exact SameKept.failed _ fault
  | found h =>
    cases hrest with
    | failed _ fault => exact SameKept.failed _ fault
    | found hrest =>
      refine SameKept.found ?_
      rw [List.filter_append, List.filter_append, h, hrest]

/-- A search that finds nothing to be kept may be left out. -/
theorem SameKept.skip {x y y' : Except ε (List α)} (h : ∀ found, x = .ok found → found.filter keep = [])
    (hrest : SameKept keep y y') : SameKept keep y (x.bind fun found => y'.map (found ++ ·)) := by
  cases x with
  | error fault => exact SameKept.failed _ fault
  | ok found =>
    cases hrest with
    | failed _ fault => exact SameKept.failed _ fault
    | found hrest =>
      refine SameKept.found ?_
      rw [List.filter_append, h found rfl, List.nil_append, hrest]

/-- Searches may leave out places where there is nothing to be kept. -/
theorem SameKept.mapM (keepPlace : β → Bool) {l : List β}
    (hkept : ∀ b ∈ l, keepPlace b = true → SameKept keep (f b) (g b))
    (hleft : ∀ b ∈ l, keepPlace b = false → ∀ found, g b = .ok found → found.filter keep = []) :
    SameKept keep (((l.filter keepPlace).mapM f).map List.flatten) ((l.mapM g).map List.flatten) := by
  induction l with
  | nil => exact SameKept.refl _
  | cons b l ih =>
    have hrest := ih (fun b' hb' => hkept b' (List.mem_cons_of_mem b hb'))
      fun b' hb' => hleft b' (List.mem_cons_of_mem b hb')
    rw [mapM_flatten_cons g]
    cases hkeep : keepPlace b with
    | true =>
      rw [List.filter_cons_of_pos hkeep, mapM_flatten_cons f]
      exact (hkept b (List.mem_cons_self ..) hkeep).append hrest
    | false =>
      rw [List.filter_cons_of_neg (by rw [hkeep]; exact Bool.false_ne_true)]
      exact SameKept.skip (hleft b (List.mem_cons_self ..) hkeep) hrest

theorem SameKept.mapM_all {l : List β} (h : ∀ b ∈ l, SameKept keep (f b) (g b)) :
    SameKept keep ((l.mapM f).map List.flatten) ((l.mapM g).map List.flatten) := by
  have hall := SameKept.mapM (fun _ => true) (fun b hb _ => h b hb) fun b _ hb => nomatch hb
  rwa [List.filter_eq_self.mpr fun _ _ => rfl] at hall

end SameKept

theorem eraseDups_filter {α : Type} [BEq α] [LawfulBEq α] (keep : α → Bool) (l : List α) :
    (l.filter keep).eraseDups = l.eraseDups.filter keep := by
  match l with
  | [] => rfl
  | a :: l =>
    have ih := eraseDups_filter keep (l.filter fun b => !b == a)
    have hswap : (l.filter keep).filter (fun b => !b == a) = (l.filter fun b => !b == a).filter keep := by
      rw [List.filter_filter, List.filter_filter]
      exact List.filter_congr fun b _ => Bool.and_comm ..
    rw [List.eraseDups_cons]
    cases hkeep : keep a with
    | true =>
      rw [List.filter_cons_of_pos hkeep, List.filter_cons_of_pos hkeep, List.eraseDups_cons, hswap, ih]
    | false =>
      -- Without its first element a list has no other element that is equal to it, if all are kept.
      have hother : (l.filter keep).filter (fun b => !b == a) = l.filter keep := by
        rw [List.filter_eq_self]
        intro b hb
        rw [Bool.not_eq_true', beq_eq_false_iff_ne]
        rintro rfl
        rw [(List.mem_filter.mp hb).2] at hkeep
        cases hkeep
      rw [List.filter_cons_of_neg (by rw [hkeep]; exact Bool.false_ne_true),
        List.filter_cons_of_neg (by rw [hkeep]; exact Bool.false_ne_true), ← ih, ← hswap, hother]
termination_by l.length
decreasing_by exact Nat.lt_succ_of_le (List.length_filter_le _ _)

theorem SameKept.eraseDups {ε α : Type} [BEq α] [LawfulBEq α] {keep : α → Bool} {x y : Except ε (List α)}
    (h : SameKept keep x y) : SameKept keep (x.map List.eraseDups) (y.map List.eraseDups) := by
  cases h with
  | failed _ fault => exact SameKept.failed _ fault
  | found h =>
    refine SameKept.found ?_
    rw [← eraseDups_filter, ← eraseDups_filter, h]

end ModelReach.Files
