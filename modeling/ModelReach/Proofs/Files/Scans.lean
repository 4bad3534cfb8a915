import ModelReach.Proofs.Files.Search
import ModelReach.Proofs.Text.Sorting

/-! Scans of a tree from which files are removed. A scan finds the source files that it found before, apart from
those removed, and names their modules as before. -/
namespace ModelReach.Files
set_option autoImplicit false

open FileTree

/-! ## Parts of patterns -/

/-- A name in a pattern is a part of a path. -/
def GlobPart.Named (part : GlobPart) : Prop := ∀ name, part = .name name → IsPart name

theorem named_of_globPart {s : String} {part : GlobPart} (hs : IsPart s) (h : globPart s = .ok part) :
    part.Named := by
  rintro name rfl
  unfold globPart at h
  split at h
  · cases h
  · split at h
    · cases h
    · split at h
      · cases h
      · cases h
        exact hs

theorem named_of_globParts {pattern : String} {parts : List GlobPart} (h : globParts pattern = .ok parts) :
    ∀ part ∈ parts, part.Named := by
  unfold globParts at h
  split at h
  · cases h
  · dsimp only at h
    split at h
    · cases h
    · obtain ⟨found, hfound, h⟩ := Facts.bind_ok.mp h
      have hnamed : ∀ part ∈ found, part.Named := by
        intro part hpart
        obtain ⟨s, hs, hglob⟩ := Facts.mem_of_mapM_ok hfound part hpart
        exact named_of_globPart (isPart_of_mem hs) hglob
      split at h
      · cases h
      · cases h
        split
        · intro part hpart
          rcases List.mem_append.mp hpart with hpart | hpart
          · exact hnamed part hpart
          · rw [List.mem_singleton.mp hpart]
            exact fun _ he => nomatch he
        · exact hnamed

/-! ## Selections -/

section Selection
variable {t : FileTree}

theorem isName_of_mem_names (hw : WellFormed t) {here : List String} {name : String} (h : name ∈ t.names here) :
    IsName name := by
  obtain ⟨e, he, hname⟩ := List.mem_filterMap.mp h
  split at hname
  · exact (hw.named e he).2 name (List.mem_of_getLast? hname)
  · cases hname

theorem mem_directoriesBelow (hw : WellFormed t) {here names : List String}
    (h : names ∈ t.directoriesBelow here) :
    names ≠ [] ∧ (∀ n ∈ names, IsName n) ∧ t.node? (here ++ names) = some .directory := by
  obtain ⟨e, he, hnames⟩ := List.mem_filterMap.mp h
  split at hnames
  · rename_i hbelow
    rw [Bool.and_eq_true, Bool.and_eq_true, decide_eq_true_eq, List.isPrefixOf_iff_prefix] at hbelow
    obtain ⟨⟨hdirectory, rest, hrest⟩, hlength⟩ := hbelow
    cases hnames
    rw [← hrest, List.drop_left]
    rw [← hrest, List.length_append] at hlength
    refine ⟨List.ne_nil_of_length_pos (by omega), fun n hn => ?_, ?_⟩
    · exact (hw.named e he).2 n (hrest ▸ List.mem_append_right _ hn)
    · rw [hrest, node?_of_mem_entries hw he]
      cases hnode : e.2 with
      | directory => rfl
      | file content =>
        rw [hnode] at hdirectory
        cases hdirectory
      | link target =>
        rw [hnode] at hdirectory
        cases hdirectory
  · cases hnames

theorem gather_eq {α : Type} (f : α → Except FileFault (List PurePath)) (l : List α) :
    gather f l = (l.mapM f).map List.flatten := by
  unfold gather
  cases l.mapM f <;> rfl

theorem reached_eq (t : FileTree) (p : PurePath) : reached t p = (t.stat p).map fun _ => [p] := by
  rw [reached, lookAt]
  cases t.stat p <;> rfl

/-- A double star finds what is found from where it stands, and then what is found from the directories below. -/
theorem select_recursive (t : FileTree) (rest : List GlobPart) (p : PurePath) :
    select t (.recursive :: rest) p = ((select t rest p).bind fun found => (lookAt t p).bind fun _ =>
      ((((t.directoriesBelow (partsAt t p)).map p.descend).mapM (select t rest)).map List.flatten).map
        (found ++ ·)).map List.eraseDups := by
  rw [select]
  cases select t rest p with
  | error fault => rfl
  | ok found =>
    dsimp only [bind, Except.bind]
    rw [gather_eq]
    cases lookAt t p with
    | error fault => rfl
    | ok u => cases ((t.directoriesBelow (partsAt t p)).map p.descend).mapM (select t rest) <;> rfl

theorem eq_of_mem_reached {p q : PurePath} {found : List PurePath} (h : reached t p = .ok found) (hq : q ∈ found) :
    q = p := by
  rw [reached_eq] at h
  cases hstat : t.stat p with
  | error fault =>
    rw [hstat] at h
    cases h
  | ok node =>
    rw [hstat] at h
    cases h
    exact List.mem_singleton.mp hq

theorem glob_eq (t : FileTree) (root : PurePath) (pattern : String) : glob t root pattern =
    match globParts pattern, isDirectoryAt t root with
    | .error fault, _ => .error (.pattern fault)
    | .ok _, .error fault => .error (.file fault)
    | .ok _, .ok false => .ok []
    | .ok parts, .ok true => (select t parts root).mapError ScanFault.file := by
  rw [glob]
  rcases globParts pattern with fault | parts
  · rfl
  · rcases isDirectoryAt t root with fault | isDirectory
    · rfl
    · cases isDirectory with
      | false => rfl
      | true =>
        dsimp only [bind, Except.bind]
        rw [if_pos rfl]
        cases select t parts root <;> rfl

theorem throughEntry_eq (t : FileTree) (p : PurePath) (pieces : List Wildcard) (isLast : Bool)
    (onward : PurePath → Except FileFault (List PurePath)) (name : String) :
    throughEntry t p pieces isLast onward name = (entryLeadsOn t p name isLast).bind fun leads =>
      if leads = true ∧ matchesAll pieces name.toList = true then onward (p.child name) else .ok [] := by
  rw [throughEntry]
  rcases entryLeadsOn t p name isLast with fault | leads
  · rfl
  · cases leads <;> cases matchesAll pieces name.toList <;> rfl

/-- What is found through a name is found from there. -/
theorem throughEntry_ok {p : PurePath} {pieces : List Wildcard} {isLast : Bool}
    {onward : PurePath → Except FileFault (List PurePath)} {name : String} {found : List PurePath}
    (h : throughEntry t p pieces isLast onward name = .ok found) :
    found = [] ∨ entryLeadsOn t p name isLast = .ok true ∧ onward (p.child name) = .ok found := by
  rw [throughEntry_eq] at h
  obtain ⟨leads, hleads, h⟩ := Facts.bind_ok.mp h
  split at h
  · rename_i hfits
    exact Or.inr ⟨hfits.1 ▸ hleads, h⟩
  · exact Or.inl (Except.ok.inj h).symm

variable {gone : List (List String)} (hw : WellFormed t) (hg : AllFiles t gone)

section Kept
include hw

omit hw in
theorem partsAt_of_find {p : PurePath} : ∀ here, t.find p.render = .ok (here, .directory) → here = partsAt t p :=
  fun _ h => by rw [partsAt, h]

/-- What stands under a name in a directory, and is no link, is found there. -/
theorem parts_of_find_child {p : PurePath} (h : Clean p) {name : String} (hn : IsName name) {node' : Node}
    (hnode : t.node? (partsAt t p ++ [name]) = some node') (hlink : ∀ target, node' ≠ .link target)
    {parts : List String} {node : Node} (hf : t.find (p.child name).render = .ok (parts, node)) :
    parts = partsAt t p ++ [name] :=
  eq_of_find_descend hw h (List.cons_ne_nil _ _) (fun _ hm => List.mem_singleton.mp hm ▸ hn) hf partsAt_of_find hnode
    hlink

include hg

theorem keeps_descend {p : PurePath} (h : Clean p) {names : List String}
    (hn : names ∈ t.directoriesBelow (partsAt t p)) : Keeps t gone (p.descend names) := by
  obtain ⟨hne, hnames, hdirectory⟩ := mem_directoriesBelow hw hn
  intro parts node hf
  rw [eq_of_find_descend hw h hne hnames hf partsAt_of_find hdirectory fun _ => Node.noConfusion]
  exact hg.notMem_of_directory hdirectory

/-- A removed file is no source file any more. -/
theorem isSourceFile_of_not_keeps {p : PurePath} (hk : ¬Keeps t gone p) :
    isSourceFile (t.eraseAll gone) p = false := by
  rw [isSourceFile, (stat_of_not_keeps hw hg hk).2, Bool.and_false]

theorem isSourceFile_of_keeps {p : PurePath} (hk : Keeps t gone p) :
    isSourceFile (t.eraseAll gone) p = isSourceFile t p := by
  rw [isSourceFile, isSourceFile, stat_of_keeps hw hg hk]

theorem lookAt_of_keeps {p : PurePath} (hk : Keeps t gone p) : lookAt (t.eraseAll gone) p = lookAt t p := by
  rw [lookAt, lookAt, stat_of_keeps hw hg hk]

/-- From wherever a search goes on along parts of a pattern, it finds the source files that are left. -/
def FindsLeft (t : FileTree) (gone : List (List String)) (parts : List GlobPart) : Prop :=
  ∀ ⦃p : PurePath⦄, Clean p → Keeps t gone p →
    SameKept (isSourceFile (t.eraseAll gone)) (select (t.eraseAll gone) parts p) (select t parts p)

theorem findsLeft_reached {p : PurePath} (hk : Keeps t gone p) :
    SameKept (isSourceFile (t.eraseAll gone)) (reached (t.eraseAll gone) p) (reached t p) := by
  rw [reached, reached, lookAt_of_keeps hw hg hk]
  exact SameKept.refl _

theorem findsLeft_name {name : String} (hname : IsPart name) {rest : List GlobPart} (ih : FindsLeft t gone rest) :
    FindsLeft t gone (.name name :: rest) := by
  intro p h _
  rw [select, select]
  by_cases hkc : Keeps t gone (p.child name)
  · have hleads : leadsOn (t.eraseAll gone) (p.child name) rest.isEmpty =
        leadsOn t (p.child name) rest.isEmpty := by
      rw [leadsOn, leadsOn, stat_of_keeps hw hg hkc]
    rw [hleads]
    cases leadsOn t (p.child name) rest.isEmpty with
    | error fault => exact SameKept.failed _ fault
    | ok leads =>
      cases leads with
      | false => exact SameKept.found rfl
      | true => exact ih (h.child hname) hkc
  · obtain ⟨⟨content, hstat⟩, hstat'⟩ := stat_of_not_keeps hw hg hkc
    rw [leadsOn, leadsOn, hstat, hstat']
    cases rest with
    | cons _ _ => exact SameKept.found rfl
    | nil =>
      have hreached : select t [] (p.child name) = .ok [p.child name] := by
        rw [select, reached_eq, hstat]
        rfl
      rw [hreached]
      refine SameKept.found ?_
      rw [List.filter_nil, List.filter_cons_of_neg, List.filter_nil]
      rw [isSourceFile_of_not_keeps hw hg hkc]
      exact Bool.false_ne_true

theorem entryLeadsOn_eraseAll {p : PurePath} (hk : Keeps t gone p) {name : String}
    (hkept : partsAt t p ++ [name] ∉ gone) (isLast : Bool) :
    entryLeadsOn (t.eraseAll gone) p name isLast = entryLeadsOn t p name isLast := by
  rw [entryLeadsOn, entryLeadsOn, partsAt_eraseAll hw hg hk, node?_eraseAll hkept, isDirectoryAt_eraseAll hw hg]

/-- A name that leads to a removed file without being one is a link. A search that ends there finds the link on
both sides, and others do not go on from it. -/
theorem findsLeft_link {p : PurePath} (h : Clean p) {name : String} (hn : IsName name)
    (hkept : partsAt t p ++ [name] ∉ gone) (hkc : ¬Keeps t gone (p.child name)) {rest : List GlobPart}
    (hleads : entryLeadsOn t p name rest.isEmpty = .ok true) :
    SameKept (isSourceFile (t.eraseAll gone)) (select (t.eraseAll gone) rest (p.child name))
      (select t rest (p.child name)) := by
  obtain ⟨⟨content, hstat⟩, hstat'⟩ := stat_of_not_keeps hw hg hkc
  cases rest with
  | nil =>
    rw [select, select, reached_eq, reached_eq, hstat, hstat']
    exact SameKept.found rfl
  | cons part' rest' =>
    refine absurd (fun parts node hf => ?_) hkc
    rw [entryLeadsOn, List.isEmpty_cons, if_neg Bool.false_ne_true] at hleads
    rcases hnode : t.node? (partsAt t p ++ [name]) with _ | _ | content' | target <;> rw [hnode] at hleads
    · cases hleads
    · rwa [parts_of_find_child hw h hn hnode (fun _ => Node.noConfusion) hf]
    · cases hleads
    · dsimp only at hleads
      rw [isDirectoryAt, hstat] at hleads
      cases hleads

theorem findsLeft_wildcard (pieces : List Wildcard) {rest : List GlobPart} (ih : FindsLeft t gone rest) :
    FindsLeft t gone (.wildcard pieces :: rest) := by
  intro p h hk
  rw [select, select, lookAt_of_keeps hw hg hk, partsAt_eraseAll hw hg hk]
  rcases lookAt t p with fault | _
  · exact SameKept.failed _ fault
  dsimp only [bind, Except.bind]
  rw [names_eraseAll, gather_eq, gather_eq]
  apply SameKept.mapM fun name => !gone.contains (partsAt t p ++ [name])
  · intro name hname hkept
    rw [Bool.not_eq_true', ← Bool.not_eq_true, List.contains_iff_mem] at hkept
    have hisName := isName_of_mem_names hw hname
    rw [throughEntry_eq, throughEntry_eq, entryLeadsOn_eraseAll hw hg hk hkept]
    rcases hleads : entryLeadsOn t p name rest.isEmpty with fault | leads
    · exact SameKept.failed _ fault
    dsimp only [Except.bind]
    split
    · rename_i hfits
      by_cases hkc : Keeps t gone (p.child name)
      · exact ih (h.child hisName.toIsPart) hkc
      · exact findsLeft_link hw hg h hisName hkept hkc (hfits.1 ▸ hleads)
    · exact SameKept.refl _
  · intro name hname hleft found hfound
    rw [Bool.not_eq_false', List.contains_iff_mem] at hleft
    obtain ⟨content, hfile⟩ := hg _ hleft
    rcases throughEntry_ok hfound with rfl | ⟨hleads, hfound⟩
    · rfl
    cases rest with
    | cons part' rest' =>
      -- What parts follow must lead to a directory, and only files are removed.
      rw [entryLeadsOn, List.isEmpty_cons, if_neg Bool.false_ne_true, hfile] at hleads
      cases hleads
    | nil =>
      refine List.filter_eq_nil_iff.mpr fun q hq hsource => ?_
      rw [eq_of_mem_reached hfound hq] at hsource
      obtain ⟨parts, content, hf, hm⟩ := find_of_isSourceFile hw hg hsource
      rw [parts_of_find_child hw h (isName_of_mem_names hw hname) hfile (fun _ => Node.noConfusion) hf] at hm
      exact hm hleft

theorem findsLeft_recursive {rest : List GlobPart} (ih : FindsLeft t gone rest) :
    FindsLeft t gone (.recursive :: rest) := by
  intro p h hk
  have hdown : ∀ q ∈ (t.directoriesBelow (partsAt t p)).map p.descend, Clean q ∧ Keeps t gone q := by
    intro q hq
    obtain ⟨names, hnames, rfl⟩ := List.mem_map.mp hq
    exact ⟨h.descend fun n hn => ((mem_directoriesBelow hw hnames).2.1 n hn).toIsPart,
      keeps_descend hw hg h hnames⟩
  have hmore := SameKept.mapM_all fun q hq => ih (hdown q hq).1 (hdown q hq).2
  rw [select_recursive, select_recursive, lookAt_of_keeps hw hg hk, partsAt_eraseAll hw hg hk,
    directoriesBelow_eraseAll hw hg]
  rcases lookAt t p with fault | _
  · cases select t rest p <;> exact SameKept.failed _ _
  · exact ((ih h hk).append hmore).eraseDups

/-- A search along the parts of a pattern finds the source files that are left. -/
theorem select_eraseAll {parts : List GlobPart} (hparts : ∀ part ∈ parts, part.Named) : FindsLeft t gone parts := by
  induction parts with
  | nil => exact fun _ _ hk => findsLeft_reached hw hg hk
  | cons part rest ih =>
    have hrest : FindsLeft t gone rest := ih fun part' hm => hparts part' (List.mem_cons_of_mem part hm)
    cases part with
    | here => exact fun _ _ hk => findsLeft_reached hw hg hk
    | name name => exact findsLeft_name hw hg (hparts _ (List.mem_cons_self ..) name rfl) hrest
    | wildcard pieces => exact findsLeft_wildcard hw hg pieces hrest
    | recursive => exact findsLeft_recursive hw hg hrest

/-- What a pattern finds below a root. -/
theorem glob_eraseAll (root pattern : String) :
    SameKept (isSourceFile (t.eraseAll gone)) (glob (t.eraseAll gone) (PurePath.ofString root) pattern)
      (glob t (PurePath.ofString root) pattern) := by
  rw [glob_eq, glob_eq, isDirectoryAt_eraseAll hw hg]
  rcases hparts : globParts pattern with fault | parts
  · exact SameKept.failed _ _
  · rcases hdirectory : isDirectoryAt t (PurePath.ofString root) with fault | isDirectory
    · exact SameKept.failed _ _
    · cases isDirectory with
      | false => exact SameKept.found rfl
      | true =>
        have hk : Keeps t gone (PurePath.ofString root) := by
          intro found node hf hm
          obtain ⟨content, hfile⟩ := hg _ hm
          rw [(find_ok hf).2.2.1] at hfile
          rw [Option.some.inj hfile] at hf
          rw [isDirectoryAt, stat, hf] at hdirectory
          cases hdirectory
        have hselect := select_eraseAll hw hg (named_of_globParts hparts) (clean_ofString root) hk
        dsimp only
        generalize select (t.eraseAll gone) parts (PurePath.ofString root) = x at hselect ⊢
        generalize select t parts (PurePath.ofString root) = y at hselect ⊢
        cases hselect with
        | failed _ fault => exact SameKept.failed _ _
        | found hsame => exact SameKept.found hsame

end Kept

include hw in
theorem clean_of_select {parts : List GlobPart} (hparts : ∀ part ∈ parts, part.Named) {p : PurePath}
    (h : Clean p) {found : List PurePath} (hfound : select t parts p = .ok found) : ∀ q ∈ found, Clean q := by
  induction parts generalizing p found with
  | nil => exact fun q hq => eq_of_mem_reached hfound hq ▸ h
  | cons part rest ih =>
    have hrest := fun part' hm => hparts part' (List.mem_cons_of_mem part hm)
    cases part with
    | here => exact fun q hq => eq_of_mem_reached hfound hq ▸ h
    | name name =>
      rw [select] at hfound
      obtain ⟨leads, _, hfound⟩ := Facts.bind_ok.mp hfound
      cases leads with
      | false =>
        cases hfound
        exact fun q hq => absurd hq List.not_mem_nil
      | true => exact ih hrest (h.child (hparts _ (List.mem_cons_self ..) name rfl)) hfound
    | wildcard pieces =>
      rw [select] at hfound
      obtain ⟨_, _, hfound⟩ := Facts.bind_ok.mp hfound
      obtain ⟨lists, hlists, hfound⟩ := Facts.bind_ok.mp hfound
      cases hfound
      intro q hq
      obtain ⟨l, hl, hq⟩ := List.mem_flatten.mp hq
      obtain ⟨name, hname, hthrough⟩ := Facts.mem_of_mapM_ok hlists l hl
      rcases throughEntry_ok hthrough with rfl | ⟨_, hselect⟩
      · exact absurd hq List.not_mem_nil
      · exact ih hrest (h.child (isName_of_mem_names hw hname).toIsPart) hselect q hq
    | recursive =>
      rw [select] at hfound
      obtain ⟨first, hfirst, hfound⟩ := Facts.bind_ok.mp hfound
      obtain ⟨_, _, hfound⟩ := Facts.bind_ok.mp hfound
      obtain ⟨more, hmore, hfound⟩ := Facts.bind_ok.mp hfound
      cases hfound
      obtain ⟨lists, hlists, hmore⟩ := Facts.bind_ok.mp hmore
      cases hmore
      intro q hq
      rcases List.mem_append.mp (List.mem_eraseDups.mp hq) with hq | hq
      · exact ih hrest h hfirst q hq
      · obtain ⟨l, hl, hq⟩ := List.mem_flatten.mp hq
        obtain ⟨start, hstart, hselect⟩ := Facts.mem_of_mapM_ok hlists l hl
        obtain ⟨names, hnames, rfl⟩ := List.mem_map.mp hstart
        exact ih hrest (h.descend fun n hn => ((mem_directoriesBelow hw hnames).2.1 n hn).toIsPart) hselect q hq

include hw in
theorem clean_of_glob {root pattern : String} {found : List PurePath}
    (hfound : glob t (PurePath.ofString root) pattern = .ok found) : ∀ q ∈ found, Clean q := by
  rw [glob_eq] at hfound
  split at hfound
  · cases hfound
  · cases hfound
  · cases hfound
    exact fun q hq => absurd hq List.not_mem_nil
  · rename_i parts hparts _
    cases hselect : select t parts (PurePath.ofString root) with
    | error fault =>
      rw [hselect] at hfound
      cases hfound
    | ok paths =>
      rw [hselect] at hfound
      cases hfound
      exact clean_of_select hw (named_of_globParts hparts) (clean_ofString root) hselect

end Selection

/-! ## Relative paths -/

theorem dropCommon_eq (start target : List String) : ∃ common,
    start = common ++ (dropCommon start target).1 ∧ target = common ++ (dropCommon start target).2 := by
  induction start generalizing target with
  | nil => exact ⟨[], rfl, by unfold dropCommon; rfl⟩
  | cons a start ih =>
    cases target with
    | nil => exact ⟨[], rfl, rfl⟩
    | cons b target =>
      by_cases hab : a = b
      · obtain ⟨common, hstart, htarget⟩ := ih target
        refine ⟨a :: common, ?_, ?_⟩
        · rw [dropCommon, if_pos hab, List.cons_append, ← hstart]
        · rw [dropCommon, if_pos hab, List.cons_append, ← htarget, hab]
      · exact ⟨[], by rw [dropCommon, if_neg hab]; rfl, by rw [dropCommon, if_neg hab]; rfl⟩

theorem isPart_parent : IsPart ".." := ⟨rfl, by decide⟩

theorem isPart_of_mem_relativeParts {start target : List String} (h : ∀ n ∈ target, IsName n) {part : String}
    (hpart : part ∈ relativeParts start target) : IsPart part := by
  rcases List.mem_append.mp hpart with hup | hdown
  · obtain ⟨_, _, rfl⟩ := List.mem_map.mp hup
    exact isPart_parent
  · obtain ⟨common, _, htarget⟩ := dropCommon_eq start target
    exact (h part (htarget ▸ List.mem_append_right common hdown)).toIsPart

/-- Steps to the parent and names that are the same are as many steps and the same names. -/
theorem ups_inj {n m : Nat} {a b : List String} (ha : ∀ s ∈ a, IsName s) (hb : ∀ s ∈ b, IsName s)
    (h : List.replicate n ".." ++ a = List.replicate m ".." ++ b) : n = m ∧ a = b := by
  induction n generalizing m with
  | zero =>
    cases m with
    | zero => exact ⟨rfl, h⟩
    | succ m =>
      rw [List.replicate_zero, List.nil_append, List.replicate_succ, List.cons_append] at h
      exact absurd rfl (ha ".." (h ▸ List.mem_cons_self ..)).proper
  | succ n ih =>
    cases m with
    | zero =>
      rw [List.replicate_zero, List.nil_append, List.replicate_succ, List.cons_append] at h
      exact absurd rfl (hb ".." (h ▸ List.mem_cons_self ..)).proper
    | succ m =>
      rw [List.replicate_succ, List.replicate_succ, List.cons_append, List.cons_append] at h
      obtain ⟨hnm, hab⟩ := ih (List.cons.inj h).2
      exact ⟨congrArg Nat.succ hnm, hab⟩

theorem relativeParts_inj {start a b : List String} (ha : ∀ n ∈ a, IsName n) (hb : ∀ n ∈ b, IsName n)
    (h : relativeParts start a = relativeParts start b) : a = b := by
  obtain ⟨common, hstart, haparts⟩ := dropCommon_eq start a
  obtain ⟨common', hstart', hbparts⟩ := dropCommon_eq start b
  have hups : ∀ target, relativeParts start target =
      List.replicate (dropCommon start target).1.length ".." ++ (dropCommon start target).2 := by
    intro target
    rw [← List.map_const']
    rfl
  rw [hups, hups] at h
  obtain ⟨hlength, hdown⟩ := ups_inj (fun n hn => ha n (haparts ▸ List.mem_append_right _ hn))
    (fun n hn => hb n (hbparts ▸ List.mem_append_right _ hn)) h
  have hcommon : common = common' := by
    have happ : common ++ (dropCommon start a).1 = common' ++ (dropCommon start b).1 := hstart.symm.trans hstart'
    exact (List.append_inj' happ hlength).1
  rw [haparts, hbparts, hcommon, hdown]

theorem eq_of_relativeParts_nil {start target : List String} (h : relativeParts start target = []) :
    start = target := by
  obtain ⟨common, hstart, htarget⟩ := dropCommon_eq start target
  obtain ⟨hup, hdown⟩ := List.append_eq_nil_iff.mp h
  rw [List.map_eq_nil_iff.mp hup, List.append_nil] at hstart
  rw [hdown, List.append_nil] at htarget
  exact hstart.trans htarget.symm

/-! ## Files that a scan finds -/

/-- A scan below a root finds a file at a path. -/
structure Scanned (t : FileTree) (root p : PurePath) (f : ModuleFile) : Prop where
  clean : Clean p
  source : isSourceFile t p = true
  module : moduleOfPath (relativePath t.workDir root p) = .ok (some f.module)
  named : f.module ≠ ""
  path : f.path = p.render
  relPath : f.relPath = (relativePath t.workDir root p).render
  isPackage : f.isPackage = decide (p.name? = some "__init__.py")

section Scanned
variable {t : FileTree} {root p q : PurePath} {f g : ModuleFile}

theorem scanned_of_moduleFile (hp : Clean p) (h : moduleFile? t root p = some f) : Scanned t root p f := by
  unfold moduleFile? at h
  split at h
  · rename_i hsource
    dsimp only at h
    split at h
    · rename_i module hmodule
      split at h
      · cases h
      · rename_i hne
        cases h
        exact ⟨hp, hsource, hmodule, hne, rfl, rfl, rfl⟩
    · cases h
  · cases h

theorem find_of_source (h : isSourceFile t p = true) :
    ∃ parts content, t.find p.render = .ok (parts, .file content) := by
  rw [isSourceFile, Bool.and_eq_true, stat] at h
  have hstat := h.2
  rcases hf : t.find p.render with fault | ⟨parts, _ | content | target⟩
  · rw [hf] at hstat
    rcases fault with ⟨problem, _⟩ | _
    · cases problem <;> cases hstat
    · cases hstat
  · rw [hf] at hstat
    cases hstat
  · exact ⟨parts, content, rfl⟩
  · rw [hf] at hstat
    cases hstat

theorem Scanned.find (h : Scanned t root p f) : ∃ parts content, t.find f.path = .ok (parts, .file content) := by
  rw [h.path]
  exact find_of_source h.source

/-- A file is determined by its path. -/
theorem Scanned.eq_of_path (hf : Scanned t root p f) (hg : Scanned t root q g) (h : f.path = g.path) : f = g := by
  have hpq : p = q := by
    rw [hf.path, hg.path] at h
    rw [← ofString_render hf.clean, h, ofString_render hg.clean]
  subst hpq
  have hmodule := hf.module.symm.trans hg.module
  obtain ⟨path, relPath, module, isPackage⟩ := f
  obtain ⟨path', relPath', module', isPackage'⟩ := g
  cases h
  cases hf.relPath.trans hg.relPath.symm
  cases hf.isPackage.trans hg.isPackage.symm
  cases hmodule
  rfl

variable (hw : WellFormed t)
include hw

theorem Scanned.names (h : Scanned t root p f) : ∀ n ∈ absoluteParts t.workDir p, IsName n :=
  isName_absoluteParts hw h.clean

/-- Without links a file stands at the absolute parts of its path. -/
theorem Scanned.parts_eq_of_find (hl : t.LinkFree) (h : Scanned t root p f) {parts : List String} {node : Node}
    (hf : t.find f.path = .ok (parts, node)) : parts = absoluteParts t.workDir p :=
  absoluteParts_of_find hw h.clean hl (h.path ▸ hf)

theorem Scanned.clean_relative (h : Scanned t root p f) : Clean (relativePath t.workDir root p) where
  root := Or.inl rfl
  parts _ hpart := isPart_of_mem_relativeParts (h.names hw) hpart

/-- Paths of files with the same path below the root have the same absolute parts. -/
theorem Scanned.parts_eq (hf : Scanned t root p f) (hg : Scanned t root q g) (h : f.relPath = g.relPath) :
    absoluteParts t.workDir p = absoluteParts t.workDir q := by
  have hrel : relativePath t.workDir root p = relativePath t.workDir root q := by
    rw [hf.relPath, hg.relPath] at h
    rw [← ofString_render (hf.clean_relative hw), h, ofString_render (hg.clean_relative hw)]
  exact relativeParts_inj (hf.names hw) (hg.names hw) (congrArg PurePath.parts hrel)

end Scanned

/-! ## Each file once -/

/-- Add a file to those found, unless its path below the root is known. -/
def addDistinct (done : List ModuleFile) (f : ModuleFile) : List ModuleFile :=
  if done.any (·.relPath = f.relPath) then done else done ++ [f]

theorem any_relPath_iff {done : List ModuleFile} {f : ModuleFile} :
    done.any (·.relPath = f.relPath) = true ↔ ∃ g ∈ done, g.relPath = f.relPath := by
  rw [List.any_eq_true]
  exact exists_congr fun g => and_congr_right fun _ => decide_eq_true_iff

theorem mem_addDistinct {done : List ModuleFile} {f g : ModuleFile} (h : g ∈ addDistinct done f) :
    g ∈ done ∨ g = f := by
  unfold addDistinct at h
  split at h
  · exact Or.inl h
  · exact (List.mem_append.mp h).imp_right List.mem_singleton.mp

theorem subset_addDistinct (done : List ModuleFile) (f : ModuleFile) : done ⊆ addDistinct done f := by
  unfold addDistinct
  split
  · exact List.Subset.refl done
  · exact List.subset_append_left done [f]

theorem subset_foldl_addDistinct (l done : List ModuleFile) : done ⊆ l.foldl addDistinct done := by
  induction l generalizing done with
  | nil => exact List.Subset.refl done
  | cons f l ih => exact List.Subset.trans (subset_addDistinct done f) (ih _)

theorem addDistinct_filter {keep : ModuleFile → Bool} {done : List ModuleFile} {g : ModuleFile}
    (h : ∀ f ∈ done, f.relPath = g.relPath → keep g = true → keep f = true) :
    (addDistinct done g).filter keep = if keep g then addDistinct (done.filter keep) g else done.filter keep := by
  cases hkeep : keep g with
  | true =>
    have hany : (done.filter keep).any (·.relPath = g.relPath) = done.any (·.relPath = g.relPath) := by
      rw [Bool.eq_iff_iff, any_relPath_iff, any_relPath_iff]
      constructor
      · rintro ⟨f, hf, hsame⟩
        exact ⟨f, (List.mem_filter.mp hf).1, hsame⟩
      · rintro ⟨f, hf, hsame⟩
        exact ⟨f, List.mem_filter.mpr ⟨hf, h f hf hsame hkeep⟩, hsame⟩
    rw [if_pos rfl, addDistinct, addDistinct, hany]
    split
    · rfl
    · rw [List.filter_append, List.filter_cons_of_pos hkeep, List.filter_nil]
  | false =>
    rw [if_neg Bool.false_ne_true, addDistinct]
    split
    · rfl
    · rw [List.filter_append, List.filter_cons_of_neg (by rw [hkeep]; exact Bool.false_ne_true), List.filter_nil,
        List.append_nil]

theorem foldl_addDistinct_filter {keep : ModuleFile → Bool} {l done : List ModuleFile}
    (h : ∀ f ∈ l.foldl addDistinct done, ∀ g ∈ l, f.relPath = g.relPath → keep g = true → keep f = true) :
    (l.foldl addDistinct done).filter keep = (l.filter keep).foldl addDistinct (done.filter keep) := by
  induction l generalizing done with
  | nil => rfl
  | cons g l ih =>
    have hfirst : ∀ f ∈ done, f.relPath = g.relPath → keep g = true → keep f = true := fun f hf =>
      h f (subset_foldl_addDistinct (g :: l) done hf) g (List.mem_cons_self ..)
    rw [List.foldl_cons, ih fun f hf g' hg' => h f hf g' (List.mem_cons_of_mem g hg'), addDistinct_filter hfirst,
      List.filter_cons]
    split <;> rfl

/-- To leave out files before each is taken once or afterwards is the same, if none is left out whose path below the
root is that of a file to be kept. -/
theorem distinctFiles_filter {keep : ModuleFile → Bool} {files : List ModuleFile}
    (h : ∀ f ∈ distinctFiles files, ∀ g ∈ files, f.relPath = g.relPath → keep g = true → keep f = true) :
    (distinctFiles files).filter keep = distinctFiles (files.filter keep) :=
  foldl_addDistinct_filter h

theorem foldl_addDistinct {l done : List ModuleFile} (h : (done.map ModuleFile.relPath).Nodup) :
    ((l.foldl addDistinct done).map ModuleFile.relPath).Nodup ∧
      ∀ f ∈ l.foldl addDistinct done, f ∈ done ∨ f ∈ l := by
  induction l generalizing done with
  | nil => exact ⟨h, fun f hf => Or.inl hf⟩
  | cons f l ih =>
    have hnext : ((addDistinct done f).map ModuleFile.relPath).Nodup := by
      unfold addDistinct
      split
      · exact h
      · rename_i hnew
        rw [List.map_append, List.map_singleton, List.nodup_append]
        refine ⟨h, List.pairwise_singleton _ _, fun r hr r' hr' he => hnew ?_⟩
        obtain ⟨g, hg, rfl⟩ := List.mem_map.mp hr
        exact any_relPath_iff.mpr ⟨g, hg, he.trans (List.mem_singleton.mp hr')⟩
    obtain ⟨hnodup, hmem⟩ := ih hnext
    refine ⟨hnodup, fun g hg => ?_⟩
    rcases hmem g hg with hg | hg
    · rcases mem_addDistinct hg with hg | rfl
      · exact Or.inl hg
      · exact Or.inr (List.mem_cons_self ..)
    · exact Or.inr (List.mem_cons_of_mem f hg)

theorem distinctFiles_spec (files : List ModuleFile) : ((distinctFiles files).map ModuleFile.relPath).Nodup ∧
    ∀ f ∈ distinctFiles files, f ∈ ([] : List ModuleFile) ∨ f ∈ files :=
  foldl_addDistinct (by exact List.nodup_nil)

theorem mem_of_mem_distinctFiles {files : List ModuleFile} {f : ModuleFile} (h : f ∈ distinctFiles files) :
    f ∈ files :=
  ((distinctFiles_spec files).2 f h).resolve_left List.not_mem_nil

/-! ## Names of what is found -/

theorem checkNames_eq (t : FileTree) (root : PurePath) (found : List PurePath) :
    (∃ fault, checkNames t root found = .error fault ∧ ∃ p ∈ found, isNameless t root p = true) ∨
      checkNames t root found = .ok found ∧ ∀ p ∈ found, isNameless t root p = false := by
  unfold checkNames
  cases hfirst : found.find? (isNameless t root) with
  | some p => exact Or.inl ⟨_, rfl, p, List.mem_of_find?_eq_some hfirst, List.find?_some hfirst⟩
  | none => exact Or.inr ⟨rfl, fun p hp => Bool.eq_false_iff.mpr (List.find?_eq_none.mp hfirst p hp)⟩

theorem checkNames_of_named {t : FileTree} {root : PurePath} {found : List PurePath}
    (h : ∀ p ∈ found, isNameless t root p = false) : checkNames t root found = .ok found := by
  rcases checkNames_eq t root found with ⟨_, _, p, hp, hnameless⟩ | ⟨hok, _⟩
  · rw [h p hp] at hnameless
    cases hnameless
  · exact hok

theorem seek_ok {t : FileTree} {root : PurePath} {pattern : String} {found : List PurePath} :
    seek t root pattern = .ok found ↔
      glob t root pattern = .ok found ∧ ∀ p ∈ found, isNameless t root p = false := by
  unfold seek
  constructor
  · intro h
    obtain ⟨found', hglob, h⟩ := Facts.bind_ok.mp h
    rcases checkNames_eq t root found' with ⟨_, hfault, _⟩ | ⟨hok, hnamed⟩
    · cases hfault.symm.trans h
    · cases hok.symm.trans h
      exact ⟨hglob, hnamed⟩
  · rintro ⟨hglob, hnamed⟩
    exact Facts.bind_ok.mpr ⟨found, hglob, checkNames_of_named hnamed⟩

theorem find_of_isDirectoryAt {t : FileTree} {p : PurePath} (h : isDirectoryAt t p = .ok true) :
    ∃ parts, t.find p.render = .ok (parts, .directory) := by
  rw [isDirectoryAt, stat] at h
  rcases hf : t.find p.render with fault | ⟨parts, _ | content | target⟩
  · rw [hf] at h
    rcases fault with ⟨problem, _⟩ | _
    · cases problem <;> cases h
    · cases h
  · exact ⟨parts, rfl⟩
  · rw [hf] at h
    cases h
  · rw [hf] at h
    cases h

/-- Something is found below directories only. -/
theorem isDirectoryAt_of_glob {t : FileTree} {root : PurePath} {pattern : String} {found : List PurePath}
    (h : glob t root pattern = .ok found) (hne : found ≠ []) : isDirectoryAt t root = .ok true := by
  rw [glob_eq] at h
  split at h
  · cases h
  · cases h
  · exact absurd (Except.ok.inj h).symm hne
  · assumption

/-- Without links everything that is found has a name: only the root has its path, and it is a directory. -/
theorem seek_eq_glob {t : FileTree} (hw : WellFormed t) (hl : t.LinkFree) {root pattern : String} :
    seek t (PurePath.ofString root) pattern = glob t (PurePath.ofString root) pattern := by
  unfold seek
  cases hglob : glob t (PurePath.ofString root) pattern with
  | error fault => rfl
  | ok found =>
    refine checkNames_of_named fun p hp => ?_
    by_contra hnameless
    rw [Bool.not_eq_false, isNameless, Bool.and_eq_true, List.isEmpty_iff] at hnameless
    obtain ⟨parts, content, hfile⟩ := find_of_source hnameless.1
    obtain ⟨start, hstart⟩ := find_of_isDirectoryAt (isDirectoryAt_of_glob hglob (List.ne_nil_of_mem hp))
    have hsame := eq_of_relativeParts_nil hnameless.2
    have hnode := (find_ok hstart).2.2.1
    rw [absoluteParts_of_find hw (clean_ofString root) hl hstart, hsame,
      ← absoluteParts_of_find hw (clean_of_glob hw hglob p hp) hl hfile, (find_ok hfile).2.2.1] at hnode
    cases hnode

/-! ## Scans -/

theorem scan_eq (t : FileTree) (root : String) (patterns : List String) : scan t root patterns =
    ((patterns.mapM (seek t (PurePath.ofString root))).map List.flatten).map fun found =>
      (distinctFiles (found.filterMap (moduleFile? t (PurePath.ofString root)))).mergeSort
        fun f g => f.relPath ≤ g.relPath := by
  unfold scan
  dsimp only
  cases patterns.mapM (seek t (PurePath.ofString root)) <;> rfl

/-- What is found in order needs no sorting. -/
theorem scan_of_sorted {t : FileTree} {root : String} {patterns : List String} {files : List ModuleFile}
    (hfound : ((patterns.mapM (seek t (PurePath.ofString root))).map List.flatten).map
      (fun found => distinctFiles (found.filterMap (moduleFile? t (PurePath.ofString root)))) = .ok files)
    (hsorted : files.Pairwise fun f g => decide (f.relPath ≤ g.relPath) = true) : scan t root patterns = .ok files := by
  rw [scan_eq]
  cases hlists : (patterns.mapM (seek t (PurePath.ofString root))).map List.flatten with
  | error fault =>
    rw [hlists] at hfound
    cases hfound
  | ok found =>
    rw [hlists] at hfound
    cases hfound
    exact congrArg Except.ok (List.mergeSort_of_pairwise hsorted)

/-- The paths that a scan goes through are those that some pattern finds. -/
theorem mem_found {t : FileTree} {root : PurePath} {patterns : List String} {found : List PurePath}
    (hfound : (patterns.mapM (seek t root)).map List.flatten = .ok found) {p : PurePath} :
    p ∈ found ↔ ∃ pattern ∈ patterns, ∃ l, seek t root pattern = .ok l ∧ p ∈ l := by
  cases hlists : patterns.mapM (seek t root) with
  | error fault =>
    rw [hlists] at hfound
    cases hfound
  | ok lists =>
    rw [hlists] at hfound
    cases hfound
    rw [List.mem_flatten]
    constructor
    · rintro ⟨l, hl, hp⟩
      obtain ⟨pattern, hpattern, hglob⟩ := Facts.mem_of_mapM_ok hlists l hl
      exact ⟨pattern, hpattern, l, hglob, hp⟩
    · rintro ⟨pattern, hpattern, l, hglob, hp⟩
      obtain ⟨l', hl', hglob'⟩ := Facts.exists_of_mapM_ok hlists pattern hpattern
      cases hglob.symm.trans hglob'
      exact ⟨l, hl', hp⟩

/-- A scan comes upon a file, whether or not it is the first one with its path below the root. -/
def Met (t : FileTree) (root : String) (patterns : List String) (f : ModuleFile) : Prop :=
  ∃ pattern ∈ patterns, ∃ found, seek t (PurePath.ofString root) pattern = .ok found ∧
    ∃ p ∈ found, moduleFile? t (PurePath.ofString root) p = some f

theorem met_iff {t : FileTree} {root : String} {patterns : List String} {found : List PurePath}
    (hfound : (patterns.mapM (seek t (PurePath.ofString root))).map List.flatten = .ok found) {f : ModuleFile} :
    Met t root patterns f ↔ f ∈ found.filterMap (moduleFile? t (PurePath.ofString root)) := by
  rw [List.mem_filterMap]
  constructor
  · rintro ⟨pattern, hpattern, l, hseek, p, hp, hf⟩
    exact ⟨p, (mem_found hfound).mpr ⟨pattern, hpattern, l, hseek, hp⟩, hf⟩
  · rintro ⟨p, hp, hf⟩
    obtain ⟨pattern, hpattern, l, hseek, hl⟩ := (mem_found hfound).mp hp
    exact ⟨pattern, hpattern, l, hseek, p, hl, hf⟩

section Scan
variable {t : FileTree} (hw : WellFormed t) {root : String} {patterns : List String} {files : List ModuleFile}

section Found
variable (hscan : scan t root patterns = .ok files)
include hscan

theorem scan_parts : ∃ found, (patterns.mapM (seek t (PurePath.ofString root))).map List.flatten = .ok found ∧
    files = (distinctFiles (found.filterMap (moduleFile? t (PurePath.ofString root)))).mergeSort
      fun f g => f.relPath ≤ g.relPath := by
  rw [scan_eq] at hscan
  cases hfound : (patterns.mapM (seek t (PurePath.ofString root))).map List.flatten with
  | error fault =>
    rw [hfound] at hscan
    cases hscan
  | ok found =>
    rw [hfound] at hscan
    cases hscan
    exact ⟨found, rfl, rfl⟩

theorem nodup_relPath_scan : (files.map ModuleFile.relPath).Nodup := by
  obtain ⟨found, _, rfl⟩ := scan_parts hscan
  exact ((List.mergeSort_perm _ _).map _).nodup_iff.mpr (distinctFiles_spec _).1

include hw

omit hscan in
theorem clean_of_scan {found : List PurePath}
    (hfound : (patterns.mapM (seek t (PurePath.ofString root))).map List.flatten = .ok found) :
    ∀ p ∈ found, Clean p := by
  intro p hp
  obtain ⟨pattern, _, l, hglob, hp⟩ := (mem_found hfound).mp hp
  exact clean_of_glob hw (seek_ok.mp hglob).1 p hp

omit hscan in
theorem scanned_of_met {f : ModuleFile} (h : Met t root patterns f) : ∃ p, Scanned t (PurePath.ofString root) p f := by
  obtain ⟨pattern, _, found, hseek, p, hp, hfile⟩ := h
  exact ⟨p, scanned_of_moduleFile (clean_of_glob hw (seek_ok.mp hseek).1 p hp) hfile⟩

theorem scanned_of_scan {f : ModuleFile} (hf : f ∈ files) : ∃ p, Scanned t (PurePath.ofString root) p f := by
  obtain ⟨found, hfound, rfl⟩ := scan_parts hscan
  obtain ⟨p, hp, hfile⟩ := List.mem_filterMap.mp
    (mem_of_mem_distinctFiles ((List.mergeSort_perm _ _).mem_iff.mp hf))
  exact ⟨p, scanned_of_moduleFile (clean_of_scan hw hfound p hp) hfile⟩

/-- No path is found twice. -/
theorem nodup_path_scan : (files.map ModuleFile.path).Nodup := by
  have hnodup := nodup_relPath_scan hscan
  rw [List.Nodup, List.pairwise_map] at hnodup ⊢
  refine hnodup.imp_of_mem fun hf hg hne hpath => hne ?_
  obtain ⟨_, hsf⟩ := scanned_of_scan hw hscan hf
  obtain ⟨_, hsg⟩ := scanned_of_scan hw hscan hg
  rw [hsf.eq_of_path hsg hpath]

/-- Without links no file of the tree is found twice. -/
theorem eq_of_find (hl : t.LinkFree) {f g : ModuleFile} (hf : f ∈ files) (hg : g ∈ files) {parts : List String}
    {node node' : Node} (h : t.find f.path = .ok (parts, node)) (h' : t.find g.path = .ok (parts, node')) :
    f = g := by
  obtain ⟨p, hsf⟩ := scanned_of_scan hw hscan hf
  obtain ⟨q, hsg⟩ := scanned_of_scan hw hscan hg
  have hp := hsf.parts_eq_of_find hw hl h
  have hq := hsg.parts_eq_of_find hw hl h'
  refine List.inj_on_of_nodup_map (nodup_relPath_scan hscan) hf hg ?_
  rw [hsf.relPath, hsg.relPath, relativePath, relativePath, ← hp, ← hq]

end Found

/-! ## Scans after a removal -/

/-- Is the file none of those removed? -/
def isKept (t : FileTree) (gone : List (List String)) (f : ModuleFile) : Bool :=
  match t.find f.path with
  | .ok (parts, _) => !gone.contains parts
  | .error _ => true

variable {gone : List (List String)} (hg : AllFiles t gone)
include hw hg

theorem moduleFile_eraseAll (root : PurePath) {p : PurePath} (hp : Clean p) :
    moduleFile? (t.eraseAll gone) root p = (moduleFile? t root p).filter (isKept t gone) := by
  by_cases hk : Keeps t gone p
  · have hsame : moduleFile? (t.eraseAll gone) root p = moduleFile? t root p := by
      unfold moduleFile?
      rw [isSourceFile_of_keeps hw hg hk, workDir_eraseAll]
    rw [hsame]
    cases hf : moduleFile? t root p with
    | none => rfl
    | some f =>
      have hkept : isKept t gone f = true := by
        rw [isKept, (scanned_of_moduleFile hp hf).path]
        split
        · rename_i parts node hfound
          rw [contains_eq_false (hk parts node hfound)]
          rfl
        · rfl
      rw [Option.filter_some, if_pos hkept]
  · have hnone : moduleFile? (t.eraseAll gone) root p = none := by
      rw [moduleFile?, isSourceFile_of_not_keeps hw hg hk]
      rfl
    rw [hnone]
    cases hf : moduleFile? t root p with
    | none => rfl
    | some f =>
      have hleft : isKept t gone f ≠ true := by
        intro hkept
        refine hk fun parts node hfound hm => ?_
        rw [isKept, (scanned_of_moduleFile hp hf).path, hfound] at hkept
        dsimp only at hkept
        rw [List.contains_iff_mem.mpr hm] at hkept
        cases hkept
      rw [Option.filter_some, if_neg hleft]

omit hw hg in
theorem filterMap_moduleFile (t : FileTree) (root : PurePath) (l : List PurePath) :
    (l.filter (isSourceFile t)).filterMap (moduleFile? t root) = l.filterMap (moduleFile? t root) := by
  rw [List.filterMap_filter]
  apply List.filterMap_congr
  intro p _
  split
  · rfl
  · rename_i hsource
    rw [moduleFile?, if_neg hsource]

theorem isNameless_of_eraseAll (root : PurePath) {p : PurePath} (h : isNameless (t.eraseAll gone) root p = true) :
    isNameless t root p = true := by
  rw [isNameless, Bool.and_eq_true, workDir_eraseAll] at h
  rw [isNameless, Bool.and_eq_true]
  refine ⟨?_, h.2⟩
  by_cases hk : Keeps t gone p
  · exact isSourceFile_of_keeps hw hg hk ▸ h.1
  · rw [isSourceFile_of_not_keeps hw hg hk] at h
    exact absurd h.1 Bool.false_ne_true

theorem seek_eraseAll (root pattern : String) :
    SameKept (isSourceFile (t.eraseAll gone)) (seek (t.eraseAll gone) (PurePath.ofString root) pattern)
      (seek t (PurePath.ofString root) pattern) := by
  have hglob := glob_eraseAll hw hg root pattern
  unfold seek
  generalize glob (t.eraseAll gone) (PurePath.ofString root) pattern = x at hglob ⊢
  generalize glob t (PurePath.ofString root) pattern = y at hglob ⊢
  cases hglob with
  | failed _ fault => exact SameKept.failed _ _
  | @found l l' hsame =>
    dsimp only [bind, Except.bind]
    rcases checkNames_eq t (PurePath.ofString root) l' with ⟨fault, hfault, _⟩ | ⟨hok, hnamed⟩
    · rw [hfault]
      exact SameKept.failed _ _
    · have hleft : ∀ p ∈ l, isNameless (t.eraseAll gone) (PurePath.ofString root) p = false := by
        intro p hp
        by_contra hnameless
        rw [Bool.not_eq_false] at hnameless
        have hmem : p ∈ l.filter (isSourceFile (t.eraseAll gone)) :=
          List.mem_filter.mpr ⟨hp, (Bool.and_eq_true_iff.mp hnameless).1⟩
        rw [hsame] at hmem
        have hname := hnamed p (List.mem_filter.mp hmem).1
        rw [isNameless_of_eraseAll hw hg _ hnameless] at hname
        cases hname
      rw [hok, checkNames_of_named hleft]
      exact SameKept.found hsame

/-- A scan finds the files that it found before, apart from those removed, in the same order. No file may come to
light under the path below the root of one that is removed. -/
theorem scan_eraseAll (hscan : scan t root patterns = .ok files)
    (halone : ∀ f ∈ files, ∀ g, Met t root patterns g → f.relPath = g.relPath → isKept t gone g = true →
      isKept t gone f = true) :
    scan (t.eraseAll gone) root patterns = .ok (files.filter (isKept t gone)) := by
  have hsame : SameKept (isSourceFile (t.eraseAll gone))
      ((patterns.mapM (seek (t.eraseAll gone) (PurePath.ofString root))).map List.flatten)
      ((patterns.mapM (seek t (PurePath.ofString root))).map List.flatten) :=
    SameKept.mapM_all fun pattern _ => seek_eraseAll hw hg root pattern
  obtain ⟨found, hfound, rfl⟩ := scan_parts hscan
  have hclean := clean_of_scan hw hfound
  have hmet := fun g => met_iff (f := g) hfound
  rw [hfound] at hsame
  rw [scan_eq]
  generalize (patterns.mapM (seek (t.eraseAll gone) (PurePath.ofString root))).map List.flatten = x at hsame
  cases hsame with
  | @found found' _ hsame =>
    have hfiles : found'.filterMap (moduleFile? (t.eraseAll gone) (PurePath.ofString root)) =
        (found.filterMap (moduleFile? t (PurePath.ofString root))).filter (isKept t gone) := by
      rw [← filterMap_moduleFile, hsame, filterMap_moduleFile, List.filter_filterMap]
      exact List.filterMap_congr fun p hp => moduleFile_eraseAll hw hg _ (hclean p hp)
    have hfilter : (distinctFiles (found.filterMap (moduleFile? t (PurePath.ofString root)))).filter (isKept t gone) =
        distinctFiles ((found.filterMap (moduleFile? t (PurePath.ofString root))).filter (isKept t gone)) :=
      distinctFiles_filter fun f hf g hg hrel =>
        halone f ((List.mergeSort_perm _ _).mem_iff.mpr hf) g ((hmet g).mpr hg) hrel
    rw [Except.map, hfiles, ← hfilter, mergeSort_filter ModuleFile.relPath _ (distinctFiles_spec _).1]

end Scan

end ModelReach.Files
