import ModelReach.Proofs.Files.Alike
import ModelReach.Proofs.Files.Scans

/-! Different spellings of a directory. Whatever is looked up below it is found alike, as long as no text is too long
for the system, and what a scan finds differs in the spelling only. -/
namespace ModelReach.Files
set_option autoImplicit false

open FileTree

/-! ## Looking up along parts -/

/-- The text of a path is longer than the system takes. -/
def Overlong : FileFault → Prop
  | .system .nameTooLong s => maxPathBytes < s.utf8ByteSize
  | _ => False

namespace FileTree

/-- What stands where some parts lead from a directory. -/
def lookUp (t : FileTree) (here l : List String) : Except SystemProblem (List String × Node) :=
  (t.walk here l).bind fun there => match t.node? there with
    | none => .error .notFound
    | some node => .ok (there, node)

section Spells
variable {t : FileTree} (hw : WellFormed t) (hl : t.LinkFree)
include hw hl

theorem find_render {p : PurePath} (h : Clean p) : t.find p.render =
    (checkText p.render).bind fun _ => named p.render (t.lookUp (t.origin p) p.parts) := by
  rcases hcheck : checkText p.render with fault | _
  · rw [find_eq, hcheck]
    rfl
  · rcases hwalk : t.walk (t.origin p) p.parts with problem | there
    · rw [find_eq, hcheck, walk_render hw h, hwalk, lookUp, hwalk]
      rfl
    · rcases hnode : t.node? there with _ | node
      · rw [find_eq, hcheck, walk_render hw h, hwalk, lookUp, hwalk]
        dsimp only [Except.bind]
        rw [hnode]
        rfl
      · have hlink : ∀ target, node ≠ .link target := fun target he => hl.node?_ne (he ▸ hnode)
        rw [(find_render_iff hw h).mpr ⟨hcheck, hwalk, hnode, hlink⟩, lookUp, hwalk]
        dsimp only [Except.bind]
        rw [hnode]
        rfl

end Spells

end FileTree

/-! ## Characters of paths -/

section Characters
variable {c : Char} (hslash : c ≠ '/') (hpoint : c ≠ '.')
include hslash hpoint

/-- Apart from slashes and points, the characters of a text are those of the parts that it is read to. -/
theorem exists_mem_parts (s : String) :
    (∃ part ∈ (PurePath.ofString s).parts, c ∈ part.toList) ↔ c ∈ s.toList := by
  rw [← Text.exists_mem_piecesOf hslash]
  constructor
  · rintro ⟨part, hpart, hc⟩
    exact ⟨part, (List.mem_filter.mp hpart).1, hc⟩
  · rintro ⟨part, hpart, hc⟩
    refine ⟨part, List.mem_filter.mpr ⟨hpart, isStep_iff.mpr ⟨?_, ?_⟩⟩, hc⟩
    · rintro rfl
      exact absurd hc List.not_mem_nil
    · rintro rfl
      exact hpoint (List.mem_singleton.mp hc)

theorem exists_mem_parts_render {p : PurePath} (h : Clean p) :
    (∃ part ∈ p.parts, c ∈ part.toList) ↔ c ∈ p.render.toList := by
  rw [← exists_mem_parts hslash hpoint p.render, ofString_render h]

end Characters

/-! ## Spellings of a directory -/

/-- A path leads to some parts of the tree, and its text does not hold the character zero. -/
structure Spells (t : FileTree) (here : List String) (r : PurePath) : Prop where
  clean : Clean r
  leads : t.walk (t.origin r) r.parts = .ok here
  nullFree : ∀ part ∈ r.parts, '\x00' ∉ part.toList

/-- The same parts follow two spellings of a directory. -/
inductive Respelled (r r' : PurePath) : PurePath → PurePath → Prop
  | descend {names : List String} (h : ∀ n ∈ names, IsPart n) : Respelled r r' (r.descend names) (r'.descend names)

section Spelled
variable {t : FileTree} {here : List String} {r r' p p' : PurePath}

theorem descend_descend (p : PurePath) (a b : List String) : (p.descend a).descend b = p.descend (a ++ b) := by
  rw [PurePath.descend, PurePath.descend, PurePath.descend, List.append_assoc]

theorem descend_nil (p : PurePath) : p.descend [] = p := by
  rw [PurePath.descend, List.append_nil]

theorem Respelled.refl (r r' : PurePath) : Respelled r r' r r' := by
  have h : Respelled r r' (r.descend []) (r'.descend []) := Respelled.descend fun n hn => absurd hn List.not_mem_nil
  rwa [descend_nil, descend_nil] at h

theorem Respelled.more {names : List String} (h : Respelled r r' p p') (hn : ∀ n ∈ names, IsPart n) :
    Respelled r r' (p.descend names) (p'.descend names) := by
  cases h with
  | @descend before hbefore =>
    rw [descend_descend, descend_descend]
    exact Respelled.descend fun n hm => (List.mem_append.mp hm).elim (hbefore n) (hn n)

theorem Respelled.child {name : String} (h : Respelled r r' p p') (hn : IsPart name) :
    Respelled r r' (p.child name) (p'.child name) :=
  h.more fun _ hm => List.mem_singleton.mp hm ▸ hn

/-- A path is determined by its other spelling. -/
theorem Respelled.eq_iff {q q' : PurePath} (h : Respelled r r' p p') (h' : Respelled r r' q q') : p = q ↔ p' = q' := by
  have hparts : ∀ (s : PurePath) (a b : List String), s.descend a = s.descend b ↔ a = b := fun s a b =>
    ⟨fun he => List.append_cancel_left (congrArg PurePath.parts he), fun he => he ▸ rfl⟩
  cases h with
  | descend _ =>
    cases h' with
    | descend _ => rw [hparts, hparts]

end Spelled

/-! ## Looking up below a directory -/

section Below
variable {t : FileTree} (hw : WellFormed t) (hl : t.LinkFree) {here : List String} {r r' : PurePath}
  (hr : Spells t here r)

include hl hr in
theorem lookUp_descend (names : List String) :
    t.lookUp (t.origin (r.descend names)) (r.descend names).parts = t.lookUp here names := by
  rw [lookUp, lookUp]
  change (t.walk (t.origin r) (r.parts ++ names)).bind _ = _
  rw [walk_append hl, hr.leads]
  rfl

include hr in
theorem null_mem_descend {names : List String} (hn : ∀ n ∈ names, IsPart n) :
    '\x00' ∈ (r.descend names).render.toList ↔ ∃ n ∈ names, '\x00' ∈ n.toList := by
  rw [← exists_mem_parts_render (by decide) (by decide) (hr.clean.descend hn)]
  constructor
  · rintro ⟨part, hpart, hnull⟩
    exact ⟨part, (List.mem_append.mp hpart).resolve_left fun hm => hr.nullFree part hm hnull, hnull⟩
  · rintro ⟨part, hpart, hnull⟩
    exact ⟨part, List.mem_append_right _ hpart, hnull⟩

include hw hl hr in
/-- What a path below a directory leads to is found from the directory, if the text of the path allows it. -/
theorem find_descend_eq {names : List String} (hn : ∀ n ∈ names, IsPart n) {s : String}
    (hs : s = (r.descend names).render) :
    ((∃ n ∈ names, '\x00' ∈ n.toList) ∧ t.find s = .error .nullInPath) ∨
    (maxPathBytes < s.utf8ByteSize ∧ t.find s = .error (.system .nameTooLong s)) ∨
    ((¬∃ n ∈ names, '\x00' ∈ n.toList) ∧ s.utf8ByteSize ≤ maxPathBytes ∧
      t.find s = named s (t.lookUp here names)) := by
  subst hs
  rw [find_render hw hl (hr.clean.descend hn), lookUp_descend hl hr, ← null_mem_descend hr hn]
  unfold checkText
  split
  · rename_i hnull
    exact Or.inl ⟨List.contains_iff_mem.mp hnull, rfl⟩
  · rename_i hnull
    rw [if_neg (render_ne_empty (hr.clean.descend hn))]
    split
    · rename_i hlong
      exact Or.inr (Or.inl ⟨hlong, rfl⟩)
    · rename_i hshort
      exact Or.inr (Or.inr ⟨fun hm => hnull (List.contains_iff_mem.mpr hm), Nat.not_lt.mp hshort, rfl⟩)

end Below

/-! ## Searches below a directory -/

/-- Two spellings of a path that lead to the same. -/
structure Sighted (t : FileTree) (r r' p p' : PurePath) : Prop where
  respelled : Respelled r r' p p'
  stat : t.stat p = t.stat p'
  parts : partsAt t p = partsAt t p'

/-- How two spellings of a path are looked up. -/
inductive FindsAlike (s s' : String) :
    Except FileFault (List String × Node) → Except FileFault (List String × Node) → Prop
  | overlong (h : maxPathBytes < s.utf8ByteSize) (y : Except FileFault (List String × Node)) :
    FindsAlike s s' (.error (.system .nameTooLong s)) y
  | overlong' (x : Except FileFault (List String × Node)) (h : maxPathBytes < s'.utf8ByteSize) :
    FindsAlike s s' x (.error (.system .nameTooLong s'))
  | found (parts : List String) (node : Node) : FindsAlike s s' (.ok (parts, node)) (.ok (parts, node))
  | tooLong : FindsAlike s s' (.error (.system .nameTooLong s)) (.error (.system .nameTooLong s'))
  | failed {fault fault' : FileFault} (h : ∀ s, fault ≠ .system .nameTooLong s)
    (h' : ∀ s, fault' ≠ .system .nameTooLong s) : FindsAlike s s' (.error fault) (.error fault')

theorem findsAlike_named (s s' : String) (x : Except SystemProblem (List String × Node)) :
    FindsAlike s s' (named s x) (named s' x) := by
  rcases x with problem | ⟨parts, node⟩
  · by_cases hlong : problem = .nameTooLong
    · subst hlong
      exact FindsAlike.tooLong
    · exact FindsAlike.failed (fun _ he => hlong (by cases he; rfl)) fun _ he => hlong (by cases he; rfl)
  · exact FindsAlike.found parts node

theorem stat_of_error {t : FileTree} {p : PurePath} {fault : FileFault} (h : t.find p.render = .error fault)
    (hne : ∀ s, fault ≠ .system .nameTooLong s) : t.stat p = .ok none := by
  rw [stat, h]
  rcases fault with ⟨problem, s⟩ | _
  · cases problem <;> first | rfl | exact absurd rfl (hne s)
  · rfl

section Search
variable {t : FileTree} (hw : WellFormed t) (hl : t.LinkFree) {here : List String} {r r' : PurePath}
  (hr : Spells t here r) (hr' : Spells t here r') {p p' : PurePath}
include hw hl hr hr'

theorem find_respelled (h : Respelled r r' p p') :
    FindsAlike p.render p'.render (t.find p.render) (t.find p'.render) := by
  cases h with
  | descend hn =>
    rcases find_descend_eq hw hl hr hn rfl with ⟨hnull, hf⟩ | ⟨hlong, hf⟩ | ⟨hnull, _, hf⟩
    · rcases find_descend_eq hw hl hr' hn rfl with ⟨_, hf'⟩ | ⟨hlong', hf'⟩ | ⟨hnull', _⟩
      · rw [hf, hf']
        exact FindsAlike.failed (fun _ he => nomatch he) fun _ he => nomatch he
      · rw [hf']
        exact FindsAlike.overlong' _ hlong'
      · exact absurd hnull hnull'
    · rw [hf]
      exact FindsAlike.overlong hlong _
    · rcases find_descend_eq hw hl hr' hn rfl with ⟨hnull', _⟩ | ⟨hlong', hf'⟩ | ⟨_, _, hf'⟩
      · exact absurd hnull' hnull
      · rw [hf']
        exact FindsAlike.overlong' _ hlong'
      · rw [hf, hf']
        exact findsAlike_named _ _ _

/-- Two spellings of a path lead to the same, as far as they can be looked up. -/
theorem stat_respelled (h : Respelled r r' p p') :
    Alike Overlong (fun node node' => node = node' ∧ Sighted t r r' p p') (t.stat p) (t.stat p') := by
  have hfind := find_respelled hw hl hr hr' h
  generalize hx : t.find p.render = x at hfind
  generalize hy : t.find p'.render = y at hfind
  cases hfind with
  | overlong hlong y =>
    have hs : t.stat p = .error (.system .nameTooLong p.render) := by rw [stat, hx]
    have hexcused : Overlong (.system .nameTooLong p.render) := hlong
    rw [hs]
    exact Alike.left hexcused _
  | overlong' x hlong =>
    have hs' : t.stat p' = .error (.system .nameTooLong p'.render) := by rw [stat, hy]
    have hexcused : Overlong (.system .nameTooLong p'.render) := hlong
    rw [hs']
    exact Alike.right _ hexcused
  | found parts node =>
    have hs : t.stat p = .ok (some node) := by rw [stat, hx]
    have hs' : t.stat p' = .ok (some node) := by rw [stat, hy]
    have hsighted : Sighted t r r' p p' := ⟨h, hs.trans hs'.symm, by rw [partsAt, partsAt, hx, hy]⟩
    rw [hs, hs']
    exact Alike.given ⟨rfl, hsighted⟩
  | tooLong =>
    rw [stat, stat, hx, hy]
    exact Alike.failed _ _
  | failed hne hne' =>
    have hs := stat_of_error hx hne
    have hs' := stat_of_error hy hne'
    have hsighted : Sighted t r r' p p' := ⟨h, hs.trans hs'.symm, by rw [partsAt, partsAt, hx, hy]⟩
    rw [hs, hs']
    exact Alike.given ⟨rfl, hsighted⟩

theorem reached_respelled (h : Respelled r r' p p') :
    Alike Overlong (List.Forall₂ (Sighted t r r')) (reached t p) (reached t p') := by
  rw [reached_eq, reached_eq]
  exact (stat_respelled hw hl hr hr' h).map fun _ _ hs => List.Forall₂.cons hs.2 List.Forall₂.nil

theorem lookAt_respelled (h : Respelled r r' p p') :
    Alike Overlong (fun _ _ => Sighted t r r' p p') (lookAt t p) (lookAt t p') :=
  (stat_respelled hw hl hr hr' h).map fun _ _ hs => hs.2

theorem leadsOn_respelled (h : Respelled r r' p p') (isLast : Bool) :
    Alike Overlong Eq (leadsOn t p isLast) (leadsOn t p' isLast) :=
  (stat_respelled hw hl hr hr' h).bind fun _ _ hs => Alike.given (by rw [hs.1])

omit hw hl hr hr' in
/-- A search along parts of a pattern finds the same, from whatever spelling of a path it goes on. -/
def FindsSighted (t : FileTree) (r r' : PurePath) (parts : List GlobPart) : Prop :=
  ∀ ⦃p p' : PurePath⦄, Respelled r r' p p' →
    Alike Overlong (List.Forall₂ (Sighted t r r')) (select t parts p) (select t parts p')

theorem findsSighted_name {name : String} (hname : IsPart name) {rest : List GlobPart}
    (ih : FindsSighted t r r' rest) : FindsSighted t r r' (.name name :: rest) := by
  intro p p' h
  rw [select, select]
  refine (leadsOn_respelled hw hl hr hr' (h.child hname) rest.isEmpty).bind fun leads _ he => ?_
  subst he
  cases leads with
  | false => exact Alike.given List.Forall₂.nil
  | true => exact ih (h.child hname)

omit hw hr hr' in
theorem entryLeadsOn_respelled (hs : Sighted t r r' p p') (name : String) (isLast : Bool) :
    Alike Overlong Eq (entryLeadsOn t p name isLast) (entryLeadsOn t p' name isLast) := by
  rw [entryLeadsOn, entryLeadsOn, hs.parts]
  split
  · exact Alike.given rfl
  · split
    · rename_i target hnode
      exact absurd hnode hl.node?_ne
    · exact Alike.given rfl

theorem findsSighted_wildcard (pieces : List Wildcard) {rest : List GlobPart} (ih : FindsSighted t r r' rest) :
    FindsSighted t r r' (.wildcard pieces :: rest) := by
  intro p p' h
  rw [select, select]
  refine (lookAt_respelled hw hl hr hr' h).bind fun _ _ hs => ?_
  rw [gather_eq, gather_eq, hs.parts]
  refine Alike.gather (R := fun name name' => name = name' ∧ IsName name) ?_ fun name _ hname => ?_
  · exact List.forall₂_same.mpr fun name hm => ⟨rfl, isName_of_mem_names hw hm⟩
  · obtain ⟨rfl, hname⟩ := hname
    rw [throughEntry_eq, throughEntry_eq]
    refine (entryLeadsOn_respelled hl hs name rest.isEmpty).bind fun leads _ he => ?_
    subst he
    split
    · exact ih (h.child hname.toIsPart)
    · exact Alike.given List.Forall₂.nil

theorem findsSighted_recursive {rest : List GlobPart} (ih : FindsSighted t r r' rest) :
    FindsSighted t r r' (.recursive :: rest) := by
  intro p p' h
  rw [select_recursive, select_recursive]
  refine Alike.map (R := List.Forall₂ (Sighted t r r')) ?_ fun _ _ hfound =>
    forall₂_eraseDups (fun _ _ _ _ hs hs' => hs.respelled.eq_iff hs'.respelled) hfound
  refine (ih h).bind fun _ _ hfound => (lookAt_respelled hw hl hr hr' h).bind fun _ _ hs => ?_
  rw [hs.parts]
  refine (Alike.gather ?_ fun _ _ hq => ih hq).map fun _ _ hmore => List.rel_append hfound hmore
  rw [List.forall₂_map_left_iff, List.forall₂_map_right_iff, List.forall₂_same]
  exact fun names hnames => h.more fun n hn => ((mem_directoriesBelow hw hnames).2.1 n hn).toIsPart

theorem select_respelled {parts : List GlobPart} (hparts : ∀ part ∈ parts, part.Named) :
    FindsSighted t r r' parts := by
  induction parts with
  | nil => exact fun _ _ h => reached_respelled hw hl hr hr' h
  | cons part rest ih =>
    have hrest : FindsSighted t r r' rest := ih fun part' hm => hparts part' (List.mem_cons_of_mem part hm)
    cases part with
    | here => exact fun _ _ h => reached_respelled hw hl hr hr' h
    | name name => exact findsSighted_name hw hl hr hr' (hparts _ (List.mem_cons_self ..) name rfl) hrest
    | wildcard pieces => exact findsSighted_wildcard hw hl hr hr' pieces hrest
    | recursive => exact findsSighted_recursive hw hl hr hr' hrest

omit hw hl hr hr' in
/-- A scan has come upon a path that is too long for the system. -/
def OverlongScan : ScanFault → Prop
  | .file fault => Overlong fault
  | _ => False

omit hr hr' in
/-- A path that is too long cannot be looked at. -/
theorem reached_overlong {name : String} (hr : Spells t here r) (hpart : IsPart name) (hnull : '\x00' ∉ name.toList)
    (hlong : maxPathBytes < (r.child name).render.utf8ByteSize) :
    reached t (r.child name) = .error (.system .nameTooLong (r.child name).render) := by
  have hnames : ∀ n ∈ [name], IsPart n := fun n hm => List.mem_singleton.mp hm ▸ hpart
  have hfind : t.find (r.child name).render = .error (.system .nameTooLong (r.child name).render) := by
    rcases find_descend_eq hw hl hr hnames rfl with ⟨⟨n, hm, hn⟩, _⟩ | ⟨_, hfind⟩ | ⟨_, hshort, _⟩
    · exact absurd (List.mem_singleton.mp hm ▸ hn) hnull
    · exact hfind
    · exact absurd hlong (Nat.not_lt.mpr hshort)
  rw [reached_eq, stat, hfind]
  rfl

omit hw hl hr hr' in
/-- A search ends with the names that fit a wildcard, which are looked at. -/
theorem select_lastWildcard (pieces : List Wildcard) (p : PurePath) : select t [.wildcard pieces] p =
    (lookAt t p).bind fun _ => ((t.names (partsAt t p)).mapM fun name =>
      if matchesAll pieces name.toList = true then reached t (p.child name) else .ok []).map List.flatten := by
  rw [select]
  refine congrArg (lookAt t p).bind (funext fun _ => ?_)
  rw [gather_eq]
  have hthrough : throughEntry t p pieces ([] : List GlobPart).isEmpty (select t []) = fun name =>
      if matchesAll pieces name.toList = true then reached t (p.child name) else .ok [] := by
    funext name
    have hleads : entryLeadsOn t p name ([] : List GlobPart).isEmpty = .ok true := rfl
    rw [throughEntry_eq, hleads]
    simp only [Except.bind, true_and]
    rfl
  rw [hthrough]

omit hr hr' in
/-- A name that fits a wildcard and makes a path too long ends the search. -/
theorem glob_overlong {pattern name : String} {pieces : List Wildcard} (hr : Spells t here r)
    (hpattern : globParts pattern = .ok [.wildcard pieces]) (hfind : t.find r.render = .ok (here, .directory))
    (hname : name ∈ t.names here) (hfits : matchesAll pieces name.toList = true) (hnull : '\x00' ∉ name.toList)
    (hlong : maxPathBytes < (r.child name).render.utf8ByteSize) : ∃ fault, glob t r pattern = .error fault := by
  have hpart := (isName_of_mem_names hw hname).toIsPart
  have hstat : t.stat r = .ok (some .directory) := by rw [stat, hfind]
  have hlook : lookAt t r = .ok () := by
    rw [lookAt, hstat]
    rfl
  have hdirectory : isDirectoryAt t r = .ok true := by
    rw [isDirectoryAt, hstat]
    rfl
  have hhere : partsAt t r = here := by rw [partsAt, hfind]
  rw [glob_eq, hpattern, hdirectory]
  dsimp only
  rw [select_lastWildcard, hlook, hhere]
  dsimp only [Except.bind]
  rcases hsearch : (t.names here).mapM fun name =>
    if matchesAll pieces name.toList = true then reached t (r.child name) else .ok [] with fault | lists
  · exact ⟨.file fault, by rw [hsearch]; rfl⟩
  · obtain ⟨found, _, hfound⟩ := Facts.exists_of_mapM_ok hsearch name hname
    rw [if_pos hfits, reached_overlong hw hl hr hpart hnull hlong] at hfound
    cases hfound

theorem glob_respelled (pattern : String) :
    Alike OverlongScan (List.Forall₂ (Sighted t r r')) (glob t r pattern) (glob t r' pattern) := by
  have hdirectory : Alike Overlong Eq (isDirectoryAt t r) (isDirectoryAt t r') :=
    (stat_respelled hw hl hr hr' (Respelled.refl r r')).bind fun _ _ hs => Alike.given (by rw [hs.1])
  rw [glob_eq, glob_eq]
  rcases hparts : globParts pattern with fault | parts
  · exact Alike.failed _ _
  · generalize isDirectoryAt t r = x at hdirectory
    generalize isDirectoryAt t r' = y at hdirectory
    cases hdirectory with
    | @left fault hlong y =>
      have hexcused : OverlongScan (.file fault) := hlong
      exact Alike.left hexcused _
    | @right x fault hlong =>
      have hexcused : OverlongScan (.file fault) := hlong
      rcases x with _ | _ | _ <;> exact Alike.right _ hexcused
    | failed _ _ => exact Alike.failed _ _
    | @given isDirectory _ he =>
      subst he
      cases isDirectory with
      | false => exact Alike.given List.Forall₂.nil
      | true =>
        exact (select_respelled hw hl hr hr' (named_of_globParts hparts) (Respelled.refl r r')).mapError fun _ h => h

end Search

/-! ## Files below a directory -/

theorem absoluteParts_descend (workDir : List String) (p : PurePath) (names : List String) :
    absoluteParts workDir (p.descend names) = names.foldl stepFrom (absoluteParts workDir p) := by
  have hafter : ∀ l, normalize (l ++ names) = names.foldl stepFrom (normalize l) := fun l =>
    List.foldl_append
  rw [absoluteParts, absoluteParts, PurePath.descend]
  split
  · rw [← List.append_assoc]
    exact hafter _
  · exact hafter _

theorem Spells.absoluteParts_eq {t : FileTree} (hw : WellFormed t) (hl : t.LinkFree) {here : List String}
    {r : PurePath} (h : Spells t here r) : absoluteParts t.workDir r = here := by
  rw [eq_of_walk hl h.leads, origin, absoluteParts]
  change (if r.root = "" then t.workDir ++ r.parts else r.parts).foldl stepFrom [] = _
  split
  · rw [List.foldl_append, foldl_stepFrom_names [] (isName_of_node? hw hw.workDir), List.nil_append]
  · rfl

/-- Two texts lead to one file. -/
def LeadTogether (t : FileTree) (path path' : String) : Prop :=
  ∃ parts content, t.find path = .ok (parts, .file content) ∧ t.find path' = .ok (parts, .file content)

/-- A file as it is found below two spellings of a directory. -/
structure SameFile (t : FileTree) (r r' : PurePath) (f f' : ModuleFile) : Prop where
  relPath : f.relPath = f'.relPath
  module : f.module = f'.module
  isPackage : f.isPackage = f'.isPackage
  path : ∃ names, names ≠ [] ∧ f.path = (r.descend names).render ∧ f'.path = (r'.descend names).render
  together : LeadTogether t f.path f'.path

section Scan
variable {t : FileTree} (hw : WellFormed t) (hl : t.LinkFree) {here : List String} {r r' : PurePath}
  (hr : Spells t here r) (hr' : Spells t here r')

/-- The path that is searched below is no file of a module. -/
theorem moduleFile_root (t : FileTree) (r : PurePath) : moduleFile? t r r = none := by
  have hself : ∀ l, dropCommon l l = ([], []) := by
    intro l
    induction l with
    | nil => rfl
    | cons a l ih => rw [dropCommon, if_pos rfl, ih]
  have hrel : (relativePath t.workDir r r).parts = [] := by
    rw [relativePath, relativeParts, hself]
    rfl
  unfold moduleFile?
  split
  · dsimp only
    have hnoName : moduleOfPath (relativePath t.workDir r r) = .error ⟨relativePath t.workDir r r⟩ := if_pos hrel
    rw [hnoName]
  · rfl

theorem find_of_stat {p : PurePath} {node : Node} (h : t.stat p = .ok (some node)) :
    t.find p.render = .ok (partsAt t p, node) := by
  rw [stat] at h
  rw [partsAt]
  rcases hf : t.find p.render with fault | ⟨parts, found⟩
  · rw [hf] at h
    rcases fault with ⟨problem, _⟩ | _
    · cases problem <;> cases h
    · cases h
  · rw [hf] at h
    cases h
    rfl

include hw hl hr hr'

theorem moduleFile_respelled {p p' : PurePath} (h : Sighted t r r' p p') :
    Option.Rel (SameFile t r r') (moduleFile? t r p) (moduleFile? t r' p') := by
  have hstat := h.stat
  have hparts := h.parts
  cases h.respelled with
  | @descend names _ =>
    by_cases hnil : names = []
    · rw [hnil, descend_nil, descend_nil, moduleFile_root, moduleFile_root]
      exact Option.Rel.none
    · have hname : (r.descend names).name? = (r'.descend names).name? := by
        change (r.parts ++ names).getLast? = (r'.parts ++ names).getLast?
        rw [List.getLast?_append_of_ne_nil _ hnil, List.getLast?_append_of_ne_nil _ hnil]
      have hrel : relativePath t.workDir r (r.descend names) = relativePath t.workDir r' (r'.descend names) := by
        rw [relativePath, relativePath, absoluteParts_descend, absoluteParts_descend, hr.absoluteParts_eq hw hl,
          hr'.absoluteParts_eq hw hl]
      have hsource : isSourceFile t (r.descend names) = isSourceFile t (r'.descend names) := by
        rw [isSourceFile, isSourceFile, hname, hstat]
      unfold moduleFile?
      rw [← hsource, ← hname, ← hrel]
      split
      · rename_i htrue
        dsimp only
        split
        · split
          · exact Option.Rel.none
          · obtain ⟨parts, content, hfound⟩ := find_of_source htrue
            have hfile : t.stat (r.descend names) = .ok (some (.file content)) := by rw [stat, hfound]
            refine Option.Rel.some ⟨rfl, rfl, rfl, ⟨names, hnil, rfl, rfl⟩, _, content, find_of_stat hfile, ?_⟩
            rw [hparts]
            exact find_of_stat (hstat ▸ hfile)
        · exact Option.Rel.none
      · exact Option.Rel.none

omit hw hl hr hr' in
theorem addDistinct_respelled {done done' : List ModuleFile} {f f' : ModuleFile}
    (hdone : List.Forall₂ (SameFile t r r') done done') (h : SameFile t r r' f f') :
    List.Forall₂ (SameFile t r r') (addDistinct done f) (addDistinct done' f') := by
  have hany : done.any (·.relPath = f.relPath) = done'.any (·.relPath = f'.relPath) := by
    induction hdone with
    | nil => rfl
    | cons hg _ ih => rw [List.any_cons, List.any_cons, ih, hg.relPath, h.relPath]
  rw [addDistinct, addDistinct, hany]
  split
  · exact hdone
  · exact List.rel_append hdone (List.Forall₂.cons h List.Forall₂.nil)

omit hw hl hr hr' in
theorem foldl_addDistinct_respelled {files files' done done' : List ModuleFile}
    (hfiles : List.Forall₂ (SameFile t r r') files files') (hdone : List.Forall₂ (SameFile t r r') done done') :
    List.Forall₂ (SameFile t r r') (files.foldl addDistinct done) (files'.foldl addDistinct done') := by
  induction hfiles generalizing done done' with
  | nil => exact hdone
  | cons h _ ih => exact ih (addDistinct_respelled hdone h)

omit hr hr' in
/-- A scan finds the same files in the same order, whichever spelling of a directory it begins at. -/
theorem scan_respelled {root root' : String} (hroot : Spells t here (PurePath.ofString root))
    (hroot' : Spells t here (PurePath.ofString root')) (patterns : List String) :
    Alike OverlongScan (List.Forall₂ (SameFile t (PurePath.ofString root) (PurePath.ofString root')))
      (scan t root patterns) (scan t root' patterns) := by
  have hsame : List.Forall₂ Eq patterns patterns := List.forall₂_same.mpr fun _ _ => rfl
  have hseek : ∀ pattern pattern', pattern = pattern' →
      Alike OverlongScan (List.Forall₂ (Sighted t (PurePath.ofString root) (PurePath.ofString root')))
        (seek t (PurePath.ofString root) pattern) (seek t (PurePath.ofString root') pattern') := by
    rintro pattern _ rfl
    rw [seek_eq_glob hw hl, seek_eq_glob hw hl]
    exact glob_respelled hw hl hroot hroot' pattern
  rw [scan_eq, scan_eq]
  refine (Alike.gather hsame hseek).map fun _ _ hfound => ?_
  have hfiles := List.rel_filterMap (fun _ _ h => moduleFile_respelled hw hl hroot hroot' h) hfound
  exact forall₂_mergeSort (fun _ _ h => h.relPath) (foldl_addDistinct_respelled hfiles List.Forall₂.nil)

end Scan

end ModelReach.Files
