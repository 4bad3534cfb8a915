import ModelReach.Files.Tree
import ModelReach.Proofs.Text.Pieces

/-! Paths and their texts. A path written out and read again is the same path, so that to go by its text is to take
its parts as steps, one after the other. -/
namespace ModelReach.Files
set_option autoImplicit false

/-! ## Parts -/

/-- A part of a path: a step that holds no slash. -/
structure IsPart (part : String) : Prop where
  step : isStep part = true
  slashless : '/' ∉ part.toList

/-- The name of a file or directory. -/
structure IsName (name : String) : Prop extends IsPart name where
  proper : name ≠ ".."

instance (part : String) : Decidable (IsPart part) :=
  decidable_of_iff (isStep part = true ∧ '/' ∉ part.toList)
    ⟨fun h => ⟨h.1, h.2⟩, fun h => ⟨h.step, h.slashless⟩⟩

instance (name : String) : Decidable (IsName name) :=
  decidable_of_iff (IsPart name ∧ name ≠ "..") ⟨fun h => ⟨h.1, h.2⟩, fun h => ⟨h.toIsPart, h.proper⟩⟩

/-- A path as texts are read to: with a known start, and without empty parts and points. -/
structure Clean (p : PurePath) : Prop where
  root : p.root = "" ∨ p.root = "/" ∨ p.root = "//"
  parts : ∀ part ∈ p.parts, IsPart part

theorem isStep_iff {part : String} : isStep part = true ↔ part ≠ "" ∧ part ≠ "." := by
  rw [isStep, Bool.and_eq_true, decide_eq_true_eq, decide_eq_true_eq]

theorem isPart_of_mem {s part : String} (h : part ∈ (slashParts s).filter isStep) : IsPart part := by
  obtain ⟨hmem, hstep⟩ := List.mem_filter.mp h
  exact ⟨hstep, Text.notMem_of_mem_piecesOf hmem⟩

theorem clean_ofString (s : String) : Clean (PurePath.ofString s) where
  root := by
    change rootOf s = "" ∨ rootOf s = "/" ∨ rootOf s = "//"
    unfold rootOf
    split
    · exact Or.inr (Or.inl rfl)
    · exact Or.inr (Or.inr rfl)
    · exact Or.inr (Or.inl rfl)
    · exact Or.inl rfl
  parts _ h := isPart_of_mem h

theorem Clean.descend {p : PurePath} (h : Clean p) {names : List String} (hn : ∀ n ∈ names, IsPart n) :
    Clean (p.descend names) where
  root := h.root
  parts part hpart := (List.mem_append.mp hpart).elim (h.parts part) (hn part)

theorem Clean.child {p : PurePath} (h : Clean p) {name : String} (hn : IsPart name) : Clean (p.child name) :=
  h.descend fun n hm => by
    rw [List.mem_singleton.mp hm]
    exact hn

/-! ## Texts of paths -/

theorem rootOf_append {root rest : String} (hroot : root = "" ∨ root = "/" ∨ root = "//")
    (hrest : rest.toList.head? ≠ some '/') : rootOf (root ++ rest) = root := by
  unfold rootOf
  rw [String.toList_append]
  generalize rest.toList = l at hrest
  have hother : ∀ c cs, l = c :: cs → c ≠ '/' := by
    rintro c cs rfl rfl
    exact hrest rfl
  rcases hroot with rfl | rfl | rfl
  · cases l with
    | nil => rfl
    | cons c cs => simp [hother c cs rfl]
  · cases l with
    | nil => rfl
    | cons c cs => simp [hother c cs rfl]
  · cases l with
    | nil => rfl
    | cons c cs => simp [hother c cs rfl]

theorem head?_intercalate {parts : List String} (h : ∀ part ∈ parts, IsPart part) :
    ("/".intercalate parts).toList.head? ≠ some '/' := by
  cases parts with
  | nil => exact fun hnil => nomatch hnil
  | cons part parts =>
    have hpart := h part (List.mem_cons_self ..)
    obtain ⟨c, cs, hc⟩ : ∃ c cs, part.toList = c :: cs := by
      cases hl : part.toList with
      | nil => exact absurd (String.toList_eq_nil_iff.mp hl) (isStep_iff.mp hpart.step).1
      | cons c cs => exact ⟨c, cs, rfl⟩
    have hhead : ("/".intercalate (part :: parts)).toList.head? = some c := by
      rw [String.toList_intercalate, List.map_cons, hc]
      cases parts <;> rfl
    rw [hhead]
    rintro he
    rw [Option.some.inj he] at hc
    exact hpart.slashless (hc ▸ List.mem_cons_self ..)

section Render
variable {p : PurePath} (h : Clean p)
include h

theorem rootOf_render : rootOf p.render = p.root := by
  unfold PurePath.render
  split
  · rename_i hdot
    rw [Bool.and_eq_true, decide_eq_true_eq] at hdot
    rw [hdot.1]
    rfl
  · exact rootOf_append h.root (head?_intercalate h.parts)

/-- The text of a path is cut into its parts, after some that are no steps. -/
theorem slashParts_render : ∃ pre, slashParts p.render = pre ++ p.parts ∧ ∀ s ∈ pre, isStep s = false := by
  obtain ⟨root, parts⟩ := p
  have hroot : root = "" ∨ root = "/" ∨ root = "//" := h.root
  by_cases hnil : parts = []
  · subst hnil
    rcases hroot with rfl | rfl | rfl
    · exact ⟨["."], rfl, by decide⟩
    · exact ⟨["", ""], rfl, by decide⟩
    · exact ⟨["", "", ""], rfl, by decide⟩
  · have hparts : slashParts ("/".intercalate parts) = parts :=
      (Text.piecesOf_intercalate hnil).trans (Text.flatMap_piecesOf fun part hpart => (h.parts part hpart).slashless)
    have hrender : PurePath.render ⟨root, parts⟩ = root ++ "/".intercalate parts := by
      rw [PurePath.render, if_neg]
      rw [Bool.and_eq_true, List.isEmpty_iff]
      exact fun hboth => hnil hboth.2
    rw [hrender]
    rcases hroot with rfl | rfl | rfl
    · exact ⟨[], by rw [String.empty_append]; exact hparts, fun s hs => absurd hs List.not_mem_nil⟩
    · refine ⟨[""], ?_, by decide⟩
      exact (Text.piecesOf_append '/' "" ("/".intercalate parts)).trans (congrArg _ hparts)
    · refine ⟨["", ""], ?_, by decide⟩
      exact (Text.piecesOf_append '/' "/" ("/".intercalate parts)).trans (congrArg _ hparts)

theorem filter_slashParts_render : (slashParts p.render).filter isStep = p.parts := by
  obtain ⟨pre, hpre, hnone⟩ := slashParts_render h
  rw [hpre, List.filter_append, List.filter_eq_nil_iff.mpr, List.nil_append,
    List.filter_eq_self.mpr fun part hpart => (h.parts part hpart).step]
  intro s hs
  rw [hnone s hs]
  exact Bool.false_ne_true

theorem ofString_render : PurePath.ofString p.render = p := by
  rw [PurePath.ofString, rootOf_render h, filter_slashParts_render h]

/-- The text of a path with parts does not end in a slash. -/
theorem getLast?_slashParts_render (hne : p.parts ≠ []) : (slashParts p.render).getLast? ≠ some "" := by
  obtain ⟨pre, hpre, _⟩ := slashParts_render h
  rw [hpre, List.getLast?_append, List.getLast?_eq_some_getLast hne, Option.some_or]
  intro hlast
  have hpart := h.parts _ (List.getLast_mem hne)
  rw [Option.some.inj hlast] at hpart
  exact (isStep_iff.mp hpart.step).1 rfl

end Render

end ModelReach.Files
