import Mathlib.Data.List.Chain
import Mathlib.Order.WellFounded
import ModelReach.Proofs.Facts.Quoting

/-! Nested calls of a conversion. Four functions call each other: one converts an annotation, one any expression, one the
operands of a chain of alternatives and one a subscript. The first two read a string again, which may give an expression
of any size; but its strings are shorter. Between two readings the calls only go down into one expression. So strings
count before sizes, and sizes before the order in which the functions pass on one expression. -/
namespace ModelReach.Facts
set_option autoImplicit false

open Source (Expr SourceFault)

/-! ## Strings of an expression -/

mutual

/-- The strings that converting an expression may come to. -/
def strings : Expr → List Text
  | .constant (.text t _) => [t]
  | .binary left _ right => strings left ++ strings right
  | .subscript _ index => strings index
  | .tuple elts => stringsOf elts
  | _ => []

def stringsOf : List Expr → List Text
  | [] => []
  | e :: rest => strings e ++ stringsOf rest

end

/-- The length of the longest string; zero if there is none. -/
def longest (e : Expr) : Nat := (strings e).foldr (fun t n => max t.length n) 0

/-- Reading is well behaved: the strings in an expression are shorter than the text that it is read from, as they stand
in it between quotation marks, and the empty text is no expression. -/
structure Shortens (read : Reader) : Prop where
  shorter : ∀ t e, read t = .ok e → ∀ u ∈ strings e, u.length < t.length
  nonempty : ∀ e, read [] ≠ .ok e

example : Source.readExpression [] = .error .malformed := by rfl

variable {read : Reader} {s : Scope} {e index : Expr}

theorem longest_le_iff {n : Nat} : longest e ≤ n ↔ ∀ t ∈ strings e, t.length ≤ n := by
  have hfold : ∀ ts : List Text, ts.foldr (fun t n => max t.length n) 0 ≤ n ↔ ∀ t ∈ ts, t.length ≤ n := by
    intro ts
    induction ts with
    | nil => simp
    | cons t ts ih => rw [List.foldr_cons, Nat.max_le, ih, List.forall_mem_cons]
  exact hfold (strings e)

theorem length_le_longest {t : Text} (h : t ∈ strings e) : t.length ≤ longest e := longest_le_iff.mp (le_refl _) t h

theorem longest_le_of_subset {e' : Expr} (h : strings e ⊆ strings e') : longest e ≤ longest e' :=
  longest_le_iff.mpr fun _ ht => length_le_longest (h ht)

theorem longest_text {t : Text} (h : e.text? = some t) : longest e = t.length ∧ t ∈ strings e := by
  obtain ⟨marked, rfl⟩ := exists_text h
  rw [longest, strings]
  exact ⟨Nat.max_eq_left (Nat.zero_le _), List.mem_singleton_self t⟩

/-- What is read from a text has shorter strings only. -/
theorem Shortens.longest_lt (h : Shortens read) {t : Text} (hread : read t = .ok e) : longest e < t.length := by
  have hpos : 0 < t.length := by
    rw [List.length_pos_iff]
    rintro rfl
    exact h.nonempty e hread
  have hle : longest e ≤ t.length - 1 := longest_le_iff.mpr fun u hu => Nat.le_sub_one_of_lt (h.shorter t e hread u hu)
  omega

theorem strings_subset_stringsOf {elts : List Expr} (h : e ∈ elts) : strings e ⊆ stringsOf elts := by
  induction elts with
  | nil => cases h
  | cons first rest ih =>
    rw [stringsOf]
    rcases List.mem_cons.mp h with rfl | h
    · exact List.subset_append_left _ _
    · exact List.Subset.trans (ih h) (List.subset_append_right _ _)

/-- The elements of an index have no other strings, and are no larger. -/
theorem of_mem_indices (h : e ∈ index.indices) : strings e ⊆ strings index ∧ sizeOf e ≤ sizeOf index := by
  cases index with
  | tuple elts =>
    have hsize := List.sizeOf_lt_of_mem (show e ∈ elts from h)
    rw [strings, Expr.tuple.sizeOf_spec]
    exact ⟨strings_subset_stringsOf h, by omega⟩
  | _ =>
    rw [List.mem_singleton.mp h]
    exact ⟨List.Subset.refl _, le_refl _⟩

/-! ## Calls -/

/-- What a function of the conversion is asked for. -/
inductive Role where
  | tagged
  | reference
  | alternatives
  | subscript
  deriving DecidableEq

/-- A call of one of the functions with an expression. -/
structure Call where
  role : Role
  expr : Expr

/-- One call makes another one. An annotation and a reference go on with the expression in a string, if there is one.
The first element of an annotated type is an annotation again; a chain is taken apart; and a subscript goes on with its
elements, those of a literal excepted. -/
inductive Calls (read : Reader) (s : Scope) : Call → Call → Prop
  | annotated {e value index first : Expr} {metadata : List Expr} (hu : unquote read e = .ok (.subscript value index))
    (ho : s.origin value = .ok annotatedOrigin) (hi : index.indices = first :: metadata) :
    Calls read s ⟨.tagged, e⟩ ⟨.tagged, first⟩
  | plain {e inner : Expr} (hu : unquote read e = .ok inner)
    (ho : ∀ value index, inner = .subscript value index → s.origin value ≠ .ok annotatedOrigin) :
    Calls read s ⟨.tagged, e⟩ ⟨.reference, inner⟩
  | chain {e left right : Expr} (hu : unquote read e = .ok (.binary left .bitOr right)) :
    Calls read s ⟨.reference, e⟩ ⟨.alternatives, .binary left .bitOr right⟩
  | index {e value index : Expr} (hu : unquote read e = .ok (.subscript value index)) :
    Calls read s ⟨.reference, e⟩ ⟨.subscript, .subscript value index⟩
  | left {left right : Expr} : Calls read s ⟨.alternatives, .binary left .bitOr right⟩ ⟨.alternatives, left⟩
  | right {left right : Expr} : Calls read s ⟨.alternatives, .binary left .bitOr right⟩ ⟨.alternatives, right⟩
  | operand {e : Expr} (he : isChoice e = false) : Calls read s ⟨.alternatives, e⟩ ⟨.reference, e⟩
  | element {value index e : Expr} {origin : String} (ho : s.origin value = .ok origin) (hl : origin ≠ literalOrigin)
    (he : e ∈ index.indices) : Calls read s ⟨.subscript, .subscript value index⟩ ⟨.reference, e⟩

/-- The text that a call tries to read. -/
def Call.tried (c : Call) : Option Text :=
  match c.role with
  | .tagged | .reference => c.expr.text?
  | .alternatives | .subscript => none

/-- The text that a call reads again: it tries one, and there is an expression in it. -/
def Call.reread (read : Reader) (c : Call) : Option Text := c.tried.filter fun t => (read t).isOk

/-- The expression that a call looks into. -/
def Call.opened (read : Reader) (c : Call) : Except SourceFault Expr :=
  match c.role with
  | .tagged | .reference => unquote read c.expr
  | .alternatives | .subscript => .ok c.expr

/-- On one expression the functions call each other in the order of falling ranks. -/
def Call.rank (c : Call) : Nat :=
  match c.role with
  | .tagged => 3
  | .reference => 2
  | .alternatives => if isChoice c.expr then 1 else 3
  | .subscript => 1

/-- What becomes less with each call: the longest string counts before the size, and that before the rank. -/
noncomputable def Call.weight (c : Call) : Nat × Nat × Nat := (longest c.expr, sizeOf c.expr, c.rank)

variable {c d : Call} {inner : Expr} {t : Text}

theorem reread_eq_some : c.reread read = some t ↔ c.tried = some t ∧ ∃ e, read t = .ok e := by
  rw [Call.reread, Option.filter_eq_some_iff]
  refine and_congr_right fun _ => ?_
  cases read t with
  | ok e => exact iff_of_true rfl ⟨e, rfl⟩
  | error fault => exact iff_of_false Bool.false_ne_true fun ⟨_, h⟩ => nomatch h

theorem text?_of_tried (h : c.tried = some t) : c.expr.text? = some t := by
  unfold Call.tried at h
  split at h <;> first | exact h | cases h

/-- A call that reads no text looks into its own expression. -/
theorem opened_of_not_reread (h : c.reread read = none) (ho : c.opened read = .ok inner) : inner = c.expr := by
  have hunquote (hc : c.tried = c.expr.text?) (hu : unquote read c.expr = .ok inner) : inner = c.expr := by
    unfold unquote at hu
    split at hu
    · exact (Except.ok.inj hu).symm
    · rename_i t ht
      split at hu
      · rename_i e hread
        rw [reread_eq_some.mpr ⟨hc.trans ht, e, hread⟩] at h
        cases h
      · exact (Except.ok.inj hu).symm
      · cases hu
  obtain ⟨role, e⟩ := c
  cases role with
  | tagged => exact hunquote rfl ho
  | reference => exact hunquote rfl ho
  | alternatives => exact (Except.ok.inj ho).symm
  | subscript => exact (Except.ok.inj ho).symm

/-- A call that reads a text looks into the expression in it. -/
theorem read_of_reread (h : c.reread read = some t) (ho : c.opened read = .ok inner) : read t = .ok inner := by
  obtain ⟨htried, e, hread⟩ := reread_eq_some.mp h
  have htext := text?_of_tried htried
  obtain ⟨marked, he⟩ := exists_text htext
  have hunquote : unquote read c.expr = .ok e := by
    rw [he]
    exact unquote_text hread
  have hopened : c.opened read = unquote read c.expr := by
    unfold Call.tried at htried
    unfold Call.opened
    split at htried <;> first | rfl | cases htried
  rw [hopened, hunquote] at ho
  rw [hread, ho]

/-! ## One call -/

/-- A call goes to a smaller part of what it looks into, or hands that on to a function of lower rank. -/
theorem Calls.enters (h : Calls read s c d) : ∃ inner, c.opened read = .ok inner ∧ strings d.expr ⊆ strings inner ∧
    (sizeOf d.expr < sizeOf inner ∨ d.expr = inner ∧ d.rank < c.rank) := by
  have helement {value index e : Expr} (he : e ∈ index.indices) : strings e ⊆ strings (.subscript value index) ∧
      sizeOf e < sizeOf (Expr.subscript value index) := by
    obtain ⟨hstrings, hsize⟩ := of_mem_indices he
    rw [strings, Expr.subscript.sizeOf_spec]
    exact ⟨hstrings, by omega⟩
  cases h with
  | annotated hu _ hi =>
    obtain ⟨hstrings, hsize⟩ := helement (hi ▸ List.mem_cons_self ..)
    exact ⟨_, hu, hstrings, Or.inl hsize⟩
  | plain hu _ => exact ⟨_, hu, List.Subset.refl _, Or.inr ⟨rfl, Nat.lt_succ_self 2⟩⟩
  | chain hu => exact ⟨_, hu, List.Subset.refl _, Or.inr ⟨rfl, Nat.lt_succ_self 1⟩⟩
  | index hu => exact ⟨_, hu, List.Subset.refl _, Or.inr ⟨rfl, Nat.lt_succ_self 1⟩⟩
  | @left left right =>
    have hsize : sizeOf left < sizeOf (Expr.binary left .bitOr right) := by
      rw [Expr.binary.sizeOf_spec]
      omega
    refine ⟨_, rfl, ?_, Or.inl hsize⟩
    rw [strings]
    exact List.subset_append_left _ _
  | @right left right =>
    have hsize : sizeOf right < sizeOf (Expr.binary left .bitOr right) := by
      rw [Expr.binary.sizeOf_spec]
      omega
    refine ⟨_, rfl, ?_, Or.inl hsize⟩
    rw [strings]
    exact List.subset_append_right _ _
  | operand he =>
    refine ⟨_, rfl, List.Subset.refl _, Or.inr ⟨rfl, ?_⟩⟩
    simp [Call.rank, he]
  | element _ _ he =>
    obtain ⟨hstrings, hsize⟩ := helement he
    exact ⟨_, rfl, hstrings, Or.inl hsize⟩

/-- One call is for less than another one: for a smaller expression, or for the same one of a function of lower rank. -/
def Less (d c : Call) : Prop := sizeOf d.expr < sizeOf c.expr ∨ d.expr = c.expr ∧ d.rank < c.rank

theorem Less.trans {b : Call} (h : Less d c) (h' : Less c b) : Less d b := by
  rcases h with h | ⟨he, h⟩
  · rcases h' with h' | ⟨he', _⟩
    · exact Or.inl (h.trans h')
    · exact Or.inl (he' ▸ h)
  · rcases h' with h' | ⟨he', h'⟩
    · exact Or.inl (he ▸ h')
    · exact Or.inr ⟨he.trans he', h.trans h'⟩

theorem Calls.less (h : Calls read s c d) (hc : c.reread read = none) : Less d c := by
  obtain ⟨inner, hopened, _, hless⟩ := h.enters
  rw [opened_of_not_reread hc hopened] at hless
  exact hless

section Shortens
variable (hread : Shortens read)
include hread

theorem Calls.longest_lt (h : Calls read s c d) (hc : c.reread read = some t) : longest d.expr < t.length := by
  obtain ⟨inner, hopened, hstrings, _⟩ := h.enters
  exact (longest_le_of_subset hstrings).trans_lt (hread.longest_lt (read_of_reread hc hopened))

theorem Calls.longest_le (h : Calls read s c d) : longest d.expr ≤ longest c.expr := by
  cases hc : c.reread read with
  | none =>
    obtain ⟨inner, hopened, hstrings, _⟩ := h.enters
    rw [opened_of_not_reread hc hopened] at hstrings
    exact longest_le_of_subset hstrings
  | some t =>
    rw [(longest_text (text?_of_tried (reread_eq_some.mp hc).1)).1]
    exact (h.longest_lt hread hc).le

/-- No call can be nested without end. -/
theorem wellFounded_calls : WellFounded fun d c => Calls read s c d := by
  have hlex : WellFounded (InvImage (Prod.Lex (· < ·) (Prod.Lex (· < ·) (· < ·))) Call.weight) :=
    InvImage.wf _ (WellFounded.prod_lex Nat.lt_wfRel.wf (WellFounded.prod_lex Nat.lt_wfRel.wf Nat.lt_wfRel.wf))
  refine Subrelation.wf (fun {d c} h => ?_) hlex
  rw [InvImage, Prod.lex_def, Prod.lex_def]
  cases hc : c.reread read with
  | none =>
    rcases (h.longest_le hread).lt_or_eq with hlt | heq
    · exact Or.inl hlt
    · rcases h.less hc with hsize | ⟨he, hrank⟩
      · exact Or.inr ⟨heq, Or.inl hsize⟩
      · exact Or.inr ⟨heq, Or.inr ⟨congrArg sizeOf he, hrank⟩⟩
  | some t =>
    refine Or.inl ?_
    rw [Call.weight, Call.weight, (longest_text (text?_of_tried (reread_eq_some.mp hc).1)).1]
    exact h.longest_lt hread hc

/-! ## Chains of nested calls -/

variable {calls : List Call}

theorem longest_of_chain (h : (c :: calls).IsChain (Calls read s)) : ∀ d ∈ calls,
    longest d.expr ≤ longest c.expr ∧ ∀ t, c.reread read = some t → longest d.expr < t.length := by
  induction calls generalizing c with
  | nil => exact fun d hd => absurd hd List.not_mem_nil
  | cons next calls ih =>
    obtain ⟨hcall, hrest⟩ := List.isChain_cons_cons.mp h
    have hle := hcall.longest_le hread
    intro d hd
    rcases List.mem_cons.mp hd with rfl | hd
    · exact ⟨hle, fun t ht => hcall.longest_lt hread ht⟩
    · have hlater := (ih hrest d hd).1
      exact ⟨hlater.trans hle, fun t ht => hlater.trans_lt (hcall.longest_lt hread ht)⟩

/-- The texts that are read again along a chain of calls become shorter and shorter. -/
theorem pairwise_reread (h : calls.IsChain (Calls read s)) :
    (calls.filterMap (Call.reread read)).Pairwise fun t u => u.length < t.length := by
  induction calls with
  | nil => exact List.Pairwise.nil
  | cons c calls ih =>
    have hrest := ih h.tail
    rw [List.filterMap_cons]
    split
    · exact hrest
    · rename_i t ht
      rw [List.pairwise_cons]
      refine ⟨fun u hu => ?_, hrest⟩
      obtain ⟨d, hd, hdu⟩ := List.mem_filterMap.mp hu
      have hlonger := (longest_of_chain hread h d hd).2 t ht
      rw [(longest_text (text?_of_tried (reread_eq_some.mp hdu).1)).1] at hlonger
      exact hlonger

omit hread in
theorem length_reread_cons_le (hle : (calls.filterMap (Call.reread read)).length ≤ longest c.expr)
    (hlt : ∀ t, c.reread read = some t → (calls.filterMap (Call.reread read)).length < t.length) :
    ((c :: calls).filterMap (Call.reread read)).length ≤ longest c.expr := by
  cases hc : c.reread read with
  | none =>
    rw [List.filterMap_cons_none hc]
    exact hle
  | some t =>
    rw [List.filterMap_cons_some hc, List.length_cons, (longest_text (text?_of_tried (reread_eq_some.mp hc).1)).1]
    exact hlt t hc

/-- No more texts are read again along a chain than the longest string has characters. -/
theorem length_reread_le (h : (c :: calls).IsChain (Calls read s)) :
    ((c :: calls).filterMap (Call.reread read)).length ≤ longest c.expr := by
  induction calls generalizing c with
  | nil =>
    refine length_reread_cons_le (Nat.zero_le _) fun t ht => ?_
    obtain ⟨_, e, he⟩ := reread_eq_some.mp ht
    exact Nat.zero_lt_of_lt (hread.longest_lt he)
  | cons next calls ih =>
    obtain ⟨hcall, hrest⟩ := List.isChain_cons_cons.mp h
    have hle := ih hrest
    exact length_reread_cons_le (hle.trans (hcall.longest_le hread)) fun t ht =>
      hle.trans_lt (hcall.longest_lt hread ht)

end Shortens

/-- As long as no text is read again, calls are for less and less. -/
theorem less_of_chain {between : List Call} (h : (c :: (between ++ [d])).IsChain (Calls read s))
    (hnone : ∀ x ∈ c :: between, x.reread read = none) : Less d c := by
  induction between generalizing c with
  | nil => exact (List.isChain_cons_cons.mp h).1.less (hnone c (List.mem_cons_self ..))
  | cons next between ih =>
    obtain ⟨hcall, hrest⟩ := List.isChain_cons_cons.mp h
    exact (ih hrest fun x hx => hnone x (List.mem_cons_of_mem c hx)).trans (hcall.less (hnone c (List.mem_cons_self ..)))

/-- A function that is called again before a text is read is called for a smaller expression. -/
theorem sizeOf_lt_of_chain {between : List Call} (h : (c :: (between ++ [d])).IsChain (Calls read s))
    (hnone : ∀ x ∈ c :: between, x.reread read = none) (hrole : d.role = c.role) : sizeOf d.expr < sizeOf c.expr := by
  rcases less_of_chain h hnone with hless | ⟨he, hrank⟩
  · exact hless
  · unfold Call.rank at hrank
    rw [hrole, he] at hrank
    exact absurd hrank (lt_irrefl _)

/-- A text that cannot be read is tried once more at most, as what an annotation hands on, and ends the chain. -/
theorem chain_of_not_reread {calls : List Call} (h : (c :: calls).IsChain (Calls read s)) (ht : c.tried = some t)
    (hnone : c.reread read = none) : calls = [] ∨ c.role = .tagged ∧ calls = [⟨.reference, c.expr⟩] := by
  have hlast {c d : Call} (hcall : Calls read s c d) (ht : c.tried = some t) (hnone : c.reread read = none) :
      c.role = .tagged ∧ d = ⟨.reference, c.expr⟩ := by
    have hown {inner : Expr} (hu : c.opened read = .ok inner) : inner = c.expr := opened_of_not_reread hnone hu
    obtain ⟨marked, he⟩ := exists_text (text?_of_tried ht)
    cases hcall with
    | annotated hu _ _ => exact absurd ((hown hu).trans he) nofun
    | plain hu _ => exact ⟨rfl, congrArg (Call.mk .reference) (hown hu)⟩
    | chain hu => exact absurd ((hown hu).trans he) nofun
    | index hu => exact absurd ((hown hu).trans he) nofun
    | left => cases ht
    | right => cases ht
    | operand _ => cases ht
    | element _ _ _ => cases ht
  cases calls with
  | nil => exact Or.inl rfl
  | cons d calls =>
    obtain ⟨hcall, hrest⟩ := List.isChain_cons_cons.mp h
    obtain ⟨hrole, rfl⟩ := hlast hcall ht hnone
    refine Or.inr ⟨hrole, ?_⟩
    cases calls with
    | nil => rfl
    | cons next calls =>
      have htext : (Call.mk .reference c.expr).tried = some t := text?_of_tried (c := c) ht
      have hfails : (Call.mk .reference c.expr).reread read = none := by
        rw [Call.reread, htext, ← ht]
        exact hnone
      have hrole' := (hlast (List.isChain_cons_cons.mp hrest).1 htext hfails).1
      cases hrole'

end ModelReach.Facts
