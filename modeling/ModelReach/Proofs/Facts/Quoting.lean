import Mathlib
import ModelReach.Proofs.Facts.Faults

/-! Quoted annotations. Parts of an annotation may be written as strings of their source, at any depth, and it means the
same: it is converted to the same reference with the same tags, and marks a variable of the class or does not. What a
string is read as is a hypothesis about each string; so is that its text is longer than the strings in the expression
that it is read as, since source encloses them in quotation marks. -/
namespace ModelReach.Facts
set_option autoImplicit false

open Source (Expr SourceFault printExpr printAll)

/-! ## Annotations with quoted parts -/

/-- Is an expression a chain of alternatives? -/
def isChoice : Expr → Bool
  | .binary _ .bitOr _ => true
  | _ => false

/-- The expression can be written out. -/
def Writes (e : Expr) : Prop := ∃ out, e.print = .ok out

section Quoted
variable (read : Reader) (s : Scope)

mutual

/-- The second expression is the first one with some of its parts quoted, but not as a whole. The first one is built
from dotted names, None, ellipses, alternatives and subscripts of dotted names. Indices of literals and metadata are
left alone. All strings that were put in have fewer characters than `size`. -/
inductive Respelled : Nat → Expr → Expr → Prop
  | name {size : Nat} {e : Expr} {name : String} (he : e.dottedName? = some name) : Respelled size e e
  | absent {size : Nat} : Respelled size (.constant .none) (.constant .none)
  | ellipsis {size : Nat} : Respelled size (.constant .ellipsis) (.constant .ellipsis)
  | choice {size : Nat} {left right left' right' : Expr} (hl : Quoted size left left') (hr : Quoted size right right')
    (hleft : left'.text? ≠ none → isChoice left = false) (hright : right'.text? ≠ none → isChoice right = false) :
    Respelled size (.binary left .bitOr right) (.binary left' .bitOr right')
  | index {size : Nat} {head e e' : Expr} {name : String} (hhead : head.dottedName? = some name)
    (hliteral : s.qualify name ≠ literalOrigin) (h : Quoted size e e') :
    Respelled size (.subscript head e) (.subscript head e')
  | indices {size : Nat} {head : Expr} {name : String} {elts elts' : List Expr} (hhead : head.dottedName? = some name)
    (hliteral : s.qualify name ≠ literalOrigin) (hannotated : s.qualify name ≠ annotatedOrigin)
    (h : QuotedAll size elts elts') : Respelled size (.subscript head (.tuple elts)) (.subscript head (.tuple elts'))
  | annotated {size : Nat} {head e e' : Expr} {name : String} {metadata : List Expr}
    (hhead : head.dottedName? = some name) (hannotated : s.qualify name = annotatedOrigin) (h : Quoted size e e')
    (hmetadata : ∀ x ∈ metadata, Writes x) :
    Respelled size (.subscript head (.tuple (e :: metadata))) (.subscript head (.tuple (e' :: metadata)))
  | unindexed {size : Nat} {head : Expr} {name : String} (hhead : head.dottedName? = some name) :
    Respelled size (.subscript head (.tuple [])) (.subscript head (.tuple []))
  | literal {size : Nat} {head e : Expr} {name : String} (hhead : head.dottedName? = some name)
    (hliteral : s.qualify name = literalOrigin) (hindex : Writes e) :
    Respelled size (.subscript head e) (.subscript head e)

/-- The second expression is the first one with some of its parts quoted, or is a string that is read as such an
expression. A bare ellipsis is not quoted. -/
inductive Quoted : Nat → Expr → Expr → Prop
  | plain {size : Nat} {e e' : Expr} (h : Respelled size e e') : Quoted size e e'
  | quoted {size : Nat} {e e' : Expr} {t : Text} {marked : Bool} (h : Respelled t.length e e') (hread : read t = .ok e')
    (hdots : isEllipsis e = false) (hsize : t.length < size) : Quoted size e (.constant (.text t marked))

inductive QuotedAll : Nat → List Expr → List Expr → Prop
  | nil {size : Nat} : QuotedAll size [] []
  | cons {size : Nat} {e e' : Expr} {es es' : List Expr} (h : Quoted size e e') (hrest : QuotedAll size es es') :
    QuotedAll size (e :: es) (e' :: es')

end

end Quoted

variable {read : Reader} {s : Scope} {size : Nat} {e e' head : Expr} {name : String} {elts elts' : List Expr}

theorem Respelled.text?_eq_none (h : Respelled read s size e e') : e.text? = none ∧ e'.text? = none := by
  cases h with
  | name he => cases e <;> first | exact ⟨rfl, rfl⟩ | cases he
  | _ => exact ⟨rfl, rfl⟩

theorem Respelled.ne_tuple (h : Respelled read s size e e') (elts : List Expr) :
    e ≠ .tuple elts ∧ e' ≠ .tuple elts := by
  constructor
  · rintro rfl
    cases h with
    | name he => cases he
  · rintro rfl
    cases h with
    | name he => cases he

theorem Quoted.ne_tuple (h : Quoted read s size e e') (elts : List Expr) : e ≠ .tuple elts ∧ e' ≠ .tuple elts := by
  cases h with
  | plain h => exact h.ne_tuple elts
  | quoted h _ _ _ => exact ⟨(h.ne_tuple elts).1, nofun⟩

theorem Respelled.isEllipsis_eq (h : Respelled read s size e e') : isEllipsis e' = isEllipsis e := by
  cases h <;> rfl

theorem Quoted.isEllipsis_eq (h : Quoted read s size e e') : isEllipsis e' = isEllipsis e := by
  cases h with
  | plain h => exact h.isEllipsis_eq
  | quoted _ _ hdots _ => exact hdots.symm

/-! ## Names and subscripts -/

theorem name_or_attribute (he : e.dottedName? = some name) :
    (∃ id, e = .name id) ∨ ∃ value attr, e = .attribute value attr := by
  unfold Expr.dottedName? at he
  split at he
  · exact Or.inl ⟨_, rfl⟩
  · exact Or.inr ⟨_, _, rfl⟩
  · cases he

theorem origin_of_dottedName (he : e.dottedName? = some name) : s.origin e = pure (s.qualify name) := by
  rw [Scope.origin, he]
  rfl

section Subscripts
variable (literal : Text → RefResult) (tagged : Text → TaggedResult)

theorem alternatives_of_dottedName (he : e.dottedName? = some name) :
    alternatives s literal e = pure [.named (s.qualify name)] := by
  have horigin := origin_of_dottedName (s := s) he
  rcases name_or_attribute he with ⟨id, rfl⟩ | ⟨value, attr, rfl⟩
  · simp only [alternatives, horigin, pure_bind]
  · simp only [alternatives, horigin, pure_bind]

theorem alternatives_index (hhead : head.dottedName? = some name) (he : ∀ elts, e ≠ .tuple elts) :
    alternatives s literal (.subscript head e) =
      (do let ref ← subscriptRef (s.qualify name) [(isEllipsis e, exprRef s literal e)]; pure [ref]) := by
  rw [alternatives, origin_of_dottedName hhead, pure_bind]
  · simp only [exprRef]
  · exact he

theorem alternatives_indices (hhead : head.dottedName? = some name) (elts : List Expr) :
    alternatives s literal (.subscript head (.tuple elts)) =
      (do let ref ← subscriptRef (s.qualify name) (elementResults s literal elts); pure [ref]) := by
  rw [alternatives, origin_of_dottedName hhead, pure_bind]

/-- The indices of a literal do not matter. -/
theorem subscriptRef_literal (results : List (Bool × RefResult)) :
    subscriptRef literalOrigin results = .ok (.generic literalOrigin []) := by
  unfold subscriptRef
  rw [if_neg (by decide), if_pos rfl]

theorem alternatives_literal (hhead : head.dottedName? = some name) (hliteral : s.qualify name = literalOrigin) :
    alternatives s literal (.subscript head e) = .ok [.generic literalOrigin []] := by
  by_cases h : ∃ elts, e = .tuple elts
  · obtain ⟨elts, rfl⟩ := h
    rw [alternatives_indices literal hhead, hliteral, subscriptRef_literal]
    rfl
  · rw [alternatives_index literal hhead fun elts he => h ⟨elts, he⟩, hliteral, subscriptRef_literal]
    rfl

/-- Of the elements of an annotated type only the first matters. -/
theorem subscriptRef_annotated (result : Bool × RefResult) (rest : List (Bool × RefResult)) :
    subscriptRef annotatedOrigin (result :: rest) = result.2 := by
  unfold subscriptRef
  rw [if_pos rfl]
  rfl

theorem taggedOf_index (hhead : head.dottedName? = some name) (he : ∀ elts, e ≠ .tuple elts) :
    taggedOf s literal tagged (.subscript head e) =
      if s.qualify name = annotatedOrigin then taggedOf s literal tagged e
      else (do let ref ← exprRef s literal (.subscript head e); pure (ref, [])) := by
  rw [taggedOf, origin_of_dottedName hhead, pure_bind]
  exact he

theorem taggedOf_plain (hhead : head.dottedName? = some name) (hannotated : s.qualify name ≠ annotatedOrigin) :
    taggedOf s literal tagged (.subscript head e) =
      (do let ref ← exprRef s literal (.subscript head e); pure (ref, [])) := by
  by_cases h : ∃ elts, e = .tuple elts
  · obtain ⟨elts, rfl⟩ := h
    unfold taggedOf
    rw [origin_of_dottedName hhead, pure_bind, if_neg hannotated]
  · rw [taggedOf_index literal tagged hhead fun elts he => h ⟨elts, he⟩, if_neg hannotated]

theorem taggedOf_annotated (hhead : head.dottedName? = some name) (hannotated : s.qualify name = annotatedOrigin)
    (first : Expr) (metadata : List Expr) : taggedOf s literal tagged (.subscript head (.tuple (first :: metadata))) =
      (do let (ref, tags) ← taggedOf s literal tagged first; pure (ref, tags ++ metadataTags metadata)) := by
  rw [taggedOf, origin_of_dottedName hhead, pure_bind, if_pos hannotated]

end Subscripts

/-! ## References -/

section References
variable {literal : Text → RefResult}

theorem exprRef_of_alternatives {result : RefResult}
    (h : alternatives s literal e = (do let ref ← result; pure [ref])) : exprRef s literal e = result := by
  rw [exprRef, h, bind_assoc]
  simp only [pure_bind, joinAlternatives, bind_pure]

/-- What is no chain is its own single alternative. -/
theorem alternatives_single (he : isChoice e = false) :
    alternatives s literal e = (do let ref ← exprRef s literal e; pure [ref]) := by
  have hsingle : ∃ result : RefResult, alternatives s literal e = (do let ref ← result; pure [ref]) := by
    unfold alternatives
    split
    · exact ⟨_, rfl⟩
    · exact ⟨_, rfl⟩
    · cases he
    · exact ⟨_, (bind_assoc _ _ _).symm⟩
    · exact ⟨_, (bind_assoc _ _ _).symm⟩
    · exact ⟨do let name ← s.origin e; pure (.named name), by simp only [bind_assoc, pure_bind]⟩
  obtain ⟨result, hresult⟩ := hsingle
  rw [exprRef_of_alternatives hresult, hresult]

/-- A string is converted as the expression that it is read as. -/
theorem exprRef_text {t : Text} (hread : read t = .ok e) (he : e.text? = none) {fuel : Text → Nat}
    (hfuel : t.length < fuel t) {result : RefResult}
    (h : ∀ n, t.length ≤ n → exprRef s (literalRef read s n) e = result) (marked : Bool) :
    exprRef s (fun t => literalRef read s (fuel t) t) (.constant (.text t marked)) = result := by
  obtain ⟨n, hn⟩ := Nat.exists_eq_add_of_lt hfuel
  refine (exprRef_of_alternatives (by rw [alternatives])).trans ?_
  rw [hn, literalRef, hread, ← h (t.length + n) (Nat.le_add_right _ _)]
  exact (by rw [unquotedRef, he] : unquotedRef s (literalRef read s (t.length + n)) e = _)

mutual

/-- Conversion does not see which parts are quoted, if there is fuel for all strings that were put in. -/
theorem alternatives_respelled : ∀ {e e' : Expr} {size : Nat}, Respelled read s size e e' → ∀ {fuel : Text → Nat},
    (∀ t : Text, t.length < size → t.length < fuel t) →
      alternatives s (fun t => literalRef read s (fuel t) t) e' = alternatives s literal e
  | _, _, _, .name he, _, _ => by rw [alternatives_of_dottedName _ he, alternatives_of_dottedName _ he]
  | _, _, _, .absent, _, _ => rfl
  | _, _, _, .ellipsis, _, _ => rfl
  | _, _, _, .choice hl hr hleft hright, _, hfuel => by
    rw [alternatives, alternatives, (exprRef_quoted hl hfuel).2 hleft, (exprRef_quoted hr hfuel).2 hright]
  | _, _, _, .index hhead _ h, _, hfuel => by
    rw [alternatives_index _ hhead fun elts => (h.ne_tuple elts).2,
      alternatives_index _ hhead fun elts => (h.ne_tuple elts).1, (exprRef_quoted h hfuel).1, h.isEllipsis_eq]
  | _, _, _, .indices hhead _ _ h, _, hfuel => by
    rw [alternatives_indices _ hhead, alternatives_indices _ hhead, elementResults_quoted h hfuel]
  | _, _, _, .annotated hhead hannotated h _, _, hfuel => by
    rw [alternatives_indices _ hhead, alternatives_indices _ hhead, hannotated, elementResults, elementResults,
      subscriptRef_annotated, subscriptRef_annotated]
    exact congrArg (fun result : RefResult => (do let ref ← result; pure [ref])) (exprRef_quoted h hfuel).1
  | _, _, _, .unindexed hhead, _, _ => by
    rw [alternatives_indices _ hhead, alternatives_indices _ hhead, elementResults, elementResults]
  | _, _, _, .literal hhead hliteral _, _, _ => by
    rw [alternatives_literal _ hhead hliteral, alternatives_literal _ hhead hliteral]

/-- A string is a single alternative, and so is what it is read as, unless that is a chain. -/
theorem exprRef_quoted : ∀ {e e' : Expr} {size : Nat}, Quoted read s size e e' → ∀ {fuel : Text → Nat},
    (∀ t : Text, t.length < size → t.length < fuel t) →
      exprRef s (fun t => literalRef read s (fuel t) t) e' = exprRef s literal e ∧
        ((e'.text? ≠ none → isChoice e = false) →
          alternatives s (fun t => literalRef read s (fuel t) t) e' = alternatives s literal e)
  | _, _, _, .plain h, _, hfuel => by
    have hsame := alternatives_respelled h hfuel
    exact ⟨by rw [exprRef, exprRef, hsame], fun _ => hsame⟩
  | e, _, _, @Quoted.quoted _ _ _ _ e' t _ h hread _ hsize, _, hfuel => by
    have hinner (n : Nat) (hn : t.length ≤ n) : exprRef s (literalRef read s n) e' = exprRef s literal e := by
      have hless : ∀ u : Text, u.length < t.length → u.length < n := fun u hu => by omega
      rw [exprRef, exprRef, alternatives_respelled h hless]
    have hsame := exprRef_text hread h.text?_eq_none.2 (hfuel t hsize) hinner
    exact ⟨hsame _, fun hchoice => by rw [alternatives_single rfl, alternatives_single (hchoice nofun), hsame]⟩

theorem elementResults_quoted : ∀ {es es' : List Expr} {size : Nat}, QuotedAll read s size es es' →
    ∀ {fuel : Text → Nat}, (∀ t : Text, t.length < size → t.length < fuel t) →
      elementResults s (fun t => literalRef read s (fuel t) t) es' = elementResults s literal es
  | _, _, _, .nil, fuel, _ => by rw [elementResults, elementResults]
  | _, _, _, .cons h hrest, fuel, hfuel => by
    rw [elementResults, elementResults, elementResults_quoted hrest hfuel, h.isEllipsis_eq]
    exact congrArg (fun result : RefResult => (_, result) :: _) (exprRef_quoted h hfuel).1

end

theorem exprRef_respelled (h : Respelled read s size e e') {fuel : Text → Nat}
    (hfuel : ∀ t : Text, t.length < size → t.length < fuel t) :
    exprRef s (fun t => literalRef read s (fuel t) t) e' = exprRef s literal e :=
  (exprRef_quoted (Quoted.plain h) hfuel).1

end References

/-! ## Tags -/

section Tags
variable {literal : Text → RefResult} {tagged : Text → TaggedResult}

/-- What is no subscript has no tags. -/
theorem taggedOf_untagged (htext : e.text? = none) (he : ∀ head index, e ≠ .subscript head index) :
    taggedOf s literal tagged e = (do let ref ← exprRef s literal e; pure (ref, [])) := by
  unfold taggedOf
  split
  · cases htext
  · exact absurd rfl (he _ _)
  · exact absurd rfl (he _ _)
  · rfl

mutual

theorem taggedOf_respelled : ∀ {e e' : Expr} {size : Nat}, Respelled read s size e e' → ∀ {fuel : Text → Nat},
    (∀ t : Text, t.length < size → t.length < fuel t) →
      taggedOf s (fun t => literalRef read s (fuel t) t) (fun t => literalTagged read s (fuel t) t) e' =
        taggedOf s literal tagged e
  | e, _, _, .name he, _, hfuel => by
    have hsubscript : ∀ head index, e ≠ .subscript head index := by
      rintro _ _ rfl
      cases he
    have htext := (Respelled.name he : Respelled read s 0 e e).text?_eq_none.1
    rw [taggedOf_untagged htext hsubscript, taggedOf_untagged htext hsubscript,
      exprRef_respelled (Respelled.name he) hfuel]
  | _, _, _, .absent, _, _ => rfl
  | _, _, _, .ellipsis, _, _ => rfl
  | _, _, _, .choice hl hr hleft hright, _, hfuel => by
    have hsubscript {left right : Expr} : ∀ head index, Expr.binary left .bitOr right ≠ .subscript head index := nofun
    rw [taggedOf_untagged rfl hsubscript, taggedOf_untagged rfl hsubscript,
      exprRef_respelled (Respelled.choice hl hr hleft hright) hfuel]
  | _, _, _, .index hhead hliteral h, _, hfuel => by
    rw [taggedOf_index _ _ hhead fun elts => (h.ne_tuple elts).2,
      taggedOf_index _ _ hhead fun elts => (h.ne_tuple elts).1, taggedOf_quoted h hfuel,
      exprRef_respelled (Respelled.index hhead hliteral h) hfuel]
  | _, _, _, .indices hhead hliteral hannotated h, _, hfuel => by
    rw [taggedOf_plain _ _ hhead hannotated, taggedOf_plain _ _ hhead hannotated,
      exprRef_respelled (Respelled.indices hhead hliteral hannotated h) hfuel]
  | _, _, _, .annotated hhead hannotated h _, _, hfuel => by
    rw [taggedOf_annotated _ _ hhead hannotated, taggedOf_annotated _ _ hhead hannotated, taggedOf_quoted h hfuel]
  | _, _, _, @Respelled.unindexed _ _ _ _ name hhead, _, hfuel => by
    by_cases hannotated : s.qualify name = annotatedOrigin
    · unfold taggedOf
      rw [origin_of_dottedName hhead, pure_bind, pure_bind, if_pos hannotated, if_pos hannotated]
    · rw [taggedOf_plain _ _ hhead hannotated, taggedOf_plain _ _ hhead hannotated,
        exprRef_respelled (Respelled.unindexed hhead) hfuel]
  | _, _, _, @Respelled.literal _ _ _ _ _ name hhead hliteral hindex, _, hfuel => by
    have hannotated : s.qualify name ≠ annotatedOrigin := by
      rw [hliteral]
      decide
    rw [taggedOf_plain _ _ hhead hannotated, taggedOf_plain _ _ hhead hannotated,
      exprRef_respelled (Respelled.literal hhead hliteral hindex) hfuel]

theorem taggedOf_quoted : ∀ {e e' : Expr} {size : Nat}, Quoted read s size e e' → ∀ {fuel : Text → Nat},
    (∀ t : Text, t.length < size → t.length < fuel t) →
      taggedOf s (fun t => literalRef read s (fuel t) t) (fun t => literalTagged read s (fuel t) t) e' =
        taggedOf s literal tagged e
  | _, _, _, .plain h, _, hfuel => taggedOf_respelled h hfuel
  | _, _, _, @Quoted.quoted _ _ _ _ e' t _ h hread _ hsize, _, hfuel => by
    obtain ⟨n, hn⟩ := Nat.exists_eq_add_of_lt (hfuel t hsize)
    have hless : ∀ u : Text, u.length < t.length → u.length < t.length + n := fun u hu => by omega
    rw [taggedOf, hn, literalTagged, hread, ← taggedOf_respelled h hless]
    exact (by rw [unquotedTagged, h.text?_eq_none.2] : unquotedTagged s (literalRef read s (t.length + n))
      (literalTagged read s (t.length + n)) e' = _)

end

end Tags

/-! ## Class variables -/

/-- The expression can be written out in any place. -/
def Prints (e : Expr) : Prop := ∀ place, ∃ out, printExpr false e place = .ok out

theorem Prints.writes (h : Prints e) : Writes e := h _

theorem prints_of_dottedName (he : e.dottedName? = some name) : Prints e := by
  fun_induction Expr.dottedName? e generalizing name with
  | case1 id => exact fun _ => ⟨id, by rw [printExpr]⟩
  | case2 value attr ih =>
    obtain ⟨base, hbase, _⟩ := Option.map_eq_some_iff.mp he
    obtain ⟨out, hout⟩ := ih hbase Source.Precedence.atom
    exact fun _ => ⟨_, by rw [printExpr, hout]; rfl⟩
  | case3 => cases he

theorem writes_tuple (h : ∀ x ∈ elts, Writes x) : Writes (.tuple elts) := by
  have hall : ∃ outs, printAll false elts = .ok outs := by
    induction elts with
    | nil => exact ⟨[], by rw [printAll]⟩
    | cons x elts ih =>
      obtain ⟨out, hout⟩ := h x (List.mem_cons_self ..)
      obtain ⟨outs, houts⟩ := ih fun y hy => h y (List.mem_cons_of_mem _ hy)
      rw [Expr.print] at hout
      exact ⟨out :: outs, by rw [printAll, hout, houts]; rfl⟩
  obtain ⟨outs, houts⟩ := hall
  exact ⟨_, by rw [Expr.print, printExpr, houts]; rfl⟩

theorem prints_subscript (hhead : head.dottedName? = some name) (he : Writes e) : Prints (.subscript head e) := by
  intro place
  obtain ⟨base, hbase⟩ := prints_of_dottedName hhead Source.Precedence.atom
  obtain ⟨out, hout⟩ := he
  rw [Expr.print] at hout
  by_cases h : ∃ first rest, e = .tuple (first :: rest)
  · obtain ⟨first, rest, rfl⟩ := h
    rw [printExpr] at hout
    rw [printExpr, hbase]
    cases hall : printAll false (first :: rest) with
    | ok items => exact ⟨_, rfl⟩
    | error fault =>
      rw [hall] at hout
      cases hout
  · refine ⟨base ++ "[" ++ out ++ "]", ?_⟩
    rw [printExpr, hbase, hout]
    · rfl
    · exact fun first rest he => h ⟨first, rest, he⟩

theorem prints_constant {c : Source.Constant} {out : String} (hc : Source.writeConstant false c = .ok out) :
    Prints (.constant c) := fun _ => ⟨out, by rw [printExpr, hc]⟩

/-- Alternatives are written with a bar between them. -/
theorem print_choice {left right : Expr} (hl : Prints left) (hr : Prints right) :
    ∃ a b, ∀ place, printExpr false (.binary left .bitOr right) place =
      .ok (Source.enclose Source.Precedence.bitOr place (a ++ " " ++ "|" ++ " " ++ b)) := by
  obtain ⟨a, ha⟩ := hl Source.BinaryOp.bitOr.operandPrecedences.1
  obtain ⟨b, hb⟩ := hr Source.BinaryOp.bitOr.operandPrecedences.2
  refine ⟨a, b, fun place => ?_⟩
  rw [printExpr, ha, hb]
  rfl

theorem prints_choice {left right : Expr} (hl : Prints left) (hr : Prints right) :
    Prints (.binary left .bitOr right) := by
  obtain ⟨a, b, hprint⟩ := print_choice hl hr
  exact fun place => ⟨_, hprint place⟩

mutual

/-- With and without quotes, the annotations can be written out. -/
theorem Respelled.prints : ∀ {e e' : Expr} {size : Nat}, Respelled read s size e e' → Prints e ∧ Prints e'
  | _, _, _, .name he => ⟨prints_of_dottedName he, prints_of_dottedName he⟩
  | _, _, _, .absent => ⟨prints_constant rfl, prints_constant rfl⟩
  | _, _, _, .ellipsis => ⟨prints_constant rfl, prints_constant rfl⟩
  | _, _, _, .choice hl hr _ _ => by
    have hleft := hl.prints
    have hright := hr.prints
    exact ⟨prints_choice hleft.1 hright.1, prints_choice hleft.2 hright.2⟩
  | _, _, _, .index hhead _ h => by
    have hindex := h.prints
    exact ⟨prints_subscript hhead hindex.1.writes, prints_subscript hhead hindex.2.writes⟩
  | _, _, _, .indices hhead _ _ h => by
    have helts := h.writes
    exact ⟨prints_subscript hhead (writes_tuple helts.1), prints_subscript hhead (writes_tuple helts.2)⟩
  | _, _, _, .annotated hhead _ h hmetadata => by
    have hfirst := h.prints
    have hall {x : Expr} (hx : Writes x) : Writes (.tuple (x :: _)) :=
      writes_tuple (List.forall_mem_cons.mpr ⟨hx, hmetadata⟩)
    exact ⟨prints_subscript hhead (hall hfirst.1.writes), prints_subscript hhead (hall hfirst.2.writes)⟩
  | _, _, _, .unindexed hhead => by
    have hempty : Writes (.tuple []) := writes_tuple fun x hx => absurd hx List.not_mem_nil
    exact ⟨prints_subscript hhead hempty, prints_subscript hhead hempty⟩
  | _, _, _, .literal hhead _ hindex => ⟨prints_subscript hhead hindex, prints_subscript hhead hindex⟩

theorem Quoted.prints : ∀ {e e' : Expr} {size : Nat}, Quoted read s size e e' → Prints e ∧ Prints e'
  | _, _, _, .plain h => h.prints
  | _, _, _, .quoted h _ _ _ => ⟨h.prints.1, prints_constant rfl⟩

theorem QuotedAll.writes : ∀ {es es' : List Expr} {size : Nat}, QuotedAll read s size es es' →
    (∀ x ∈ es, Writes x) ∧ ∀ x ∈ es', Writes x
  | _, _, _, .nil => ⟨fun x hx => absurd hx List.not_mem_nil, fun x hx => absurd hx List.not_mem_nil⟩
  | _, _, _, .cons h hrest => by
    have hfirst := h.prints
    have hothers := hrest.writes
    exact ⟨List.forall_mem_cons.mpr ⟨hfirst.1.writes, hothers.1⟩,
      List.forall_mem_cons.mpr ⟨hfirst.2.writes, hothers.2⟩⟩

end

theorem unquote_of_text?_eq_none (he : e.text? = none) : unquote read e = .ok e := by
  rw [unquote, he]

theorem unquote_text {t : Text} {marked : Bool} (hread : read t = .ok e) :
    unquote read (.constant (.text t marked)) = .ok e := by
  simp only [unquote, Expr.text?, hread]

/-- Does an expression that is no string mark a variable of the class? -/
def marksClassVar (s : Scope) (e : Expr) : Except SourceFault Bool := do
  let origin ← s.origin (match e with
    | .subscript value _ => value
    | e => e)
  pure (origin = classVarOrigin)

theorem isClassVar_eq {inner : Expr} (h : unquote read e = .ok inner) :
    isClassVar read s e = marksClassVar s inner := by
  rw [isClassVar, h]
  rfl

/-- No alternatives are called like the mark of class variables. -/
theorem marksClassVar_choice {left right : Expr} (hl : Prints left) (hr : Prints right) :
    marksClassVar s (.binary left .bitOr right) = .ok false := by
  obtain ⟨a, b, hprint⟩ := print_choice hl hr
  have horigin : s.origin (.binary left .bitOr right) = .ok (a ++ " " ++ "|" ++ " " ++ b) :=
    hprint Source.Precedence.test
  have hne : a ++ " " ++ "|" ++ " " ++ b ≠ classVarOrigin := by
    intro he
    have hbar : '|' ∈ classVarOrigin.toList := by
      rw [← he]
      simp
    exact absurd hbar (by decide)
  change (do let origin ← s.origin (.binary left .bitOr right); pure (decide (origin = classVarOrigin))) = _
  rw [horigin]
  exact congrArg Except.ok (decide_eq_false hne)

theorem marksClassVar_respelled (h : Respelled read s size e e') : marksClassVar s e' = marksClassVar s e := by
  cases h with
  | choice hl hr _ _ => rw [marksClassVar_choice hl.prints.1 hr.prints.1, marksClassVar_choice hl.prints.2 hr.prints.2]
  | _ => rfl

/-! ## Quoting changes nothing -/

/-- An annotation with quoted parts, at any depth, is converted to the same reference and tags as without quotes, and
marks a variable of the class if and only if it does without. -/
theorem annotation_quoted (h : Quoted read s size e e') :
    taggedRef read s e' = taggedRef read s e ∧ isClassVar read s e' = isClassVar read s e := by
  refine ⟨taggedOf_quoted h fun t _ => Nat.lt_succ_self _, ?_⟩
  cases h with
  | plain h =>
    obtain ⟨htext, htext'⟩ := h.text?_eq_none
    rw [isClassVar_eq (unquote_of_text?_eq_none htext'), isClassVar_eq (unquote_of_text?_eq_none htext),
      marksClassVar_respelled h]
  | quoted h hread _ _ =>
    rw [isClassVar_eq (unquote_text hread), isClassVar_eq (unquote_of_text?_eq_none h.text?_eq_none.1),
      marksClassVar_respelled h]

def widgetScope : Scope :=
  ⟨"m", [("Annotated", "typing.Annotated"), ("Sequence", "collections.abc.Sequence")], ["Widget"]⟩

def widgets (element : Expr) : Expr := .binary (.subscript (.name "Sequence") element) .bitOr (.constant .none)

def noted (e : Expr) : Expr := .subscript (.name "Annotated") (.tuple [e, .name "note"])

def stringOf (source : String) : Expr := .constant (.text (Text.ofString source) false)

/-- A sequence of widgets or nothing, with a note: the widget, the type and all of it are quoted. -/
theorem annotation_quoted_widgets :
    Quoted Source.readExpression widgetScope 50 (noted (widgets (.name "Widget")))
      (stringOf "Annotated[\"Sequence['Widget'] | None\", note]") ∧
    taggedRef Source.readExpression widgetScope (stringOf "Annotated[\"Sequence['Widget'] | None\", note]") =
      .ok (.generic "typing.Union" [.array (.named "m.Widget") false, .named "builtins.None"], ["note"]) ∧
    isClassVar Source.readExpression widgetScope (stringOf "Annotated[\"Sequence['Widget'] | None\", note]") =
      .ok false := by
  have hwidget : Source.readExpression (Text.ofString "Widget") = .ok (.name "Widget") := by rfl
  have hwidgets : Source.readExpression (Text.ofString "Sequence['Widget'] | None") =
      .ok (widgets (stringOf "Widget")) := by cbv
  have hnoted : Source.readExpression (Text.ofString "Annotated[\"Sequence['Widget'] | None\", note]") =
      .ok (noted (stringOf "Sequence['Widget'] | None")) := by cbv
  have helement : Quoted Source.readExpression widgetScope (Text.ofString "Sequence['Widget'] | None").length
      (.name "Widget") (stringOf "Widget") := Quoted.quoted (Respelled.name rfl) hwidget rfl (by decide)
  have hchoice : Respelled Source.readExpression widgetScope (Text.ofString "Sequence['Widget'] | None").length
      (widgets (.name "Widget")) (widgets (stringOf "Widget")) :=
    Respelled.choice (Quoted.plain (Respelled.index rfl (by decide) helement)) (Quoted.plain Respelled.absent)
      (fun h => absurd rfl h) (fun h => absurd rfl h)
  have hquoted : Quoted Source.readExpression widgetScope 50 (noted (widgets (.name "Widget")))
      (stringOf "Annotated[\"Sequence['Widget'] | None\", note]") := by
    refine Quoted.quoted (Respelled.annotated rfl (by decide) (Quoted.quoted hchoice hwidgets rfl (by decide)) ?_)
      hnoted rfl (by decide)
    intro x hx
    rw [List.mem_singleton.mp hx]
    exact ⟨"note", by rw [Expr.print, printExpr]⟩
  have hsame := annotation_quoted hquoted
  refine ⟨hquoted, hsame.1.trans ?_, hsame.2.trans ?_⟩
  · cbv
  · cbv

end ModelReach.Facts
