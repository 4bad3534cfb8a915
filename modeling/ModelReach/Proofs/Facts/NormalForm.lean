import ModelReach.Proofs.Facts.Module
import ModelReach.Proofs.Facts.Quoting

/-! References are in normal form. Arrays and annotated types are never left as generic types, and literal types have no
arguments, at no depth of what an expression or an annotation is converted to. A chain of alternatives is one union of
what its operands are converted to, from left to right, whatever its parentheses; the union written as a subscript is
the same reference. -/
namespace ModelReach
set_option autoImplicit false

/-! ## Normal form -/

open Facts in
/-- References all of whose generic parts have no other form. -/
inductive TypeRef.IsNormal : TypeRef → Prop where
  | named (name : String) : IsNormal (.named name)
  | array {element : TypeRef} (unique : Bool) (h : IsNormal element) : IsNormal (.array element unique)
  | generic {origin : String} {args : List TypeRef} (harray : origin ∉ arrayOrigins)
      (hannotated : origin ≠ annotatedOrigin) (hliteral : origin = literalOrigin → args = [])
      (h : ∀ r ∈ args, IsNormal r) : IsNormal (.generic origin args)

namespace Facts

open Source (Expr SourceFault)

variable {read : Reader} {s : Scope} {literal : Text → RefResult}

/-- What is converted, if anything, is in normal form. -/
def GivesNormal (result : RefResult) : Prop := ∀ r, result = .ok r → r.IsNormal

theorem givesNormal_named (name : String) : GivesNormal (.ok (.named name)) := by
  rintro _ ⟨⟩
  exact .named name

theorem givesNormal_error (fault : SourceFault) : GivesNormal (.error fault) := nofun

theorem isNormal_argumentResults {results : List (Bool × RefResult)} (h : ∀ x ∈ results, GivesNormal x.2)
    {refs : List TypeRef} (hrefs : argumentResults results = .ok refs) : ∀ r ∈ refs, r.IsNormal := by
  fun_induction argumentResults results generalizing refs with
  | case1 =>
    cases hrefs
    exact nofun
  | case2 result rest ih => exact ih (List.forall_mem_cons.mp h).2 hrefs
  | case3 result rest ih =>
    obtain ⟨hresult, hrest⟩ := List.forall_mem_cons.mp h
    obtain ⟨ref, href, hrefs⟩ := bind_ok.mp hrefs
    obtain ⟨refs', hrefs', hrefs⟩ := bind_ok.mp hrefs
    cases hrefs
    exact List.forall_mem_cons.mpr ⟨hresult ref href, ih hrest hrefs'⟩

theorem givesNormal_firstResult {results : List (Bool × RefResult)} (h : ∀ x ∈ results, GivesNormal x.2) :
    GivesNormal (firstResult results) := by
  cases results with
  | nil => exact nofun
  | cons result rest => exact (List.forall_mem_cons.mp h).1

/-- The tests for annotated types, literals and arrays come before what is left is made generic. -/
theorem givesNormal_subscriptRef {results : List (Bool × RefResult)} (origin : String)
    (h : ∀ x ∈ results, GivesNormal x.2) : GivesNormal (subscriptRef origin results) := by
  intro ref href
  unfold subscriptRef at href
  split at href
  · exact givesNormal_firstResult h ref href
  rename_i hannotated
  split at href
  · cases href
    rename_i hliteral
    refine .generic ?_ hannotated (fun _ => rfl) nofun
    rw [hliteral]
    decide
  rename_i hliteral
  split at href
  · obtain ⟨element, helement, href⟩ := bind_ok.mp href
    cases href
    exact .array _ (givesNormal_firstResult h element helement)
  rename_i harray
  split at href
  · obtain ⟨element, helement, href⟩ := bind_ok.mp href
    cases href
    exact .array _ ((List.forall_mem_cons.mp h).1 element helement)
  · obtain ⟨args, hargs, href⟩ := bind_ok.mp href
    cases href
    exact .generic (fun hmem => harray (List.contains_iff_mem.mpr hmem)) hannotated (fun he => absurd he hliteral)
      (isNormal_argumentResults h hargs)

theorem isNormal_joinAlternatives {refs : List TypeRef} (h : ∀ r ∈ refs, r.IsNormal) :
    (joinAlternatives refs).IsNormal := by
  unfold joinAlternatives
  split
  · exact h _ (List.mem_singleton.mpr rfl)
  · exact .generic (by decide) (by decide) (fun he => absurd he (by decide)) h

theorem givesNormal_constantRef (c : Source.Constant) : GivesNormal (constantRef c) := by
  intro ref href
  unfold constantRef at href
  split at href
  · cases href
    exact .named _
  · obtain ⟨text, _, href⟩ := bind_ok.mp href
    cases href
    exact .named _

/-- All alternatives of an expression are in normal form, if there are any. -/
def AllNormal (result : Except SourceFault (List TypeRef)) : Prop := ∀ refs, result = .ok refs → ∀ r ∈ refs, r.IsNormal

theorem AllNormal.single {result : RefResult} (h : GivesNormal result) :
    AllNormal (do let ref ← result; pure [ref]) := by
  intro refs hrefs
  obtain ⟨ref, href, hrefs⟩ := bind_ok.mp hrefs
  cases hrefs
  exact List.forall_mem_singleton.mpr (h ref href)

theorem AllNormal.join {result : Except SourceFault (List TypeRef)} (h : AllNormal result) :
    GivesNormal (do let refs ← result; pure (joinAlternatives refs)) := by
  intro ref href
  obtain ⟨refs, hrefs, href⟩ := bind_ok.mp href
  cases href
  exact isNormal_joinAlternatives (h refs hrefs)

theorem allNormal_subscript (value : Expr) {results : List (Bool × RefResult)} (h : ∀ x ∈ results, GivesNormal x.2) :
    AllNormal (do let origin ← s.origin value; let ref ← subscriptRef origin results; pure [ref]) := by
  intro refs hrefs
  obtain ⟨origin, _, hrefs⟩ := bind_ok.mp hrefs
  exact AllNormal.single (givesNormal_subscriptRef origin h) refs hrefs

section Strings
variable (hliteral : ∀ t, GivesNormal (literal t))
include hliteral

theorem allNormal_alternatives (e : Expr) : AllNormal (alternatives s literal e) := by
  refine alternatives.induct_unfolding s literal (fun _ result => AllNormal result)
    (fun _ results => ∀ x ∈ results, GivesNormal x.2) ?text ?constant ?choice ?indices ?index ?other ?nil ?cons e
  case text => exact fun t _ => .single (hliteral t)
  case constant => exact fun c _ => .single (givesNormal_constantRef c)
  case choice =>
    intro left right hleft hright refs hrefs
    obtain ⟨before, hbefore, hrefs⟩ := bind_ok.mp hrefs
    obtain ⟨after, hafter, hrefs⟩ := bind_ok.mp hrefs
    cases hrefs
    exact List.forall_mem_append.mpr ⟨hleft before hbefore, hright after hafter⟩
  case indices => exact fun value _ hresults => allNormal_subscript value hresults
  case index => exact fun value _ _ hindex => allNormal_subscript value (List.forall_mem_singleton.mpr hindex.join)
  case other =>
    intro e _ _ _ _ _ refs hrefs
    obtain ⟨name, _, hrefs⟩ := bind_ok.mp hrefs
    cases hrefs
    exact List.forall_mem_singleton.mpr (.named name)
  case nil => exact nofun
  case cons => exact fun _ _ hfirst hrest => List.forall_mem_cons.mpr ⟨hfirst.join, hrest⟩

theorem givesNormal_exprRef (e : Expr) : GivesNormal (exprRef s literal e) := (allNormal_alternatives hliteral e).join

end Strings

theorem givesNormal_literalRef (n : Nat) (t : Text) : GivesNormal (literalRef read s n t) := by
  induction n generalizing t with
  | zero => exact givesNormal_named _
  | succ n ih =>
    rw [literalRef]
    split
    · unfold unquotedRef
      split
      · exact givesNormal_named _
      · exact givesNormal_exprRef ih _
    · exact givesNormal_named _
    · exact givesNormal_error _

theorem givesNormal_toRef (e : Expr) : GivesNormal (toRef read s e) :=
  givesNormal_exprRef (fun t => givesNormal_literalRef _ t) e

/-! ## Annotations -/

/-- The reference of what is converted with tags, if anything, is in normal form. -/
def GivesNormalTagged (result : TaggedResult) : Prop := ∀ r tags, result = .ok (r, tags) → r.IsNormal

theorem givesNormalTagged_error (fault : SourceFault) : GivesNormalTagged (.error fault) := nofun

theorem GivesNormal.untagged {result : RefResult} (h : GivesNormal result) :
    GivesNormalTagged (do let ref ← result; pure (ref, [])) := by
  intro r tags hr
  obtain ⟨ref, href, hr⟩ := bind_ok.mp hr
  cases hr
  exact h r href

theorem givesNormalTagged_taggedOf {tagged : Text → TaggedResult} (hliteral : ∀ t, GivesNormal (literal t))
    (htagged : ∀ t, GivesNormalTagged (tagged t)) (e : Expr) : GivesNormalTagged (taggedOf s literal tagged e) := by
  fun_induction taggedOf s literal tagged e with
  | case1 t marked => exact htagged t
  | case2 value elts ih =>
    intro r tags hr
    obtain ⟨origin, _, hr⟩ := bind_ok.mp hr
    split at hr
    · split at hr
      · cases hr
      · obtain ⟨⟨ref, inner⟩, href, hr⟩ := bind_ok.mp hr
        cases hr
        exact ih r inner href
    · exact (givesNormal_exprRef hliteral _).untagged r tags hr
  | case3 value index h ih =>
    intro r tags hr
    obtain ⟨origin, _, hr⟩ := bind_ok.mp hr
    split at hr
    · exact ih r tags hr
    · exact (givesNormal_exprRef hliteral _).untagged r tags hr
  | case4 e => exact (givesNormal_exprRef hliteral _).untagged

theorem givesNormalTagged_literalTagged (n : Nat) (t : Text) : GivesNormalTagged (literalTagged read s n t) := by
  induction n generalizing t with
  | zero => exact (givesNormal_named _).untagged
  | succ n ih =>
    rw [literalTagged]
    split
    · unfold unquotedTagged
      split
      · exact (givesNormal_literalRef _ _).untagged
      · exact givesNormalTagged_taggedOf (givesNormal_literalRef n) ih _
    · exact (givesNormal_named _).untagged
    · exact givesNormalTagged_error _

theorem givesNormalTagged_taggedRef (e : Expr) : GivesNormalTagged (taggedRef read s e) :=
  givesNormalTagged_taggedOf (fun t => givesNormal_literalRef _ t) (fun t => givesNormalTagged_literalTagged _ t) e

/-! ## Chains of alternatives -/

/-- The operands of a chain from left to right. What is no chain is its own operand. -/
def operands : Expr → List Expr
  | .binary left .bitOr right => operands left ++ operands right
  | e => [e]

theorem isChoice_eq_false {e : Expr} (he : ∀ left right, e = .binary left .bitOr right → False) :
    isChoice e = false := by
  unfold isChoice
  split
  · exact (he _ _ rfl).elim
  · rfl

theorem isChoice_of_mem_operands {e operand : Expr} (h : operand ∈ operands e) : isChoice operand = false := by
  fun_induction operands e with
  | case1 left right ihleft ihright => exact (List.mem_append.mp h).elim ihleft ihright
  | case2 e he =>
    cases List.mem_singleton.mp h
    exact isChoice_eq_false he

theorem operands_ne_nil (e : Expr) : operands e ≠ [] := by
  fun_induction operands e with
  | case1 left right ihleft _ => exact List.append_ne_nil_of_left_ne_nil ihleft _
  | case2 => exact List.cons_ne_nil _ _

/-- Parentheses do not matter: a chain has the alternatives of its operands in a row. -/
theorem alternatives_operands (e : Expr) : alternatives s literal e = (operands e).mapM (exprRef s literal) := by
  fun_induction operands e with
  | case1 left right ihleft ihright => rw [alternatives, ihleft, ihright, List.mapM_append]
  | case2 e he =>
    rw [alternatives_single (isChoice_eq_false he), List.mapM_cons, List.mapM_nil]
    rfl

theorem joinAlternatives_of_length {refs : List TypeRef} (h : 2 ≤ refs.length) :
    joinAlternatives refs = .generic unionOrigin refs := by
  unfold joinAlternatives
  split
  · exact absurd h (Nat.lt_irrefl 1)
  · rfl

theorem exprRef_choice (left right : Expr) :
    exprRef s literal (.binary left .bitOr right) = (do
      let refs ← (operands (.binary left .bitOr right)).mapM (exprRef s literal)
      pure (.generic unionOrigin refs)) := by
  have hlength : 2 ≤ (operands (.binary left .bitOr right)).length := by
    have hpos (e : Expr) : 1 ≤ (operands e).length := List.length_pos_iff.mpr (operands_ne_nil e)
    rw [operands, List.length_append]
    exact Nat.add_le_add (hpos left) (hpos right)
  rw [exprRef, alternatives_operands]
  cases hrefs : (operands (.binary left .bitOr right)).mapM (exprRef s literal) with
  | error fault => rfl
  | ok refs =>
    rw [← length_of_mapM_ok hrefs] at hlength
    exact congrArg Except.ok (joinAlternatives_of_length hlength)

theorem argumentResults_elements {es : List Expr} (h : ∀ e ∈ es, isEllipsis e = false) :
    argumentResults (elementResults s literal es) = es.mapM (exprRef s literal) := by
  rw [elementResults_eq]
  induction es with
  | nil => rfl
  | cons e es ih =>
    obtain ⟨he, hes⟩ := List.forall_mem_cons.mp h
    rw [List.map_cons, he, List.mapM_cons, argumentResults, ih hes]

theorem subscriptRef_union (results : List (Bool × RefResult)) :
    subscriptRef unionOrigin results = (do
      let args ← argumentResults results
      pure (.generic unionOrigin args)) := rfl

theorem exprRef_union {head : Expr} (hhead : s.origin head = .ok unionOrigin) {es : List Expr}
    (h : ∀ e ∈ es, isEllipsis e = false) :
    exprRef s literal (.subscript head (.tuple es)) = (do
      let refs ← es.mapM (exprRef s literal)
      pure (.generic unionOrigin refs)) := by
  refine exprRef_of_alternatives ?_
  rw [alternatives, hhead, ← argumentResults_elements h, ← subscriptRef_union]
  rfl

/-! ## Conversion -/

/-- Whatever an expression or an annotation is converted to is in normal form. A chain of alternatives is converted to
the union of its operands in their order, and so is the union with these arguments. -/
theorem toRef_normal (read : Reader) (s : Scope) (e : Expr) :
    (∀ r, toRef read s e = .ok r → r.IsNormal) ∧
    (∀ r tags, taggedRef read s e = .ok (r, tags) → r.IsNormal) ∧
    ∀ left right, e = .binary left .bitOr right →
      (∀ operand ∈ operands e, isChoice operand = false) ∧
      toRef read s e = (do let refs ← (operands e).mapM (toRef read s); pure (.generic unionOrigin refs)) ∧
      ∀ head, s.origin head = .ok unionOrigin → (∀ operand ∈ operands e, isEllipsis operand = false) →
        toRef read s (.subscript head (.tuple (operands e))) = toRef read s e := by
  refine ⟨givesNormal_toRef e, givesNormalTagged_taggedRef e, ?_⟩
  rintro left right rfl
  have hchoice := @exprRef_choice s (stringRef read s) left right
  refine ⟨fun _ => isChoice_of_mem_operands, hchoice, fun head hhead hdots => ?_⟩
  exact (exprRef_union hhead hdots).trans hchoice.symm

def shapeScope : Scope :=
  ⟨"pkg.m", [("List", "typing.List"), ("Literal", "typing.Literal"), ("Union", "typing.Union")], ["Shape"]⟩

def shapeChoice : Expr :=
  .binary (.subscript (.name "List") (.constant (.text (Text.ofString "Shape | None") false))) .bitOr
    (.binary (.subscript (.name "Literal") (.constant (.int 1))) .bitOr (.constant .none))

def shapeUnion : TypeRef :=
  .generic unionOrigin
    [.array (.generic unionOrigin [.named "pkg.m.Shape", .named "builtins.None"]) false, .generic literalOrigin [],
     .named "builtins.None"]

theorem toRef_normal_shapes :
    toRef Source.readExpression shapeScope shapeChoice = .ok shapeUnion ∧ shapeUnion.IsNormal ∧
    shapeScope.origin (.name "Union") = .ok unionOrigin ∧
    (∀ operand ∈ operands shapeChoice, isEllipsis operand = false) ∧
    toRef Source.readExpression shapeScope (.subscript (.name "Union") (.tuple (operands shapeChoice))) =
      .ok shapeUnion := by
  have hread : toRef Source.readExpression shapeScope shapeChoice = .ok shapeUnion := by cbv
  have hhead : shapeScope.origin (.name "Union") = .ok unionOrigin := rfl
  have hdots : ∀ operand ∈ operands shapeChoice, isEllipsis operand = false := by
    change ∀ operand ∈ [_, _, _], isEllipsis operand = false
    simp only [List.forall_mem_cons]
    exact ⟨rfl, rfl, rfl, List.forall_mem_nil _⟩
  obtain ⟨hnormal, _, hchoice⟩ := toRef_normal Source.readExpression shapeScope shapeChoice
  exact ⟨hread, hnormal _ hread, hhead, hdots, ((hchoice _ _ rfl).2.2 _ hhead hdots).trans hread⟩

end Facts
end ModelReach
