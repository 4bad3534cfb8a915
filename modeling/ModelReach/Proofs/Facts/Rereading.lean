import ModelReach.Proofs.Facts.Calls
import ModelReach.Proofs.Facts.NormalForm

/-! The conversion by calls alone, with no count of how often strings may be read again. What a function gives depends on
what its calls give, and no calls are nested without end. So there is just one conversion of this kind, and it is what
counting gives. -/
namespace ModelReach.Facts
set_option autoImplicit false

open Source (Expr SourceFault)

/-! ## Functions that call each other -/

/-- The four functions of a conversion. -/
structure Conversion where
  tagged : Expr → TaggedResult
  reference : Expr → RefResult
  alternatives : Expr → Except SourceFault (List TypeRef)
  subscript : Expr → Expr → RefResult

namespace Conversion

section Bodies
variable (s : Scope) (f : Conversion)

/-- An annotation, once it has been looked into whether it is a string. -/
def annotationOf : Expr → TaggedResult
  | .subscript value index => do
    let origin ← s.origin value
    if origin = annotatedOrigin then
      match index.indices with
      | [] => .error .noIndex
      | first :: metadata => do
        let (ref, tags) ← f.tagged first
        pure (ref, tags ++ metadataTags metadata)
    else do
      let ref ← f.reference (.subscript value index)
      pure (ref, [])
  | e => do
    let ref ← f.reference e
    pure (ref, [])

/-- A reference, once it has been looked into whether it is a string. -/
def referenceOf : Expr → RefResult
  | .constant c => constantRef c
  | .binary left .bitOr right => do
    let refs ← f.alternatives (.binary left .bitOr right)
    pure (.generic unionOrigin refs)
  | .subscript value index => f.subscript value index
  | e => do
    let name ← s.origin e
    pure (.named name)

def alternativesOf : Expr → Except SourceFault (List TypeRef)
  | .binary left .bitOr right => do
    let before ← f.alternatives left
    let after ← f.alternatives right
    pure (before ++ after)
  | e => do
    let ref ← f.reference e
    pure [ref]

def subscriptOf (value index : Expr) : RefResult := do
  let origin ← s.origin value
  subscriptRef origin (index.indices.map fun e => (isEllipsis e, f.reference e))

/-- What the functions give, if the functions that they call are those of `f`. -/
def byCalls (read : Reader) : Conversion where
  tagged e := do
    let inner ← unquote read e
    f.annotationOf s inner
  reference e := do
    let inner ← unquote read e
    f.referenceOf s inner
  alternatives := f.alternativesOf
  subscript := f.subscriptOf s

end Bodies

/-- Two conversions give the same for a call. -/
def Agree (f g : Conversion) : Call → Prop
  | ⟨.tagged, e⟩ => f.tagged e = g.tagged e
  | ⟨.reference, e⟩ => f.reference e = g.reference e
  | ⟨.alternatives, e⟩ => f.alternatives e = g.alternatives e
  | ⟨.subscript, .subscript value index⟩ => f.subscript value index = g.subscript value index
  | ⟨.subscript, _⟩ => True

variable {read : Reader} {s : Scope} {f g : Conversion}

theorem ext_of_agree (h : ∀ c, Agree f g c) : f = g := by
  obtain ⟨fa, fr, fo, fs⟩ := f
  obtain ⟨ga, gr, go, gs⟩ := g
  have ha : fa = ga := funext fun e => h ⟨.tagged, e⟩
  have hr : fr = gr := funext fun e => h ⟨.reference, e⟩
  have ho : fo = go := funext fun e => h ⟨.alternatives, e⟩
  have hs : fs = gs := funext fun value => funext fun index => h ⟨.subscript, .subscript value index⟩
  rw [ha, hr, ho, hs]

theorem alternativesOf_single {e : Expr} (he : isChoice e = false) :
    f.alternativesOf e = (do let ref ← f.reference e; pure [ref]) := by
  unfold alternativesOf
  split
  · cases he
  · rfl

/-! ## What is given depends on calls -/

theorem annotationOf_agree {e inner : Expr} (hu : unquote read e = .ok inner)
    (h : ∀ d, Calls read s ⟨.tagged, e⟩ d → Agree f g d) : f.annotationOf s inner = g.annotationOf s inner := by
  cases inner with
  | subscript value index =>
    rw [annotationOf, annotationOf]
    cases ho : s.origin value with
    | error fault => rfl
    | ok origin =>
      change (if origin = annotatedOrigin then _ else _ : TaggedResult) = if origin = annotatedOrigin then _ else _
      split
      · rename_i ha
        rw [ha] at ho
        cases hi : index.indices with
        | nil => rfl
        | cons first metadata =>
          have hfirst : f.tagged first = g.tagged first := h _ (Calls.annotated hu ho hi)
          simp only [hfirst]
      · rename_i ha
        have hplain : f.reference (.subscript value index) = g.reference (.subscript value index) := by
          refine h _ (Calls.plain hu fun value' index' he ho' => ha ?_)
          cases he
          rw [ho] at ho'
          exact Except.ok.inj ho'
        rw [hplain]
  | _ =>
    have hplain := h _ (Calls.plain hu nofun)
    exact congrArg (fun result : RefResult => (do let ref ← result; pure (ref, []) : TaggedResult)) hplain

theorem referenceOf_agree {e inner : Expr} (hu : unquote read e = .ok inner)
    (h : ∀ d, Calls read s ⟨.reference, e⟩ d → Agree f g d) : f.referenceOf s inner = g.referenceOf s inner := by
  unfold referenceOf
  split
  · rfl
  · rename_i left right
    have hchain : f.alternatives (.binary left .bitOr right) = g.alternatives (.binary left .bitOr right) :=
      h _ (Calls.chain hu)
    rw [hchain]
  · exact h _ (Calls.index hu)
  · rfl

theorem alternativesOf_agree {e : Expr} (h : ∀ d, Calls read s ⟨.alternatives, e⟩ d → Agree f g d) :
    f.alternativesOf e = g.alternativesOf e := by
  cases he : isChoice e with
  | true =>
    unfold isChoice at he
    split at he
    · rename_i left right
      have hleft : f.alternatives left = g.alternatives left := h _ Calls.left
      have hright : f.alternatives right = g.alternatives right := h _ Calls.right
      rw [alternativesOf, alternativesOf, hleft, hright]
    · cases he
  | false =>
    have hoperand : f.reference e = g.reference e := h _ (Calls.operand he)
    rw [alternativesOf_single he, alternativesOf_single he, hoperand]

theorem subscriptOf_agree {value index : Expr}
    (h : ∀ d, Calls read s ⟨.subscript, .subscript value index⟩ d → Agree f g d) :
    f.subscriptOf s value index = g.subscriptOf s value index := by
  rw [subscriptOf, subscriptOf]
  cases ho : s.origin value with
  | error fault => rfl
  | ok origin =>
    by_cases hl : origin = literalOrigin
    · rw [hl]
      change subscriptRef literalOrigin (index.indices.map fun e => (isEllipsis e, f.reference e)) =
        subscriptRef literalOrigin (index.indices.map fun e => (isEllipsis e, g.reference e))
      rw [subscriptRef_literal, subscriptRef_literal]
    · have helements : (index.indices.map fun e => (isEllipsis e, f.reference e)) =
          index.indices.map fun e => (isEllipsis e, g.reference e) :=
        List.map_congr_left fun e he => congrArg (Prod.mk _) (h _ (Calls.element ho hl he))
      rw [helements]

/-- What a function gives for a call is determined by the calls that this one makes. -/
theorem byCalls_agree {c : Call} (h : ∀ d, Calls read s c d → Agree f g d) :
    Agree (f.byCalls s read) (g.byCalls s read) c := by
  obtain ⟨role, e⟩ := c
  cases role with
  | tagged =>
    change (unquote read e >>= f.annotationOf s) = (unquote read e >>= g.annotationOf s)
    cases hu : unquote read e with
    | ok inner => exact annotationOf_agree hu h
    | error fault => rfl
  | reference =>
    change (unquote read e >>= f.referenceOf s) = (unquote read e >>= g.referenceOf s)
    cases hu : unquote read e with
    | ok inner => exact referenceOf_agree hu h
    | error fault => rfl
  | alternatives => exact alternativesOf_agree h
  | subscript =>
    cases e with
    | subscript value index => exact subscriptOf_agree h
    | _ => trivial

/-- There is no more than one conversion by calls alone. -/
theorem eq_of_byCalls (hread : Shortens read) (hf : f.byCalls s read = f) (hg : g.byCalls s read = g) : f = g := by
  refine ext_of_agree fun c => ?_
  induction c using (wellFounded_calls (s := s) hread).induction with
  | _ c ih =>
    rw [← hf, ← hg]
    exact byCalls_agree ih

end Conversion

/-! ## Enough readings -/

section Congruence
variable {s : Scope} {literal literal' : Text → RefResult} {tagged tagged' : Text → TaggedResult}

/-- The conversion of an expression depends on what its own strings are converted to. -/
theorem alternatives_congr (e : Expr) : (∀ t ∈ strings e, literal t = literal' t) →
    alternatives s literal e = alternatives s literal' e := by
  refine alternatives.induct s literal
    (fun e => (∀ t ∈ strings e, literal t = literal' t) → alternatives s literal e = alternatives s literal' e)
    (fun elts => (∀ t ∈ stringsOf elts, literal t = literal' t) →
      elementResults s literal elts = elementResults s literal' elts)
    ?text ?constant ?choice ?indices ?index ?other ?nil ?cons e
  case text =>
    intro t marked h
    rw [alternatives, alternatives, h t (longest_text rfl).2]
  case constant =>
    intro c hc _
    rw [alternatives, alternatives]
    all_goals exact hc
  case choice =>
    intro left right ihleft ihright h
    rw [strings, List.forall_mem_append] at h
    rw [alternatives, alternatives, ihleft h.1, ihright h.2]
  case indices =>
    intro value elts ih h
    rw [strings, strings] at h
    rw [alternatives, alternatives, ih h]
  case index =>
    intro value index hindex ih h
    rw [strings] at h
    rw [alternatives, alternatives, ih h]
    all_goals exact hindex
  case other =>
    intro e htext hconstant hchoice hindices hindex _
    rw [alternatives, alternatives] <;> assumption
  case nil => exact fun _ => by rw [elementResults, elementResults]
  case cons =>
    intro e elts ihfirst ihrest h
    rw [stringsOf, List.forall_mem_append] at h
    rw [elementResults, elementResults, ihfirst h.1, ihrest h.2]

theorem exprRef_congr {e : Expr} (h : ∀ t ∈ strings e, literal t = literal' t) :
    exprRef s literal e = exprRef s literal' e := by
  rw [exprRef, exprRef, alternatives_congr e h]

theorem taggedOf_congr {e : Expr} (h : ∀ t ∈ strings e, literal t = literal' t)
    (ht : ∀ t ∈ strings e, tagged t = tagged' t) : taggedOf s literal tagged e = taggedOf s literal' tagged' e := by
  fun_induction taggedOf s literal tagged e with
  | case1 t marked => rw [taggedOf, ht t (longest_text rfl).2]
  | case2 value elts ih =>
    rw [exprRef_congr h]
    rw [strings, strings] at h ht
    cases elts with
    | nil => rw [taggedOf]
    | cons first metadata =>
      rw [stringsOf, List.forall_mem_append] at h ht
      rw [taggedOf]
      simp only [ih h.1 ht.1]
  | case3 value index hindex ih =>
    rw [taggedOf, exprRef_congr h]
    · rw [strings] at h ht
      rw [ih h ht]
    · exact hindex
  | case4 e htext hindices hindex =>
    rw [taggedOf, exprRef_congr h] <;> assumption

end Congruence

section Readings
variable {read : Reader} {s : Scope} (hread : Shortens read)
include hread

/-- A string is converted alike by any number of readings above its length. -/
theorem literalRef_eq {n m : Nat} {t : Text} (hn : t.length < n) (hm : t.length < m) :
    literalRef read s n t = literalRef read s m t := by
  induction n generalizing m t with
  | zero => omega
  | succ n ih =>
    obtain ⟨m, rfl⟩ := Nat.exists_eq_succ_of_ne_zero (Nat.ne_zero_of_lt hm)
    rw [literalRef, literalRef]
    cases hr : read t with
    | error fault => cases fault <;> rfl
    | ok e =>
      have hstrings : ∀ u ∈ strings e, literalRef read s n u = literalRef read s m u := by
        intro u hu
        have hless := hread.shorter t e hr u hu
        exact ih (by omega) (by omega)
      change unquotedRef s (literalRef read s n) e = unquotedRef s (literalRef read s m) e
      rw [unquotedRef, unquotedRef, exprRef_congr hstrings]

theorem literalTagged_eq {n m : Nat} {t : Text} (hn : t.length < n) (hm : t.length < m) :
    literalTagged read s n t = literalTagged read s m t := by
  induction n generalizing m t with
  | zero => omega
  | succ n ih =>
    obtain ⟨m, rfl⟩ := Nat.exists_eq_succ_of_ne_zero (Nat.ne_zero_of_lt hm)
    rw [literalTagged, literalTagged]
    cases hr : read t with
    | error fault => cases fault <;> rfl
    | ok e =>
      have hless : ∀ u ∈ strings e, u.length < n ∧ u.length < m := by
        intro u hu
        have hshorter := hread.shorter t e hr u hu
        omega
      have hstrings : ∀ u ∈ strings e, literalRef read s n u = literalRef read s m u := fun u hu =>
        literalRef_eq hread (hless u hu).1 (hless u hu).2
      have htagged : ∀ u ∈ strings e, literalTagged read s n u = literalTagged read s m u := fun u hu =>
        ih (hless u hu).1 (hless u hu).2
      change unquotedTagged s (literalRef read s n) (literalTagged read s n) e =
        unquotedTagged s (literalRef read s m) (literalTagged read s m) e
      rw [unquotedTagged, unquotedTagged, taggedOf_congr hstrings htagged]
      split
      · rename_i u hu
        rw [hstrings u (longest_text hu).2]
      · rfl

end Readings

/-! ## Counting gives the conversion by calls -/

/-- The conversion in which the readings of strings are counted. -/
def counted (read : Reader) (s : Scope) : Conversion where
  tagged := taggedRef read s
  reference := toRef read s
  alternatives := alternatives s (stringRef read s)
  subscript value index := do
    let origin ← s.origin value
    subscriptRef origin (index.indices.map fun e => (isEllipsis e, toRef read s e))

section Counted
variable {read : Reader} {s : Scope} {e : Expr}

theorem exprRef_subscript (literal : Text → RefResult) (value index : Expr) :
    exprRef s literal (.subscript value index) = (do
      let origin ← s.origin value
      subscriptRef origin (index.indices.map fun e => (isEllipsis e, exprRef s literal e))) := by
  refine exprRef_of_alternatives ?_
  by_cases h : ∃ elts, index = .tuple elts
  · obtain ⟨elts, rfl⟩ := h
    rw [alternatives, elementResults_eq, bind_assoc]
    rfl
  · have hindices : index.indices = [index] := by
      unfold Expr.indices
      split
      · exact absurd ⟨_, rfl⟩ h
      · rfl
    rw [alternatives, hindices, bind_assoc]
    · rfl
    · exact fun elts he => h ⟨elts, he⟩

/-- What is no string is converted by the calls for it. -/
theorem toRef_eq (he : e.text? = none) : toRef read s e = (counted read s).referenceOf s e := by
  unfold Conversion.referenceOf
  split
  · rename_i c
    refine exprRef_of_alternatives ?_
    cases c with
    | text t marked => cases he
    | _ => rfl
  · rename_i left right
    rw [toRef, exprRef_choice, ← alternatives_operands]
    rfl
  · exact exprRef_subscript (stringRef read s) _ _
  · rename_i e hconstant hchoice hindex
    refine exprRef_of_alternatives ?_
    rw [alternatives, bind_assoc]
    · rfl
    · exact fun t marked => hconstant (.text t marked)
    · exact hconstant
    · exact hchoice
    · exact fun value elts => hindex value (.tuple elts)
    · exact hindex

/-- An annotation that is no string is converted by the calls for it. -/
theorem taggedRef_eq (he : e.text? = none) : taggedRef read s e = (counted read s).annotationOf s e := by
  unfold Conversion.annotationOf
  split
  · rename_i value index
    by_cases h : ∃ elts, index = .tuple elts
    · obtain ⟨elts, rfl⟩ := h
      rw [taggedRef]
      cases elts with
      | nil =>
        rw [taggedOf]
        rfl
      | cons first metadata =>
        rw [taggedOf]
        rfl
    · have hindices : index.indices = [index] := by
        unfold Expr.indices
        split
        · exact absurd ⟨_, rfl⟩ h
        · rfl
      rw [taggedRef, taggedOf, hindices]
      · have hnone : metadataTags [] = [] := rfl
        simp only [hnone, List.append_nil, Prod.mk.eta, bind_pure]
        rfl
      · exact fun elts he => h ⟨elts, he⟩
  · rename_i e hindex
    exact taggedOf_untagged he hindex

theorem toRef_text (t : Text) (marked : Bool) : toRef read s (.constant (.text t marked)) = stringRef read s t :=
  exprRef_of_alternatives (by rw [alternatives])

theorem taggedRef_text (t : Text) (marked : Bool) :
    taggedRef read s (.constant (.text t marked)) = literalTagged read s (t.length + 1) t := by
  rw [taggedRef, taggedOf]

theorem unquote_malformed {t : Text} {marked : Bool} (h : read t = .error .malformed) :
    unquote read (.constant (.text t marked)) = .ok (.constant (.text t marked)) := by
  simp only [unquote, Expr.text?, h]

theorem stringRef_malformed {t : Text} (h : read t = .error .malformed) :
    stringRef read s t = .ok (.named (Text.quoted t)) := by
  rw [stringRef, literalRef, h]

section Read
variable (hread : Shortens read) {t : Text} {inner : Expr} (h : read t = .ok inner)
include hread h

theorem stringRef_read : stringRef read s t = (counted read s).referenceOf s inner := by
  have hliteral : ∀ u ∈ strings inner, literalRef read s t.length u = stringRef read s u := fun u hu =>
    literalRef_eq hread (hread.shorter t inner h u hu) (Nat.lt_succ_self _)
  rw [stringRef, literalRef, h]
  change unquotedRef s (literalRef read s t.length) inner = _
  rw [unquotedRef, exprRef_congr hliteral]
  cases hi : inner.text? with
  | none => exact toRef_eq hi
  | some u =>
    obtain ⟨marked, rfl⟩ := exists_text hi
    rfl

theorem literalTagged_read : literalTagged read s (t.length + 1) t = (counted read s).annotationOf s inner := by
  have hliteral : ∀ u ∈ strings inner, literalRef read s t.length u = stringRef read s u := fun u hu =>
    literalRef_eq hread (hread.shorter t inner h u hu) (Nat.lt_succ_self _)
  have htagged : ∀ u ∈ strings inner, literalTagged read s t.length u = literalTagged read s (u.length + 1) u :=
    fun u hu => literalTagged_eq hread (hread.shorter t inner h u hu) (Nat.lt_succ_self _)
  rw [literalTagged, h]
  change unquotedTagged s (literalRef read s t.length) (literalTagged read s t.length) inner = _
  rw [unquotedTagged, taggedOf_congr hliteral htagged]
  cases hi : inner.text? with
  | none => exact taggedRef_eq hi
  | some u =>
    obtain ⟨marked, rfl⟩ := exists_text hi
    change (do let ref ← literalRef read s t.length u; pure (ref, [])) =
      (do let ref ← toRef read s (.constant (.text u marked)); pure (ref, []) : TaggedResult)
    rw [toRef_text, hliteral u (longest_text hi).2]

end Read

/-- A string is converted as an annotation by the calls for what is read from it. -/
theorem taggedRef_unquote (hread : Shortens read) (e : Expr) :
    (unquote read e >>= (counted read s).annotationOf s) = taggedRef read s e := by
  cases he : e.text? with
  | none =>
    rw [unquote_of_text?_eq_none he, taggedRef_eq he]
    rfl
  | some t =>
    obtain ⟨marked, rfl⟩ := exists_text he
    rw [taggedRef_text]
    cases h : read t with
    | ok inner =>
      rw [unquote_text h, literalTagged_read hread h]
      rfl
    | error fault =>
      cases fault with
      | malformed =>
        rw [unquote_malformed h, literalTagged, h]
        change (do let ref ← toRef read s (.constant (.text t marked)); pure (ref, []) : TaggedResult) = _
        rw [toRef_text, stringRef_malformed h]
        rfl
      | _ =>
        simp only [unquote, Expr.text?, h, literalTagged]
        rfl

/-- A string is converted by the calls for what is read from it. -/
theorem toRef_unquote (hread : Shortens read) (e : Expr) :
    (unquote read e >>= (counted read s).referenceOf s) = toRef read s e := by
  cases he : e.text? with
  | none =>
    rw [unquote_of_text?_eq_none he, toRef_eq he]
    rfl
  | some t =>
    obtain ⟨marked, rfl⟩ := exists_text he
    rw [toRef_text]
    cases h : read t with
    | ok inner =>
      rw [unquote_text h, stringRef_read hread h]
      rfl
    | error fault =>
      cases fault with
      | malformed =>
        rw [unquote_malformed h, stringRef_malformed h]
        rfl
      | _ =>
        simp only [unquote, Expr.text?, h, stringRef, literalRef]
        rfl

theorem alternativesOf_counted (e : Expr) :
    (counted read s).alternativesOf e = alternatives s (stringRef read s) e := by
  cases he : isChoice e with
  | true =>
    unfold isChoice at he
    split at he
    · rw [alternatives]
      rfl
    · cases he
  | false =>
    rw [Conversion.alternativesOf_single he, alternatives_single he]
    rfl

/-- The conversion that counts is a conversion by calls alone. -/
theorem byCalls_counted (hread : Shortens read) : (counted read s).byCalls s read = counted read s := by
  refine Conversion.ext_of_agree fun ⟨role, e⟩ => ?_
  cases role with
  | tagged => exact taggedRef_unquote hread e
  | reference => exact toRef_unquote hread e
  | alternatives => exact alternativesOf_counted e
  | subscript =>
    cases e with
    | subscript value index => exact rfl
    | _ => trivial

end Counted

/-! ## The end of a conversion -/

/-- No calls are nested without end. Along a chain of nested calls the texts that are read again become shorter and
shorter, and there are no more of them than the longest string has characters; a function that is called again before a
text is read is called for a smaller expression; and a text that cannot be read ends the chain, though a reference may
try it after an annotation. What a call gives is determined by the calls that it makes. So a conversion by calls alone
comes to an end: it is the one in which readings are counted. -/
theorem conversion_descends (read : Reader) (s : Scope) (hread : Shortens read) :
    WellFounded (fun d c => Calls read s c d) ∧
    (∀ calls : List Call, calls.IsChain (Calls read s) →
      (calls.filterMap (Call.reread read)).Pairwise fun t u => u.length < t.length) ∧
    (∀ c calls, (c :: calls).IsChain (Calls read s) →
      ((c :: calls).filterMap (Call.reread read)).length ≤ longest c.expr) ∧
    (∀ c between d, (c :: (between ++ [d])).IsChain (Calls read s) → (∀ x ∈ c :: between, x.reread read = none) →
      d.role = c.role → sizeOf d.expr < sizeOf c.expr) ∧
    (∀ c calls t, (c :: calls).IsChain (Calls read s) → c.tried = some t → c.reread read = none →
      calls = [] ∨ c.role = .tagged ∧ calls = [⟨.reference, c.expr⟩]) ∧
    (∀ (f g : Conversion) c, (∀ d, Calls read s c d → f.Agree g d) → (f.byCalls s read).Agree (g.byCalls s read) c) ∧
    ∀ f : Conversion, f.byCalls s read = f ↔ f = counted read s := by
  refine ⟨wellFounded_calls hread, fun calls => pairwise_reread hread, fun c calls => length_reread_le hread,
    fun c between d => sizeOf_lt_of_chain, fun c calls t => chain_of_not_reread,
    fun f g c => Conversion.byCalls_agree, fun f => ⟨fun hf => ?_, ?_⟩⟩
  · exact Conversion.eq_of_byCalls hread hf (byCalls_counted hread)
  · rintro rfl
    exact byCalls_counted hread

/-- The text of an annotation with a string in it, and the text of that string. -/
def outerText : Text := Text.ofString "list['Widget | None']"
def innerText : Text := Text.ofString "Widget | None"

def widgetOrNone : Expr := .binary (.name "Widget") .bitOr (.constant .none)
def widgetList : Expr := .subscript (.name "list") (.constant (.text innerText false))

/-- Reads these two texts only. -/
def readNested (t : Text) : Except SourceFault Expr :=
  if t = outerText ∨ t = innerText then Source.readExpression t else .error .malformed

/-- The calls that lead from the annotation to the name in the inner string. -/
def nestedCalls : List Call :=
  [⟨.tagged, .constant (.text outerText false)⟩, ⟨.reference, widgetList⟩, ⟨.subscript, widgetList⟩,
   ⟨.reference, .constant (.text innerText false)⟩, ⟨.alternatives, widgetOrNone⟩, ⟨.alternatives, .name "Widget"⟩,
   ⟨.reference, .name "Widget"⟩]

theorem readNested_outer : readNested outerText = .ok widgetList := (if_pos (Or.inl rfl)).trans (by rfl)

theorem readNested_inner : readNested innerText = .ok widgetOrNone := (if_pos (Or.inr rfl)).trans (by rfl)

theorem of_readNested {t : Text} {e : Expr} (h : readNested t = .ok e) :
    t = outerText ∧ e = widgetList ∨ t = innerText ∧ e = widgetOrNone := by
  by_cases ht : t = outerText ∨ t = innerText
  · rcases ht with rfl | rfl
    · exact Or.inl ⟨rfl, Except.ok.inj (h.symm.trans readNested_outer)⟩
    · exact Or.inr ⟨rfl, Except.ok.inj (h.symm.trans readNested_inner)⟩
  · rw [readNested, if_neg ht] at h
    cases h

theorem shortens_readNested : Shortens readNested := by
  have hlist : strings widgetList = [innerText] := by simp [widgetList, strings]
  have hnone : strings widgetOrNone = [] := by simp [widgetOrNone, strings]
  refine ⟨fun t e he u hu => ?_, fun e he => ?_⟩
  · rcases of_readNested he with ⟨rfl, rfl⟩ | ⟨rfl, rfl⟩
    · rw [hlist, List.mem_singleton] at hu
      rw [hu]
      decide
    · rw [hnone] at hu
      cases hu
  · rcases of_readNested he with ⟨ht, _⟩ | ⟨ht, _⟩
    · exact absurd ht (by decide)
    · exact absurd ht (by decide)

theorem isChain_nestedCalls : nestedCalls.IsChain (Calls readNested widgetScope) := by
  have hhead : widgetScope.origin (.name "list") = .ok "builtins.list" := by rfl
  refine List.isChain_cons_cons.mpr ⟨Calls.plain (unquote_text readNested_outer) fun value index he => ?_, ?_⟩
  · cases he
    rw [hhead]
    decide
  · refine List.isChain_cons_cons.mpr ⟨Calls.index rfl, ?_⟩
    refine List.isChain_cons_cons.mpr ⟨Calls.element hhead (by decide) (List.mem_singleton_self _), ?_⟩
    refine List.isChain_cons_cons.mpr ⟨Calls.chain (unquote_text readNested_inner), ?_⟩
    refine List.isChain_cons_cons.mpr ⟨Calls.left, ?_⟩
    exact List.isChain_cons_cons.mpr ⟨Calls.operand rfl, List.isChain_singleton _⟩

theorem reread_nestedCalls : nestedCalls.filterMap (Call.reread readNested) = [outerText, innerText] := by
  have hfirst : Call.reread readNested ⟨.tagged, .constant (.text outerText false)⟩ = some outerText :=
    reread_eq_some.mpr ⟨rfl, _, readNested_outer⟩
  have hsecond : Call.reread readNested ⟨.reference, .constant (.text innerText false)⟩ = some innerText :=
    reread_eq_some.mpr ⟨rfl, _, readNested_inner⟩
  rw [nestedCalls, List.filterMap_cons_some hfirst, List.filterMap_cons_none rfl, List.filterMap_cons_none rfl,
    List.filterMap_cons_some hsecond]
  rfl

theorem conversion_descends_nested :
    Shortens readNested ∧ nestedCalls.IsChain (Calls readNested widgetScope) ∧
    nestedCalls.filterMap (Call.reread readNested) = [outerText, innerText] ∧
    (nestedCalls.filterMap (Call.reread readNested)).Pairwise (fun t u => u.length < t.length) := by
  obtain ⟨-, hshorter, -⟩ := conversion_descends readNested widgetScope shortens_readNested
  exact ⟨shortens_readNested, isChain_nestedCalls, reread_nestedCalls, hshorter nestedCalls isChain_nestedCalls⟩

end ModelReach.Facts
