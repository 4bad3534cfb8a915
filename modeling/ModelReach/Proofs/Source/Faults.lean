import ModelReach.Source.Printer
import ModelReach.Source.Reading

/-! Which faults can occur where. Reading a text and writing an expression fail only in ways that make a module fail
to load. -/
namespace ModelReach.Source
set_option autoImplicit false

variable {α β : Type} {P Q : SourceFault → Prop}

/-! ## Faults of a step -/

/-- If a step fails, its fault has the property. -/
def Faults (P : SourceFault → Prop) (x : Except SourceFault α) : Prop := ∀ fault, x = .error fault → P fault

theorem faults_ok (a : α) : Faults P (.ok a) := fun _ h => nomatch h

theorem faults_pure (a : α) : Faults P (pure a : Except SourceFault α) := faults_ok a

theorem faults_error {fault : SourceFault} (h : P fault) : Faults P (.error fault : Except SourceFault α) := by
  intro _ he
  cases he
  exact h

theorem faults_bind {x : Except SourceFault α} {f : α → Except SourceFault β} (hx : Faults P x)
    (hf : ∀ a, x = .ok a → Faults P (f a)) : Faults P (x >>= f) := by
  intro fault h
  cases x with
  | error fault' =>
    cases h
    exact hx fault rfl
  | ok a => exact hf a rfl fault h

/-- Where the steps that follow cannot fail, the fault is that of the first step. -/
theorem Faults.first {x : Except SourceFault α} {f : α → β} (h : Faults P (x >>= fun a => pure (f a))) :
    Faults P x := by
  intro fault hx
  rw [hx] at h
  exact h fault rfl

theorem Faults.map {x : Except SourceFault α} (h : Faults P x) (f : α → β) :
    Faults P (x >>= fun a => pure (f a)) := faults_bind h fun a _ => faults_pure (f a)

theorem Faults.imp {x : Except SourceFault α} (h : Faults P x) (hPQ : ∀ fault, P fault → Q fault) : Faults Q x :=
  fun fault hx => hPQ fault (h fault hx)

theorem faults_mapM {l : List α} {f : α → Except SourceFault β} (h : ∀ a ∈ l, Faults P (f a)) :
    Faults P (l.mapM f) := by
  induction l with
  | nil => exact faults_pure []
  | cons a l ih =>
    rw [List.mapM_cons]
    refine faults_bind (h a (List.mem_cons_self ..)) fun b _ => ?_
    exact (ih fun a' ha' => h a' (List.mem_cons_of_mem a ha')).map _

theorem faults_foldlM {l : List β} {f : α → β → Except SourceFault α} (h : ∀ a, ∀ b ∈ l, Faults P (f a b)) (a : α) :
    Faults P (l.foldlM f a) := by
  induction l generalizing a with
  | nil => exact faults_pure a
  | cons b l ih =>
    rw [List.foldlM_cons]
    refine faults_bind (h a b (List.mem_cons_self ..)) fun a' _ => ?_
    exact ih (fun a b' hb' => h a b' (List.mem_cons_of_mem b hb')) a'

/-- The faults that only make a module fail to load. -/
def Loading (fault : SourceFault) : Prop := fault.isLoadFailure = true

/-! ## Reading -/

theorem loading_sourceChars (t : Text) : Faults Loading (sourceChars t) := by
  unfold sourceChars
  split
  · exact faults_error rfl
  · split
    · exact faults_error rfl
    · exact faults_ok _

theorem loading_readModule (t : Text) : Faults Loading (readModule t) := by
  unfold readModule
  refine faults_bind (loading_sourceChars t) fun cs _ => ?_
  split
  · exact faults_ok _
  · exact faults_error rfl

theorem loading_readExpression (t : Text) : Faults Loading (readExpression t) := by
  unfold readExpression
  refine faults_bind (loading_sourceChars t.strip) fun cs _ => ?_
  split
  · exact faults_ok _
  · exact faults_error rfl

/-! ## Writing -/

theorem loading_writeInteger (n : Nat) : Faults Loading (writeInteger n) := by
  unfold writeInteger
  dsimp only
  split
  · exact faults_error rfl
  · exact faults_ok _

theorem loading_writeConstant (plain : Bool) (c : Constant) : Faults Loading (writeConstant plain c) := by
  cases c with
  | int n => exact loading_writeInteger n
  | _ => exact faults_ok _

theorem loading_describe (c : Constant) : Faults Loading c.describe := by
  cases c with
  | int n => exact loading_writeInteger n
  | _ => exact faults_ok _

theorem loading_replacementText (source : String) (conversion : Option Char) (format : Option Text) :
    Faults Loading (replacementText source conversion format) := by
  unfold replacementText
  split
  · exact faults_error rfl
  · exact faults_ok _

/-- A subscript is written from its value and its index, or from the elements that the index consists of. -/
theorem loading_printExpr_subscript {plain : Bool} {value index : Expr} (place : Nat)
    (hvalue : Faults Loading (printExpr plain value Precedence.atom))
    (hindex : Faults Loading (printExpr plain index Precedence.test)) :
    Faults Loading (printExpr plain (.subscript value index) place) := by
  by_cases h : ∃ e es, index = .tuple (e :: es)
  · obtain ⟨e, es, rfl⟩ := h
    rw [printExpr] at hindex
    rw [printExpr]
    exact faults_bind hvalue fun _ _ => hindex.first.map _
  · rw [printExpr]
    · exact faults_bind hvalue fun _ _ => hindex.map _
    · exact fun e es he => h ⟨e, es, he⟩

mutual

theorem loading_printExpr (plain : Bool) : ∀ (e : Expr) (place : Nat), Faults Loading (printExpr plain e place)
  | .constant c, _ => by
    rw [printExpr]
    exact loading_writeConstant plain c
  | .name id, _ => by
    rw [printExpr]
    exact faults_ok id
  | .attribute value attr, _ => by
    rw [printExpr]
    exact (loading_printExpr plain value _).map _
  | .subscript value index, place =>
    loading_printExpr_subscript place (loading_printExpr plain value _) (loading_printExpr plain index _)
  | .call func args keywords, _ => by
    rw [printExpr]
    refine faults_bind (loading_printExpr plain func _) fun _ _ => ?_
    refine faults_bind (loading_printAll plain args) fun _ _ => ?_
    exact (loading_printKeywords plain keywords).map _
  | .binary left op right, _ => by
    rw [printExpr]
    refine faults_bind (loading_printExpr plain left _) fun _ _ => ?_
    exact (loading_printExpr plain right _).map _
  | .unary op operand, _ => by
    rw [printExpr]
    exact (loading_printExpr plain operand _).map _
  | .logical op operands, _ => by
    rw [printExpr]
    exact (loading_printRising plain operands _).map _
  | .compare left links, _ => by
    rw [printExpr]
    refine faults_bind (loading_printExpr plain left _) fun _ _ => ?_
    exact (loading_printLinks plain links).map _
  | .conditional test body orelse, _ => by
    rw [printExpr]
    refine faults_bind (loading_printExpr plain body _) fun _ _ => ?_
    refine faults_bind (loading_printExpr plain test _) fun _ _ => ?_
    exact (loading_printExpr plain orelse _).map _
  | .lambda posOnly args varArg kwOnly kwArg body, _ => by
    rw [printExpr]
    refine faults_bind (loading_printParams plain posOnly) fun _ _ => ?_
    refine faults_bind (loading_printParams plain args) fun _ _ => ?_
    refine faults_bind (loading_printParams plain kwOnly) fun _ _ => ?_
    exact (loading_printExpr plain body _).map _
  | .tuple elts, _ => by
    rw [printExpr]
    exact (loading_printAll plain elts).map _
  | .list elts, _ => by
    rw [printExpr]
    exact (loading_printAll plain elts).map _
  | .set elts, _ => by
    rw [printExpr]
    exact (loading_printAll plain elts).map _
  | .dict items, _ => by
    rw [printExpr]
    exact (loading_printItems plain items).map _
  | .comprehension shape elt clauses, _ => by
    rw [printExpr]
    refine faults_bind (loading_printExpr plain elt _) fun _ _ => ?_
    exact (loading_printClauses plain clauses).map _
  | .dictComprehension key value clauses, _ => by
    rw [printExpr]
    refine faults_bind (loading_printExpr plain key _) fun _ _ => ?_
    refine faults_bind (loading_printExpr plain value _) fun _ _ => ?_
    exact (loading_printClauses plain clauses).map _
  | .starred value, _ => by
    rw [printExpr]
    exact (loading_printExpr plain value _).map _
  | .named target value, _ => by
    rw [printExpr]
    exact (loading_printExpr plain value _).map _
  | .await value, _ => by
    rw [printExpr]
    exact (loading_printExpr plain value _).map _
  | .yield none, _ => by
    rw [printExpr]
    exact faults_ok _
  | .yield (some value), _ => by
    rw [printExpr]
    exact (loading_printExpr plain value _).map _
  | .yieldFrom value, _ => by
    rw [printExpr]
    exact (loading_printExpr plain value _).map _
  | .slice lower upper step, _ => by
    rw [printExpr]
    refine faults_bind (loading_printBound plain lower) fun _ _ => ?_
    refine faults_bind (loading_printBound plain upper) fun _ _ => ?_
    exact (loading_printBound plain step).map _
  | .joined parts, _ => by
    rw [printExpr]
    exact (loading_printParts parts).map _
  | .formatted value conversion format, _ => by
    rw [printExpr]
    refine faults_bind (loading_printExpr true value _) fun _ _ => ?_
    refine faults_bind (loading_printFormat format) fun _ _ => ?_
    exact (loading_replacementText _ conversion _).map _

theorem loading_printAll (plain : Bool) : ∀ es : List Expr, Faults Loading (printAll plain es)
  | [] => by
    rw [printAll]
    exact faults_ok []
  | e :: rest => by
    rw [printAll]
    refine faults_bind (loading_printExpr plain e _) fun _ _ => ?_
    exact (loading_printAll plain rest).map _

theorem loading_printRising (plain : Bool) :
    ∀ (es : List Expr) (place : Nat), Faults Loading (printRising plain es place)
  | [], _ => by
    rw [printRising]
    exact faults_ok []
  | e :: rest, place => by
    rw [printRising]
    refine faults_bind (loading_printExpr plain e _) fun _ _ => ?_
    exact (loading_printRising plain rest _).map _

theorem loading_printBound (plain : Bool) : ∀ e : Option Expr, Faults Loading (printBound plain e)
  | none => by
    rw [printBound]
    exact faults_ok ""
  | some e => by
    rw [printBound]
    exact loading_printExpr plain e _

theorem loading_printKeywords (plain : Bool) : ∀ ks : List Keyword, Faults Loading (printKeywords plain ks)
  | [] => by
    rw [printKeywords]
    exact faults_ok []
  | .named name value :: rest => by
    rw [printKeywords]
    refine faults_bind (loading_printExpr plain value _) fun _ _ => ?_
    exact (loading_printKeywords plain rest).map _
  | .spread value :: rest => by
    rw [printKeywords]
    refine faults_bind (loading_printExpr plain value _) fun _ _ => ?_
    exact (loading_printKeywords plain rest).map _

theorem loading_printItems (plain : Bool) : ∀ items : List Item, Faults Loading (printItems plain items)
  | [] => by
    rw [printItems]
    exact faults_ok []
  | .pair key value :: rest => by
    rw [printItems]
    refine faults_bind (loading_printExpr plain key _) fun _ _ => ?_
    refine faults_bind (loading_printExpr plain value _) fun _ _ => ?_
    exact (loading_printItems plain rest).map _
  | .spread value :: rest => by
    rw [printItems]
    refine faults_bind (loading_printExpr plain value _) fun _ _ => ?_
    exact (loading_printItems plain rest).map _

theorem loading_printLinks (plain : Bool) : ∀ links : List Link, Faults Loading (printLinks plain links)
  | [] => by
    rw [printLinks]
    exact faults_ok []
  | .mk op right :: rest => by
    rw [printLinks]
    refine faults_bind (loading_printExpr plain right _) fun _ _ => ?_
    exact (loading_printLinks plain rest).map _

theorem loading_printClauses (plain : Bool) :
    ∀ clauses : List Clause, Faults Loading (printClauses plain clauses)
  | [] => by
    rw [printClauses]
    exact faults_ok []
  | .mk isAsync target iter conditions :: rest => by
    rw [printClauses]
    refine faults_bind (loading_printExpr plain target _) fun _ _ => ?_
    refine faults_bind (loading_printExpr plain iter _) fun _ _ => ?_
    refine faults_bind (loading_printConditions plain conditions) fun _ _ => ?_
    exact (loading_printClauses plain rest).map _

theorem loading_printConditions (plain : Bool) :
    ∀ es : List Expr, Faults Loading (printConditions plain es)
  | [] => by
    rw [printConditions]
    exact faults_ok []
  | e :: rest => by
    rw [printConditions]
    refine faults_bind (loading_printExpr plain e _) fun _ _ => ?_
    exact (loading_printConditions plain rest).map _

theorem loading_printParams (plain : Bool) : ∀ ps : List Param, Faults Loading (printParams plain ps)
  | [] => by
    rw [printParams]
    exact faults_ok []
  | .mk name default :: rest => by
    rw [printParams]
    refine faults_bind (loading_printBound plain default) fun _ _ => ?_
    exact (loading_printParams plain rest).map _

theorem loading_printPart (e : Expr) : Faults Loading (printPart e) := by
  cases e with
  | formatted value conversion format =>
    rw [printPart]
    refine faults_bind (loading_printExpr true value _) fun _ _ => ?_
    refine faults_bind (loading_printFormat format) fun _ _ => ?_
    exact loading_replacementText _ conversion _
  | joined parts =>
    rw [printPart]
    exact (loading_printParts parts).map _
  | constant c =>
    cases c <;> simp only [printPart] <;> exact faults_ok _
  | _ =>
    simp only [printPart]
    exact faults_ok []

theorem loading_printParts : ∀ es : List Expr, Faults Loading (printParts es)
  | [] => by
    rw [printParts]
    exact faults_ok []
  | e :: rest => by
    rw [printParts]
    refine faults_bind (loading_printPart e) fun _ _ => ?_
    exact (loading_printParts rest).map _

theorem loading_printFormat : ∀ e : Option Expr, Faults Loading (printFormat e)
  | none => by
    rw [printFormat]
    exact faults_ok none
  | some e => by
    rw [printFormat]
    exact (loading_printPart e).map _

end

theorem loading_print (e : Expr) : Faults Loading e.print := loading_printExpr false e _

end ModelReach.Source
