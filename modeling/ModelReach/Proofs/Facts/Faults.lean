import ModelReach.Facts.Module
import ModelReach.Proofs.Source.Faults

/-! What it takes for a module to end a run. Two faults do, and each has its cause in the source: converting an
annotation or a base asks for the first index of a subscript that has none, or a member is assigned a sum of an
integer above all floating-point numbers and an imaginary number. -/
namespace ModelReach.Facts
set_option autoImplicit false

open Source

variable {read : Reader} {s : Scope} {α : Type}

/-! ## Faults with a cause -/

/-- If a fault ends the run, there is a cause for it: the first one for a missing index, the other one for an
integer too large. -/
def Caused (index integer : Prop) : SourceFault → Prop
  | .noIndex => index
  | .integerTooLarge => integer
  | _ => True

variable {index index' integer integer' : Prop}

theorem caused_of_loading {fault : SourceFault} (h : Loading fault) : Caused index integer fault := by
  cases fault with
  | noIndex => cases h
  | integerTooLarge => cases h
  | _ => trivial

theorem Caused.imp {fault : SourceFault} (h : Caused index integer fault) (hindex : index → index')
    (hinteger : integer → integer') : Caused index' integer' fault := by
  cases fault with
  | noIndex => exact hindex h
  | integerTooLarge => exact hinteger h
  | _ => trivial

theorem faults_caused {x : Except SourceFault α} (h : Faults Loading x) : Faults (Caused index integer) x :=
  h.imp fun _ => caused_of_loading

theorem faults_caused_imp {x : Except SourceFault α} (h : Faults (Caused index integer) x) (hindex : index → index')
    (hinteger : integer → integer') : Faults (Caused index' integer') x :=
  h.imp fun _ hf => hf.imp hindex hinteger

/-! ## Subscripts without an index -/

/-- Does a subscript with this origin stand for its first index, or for an array of it? -/
def takesFirst (origin : String) : Bool := origin = annotatedOrigin || arrayOrigins.contains origin

/-- Converting the expression comes to a subscript that takes its first index and has none. A string stands for the
expression in it, at any depth. -/
inductive MeetsEmpty (read : Reader) (s : Scope) : Expr → Prop
  | empty {value : Expr} {origin : String} (ho : s.origin value = .ok origin) (hf : takesFirst origin = true) :
    MeetsEmpty read s (.subscript value (.tuple []))
  | first {value e : Expr} {rest : List Expr} {origin : String} (ho : s.origin value = .ok origin)
    (hf : takesFirst origin = true) (h : MeetsEmpty read s e) :
    MeetsEmpty read s (.subscript value (.tuple (e :: rest)))
  | element {value e : Expr} {elts : List Expr} {origin : String} (ho : s.origin value = .ok origin)
    (hf : takesFirst origin = false) (hl : origin ≠ literalOrigin) (he : e ∈ elts) (h : MeetsEmpty read s e) :
    MeetsEmpty read s (.subscript value (.tuple elts))
  | index {value e : Expr} {origin : String} (ho : s.origin value = .ok origin) (hl : origin ≠ literalOrigin)
    (h : MeetsEmpty read s e) : MeetsEmpty read s (.subscript value e)
  | left {left right : Expr} (h : MeetsEmpty read s left) : MeetsEmpty read s (.binary left .bitOr right)
  | right {left right : Expr} (h : MeetsEmpty read s right) : MeetsEmpty read s (.binary left .bitOr right)
  | text {t : Text} {marked : Bool} {e : Expr} (hr : read t = .ok e) (h : MeetsEmpty read s e) :
    MeetsEmpty read s (.constant (.text t marked))

/-- The faults that converting an expression may have. -/
abbrev Converts (read : Reader) (s : Scope) (e : Expr) (x : Except SourceFault α) : Prop :=
  Faults (Caused (MeetsEmpty read s e) False) x

theorem loading_origin (s : Scope) (e : Expr) : Faults Loading (s.origin e) := by
  unfold Scope.origin
  split
  · exact faults_ok _
  · exact loading_print e

theorem faults_argumentResults {P : SourceFault → Prop} {results : List (Bool × RefResult)}
    (h : ∀ r ∈ results, Faults P r.2) : Faults P (argumentResults results) := by
  induction results with
  | nil => exact faults_ok []
  | cons r results ih =>
    obtain ⟨ellipsis, result⟩ := r
    have hrest := ih fun r' hr' => h r' (List.mem_cons_of_mem _ hr')
    cases ellipsis with
    | true => exact hrest
    | false => exact faults_bind (h _ (List.mem_cons_self ..)) fun _ _ => hrest.map _

/-- A subscript fails for want of a first index, or as the elements do that it looks at. -/
theorem faults_subscriptRef {P : SourceFault → Prop} {origin : String} {results : List (Bool × RefResult)}
    (hnone : takesFirst origin = true → results = [] → P .noIndex)
    (hfirst : takesFirst origin = true → ∀ r rest, results = r :: rest → Faults P r.2)
    (hall : takesFirst origin = false → origin ≠ literalOrigin → ∀ r ∈ results, Faults P r.2) :
    Faults P (subscriptRef origin results) := by
  have hresult (hf : takesFirst origin = true) : Faults P (firstResult results) := by
    cases results with
    | nil => exact faults_error (hnone hf rfl)
    | cons r rest => exact hfirst hf r rest rfl
  unfold subscriptRef
  split
  · rename_i ho
    exact hresult (by rw [takesFirst, ho, decide_eq_true rfl, Bool.true_or])
  · rename_i ho
    split
    · exact faults_ok _
    · rename_i hl
      split
      · rename_i ha
        exact (hresult (by rw [takesFirst, ha, Bool.or_true])).map _
      · rename_i ha
        have hf : takesFirst origin = false := by
          rw [takesFirst, decide_eq_false ho, Bool.false_or, Bool.eq_false_iff]
          exact ha
        split
        · exact (hall hf hl _ (List.mem_cons_self ..)).map _
        · exact (faults_argumentResults (hall hf hl)).map _

theorem elementResults_eq (s : Scope) (literal : Text → RefResult) (elts : List Expr) :
    elementResults s literal elts = elts.map fun e => (isEllipsis e, exprRef s literal e) := by
  induction elts with
  | nil => rw [elementResults, List.map_nil]
  | cons e elts ih =>
    rw [elementResults, ih]
    rfl

section Conversion
variable {literal : Text → RefResult}

/-- A subscript with one index, or with a tuple of them. -/
theorem converts_subscript {value index : Expr} (hindex : Converts read s index (exprRef s literal index))
    (helts : ∀ elts, index = .tuple elts → ∀ e ∈ elts, Converts read s e (exprRef s literal e)) :
    Converts read s (.subscript value index) (alternatives s literal (.subscript value index)) := by
  by_cases h : ∃ elts, index = .tuple elts
  · obtain ⟨elts, rfl⟩ := h
    rw [alternatives]
    refine faults_bind (faults_caused (loading_origin s value)) fun origin ho => Faults.map ?_ _
    rw [elementResults_eq]
    refine faults_subscriptRef (fun hf hnone => ?_) (fun hf r rest hr => ?_) fun hf hl r hr => ?_
    · rw [List.map_eq_nil_iff.mp hnone]
      exact MeetsEmpty.empty ho hf
    · obtain ⟨e, rest', rfl, rfl, rfl⟩ := List.map_eq_cons_iff.mp hr
      exact faults_caused_imp (helts _ rfl e (List.mem_cons_self ..)) (MeetsEmpty.first ho hf) id
    · obtain ⟨e, he, rfl⟩ := List.mem_map.mp hr
      exact faults_caused_imp (helts _ rfl e he) (MeetsEmpty.element ho hf hl he) id
  · rw [alternatives]
    · refine faults_bind (faults_caused (loading_origin s value)) fun origin ho => Faults.map ?_ _
      have hone (hl : origin ≠ literalOrigin) : Converts read s (.subscript value index) (exprRef s literal index) :=
        faults_caused_imp hindex (MeetsEmpty.index ho hl) id
      refine faults_subscriptRef (fun _ hnone => nomatch hnone) (fun hf r rest hr => ?_) fun _ hl r hr => ?_
      · cases hr
        refine hone fun hl => ?_
        rw [hl] at hf
        revert hf
        decide
      · rw [List.mem_singleton.mp hr]
        exact hone hl
    · exact fun elts he => h ⟨elts, he⟩

theorem converts_constant (c : Constant) : Converts read s (.constant c) (constantRef c) := by
  cases c with
  | none => exact faults_ok _
  | _ => exact (faults_caused (loading_describe _)).map _

/-- The strings in an expression are converted as expressions. -/
def ConvertsTexts (read : Reader) (s : Scope) (literal : Text → Except SourceFault α) : Prop :=
  ∀ t marked, Converts read s (.constant (.text t marked)) (literal t)

mutual

theorem converts_alternatives (hliteral : ConvertsTexts read s literal) (e : Expr) :
    Converts read s e (alternatives s literal e) := by
  cases e with
  | constant c =>
    cases c with
    | text t marked =>
      rw [alternatives]
      exact (hliteral t marked).map _
    | _ =>
      simp only [alternatives]
      exact (converts_constant _).map _
  | binary left op right =>
    cases op with
    | bitOr =>
      rw [alternatives]
      refine faults_bind (faults_caused_imp (converts_alternatives hliteral left) MeetsEmpty.left id) fun _ _ => ?_
      exact (faults_caused_imp (converts_alternatives hliteral right) MeetsEmpty.right id).map _
    | _ =>
      simp only [alternatives]
      exact (faults_caused (loading_origin s _)).map _
  | subscript value index =>
    exact converts_subscript ((converts_alternatives hliteral index).map _) (converts_index hliteral index)
  | _ =>
    simp only [alternatives]
    exact (faults_caused (loading_origin s _)).map _

theorem converts_index (hliteral : ConvertsTexts read s literal) (index : Expr) :
    ∀ elts, index = .tuple elts → ∀ e ∈ elts, Converts read s e (exprRef s literal e) := by
  cases index with
  | tuple elts =>
    intro elts' he
    cases he
    exact converts_elements hliteral elts
  | _ => exact fun elts he => nomatch he

theorem converts_elements (hliteral : ConvertsTexts read s literal) :
    ∀ elts : List Expr, ∀ e ∈ elts, Converts read s e (exprRef s literal e)
  | [] => fun e he => absurd he List.not_mem_nil
  | e :: rest => by
    have hfirst := converts_alternatives hliteral e
    have hrest := converts_elements hliteral rest
    intro e' he'
    rcases List.mem_cons.mp he' with rfl | he'
    · exact hfirst.map _
    · exact hrest e' he'

end

theorem converts_exprRef (hliteral : ConvertsTexts read s literal) (e : Expr) :
    Converts read s e (exprRef s literal e) := (converts_alternatives hliteral e).map _

/-- Converting an annotation with tags fails as converting it without does. -/
theorem converts_taggedOf {tagged : Text → TaggedResult} (hliteral : ConvertsTexts read s literal)
    (htagged : ConvertsTexts read s tagged) (e : Expr) :
    Converts read s e (taggedOf s literal tagged e) := by
  fun_induction taggedOf s literal tagged e with
  | case1 t marked => exact htagged t marked
  | case2 value elts ih =>
    refine faults_bind (faults_caused (loading_origin s value)) fun origin ho => ?_
    split
    · rename_i ha
      have hf : takesFirst origin = true := by rw [takesFirst, ha, decide_eq_true rfl, Bool.true_or]
      split
      · exact faults_error (MeetsEmpty.empty ho hf)
      · rename_i e metadata
        exact faults_bind (faults_caused_imp ih (MeetsEmpty.first ho hf) id) fun _ _ => faults_ok _
    · exact (converts_exprRef hliteral _).map _
  | case3 value index h ih =>
    refine faults_bind (faults_caused (loading_origin s value)) fun origin ho => ?_
    split
    · rename_i ha
      have hl : origin ≠ literalOrigin := by
        rw [ha]
        decide
      exact faults_caused_imp ih (MeetsEmpty.index ho hl) id
    · exact (converts_exprRef hliteral _).map _
  | case4 e => exact (converts_exprRef hliteral _).map _

end Conversion

/-! ## Strings in annotations -/

theorem exists_text {e : Expr} {t : Text} (h : e.text? = some t) : ∃ marked, e = .constant (.text t marked) := by
  unfold Expr.text? at h
  split at h
  · cases h
    exact ⟨_, rfl⟩
  · cases h

section Strings
variable (hread : ∀ t, Faults Loading (read t))
include hread

/-- Where a text is read, and stands for itself if it is no expression, faults come from what is done with the
expression. -/
theorem faults_reading {P : SourceFault → Prop} (hP : ∀ fault, Loading fault → P fault) {t : Text} {itself : α}
    {convert : Expr → Except SourceFault α} (hconvert : ∀ e, read t = .ok e → Faults P (convert e)) :
    Faults P (match read t with
      | .ok e => convert e
      | .error .malformed => .ok itself
      | .error fault => .error fault) := by
  have hloads := hread t
  split
  · rename_i e hr
    exact hconvert e hr
  · exact faults_ok itself
  · rename_i hr
    exact faults_error (hP _ (hloads _ hr))

theorem converts_literalRef (n : Nat) : ConvertsTexts read s (literalRef read s n) := by
  induction n with
  | zero => exact fun _ _ => faults_ok _
  | succ n ih =>
    intro t marked
    rw [literalRef]
    refine faults_reading hread (fun _ => caused_of_loading) fun e hr => ?_
    unfold unquotedRef
    split
    · exact faults_ok _
    · exact faults_caused_imp (converts_exprRef ih e) (MeetsEmpty.text hr) id

theorem converts_literalTagged (n : Nat) : ConvertsTexts read s (literalTagged read s n) := by
  induction n with
  | zero => exact fun _ _ => faults_ok _
  | succ n ih =>
    intro t marked
    rw [literalTagged]
    refine faults_reading hread (fun _ => caused_of_loading) fun e hr => ?_
    refine faults_caused_imp (?_ : Converts read s e _) (MeetsEmpty.text hr) id
    unfold unquotedTagged
    split
    · rename_i t' hq
      obtain ⟨marked', rfl⟩ := exists_text hq
      exact (converts_literalRef hread n t' marked').map _
    · exact converts_taggedOf (converts_literalRef hread n) ih e

theorem converts_toRef (e : Expr) : Converts read s e (toRef read s e) :=
  converts_exprRef (fun t => converts_literalRef hread _ t) e

theorem converts_taggedRef (e : Expr) : Converts read s e (taggedRef read s e) :=
  converts_taggedOf (fun t => converts_literalRef hread _ t) (fun t => converts_literalTagged hread _ t) e

/-- Whether an annotation marks a variable of the class can always be told, or its module fails to load. -/
theorem loading_isClassVar (e : Expr) : Faults Loading (isClassVar read s e) := by
  unfold isClassVar unquote
  refine faults_bind ?_ fun inner _ => (loading_origin s _).map _
  split
  · exact faults_ok e
  · exact faults_reading hread (fun _ h => h) fun inner _ => faults_ok inner

end Strings

/-! ## Values of members -/

/-- Evaluating the expression comes to a sum or a difference of an integer above all floating-point numbers and an
imaginary number. -/
inductive AddsTooLarge : Expr → Prop
  | sum {left right : Expr} {op : BinaryOp} {n : Int} (hop : op = .add ∨ op = .sub)
    (hleft : signedNumber? left = some (.int n)) (hright : unsignedNumber? right = some .imaginary)
    (hn : isTooLarge n = true) : AddsTooLarge (.binary left op right)
  | tuple {elts : List Expr} {e : Expr} (he : e ∈ elts) (h : AddsTooLarge e) : AddsTooLarge (.tuple elts)
  | list {elts : List Expr} {e : Expr} (he : e ∈ elts) (h : AddsTooLarge e) : AddsTooLarge (.list elts)
  | set {elts : List Expr} {e : Expr} (he : e ∈ elts) (h : AddsTooLarge e) : AddsTooLarge (.set elts)
  | key {items : List Item} {key value : Expr} (hi : .pair key value ∈ items) (h : AddsTooLarge key) :
    AddsTooLarge (.dict items)
  | value {items : List Item} {key value : Expr} (hi : .pair key value ∈ items) (h : AddsTooLarge value) :
    AddsTooLarge (.dict items)

theorem complexValue_tooLarge {left right : Expr} {op : BinaryOp} (hop : op = .add ∨ op = .sub)
    (h : complexValue left right = .error .tooLarge) : AddsTooLarge (.binary left op right) := by
  unfold complexValue at h
  split at h
  · rename_i n hleft hright
    split at h
    · rename_i hn
      exact AddsTooLarge.sum hop hleft hright hn
    · cases h
  · cases h
  · cases h

theorem evaluate_call_ne_tooLarge (func : Expr) (args : List Expr) (keywords : List Keyword) :
    evaluate (.call func args keywords) ≠ .error .tooLarge := by
  intro h
  by_cases hset : Expr.call func args keywords = .call (.name "set") [] []
  · rw [hset, evaluate] at h
    cases h
  · rw [evaluate] at h
    · split at h <;> cases h
    -- the expression is of no other form that `evaluate` looks at
    all_goals first | exact hset | (intros; contradiction)

theorem error_of_bind {ε α β : Type} {x : Except ε α} {f : α → Except ε β} {fault : ε}
    (h : x >>= f = .error fault) : x = .error fault ∨ ∃ a, x = .ok a ∧ f a = .error fault := by
  cases x with
  | error fault' =>
    cases h
    exact Or.inl rfl
  | ok a => exact Or.inr ⟨a, rfl, h⟩

mutual

theorem evaluate_tooLarge (e : Expr) (h : evaluate e = .error .tooLarge) : AddsTooLarge e := by
  cases e with
  | constant c =>
    rw [evaluate] at h
    cases h
  | tuple elts =>
    rw [evaluate] at h
    rcases error_of_bind h with h | ⟨_, _, h⟩
    · obtain ⟨e, he, h⟩ := evaluateAll_tooLarge elts h
      exact AddsTooLarge.tuple he h
    · cases h
  | list elts =>
    rw [evaluate] at h
    rcases error_of_bind h with h | ⟨_, _, h⟩
    · obtain ⟨e, he, h⟩ := evaluateAll_tooLarge elts h
      exact AddsTooLarge.list he h
    · cases h
  | set elts =>
    rw [evaluate] at h
    rcases error_of_bind h with h | ⟨_, _, h⟩
    · obtain ⟨e, he, h⟩ := evaluateElements_tooLarge elts h
      exact AddsTooLarge.set he h
    · cases h
  | call func args keywords => exact absurd h (evaluate_call_ne_tooLarge func args keywords)
  | dict items =>
    rw [evaluate] at h
    rcases error_of_bind h with h | ⟨_, _, h⟩
    · obtain ⟨key, value, hi, h | h⟩ := evaluateItems_tooLarge items h
      · exact AddsTooLarge.key hi h
      · exact AddsTooLarge.value hi h
    · cases h
  | binary left op right =>
    cases op with
    | add =>
      rw [evaluate] at h
      exact complexValue_tooLarge (Or.inl rfl) h
    | sub =>
      rw [evaluate] at h
      exact complexValue_tooLarge (Or.inr rfl) h
    | _ =>
      simp only [evaluate] at h
      split at h <;> cases h
  | _ =>
    simp only [evaluate] at h
    split at h <;> cases h

theorem evaluateAll_tooLarge : ∀ elts : List Expr, evaluateAll elts = .error .tooLarge → ∃ e ∈ elts, AddsTooLarge e
  | [], h => by
    rw [evaluateAll] at h
    cases h
  | e :: rest, h => by
    rw [evaluateAll] at h
    rcases error_of_bind h with h | ⟨_, _, h⟩
    · exact ⟨e, List.mem_cons_self .., evaluate_tooLarge e h⟩
    · rcases error_of_bind h with h | ⟨_, _, h⟩
      · obtain ⟨e', he', h⟩ := evaluateAll_tooLarge rest h
        exact ⟨e', List.mem_cons_of_mem e he', h⟩
      · cases h

theorem evaluateElements_tooLarge :
    ∀ elts : List Expr, evaluateElements elts = .error .tooLarge → ∃ e ∈ elts, AddsTooLarge e
  | [], h => by
    rw [evaluateElements] at h
    cases h
  | e :: rest, h => by
    rw [evaluateElements] at h
    rcases error_of_bind h with h | ⟨_, _, h⟩
    · exact ⟨e, List.mem_cons_self .., evaluate_tooLarge e h⟩
    · split at h
      · obtain ⟨e', he', h⟩ := evaluateElements_tooLarge rest h
        exact ⟨e', List.mem_cons_of_mem e he', h⟩
      · cases h

theorem evaluateItems_tooLarge : ∀ items : List Item, evaluateItems items = .error .tooLarge →
    ∃ key value, .pair key value ∈ items ∧ (AddsTooLarge key ∨ AddsTooLarge value)
  | [], h => by
    rw [evaluateItems] at h
    cases h
  | .pair key value :: rest, h => by
    rw [evaluateItems] at h
    rcases error_of_bind h with h | ⟨_, _, h⟩
    · exact ⟨key, value, List.mem_cons_self .., Or.inl (evaluate_tooLarge key h)⟩
    · rcases error_of_bind h with h | ⟨_, _, h⟩
      · exact ⟨key, value, List.mem_cons_self .., Or.inr (evaluate_tooLarge value h)⟩
      · split at h
        · obtain ⟨key', value', hi, h⟩ := evaluateItems_tooLarge rest h
          exact ⟨key', value', List.mem_cons_of_mem _ hi, h⟩
        · cases h
  | .spread _ :: _, h => by
    rw [evaluateItems] at h
    cases h

end

theorem faults_memberValue (e : Expr) : Faults (Caused False (AddsTooLarge e)) (memberValue e) := by
  unfold memberValue
  split
  · exact faults_ok _
  · exact faults_ok _
  · exact faults_ok _
  · rename_i h
    exact faults_error (evaluate_tooLarge e h)

/-! ## Class bodies -/

/-- The annotation of an attribute that an initializer sets. -/
def initialType? : Stmt → Option Expr
  | .annotated target type _ => (selfAttribute? target).map fun _ => type
  | _ => none

/-- The annotations of a function that are converted. -/
def convertedOfFunction (decorators : List Expr) (name : String) (ps : Parameters) (returns : Option Expr)
    (body : List Stmt) : List Expr :=
  match decorators.mapM decoratorName with
  | .error _ => []
  | .ok found =>
    if name = "__init__" then body.filterMap initialType?
    else if isPrivate name || hasDecorator nonInstanceDecorators found then []
    else if found.any isAccessor then []
    else if hasDecorator propertyDecorators found then returns.toList
    else (callerParameters ps).filterMap Parameter.typeExpr ++ returns.toList

/-- The annotations in a statement of a class body that are converted. -/
def convertedOf (read : Reader) (s : Scope) : Stmt → List Expr
  | .annotated (.name name) type _ =>
    if isPrivate name || (isClassVar read s type).toOption.getD true then [] else [type]
  | .funcDef decorators name ps returns body => convertedOfFunction decorators name ps returns body
  | _ => []

/-- The values in a statement of a class body that are evaluated. -/
def evaluatedOf : Stmt → List Expr
  | .assign targets value => if memberNames targets = [] then [] else [value]
  | _ => []

/-- One of the expressions comes to a subscript without the index that is asked for. -/
def AnyEmpty (read : Reader) (s : Scope) (es : List Expr) : Prop := ∃ e ∈ es, MeetsEmpty read s e

/-- One of the expressions comes to a sum with an integer that is too large. -/
def AnyTooLarge (es : List Expr) : Prop := ∃ e ∈ es, AddsTooLarge e

section Bodies
variable (hread : ∀ t, Faults Loading (read t))

theorem loading_decoratorName (e : Expr) : Faults Loading (decoratorName e) := by
  unfold decoratorName
  dsimp only
  split
  · exact faults_ok _
  · exact loading_print _

theorem faults_readMembers {targets es : List Expr} {value : Expr} (b : Body)
    (hes : memberNames targets ≠ [] → value ∈ es) :
    Faults (Caused index (AnyTooLarge es)) (readMembers b targets value) := by
  unfold readMembers
  split
  · exact faults_ok b
  · rename_i hnames
    exact (faults_caused_imp (faults_memberValue value) False.elim fun h => ⟨value, hes hnames, h⟩).map _

/-- What converting one expression does, it does as one of several. -/
theorem converts_among {es : List Expr} {e : Expr} {x : Except SourceFault α} (he : e ∈ es)
    (h : Converts read s e x) : Faults (Caused (AnyEmpty read s es) integer) x :=
  faults_caused_imp h (fun h => ⟨e, he, h⟩) False.elim

include hread

theorem converts_parameterFacts {p : Parameter} {es : List Expr} (hes : ∀ e, p.typeExpr = some e → e ∈ es) :
    Faults (Caused (AnyEmpty read s es) integer) (parameterFacts read s p) := by
  unfold parameterFacts
  split
  · exact faults_ok _
  · rename_i e he
    exact faults_bind (converts_among (hes e he) (converts_taggedRef hread e)) fun _ _ => faults_ok _

theorem converts_returnRef {returns : Option Expr} {es : List Expr} (hes : ∀ e, returns = some e → e ∈ es) :
    Faults (Caused (AnyEmpty read s es) integer) (returnRef read s returns) := by
  unfold returnRef
  split
  · exact faults_ok _
  · rename_i e
    exact faults_bind (converts_among (hes e rfl) (converts_taggedRef hread e)) fun _ _ => faults_ok _

theorem converts_methodFacts {name : String} {ps : Parameters} {returns : Option Expr} {es : List Expr}
    (hparameters : ∀ p ∈ callerParameters ps, ∀ e, p.typeExpr = some e → e ∈ es)
    (hreturns : ∀ e, returns = some e → e ∈ es) :
    Faults (Caused (AnyEmpty read s es) integer) (methodFacts read s name ps returns) := by
  unfold methodFacts
  refine faults_bind (faults_mapM fun p hp => converts_parameterFacts hread (hparameters p hp)) fun _ _ => ?_
  exact (converts_returnRef hread hreturns).map _

theorem converts_initProperty {stmt : Stmt} {es : List Expr} (hes : ∀ e, initialType? stmt = some e → e ∈ es) :
    Faults (Caused (AnyEmpty read s es) integer) (initProperty read s stmt) := by
  unfold initProperty
  split
  · rename_i target type value
    split
    · exact faults_ok _
    · rename_i hname
      have htype : type ∈ es := hes type (by rw [initialType?, hname]; rfl)
      exact faults_bind (converts_among htype (converts_taggedRef hread type)) fun _ _ => faults_ok _
  · exact faults_ok _

theorem converts_readProperty {name : String} {type : Expr} {es : List Expr} (b : Body) (hasDefault : Bool)
    (hes : isPrivate name = false → isClassVar read s type = .ok false → type ∈ es) :
    Faults (Caused (AnyEmpty read s es) integer) (readProperty read s b name type hasDefault) := by
  unfold readProperty
  split
  · exact faults_ok b
  · rename_i hname
    refine faults_bind (faults_caused (loading_isClassVar hread type)) fun isVar hvar => ?_
    split
    · exact faults_ok b
    · rename_i hfalse
      rw [Bool.not_eq_true] at hname hfalse
      rw [hfalse] at hvar
      exact faults_bind (converts_among (hes hname hvar) (converts_taggedRef hread type)) fun _ _ => faults_ok _

theorem converts_readFunction (b : Body) (decorators : List Expr) (name : String) (ps : Parameters)
    (returns : Option Expr) (body : List Stmt) :
    Faults (Caused (AnyEmpty read s (convertedOfFunction decorators name ps returns body)) integer)
      (readFunction read s b decorators name ps returns body) := by
  unfold readFunction
  refine faults_bind (faults_caused (faults_mapM fun e _ => loading_decoratorName e)) fun found hfound => ?_
  rw [convertedOfFunction, hfound]
  dsimp only
  split
  · refine faults_bind ?_ fun _ _ => faults_ok _
    exact (faults_mapM fun stmt hstmt => converts_initProperty hread fun e he =>
      List.mem_filterMap.mpr ⟨stmt, hstmt, he⟩).map _
  · split
    · exact faults_ok b
    · split
      · exact faults_ok b
      · split
        · split
          · exact faults_ok b
          · rename_i e
            exact faults_bind (converts_among (List.mem_singleton_self e) (converts_taggedRef hread e))
              fun _ _ => faults_ok _
        · refine Faults.map (converts_methodFacts hread (fun p hp e he => ?_) fun e he => ?_) _
          · exact List.mem_append_left _ (List.mem_filterMap.mpr ⟨p, hp, he⟩)
          · exact List.mem_append_right _ (Option.mem_toList.mpr he)

theorem faults_readStmt (b : Body) (stmt : Stmt) :
    Faults (Caused (AnyEmpty read s (convertedOf read s stmt)) (AnyTooLarge (evaluatedOf stmt)))
      (readStmt read s b stmt) := by
  unfold readStmt
  split
  · rename_i name type value
    refine converts_readProperty hread b value.isSome fun hname hvar => ?_
    rw [convertedOf, hname, hvar]
    exact List.mem_singleton_self type
  · rename_i targets value
    refine faults_readMembers b fun hnames => ?_
    rw [evaluatedOf, if_neg hnames]
    exact List.mem_singleton_self value
  · exact converts_readFunction hread b _ _ _ _ _
  · exact faults_ok b

/-- A class statement ends a run only through the expressions in it that are converted or evaluated. -/
theorem faults_classFacts (decorators : List Expr) (name : String) (bases : List Expr) (body : List Stmt) :
    Faults (Caused (AnyEmpty read s (bases ++ body.flatMap (convertedOf read s)))
      (AnyTooLarge (body.flatMap evaluatedOf))) (classFacts read s decorators name bases body) := by
  unfold classFacts
  refine faults_bind ?_ fun b _ => faults_bind ?_ fun _ _ => faults_bind ?_ fun _ _ => faults_ok _
  · refine faults_foldlM (fun b stmt hstmt => faults_caused_imp (faults_readStmt hread b stmt) ?_ ?_) _
    · exact fun ⟨e, he, h⟩ => ⟨e, List.mem_append_right _ (List.mem_flatMap.mpr ⟨stmt, hstmt, he⟩), h⟩
    · exact fun ⟨e, he, h⟩ => ⟨e, List.mem_flatMap.mpr ⟨stmt, hstmt, he⟩, h⟩
  · exact faults_mapM fun e he => converts_among (List.mem_append_left _ he) (converts_toRef hread e)
  · exact faults_caused (faults_mapM fun e _ => loading_decoratorName e)

/-! ## Modules -/

/-- The classes at the top of a module, each with its bases and its body. -/
def topClasses (body : List Stmt) : List (List Expr × List Stmt) :=
  body.filterMap fun stmt => match stmt with
    | .classDef _ _ bases stmts => some (bases, stmts)
    | _ => none

/-- The expressions of a module that are converted. -/
def convertedIn (read : Reader) (s : Scope) (body : List Stmt) : List Expr :=
  (topClasses body).flatMap fun c => c.1 ++ c.2.flatMap (convertedOf read s)

/-- The expressions of a module that are evaluated. -/
def evaluatedIn (body : List Stmt) : List Expr := (topClasses body).flatMap fun c => c.2.flatMap evaluatedOf

theorem faults_moduleFacts (module path : String) (isPackage : Bool) (body : List Stmt) :
    Faults (Caused (AnyEmpty read (scopeOf module isPackage body)
        (convertedIn read (scopeOf module isPackage body) body)) (AnyTooLarge (evaluatedIn body)))
      (moduleFacts read module path isPackage body) := by
  unfold moduleFacts
  refine Faults.map (faults_mapM fun stmt hstmt => ?_) _
  unfold stmtFacts
  split
  · rename_i decorators name bases stmts
    have htop : (bases, stmts) ∈ topClasses body := List.mem_filterMap.mpr ⟨_, hstmt, rfl⟩
    refine Faults.map (faults_caused_imp (faults_classFacts hread decorators name.text bases stmts) ?_ ?_) _
    · exact fun ⟨e, he, h⟩ => ⟨e, List.mem_flatMap.mpr ⟨_, htop, he⟩, h⟩
    · exact fun ⟨e, he, h⟩ => ⟨e, List.mem_flatMap.mpr ⟨_, htop, he⟩, h⟩
  · exact faults_ok _

end Bodies

end ModelReach.Facts
