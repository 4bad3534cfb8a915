import ModelReach.Facts.Class
import ModelReach.Proofs.Facts.Module
import ModelReach.Proofs.Facts.Quoting

/-! Statements of a class that are not public. Private names, class variables and functions that are called without
an instance leave no trace in the facts about the class, wherever they stand after its first statement. All that can
be noticed of them is a decorator that has no name since it cannot be written out: then there are no facts at all. -/
namespace ModelReach.Facts
set_option autoImplicit false

open Source (Expr Stmt SourceFault Parameters)

/-! ## Hidden statements -/

/-- The marker of class variables, alone or with an index. -/
inductive ClassVarMark (s : Scope) : Expr → Prop where
  | bare {head : Expr} {name : String} (hname : head.dottedName? = some name)
      (hmark : s.qualify name = classVarOrigin) : ClassVarMark s head
  | indexed {head index : Expr} {name : String} (hname : head.dottedName? = some name)
      (hmark : s.qualify name = classVarOrigin) : ClassVarMark s (.subscript head index)

/-- The annotation of a class variable: the marker, or a string that holds it. -/
inductive MarksVariable (read : Reader) (s : Scope) : Expr → Prop where
  | plain {e : Expr} (h : ClassVarMark s e) : MarksVariable read s e
  | quoted {t : Text} {marked : Bool} {e : Expr} (hread : read t = .ok e) (h : ClassVarMark s e) :
      MarksVariable read s (.constant (.text t marked))

/-- A decorator that leaves a function without an instance, or makes it the other half of a property. -/
def Withdraws (decorator : Expr) : Prop :=
  ∃ name, decoratorName decorator = .ok name ∧
    (Dotted.lastPart name ∈ nonInstanceDecorators ∨ isAccessor name = true)

/-- The statements of a class body that are not public. Of an assignment no target is a public name. -/
inductive Hidden (read : Reader) (s : Scope) : Stmt → Prop where
  | privateVariable {name : String} {type : Expr} {value : Option Expr} (h : isPrivate name = true) :
      Hidden read s (.annotated (.name name) type value)
  | classVariable {name : String} {type : Expr} {value : Option Expr} (h : MarksVariable read s type) :
      Hidden read s (.annotated (.name name) type value)
  | privateMembers {targets : List Expr} {value : Expr} (h : ∀ name, .name name ∈ targets → isPrivate name = true) :
      Hidden read s (.assign targets value)
  | function {decorators : List Expr} {name : String} {ps : Parameters} {returns : Option Expr} {body : List Stmt}
      (hname : name ≠ "__init__") (h : isPrivate name = true ∨ ∃ d ∈ decorators, Withdraws d) :
      Hidden read s (.funcDef decorators name ps returns body)

/-- The decorators of a function. Those of other statements are not looked at. -/
def functionDecorators : Stmt → List Expr
  | .funcDef decorators _ _ _ _ => decorators
  | _ => []

/-- The decorator has a name: what it is or calls is a dotted name, or can be written out. -/
def IsNamed (decorator : Expr) : Prop := ∃ name, decoratorName decorator = .ok name

theorem isNamed_of_dottedName {e : Expr} {name : String} (he : e.dottedName? = some name) :
    IsNamed e ∧ ∀ args keywords, IsNamed (.call e args keywords) := by
  refine ⟨⟨name, ?_⟩, fun args keywords => ⟨name, ?_⟩⟩
  · rcases name_or_attribute he with ⟨id, rfl⟩ | ⟨value, attr, rfl⟩ <;> simp only [decoratorName, he]
  · simp only [decoratorName, he]

section Bodies
variable {read : Reader} {s : Scope}

/-! ## One statement -/

theorem ClassVarMark.text?_eq_none {e : Expr} (h : ClassVarMark s e) : e.text? = none := by
  cases h with
  | bare hname _ => rcases name_or_attribute hname with ⟨id, rfl⟩ | ⟨value, attr, rfl⟩ <;> rfl
  | indexed _ _ => rfl

theorem ClassVarMark.marks {e : Expr} (h : ClassVarMark s e) : marksClassVar s e = .ok true := by
  cases h with
  | bare hname hmark =>
    have horigin := origin_of_dottedName (s := s) hname
    rcases name_or_attribute hname with ⟨id, rfl⟩ | ⟨value, attr, rfl⟩
    · simp only [marksClassVar, horigin, hmark, pure_bind, decide_true]
      rfl
    · simp only [marksClassVar, horigin, hmark, pure_bind, decide_true]
      rfl
  | indexed hname hmark =>
    simp only [marksClassVar, origin_of_dottedName (s := s) hname, hmark, pure_bind, decide_true]
    rfl

theorem MarksVariable.isClassVar {type : Expr} (h : MarksVariable read s type) : isClassVar read s type = .ok true := by
  cases h with
  | plain h => rw [isClassVar_eq (unquote_of_text?_eq_none h.text?_eq_none), h.marks]
  | quoted hread h => rw [isClassVar_eq (unquote_text hread), h.marks]

theorem memberNames_eq_nil {targets : List Expr} (h : ∀ name, .name name ∈ targets → isPrivate name = true) :
    memberNames targets = [] := by
  rw [memberNames, List.filterMap_eq_nil_iff]
  intro target htarget
  split
  · rw [if_pos (h _ htarget)]
  · rfl

theorem names_of_withdraws {decorators : List Expr} {names : List String}
    (hnames : decorators.mapM decoratorName = .ok names) (h : ∃ d ∈ decorators, Withdraws d) :
    hasDecorator nonInstanceDecorators names = true ∨ names.any isAccessor = true := by
  obtain ⟨d, hd, name, hname, h⟩ := h
  obtain ⟨name', hmem, hname'⟩ := exists_of_mapM_ok hnames d hd
  obtain rfl : name = name' := Except.ok.inj (hname.symm.trans hname')
  refine h.imp (fun h => ?_) fun h => List.any_eq_true.mpr ⟨name, hmem, h⟩
  exact List.any_eq_true.mpr ⟨name, hmem, List.contains_iff_mem.mpr h⟩

theorem readFunction_hidden {decorators : List Expr} {name : String} {ps : Parameters} {returns : Option Expr}
    {body : List Stmt} (hname : name ≠ "__init__") (h : isPrivate name = true ∨ ∃ d ∈ decorators, Withdraws d)
    (b : Body) :
    readFunction read s b decorators name ps returns body = decorators.mapM decoratorName >>= fun _ => pure b := by
  unfold readFunction
  cases hnames : decorators.mapM decoratorName with
  | error fault => rfl
  | ok names =>
    -- the two tests for functions without an instance, and then the one for accessors
    have htests :
        (isPrivate name || hasDecorator nonInstanceDecorators names) = true ∨ names.any isAccessor = true := by
      rcases h with h | h
      · exact Or.inl (by rw [h, Bool.true_or])
      · exact (names_of_withdraws hnames h).imp (fun h => by rw [h, Bool.or_true]) id
    change (if name = "__init__" then _ else _) = _
    rw [if_neg hname]
    by_cases hfirst : (isPrivate name || hasDecorator nonInstanceDecorators names) = true
    · rw [if_pos hfirst]
      rfl
    · rw [if_neg hfirst, if_pos (htests.resolve_left hfirst)]
      rfl

/-- Reading a hidden statement does nothing but write out the decorators. -/
theorem readStmt_hidden {stmt : Stmt} (h : Hidden read s stmt) (b : Body) :
    readStmt read s b stmt = (functionDecorators stmt).mapM decoratorName >>= fun _ => pure b := by
  cases h with
  | privateVariable h => simp only [readStmt, readProperty, h, functionDecorators, List.mapM_nil, pure_bind, if_true]
  | classVariable h =>
    simp only [readStmt, readProperty, h.isClassVar, functionDecorators, List.mapM_nil, pure_bind]
    split
    · rfl
    · rfl
  | privateMembers h =>
    simp only [readStmt, readMembers, memberNames_eq_nil h, functionDecorators, List.mapM_nil, pure_bind]
    rfl
  | function hname h => exact readFunction_hidden hname h b

/-! ## A run over a body -/

theorem foldlM_hidden {hidden : List Stmt} (h : ∀ stmt ∈ hidden, Hidden read s stmt) (b : Body) :
    hidden.foldlM (readStmt read s) b =
      (hidden.flatMap functionDecorators).mapM decoratorName >>= fun _ => pure b := by
  induction hidden with
  | nil => rfl
  | cons stmt rest ih =>
    obtain ⟨hstmt, hrest⟩ := List.forall_mem_cons.mp h
    rw [List.foldlM_cons, readStmt_hidden hstmt b, List.flatMap_cons, List.mapM_append]
    simp only [bind_assoc, pure_bind, ih hrest]

theorem docstring?_append {before : List Stmt} (h : before ≠ []) (after : List Stmt) :
    docstring? (before ++ after) = docstring? before := by
  cases before with
  | nil => exact absurd rfl h
  | cons stmt before =>
    rw [List.cons_append]
    unfold docstring?
    split
    · rename_i t _ _ he
      obtain ⟨rfl, _⟩ := List.cons.inj he
      rfl
    · rename_i hne
      split
      · rename_i t marked _ he
        obtain ⟨rfl, _⟩ := List.cons.inj he
        exact absurd rfl (hne t marked _)
      · rfl

theorem classFacts_append {before hidden : List Stmt} (hbefore : before ≠ []) (after : List Stmt)
    (h : ∀ stmt ∈ hidden, Hidden read s stmt) (decorators bases : List Expr) (name : String) :
    classFacts read s decorators name bases (before ++ hidden ++ after) = (do
      let b ← before.foldlM (readStmt read s) ⟨[], [], [], []⟩
      let _ ← (hidden.flatMap functionDecorators).mapM decoratorName
      let b ← after.foldlM (readStmt read s) b
      let bases ← bases.mapM (toRef read s)
      let decorators ← decorators.mapM decoratorName
      pure ⟨name, s.module, bases, decorators, docstring? before, b.allProperties, b.methods, b.members⟩) := by
  rw [classFacts, List.append_assoc, docstring?_append hbefore]
  simp only [List.foldlM_append, foldlM_hidden h, bind_assoc, pure_bind]

/-- Hidden statements after the first statement of a class body leave the facts about the class as they are if all their
decorators have names; and if one has none, there are no facts. -/
theorem classFacts_insert {before hidden : List Stmt} (hbefore : before ≠ []) (after : List Stmt)
    (h : ∀ stmt ∈ hidden, Hidden read s stmt) (decorators bases : List Expr) (name : String) :
    ((∀ d ∈ hidden.flatMap functionDecorators, IsNamed d) →
      classFacts read s decorators name bases (before ++ hidden ++ after) =
        classFacts read s decorators name bases (before ++ after)) ∧
    ∀ c, classFacts read s decorators name bases (before ++ hidden ++ after) = .ok c →
      ∀ d ∈ hidden.flatMap functionDecorators, IsNamed d := by
  have hwith := classFacts_append hbefore after h decorators bases name
  refine ⟨fun hnamed => ?_, fun c hc => ?_⟩
  · obtain ⟨names, hnames⟩ := mapM_ok_iff.mpr hnamed
    have hnone : ∀ stmt ∈ [], Hidden read s stmt := nofun
    have hwithout := classFacts_append hbefore after hnone decorators bases name
    rw [List.append_nil] at hwithout
    rw [hwith, hwithout, hnames]
    rfl
  · rw [hwith] at hc
    obtain ⟨_, _, hc⟩ := bind_ok.mp hc
    obtain ⟨names, hnames, _⟩ := bind_ok.mp hc
    exact mapM_ok_iff.mp ⟨names, hnames⟩

end Bodies

/-! ## A counter -/

def counterScope : Scope := ⟨"pkg.m", [("ClassVar", "typing.ClassVar")], ["Counter"]⟩

def counterMethod (decorators : List Expr) (name : String) : Stmt :=
  .funcDef decorators name ⟨[], [⟨"self", none⟩], none, [], none⟩ none []

def counterVariable : Stmt := .annotated (.name "count") (.name "int") none

def counterInternals : List Stmt :=
  [.annotated (.name "_seen") (.name "dict") none,
   .annotated (.name "limit") (.constant (.text (Text.ofString "ClassVar[int]") false)) none,
   .assign [.name "_step"] (.constant (.int 1)),
   counterMethod [.name "staticmethod"] "start",
   counterMethod [.attribute (.name "count") "setter"] "count",
   counterMethod [.call (.name "cache") [.constant .none] []] "_next"]

theorem classFacts_insert_counter :
    (∀ stmt ∈ counterInternals, Hidden Source.readExpression counterScope stmt) ∧
    (∀ d ∈ counterInternals.flatMap functionDecorators, IsNamed d) ∧
    classFacts Source.readExpression counterScope [] "Counter" []
        ([counterVariable] ++ counterInternals ++ [counterMethod [] "next"]) =
      classFacts Source.readExpression counterScope [] "Counter" []
        ([counterVariable] ++ [counterMethod [] "next"]) := by
  have hread : Source.readExpression (Text.ofString "ClassVar[int]") =
      .ok (.subscript (.name "ClassVar") (.name "int")) := by cbv
  have hhidden : ∀ stmt ∈ counterInternals, Hidden Source.readExpression counterScope stmt := by
    simp only [counterInternals, List.forall_mem_cons]
    refine ⟨.privateVariable (by decide), .classVariable (.quoted hread (.indexed rfl (by decide))),
      .privateMembers fun name hname => ?_, .function (by decide) (Or.inr ⟨_, List.mem_cons_self .., _, rfl, ?_⟩),
      .function (by decide) (Or.inr ⟨_, List.mem_cons_self .., _, rfl, ?_⟩), .function (by decide) (Or.inl (by decide)),
      List.forall_mem_nil _⟩
    · cases List.mem_singleton.mp hname
      decide
    · exact Or.inl (by decide)
    · exact Or.inr (by decide)
  have hnamed : ∀ d ∈ counterInternals.flatMap functionDecorators, IsNamed d := by
    change ∀ d ∈ [_, _, _], IsNamed d
    simp only [List.forall_mem_cons]
    exact ⟨(isNamed_of_dottedName rfl).1, (isNamed_of_dottedName rfl).1, (isNamed_of_dottedName rfl).2 _ _,
      List.forall_mem_nil _⟩
  exact ⟨hhidden, hnamed, (classFacts_insert (List.cons_ne_nil _ _) _ hhidden [] [] "Counter").1 hnamed⟩

/-- A private method under a decorator with a control character in an interpolated string. -/
def counterLabelled : Stmt :=
  counterMethod [.subscript (.name "labels") (.joined [.formatted (.constant (.text [127] false)) none none])] "_label"

/-- The decorator cannot be written out, so that there are facts about the class only without its private method. -/
theorem classFacts_insert_unwritable :
    Hidden Source.readExpression counterScope counterLabelled ∧
    (∃ c, classFacts Source.readExpression counterScope [] "Counter" []
      ([counterVariable] ++ [counterVariable]) = .ok c) ∧
    classFacts Source.readExpression counterScope [] "Counter" []
      ([counterVariable] ++ [counterLabelled] ++ [counterVariable]) = .error .backslashInside :=
  ⟨.function (by decide) (Or.inl (by decide)), ⟨_, rfl⟩, rfl⟩

end ModelReach.Facts
