import ModelReach.Proofs.Catalogue.Mirror
import ModelReach.Types.Referenced

/-! The whole life of a catalogue: files are read at any time, and questions are asked between them. Types resolved
before a file was read may be out of date after it; yet what has been settled about the bases and the kind of a class
stays settled, so that each question is answered as every later catalogue would answer it. -/
namespace ModelReach.Catalogue
set_option autoImplicit false

open Files (FileTree ModuleFile)

/-- What one catalogue becomes in the course of time, whatever is asked of it. -/
inductive Lives (c : Catalogue) : Catalogue → Prop
  | here : Lives c c
  | declare {d : Catalogue} (h : Lives c d) (t : FileTree) (file : ModuleFile) : Lives c (d.declaredTypes t file).2
  | fail {d : Catalogue} (h : Lives c d) (path : String) (reason : Option String) : Lives c (d.fail path reason)
  | resolve {d : Catalogue} (h : Lives c d) (r : TypeRef) : Lives c (resolve r d).2
  | bases {d : Catalogue} (h : Lives c d) (t : Descriptor) : Lives c (bases t d).2
  | properties {d : Catalogue} (h : Lives c d) (t : Descriptor) : Lives c (properties t d).2
  | methods {d : Catalogue} (h : Lives c d) (t : Descriptor) : Lives c (methods t d).2
  | kind {d : Catalogue} (h : Lives c d) (t : Descriptor) : Lives c (kind t d).2

/-! ## Types made by a catalogue -/

/-- Made of classes numbered below a bound; the keys of types that are made of others end with a bracket. -/
inductive Made (size : Nat) : Descriptor → Prop
  | declared {n : Nat} {facts : ClassFacts} (h : n < size) : Made size (.declared n facts)
  | leaf (form : Leaf) : Made size (.leaf form)
  | array {key : String} {element : Descriptor} {unique : Bool} (hk : key.toList.getLast? = some ']')
    (he : Made size element) : Made size (.array key element unique)
  | generic {key origin : String} {args : List Descriptor} (hk : key.toList.getLast? = some ']')
    (ha : ∀ a ∈ args, Made size a) : Made size (.generic key origin args)

theorem Made.mono {size size' : Nat} {t : Descriptor} (h : Made size t) (hs : size ≤ size') : Made size' t := by
  induction h with
  | declared h => exact Made.declared (h.trans_le hs)
  | leaf form => exact Made.leaf form
  | array hk _ ih => exact Made.array hk ih
  | generic hk _ ih => exact Made.generic hk ih

/-- All types that a catalogue holds are made of classes that are registered in it, and it takes no class for a
wrapper. -/
structure Formed (c : Catalogue) : Prop where
  resolved : ∀ e ∈ c.resolved, Made c.settled.length e.2
  declared : ∀ e ∈ c.declared, Made c.settled.length e.2
  bases : ∀ n l, (c.settledAt n).bases = some l → ∀ b ∈ l, Made c.settled.length b
  kinds : ∀ n k, (c.settledAt n).kind = some k → k.isWrapper = false

theorem formed_empty : Formed empty where
  resolved _ h := absurd h List.not_mem_nil
  declared _ h := absurd h List.not_mem_nil
  bases _ _ h := nomatch h
  kinds _ _ h := nomatch h

/-- What is settled about bases and kinds stays settled. -/
structure Keeps (c d : Catalogue) : Prop where
  formed : Formed d
  size : c.settled.length ≤ d.settled.length
  bases : ∀ n a, (c.settledAt n).bases = some a → (d.settledAt n).bases = some a
  kind : ∀ n k, (c.settledAt n).kind = some k → (d.settledAt n).kind = some k

variable {c d e : Catalogue} {α β : Type} {size : Nat}

theorem Keeps.refl (h : Formed c) : Keeps c c := ⟨h, Nat.le_refl _, fun _ _ h => h, fun _ _ h => h⟩

theorem Keeps.trans (h₁ : Keeps c d) (h₂ : Keeps d e) : Keeps c e where
  formed := h₂.formed
  size := h₁.size.trans h₂.size
  bases n a h := h₂.bases n a (h₁.bases n a h)
  kind n k h := h₂.kind n k (h₁.kind n k h)

/-! ## Reading files -/

theorem settledAt_register (c : Catalogue) (facts : ModuleFacts) (n : Nat) :
    (c.register facts).settledAt n = c.settledAt n := by
  change ((c.settled ++ facts.classes.map fun _ => Settled.nothing)[n]?).getD _ = (c.settled[n]?).getD _
  rw [List.getElem?_append]
  split
  · rfl
  · rename_i hn
    rw [List.getElem?_eq_none (Nat.le_of_not_lt hn), List.getElem?_map]
    cases facts.classes[n - c.settled.length]? <;> rfl

theorem length_register (c : Catalogue) (facts : ModuleFacts) :
    (c.register facts).settled.length = c.settled.length + facts.classes.length := by
  change (c.settled ++ facts.classes.map fun _ => Settled.nothing).length = _
  rw [List.length_append, List.length_map]

theorem made_of_mem_declare {ts : List Descriptor} {l : List (String × Descriptor)} (hts : ∀ t ∈ ts, Made size t)
    (hl : ∀ e ∈ l, Made size e.2) : ∀ e ∈ ts.foldl (fun done t => assign done t.key t) l, Made size e.2 := by
  induction ts generalizing l with
  | nil => exact hl
  | cons t ts ih =>
    refine ih (fun t' h => hts t' (List.mem_cons_of_mem _ h)) fun e he => ?_
    rcases mem_assign he with rfl | he
    · exact hts t (List.mem_cons_self ..)
    · exact hl e he

theorem keeps_register (h : Formed c) (facts : ModuleFacts) : Keeps c (c.register facts) := by
  have hsize : c.settled.length ≤ (c.register facts).settled.length := by
    rw [length_register]
    exact Nat.le_add_right _ _
  have hclasses : ∀ t ∈ numbered c.settled.length facts.classes, Made (c.register facts).settled.length t := by
    intro t ht
    obtain ⟨i, f, hf, rfl⟩ := mem_numbered.mp ht
    have hi := (List.getElem?_eq_some_iff.mp hf).1
    refine Made.declared ?_
    rw [length_register]
    omega
  have hdeclared : ∀ e ∈ (c.register facts).declared, Made (c.register facts).settled.length e.2 :=
    made_of_mem_declare hclasses fun e he => (h.declared e he).mono hsize
  refine ⟨⟨hdeclared, hdeclared, fun n l hl b hb => ?_, fun n k hk => ?_⟩, hsize, fun n a ha => ?_, fun n k hk => ?_⟩
  · rw [settledAt_register] at hl
    exact (h.bases n l hl b hb).mono hsize
  · rw [settledAt_register] at hk
    exact h.kinds n k hk
  · rw [settledAt_register, ha]
  · rw [settledAt_register, hk]

theorem keeps_failures (h : Formed c) (failures : List (String × Option String)) :
    Keeps c { c with failures := failures } :=
  ⟨⟨h.resolved, h.declared, h.bases, h.kinds⟩, Nat.le_refl _, fun _ _ h => h, fun _ _ h => h⟩

theorem keeps_declaredTypes (h : Formed c) (t : FileTree) (file : ModuleFile) :
    Keeps c (c.declaredTypes t file).2 := by
  rcases declaredTypes_cases t file c with ⟨facts, _, _, he⟩ | ⟨_, failures, he⟩
  · rw [he]
    exact keeps_register h facts
  · rw [he]
    exact keeps_failures h failures

/-! ## Resolution -/

/-- Questions that settle nothing. -/
structure Rests (c d : Catalogue) : Prop where
  formed : Formed d
  settled : d.settled = c.settled

theorem Rests.refl (h : Formed c) : Rests c c := ⟨h, rfl⟩

theorem Rests.trans (h₁ : Rests c d) (h₂ : Rests d e) : Rests c e :=
  ⟨h₂.formed, h₂.settled.trans h₁.settled⟩

theorem Rests.settledAt (h : Rests c d) (n : Nat) : d.settledAt n = c.settledAt n := by
  rw [Catalogue.settledAt, Catalogue.settledAt, h.settled]

theorem Rests.keeps (h : Rests c d) : Keeps c d where
  formed := h.formed
  size := by rw [h.settled]
  bases n a ha := by rw [h.settledAt, ha]
  kind n k hk := by rw [h.settledAt, hk]

theorem rests_keep (h : Formed c) {k : String} {t : Descriptor} (ht : Made c.settled.length t) :
    Rests c (keep k t c).2 := by
  refine ⟨⟨fun e he => ?_, h.declared, h.bases, h.kinds⟩, rfl⟩
  rcases mem_assign he with rfl | he
  · exact ht
  · exact h.resolved e he

theorem rests_keptOr (h : Formed c) {key : String} {make : StateM Catalogue Descriptor}
    (hm : Rests c (make c).2 ∧ Made c.settled.length (make c).1) :
    Rests c (keptOr key make c).2 ∧ Made c.settled.length (keptOr key make c).1 := by
  unfold keptOr
  split
  · rename_i t ht
    exact ⟨Rests.refl h, h.resolved _ (mem_of_lookup ht)⟩
  · refine ⟨hm.1.trans (rests_keep hm.1.formed ?_), hm.2⟩
    rw [hm.1.settled]
    exact hm.2

mutual

theorem rests_resolve : ∀ (r : TypeRef) {c : Catalogue}, Formed c →
    Rests c (resolve r c).2 ∧ Made c.settled.length (resolve r c).1
  | .named name, c, h => by
    rw [resolve]
    exact rests_keptOr h ⟨Rests.refl h, Made.leaf _⟩
  | .array element unique, c, h => by
    obtain ⟨hrests, hmade⟩ := rests_resolve element h
    rw [resolve]
    exact rests_keptOr h ⟨hrests,
      Made.array (TypeRef.getLast?_key_of_inside (r := .array element unique) (List.cons_ne_nil _ _)) hmade⟩
  | .generic origin args, c, h => by
    obtain ⟨hrests, hmade⟩ := rests_resolveAll args h
    rw [resolve]
    exact rests_keptOr h ⟨hrests,
      Made.generic (TypeRef.getLast?_key_of_inside (r := .generic origin args) (List.cons_ne_nil _ _)) hmade⟩

theorem rests_resolveAll : ∀ (refs : List TypeRef) {c : Catalogue}, Formed c →
    Rests c (resolveAll refs c).2 ∧ ∀ t ∈ (resolveAll refs c).1, Made c.settled.length t
  | [], c, h => ⟨Rests.refl h, fun _ ht => absurd ht List.not_mem_nil⟩
  | r :: refs, c, h => by
    obtain ⟨hfirst, hmade⟩ := rests_resolve r h
    obtain ⟨hrest, hall⟩ := rests_resolveAll refs hfirst.formed
    rw [resolveAll]
    refine ⟨hfirst.trans hrest, fun t ht => ?_⟩
    rcases List.mem_cons.mp ht with rfl | ht
    · exact hmade
    · rw [← hfirst.settled]
      exact hall t ht

end

/-! ## What is settled by questions -/

theorem settledAt_settle (n m : Nat) (change : Settled → Settled) (c : Catalogue) :
    (settle n change c).2.settledAt m =
      if n = m ∧ m < c.settled.length then change (c.settledAt m) else c.settledAt m := by
  change ((c.settled.modify n change)[m]?).getD .nothing = _
  rw [List.getElem?_modify, settledAt, Option.map_eq_map]
  by_cases hm : m < c.settled.length
  · rw [List.getElem?_eq_getElem hm, Option.map_some, Option.getD_some, Option.getD_some]
    by_cases hn : n = m
    · rw [if_pos hn, if_pos ⟨hn, hm⟩]
    · rw [if_neg hn, if_neg fun h => hn h.1]
  · rw [List.getElem?_eq_none (Nat.le_of_not_lt hm), if_neg fun h => hm h.2]
    rfl

theorem settledAt_settle_self {n : Nat} (hn : n < c.settled.length) (change : Settled → Settled) :
    (settle n change c).2.settledAt n = change (c.settledAt n) := by
  rw [settledAt_settle, if_pos ⟨rfl, hn⟩]

/-- Settle more about a class than was settled before. -/
theorem keeps_settle (h : Formed c) {n : Nat} {change : Settled → Settled}
    (hmade : ∀ l, (change (c.settledAt n)).bases = some l → ∀ b ∈ l, Made c.settled.length b)
    (hkinds : ∀ k, (change (c.settledAt n)).kind = some k → k.isWrapper = false)
    (hbases : ∀ a, (c.settledAt n).bases = some a → (change (c.settledAt n)).bases = some a)
    (hkind : ∀ k, (c.settledAt n).kind = some k → (change (c.settledAt n)).kind = some k) :
    Keeps c (settle n change c).2 := by
  have hsize : (settle n change c).2.settled.length = c.settled.length := List.length_modify ..
  refine ⟨⟨fun e he => ?_, fun e he => ?_, fun m l hl => ?_, fun m k hk => ?_⟩, Nat.le_of_eq hsize.symm,
    fun m a ha => ?_, fun m k hk => ?_⟩
  · rw [hsize]
    exact h.resolved e he
  · rw [hsize]
    exact h.declared e he
  · rw [settledAt_settle] at hl
    rw [hsize]
    split at hl
    · rename_i hnm
      obtain ⟨rfl, -⟩ := hnm
      exact hmade l hl
    · exact h.bases m l hl
  · rw [settledAt_settle] at hk
    split at hk
    · rename_i hnm
      obtain ⟨rfl, -⟩ := hnm
      exact hkinds k hk
    · exact h.kinds m k hk
  · rw [settledAt_settle]
    split
    · rename_i hnm
      obtain ⟨rfl, -⟩ := hnm
      exact hbases a ha
    · exact ha
  · rw [settledAt_settle]
    split
    · rename_i hnm
      obtain ⟨rfl, -⟩ := hnm
      exact hkind k hk
    · exact hk

/-- Questions that settle bases at most. -/
structure Opens (c d : Catalogue) : Prop extends Keeps c d where
  kinds : ∀ n, (d.settledAt n).kind = (c.settledAt n).kind

theorem Opens.refl (h : Formed c) : Opens c c := ⟨Keeps.refl h, fun _ => rfl⟩

theorem Opens.trans (h₁ : Opens c d) (h₂ : Opens d e) : Opens c e :=
  ⟨h₁.toKeeps.trans h₂.toKeeps, fun n => (h₂.kinds n).trans (h₁.kinds n)⟩

theorem rests_resolveBases (h : Formed c) (facts : ClassFacts) :
    Rests c (resolveBases facts c).2 ∧ ∀ b ∈ (resolveBases facts c).1, Made c.settled.length b :=
  rests_resolveAll ((baseNames facts).map TypeRef.named) h

theorem opens_bases (h : Formed c) (t : Descriptor) : Opens c (bases t c).2 := by
  cases t with
  | declared n facts =>
    rw [bases, settledOr]
    split
    · exact Opens.refl h
    · rename_i hnone
      obtain ⟨hrests, hmade⟩ := rests_resolveBases h facts
      refine ⟨hrests.keeps.trans (keeps_settle hrests.formed (fun l hl b hb => ?_) (hrests.formed.kinds n)
        (fun a ha => ?_) fun _ hk => hk), fun m => ?_⟩
      · cases hl
        rw [hrests.settled]
        exact hmade b hb
      · rw [hrests.settledAt, hnone] at ha
        cases ha
      · rw [← hrests.settledAt m]
        refine (congrArg Settled.kind (settledAt_settle n m _ _)).trans ?_
        split <;> rfl
  | leaf _ => exact Opens.refl h
  | array _ _ _ => exact Opens.refl h
  | generic _ _ _ => exact Opens.refl h

theorem made_of_mem_bases (h : Formed c) {t b : Descriptor} (hb : b ∈ (bases t c).1) : Made c.settled.length b := by
  cases t with
  | declared n facts =>
    rw [bases, settledOr] at hb
    split at hb
    · rename_i a ha
      exact h.bases n a ha b hb
    · exact (rests_resolveBases h facts).2 b hb
  | leaf _ => cases hb
  | array _ _ _ => cases hb
  | generic _ _ _ => cases hb

theorem opens_visitBases (rounds : Nat) (seen : List String) (done queue : List Descriptor) (h : Formed c) :
    Opens c (lineage.visitBases rounds seen done queue c).2 := by
  induction rounds generalizing seen done queue c with
  | zero => exact Opens.refl h
  | succ rounds ih =>
    cases queue with
    | nil => exact Opens.refl h
    | cons base queue =>
      rw [Lineage.visitBases]
      split
      · exact ih _ _ _ h
      · have hbase := opens_bases h base
        exact hbase.trans (ih _ _ _ hbase.formed)

theorem opens_ancestors (h : Formed c) (t : Descriptor) : Opens c (lineage.ancestors t c).2 :=
  (opens_bases h t).trans (opens_visitBases _ _ _ _ (opens_bases h t).formed)

/-- The kind of a class by its bases, and by its ancestors where these are asked for. -/
theorem classify_cases (t : Descriptor) (c : Catalogue) :
    lineage.classify t c = (.interface, (bases t c).2) ∨
      ∃ k : Kind, k.isWrapper = false ∧ lineage.classify t c = (k, (lineage.ancestors t (bases t c).2).2) := by
  rw [show lineage.classify t c = (if (bases t c).1.any fun b => interfaceBases.contains b.qualifiedName then
    (pure .interface : StateM Catalogue Kind) else do
      let ancestors ← lineage.ancestors t
      pure (if ancestors.any fun a => enumBases.contains a.qualifiedName then .enum else .ofClass)) (bases t c).2
    from rfl]
  split
  · exact Or.inl rfl
  · refine Or.inr ⟨if (lineage.ancestors t (bases t c).2).1.any fun a => enumBases.contains a.qualifiedName then
      .enum else .ofClass, ?_, rfl⟩
    split <;> rfl

theorem opens_classify (h : Formed c) (t : Descriptor) : Opens c (lineage.classify t c).2 := by
  have hbases := opens_bases h t
  rcases classify_cases t c with he | ⟨_, _, he⟩
  · rw [he]
    exact hbases
  · rw [he]
    exact hbases.trans (opens_ancestors hbases.formed t)

theorem isWrapper_classify (t : Descriptor) (c : Catalogue) : (lineage.classify t c).1.isWrapper = false := by
  rcases classify_cases t c with he | ⟨k, hk, he⟩
  · rw [he]
    rfl
  · rw [he]
    exact hk

/-! ## Members and kinds -/

theorem rests_mapM {f : α → StateM Catalogue β} (hf : ∀ a c, Formed c → Rests c (f a c).2) (l : List α)
    (h : Formed c) : Rests c (l.mapM f c).2 := by
  induction l generalizing c with
  | nil => exact Rests.refl h
  | cons a l ih =>
    rw [List.mapM_cons]
    exact (hf a c h).trans (ih (hf a c h).formed)

theorem rests_resolveOption (r : Option TypeRef) (c : Catalogue) (h : Formed c) :
    Rests c (resolveOption r c).2 := by
  cases r with
  | none => exact Rests.refl h
  | some r => exact (rests_resolve r h).1

theorem rests_resolveMethod (f : MethodFacts) (c : Catalogue) (h : Formed c) : Rests c (resolveMethod f c).2 := by
  have hreturns := rests_resolveOption f.returns c h
  have hparameter : ∀ p c, Formed c → Rests c (resolveParameter p c).2 := fun p => rests_resolveOption p.type
  exact hreturns.trans (rests_mapM hparameter f.parameters hreturns.formed)

/-- Settling the members of a class leaves its bases and its kind alone. -/
theorem keeps_settleMembers {n : Nat} {get : Settled → Option α} {set : α → Settled → Settled}
    {find : StateM Catalogue α} (h : Formed c) (hfind : Rests c (find c).2)
    (hset : ∀ a s, (set a s).bases = s.bases ∧ (set a s).kind = s.kind) :
    Keeps c (settledOr n get set find c).2 := by
  rw [settledOr]
  split
  · exact Keeps.refl h
  · refine hfind.keeps.trans (keeps_settle hfind.formed (fun l hl => ?_) (fun k hk => ?_) (fun a ha => ?_) fun k hk => ?_)
    · rw [(hset _ _).1] at hl
      exact hfind.formed.bases n l hl
    · rw [(hset _ _).2] at hk
      exact hfind.formed.kinds n k hk
    · rw [(hset _ _).1, ha]
    · rw [(hset _ _).2, hk]

theorem keeps_properties (h : Formed c) (t : Descriptor) : Keeps c (properties t c).2 := by
  cases t with
  | declared n facts =>
    have hproperty : ∀ p c, Formed c → Rests c (resolveProperty p c).2 := fun p c h => (rests_resolve p.type h).1
    exact keeps_settleMembers h (rests_mapM hproperty facts.properties h) fun _ _ => ⟨rfl, rfl⟩
  | leaf _ => exact Keeps.refl h
  | array _ _ _ => exact Keeps.refl h
  | generic _ _ _ => exact Keeps.refl h

theorem keeps_methods (h : Formed c) (t : Descriptor) : Keeps c (methods t c).2 := by
  cases t with
  | declared n facts =>
    exact keeps_settleMembers h (rests_mapM rests_resolveMethod facts.methods h) fun _ _ => ⟨rfl, rfl⟩
  | leaf _ => exact Keeps.refl h
  | array _ _ _ => exact Keeps.refl h
  | generic _ _ _ => exact Keeps.refl h

theorem keeps_kind (h : Formed c) (t : Descriptor) : Keeps c (kind t c).2 := by
  cases t with
  | declared n facts =>
    rw [kind, settledOr]
    split
    · exact Keeps.refl h
    · rename_i hnone
      have hopens := opens_classify h (.declared n facts)
      refine hopens.toKeeps.trans (keeps_settle hopens.formed (hopens.formed.bases n) (fun k hk => ?_)
        (fun _ ha => ha) fun k hk => ?_)
      · cases hk
        exact isWrapper_classify (.declared n facts) c
      · rw [hopens.kinds, hnone] at hk
        cases hk
  | leaf _ => exact Keeps.refl h
  | array _ _ _ => exact Keeps.refl h
  | generic _ _ _ => exact Keeps.refl h

/-- Whatever happens to a catalogue, what is settled about bases and kinds stays settled. -/
theorem Lives.keeps (h : Lives c d) (hc : Formed c) : Keeps c d := by
  induction h with
  | here => exact Keeps.refl hc
  | declare _ t file ih => exact ih.trans (keeps_declaredTypes ih.formed t file)
  | fail _ path reason ih => exact ih.trans (keeps_failures ih.formed _)
  | resolve _ r ih => exact ih.trans (rests_resolve r ih.formed).1.keeps
  | bases _ t ih => exact ih.trans (opens_bases ih.formed t).toKeeps
  | properties _ t ih => exact ih.trans (keeps_properties ih.formed t)
  | methods _ t ih => exact ih.trans (keeps_methods ih.formed t)
  | kind _ t ih => exact ih.trans (keeps_kind ih.formed t)

/-! ## Answers that stay -/

/-- What a catalogue answers when it is asked, each question on its own. -/
def asked (c : Catalogue) : View Id where
  bases t := pure (bases t c).1
  edgeBound := pure c.edges
  properties t := pure (properties t c).1
  methods t := pure (methods t c).1
  kind t := pure (kind t c).1
  moduleTypes module := pure (c.classesOf module)
  classBound := pure c.settled.length

/-- The answer to a question about classes numbered below a bound is the one that every later catalogue gives. -/
def Tells (size : Nat) (x : StateM Catalogue α) (y : Catalogue → Id α) : Prop :=
  ∀ c, Formed c → size ≤ c.settled.length → Keeps c (x c).2 ∧ ∀ d, Keeps (x c).2 d → (y d).run = (x c).1

theorem Tells.pure (a : α) : Tells size (pure a) (fun _ => pure a) :=
  fun _ hc _ => ⟨Keeps.refl hc, fun _ _ => rfl⟩

theorem Tells.bind {x : StateM Catalogue α} {y : Catalogue → Id α} {f : α → StateM Catalogue β}
    {g : Catalogue → α → Id β} (hx : Tells size x y)
    (hf : ∀ c, Formed c → size ≤ c.settled.length →
      Tells c.settled.length (f (x c).1) (fun e => g e (x c).1)) :
    Tells size (x >>= f) (fun e => y e >>= g e) := by
  intro c hc hs
  obtain ⟨hx₁, hx₂⟩ := hx c hc hs
  obtain ⟨hf₁, hf₂⟩ := hf c hc hs (x c).2 hx₁.formed hx₁.size
  refine ⟨hx₁.trans hf₁, fun d hd => ?_⟩
  have hy : (y d).run = (x c).1 := hx₂ d (hf₁.trans hd)
  change (g d (y d).run).run = (f (x c).1 (x c).2).1
  rw [hy]
  exact hf₂ d hd

theorem Tells.ite {p : Prop} [Decidable p] {x₁ x₂ : StateM Catalogue α} {y₁ y₂ : Catalogue → Id α}
    (h₁ : Tells size x₁ y₁) (h₂ : Tells size x₂ y₂) :
    Tells size (if p then x₁ else x₂) (fun c => if p then y₁ c else y₂ c) := by
  by_cases hp : p
  · simp only [if_pos hp]
    exact h₁
  · simp only [if_neg hp]
    exact h₂

theorem Tells.mono {size' : Nat} {x : StateM Catalogue α} {y : Catalogue → Id α} (h : Tells size x y)
    (hs : size ≤ size') : Tells size' x y := fun c hc hc' => h c hc (hs.trans hc')

theorem Tells.foldlM {f : β → α → StateM Catalogue β} {g : Catalogue → β → α → Id β} {l : List α}
    (h : ∀ b, ∀ a ∈ l, Tells size (f b a) (fun c => g c b a)) (b : β) :
    Tells size (l.foldlM f b) (fun c => l.foldlM (g c) b) := by
  induction l generalizing b with
  | nil => exact Tells.pure b
  | cons a l ih =>
    simp only [List.foldlM_cons]
    exact (h b a (List.mem_cons_self ..)).bind fun d _ hd =>
      (ih (fun b' a' ha' => h b' a' (List.mem_cons_of_mem _ ha')) _).mono hd

theorem tells_bases {t : Descriptor} (ht : Made size t) : Tells size (bases t) (fun c => c.asked.bases t) := by
  intro c hc hs
  refine ⟨(opens_bases hc t).toKeeps, fun d hd => ?_⟩
  cases ht with
  | @declared n facts hn =>
    have hsettled : ((bases (.declared n facts) c).2.settledAt n).bases = some (bases (.declared n facts) c).1 := by
      rw [bases, settledOr]
      split
      · assumption
      · have hrests := (rests_resolveBases hc facts).1
        exact congrArg Settled.bases (settledAt_settle_self ((hn.trans_le hs).trans_le hrests.keeps.size) _)
    have hd := hd.bases n _ hsettled
    change (settledOr n _ _ _ d).1 = _
    rw [settledOr, hd]
  | leaf form => rfl
  | array _ _ => rfl
  | generic _ _ => rfl

theorem tells_kind {t : Descriptor} (ht : Made size t) : Tells size (kind t) (fun c => c.asked.kind t) := by
  intro c hc hs
  refine ⟨keeps_kind hc t, fun d hd => ?_⟩
  cases ht with
  | @declared n facts hn =>
    have hsettled : ((kind (.declared n facts) c).2.settledAt n).kind = some (kind (.declared n facts) c).1 := by
      rw [kind, settledOr]
      split
      · assumption
      · have hopens := opens_classify hc (.declared n facts)
        exact congrArg Settled.kind (settledAt_settle_self ((hn.trans_le hs).trans_le hopens.size) _)
    have hd := hd.kind n _ hsettled
    change (settledOr n _ _ _ d).1 = _
    rw [settledOr, hd]
  | leaf form => rfl
  | array _ _ => rfl
  | generic _ _ => rfl

theorem isWrapper_asked (h : Formed c) (n : Nat) (facts : ClassFacts) :
    (c.asked.kind (.declared n facts)).run.isWrapper = false := by
  change Kind.isWrapper (settledOr n _ _ _ c).1 = false
  rw [settledOr]
  split
  · rename_i k hk
    exact h.kinds n k hk
  · exact isWrapper_classify (.declared n facts) c

end ModelReach.Catalogue
