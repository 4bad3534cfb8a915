import ModelReach.Proofs.Catalogue.Lifetime
import ModelReach.Proofs.Reach.Stricter

/-! The models that a type refers to, exactly. They are read off the leaves of the type: the accepted ones, and the
accepted bases of those that are not excluded, unless a leaf is no model and the argument of a generic type. This is so
at any time in the life of a catalogue. -/
namespace ModelReach
set_option autoImplicit false

/-! ## Places in a type -/

/-- Where a type stands: on its own, as the element of an array, or as an argument of a generic type. -/
inductive Place where
  | top
  | element
  | argument
  deriving DecidableEq, Repr

/-- The type that stands in the first place has the other type in the other place, at any depth. -/
inductive Occurs : Place → Descriptor → Place → Descriptor → Prop
  | here (start : Place) (t : Descriptor) : Occurs start t start t
  | element {start place : Place} {key : String} {element l : Descriptor} {unique : Bool}
    (h : Occurs .element element place l) : Occurs start (.array key element unique) place l
  | argument {start place : Place} {key origin : String} {args : List Descriptor} {a l : Descriptor} (ha : a ∈ args)
    (h : Occurs .argument a place l) : Occurs start (.generic key origin args) place l

/-- Is a type made of others? -/
def Descriptor.isWrapper : Descriptor → Bool
  | .array _ _ _ => true
  | .generic _ _ _ => true
  | _ => false

/-- A type shows at a leaf of another one, being the leaf itself or a base of it. A leaf that is no model hides its
bases, where it is an argument. -/
inductive Shows (p : Policy) (v : View Id) (start : Place) (t x : Descriptor) : Prop
  | leaf {place : Place} (h : Occurs start t place x) (hx : x.isWrapper = false) (ha : (p.accepts v x).run = true)
  | base {place : Place} {l : Descriptor} (h : Occurs start t place l) (hl : l.isWrapper = false)
    (he : p.isExcluded l = false) (hm : (p.isModel v l).run = true ∨ place ≠ .argument) (hx : x ∈ (v.bases l).run)
    (ha : (p.accepts v x).run = true)

section Shows
variable {p : Policy} {v : View Id} {start : Place} {x : Descriptor}

theorem shows_array {key : String} {element : Descriptor} {unique : Bool} :
    Shows p v start (.array key element unique) x ↔ Shows p v .element element x := by
  constructor
  · rintro (⟨h, hx, ha⟩ | ⟨h, hl, he, hm, hx, ha⟩)
    · cases h with
      | here => cases hx
      | element h => exact Shows.leaf h hx ha
    · cases h with
      | here => cases hl
      | element h => exact Shows.base h hl he hm hx ha
  · rintro (⟨h, hx, ha⟩ | ⟨h, hl, he, hm, hx, ha⟩)
    · exact Shows.leaf h.element hx ha
    · exact Shows.base h.element hl he hm hx ha

theorem shows_generic {key origin : String} {args : List Descriptor} :
    Shows p v start (.generic key origin args) x ↔ ∃ a ∈ args, Shows p v .argument a x := by
  constructor
  · rintro (⟨h, hx, ha⟩ | ⟨h, hl, he, hm, hx, ha⟩)
    · cases h with
      | here => cases hx
      | argument hmem h => exact ⟨_, hmem, Shows.leaf h hx ha⟩
    · cases h with
      | here => cases hl
      | argument hmem h => exact ⟨_, hmem, Shows.base h hl he hm hx ha⟩
  · rintro ⟨a, hmem, ⟨h, hx, ha⟩ | ⟨h, hl, he, hm, hx, ha⟩⟩
    · exact Shows.leaf (h.argument hmem) hx ha
    · exact Shows.base (h.argument hmem) hl he hm hx ha

theorem Occurs.eq_of_leaf {t l : Descriptor} {place : Place} (h : Occurs start t place l) (ht : t.isWrapper = false) :
    place = start ∧ l = t := by
  cases h with
  | here => exact ⟨rfl, rfl⟩
  | element => cases ht
  | argument => cases ht

theorem shows_leaf {t : Descriptor} (ht : t.isWrapper = false) : Shows p v start t x ↔
    (p.accepts v x).run = true ∧ (x = t ∨ p.isExcluded t = false ∧ ((p.isModel v t).run = true ∨ start ≠ .argument) ∧
      x ∈ (v.bases t).run) := by
  constructor
  · rintro (⟨h, _, ha⟩ | ⟨h, _, he, hm, hx, ha⟩)
    · exact ⟨ha, Or.inl (h.eq_of_leaf ht).2⟩
    · obtain ⟨rfl, rfl⟩ := h.eq_of_leaf ht
      exact ⟨ha, Or.inr ⟨he, hm, hx⟩⟩
  · rintro ⟨ha, rfl | ⟨he, hm, hx⟩⟩
    · exact Shows.leaf (Occurs.here start x) ht ha
    · exact Shows.base (Occurs.here start t) ht he hm hx ha

end Shows

namespace Catalogue

variable {p : Policy} {c : Catalogue} {size : Nat} {start : Place} {k : String}

/-! ## What is found is what shows -/

theorem isExcluded_made {t : Descriptor} (h : Made size t) (ht : t.isWrapper = true) : p.isExcluded t = false := by
  cases h with
  | declared _ => cases ht
  | leaf _ => cases ht
  | array hk _ => exact isExcluded_of_bracket p rfl hk
  | generic hk _ => exact isExcluded_of_bracket p rfl hk

/-- Of the types that are no wrappers, no kind is that of a wrapper. -/
theorem isWrapper_kind (hc : Formed c) (t : Descriptor) : (c.asked.kind t).run.isWrapper = t.isWrapper := by
  cases t with
  | declared n facts => exact isWrapper_asked hc n facts
  | leaf form =>
    change Kind.isWrapper (if form.form = .primitive then .primitive else .other) = false
    split <;> rfl
  | array _ _ _ => rfl
  | generic _ _ _ => rfl

theorem isWrapper_of_accepts (hc : Formed c) {x : Descriptor} (ha : (p.accepts c.asked x).run = true) :
    x.isWrapper = false := by
  have hm := (accepts_parts ha).1
  rw [← isWrapper_kind hc x]
  change (p.isModelOfKind (c.asked.kind x).run x) = true at hm
  cases hkind : (c.asked.kind x).run with
  | array => rw [hkind] at hm; cases hm
  | generic => rw [hkind] at hm; cases hm
  | _ => rfl

/-- An argument at which something shows is followed. -/
theorem followsArgument_of_shows (hc : Formed c) {arg x : Descriptor} (h : Shows p c.asked .argument arg x) :
    (followsArgument p c.asked arg).run = true := by
  rw [Reach.followsArgument_iff, isWrapper_kind hc]
  cases harg : arg.isWrapper with
  | true => exact Or.inr rfl
  | false =>
    rcases (shows_leaf harg).mp h with ⟨ha, rfl | ⟨_, hm | hne, _⟩⟩
    · exact Or.inl (accepts_parts ha).1
    · exact Or.inl hm
    · exact absurd rfl hne

theorem mem_keys_shown (hc : Formed c) {t : Descriptor} (ht : t.isWrapper = false)
    (hs : start ≠ .argument ∨ (followsArgument p c.asked t).run = true) :
    k ∈ (Id.run (if p.isExcluded t = true then pure TypeSet.empty
      else surfaceBases p c.asked t (if (p.isModel c.asked t).run = true then TypeSet.empty.insert t
        else .empty))).keys ↔ ∃ x, Shows p c.asked start t x ∧ x.key = k := by
  have hplace : (p.isModel c.asked t).run = true ∨ start ≠ .argument := by
    rw [Reach.followsArgument_iff, isWrapper_kind hc, ht] at hs
    exact hs.symm.imp_left fun h => h.resolve_right Bool.false_ne_true
  rw [Reach.mem_keys_leaf]
  constructor
  · rintro ⟨he, ⟨hm, rfl⟩ | ⟨base, hbase, ha, rfl⟩⟩
    · refine ⟨t, (shows_leaf ht).mpr ⟨?_, Or.inl rfl⟩, rfl⟩
      rw [accepts_eq, hm, he]
      rfl
    · exact ⟨base, (shows_leaf ht).mpr ⟨ha, Or.inr ⟨he, hplace, hbase⟩⟩, rfl⟩
  · rintro ⟨x, hx, rfl⟩
    rcases (shows_leaf ht).mp hx with ⟨ha, rfl | ⟨he, _, hbase⟩⟩
    · exact ⟨(accepts_parts ha).2, Or.inl ⟨(accepts_parts ha).1, rfl⟩⟩
    · exact ⟨he, Or.inr ⟨x, hbase, ha, rfl⟩⟩

mutual

theorem mem_keys_referenced_iff (p : Policy) (hc : Formed c) : ∀ (t : Descriptor) {start : Place} {k : String},
    Made size t → start ≠ .argument ∨ (followsArgument p c.asked t).run = true →
      (k ∈ (referenced p c.asked t).run.keys ↔ ∃ x, Shows p c.asked start t x ∧ x.key = k)
  | .array key element unique, start, k, ht, _ => by
    rw [referenced, isExcluded_made ht rfl, if_neg Bool.false_ne_true]
    cases ht with
    | array _ he =>
      rw [mem_keys_referenced_iff p hc element he (Or.inl (by decide : Place.element ≠ .argument))]
      simp only [shows_array]
  | .generic key origin args, start, k, ht, _ => by
    rw [referenced, isExcluded_made ht rfl, if_neg Bool.false_ne_true]
    cases ht with
    | generic _ hargs =>
      rw [mem_keys_referencedArgs_iff p hc args hargs]
      simp only [shows_generic]
      constructor
      · rintro (h | ⟨a, ha, x, hx, hk⟩)
        · cases h
        · exact ⟨x, ⟨a, ha, hx⟩, hk⟩
      · rintro ⟨x, ⟨a, ha, hx⟩, hk⟩
        exact Or.inr ⟨a, ha, x, hx, hk⟩
  | .declared n facts, start, k, _, hs => by
    simp only [referenced]
    exact mem_keys_shown hc rfl hs
  | .leaf form, start, k, _, hs => by
    simp only [referenced]
    exact mem_keys_shown hc rfl hs

theorem mem_keys_referencedArgs_iff (p : Policy) (hc : Formed c) : ∀ (args : List Descriptor) {found : TypeSet}
    {k : String}, (∀ a ∈ args, Made size a) → (k ∈ (referencedArgs p c.asked args found).run.keys ↔
      k ∈ found.keys ∨ ∃ a ∈ args, ∃ x, Shows p c.asked .argument a x ∧ x.key = k)
  | [], found, k, _ => by
    rw [referencedArgs]
    exact (or_iff_left fun ⟨_, ha, _⟩ => List.not_mem_nil ha).symm
  | arg :: rest, found, k, hargs => by
    have hrest : ∀ a ∈ rest, Made size a := fun a h => hargs a (List.mem_cons_of_mem _ h)
    rw [referencedArgs, List.exists_mem_cons_iff]
    change k ∈ (Id.run (if (followsArgument p c.asked arg).run = true then (_ : Id TypeSet) else _)).keys ↔ _
    split
    · rename_i hf
      have harg : k ∈ (referenced p c.asked arg).run.keys ↔ ∃ x, Shows p c.asked .argument arg x ∧ x.key = k :=
        mem_keys_referenced_iff p hc arg (hargs arg (List.mem_cons_self ..)) (Or.inr hf)
      refine (mem_keys_referencedArgs_iff p hc rest hrest).trans ?_
      rw [TypeSet.union, TypeSet.mem_keys_insertAll, or_assoc]
      exact or_congr_right (or_congr_left harg)
    · rename_i hf
      refine (mem_keys_referencedArgs_iff p hc rest hrest).trans (or_congr_right (or_iff_right ?_).symm)
      rintro ⟨x, hx, _⟩
      exact hf (followsArgument_of_shows hc hx)

end

/-! ## No key is found twice -/

section Nodup
variable {v : View Id}

theorem nodup_surfaceBases (p : Policy) (t : Descriptor) {found : TypeSet} (h : found.keys.Nodup) :
    (surfaceBases p v t found).run.keys.Nodup := by
  refine foldlM_keeps (P := fun found : TypeSet => found.keys.Nodup) (fun found hfound base _ => ?_) h
  change (Id.run (if (p.accepts v base).run = true then pure (found.insert base) else pure found)).keys.Nodup
  split
  · exact TypeSet.nodup_insert hfound base
  · exact hfound

theorem nodup_referencedArgs (p : Policy) (args : List Descriptor) {found : TypeSet} (h : found.keys.Nodup) :
    (referencedArgs p v args found).run.keys.Nodup := by
  induction args generalizing found with
  | nil => exact h
  | cons arg rest ih =>
    rw [referencedArgs]
    change (Id.run (if (followsArgument p v arg).run = true then (_ : Id TypeSet) else _)).keys.Nodup
    split
    · exact ih (TypeSet.nodup_insertAll h _)
    · exact ih h

theorem nodup_leaf (p : Policy) (t : Descriptor) : (Id.run (if p.isExcluded t = true then pure TypeSet.empty
      else surfaceBases p v t (if (p.isModel v t).run = true then TypeSet.empty.insert t
        else .empty))).keys.Nodup := by
  split
  · exact TypeSet.nodup_empty
  · refine nodup_surfaceBases p t ?_
    split
    · exact TypeSet.nodup_insert TypeSet.nodup_empty t
    · exact TypeSet.nodup_empty

theorem nodup_referenced (p : Policy) : ∀ t : Descriptor, (referenced p v t).run.keys.Nodup
  | .declared n facts => by
    simp only [referenced]
    exact nodup_leaf p _
  | .leaf form => by
    simp only [referenced]
    exact nodup_leaf p _
  | .array key element unique => by
    rw [referenced]
    split
    · exact TypeSet.nodup_empty
    · exact nodup_referenced p element
  | .generic key origin args => by
    rw [referenced]
    split
    · exact TypeSet.nodup_empty
    · exact nodup_referencedArgs p args TypeSet.nodup_empty

end Nodup

/-! ## The catalogue tells what is found -/

theorem tells_isModel (p : Policy) {t : Descriptor} (ht : Made size t) :
    Tells size (p.isModel view t) (fun c => p.isModel c.asked t) :=
  (tells_kind ht).bind fun _ _ _ => Tells.pure _

theorem tells_accepts (p : Policy) {t : Descriptor} (ht : Made size t) :
    Tells size (p.accepts view t) (fun c => p.accepts c.asked t) :=
  (tells_isModel p ht).bind fun _ _ _ => Tells.pure _

theorem tells_surfaceBases (p : Policy) {t : Descriptor} (ht : Made size t) (found : TypeSet) :
    Tells size (surfaceBases p view t found) (fun c => surfaceBases p c.asked t found) := by
  refine (tells_bases ht).bind fun c hc _ => Tells.foldlM (fun found base hbase => ?_) found
  exact (tells_accepts p (made_of_mem_bases hc hbase)).bind fun _ _ _ => Tells.ite (Tells.pure _) (Tells.pure _)

theorem tells_followsArgument (p : Policy) {t : Descriptor} (ht : Made size t) :
    Tells size (followsArgument p view t) (fun c => followsArgument p c.asked t) :=
  (tells_isModel p ht).bind fun _ _ hs =>
    Tells.ite (Tells.pure true) ((tells_kind (ht.mono hs)).bind fun _ _ _ => Tells.pure _)

theorem tells_leaf (p : Policy) {t : Descriptor} (ht : Made size t) :
    Tells size (if p.isExcluded t = true then pure TypeSet.empty else do
        let isModel ← p.isModel view t
        surfaceBases p view t (if isModel then TypeSet.empty.insert t else .empty))
      (fun c => if p.isExcluded t = true then pure TypeSet.empty else do
        let isModel ← p.isModel c.asked t
        surfaceBases p c.asked t (if isModel then TypeSet.empty.insert t else .empty)) :=
  Tells.ite (Tells.pure _) ((tells_isModel p ht).bind fun _ _ hs => tells_surfaceBases p (ht.mono hs) _)

mutual

theorem tells_referenced (p : Policy) : ∀ (t : Descriptor) {size : Nat}, Made size t →
    Tells size (referenced p view t) (fun c => referenced p c.asked t)
  | .array key element unique, size, ht => by
    cases ht with
    | array _ he =>
      simp only [referenced]
      exact Tells.ite (Tells.pure _) (tells_referenced p element he)
  | .generic key origin args, size, ht => by
    cases ht with
    | generic _ hargs =>
      simp only [referenced]
      exact Tells.ite (Tells.pure _) (tells_referencedArgs p args hargs .empty)
  | .declared n facts, size, ht => by
    simp only [referenced]
    exact tells_leaf p ht
  | .leaf form, size, ht => by
    simp only [referenced]
    exact tells_leaf p ht

theorem tells_referencedArgs (p : Policy) : ∀ (args : List Descriptor) {size : Nat}, (∀ a ∈ args, Made size a) →
    ∀ found : TypeSet, Tells size (referencedArgs p view args found) (fun c => referencedArgs p c.asked args found)
  | [], size, _, found => by
    simp only [referencedArgs]
    exact Tells.pure _
  | arg :: rest, size, hargs, found => by
    have harg : Made size arg := hargs arg (List.mem_cons_self ..)
    have hrest : ∀ a ∈ rest, Made size a := fun a h => hargs a (List.mem_cons_of_mem _ h)
    simp only [referencedArgs]
    refine (tells_followsArgument p harg).bind fun c _ hs => Tells.ite ?_ ?_
    · refine (tells_referenced p arg (harg.mono hs)).bind fun d _ hs' => ?_
      exact tells_referencedArgs p rest (fun a h => (hrest a h).mono (hs.trans hs')) _
    · exact tells_referencedArgs p rest (fun a h => (hrest a h).mono hs) _

end

/-! ## At any time -/

/-- Take a type that was resolved at any time in the life of a catalogue, and ask at any later time for the models
that it refers to. They are the accepted leaves of the type, and the accepted bases of those leaves that are neither
excluded nor, without being models, arguments of generic types, as the catalogue goes on to answer about kinds and bases
ever after. No wrapper is among them. -/
theorem referenced_exact (p : Policy) (r : TypeRef) {before c e : Catalogue} (hbefore : Lives .empty before)
    (hc : Lives (resolve r before).2 c) (he : Lives (referenced p view (resolve r before).1 c).2 e) :
    (∀ k, k ∈ (referenced p view (resolve r before).1 c).1.keys ↔
      ∃ x, Shows p e.asked .top (resolve r before).1 x ∧ x.key = k) ∧
    (∀ x ∈ (referenced p view (resolve r before).1 c).1.members,
      (p.accepts view x e).1 = true ∧ x.isWrapper = false) ∧
    (referenced p view (resolve r before).1 c).1.keys.Nodup := by
  have hformed := (hbefore.keeps formed_empty).formed
  obtain ⟨hrests, hmade⟩ := rests_resolve r hformed
  have hkeeps := hc.keeps hrests.formed
  have hmade := hmade.mono (hrests.keeps.size.trans hkeeps.size)
  obtain ⟨hafter, htells⟩ := tells_referenced p _ hmade c hkeeps.formed (Nat.le_refl _)
  have hlater := he.keeps hafter.formed
  rw [← htells e hlater]
  refine ⟨fun k => mem_keys_referenced_iff p hlater.formed _ hmade (Or.inl (by decide)), fun x hx => ?_,
    nodup_referenced p _⟩
  have ha := (nearLeaf_of_mem_referenced _ hx).accepted
  exact ⟨ha, isWrapper_of_accepts hlater.formed ha⟩

def shapeTree : Files.FileTree :=
  ⟨[(["r"], .directory), (["r", "m.py"], .file (Text.ofString
    "import typing\nclass A:\n  pass\nclass P(A, typing.Protocol):\n  pass\n"))], [], []⟩

def shapeFile : Files.ModuleFile := ⟨"/r/m.py", "m.py", "m", false⟩

/-- A catalogue that knows a class and an interface below it. -/
def shapes : Catalogue := (empty.declaredTypes shapeTree shapeFile).2

/-- The interface or a list of interfaces. -/
def shapeOrShapes : TypeRef := .generic "typing.Union" [.named "m.P", .array (.named "m.P") false]

/-- As an argument the interface hides its base, as an element it shows it. -/
theorem referenced_exact_shapes :
    Lives .empty shapes ∧ (resolve shapeOrShapes shapes).1.isWrapper = true ∧
    (referenced .usual view (resolve shapeOrShapes shapes).1 (resolve shapeOrShapes shapes).2).1.keys = ["m.A"] ∧
    (∃ x, Shows .usual (referenced .usual view (resolve shapeOrShapes shapes).1 (resolve shapeOrShapes shapes).2).2.asked
      .top (resolve shapeOrShapes shapes).1 x ∧ x.key = "m.A") ∧
    ¬∃ x, Shows .usual (referenced .usual view (resolve shapeOrShapes shapes).1 (resolve shapeOrShapes shapes).2).2.asked
      .top (resolve shapeOrShapes shapes).1 x ∧ x.key = "m.P" := by
  have hlives : Lives .empty shapes := Lives.here.declare shapeTree shapeFile
  have hkeys : (referenced .usual view (resolve shapeOrShapes shapes).1 (resolve shapeOrShapes shapes).2).1.keys =
      ["m.A"] := by decide +kernel
  have hexact := (referenced_exact .usual shapeOrShapes hlives Lives.here Lives.here).1
  refine ⟨hlives, by decide +kernel, hkeys, (hexact "m.A").mp ?_, fun h => ?_⟩
  · rw [hkeys]
    exact List.mem_singleton_self _
  · have hin := (hexact "m.P").mpr h
    rw [hkeys] at hin
    exact absurd hin (by decide)

end Catalogue
end ModelReach
