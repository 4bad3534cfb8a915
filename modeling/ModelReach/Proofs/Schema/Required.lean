import Mathlib.Data.List.Nodup
import ModelReach.Proofs.Catalogue.Typing
import ModelReach.Proofs.Schema.Optional
import ModelReach.Schema.Model

/-! Required properties. A property without default whose type is a choice is required if None is not among its
alternatives, however the choices are nested, or if None is there but buried in the arguments of a choice: the test for
optional types looks at direct arguments alone. -/
namespace ModelReach
set_option autoImplicit false

/-! ## Alternatives -/

namespace Descriptor

/-- Does a type leave a choice between its arguments? -/
def isChoice : Descriptor → Bool
  | generic _ origin _ => choiceOrigins.contains origin
  | _ => false

mutual

/-- What a type leaves a choice between, at any depth; an optional type may also be None. -/
def alternatives : Descriptor → List Descriptor
  | generic key origin args =>
    if origin = optionalOrigin then alternativesOf args ++ [Catalogue.leafOfName "builtins.None"]
    else if origin = "typing.Union" then alternativesOf args
    else [generic key origin args]
  | t => [t]

def alternativesOf : List Descriptor → List Descriptor
  | [] => []
  | t :: rest => t.alternatives ++ alternativesOf rest

end

def isNone (t : Descriptor) : Bool := t.qualifiedName == "builtins.None"

def isNullable (t : Descriptor) : Bool := t.alternatives.any isNone

/-- Is None an alternative of an argument, but not an argument itself? -/
def buriesNone : Descriptor → Bool
  | generic _ origin args =>
    origin == "typing.Union" && !args.any isNone && args.any fun a => a.isChoice && a.isNullable
  | _ => false

theorem alternativesOf_eq_flatMap (ts : List Descriptor) : alternativesOf ts = ts.flatMap alternatives := by
  induction ts with
  | nil => rfl
  | cons t ts ih => rw [alternativesOf, ih, List.flatMap_cons]

theorem isNullable_optional (key : String) (args : List Descriptor) :
    (generic key optionalOrigin args).isNullable = true := by
  rw [isNullable, alternatives, if_pos rfl, List.any_append]
  exact Bool.or_true _

theorem isNullable_union (key : String) (args : List Descriptor) :
    (generic key "typing.Union" args).isNullable = args.any isNullable := by
  rw [isNullable, alternatives, if_neg (by decide), if_pos rfl, alternativesOf_eq_flatMap, List.any_flatMap]
  rfl

/-- What is no choice is its own alternative. -/
theorem isNullable_eq_isNone {t : Descriptor} (h : t.isChoice = false) : t.isNullable = t.isNone := by
  have hsingle : t.alternatives = [t] := by
    cases t with
    | generic key origin args =>
      have horigin : origin ∉ choiceOrigins := fun hmem =>
        Bool.false_ne_true (h.symm.trans (List.contains_iff_mem.mpr hmem))
      have hunion : origin ≠ "typing.Union" := fun he => horigin (by rw [he]; decide)
      have hoptional : origin ≠ optionalOrigin := fun he => horigin (by rw [he]; decide)
      rw [alternatives, if_neg hoptional, if_neg hunion]
    | _ => rw [alternatives]; exact nofun
  rw [isNullable, hsingle, List.any_cons, List.any_nil, Bool.or_false]

end Descriptor

namespace Catalogue
open Descriptor

theorem origin_of_isChoice {key origin : String} {args : List Descriptor}
    (h : (Descriptor.generic key origin args).isChoice = true) : origin = "typing.Union" ∨ origin = optionalOrigin := by
  rcases List.mem_cons.mp (List.contains_iff_mem.mp h) with rfl | h
  · exact Or.inl rfl
  · exact Or.inr (List.mem_singleton.mp h)

/-- A formed choice is not called None, since its key ends with a bracket. -/
theorem isNone_of_isChoice {t : Descriptor} (ht : HasForm t) (h : t.isChoice = true) : t.isNone = false := by
  obtain ⟨_, hmade⟩ := ht
  cases hmade with
  | generic hk _ => exact beq_eq_false_iff_ne.mpr (ne_none_of_bracket hk)
  | _ => cases h

theorem isNullable_eq {t : Descriptor} (ht : HasForm t) :
    t.isNullable = (t.isNone || (t.isChoice && t.isNullable)) := by
  cases h : t.isChoice with
  | false => rw [isNullable_eq_isNone h, Bool.false_and, Bool.or_false]
  | true => rw [isNone_of_isChoice ht h, Bool.true_and, Bool.false_or]

theorem any_isNullable {args : List Descriptor} (hargs : ∀ a ∈ args, HasForm a) :
    args.any isNullable = (args.any isNone || args.any fun a => a.isChoice && a.isNullable) := by
  induction args with
  | nil => rfl
  | cons a args ih =>
    obtain ⟨ha, hrest⟩ := List.forall_mem_cons.mp hargs
    rw [List.any_cons, List.any_cons, List.any_cons, ih hrest]
    conv_lhs => rw [isNullable_eq ha]
    ac_rfl

/-- The test for optional types misses None where it is buried, and only there. -/
theorem isOptional_eq_false_iff {t : Descriptor} (ht : HasForm t) (hchoice : t.isChoice = true) :
    t.isOptional = false ↔ t.isNullable = false ∨ t.buriesNone = true := by
  obtain ⟨size, hmade⟩ := ht
  cases hmade with
  | @generic key origin args hk hargs =>
    rcases origin_of_isChoice hchoice with rfl | rfl
    · have hoptional : (generic key "typing.Union" args).isOptional = args.any isNone := by
        rw [isOptional]
        rfl
      have hburies : (generic key "typing.Union" args).buriesNone =
          (!args.any isNone && args.any fun a => a.isChoice && a.isNullable) := rfl
      rw [hoptional, hburies, isNullable_union, any_isNullable fun a ha => ⟨size, hargs a ha⟩]
      cases args.any isNone <;> cases args.any fun a => a.isChoice && a.isNullable <;> decide
    · have hoptional : (generic key optionalOrigin args).isOptional = true := rfl
      have hburies : (generic key optionalOrigin args).buriesNone = false := rfl
      rw [hoptional, hburies, isNullable_optional]
      decide
  | _ => cases hchoice

/-! ## Required names -/

theorem mem_requiredNames_iff {l : List Property} (hnames : (namesOfProperties l).Nodup) {p : Property} (hp : p ∈ l) :
    p.name ∈ requiredNames l ↔ p.hasDefault = false ∧ p.type.isOptional = false := by
  rw [requiredNames, List.mem_map]
  constructor
  · rintro ⟨q, hq, hname⟩
    obtain ⟨hq, hrequired⟩ := List.mem_filter.mp hq
    obtain rfl := List.inj_on_of_nodup_map hnames hq hp hname
    simpa only [Bool.and_eq_true, Bool.not_eq_true'] using hrequired
  · intro h
    refine ⟨p, List.mem_filter.mpr ⟨hp, ?_⟩, rfl⟩
    simpa only [Bool.and_eq_true, Bool.not_eq_true'] using h

/-- All properties of a class, as they are when its kind has been asked for. -/
def propertiesAfterKind (t : Descriptor) (c : Catalogue) : List Property := (view.allProperties t (kind t c).2).1

theorem distinct_propertiesAfterKind {c : Catalogue} (hc : Lives .empty c) {t : Descriptor} (ht : t.isDeclared = true) :
    Distinct (propertiesAfterKind t c) := by
  cases t with
  | declared n facts => exact (yields_allProperties n facts _ (typed_kind (hc.typed typed_empty) _)).2
  | _ => cases ht

/-- The document of a class that is no enumeration is about the properties that are not hidden. -/
theorem body_generateSchema (policy : Option Policy) {c : Catalogue} {t : Descriptor} (ht : t.isDeclared = true)
    (hkind : (kind t c).1 ≠ .enum) :
    ∃ schemas, (generateSchema view policy t c).1.body =
      .object schemas (requiredNames ((propertiesAfterKind t c).filter fun p => !isHidden policy p)) := by
  cases t with
  | declared n facts =>
    have hbody : (generateSchema view policy (.declared n facts) c).1.body =
        ((if (kind (.declared n facts) c).1 = .enum then pure (enumBody facts) else
          classBody view policy (.declared n facts)) (kind (.declared n facts) c).2).1 := rfl
    rw [hbody, if_neg hkind]
    exact ⟨_, rfl⟩
  | _ => cases ht

/-- Take a class at any time in the life of a catalogue, unless it is an enumeration. A property in its document without
default whose type is a choice is required if, and only if, None is not among its alternatives or buried. -/
theorem required_exact (policy : Option Policy) {c : Catalogue} (hc : Lives .empty c) {t : Descriptor}
    (ht : t.isDeclared = true) (hkind : (kind t c).1 ≠ .enum) :
    ∃ schemas required, (generateSchema view policy t c).1.body = .object schemas required ∧
      ∀ p ∈ propertiesAfterKind t c, isHidden policy p = false → p.hasDefault = false → p.type.isChoice = true →
        (p.name ∈ required ↔ p.type.isNullable = false ∨ p.type.buriesNone = true) := by
  obtain ⟨schemas, hbody⟩ := body_generateSchema policy ht hkind
  obtain ⟨hformed, hnames⟩ := distinct_propertiesAfterKind hc ht
  refine ⟨schemas, _, hbody, fun p hp hshown hdefault hchoice => ?_⟩
  have hlisted := hnames.sublist (List.filter_sublist (p := fun p => !isHidden policy p).map Property.name)
  rw [mem_requiredNames_iff hlisted (List.mem_filter.mpr ⟨hp, by rw [hshown]; rfl⟩), and_iff_right hdefault]
  exact isOptional_eq_false_iff (hformed p hp) hchoice

theorem isHidden_none (p : Property) : isHidden none p = false := rfl

/-! ## A class with nested choices -/

def unionTree : Files.FileTree :=
  ⟨[(["r"], .directory), (["r", "m.py"], .file (Text.ofString
    "from typing import Optional\nclass A:\n  x: Optional[int] | str\n  y: Optional[int] | None\n  z: int | str\n"))],
    [], []⟩

/-- The catalogue that has read one file. -/
def readingOnly (t : Files.FileTree) (file : Files.ModuleFile) : Catalogue := (empty.declaredTypes t file).2

theorem lives_readingOnly (t : Files.FileTree) (file : Files.ModuleFile) : Lives .empty (readingOnly t file) :=
  Lives.here.declare t file

def unions : Catalogue := readingOnly unionTree shapeFile

def unionOwner : Descriptor := (unions.get? "m.A").getD (leafOfName "m.A")

/-- How a property is called, whether it has a default, whether its type is a choice, and where None is in it. -/
def choiceOf (p : Property) : String × Bool × Bool × Bool × Bool :=
  (p.name, p.hasDefault, p.type.isChoice, p.type.isNullable, p.type.buriesNone)

/-- What evaluation tells about the class and its properties. -/
theorem union_facts : unionOwner.isDeclared = true ∧ (kind unionOwner unions).1 ≠ .enum ∧
    (propertiesAfterKind unionOwner unions).map choiceOf =
      [("x", false, true, true, true), ("y", false, true, true, false), ("z", false, true, false, false)] ∧
    requiredNames ((propertiesAfterKind unionOwner unions).filter fun p => !isHidden none p) = ["x", "z"] := by
  decide +kernel

theorem exists_unionProperty (choice : String × Bool × Bool × Bool × Bool)
    (h : choice ∈ [("x", false, true, true, true), ("y", false, true, true, false), ("z", false, true, false, false)]) :
    ∃ p ∈ propertiesAfterKind unionOwner unions, choiceOf p = choice := by
  rw [← union_facts.2.2.1] at h
  exact List.mem_map.mp h

/-- Next to an optional type None need not be named; and where no choice leaves None, the property is required. -/
theorem required_exact_unions :
    Lives .empty unions ∧ unionOwner.isDeclared = true ∧ (kind unionOwner unions).1 ≠ .enum ∧
    ∃ schemas required, (generateSchema view none unionOwner unions).1.body = .object schemas required ∧
      "y" ∉ required ∧ "z" ∈ required := by
  obtain ⟨hdeclared, hkind, _⟩ := union_facts
  have hlives : Lives .empty unions := lives_readingOnly unionTree shapeFile
  obtain ⟨schemas, required, hbody, hrequired⟩ := required_exact none hlives hdeclared hkind
  obtain ⟨y, hy, hchoicey⟩ := exists_unionProperty ("y", false, true, true, false) (by decide)
  obtain ⟨z, hz, hchoicez⟩ := exists_unionProperty ("z", false, true, false, false) (by decide)
  simp only [choiceOf, Prod.mk.injEq] at hchoicey hchoicez
  obtain ⟨hnamey, hdefaulty, hisy, hnullabley, hburiesy⟩ := hchoicey
  obtain ⟨hnamez, hdefaultz, hisz, hnullablez, _⟩ := hchoicez
  have hiffy := hrequired y hy (isHidden_none y) hdefaulty hisy
  have hiffz := hrequired z hz (isHidden_none z) hdefaultz hisz
  rw [hnamey, hnullabley, hburiesy] at hiffy
  rw [hnamez, hnullablez] at hiffz
  exact ⟨hlives, hdeclared, hkind, schemas, required, hbody, fun h => (hiffy.mp h).elim nofun nofun,
    hiffz.mpr (Or.inl rfl)⟩

/-- A choice with an optional argument leaves None, and yet the property is required. -/
theorem not_required_exact_buried :
    ∃ p ∈ propertiesAfterKind unionOwner unions, isHidden none p = false ∧ p.hasDefault = false ∧
      p.type.isChoice = true ∧ p.type.isNullable = true ∧
      ∃ schemas required, (generateSchema view none unionOwner unions).1.body = .object schemas required ∧
        p.name ∈ required := by
  obtain ⟨hdeclared, hkind, _, hnames⟩ := union_facts
  obtain ⟨x, hx, hchoice⟩ := exists_unionProperty ("x", false, true, true, true) (by decide)
  simp only [choiceOf, Prod.mk.injEq] at hchoice
  obtain ⟨hname, hdefault, his, hnullable, _⟩ := hchoice
  refine ⟨x, hx, isHidden_none x, hdefault, his, hnullable, ?_⟩
  obtain ⟨schemas, hbody⟩ := body_generateSchema none hdeclared hkind
  exact ⟨schemas, _, hbody, by rw [hnames, hname]; decide⟩

end Catalogue
end ModelReach
