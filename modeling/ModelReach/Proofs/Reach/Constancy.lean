import ModelReach.Proofs.Reach.Following
import ModelReach.Proofs.Schema.Describing

/-! Answers that are the same at all times. When all files have been read, the models that a type refers to and its
schema do not depend on what has been asked before, since kinds depend on the names of bases alone, and of the bases
only accepted classes count. -/
namespace ModelReach.Reach
set_option autoImplicit false

open Catalogue

variable {loads : List ModuleFacts} {p : Policy} {c d : Catalogue}

/-! ## Models that a type refers to -/

/-- A class is no wrapper of others. -/
theorem isWrapper_reading (hc : Sound loads c) (n : Nat) (facts : ClassFacts) :
    (c.reading.kind (.declared n facts)).run.isWrapper = false := by
  change (c.lineageReading.classify (.declared n facts)).run.isWrapper = false
  rw [run_classify hc.resolved hc.edges, kindOf]
  split
  · rfl
  · split <;> rfl

section Referenced
variable (hc : Sound loads c) (hd : Sound loads d)
include hc hd

theorem isModel_reading (t : Descriptor) : (p.isModel c.reading t).run = (p.isModel d.reading t).run := by
  change p.isModelOfKind (c.reading.kind t).run t = p.isModelOfKind (d.reading.kind t).run t
  rw [kind_reading hc hd]

theorem isModel_view {t : Descriptor} (ht : Known loads t) :
    (p.isModel view t c).1 = (p.isModel d.reading t).run := by
  have hanswers := answers_isModel p ht
  exact (hanswers.shown hc).symm.trans (isModel_reading (hanswers.sound hc) hd t)

theorem followsArgument_reading (t : Descriptor) :
    (followsArgument p c.reading t).run = (followsArgument p d.reading t).run := by
  change Id.run (if (p.isModel c.reading t).run = true then pure true else pure (c.reading.kind t).run.isWrapper) =
    Id.run (if (p.isModel d.reading t).run = true then pure true else pure (d.reading.kind t).run.isWrapper)
  rw [isModel_reading hc hd, kind_reading hc hd]

/-- What a base adds is decided by its name: it is the class that stands under it, or it is not accepted. -/
theorem addAccepted_meaning (found : TypeSet) (name : String) :
    (addAccepted p c.reading found (meaning c.resolved (.named name))).run =
      (addAccepted p d.reading found (meaning d.resolved (.named name))).run := by
  have hadd : ∀ (v : View Id) (t : Descriptor), (addAccepted p v found t).run =
      if (p.accepts v t).run = true then found.insert t else found := by
    intro v t
    change Id.run (if (p.accepts v t).run = true then pure (found.insert t) else pure found) = _
    split <;> rfl
  rw [hadd, hadd]
  cases hname : (loaded loads).get? name with
  | some t =>
    rw [meaning_of_lookup (r := .named name) (hc.resolved.present name t hname),
      meaning_of_lookup (r := .named name) (hd.resolved.present name t hname), accepts_reading hc hd]
  | none =>
    have hrefused : ∀ {e}, Sound loads e → ¬ (p.accepts e.reading (meaning e.resolved (.named name))).run = true := by
      intro e he ha
      have hstands := (he.resolved.current_meaning (.named name)).get?_of_isDeclared (isDeclared_of_accepts ha)
      rw [he.resolved.key_meaning (.named name), show TypeRef.key (.named name) = name from rfl, hname] at hstands
      cases hstands
    rw [if_neg (hrefused hc), if_neg (hrefused hd)]

theorem surfaceBases_reading (t : Descriptor) (found : TypeSet) :
    (surfaceBases p c.reading t found).run = (surfaceBases p d.reading t found).run := by
  cases t with
  | declared n facts =>
    change Id.run (List.foldlM (addAccepted p c.reading) found
        ((baseNames facts).map fun name => meaning c.resolved (.named name))) =
      Id.run (List.foldlM (addAccepted p d.reading) found
        ((baseNames facts).map fun name => meaning d.resolved (.named name)))
    induction baseNames facts generalizing found with
    | nil => rfl
    | cons name names ih =>
      rw [List.map_cons, List.map_cons, List.foldlM_cons, List.foldlM_cons]
      change Id.run (List.foldlM (addAccepted p c.reading)
          (addAccepted p c.reading found (meaning c.resolved (.named name))).run
          (names.map fun name => meaning c.resolved (.named name))) =
        Id.run (List.foldlM (addAccepted p d.reading)
          (addAccepted p d.reading found (meaning d.resolved (.named name))).run
          (names.map fun name => meaning d.resolved (.named name)))
      rw [addAccepted_meaning hc hd]
      exact ih _
  | leaf _ => rfl
  | array _ _ _ => rfl
  | generic _ _ _ => rfl

theorem leaf_reading (t : Descriptor) :
    (Id.run (if p.isExcluded t = true then pure TypeSet.empty
      else surfaceBases p c.reading t (if (p.isModel c.reading t).run = true then TypeSet.empty.insert t else .empty))) =
    (Id.run (if p.isExcluded t = true then pure TypeSet.empty
      else surfaceBases p d.reading t (if (p.isModel d.reading t).run = true then TypeSet.empty.insert t else .empty))) := by
  rw [isModel_reading hc hd]
  split
  · rfl
  · exact surfaceBases_reading hc hd t _

mutual

/-- Which models a type refers to does not depend on what has been asked. -/
theorem referenced_reading : ∀ t : Descriptor, (referenced p c.reading t).run = (referenced p d.reading t).run
  | .array key element unique => by
    rw [referenced, referenced]
    split
    · rfl
    · exact referenced_reading element
  | .generic key origin args => by
    rw [referenced, referenced]
    split
    · rfl
    · exact referencedArgs_reading args .empty
  | .declared n facts => by
    simp only [referenced]
    exact leaf_reading hc hd _
  | .leaf form => by
    simp only [referenced]
    exact leaf_reading hc hd _

theorem referencedArgs_reading : ∀ (args : List Descriptor) (found : TypeSet),
    (referencedArgs p c.reading args found).run = (referencedArgs p d.reading args found).run
  | [], found => rfl
  | arg :: rest, found => by
    rw [referencedArgs, referencedArgs]
    change Id.run (if (followsArgument p c.reading arg).run = true then
        referencedArgs p c.reading rest (found.union (referenced p c.reading arg).run)
        else referencedArgs p c.reading rest found) =
      Id.run (if (followsArgument p d.reading arg).run = true then
        referencedArgs p d.reading rest (found.union (referenced p d.reading arg).run)
        else referencedArgs p d.reading rest found)
    rw [followsArgument_reading hc hd, referenced_reading arg]
    split
    · exact referencedArgs_reading rest _
    · exact referencedArgs_reading rest _

end

/-- The catalogue answers as any reading does. -/
theorem referenced_view {t : Descriptor} (ht : Current loads t) :
    (referenced p view t c).1 = (referenced p d.reading t).run := by
  have hanswers := answers_referenced p t ht
  exact (hanswers.shown hc).symm.trans (referenced_reading (hanswers.sound hc) hd t)

end Referenced

/-! ## Schemas -/

mutual

theorem propertySchema_reading (hc : Sound loads c) (hd : Sound loads d) :
    ∀ t : Descriptor, (propertySchema c.reading t).run = (propertySchema d.reading t).run
  | .array key element unique => by
    rw [propertySchema, propertySchema]
    exact congrArg (Schema.array · unique) (propertySchema_reading hc hd element)
  | .generic key origin args => by
    rw [propertySchema, propertySchema, argumentSchemas_reading hc hd args]
  | .declared n facts => by
    simp only [propertySchema]
    change schemaOfKind _ (c.reading.kind _).run = schemaOfKind _ (d.reading.kind _).run
    rw [kind_reading hc hd]
  | .leaf form => by
    simp only [propertySchema]
    rfl

theorem argumentSchemas_reading (hc : Sound loads c) (hd : Sound loads d) :
    ∀ args : List Descriptor, argumentSchemas c.reading args = argumentSchemas d.reading args
  | [] => rfl
  | arg :: rest => by
    rw [argumentSchemas, argumentSchemas, argumentSchemas_reading hc hd rest]
    exact congrArg (· :: _) (propertySchema_reading hc hd arg)

end

theorem propertySchema_view (hc : Sound loads c) (hd : Sound loads d) {t : Descriptor} (ht : Current loads t) :
    (propertySchema view t c).1 = (propertySchema d.reading t).run := by
  have hanswers := answers_propertySchema ht
  exact (hanswers.shown hc).symm.trans (propertySchema_reading (hanswers.sound hc) hd t)

end ModelReach.Reach
