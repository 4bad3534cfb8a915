import Mathlib.Data.List.Flatten
import ModelReach.Proofs.Catalogue.Use

/-! Catalogues in which no key stands for two types. They answer a question alike, whatever has been asked of them
before. Sources in which no class name is repeated, and no two written references share a key, give such
catalogues. -/
namespace ModelReach

/-! ## Parts of references -/

mutual

/-- A reference with all references that it is made of. -/
def TypeRef.parts : TypeRef → List TypeRef
  | .named name => [.named name]
  | .array element unique => .array element unique :: element.parts
  | .generic origin args => .generic origin args :: TypeRef.partsOf args

/-- The parts of references one after the other. -/
def TypeRef.partsOf : List TypeRef → List TypeRef
  | [] => []
  | r :: rest => r.parts ++ TypeRef.partsOf rest

end

namespace Catalogue
set_option autoImplicit false

variable {loads : List ModuleFacts} {α : Type}

/-! ## Answers at different times -/

section OneForKey
variable {a c d : Catalogue} (h : OneForKey loads a) (hc : Sound loads c) (hac : Resolves (written loads) a c)
  (hd : Sound loads d) (had : Resolves (written loads) a d)
include h hc hac hd had

theorem OneForKey.exists_later : ∃ e, Follows loads c e ∧ Follows loads d e :=
  Catalogue.exists_later hc hd (h.held c d hac had)

/-- A question has the same answer before and after others. -/
theorem OneForKey.answer_eq {x : StateM Catalogue α} {y : Catalogue → Id α} (hx : Answers loads x y) :
    (x c).1 = (x d).1 := by
  obtain ⟨e, hce, hde⟩ := h.exists_later (hx.sound hc) (hac.trans (hx.resolves c hc)) (hx.sound hd)
    (had.trans (hx.resolves d hd))
  rw [← (hx.run c hc).2 e hce, ← (hx.run d hd).2 e hde]

end OneForKey

/-! ## Unambiguous sources -/

/-- No class name is repeated, and written references with the same key are the same. -/
structure Unambiguous (loads : List ModuleFacts) : Prop where
  classes : ((classesIn loads).map ClassFacts.qualifiedName).Nodup
  refs : ∀ r ∈ TypeRef.partsOf (written loads), ∀ r' ∈ TypeRef.partsOf (written loads), r.key = r'.key → r = r'

theorem mem_partsOf {refs : List TypeRef} {x : TypeRef} :
    x ∈ TypeRef.partsOf refs ↔ ∃ r ∈ refs, x ∈ r.parts := by
  induction refs with
  | nil => exact ⟨fun h => absurd h List.not_mem_nil, fun ⟨_, h, _⟩ => absurd h List.not_mem_nil⟩
  | cons r refs ih => rw [TypeRef.partsOf, List.mem_append, ih, List.exists_mem_cons_iff]

theorem parts_subset {refs : List TypeRef} {r : TypeRef} (h : r ∈ refs) : r.parts ⊆ TypeRef.partsOf refs :=
  fun _ hx => mem_partsOf.mpr ⟨r, h, hx⟩

/-- Leaving files out keeps sources unambiguous. -/
theorem Unambiguous.sublist {fewer : List ModuleFacts} (h : Unambiguous loads) (hs : fewer.Sublist loads) :
    Unambiguous fewer := by
  have hclasses : (classesIn fewer).Sublist (classesIn loads) := hs.flatMap _
  have hparts : TypeRef.partsOf (written fewer) ⊆ TypeRef.partsOf (written loads) := by
    intro x hx
    obtain ⟨r, hr, hx⟩ := mem_partsOf.mp hx
    exact parts_subset ((hclasses.flatMap refsOf).subset hr) hx
  exact ⟨h.classes.sublist (hclasses.map _), fun r hr r' hr' => h.refs r (hparts hr) r' (hparts hr')⟩

/-- What a reference stands for as long as nothing but the classes is resolved. -/
def denoted (loads : List ModuleFacts) (r : TypeRef) : Descriptor := meaning (loaded loads).resolved r

theorem denoted_of_get? {r : TypeRef} {t : Descriptor} (h : (loaded loads).get? r.key = some t) :
    denoted loads r = t := by
  apply meaning_of_lookup
  rw [loaded_resolved]
  exact h

/-- Among the references of a family, no two have the same key. -/
def Keyed (family : TypeRef → Prop) : Prop := ∀ r r', family r → family r' → r.key = r'.key → r = r'

theorem Unambiguous.keyed (hu : Unambiguous loads) : Keyed (· ∈ TypeRef.partsOf (written loads)) :=
  fun r r' hr hr' => hu.refs r hr r' hr'

/-- The table holds the classes, and otherwise what references of a family stand for. -/
structure Denotes (family : TypeRef → Prop) (loads : List ModuleFacts) (table : List (String × Descriptor)) :
    Prop where
  present : ∀ k t, (loaded loads).get? k = some t → table.lookup k = some t
  denoted : ∀ k t, table.lookup k = some t →
    (loaded loads).get? k = some t ∨ ∃ r, family r ∧ r.key = k ∧ t = denoted loads r

variable {family : TypeRef → Prop}

theorem denotes_loaded : Denotes family loads (loaded loads).resolved where
  present k t h := by
    rw [loaded_resolved]
    exact h
  denoted k t h := by
    rw [loaded_resolved] at h
    exact Or.inl h

section Denotes
variable {table : List (String × Descriptor)} {r : TypeRef} (h : Denotes family loads table) (hr : family r)
include h hr

theorem Denotes.lookup (hu : Keyed family) {t : Descriptor} (ht : table.lookup r.key = some t) :
    t = Catalogue.denoted loads r := by
  rcases h.denoted _ t ht with hg | ⟨r', hr', hk, rfl⟩
  · exact (denoted_of_get? hg).symm
  · rw [hu r' r hr' hr hk]

theorem Denotes.assign : Denotes family loads (assign table r.key (Catalogue.denoted loads r)) where
  present k t ht := by
    rw [lookup_assign]
    split
    · rename_i hk
      rw [hk] at ht
      rw [denoted_of_get? ht]
    · exact h.present k t ht
  denoted k t ht := by
    rw [lookup_assign] at ht
    split at ht
    · rename_i hk
      exact Or.inr ⟨r, hr, hk.symm, (Option.some.inj ht).symm⟩
    · exact h.denoted k t ht

end Denotes

theorem Denotes.lookup_loaded_eq_none {table : List (String × Descriptor)} (h : Denotes family loads table)
    {k : String} (hk : table.lookup k = none) : (loaded loads).resolved.lookup k = none := by
  rw [loaded_resolved]
  cases hg : (loaded loads).declared.lookup k with
  | none => rfl
  | some t =>
    rw [h.present k t hg] at hk
    cases hk

mutual

/-- A reference is resolved to what it stands for, whatever was resolved before. -/
theorem denotes_resolve (hu : Keyed family) : ∀ (r : TypeRef) (c : Catalogue),
    (∀ x ∈ r.parts, family x) → Denotes family loads c.resolved →
      (resolve r c).1 = denoted loads r ∧ Denotes family loads (resolve r c).2.resolved
  | .named name, c, hp, h => by
    have hr : family (.named name) := hp _ (List.mem_singleton_self _)
    rw [resolve, keptOr]
    split
    · rename_i t ht
      exact ⟨h.lookup hr hu ht, h⟩
    · rename_i ht
      have hd : denoted loads (.named name) = leafOfName name := by
        rw [denoted, meaning, h.lookup_loaded_eq_none ht, Option.getD_none]
      exact ⟨hd.symm, hd ▸ h.assign hr⟩
  | .array element unique, c, hp, h => by
    have hr : family (.array element unique) := hp _ (List.mem_cons_self ..)
    rw [resolve, keptOr]
    split
    · rename_i t ht
      exact ⟨h.lookup hr hu ht, h⟩
    · rename_i ht
      obtain ⟨he, hafter⟩ := denotes_resolve hu element c
        (fun x hx => hp x (List.mem_cons_of_mem _ hx)) h
      have hd : denoted loads (.array element unique) =
          .array (TypeRef.key (.array element unique)) (resolve element c).1 unique := by
        rw [denoted, meaning, h.lookup_loaded_eq_none ht, Option.getD_none, he, denoted]
      have hkept := hafter.assign hr
      rw [hd] at hkept
      exact ⟨hd.symm, hkept⟩
  | .generic origin args, c, hp, h => by
    have hr : family (.generic origin args) := hp _ (List.mem_cons_self ..)
    rw [resolve, keptOr]
    split
    · rename_i t ht
      exact ⟨h.lookup hr hu ht, h⟩
    · rename_i ht
      obtain ⟨ha, hafter⟩ := denotes_resolveAll hu args c (fun x hx => hp x (List.mem_cons_of_mem _ hx)) h
      have hd : denoted loads (.generic origin args) =
          .generic (TypeRef.key (.generic origin args)) origin (resolveAll args c).1 := by
        rw [denoted, meaning, h.lookup_loaded_eq_none ht, Option.getD_none, ha, meanings_eq_map]
        rfl
      have hkept := hafter.assign hr
      rw [hd] at hkept
      exact ⟨hd.symm, hkept⟩

theorem denotes_resolveAll (hu : Keyed family) : ∀ (refs : List TypeRef) (c : Catalogue),
    (∀ x ∈ TypeRef.partsOf refs, family x) → Denotes family loads c.resolved →
      (resolveAll refs c).1 = refs.map (denoted loads) ∧ Denotes family loads (resolveAll refs c).2.resolved
  | [], c, _, h => ⟨rfl, h⟩
  | r :: refs, c, hp, h => by
    obtain ⟨hr, hafter⟩ := denotes_resolve hu r c (fun x hx => hp x (List.mem_append_left _ hx)) h
    obtain ⟨hrefs, hlast⟩ := denotes_resolveAll hu refs _ (fun x hx => hp x (List.mem_append_right _ hx)) hafter
    rw [resolveAll, List.map_cons, ← hr, ← hrefs]
    exact ⟨rfl, hlast⟩

end

theorem Denotes.later (hu : Keyed family) {refs : List TypeRef} (hrefs : ∀ r ∈ refs, ∀ x ∈ r.parts, family x)
    {c d : Catalogue} (h : Denotes family loads c.resolved) (hd : Resolves refs c d) :
    Denotes family loads d.resolved := by
  induction hd with
  | start => exact h
  | resolve _ hr ih => exact (denotes_resolve hu _ _ (hrefs _ hr) ih).2
  | same _ he ih => rw [he]; exact ih

/-- Tables in which references of one family were resolved do not disagree. -/
theorem Denotes.unique (hu : Keyed family) {table table' : List (String × Descriptor)}
    (h : Denotes family loads table) (h' : Denotes family loads table') {k : String} {t t' : Descriptor}
    (ht : table.lookup k = some t) (ht' : table'.lookup k = some t') : t = t' := by
  rcases h.denoted k t ht with hg | ⟨r, hr, rfl, rfl⟩
  · rw [h'.present k t hg] at ht'
    exact Option.some.inj ht'
  · exact (h'.lookup hr hu ht').symm

theorem eq_of_nodup_names (h : ((classesIn loads).map ClassFacts.qualifiedName).Nodup) {t t' : Descriptor}
    (ht : Registered loads t) (ht' : Registered loads t') (hk : t.key = t'.key) : t = t' := by
  obtain ⟨n, f, hf, rfl⟩ := ht
  obtain ⟨m, g, hg, rfl⟩ := ht'
  have hn : ((classesIn loads).map ClassFacts.qualifiedName)[n]? = some f.qualifiedName := by
    rw [List.getElem?_map, hf, Option.map_some]
  have hm : ((classesIn loads).map ClassFacts.qualifiedName)[m]? = some f.qualifiedName := by
    rw [List.getElem?_map, hg, Option.map_some]
    exact congrArg some hk.symm
  have hnm : n = m := (List.getElem?_inj (List.getElem?_eq_some_iff.mp hn).1 h).mp (hn.trans hm.symm)
  rw [hnm, hg] at hf
  rw [hnm, Option.some.inj hf]

/-- Unambiguous sources leave no key with two types. -/
theorem Unambiguous.oneForKey (hu : Unambiguous loads) {c : Catalogue} (hc : c.resolved = (loaded loads).resolved) :
    OneForKey loads c where
  classes _ _ := eq_of_nodup_names hu.classes
  held d e hd he k t t' ht ht' := by
    have hdenotes : Denotes (· ∈ TypeRef.partsOf (written loads)) loads c.resolved := by
      rw [hc]
      exact denotes_loaded
    have hlater {e : Catalogue} (he : Resolves (written loads) c e) :=
      hdenotes.later hu.keyed (fun _ hr _ hx => parts_subset hr hx) he
    exact (hlater hd).unique hu.keyed (hlater he) ht ht'

end Catalogue
end ModelReach
