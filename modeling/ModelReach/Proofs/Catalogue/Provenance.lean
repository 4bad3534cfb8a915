import ModelReach.Proofs.Catalogue.Agreement

/-! Where the types of a table come from. Resolving a reference adds the reference and its parts, as far as their keys
are free, and changes nothing else; so each type of the table is a class, or was made for one of the references that
have been resolved, of the types that the table holds for its parts. -/
namespace ModelReach.Catalogue
set_option autoImplicit false

/-- The type is what is made for a reference of the types that a table holds for its parts. -/
inductive Traces (table : List (String × Descriptor)) : TypeRef → Descriptor → Prop
  | named (name : String) : Traces table (.named name) (leafOfName name)
  | array {element : TypeRef} {unique : Bool} {t : Descriptor} (h : table.lookup element.key = some t) :
    Traces table (.array element unique) (.array (TypeRef.key (.array element unique)) t unique)
  | generic {origin : String} {args : List TypeRef} {ts : List Descriptor}
    (h : List.Forall₂ (fun r t => table.lookup r.key = some t) args ts) :
    Traces table (.generic origin args) (.generic (TypeRef.key (.generic origin args)) origin ts)

/-- The table holds classes, and otherwise what was made for references of a family. -/
def Traced (family : TypeRef → Prop) (table : List (String × Descriptor)) : Prop :=
  ∀ k t, table.lookup k = some t → t.isDeclared = true ∨ ∃ r, family r ∧ r.key = k ∧ Traces table r t

variable {family : TypeRef → Prop} {table more : List (String × Descriptor)} {r : TypeRef} {t : Descriptor}

theorem Traces.mono (h : Traces table r t) (he : Extends table more) : Traces more r t := by
  cases h with
  | named name => exact Traces.named name
  | array h => exact Traces.array (he _ _ h)
  | generic h => exact Traces.generic (h.imp fun _ _ h => he _ _ h)

theorem Traced.assign (h : Traced family table) (hnone : table.lookup r.key = none) (hr : family r)
    (ht : Traces table r t) : Traced family (assign table r.key t) := by
  have hmore : Extends table (Catalogue.assign table r.key t) := Extends.assign hnone t
  intro k t' hk
  rw [lookup_assign] at hk
  split at hk
  · rename_i he
    rw [← Option.some.inj hk]
    exact Or.inr ⟨r, hr, he.symm, ht.mono hmore⟩
  · refine (h k t' hk).imp id ?_
    rintro ⟨r', hr', hkey, ht'⟩
    exact ⟨r', hr', hkey, ht'.mono hmore⟩

/-! ## Resolution -/

/-- What resolving references does to the table: it grows, holds each reference with its answer, holds longer keys as
it did, and stays traced. -/
structure Fills (family : TypeRef → Prop) (before : Catalogue) (refs : List TypeRef) (answer : List Descriptor)
    (after : Catalogue) : Prop where
  more : Extends before.resolved after.resolved
  held : List.Forall₂ (fun r t => after.resolved.lookup r.key = some t) refs answer
  longer : ∀ k : String, (∀ r ∈ refs, r.key.length < k.length) → after.resolved.lookup k = before.resolved.lookup k
  traced : Traced family before.resolved → Traced family after.resolved

variable {a b c d : Catalogue}

theorem Fills.nil (c : Catalogue) : Fills family c [] [] c where
  more := Extends.refl _
  held := List.Forall₂.nil
  longer _ _ := rfl
  traced h := h

theorem Fills.append {refs₁ refs₂ : List TypeRef} {ts₁ ts₂ : List Descriptor} (h₁ : Fills family a refs₁ ts₁ b)
    (h₂ : Fills family b refs₂ ts₂ c) : Fills family a (refs₁ ++ refs₂) (ts₁ ++ ts₂) c where
  more := h₁.more.trans h₂.more
  held := List.rel_append (h₁.held.imp fun _ _ h => h₂.more _ _ h) h₂.held
  longer k hk := by
    rw [h₂.longer k fun r hr => hk r (List.mem_append_right _ hr),
      h₁.longer k fun r hr => hk r (List.mem_append_left _ hr)]
  traced h := h₂.traced (h₁.traced h)

/-- The reference is held already, or its type is made of parts resolved now. -/
theorem fills_keptOr {parts : List TypeRef} {ts : List Descriptor} {make : StateM Catalogue Descriptor}
    (h : Fills family c parts ts (make c).2) (hr : family r) (hparts : ∀ p ∈ parts, p.key.length < r.key.length)
    (ht : ∀ table, List.Forall₂ (fun r t => table.lookup r.key = some t) parts ts → Traces table r (make c).1) :
    Fills family c [r] [(keptOr r.key make c).1] (keptOr r.key make c).2 := by
  unfold keptOr
  split
  · rename_i t hkept
    exact ⟨Extends.refl _, List.Forall₂.cons hkept List.Forall₂.nil, fun _ _ => rfl, fun h => h⟩
  · rename_i hnone
    have hfree : (make c).2.resolved.lookup r.key = none := by rw [h.longer r.key hparts, hnone]
    refine ⟨h.more.trans (Extends.assign hfree _), ?_, fun k hk => ?_, fun htraced => ?_⟩
    · exact List.Forall₂.cons (lookup_assign_self _ _ _) List.Forall₂.nil
    · have hlen := hk r (List.mem_singleton_self r)
      have hne : k ≠ r.key := fun he => by rw [he] at hlen; omega
      refine (lookup_assign_of_ne _ hne _).trans (h.longer k fun p hp => (hparts p hp).trans hlen)
    · exact (h.traced htraced).assign hfree hr (ht _ h.held)

mutual

theorem fills_resolve : ∀ (r : TypeRef) (c : Catalogue), (∀ x ∈ r.parts, family x) →
    Fills family c [r] [(resolve r c).1] (resolve r c).2
  | .named name, c, hp => by
    rw [resolve]
    exact fills_keptOr (r := .named name) (Fills.nil c) (hp _ (List.mem_singleton_self _))
      (fun p hp => absurd hp List.not_mem_nil) fun _ _ => Traces.named name
  | .array element unique, c, hp => by
    have helement := fills_resolve element c fun x hx => hp x (List.mem_cons_of_mem _ hx)
    rw [resolve]
    refine fills_keptOr (r := .array element unique) helement (hp _ (List.mem_cons_self ..)) (fun p hp => ?_)
      fun _ h => Traces.array (List.forall₂_cons.mp h).1
    rw [List.mem_singleton.mp hp]
    exact length_key_array element unique
  | .generic origin args, c, hp => by
    have hargs := fills_resolveAll args c fun x hx => hp x (List.mem_cons_of_mem _ hx)
    rw [resolve]
    exact fills_keptOr (r := .generic origin args) hargs (hp _ (List.mem_cons_self ..))
      (fun p hp => length_key_generic origin hp) fun _ h => Traces.generic h

theorem fills_resolveAll : ∀ (refs : List TypeRef) (c : Catalogue), (∀ x ∈ TypeRef.partsOf refs, family x) →
    Fills family c refs (resolveAll refs c).1 (resolveAll refs c).2
  | [], c, _ => Fills.nil c
  | r :: refs, c, hp => by
    have hfirst := fills_resolve r c fun x hx => hp x (List.mem_append_left _ hx)
    have hrest := fills_resolveAll refs (resolve r c).2 fun x hx => hp x (List.mem_append_right _ hx)
    rw [resolveAll]
    exact hfirst.append hrest

end

/-- Tables that grow by resolving references stay traced to them. -/
theorem Traced.later {refs : List TypeRef} (h : Traced (· ∈ TypeRef.partsOf refs) c.resolved)
    (hd : Resolves refs c d) : Traced (· ∈ TypeRef.partsOf refs) d.resolved := by
  induction hd with
  | start => exact h
  | @resolve e _ r hr ih => exact (fills_resolve r e (parts_subset hr)).traced ih
  | same _ he ih => rwa [he]

theorem traced_loaded (loads : List ModuleFacts) : Traced family (loaded loads).resolved := by
  intro k t ht
  rw [loaded_resolved] at ht
  obtain ⟨n, f, _, rfl⟩ := registered_of_get? ht
  exact Or.inl rfl

end ModelReach.Catalogue
