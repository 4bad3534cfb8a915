import Mathlib.Data.List.Perm.Subperm
import ModelReach.Proofs.Inheritance.Walks

/-! The C3 linearization of what is above a name: those of the names next to it are merged, none of them and not their
own order being changed. It is the order of last visits if, and only if, it keeps apart what only an earlier one of
two names next to another one leads to and what a later one does. -/
namespace ModelReach
set_option autoImplicit false

/-! ## The linearization -/

/-- The first of the heads of some lists that stands in none of them behind its head. -/
def goodHead (lists : List (List String)) : Option String :=
  (lists.filterMap List.head?).find? fun h => lists.all fun l => !l.tail.contains h

def dropHead (h : String) (l : List String) : List String := if l.head? = some h then l.tail else l

/-- Merge lists so that the order of each is kept; there may be no way to. -/
def mergeLists : Nat → List (List String) → Option (List String)
  | 0, lists => if lists.all List.isEmpty then some [] else none
  | n + 1, lists =>
    if lists.all List.isEmpty then some []
    else (goodHead lists).bind fun h => (mergeLists n (lists.map (dropHead h))).map (h :: ·)

/-- The C3 linearization of a name, if there is one and every way up ends within some steps. -/
def c3 (next : String → List String) : Nat → String → Option (List String)
  | 0, _ => none
  | n + 1, k =>
    ((next k).mapM (c3 next n)).bind fun lists =>
      (mergeLists (lists.flatten.length + (next k).length) (lists ++ [next k])).map (k :: ·)

/-! ## Merged lists -/

/-- What merging lists gives: it holds what they hold, once, and keeps the order of each. -/
structure Merged (lists : List (List String)) (merged : List String) : Prop where
  keeps : ∀ l ∈ lists, l.Sublist merged
  only : ∀ x ∈ merged, ∃ l ∈ lists, x ∈ l
  nodup : merged.Nodup

theorem mem_of_mem_dropHead {h x : String} {l : List String} (hx : x ∈ dropHead h l) : x ∈ l := by
  rw [dropHead] at hx
  split at hx
  · exact List.mem_of_mem_tail hx
  · exact hx

theorem goodHead_spec {lists : List (List String)} {h : String} (hh : goodHead lists = some h) :
    (∃ l ∈ lists, l.head? = some h) ∧ ∀ l ∈ lists, h ∉ l.tail := by
  have hmem := List.mem_of_find?_eq_some hh
  have hgood := List.find?_some hh
  refine ⟨List.mem_filterMap.mp hmem, fun l hl hx => ?_⟩
  have hno := List.all_eq_true.mp hgood l hl
  rw [List.contains_iff_mem.mpr hx] at hno
  exact absurd hno Bool.false_ne_true

/-- A good head is nowhere left once it is dropped. -/
theorem notMem_dropHead {lists : List (List String)} {h : String} (hh : goodHead lists = some h) :
    ∀ l ∈ lists, h ∉ dropHead h l := by
  intro l hl hx
  have htail := (goodHead_spec hh).2 l hl
  rw [dropHead] at hx
  split at hx
  · exact htail hx
  · rename_i hne
    cases l with
    | nil => exact absurd hx List.not_mem_nil
    | cons y l =>
      rcases List.mem_cons.mp hx with rfl | hx
      · exact hne rfl
      · exact htail hx

theorem Merged.cons {lists : List (List String)} {h : String} {merged : List String} (hh : goodHead lists = some h)
    (hm : Merged (lists.map (dropHead h)) merged) : Merged lists (h :: merged) where
  keeps l hl := by
    have hdrop := hm.keeps (dropHead h l) (List.mem_map_of_mem hl)
    rw [dropHead] at hdrop
    split at hdrop
    · rename_i hhead
      obtain ⟨y, hy⟩ := List.head?_eq_some_iff.mp hhead
      rw [hy, List.tail_cons] at hdrop
      rw [hy]
      exact hdrop.cons_cons h
    · exact hdrop.cons h
  only x hx := by
    rcases List.mem_cons.mp hx with rfl | hx
    · obtain ⟨l, hl, hhead⟩ := (goodHead_spec hh).1
      exact ⟨l, hl, List.mem_of_mem_head? hhead⟩
    · obtain ⟨l, hl, hx⟩ := hm.only x hx
      obtain ⟨l', hl', rfl⟩ := List.mem_map.mp hl
      exact ⟨l', hl', mem_of_mem_dropHead hx⟩
  nodup := by
    refine List.nodup_cons.mpr ⟨fun hx => ?_, hm.nodup⟩
    obtain ⟨l, hl, hx⟩ := hm.only h hx
    obtain ⟨l', hl', rfl⟩ := List.mem_map.mp hl
    exact notMem_dropHead hh l' hl' hx

theorem merged_of_mergeLists {n : Nat} {lists : List (List String)} {merged : List String}
    (h : mergeLists n lists = some merged) : Merged lists merged := by
  have hempty : ∀ {lists : List (List String)}, lists.all List.isEmpty = true → Merged lists [] := by
    intro lists hall
    refine ⟨fun l hl => ?_, fun x hx => absurd hx List.not_mem_nil, List.nodup_nil⟩
    rw [List.isEmpty_iff.mp (List.all_eq_true.mp hall l hl)]
  induction n generalizing lists merged with
  | zero =>
    rw [mergeLists] at h
    split at h
    · rename_i hall
      rw [← Option.some.inj h]
      exact hempty hall
    · cases h
  | succ n ih =>
    rw [mergeLists] at h
    split at h
    · rename_i hall
      rw [← Option.some.inj h]
      exact hempty hall
    · obtain ⟨first, hfirst, hrest⟩ := Option.bind_eq_some_iff.mp h
      obtain ⟨rest, hmerge, rfl⟩ := Option.map_eq_some_iff.mp hrest
      exact (ih hmerge).cons hfirst

/-! ## Rounds -/

theorem length_flatten_dropHead_le (h : String) (lists : List (List String)) :
    (lists.map (dropHead h)).flatten.length ≤ lists.flatten.length := by
  induction lists with
  | nil => exact Nat.le_refl _
  | cons l lists ih =>
    have hl : (dropHead h l).length ≤ l.length := by
      rw [dropHead]
      split
      · rw [List.length_tail]
        exact Nat.sub_le ..
      · exact Nat.le_refl _
    rw [List.map_cons, List.flatten_cons, List.flatten_cons, List.length_append, List.length_append]
    exact Nat.add_le_add hl ih

theorem length_flatten_dropHead_lt {h : String} {lists : List (List String)} (hh : ∃ l ∈ lists, l.head? = some h) :
    (lists.map (dropHead h)).flatten.length < lists.flatten.length := by
  obtain ⟨l, hl, hhead⟩ := hh
  obtain ⟨before, after, rfl⟩ := List.append_of_mem hl
  obtain ⟨rest, rfl⟩ := List.head?_eq_some_iff.mp hhead
  have hbefore := length_flatten_dropHead_le h before
  have hafter := length_flatten_dropHead_le h after
  have hdrop : dropHead h (h :: rest) = rest := if_pos rfl
  rw [List.map_append, List.map_cons, hdrop]
  simp only [List.flatten_append, List.flatten_cons, List.length_append, List.length_cons]
  omega

/-- With as many rounds as the lists are long together, another round changes nothing. -/
theorem mergeLists_succ {n : Nat} {lists : List (List String)} (hn : lists.flatten.length ≤ n) :
    mergeLists (n + 1) lists = mergeLists n lists := by
  induction n generalizing lists with
  | zero =>
    have hall : lists.all List.isEmpty = true := by
      refine List.all_eq_true.mpr fun l hl => List.isEmpty_iff.mpr ?_
      exact List.flatten_eq_nil_iff.mp (List.length_eq_zero_iff.mp (Nat.le_zero.mp hn)) l hl
    rw [mergeLists, mergeLists, if_pos hall, if_pos hall]
  | succ n ih =>
    rw [mergeLists, mergeLists]
    refine if_congr Iff.rfl rfl (Option.bind_congr fun h hh => ?_)
    have hlt := length_flatten_dropHead_lt (goodHead_spec hh).1
    rw [ih (by omega)]

/-! ## What is above a name -/

theorem mem_of_mapM_some {α β : Type} {f : α → Option β} {l : List α} {bs : List β} (h : l.mapM f = some bs) :
    (∀ a ∈ l, ∃ b ∈ bs, f a = some b) ∧ ∀ b ∈ bs, ∃ a ∈ l, f a = some b := by
  induction l generalizing bs with
  | nil =>
    cases h
    exact ⟨fun _ ha => absurd ha List.not_mem_nil, fun _ hb => absurd hb List.not_mem_nil⟩
  | cons a l ih =>
    rw [List.mapM_cons] at h
    obtain ⟨b, hb, h⟩ := Option.bind_eq_some_iff.mp h
    obtain ⟨rest, hrest, h⟩ := Option.bind_eq_some_iff.mp h
    cases h
    obtain ⟨hall, honly⟩ := ih hrest
    constructor
    · intro x hx
      rcases List.mem_cons.mp hx with rfl | hx
      · exact ⟨b, List.mem_cons_self .., hb⟩
      · obtain ⟨y, hy, hxy⟩ := hall x hx
        exact ⟨y, List.mem_cons_of_mem b hy, hxy⟩
    · intro y hy
      rcases List.mem_cons.mp hy with rfl | hy
      · exact ⟨a, List.mem_cons_self .., hb⟩
      · obtain ⟨x, hx, hxy⟩ := honly y hy
        exact ⟨x, List.mem_cons_of_mem a hx, hxy⟩

variable {next : String → List String}

/-- A linearization is the name itself, then what the linearizations of the names next to it are merged to. -/
theorem c3_succ {n : Nat} {k : String} {order : List String} (h : c3 next (n + 1) k = some order) :
    ∃ above, order = k :: above ∧ above.Nodup ∧ (∀ m ∈ next k, ∃ l, c3 next n m = some l ∧ l.Sublist above) ∧
      ∀ x ∈ above, ∃ m ∈ next k, x = m ∨ ∃ l, c3 next n m = some l ∧ x ∈ l := by
  rw [c3] at h
  obtain ⟨lists, hlists, h⟩ := Option.bind_eq_some_iff.mp h
  obtain ⟨above, habove, rfl⟩ := Option.map_eq_some_iff.mp h
  have hmerged := merged_of_mergeLists habove
  obtain ⟨hall, honly⟩ := mem_of_mapM_some hlists
  refine ⟨above, rfl, hmerged.nodup, fun m hm => ?_, fun x hx => ?_⟩
  · obtain ⟨l, hl, hc3⟩ := hall m hm
    exact ⟨l, hc3, hmerged.keeps l (List.mem_append_left _ hl)⟩
  · obtain ⟨l, hl, hx⟩ := hmerged.only x hx
    rcases List.mem_append.mp hl with hl | hl
    · obtain ⟨m, hm, hc3⟩ := honly l hl
      exact ⟨m, hm, Or.inr ⟨l, hc3, hx⟩⟩
    · rw [List.mem_singleton.mp hl] at hx
      exact ⟨x, hx, Or.inl rfl⟩

theorem endsWithin_of_c3 {n : Nat} {k : String} {order : List String} (h : c3 next n k = some order) :
    EndsWithin next n k := by
  induction n generalizing k order with
  | zero => cases h
  | succ n ih =>
    obtain ⟨_, _, _, hall, _⟩ := c3_succ h
    intro m hm
    obtain ⟨l, hl, _⟩ := hall m hm
    exact ih hl

theorem mem_c3 {n : Nat} {k : String} {order : List String} (h : c3 next n k = some order) (x : String) :
    x ∈ order ↔ Reaches next k x := by
  induction n generalizing k order x with
  | zero => cases h
  | succ n ih =>
    obtain ⟨above, rfl, _, hall, honly⟩ := c3_succ h
    rw [List.mem_cons]
    constructor
    · rintro (rfl | hx)
      · exact Relation.ReflTransGen.refl
      · obtain ⟨m, hm, rfl | ⟨l, hl, hx⟩⟩ := honly x hx
        · exact Relation.ReflTransGen.single hm
        · exact ((ih hl x).mp hx).head hm
    · intro hx
      rcases hx.cases_head with rfl | ⟨m, hm, hx⟩
      · exact Or.inl rfl
      · obtain ⟨l, hl, hsub⟩ := hall m hm
        exact Or.inr (hsub.subset ((ih hl x).mpr hx))

/-! ## Blocks -/

/-- What only an earlier one of two names next to another one leads to comes before what a later one leads to. -/
def InBlocks (next : String → List String) (k : String) (order : List String) : Prop :=
  ∀ before m after, next k = before ++ m :: after → ∀ x y, Reaches next m x → (∀ d ∈ after, ¬ Reaches next d x) →
    (∃ d ∈ after, Reaches next d y) → [x, y].Sublist order

theorem pair_sublist_of_cons {x y a : String} {l : List String} (h : [x, y].Sublist (a :: l)) (hx : x ≠ a) :
    [x, y].Sublist l := by
  cases h with
  | cons _ h => exact h
  | cons_cons _ _ => exact absurd rfl hx

theorem filter_or_eq {p q : String → Bool} {l : List String} (hl : l.Nodup) (hpq : ∀ x ∈ l, p x = true → q x = false)
    (h : ∀ x ∈ l, ∀ y ∈ l, p x = true → q y = true → [x, y].Sublist l) :
    (l.filter fun x => p x || q x) = l.filter p ++ l.filter q := by
  induction l with
  | nil => rfl
  | cons a l ih =>
    obtain ⟨ha, hl⟩ := List.nodup_cons.mp hl
    have hrest := ih hl (fun x hx => hpq x (List.mem_cons_of_mem a hx)) fun x hx y hy hp hq =>
      pair_sublist_of_cons (h x (List.mem_cons_of_mem a hx) y (List.mem_cons_of_mem a hy) hp hq) fun he => ha (he ▸ hx)
    by_cases hp : p a = true
    · have hq := hpq a (List.mem_cons_self ..) hp
      rw [List.filter_cons_of_pos (by rw [hp, Bool.true_or]), List.filter_cons_of_pos hp,
        List.filter_cons_of_neg (by rw [hq]; exact Bool.false_ne_true), hrest, List.cons_append]
    · by_cases hq : q a = true
      · -- nothing of the first kind is left behind one of the second kind
        have hnone : l.filter p = [] := by
          refine List.filter_eq_nil_iff.mpr fun x hx hpx => ?_
          have hpair := pair_sublist_of_cons (h x (List.mem_cons_of_mem a hx) a (List.mem_cons_self ..) hpx hq)
            fun he => ha (he ▸ hx)
          exact ha (hpair.subset (List.mem_cons_of_mem x (List.mem_singleton_self a)))
        rw [List.filter_cons_of_pos (by rw [hq, Bool.or_true]), List.filter_cons_of_neg hp,
          List.filter_cons_of_pos hq, hrest, hnone, List.nil_append, List.nil_append]
      · rw [List.filter_cons_of_neg (by rw [Bool.or_eq_true]; exact fun h => h.elim hp hq),
          List.filter_cons_of_neg hp, List.filter_cons_of_neg hq, hrest]

theorem filter_mem_eq {l m : List String} (h : l.Sublist m) (hm : m.Nodup) : (m.filter fun x => x ∈ l) = l := by
  have hsub : l.Sublist (m.filter fun x => x ∈ l) := by
    have hfilter := h.filter fun x => decide (x ∈ l)
    rw [List.filter_eq_self.mpr fun x hx => decide_eq_true hx] at hfilter
    exact hfilter
  refine (hsub.eq_of_length_le ?_).symm
  refine List.Subperm.length_le (List.subperm_of_subset (hm.filter _) fun x hx => ?_)
  exact of_decide_eq_true (List.mem_filter.mp hx).2

/-- What one list and then another one holds, in a list that keeps the order of the first and puts it first. -/
theorem filter_mem_append {above first rest : List String} (habove : above.Nodup) (hfirst : first.dedup.Sublist above)
    (h : ∀ x ∈ first, x ∉ rest → ∀ y ∈ rest, [x, y].Sublist above) :
    (above.filter fun x => x ∈ first ++ rest) =
      (first.dedup.filter fun x => x ∉ rest) ++ above.filter fun x => x ∈ rest := by
  have hblocks := filter_or_eq (p := fun x => decide (x ∈ first ∧ x ∉ rest)) (q := fun x => decide (x ∈ rest)) habove
    (fun _ _ hp => decide_eq_false (of_decide_eq_true hp).2) fun x _ y _ hp hq =>
      h x (of_decide_eq_true hp).1 (of_decide_eq_true hp).2 y (of_decide_eq_true hq)
  have honly : (above.filter fun x => decide (x ∈ first ∧ x ∉ rest)) = first.dedup.filter fun x => x ∉ rest := by
    conv => rhs; rw [← filter_mem_eq hfirst habove, List.filter_filter]
    refine List.filter_congr fun x _ => ?_
    simp only [List.mem_dedup, Bool.decide_and, Bool.and_comm]
  rw [← honly, ← hblocks]
  refine List.filter_congr fun x _ => ?_
  rw [← Bool.decide_or]
  refine decide_eq_decide.mpr (List.mem_append.trans ?_)
  tauto

/-- The order of last visits keeps blocks apart. -/
theorem inBlocks_lastVisits {n : Nat} {k : String} (h : EndsWithin next (n + 1) k) :
    InBlocks next k (lastVisits next (n + 1) k) := by
  intro before m after hsplit x y hx hxafter hy
  have hsub : m :: after ⊆ next k := by
    rw [hsplit]
    exact List.subset_append_right _ _
  have hafter := mem_walks h (fun d hd => hsub (List.mem_cons_of_mem m hd))
  have hm : x ∈ walk next n m := (mem_walk (h m (hsub (List.mem_cons_self ..))) x).mpr hx
  have hfirst : [x].Sublist ((walk next n m).dedup.filter fun x => x ∉ after.flatMap (walk next n)) := by
    refine List.singleton_sublist.mpr (List.mem_filter.mpr ⟨List.mem_dedup.mpr hm, ?_⟩)
    rw [decide_eq_true_iff, hafter]
    rintro ⟨d, hd, hx⟩
    exact hxafter d hd hx
  have hsecond : [y].Sublist (after.flatMap (walk next n)).dedup :=
    List.singleton_sublist.mpr (List.mem_dedup.mpr ((hafter y).mpr hy))
  rw [lastVisits_succ h, hsplit, List.flatMap_append, List.flatMap_cons, dedup_append_eq, dedup_append_eq]
  exact ((hfirst.append hsecond).trans (List.sublist_append_right _ _)).cons k

/-- If a linearization keeps blocks apart, and those next to it are orders of last visits, it is one itself. -/
theorem c3_succ_eq_lastVisits {n : Nat} {k : String} {order : List String} (h : c3 next (n + 1) k = some order)
    (hblocks : InBlocks next k order) (hnext : ∀ m ∈ next k, ∀ l, c3 next n m = some l → l = lastVisits next n m) :
    order = lastVisits next (n + 1) k := by
  have hends := endsWithin_of_c3 h
  obtain ⟨above, rfl, hnodup, hall, honly⟩ := c3_succ h
  -- from the last name next to it on, each adds a block
  have hsuffix : ∀ after before, next k = before ++ after →
      (above.filter fun x => x ∈ after.flatMap (walk next n)) = (after.flatMap (walk next n)).dedup := by
    intro after
    induction after with
    | nil => exact fun _ _ => List.filter_eq_nil_iff.mpr fun _ _ => by simp
    | cons m after ih =>
      intro before hsplit
      have hsub : m :: after ⊆ next k := by
        rw [hsplit]
        exact List.subset_append_right _ _
      have hm : m ∈ next k := hsub (List.mem_cons_self ..)
      have hwalk := mem_walk (hends m hm)
      have hwalks := mem_walks hends (fun d hd => hsub (List.mem_cons_of_mem m hd))
      obtain ⟨l, hl, hkept⟩ := hall m hm
      rw [hnext m hm l hl, lastVisits] at hkept
      have hapart : ∀ x ∈ walk next n m, x ∉ after.flatMap (walk next n) → ∀ y ∈ after.flatMap (walk next n),
          [x, y].Sublist above := by
        intro x hx hxafter y hy
        have hne : x ≠ k := fun he => hends.not_reaches hm (he ▸ (hwalk x).mp hx)
        refine pair_sublist_of_cons ?_ hne
        exact hblocks before m after hsplit x y ((hwalk x).mp hx)
          (fun d hd hway => hxafter ((hwalks x).mpr ⟨d, hd, hway⟩)) ((hwalks y).mp hy)
      rw [List.flatMap_cons, dedup_append_eq, filter_mem_append hnodup hkept hapart,
        ih (before ++ [m]) (by rw [hsplit, List.append_assoc]; rfl)]
  have hfull : (above.filter fun x => x ∈ (next k).flatMap (walk next n)) = above := by
    refine List.filter_eq_self.mpr fun x hx => decide_eq_true ?_
    rw [mem_walks hends (List.Subset.refl _)]
    obtain ⟨m, hm, rfl | ⟨l, hl, hx⟩⟩ := honly x hx
    · exact ⟨x, hm, Relation.ReflTransGen.refl⟩
    · exact ⟨m, hm, (mem_c3 hl x).mp hx⟩
  rw [lastVisits_succ hends, ← hsuffix (next k) [] rfl, hfull]

theorem mapM_some_mono {α β : Type} {f g : α → Option β} (hfg : ∀ a b, f a = some b → g a = some b) {l : List α}
    {bs : List β} (h : l.mapM f = some bs) : l.mapM g = some bs := by
  induction l generalizing bs with
  | nil => exact h
  | cons a l ih =>
    rw [List.mapM_cons] at h ⊢
    obtain ⟨b, hb, h⟩ := Option.bind_eq_some_iff.mp h
    obtain ⟨rest, hrest, h⟩ := Option.bind_eq_some_iff.mp h
    rw [hfg a b hb, ih hrest]
    exact h

theorem c3_mono {n m : Nat} (hnm : n ≤ m) {k : String} {order : List String} (h : c3 next n k = some order) :
    c3 next m k = some order := by
  induction n generalizing m k order with
  | zero => cases h
  | succ n ih =>
    obtain ⟨m, rfl⟩ := Nat.exists_eq_add_one_of_ne_zero (Nat.ne_of_gt (Nat.lt_of_lt_of_le n.succ_pos hnm))
    rw [c3] at h ⊢
    obtain ⟨lists, hlists, h⟩ := Option.bind_eq_some_iff.mp h
    rw [mapM_some_mono (fun _ _ => ih (Nat.le_of_succ_le_succ hnm)) hlists]
    exact h

/-- Linearizations are orders of last visits, for a name and all above it, exactly if they keep blocks apart. -/
theorem c3_eq_lastVisits_iff (n : Nat) (k : String) :
    (∀ u l, Reaches next k u → c3 next n u = some l → InBlocks next u l) ↔
      ∀ u l, Reaches next k u → c3 next n u = some l → l = lastVisits next n u := by
  constructor
  · intro hblocks
    have hless : ∀ m ≤ n, ∀ u l, Reaches next k u → c3 next m u = some l → l = lastVisits next m u := by
      intro m
      induction m with
      | zero => exact fun _ _ _ _ h => nomatch h
      | succ m ih =>
        intro hm u l hu h
        exact c3_succ_eq_lastVisits h (hblocks u l hu (c3_mono hm h)) fun v hv l' =>
          ih (Nat.le_of_succ_le hm) v l' (hu.tail hv)
    exact hless n (Nat.le_refl n)
  · intro hlast u l hu h
    cases n with
    | zero => cases h
    | succ n =>
      rw [hlast u l hu h]
      exact inBlocks_lastVisits (endsWithin_of_c3 h)

end ModelReach
