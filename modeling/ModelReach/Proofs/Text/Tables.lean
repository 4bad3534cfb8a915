import ModelReach.Text.Composition
import ModelReach.Text.Decomposition

/-! What the tables of characters hold. A search gives an entry of its table, and the entries are those that the
lines of the table spell; no image of the tables of the normal form is a full stop or a closing bracket. -/
namespace ModelReach.Text
set_option autoImplicit false

/-! ## Entries of tables -/

theorem found_of_searchBetween {α : Type} {entries : Array α} {probe : α → Ordering} {e : α} {fuel lo hi : Nat}
    (h : searchBetween entries probe fuel lo hi = some e) : e ∈ entries ∧ probe e = .eq := by
  induction fuel generalizing lo hi with
  | zero => cases h
  | succ fuel ih =>
    unfold searchBetween at h
    split at h
    · cases hm : entries[(lo + hi) / 2]? with
      | none =>
        simp only [hm] at h
        cases h
      | some entry =>
        simp only [hm] at h
        split at h
        · rename_i hprobe
          cases h
          exact ⟨Array.mem_of_getElem? hm, hprobe⟩
        · exact ih h
        · exact ih h
    · cases h

theorem RangeMap.found_of_find? {m : RangeMap} {c : Nat} {found : Nat × List Nat} (h : m.find? c = some found) :
    ∃ e ∈ m.entries, found = (e.1.1, e.2) ∧ e.1.1 ≤ c ∧ c ≤ e.1.2 := by
  obtain ⟨e, he, rfl⟩ := Option.map_eq_some_iff.mp h
  obtain ⟨hmem, hprobe⟩ := found_of_searchBetween he
  refine ⟨e, hmem, rfl, ?_⟩
  unfold compareRange at hprobe
  split at hprobe
  · cases hprobe
  · split at hprobe
    · cases hprobe
    · omega

theorem PairMap.mem_of_find? {m : PairMap} {a b c : Nat} (h : m.find? a b = some c) :
    ∃ e ∈ m.entries, c = e.2 := by
  obtain ⟨e, he, rfl⟩ := Option.map_eq_some_iff.mp h
  exact ⟨e, (found_of_searchBetween he).1, rfl⟩

/-- Lines of text and their characters. -/
inductive Spelled : List String → List (List Char) → Prop
  | nil : Spelled [] []
  | cons {cs : List Char} {lines : List String} {rest : List (List Char)} (h : Spelled lines rest) :
    Spelled (String.ofList cs :: lines) (cs :: rest)

theorem Spelled.hexWords_eq {lines : List String} {spelling : List (List Char)} (h : Spelled lines spelling) :
    hexWords lines = spelling.flatMap (cutAt ' ') := by
  induction h with
  | nil => rfl
  | cons _ ih =>
    rw [List.flatMap_cons, ← ih, hexWords, List.flatMap_cons, String.toList_ofList]
    rfl

theorem Spelled.forall_words {lines : List String} {spelling : List (List Char)} (h : Spelled lines spelling)
    {p : List Char → Bool} (hp : (spelling.all fun cs => (cutAt ' ' cs).all p) = true) :
    ∀ word ∈ hexWords lines, p word = true := by
  intro word hword
  rw [h.hexWords_eq] at hword
  obtain ⟨cs, hcs, hword⟩ := List.mem_flatMap.mp hword
  exact List.all_eq_true.mp (List.all_eq_true.mp hp cs hcs) word hword

theorem RangeMap.forall_mem_ofHex {lines : List String} {spelling : List (List Char)}
    {p : (Nat × Nat) × List Nat → Bool} (h : Spelled lines spelling)
    (hp : (spelling.all fun cs => (cutAt ' ' cs).all fun word => p (entryOfHex word)) = true) :
    ∀ e ∈ (RangeMap.ofHex lines).entries, p e = true := by
  intro e he
  obtain ⟨word, hword, rfl⟩ := List.mem_map.mp (List.mem_toArray.mp he)
  exact h.forall_words hp word hword

theorem PairMap.forall_mem_ofHex {lines : List String} {spelling : List (List Char)}
    {p : (Nat × Nat) × Nat → Bool} (h : Spelled lines spelling)
    (hp : (spelling.all fun cs => (cutAt ' ' cs).all fun word => p (entryOfHex word)) = true) :
    ∀ e ∈ (PairMap.ofHex lines).entries, p e = true := by
  intro e he
  obtain ⟨word, hword, rfl⟩ := List.mem_map.mp (List.mem_toArray.mp he)
  exact h.forall_words hp word hword

/-! ## Images without marks -/

/-- The code points of the full stop and of the closing bracket, which part names from what follows them. -/
def isMark (c : Nat) : Bool := c == '.'.toNat || c == ']'.toNat

/-- Does a run of code points, with so many after the first one, lie between the marks or beyond them? -/
def isUnmarkedRun (first more : Nat) : Bool :=
  '.'.toNat < first && (first + more < ']'.toNat || ']'.toNat < first)

/-- Has no code point of the range of an entry an image that is a mark? -/
def hasUnmarkedImages (e : (Nat × Nat) × List Nat) : Bool :=
  match e.2 with
  | [image] => isUnmarkedRun image (e.1.2 - e.1.1)
  | images => images.all (!isMark ·)

set_option maxRecDepth 4000 in
theorem unmarked_decompositionTable : ∀ e ∈ decompositionTable.entries, hasUnmarkedImages e = true := by
  unfold decompositionTable
  apply RangeMap.forall_mem_ofHex
  · -- the characters of each line, which the evaluation below would otherwise decode one by one
    dsimp only
    repeat' apply Spelled.cons
    exact Spelled.nil
  · decide +kernel

set_option maxRecDepth 4000 in
theorem unmarked_compositionTable : ∀ e ∈ compositionTable.entries, (!isMark e.2) = true := by
  unfold compositionTable
  apply PairMap.forall_mem_ofHex
  · dsimp only
    repeat' apply Spelled.cons
    exact Spelled.nil
  · decide +kernel

end ModelReach.Text
