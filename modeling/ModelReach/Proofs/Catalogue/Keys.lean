import ModelReach.Proofs.Catalogue.Agreement
import ModelReach.Proofs.Text.Pieces
import ModelReach.Text.IdentifierChar

/-! Keys that can be read back. If the names in references are dotted identifiers, and none of a generic type is the
word that begins the key of an array, then the key tells the reference. -/
namespace ModelReach
set_option autoImplicit false

/-! ## Dotted identifiers -/

/-- Is a name made of identifiers joined by points? -/
def Dotted.isWellFormed (name : String) : Bool :=
  (Text.piecesOf '.' name).all fun part => Text.isIdentifier part.toList

/-- The characters of keys that part names: brackets and commas. -/
def isSeparator (c : Char) : Bool := c = '[' || c = ']' || c = ','

theorem isSeparator_of_isIdentifier {word : List Char} (h : Text.isIdentifier word = true) :
    ∀ c ∈ word, isSeparator c = false := by
  have hseparator {c : Char} (hc : isSeparator c = true) : c = '[' ∨ c = ']' ∨ c = ',' := by
    simpa [isSeparator, or_assoc] using hc
  cases word with
  | nil => exact fun c hc => absurd hc List.not_mem_nil
  | cons first more =>
    obtain ⟨hfirst, hmore⟩ := Bool.and_eq_true_iff.mp h
    intro c hc
    rw [Bool.eq_false_iff]
    intro hs
    rcases List.mem_cons.mp hc with rfl | hc
    · rcases hseparator hs with rfl | rfl | rfl <;> exact absurd hfirst (by decide)
    · have hc := List.all_eq_true.mp hmore c hc
      rcases hseparator hs with rfl | rfl | rfl <;> exact absurd hc (by decide)

theorem mem_intercalate {sep : List Char} {parts : List (List Char)} {c : Char} (h : c ∈ sep.intercalate parts) :
    c ∈ sep ∨ ∃ part ∈ parts, c ∈ part := by
  induction parts with
  | nil => exact absurd h List.not_mem_nil
  | cons part parts ih =>
    cases parts with
    | nil =>
      rw [List.intercalate_singleton] at h
      exact Or.inr ⟨part, List.mem_singleton_self part, h⟩
    | cons next parts =>
      rw [List.intercalate_cons_cons, List.mem_append, List.mem_append] at h
      rcases h with (h | h) | h
      · exact Or.inr ⟨part, List.mem_cons_self .., h⟩
      · exact Or.inl h
      · rcases ih h with h | ⟨part', hpart', h⟩
        · exact Or.inl h
        · exact Or.inr ⟨part', List.mem_cons_of_mem part hpart', h⟩

/-- A dotted identifier is not empty and holds no separator. -/
theorem Dotted.plain_of_isWellFormed {name : String} (h : isWellFormed name = true) :
    name.toList ≠ [] ∧ ∀ c ∈ name.toList, isSeparator c = false := by
  have hparts : ∀ part ∈ Text.piecesOf '.' name, Text.isIdentifier part.toList = true := List.all_eq_true.mp h
  constructor
  · intro hnil
    have hname : name = "" := String.toList_eq_nil_iff.mp hnil
    rw [hname] at h
    exact absurd h (by decide)
  · intro c hc
    rw [← Text.intercalate_piecesOf '.' name, String.toList_intercalate] at hc
    rcases mem_intercalate hc with hc | ⟨part, hpart, hc⟩
    · rw [String.toList_singleton, List.mem_singleton] at hc
      rw [hc]
      decide
    · obtain ⟨word, hword, rfl⟩ := List.mem_map.mp hpart
      exact isSeparator_of_isIdentifier (hparts word hword) c hc

namespace TypeRef

/-! ## Well-formed references -/

mutual

/-- Are all names in a reference dotted identifiers, those of its generic types other than `list` and `set`? -/
def isWellFormed : TypeRef → Bool
  | .named name => Dotted.isWellFormed name
  | .array element _ => element.isWellFormed
  | .generic origin args =>
    Dotted.isWellFormed origin && origin != "list" && origin != "set" && areWellFormed args

def areWellFormed : List TypeRef → Bool
  | [] => true
  | r :: rest => r.isWellFormed && areWellFormed rest

end

theorem isWellFormed_generic {origin : String} {args : List TypeRef} :
    (TypeRef.generic origin args).isWellFormed = true ↔ Dotted.isWellFormed origin = true ∧ origin ≠ "list" ∧
      origin ≠ "set" ∧ areWellFormed args = true := by
  rw [isWellFormed, Bool.and_eq_true, Bool.and_eq_true, Bool.and_eq_true, bne_iff_ne, bne_iff_ne,
    and_assoc, and_assoc]

/-! ## Reading a key -/

/-- The name with which a key begins. -/
def firstName : TypeRef → String
  | .named name => name
  | .array _ unique => if unique then "set" else "list"
  | .generic origin _ => origin

/-- What stands in the brackets that follow the first name of a key. -/
def inside : TypeRef → List Char
  | .named _ => []
  | .array element _ => '[' :: (element.key.toList ++ [']'])
  | .generic _ args => '[' :: ((", ".intercalate (keys args)).toList ++ [']'])

theorem toList_key (r : TypeRef) : r.key.toList = r.firstName.toList ++ r.inside := by
  cases r with
  | named name => exact (List.append_nil _).symm
  | array element unique =>
    rw [key, String.toList_append, String.toList_append]
    cases unique <;> simp [firstName, inside]
  | generic origin args =>
    rw [key, String.toList_append, String.toList_append, String.toList_append, List.append_assoc, List.append_assoc]
    rfl

theorem plain_firstName {r : TypeRef} (h : r.isWellFormed = true) :
    r.firstName.toList ≠ [] ∧ ∀ c ∈ r.firstName.toList, isSeparator c = false := by
  cases r with
  | named name => exact Dotted.plain_of_isWellFormed h
  | array element unique => cases unique <;> simp [firstName, isSeparator]
  | generic origin args => exact Dotted.plain_of_isWellFormed (isWellFormed_generic.mp h).1

/-- A text is empty or begins with a character of some kind. -/
def Begins (p : Char → Bool) : List Char → Prop
  | [] => True
  | c :: _ => p c = true

theorem takeWhile_append_begins {name rest : List Char} (hname : ∀ c ∈ name, isSeparator c = false)
    (hrest : Begins isSeparator rest) : (name ++ rest).takeWhile (!isSeparator ·) = name := by
  rw [List.takeWhile_append_of_pos fun c hc => by rw [hname c hc]; rfl]
  cases rest with
  | nil => exact List.append_nil name
  | cons c rest =>
    rw [List.takeWhile_cons_of_neg (by rw [show isSeparator c = true from hrest]; decide), List.append_nil]

/-- A name without separators ends where a separator begins. -/
theorem append_inj_of_begins {a b x y : List Char} (ha : ∀ c ∈ a, isSeparator c = false)
    (hb : ∀ c ∈ b, isSeparator c = false) (hx : Begins isSeparator x) (hy : Begins isSeparator y)
    (h : a ++ x = b ++ y) : a = b ∧ x = y := by
  have hab : a = b := by rw [← takeWhile_append_begins ha hx, h, takeWhile_append_begins hb hy]
  subst hab
  exact ⟨rfl, List.append_cancel_left h⟩

theorem begins_inside_append (r : TypeRef) {rest : List Char} (h : Begins isSeparator rest) :
    Begins isSeparator (r.inside ++ rest) := by
  cases r with
  | named name => exact h
  | array element unique => rfl
  | generic origin args => rfl

/-- What separates one argument from the next, and the further arguments. -/
def further : List TypeRef → List Char
  | [] => []
  | r :: rest => ',' :: ' ' :: (", ".intercalate (keys (r :: rest))).toList

theorem toList_intercalate_keys (r : TypeRef) (rest : List TypeRef) :
    (", ".intercalate (keys (r :: rest))).toList = r.key.toList ++ further rest := by
  cases rest with
  | nil =>
    have hone : ", ".intercalate (keys [r]) = r.key := String.intercalate_singleton
    rw [hone, further, List.append_nil]
  | cons next rest =>
    rw [keys, keys, String.intercalate_cons_cons, String.toList_append, String.toList_append, List.append_assoc]
    rfl

/-- A comma or a closing bracket: what may follow a key inside another one. -/
def isEnd (c : Char) : Bool := c = ',' || c = ']'

theorem Begins.imp {p q : Char → Bool} (hpq : ∀ c, p c = true → q c = true) {rest : List Char}
    (h : Begins p rest) : Begins q rest := by
  cases rest with
  | nil => trivial
  | cons c rest => exact hpq c h

theorem begins_bracket (rest : List Char) : Begins isEnd (']' :: rest) := rfl

theorem begins_further (rest : List TypeRef) (after : List Char) : Begins isEnd (further rest ++ ']' :: after) := by
  cases rest with
  | nil => rfl
  | cons r rest => rfl

theorem Begins.separator {rest : List Char} (h : Begins isEnd rest) : Begins isSeparator rest := by
  refine h.imp fun c hc => ?_
  simp only [isEnd, Bool.or_eq_true, decide_eq_true_eq] at hc
  rcases hc with rfl | rfl <;> rfl

/-- What follows a whole key is no opening bracket. -/
theorem Begins.ne_bracket {rest more : List Char} (h : Begins isEnd rest) : '[' :: more ≠ rest := by
  rintro rfl
  have hfalse : isEnd '[' = false := rfl
  exact absurd (show isEnd '[' = true from h) (by rw [hfalse]; decide)

/-- Keys that begin equal texts have equal first names, and what follows these is equal. -/
theorem firstName_inj {r r' : TypeRef} {rest rest' : List Char} (hr : r.isWellFormed = true)
    (hr' : r'.isWellFormed = true) (hrest : Begins isEnd rest) (hrest' : Begins isEnd rest')
    (h : r.key.toList ++ rest = r'.key.toList ++ rest') :
    r.firstName = r'.firstName ∧ r.inside ++ rest = r'.inside ++ rest' := by
  rw [toList_key, toList_key, List.append_assoc, List.append_assoc] at h
  obtain ⟨hname, hinside⟩ := append_inj_of_begins (plain_firstName hr).2 (plain_firstName hr').2
    (begins_inside_append r hrest.separator) (begins_inside_append r' hrest'.separator) h
  exact ⟨String.toList_inj.mp hname, hinside⟩

/-- No key begins with a closing bracket. -/
theorem key_append_ne_bracket {r : TypeRef} (hr : r.isWellFormed = true) (more rest : List Char) :
    ']' :: rest ≠ r.key.toList ++ more := by
  intro h
  obtain ⟨hne, hplain⟩ := plain_firstName hr
  obtain ⟨c, name, hname⟩ := List.exists_cons_of_ne_nil hne
  rw [toList_key, hname, List.cons_append, List.cons_append] at h
  have hseparator := hplain c (hname ▸ List.mem_cons_self ..)
  rw [← (List.cons.inj h).1] at hseparator
  cases hseparator

theorem array_firstName_ne {unique : Bool} {origin : String} (hlist : origin ≠ "list") (hset : origin ≠ "set") :
    (if unique then "set" else "list") ≠ origin := by
  cases unique
  · exact Ne.symm hlist
  · exact Ne.symm hset

theorem firstName_array_inj {unique unique' : Bool}
    (h : (if unique then "set" else "list") = if unique' then "set" else "list") : unique = unique' := by
  cases unique <;> cases unique' <;> first | rfl | exact absurd h (by decide)

mutual

/-- A key that ends before a comma or a closing bracket can be read off the text that it begins. -/
theorem key_append_inj : ∀ (r r' : TypeRef) {rest rest' : List Char}, r.isWellFormed = true →
    r'.isWellFormed = true → Begins isEnd rest → Begins isEnd rest' →
      r.key.toList ++ rest = r'.key.toList ++ rest' → r = r' ∧ rest = rest'
  | .named name, r', rest, rest', hr, hr', hrest, hrest', h => by
    obtain ⟨hname, hinside⟩ := firstName_inj hr hr' hrest hrest' h
    cases r' with
    | named name' => exact ⟨congrArg TypeRef.named hname, hinside⟩
    | array element unique => exact absurd hinside.symm hrest.ne_bracket
    | generic origin args => exact absurd hinside.symm hrest.ne_bracket
  | .array element unique, r', rest, rest', hr, hr', hrest, hrest', h => by
    obtain ⟨hname, hinside⟩ := firstName_inj hr hr' hrest hrest' h
    cases r' with
    | named name => exact absurd hinside hrest'.ne_bracket
    | array element' unique' =>
      rw [inside, inside, List.cons_append, List.cons_append, List.append_assoc, List.append_assoc] at hinside
      obtain ⟨rfl, hafter⟩ := key_append_inj element element' hr hr' (begins_bracket rest)
        (begins_bracket rest') (List.cons.inj hinside).2
      rw [firstName_array_inj hname]
      exact ⟨rfl, (List.cons.inj hafter).2⟩
    | generic origin args =>
      obtain ⟨_, hlist, hset, _⟩ := isWellFormed_generic.mp hr'
      exact absurd hname (array_firstName_ne hlist hset)
  | .generic origin args, r', rest, rest', hr, hr', hrest, hrest', h => by
    obtain ⟨hname, hinside⟩ := firstName_inj hr hr' hrest hrest' h
    obtain ⟨_, hlist, hset, hargs⟩ := isWellFormed_generic.mp hr
    cases r' with
    | named name => exact absurd hinside hrest'.ne_bracket
    | array element unique => exact absurd hname.symm (array_firstName_ne hlist hset)
    | generic origin' args' =>
      obtain ⟨_, _, _, hargs'⟩ := isWellFormed_generic.mp hr'
      rw [inside, inside, List.cons_append, List.cons_append, List.append_assoc, List.append_assoc] at hinside
      obtain ⟨rfl, hafter⟩ := keys_append_inj args args' hargs hargs' (List.cons.inj hinside).2
      rw [show origin = origin' from hname]
      exact ⟨rfl, hafter⟩

/-- And so can keys that commas separate and a closing bracket ends. -/
theorem keys_append_inj : ∀ (refs refs' : List TypeRef) {rest rest' : List Char}, areWellFormed refs = true →
    areWellFormed refs' = true →
      (", ".intercalate (keys refs)).toList ++ ']' :: rest = (", ".intercalate (keys refs')).toList ++ ']' :: rest' →
        refs = refs' ∧ rest = rest'
  | [], refs', rest, rest', _, hrefs', h => by
    cases refs' with
    | nil => exact ⟨rfl, (List.cons.inj h).2⟩
    | cons r' refs' =>
      rw [toList_intercalate_keys, List.append_assoc] at h
      exact absurd h (key_append_ne_bracket (Bool.and_eq_true_iff.mp hrefs').1 _ _)
  | r :: refs, refs', rest, rest', hrefs, hrefs', h => by
    obtain ⟨hr, hmore⟩ := Bool.and_eq_true_iff.mp hrefs
    cases refs' with
    | nil =>
      rw [toList_intercalate_keys, List.append_assoc] at h
      exact absurd h.symm (key_append_ne_bracket hr _ _)
    | cons r' refs' =>
      obtain ⟨hr', hmore'⟩ := Bool.and_eq_true_iff.mp hrefs'
      rw [toList_intercalate_keys, toList_intercalate_keys, List.append_assoc, List.append_assoc] at h
      obtain ⟨rfl, hafter⟩ := key_append_inj r r' hr hr' (begins_further refs rest) (begins_further refs' rest') h
      cases refs with
      | nil =>
        cases refs' with
        | nil => exact ⟨rfl, (List.cons.inj hafter).2⟩
        | cons next' refs' => exact absurd (List.cons.inj hafter).1 (by decide)
      | cons next refs =>
        cases refs' with
        | nil => exact absurd (List.cons.inj hafter).1 (by decide)
        | cons next' refs' =>
          obtain ⟨he, hrest⟩ := keys_append_inj (next :: refs) (next' :: refs') hmore hmore'
            (List.cons.inj (List.cons.inj hafter).2).2
          rw [he]
          exact ⟨rfl, hrest⟩

end

/-- The key of a well-formed reference tells the reference. -/
theorem keyed_isWellFormed : Catalogue.Keyed (·.isWellFormed = true) := by
  intro r r' hr hr' h
  have hchars : r.key.toList ++ [] = r'.key.toList ++ [] := by rw [h]
  have hend : Begins isEnd [] := trivial
  exact (key_append_inj r r' hr hr' hend hend hchars).1

/-! ## Parts -/

mutual

theorem isWellFormed_parts : ∀ r : TypeRef, r.isWellFormed = true → ∀ x ∈ r.parts, x.isWellFormed = true
  | .named name, h => by
    intro x hx
    rw [parts, List.mem_singleton] at hx
    rw [hx]
    exact h
  | .array element unique, h => by
    intro x hx
    rw [parts, List.mem_cons] at hx
    rcases hx with rfl | hx
    · exact h
    · exact isWellFormed_parts element h x hx
  | .generic origin args, h => by
    intro x hx
    rw [parts, List.mem_cons] at hx
    rcases hx with rfl | hx
    · exact h
    · exact isWellFormed_partsOf args (isWellFormed_generic.mp h).2.2.2 x hx

theorem isWellFormed_partsOf :
    ∀ refs : List TypeRef, areWellFormed refs = true → ∀ x ∈ partsOf refs, x.isWellFormed = true
  | [], _ => fun x hx => absurd hx List.not_mem_nil
  | r :: refs, h => by
    obtain ⟨hr, hrefs⟩ := Bool.and_eq_true_iff.mp h
    intro x hx
    rw [partsOf, List.mem_append] at hx
    rcases hx with hx | hx
    · exact isWellFormed_parts r hr x hx
    · exact isWellFormed_partsOf refs hrefs x hx

end

/-- The key of a type made of others ends with a bracket. -/
theorem getLast?_key_of_inside {r : TypeRef} (h : r.inside ≠ []) : r.key.toList.getLast? = some ']' := by
  rw [toList_key]
  cases r with
  | named name => exact absurd rfl h
  | array element unique =>
    rw [inside, ← List.cons_append, ← List.append_assoc, List.getLast?_concat]
  | generic origin args =>
    rw [inside, ← List.cons_append, ← List.append_assoc, List.getLast?_concat]

end TypeRef
end ModelReach
