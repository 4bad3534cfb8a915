import Mathlib.Data.List.TakeWhile
import ModelReach.Json.Reader

/-! What readers of JSON leave, and the one fault that is none of the form of the text. What is left stands at the end of
the text, so that an integer too long to be read is a run of digits of the document, and of more than the greatest number
of digits. -/
namespace ModelReach.Json
set_option autoImplicit false

/-! ## Runs of digits -/

/-- A run of digits of a text, more of them than an integer may have. -/
structure TooLong (cs : Text) (n : Nat) : Prop where
  long : Source.maxDecimalDigits < n
  run : ∃ ds : Text, ds <:+: cs ∧ ds.length = n ∧ ∀ c ∈ ds, isJsonDigit c = true

variable {α β : Type} {c n fuel : Nat} {cs rest : Text}

theorem TooLong.of_suffix (h : TooLong rest n) (hs : rest <:+ cs) : TooLong cs n := by
  obtain ⟨hn, ds, hds, hlength, hdigits⟩ := h
  exact ⟨hn, ds, hds.trans hs.isInfix, hlength, hdigits⟩

/-! ## Results of readers -/

/-- A reader that goes through a text from its start leaves an end of it, and a number is too long only by a run of digits
of the text. -/
def Consumes (cs : Text) : Except Fault (α × Text) → Prop
  | .ok (_, rest) => rest <:+ cs
  | .error (.integerTooLong n) => TooLong cs n
  | .error (.problem _ _) => True

namespace Consumes

theorem problemAt (kind : Problem) (rest : Text) : Consumes cs (Json.problemAt kind rest : Except Fault (α × Text)) :=
  True.intro

theorem of_suffix {x : Except Fault (α × Text)} (h : Consumes rest x) (hs : rest <:+ cs) : Consumes cs x := by
  match x, h with
  | .ok (_, _), h => exact h.trans hs
  | .error (.integerTooLong n), h => exact TooLong.of_suffix h hs
  | .error (.problem _ _), _ => exact True.intro

/-- One reader after another. -/
theorem bind {x : Except Fault (α × Text)} {f : α × Text → Except Fault (β × Text)} (hx : Consumes cs x)
    (hf : ∀ a rest, rest <:+ cs → Consumes rest (f (a, rest))) : Consumes cs (x >>= f) := by
  match x, hx with
  | .ok (a, rest), hx => exact (hf a rest hx).of_suffix hx
  | .error (.integerTooLong n), hx => exact hx
  | .error (.problem _ _), _ => exact True.intro

end Consumes

/-! ## Numbers -/

theorem suffix_readFraction (cs : Text) : (readFraction cs).2 <:+ cs := by
  unfold readFraction
  split
  · next rest =>
    split
    · exact (List.dropWhile_suffix _).trans (List.suffix_cons 46 rest)
    · exact List.suffix_rfl
  · exact List.suffix_rfl

theorem suffix_readExponent {e : Int} (h : readExponent cs = some (e, rest)) : rest <:+ cs := by
  unfold readExponent at h
  split at h
  · cases h
  next letter after =>
  split at h
  · split at h
    next negative ds hsign =>
    split at h
    · cases h
      have hds : ds <:+ after := by
        split at hsign
        · cases hsign
          exact List.suffix_cons 45 _
        · cases hsign
          exact List.suffix_cons 43 _
        · cases hsign
          exact List.suffix_rfl
      exact ((List.dropWhile_suffix _).trans hds).trans (List.suffix_cons letter after)
    · cases h
  · cases h

/-- The digits of a number before its point are a run of digits at its start. -/
theorem whole_digits (cs whole : Text)
    (h : (if cs.head? = some 48 then [48] else cs.takeWhile isJsonDigit) = whole) :
    whole <+: cs ∧ ∀ c ∈ whole, isJsonDigit c = true := by
  split at h
  · next hzero =>
    obtain ⟨rest, rfl⟩ := List.head?_eq_some_iff.mp hzero
    cases h
    exact ⟨List.prefix_append [48] rest, fun c hc => by rw [List.mem_singleton.mp hc]; rfl⟩
  · cases h
    exact ⟨List.takeWhile_prefix _, fun c hc => List.mem_takeWhile_imp hc⟩

theorem consumes_readUnsigned (negative : Bool) (cs : Text) : Consumes cs (readUnsigned negative cs) := by
  unfold readUnsigned
  extract_lets whole
  obtain ⟨hstarts, hdigits⟩ := whole_digits cs whole rfl
  have hafter : (readFraction (cs.drop whole.length)).2 <:+ cs :=
    (suffix_readFraction _).trans (List.drop_suffix _ _)
  generalize readFraction (cs.drop whole.length) = read at hafter ⊢
  dsimp only
  split
  · next e rest he => exact (suffix_readExponent he).trans hafter
  split
  · exact hafter
  split
  · next hlong => exact ⟨hlong, whole, hstarts.isInfix, rfl, hdigits⟩
  · exact hafter

theorem consumes_readNumber (cs : Text) : Consumes cs (readNumber cs) := by
  unfold readNumber
  split
  next negative digits hsign =>
  split
  · refine (consumes_readUnsigned negative digits).of_suffix ?_
    split at hsign
    · cases hsign
      exact List.suffix_cons 45 _
    · cases hsign
      exact List.suffix_rfl
  · exact Consumes.problemAt _ _

/-! ## Strings and names -/

theorem consumes_readUnicode (ds : Text) : Consumes ds (readUnicode ds) := by
  unfold readUnicode
  extract_lets fault rest
  split
  · exact True.intro
  split
  · exact True.intro
  extract_lets single
  have hrest : rest <:+ ds := List.drop_suffix _ _
  clear_value rest
  split
  · split
    · next more _ =>
      split
      · exact True.intro
      split
      · have hdrop : more.drop 4 <:+ 92 :: 117 :: more :=
          ((List.drop_suffix 4 more).trans (List.suffix_cons 117 more)).trans (List.suffix_cons 92 _)
        exact hdrop.trans hrest
      · exact hrest
    · exact hrest
  · exact hrest

theorem consumes_readString (opening : Text) (fuel : Nat) (cs : Text) : Consumes cs (readString opening fuel cs) := by
  induction fuel generalizing cs with
  | zero =>
    rw [readString]
    exact Consumes.problemAt _ _
  | succ fuel ih =>
    have hmore : ∀ (c : Nat) (rest : Text),
        Consumes rest (readString opening fuel rest >>= fun read => pure (c :: read.1, read.2)) :=
      fun c rest => (ih rest).bind fun t more _ => List.suffix_rfl
    cases cs with
    | nil => exact Consumes.problemAt .unterminatedString opening
    | cons c rest =>
      rw [readString.eq_def]
      dsimp only
      split
      · exact List.suffix_cons c rest
      split
      · cases rest with
        | nil => exact Consumes.problemAt _ _
        | cons e more =>
          have hs : more <:+ c :: e :: more := (List.suffix_cons e more).trans (List.suffix_cons c _)
          dsimp only
          split
          · exact ((consumes_readUnicode more).bind fun n rest _ => hmore n rest).of_suffix hs
          split
          · exact Consumes.problemAt _ _
          · next n _ => exact (hmore n more).of_suffix hs
      split
      · exact Consumes.problemAt _ _
      · exact (hmore c rest).of_suffix (List.suffix_cons c rest)

theorem suffix_namedValue? {v : Json} (h : namedValue? cs = some (v, rest)) : rest <:+ cs := by
  obtain ⟨found, -, hv⟩ := Option.map_eq_some_iff.mp h
  cases hv
  exact List.drop_suffix _ _

/-! ## Values -/

theorem suffix_skipBlanks (cs : Text) : skipBlanks cs <:+ cs := List.dropWhile_suffix _

/-- A character after blanks is taken. -/
theorem suffix_of_skipBlanks {after : Text} (h : skipBlanks cs = c :: after) : after <:+ cs :=
  (List.suffix_cons c after).trans (h ▸ suffix_skipBlanks cs)

section Step
variable (hvalue : ∀ cs, Consumes cs (readValue fuel cs))
include hvalue

theorem consumes_readItems (hitems : ∀ done cs, Consumes cs (readItems fuel done cs)) (done : List Json) (cs : Text) :
    Consumes cs (readItems (fuel + 1) done cs) := by
  rw [readItems]
  refine (hvalue cs).bind fun v rest _ => ?_
  dsimp only
  split
  · next rest hrest => exact suffix_of_skipBlanks hrest
  · next after hrest =>
    exact (hitems _ _).of_suffix ((suffix_skipBlanks after).trans (suffix_of_skipBlanks hrest))
  · exact Consumes.problemAt _ _

theorem consumes_readFields (hfields : ∀ done cs, Consumes cs (readFields fuel done cs)) (done : List (Text × Json))
    (cs : Text) : Consumes cs (readFields (fuel + 1) done cs) := by
  rw [readFields.eq_def]
  dsimp only
  split
  · next rest =>
    refine Consumes.of_suffix ?_ (List.suffix_cons 34 rest)
    refine (consumes_readString _ _ rest).bind fun name rest _ => ?_
    dsimp only
    split
    · next colon hcolon =>
      refine Consumes.of_suffix ?_ ((suffix_skipBlanks colon).trans (suffix_of_skipBlanks hcolon))
      refine (hvalue _).bind fun v rest _ => ?_
      dsimp only
      split
      · next after hafter => exact suffix_of_skipBlanks hafter
      · next after hafter =>
        exact (hfields _ _).of_suffix ((suffix_skipBlanks after).trans (suffix_of_skipBlanks hafter))
      · exact Consumes.problemAt _ _
    · exact Consumes.problemAt _ _
  · exact Consumes.problemAt _ _

end Step

theorem consumes_readValue (hitems : ∀ done cs, Consumes cs (readItems fuel done cs))
    (hfields : ∀ done cs, Consumes cs (readFields fuel done cs)) (cs : Text) :
    Consumes cs (readValue (fuel + 1) cs) := by
  cases cs with
  | nil =>
    rw [readValue]
    · exact Consumes.problemAt _ _
    · exact nofun
  | cons c rest =>
    rw [readValue]
    have htail : rest <:+ c :: rest := List.suffix_cons c rest
    split
    · refine Consumes.of_suffix ?_ htail
      exact (consumes_readString _ _ rest).bind fun t rest _ => List.suffix_rfl
    split
    · refine Consumes.of_suffix ?_ htail
      split
      · next after hafter => exact suffix_of_skipBlanks hafter
      · refine Consumes.of_suffix ?_ (suffix_skipBlanks rest)
        exact (hfields _ _).bind fun fields rest _ => List.suffix_rfl
    split
    · refine Consumes.of_suffix ?_ htail
      split
      · next after hafter => exact suffix_of_skipBlanks hafter
      · refine Consumes.of_suffix ?_ (suffix_skipBlanks rest)
        exact (hitems _ _).bind fun items rest _ => List.suffix_rfl
    split
    · next found hfound => exact suffix_namedValue? hfound
    · exact consumes_readNumber _

/-- The three readers of values go through a text from its start, whatever the number of rounds. -/
theorem consumes_readers (fuel : Nat) : (∀ cs, Consumes cs (readValue fuel cs)) ∧
    (∀ done cs, Consumes cs (readItems fuel done cs)) ∧ ∀ done cs, Consumes cs (readFields fuel done cs) := by
  induction fuel with
  | zero =>
    refine ⟨fun cs => ?_, fun done cs => ?_, fun done cs => ?_⟩
    · rw [readValue]
      exact Consumes.problemAt _ _
    · rw [readItems]
      exact Consumes.problemAt _ _
    · rw [readFields]
      exact Consumes.problemAt _ _
  | succ fuel ih =>
    obtain ⟨hvalue, hitems, hfields⟩ := ih
    exact ⟨consumes_readValue hitems hfields, consumes_readItems hvalue hitems, consumes_readFields hvalue hfields⟩

/-- Only a run of more digits than an integer may have is an integer too long. -/
theorem tooLong_of_ofText {document : Text} (h : ofText document = .error (.integerTooLong n)) :
    TooLong document n := by
  unfold ofText at h
  split at h
  · cases h
  have hvalue := (consumes_readers (2 * document.length + 1)).1 (skipBlanks document)
  cases hread : readValue (2 * document.length + 1) (skipBlanks document) with
  | error fault =>
    rw [hread] at h hvalue
    cases h
    exact TooLong.of_suffix hvalue (suffix_skipBlanks document)
  | ok read =>
    rw [hread] at h
    dsimp only [Bind.bind, Except.bind] at h
    split at h <;> cases h

/-! ## Runs that are too long -/

/-- No value with a name begins with a digit. -/
theorem namedValue?_digit (hc : isJsonDigit c = true) (rest : Text) : namedValue? (c :: rest) = none := by
  have hnames : ∀ v ∈ namedValues, (Text.ofString v.1).head?.any (fun d => !isJsonDigit d) = true := by decide
  have hnone : namedValues.find? (fun v => (Text.ofString v.1).isPrefixOf (c :: rest)) = none := by
    refine List.find?_eq_none.mpr fun v hv hstarts => ?_
    have hhead := hnames v hv
    cases hname : Text.ofString v.1 with
    | nil =>
      rw [hname] at hhead
      cases hhead
    | cons d name =>
      rw [hname] at hhead hstarts
      obtain ⟨hd, -⟩ := List.cons_prefix_cons.mp (List.isPrefixOf_iff_prefix.mp hstarts)
      rw [List.head?_cons, Option.any_some, hd, hc] at hhead
      cases hhead
  rw [namedValue?, hnone]
  rfl

theorem readValue_digit (hc : isJsonDigit c = true) (rest : Text) :
    readValue (fuel + 1) (c :: rest) = readNumber (c :: rest) := by
  have hrange : 48 ≤ c ∧ c ≤ 57 := by simpa [isJsonDigit] using hc
  rw [readValue, if_neg (by omega), if_neg (by omega), if_neg (by omega), namedValue?_digit hc]

theorem readNumber_digit (hc : isJsonDigit c = true) (rest : Text) :
    readNumber (c :: rest) = readUnsigned false (c :: rest) := by
  have hrange : 48 ≤ c ∧ c ≤ 57 := by simpa [isJsonDigit] using hc
  unfold readNumber
  split
  next negative digits hsign =>
  split at hsign
  · next _ h =>
    have hminus : c = 45 := (List.cons.inj h).1
    omega
  · cases hsign
    exact if_pos hc

/-- A run of digits that does not begin with zero is an integer too long, if there are more of them than it may have. -/
theorem ofText_digits {ds : Text} (hlong : Source.maxDecimalDigits < ds.length) (hzero : ds.head? ≠ some 48)
    (hdigits : ∀ c ∈ ds, isJsonDigit c = true) : ofText ds = .error (.integerTooLong ds.length) := by
  have hwhole : ds.takeWhile isJsonDigit = ds := List.takeWhile_eq_self_iff.mpr hdigits
  cases ds with
  | nil => cases hlong
  | cons c rest =>
    have hc := hdigits c List.mem_cons_self
    have hrange : 48 ≤ c ∧ c ≤ 57 := by simpa [isJsonDigit] using hc
    have hblanks : skipBlanks (c :: rest) = c :: rest := by
      refine List.dropWhile_cons_of_neg fun hblank => ?_
      simp only [isJsonBlank, Bool.or_eq_true, beq_iff_eq] at hblank
      omega
    have hread : readUnsigned false (c :: rest) = .error (.integerTooLong (c :: rest).length) := by
      unfold readUnsigned
      rw [if_neg hzero, hwhole]
      extract_lets whole
      rw [List.drop_length]
      exact if_pos hlong
    rw [ofText, if_neg (by rw [List.head?_cons]; intro h; cases h; omega), hblanks, readValue_digit hc,
      readNumber_digit hc, hread]
    rfl

end ModelReach.Json
