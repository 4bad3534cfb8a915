import ModelReach.Text.Utf8

/-! UTF-8 is read as it is written. Bytes are read without a fault just if some text of scalar values is written as these
bytes, and then they are read as that text. The ranges of second bytes leave out what no text is written as: overlong
forms, surrogates and numbers above the last code point. -/
namespace ModelReach.Text
set_option autoImplicit false

/-! ## Scalar values -/

/-- A code point that stands for a character: no surrogate, and not above the last one. -/
def IsScalar (c : Nat) : Prop := c < 0xD800 ∨ 0xDFFF < c ∧ c < 0x110000

instance (c : Nat) : Decidable (IsScalar c) := inferInstanceAs (Decidable (_ ∨ _))

theorem toNat_charOf {c : Nat} (h : IsScalar c) : (charOf c).toNat = c := by
  have hvalid : c.isValidChar := h
  rw [charOf, if_pos hvalid, Char.ofNat, dif_pos hvalid]
  rfl

theorem isScalar_ofString (s : String) : ∀ c ∈ ofString s, IsScalar c := by
  intro c hc
  obtain ⟨d, -, rfl⟩ := List.mem_map.mp hc
  exact d.valid

theorem toString_ofString (s : String) : (ofString s).toString = s := by
  rw [ofString, ofChars, toString, toChars, List.map_map]
  refine (congrArg String.ofList ?_).trans String.ofList_toList
  refine (List.map_congr_left fun d _ => ?_).trans (List.map_id s.toList)
  exact Char.toNat_inj.mp (toNat_charOf d.valid)

theorem ofString_toString {t : Text} (h : ∀ c ∈ t, IsScalar c) : ofString t.toString = t := by
  rw [ofString, ofChars, toString, String.toList_ofList, toChars, List.map_map]
  exact (List.map_congr_left fun c hc => toNat_charOf (h c hc)).trans (List.map_id t)

variable {b c n : Nat} {range : Nat × Nat} {rest tail bytes : List Nat}

theorem inRange_iff {lo hi : Nat} : inRange lo hi b = true ↔ lo ≤ b ∧ b ≤ hi := by
  rw [inRange, Bool.and_eq_true, decide_eq_true_iff, decide_eq_true_iff]

/-! ## Forms of several bytes -/

theorem encodeOne_one (h : c < 0x80) : encodeOne c = [c] := if_pos h

theorem encodeOne_two (h : 0x80 ≤ c) (h' : c < 0x800) : encodeOne c = [0xC0 + c / 64, 0x80 + c % 64] := by
  rw [encodeOne, if_neg (by omega), if_pos h']

theorem encodeOne_three (h : 0x800 ≤ c) (h' : c < 0x10000) :
    encodeOne c = [0xE0 + c / 4096, 0x80 + c / 64 % 64, 0x80 + c % 64] := by
  rw [encodeOne, if_neg (by omega), if_neg (by omega), if_pos h']

theorem encodeOne_four (h : 0x10000 ≤ c) :
    encodeOne c = [0xF0 + c / 262144, 0x80 + c / 4096 % 64, 0x80 + c / 64 % 64, 0x80 + c % 64] := by
  rw [encodeOne, if_neg (by omega), if_neg (by omega), if_neg (by omega)]

/-- The first byte of a character, the range of the second one, and how many follow. -/
inductive Leads : Nat → Nat × Nat → Nat → Prop
  | two {b : Nat} (h : 0xC2 ≤ b) (h' : b ≤ 0xDF) : Leads b (0x80, 0xBF) 1
  | three {b : Nat} (h : 0xE1 ≤ b) (h' : b ≤ 0xEF) (hne : b ≠ 0xED) : Leads b (0x80, 0xBF) 2
  | noOverlong : Leads 0xE0 (0xA0, 0xBF) 2
  | noSurrogate : Leads 0xED (0x80, 0x9F) 2
  | four {b : Nat} (h : 0xF1 ≤ b) (h' : b ≤ 0xF3) : Leads b (0x80, 0xBF) 3
  | noOverlonger : Leads 0xF0 (0x90, 0xBF) 3
  | noneAbove : Leads 0xF4 (0x80, 0x8F) 3

theorem leadByte?_eq_some : leadByte? b = some (range, n) ↔ Leads b range n := by
  constructor
  · intro h
    unfold leadByte? at h
    simp only [inRange_iff] at h
    split at h
    · cases h
      exact Leads.two (by omega) (by omega)
    split at h
    · cases h
      subst b
      exact Leads.noOverlong
    split at h
    · cases h
      subst b
      exact Leads.noSurrogate
    split at h
    · cases h
      exact Leads.three (by omega) (by omega) (by omega)
    split at h
    · cases h
      subst b
      exact Leads.noOverlonger
    split at h
    · cases h
      subst b
      exact Leads.noneAbove
    split at h
    · cases h
      exact Leads.four (by omega) (by omega)
    · cases h
  · intro h
    unfold leadByte?
    simp only [inRange_iff]
    cases h with
    | two h h' => rw [if_pos ⟨h, h'⟩]
    | three h h' hne =>
      rw [if_neg (by omega), if_neg (by omega), if_neg hne, if_pos ⟨h, h'⟩]
    | noOverlong => rfl
    | noSurrogate => rfl
    | four h h' =>
      rw [if_neg (by omega), if_neg (by omega), if_neg (by omega), if_neg (by omega), if_neg (by omega),
        if_neg (by omega), if_pos ⟨h, h'⟩]
    | noOverlonger => rfl
    | noneAbove => rfl

/-- The first two bytes of a character of two bytes. -/
theorem leads_two_iff {x : Nat} : (∃ range, Leads b range 1 ∧ range.1 ≤ x ∧ x ≤ range.2) ↔
    0xC2 ≤ b ∧ b ≤ 0xDF ∧ 0x80 ≤ x ∧ x ≤ 0xBF := by
  constructor
  · rintro ⟨range, hl, hx⟩
    cases hl with
    | two h h' => exact ⟨h, h', hx⟩
  · rintro ⟨h, h', hx⟩
    exact ⟨_, Leads.two h h', hx⟩

/-- The first two bytes of a character of three bytes. -/
theorem leads_three_iff {x : Nat} : (∃ range, Leads b range 2 ∧ range.1 ≤ x ∧ x ≤ range.2) ↔
    0xE0 ≤ b ∧ b ≤ 0xEF ∧ 0x80 ≤ x ∧ x ≤ 0xBF ∧ (b = 0xE0 → 0xA0 ≤ x) ∧ (b = 0xED → x ≤ 0x9F) := by
  constructor
  · rintro ⟨range, hl, hx⟩
    cases hl with
    | three h h' hne => dsimp only at hx; omega
    | noOverlong => dsimp only at hx; omega
    | noSurrogate => dsimp only at hx; omega
  · rintro ⟨h, h', hx⟩
    by_cases ho : b = 0xE0
    · rw [ho]
      exact ⟨_, Leads.noOverlong, hx.2.2.1 ho, hx.2.1⟩
    by_cases hs : b = 0xED
    · rw [hs]
      exact ⟨_, Leads.noSurrogate, hx.1, hx.2.2.2 hs⟩
    · exact ⟨_, Leads.three (by omega) h' hs, hx.1, hx.2.1⟩

/-- The first two bytes of a character of four bytes. -/
theorem leads_four_iff {x : Nat} : (∃ range, Leads b range 3 ∧ range.1 ≤ x ∧ x ≤ range.2) ↔
    0xF0 ≤ b ∧ b ≤ 0xF4 ∧ 0x80 ≤ x ∧ x ≤ 0xBF ∧ (b = 0xF0 → 0x90 ≤ x) ∧ (b = 0xF4 → x ≤ 0x8F) := by
  constructor
  · rintro ⟨range, hl, hx⟩
    cases hl with
    | four h h' => dsimp only at hx; omega
    | noOverlonger => dsimp only at hx; omega
    | noneAbove => dsimp only at hx; omega
  · rintro ⟨h, h', hx⟩
    by_cases ho : b = 0xF0
    · rw [ho]
      exact ⟨_, Leads.noOverlonger, hx.2.2.1 ho, hx.2.1⟩
    by_cases ha : b = 0xF4
    · rw [ha]
      exact ⟨_, Leads.noneAbove, hx.1, hx.2.2.2 ha⟩
    · exact ⟨_, Leads.four (by omega) (by omega), hx.1, hx.2.1⟩

/-! ## Bytes after the first -/

theorem continuation_cons {x : Nat} (hlo : range.1 ≤ x) (hhi : x ≤ range.2) (n : Nat) (rest : List Nat) :
    continuation range (n + 1) (x :: rest) = x :: continuation (0x80, 0xBF) n rest := by
  rw [continuation, if_pos (inRange_iff.mpr ⟨hlo, hhi⟩)]

/-- A continuation of full length is a byte in the range, and then one in the general range. -/
theorem exists_continuation (h : (continuation range (n + 1) bytes).length = n + 1) : ∃ x rest, bytes = x :: rest ∧
    range.1 ≤ x ∧ x ≤ range.2 ∧ (continuation (0x80, 0xBF) n rest).length = n := by
  cases bytes with
  | nil => cases h
  | cons x rest =>
    by_cases hx : inRange range.1 range.2 x = true
    · obtain ⟨hlo, hhi⟩ := inRange_iff.mp hx
      rw [continuation_cons hlo hhi] at h
      exact ⟨x, rest, rfl, hlo, hhi, Nat.succ.inj h⟩
    · rw [continuation, if_neg hx] at h
      cases h

/-! ## One character -/

/-- What the reader takes for a character of several bytes is one. -/
theorem encodeOne_combine (hl : Leads b range n) (hn : (continuation range n rest).length = n) :
    IsScalar (combine b (continuation range n rest)) ∧
      encodeOne (combine b (continuation range n rest)) = b :: continuation range n rest ∧
      rest = continuation range n rest ++ rest.drop n := by
  have hthree : n = 1 ∨ n = 2 ∨ n = 3 := by cases hl <;> decide
  rcases hthree with rfl | rfl | rfl
  · obtain ⟨x, rest, rfl, hlo, hhi, -⟩ := exists_continuation hn
    have hbytes := leads_two_iff.mp ⟨range, hl, hlo, hhi⟩
    rw [continuation_cons hlo hhi, continuation]
    have hc : combine b [x] = b % 32 * 64 + x % 64 := rfl
    rw [hc]
    refine ⟨Or.inl (by omega), ?_, rfl⟩
    rw [encodeOne_two (by omega) (by omega)]
    simp only [List.cons.injEq, and_true]
    omega
  · obtain ⟨x, rest, rfl, hlo, hhi, hn⟩ := exists_continuation hn
    obtain ⟨y, rest, rfl, hylo, hyhi, -⟩ := exists_continuation hn
    have hbytes := leads_three_iff.mp ⟨range, hl, hlo, hhi⟩
    rw [continuation_cons hlo hhi, continuation_cons hylo hyhi, continuation]
    dsimp only at hylo hyhi
    have hc : combine b [x, y] = (b % 16 * 64 + x % 64) * 64 + y % 64 := rfl
    rw [hc]
    refine ⟨?_, ?_, rfl⟩
    · unfold IsScalar
      omega
    · rw [encodeOne_three (by omega) (by omega)]
      simp only [List.cons.injEq, and_true]
      omega
  · obtain ⟨x, rest, rfl, hlo, hhi, hn⟩ := exists_continuation hn
    obtain ⟨y, rest, rfl, hylo, hyhi, hn⟩ := exists_continuation hn
    obtain ⟨z, rest, rfl, hzlo, hzhi, -⟩ := exists_continuation hn
    have hbytes := leads_four_iff.mp ⟨range, hl, hlo, hhi⟩
    rw [continuation_cons hlo hhi, continuation_cons hylo hyhi, continuation_cons hzlo hzhi, continuation]
    dsimp only at hylo hyhi hzlo hzhi
    have hc : combine b [x, y, z] = ((b % 8 * 64 + x % 64) * 64 + y % 64) * 64 + z % 64 := rfl
    rw [hc]
    refine ⟨Or.inr (by omega), ?_, rfl⟩
    rw [encodeOne_four (by omega)]
    simp only [List.cons.injEq, and_true]
    omega

/-- The bytes of a character of several bytes are taken for it, whatever comes after them. -/
theorem exists_leads (hc : IsScalar c) (h : 0x80 ≤ c) : ∃ b range tail, encodeOne c = b :: tail ∧
    Leads b range tail.length ∧ combine b tail = c ∧ ∀ rest, continuation range tail.length (tail ++ rest) = tail := by
  unfold IsScalar at hc
  by_cases htwo : c < 0x800
  · obtain ⟨range, hl, hlo, hhi⟩ := leads_two_iff (b := 0xC0 + c / 64) (x := 0x80 + c % 64) |>.mpr (by omega)
    refine ⟨_, range, _, encodeOne_two h htwo, hl, ?_, fun rest => ?_⟩
    · change (0xC0 + c / 64) % 32 * 64 + (0x80 + c % 64) % 64 = c
      omega
    · rw [List.length_singleton, List.singleton_append, continuation_cons hlo hhi, continuation]
  by_cases hthree : c < 0x10000
  · obtain ⟨range, hl, hlo, hhi⟩ := leads_three_iff (b := 0xE0 + c / 4096) (x := 0x80 + c / 64 % 64) |>.mpr (by omega)
    refine ⟨_, range, _, encodeOne_three (by omega) hthree, hl, ?_, fun rest => ?_⟩
    · change ((0xE0 + c / 4096) % 16 * 64 + (0x80 + c / 64 % 64) % 64) * 64 + (0x80 + c % 64) % 64 = c
      omega
    · have hy : 0x80 ≤ 0x80 + c % 64 ∧ 0x80 + c % 64 ≤ 0xBF := by omega
      change continuation range 2 (_ :: _ :: rest) = _
      rw [continuation_cons hlo hhi, continuation_cons hy.1 hy.2, continuation]
  · obtain ⟨range, hl, hlo, hhi⟩ := leads_four_iff (b := 0xF0 + c / 262144) (x := 0x80 + c / 4096 % 64) |>.mpr (by omega)
    refine ⟨_, range, _, encodeOne_four (by omega), hl, ?_, fun rest => ?_⟩
    · change (((0xF0 + c / 262144) % 8 * 64 + (0x80 + c / 4096 % 64) % 64) * 64 + (0x80 + c / 64 % 64) % 64) * 64 +
        (0x80 + c % 64) % 64 = c
      omega
    · have hy : 0x80 ≤ 0x80 + c / 64 % 64 ∧ 0x80 + c / 64 % 64 ≤ 0xBF := by omega
      have hz : 0x80 ≤ 0x80 + c % 64 ∧ 0x80 + c % 64 ≤ 0xBF := by omega
      change continuation range 3 (_ :: _ :: _ :: rest) = _
      rw [continuation_cons hlo hhi, continuation_cons hy.1 hy.2, continuation_cons hz.1 hz.2, continuation]

/-! ## Texts -/

variable {fuel position : Nat} {text : Text}

theorem toUtf8_cons (c : Nat) (text : Text) : toUtf8 (c :: text) = encodeOne c ++ toUtf8 text := List.flatMap_cons

theorem toUtf8_ascii (h : ∀ c ∈ text, c < 0x80) : toUtf8 text = text := by
  induction text with
  | nil => rfl
  | cons c text ih =>
    obtain ⟨hc, htext⟩ := List.forall_mem_cons.mp h
    rw [toUtf8_cons, encodeOne_one hc, ih htext]
    rfl

theorem decodeFrom_nil : decodeFrom fuel position [] = .ok [] := by
  cases fuel <;> rfl

theorem decodeFrom_ascii (h : b < 0x80) : decodeFrom (fuel + 1) position (b :: rest) =
    (decodeFrom fuel (position + 1) rest).map (b :: ·) := by
  rw [decodeFrom, if_pos h]

theorem decodeFrom_several (hb : 0x80 ≤ b) (hl : Leads b range n) (hn : (continuation range n rest).length = n) :
    decodeFrom (fuel + 1) position (b :: rest) =
      (decodeFrom fuel (position + 1 + n) (rest.drop n)).map (combine b (continuation range n rest) :: ·) := by
  rw [decodeFrom, if_neg (by omega), leadByte?_eq_some.mpr hl]
  exact if_pos hn

theorem Leads.le (h : Leads b range n) : 0x80 ≤ b := by
  cases h <;> omega

theorem map_ok {x : Except Utf8Fault Text} (h : x.map (c :: ·) = .ok text) : ∃ t, x = .ok t ∧ c :: t = text := by
  cases x with
  | ok t => exact ⟨t, rfl, Except.ok.inj h⟩
  | error fault => cases h

/-- What a text is written as is read as the text. -/
theorem decodeFrom_toUtf8 (hs : ∀ c ∈ text, IsScalar c) (hf : (toUtf8 text).length ≤ fuel) :
    decodeFrom fuel position (toUtf8 text) = .ok text := by
  induction text generalizing fuel position with
  | nil => exact decodeFrom_nil
  | cons c text ih =>
    obtain ⟨hc, hrest⟩ := List.forall_mem_cons.mp hs
    rw [toUtf8_cons] at hf ⊢
    by_cases hone : c < 0x80
    · rw [encodeOne_one hone, List.singleton_append] at hf ⊢
      rw [List.length_cons] at hf
      obtain ⟨fuel, rfl⟩ := Nat.exists_eq_add_of_le' (show 1 ≤ fuel by omega)
      rw [decodeFrom_ascii hone, ih hrest (by omega)]
      rfl
    · obtain ⟨b, range, tail, hbytes, hl, hcombine, hcontinuation⟩ := exists_leads hc (by omega)
      rw [hbytes, List.cons_append] at hf ⊢
      rw [List.length_cons, List.length_append] at hf
      obtain ⟨fuel, rfl⟩ := Nat.exists_eq_add_of_le' (show 1 ≤ fuel by omega)
      rw [decodeFrom_several hl.le hl (by rw [hcontinuation]), hcontinuation, hcombine, List.drop_left,
        ih hrest (by omega)]
      rfl

/-- What is read as a text is what the text is written as. -/
theorem of_decodeFrom (h : decodeFrom fuel position bytes = .ok text) (hf : bytes.length ≤ fuel) :
    (∀ c ∈ text, IsScalar c) ∧ toUtf8 text = bytes := by
  induction fuel generalizing position bytes text with
  | zero =>
    rw [List.length_eq_zero_iff.mp (Nat.le_zero.mp hf)] at h ⊢
    rw [decodeFrom] at h
    cases h
    exact ⟨fun c hc => absurd hc List.not_mem_nil, rfl⟩
  | succ fuel ih =>
    cases bytes with
    | nil =>
      rw [decodeFrom_nil] at h
      cases h
      exact ⟨fun c hc => absurd hc List.not_mem_nil, rfl⟩
    | cons b rest =>
      rw [List.length_cons] at hf
      by_cases hone : b < 0x80
      · rw [decodeFrom_ascii hone] at h
        obtain ⟨text, hrest, rfl⟩ := map_ok h
        obtain ⟨hs, rfl⟩ := ih hrest (by omega)
        rw [toUtf8_cons, encodeOne_one hone]
        exact ⟨List.forall_mem_cons.mpr ⟨Or.inl (by omega), hs⟩, rfl⟩
      · cases hlead : leadByte? b with
        | none =>
          rw [decodeFrom, if_neg hone, hlead] at h
          cases h
        | some lead =>
          obtain ⟨range, n⟩ := lead
          have hl := leadByte?_eq_some.mp hlead
          by_cases hn : (continuation range n rest).length = n
          · rw [decodeFrom_several hl.le hl hn] at h
            obtain ⟨text, hrest, rfl⟩ := map_ok h
            obtain ⟨hscalar, hspells, hsplit⟩ := encodeOne_combine hl hn
            obtain ⟨hs, hbytes⟩ := ih hrest (by rw [List.length_drop]; omega)
            rw [toUtf8_cons, hspells, hbytes, List.cons_append, ← hsplit]
            exact ⟨List.forall_mem_cons.mpr ⟨hscalar, hs⟩, rfl⟩
          · rw [decodeFrom, if_neg hone, hlead] at h
            change (if (continuation range n rest).length = n then _ else _ : Except Utf8Fault Text) = _ at h
            rw [if_neg hn] at h
            split at h <;> cases h

/-- Bytes are read as a text just if the text has scalar values only and is written as these bytes. -/
theorem ofUtf8_eq_ok : ofUtf8 bytes = .ok text ↔ (∀ c ∈ text, IsScalar c) ∧ toUtf8 text = bytes := by
  constructor
  · exact fun h => of_decodeFrom h (Nat.le_refl _)
  · rintro ⟨hs, rfl⟩
    exact decodeFrom_toUtf8 hs (Nat.le_refl _)

example : ofUtf8 [0xED, 0xA0, 0x80] = .error ⟨0, [0xED], .invalidContinuation⟩ := rfl

/-- There is a fault in bytes just if no text of scalar values is written as them. -/
theorem exists_ofUtf8_error : (∃ fault, ofUtf8 bytes = .error fault) ↔
    ∀ text : Text, (∀ c ∈ text, IsScalar c) → toUtf8 text ≠ bytes := by
  constructor
  · rintro ⟨fault, h⟩ text hs ht
    rw [ofUtf8_eq_ok.mpr ⟨hs, ht⟩] at h
    cases h
  · intro h
    cases hread : ofUtf8 bytes with
    | ok text =>
      obtain ⟨hs, ht⟩ := ofUtf8_eq_ok.mp hread
      exact absurd ht (h text hs)
    | error fault => exact ⟨fault, rfl⟩

end ModelReach.Text
