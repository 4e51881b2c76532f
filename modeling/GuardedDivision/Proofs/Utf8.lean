import GuardedDivision.Text.Utf8

namespace GuardedDivision.Utf8

theorem toNat_toUInt8 {m : Nat} (h : m < 0x100) : m.toUInt8.toNat = m :=
  UInt8.toNat_ofNat_of_lt' h

theorem isTail_iff {b : UInt8} : isTail b = true ↔ 0x80 ≤ b.toNat ∧ b.toNat ≤ 0xBF := by
  simp [isTail, UInt8.le_iff_toNat_le]

theorem isSecondOfThree_iff {a b : UInt8} : isSecondOfThree a b = true ↔ isTail b = true ∧
    (a.toNat ≠ 0xE0 ∨ 0xA0 ≤ b.toNat) ∧ (a.toNat ≠ 0xED ∨ b.toNat ≤ 0x9F) := by
  simp [isSecondOfThree, UInt8.le_iff_toNat_le, ← UInt8.toNat_inj, and_assoc]

theorem isSecondOfFour_iff {a b : UInt8} : isSecondOfFour a b = true ↔ isTail b = true ∧
    (a.toNat ≠ 0xF0 ∨ 0x90 ≤ b.toNat) ∧ (a.toNat ≠ 0xF4 ∨ b.toNat ≤ 0x8F) := by
  simp [isSecondOfFour, UInt8.le_iff_toNat_le, ← UInt8.toNat_inj, and_assoc]

theorem decode?_one {a : UInt8} (ha : a.toNat < 0x80) (rest : Bytes) :
    decode? (a :: rest) = (decode? rest).map (Char.ofNat a.toNat :: ·) := by
  have h : a < 0x80 := UInt8.lt_iff_toNat_lt.mpr ha
  rw [decode?.eq_def (a :: rest)]
  exact if_pos h

theorem not_lt_of_le {a : UInt8} {n : Nat} (hn : 0x80 ≤ n) (ha : n ≤ a.toNat) : ¬a < 0x80 := by
  rw [UInt8.lt_iff_toNat_lt]
  exact Nat.not_lt.mpr (Nat.le_trans hn ha)

theorem between_iff {a low high : UInt8} :
    (low ≤ a && a ≤ high) = true ↔ low.toNat ≤ a.toNat ∧ a.toNat ≤ high.toNat := by
  simp only [Bool.and_eq_true, decide_eq_true_eq, UInt8.le_iff_toNat_le]

theorem not_between_of_lt {a low high : UInt8} (h : high.toNat < a.toNat) :
    ¬(low ≤ a && a ≤ high) = true := fun hbetween =>
  Nat.not_le.mpr h (between_iff.mp hbetween).2

theorem decode?_two {a b : UInt8} (hlow : 0xC2 ≤ a.toNat) (hhigh : a.toNat ≤ 0xDF)
    (hb : isTail b = true) (rest : Bytes) : decode? (a :: b :: rest) =
      (decode? rest).map (Char.ofNat (a.toNat % 0x20 * 0x40 + tailBits b) :: ·) := by
  have hlead : (0xC2 ≤ a && a ≤ 0xDF) = true := between_iff.mpr ⟨hlow, hhigh⟩
  rw [decode?, if_neg (not_lt_of_le (by decide) hlow), if_pos hlead]
  simp only [if_pos hb]

theorem decode?_three {a b c : UInt8} (hlow : 0xE0 ≤ a.toNat) (hhigh : a.toNat ≤ 0xEF)
    (hb : isSecondOfThree a b = true) (hc : isTail c = true) (rest : Bytes) :
    decode? (a :: b :: c :: rest) = (decode? rest).map
      (Char.ofNat (a.toNat % 0x10 * 0x1000 + tailBits b * 0x40 + tailBits c) :: ·) := by
  have htwo : ¬(0xC2 ≤ a && a ≤ 0xDF) = true :=
    not_between_of_lt (Nat.lt_of_lt_of_le (by decide) hlow)
  have hlead : (0xE0 ≤ a && a ≤ 0xEF) = true := between_iff.mpr ⟨hlow, hhigh⟩
  rw [decode?, if_neg (not_lt_of_le (by decide) hlow), if_neg htwo, if_pos hlead]
  simp only [hb, hc, Bool.and_self, ↓reduceIte]

theorem decode?_four {a b c d : UInt8} (hlow : 0xF0 ≤ a.toNat) (hhigh : a.toNat ≤ 0xF4)
    (hb : isSecondOfFour a b = true) (hc : isTail c = true) (hd : isTail d = true)
    (rest : Bytes) :
    decode? (a :: b :: c :: d :: rest) = (decode? rest).map
      (Char.ofNat (a.toNat % 0x08 * 0x40000 + tailBits b * 0x1000 + tailBits c * 0x40
        + tailBits d) :: ·) := by
  have htwo : ¬(0xC2 ≤ a && a ≤ 0xDF) = true :=
    not_between_of_lt (Nat.lt_of_lt_of_le (by decide) hlow)
  have hthree : ¬(0xE0 ≤ a && a ≤ 0xEF) = true :=
    not_between_of_lt (Nat.lt_of_lt_of_le (by decide) hlow)
  have hlead : (0xF0 ≤ a && a ≤ 0xF4) = true := between_iff.mpr ⟨hlow, hhigh⟩
  rw [decode?, if_neg (not_lt_of_le (by decide) hlow), if_neg htwo, if_neg hthree, if_pos hlead]
  simp only [hb, hc, hd, Bool.and_self, ↓reduceIte]

theorem tailBits_tail (m : Nat) : tailBits (0x80 + m % 0x40).toUInt8 = m % 0x40 := by
  rw [tailBits, toNat_toUInt8 (by omega)]
  omega

theorem isTail_tail (m : Nat) : isTail (0x80 + m % 0x40).toUInt8 = true := by
  rw [isTail_iff, toNat_toUInt8 (by omega)]
  omega

theorem toNat_valid (c : Char) : c.toNat < 0xD800 ∨ 0xDFFF < c.toNat ∧ c.toNat < 0x110000 := c.valid

theorem decode?_encodeChar_append (c : Char) (rest : Bytes) :
    decode? (encodeChar c ++ rest) = (decode? rest).map (c :: ·) := by
  have hvalid := toNat_valid c
  have hc : Char.ofNat c.toNat = c := Char.ofNat_toNat c
  unfold encodeChar
  generalize c.toNat = n at hvalid hc
  dsimp only
  split
  · next h =>
    have hn : n.toUInt8.toNat = n := toNat_toUInt8 (by omega)
    rw [List.singleton_append, decode?_one (by omega), hn, hc]
  · split
    · next h =>
      have ha : (0xC0 + n / 0x40).toUInt8.toNat = 0xC0 + n / 0x40 := toNat_toUInt8 (by omega)
      have he : (0xC0 + n / 0x40) % 0x20 * 0x40 + n % 0x40 = n := by omega
      rw [List.cons_append, List.singleton_append,
        decode?_two (by omega) (by omega) (isTail_tail n), ha, tailBits_tail, he, hc]
    · split
      · next h =>
        have ha : (0xE0 + n / 0x1000).toUInt8.toNat = 0xE0 + n / 0x1000 :=
          toNat_toUInt8 (by omega)
        have he : (0xE0 + n / 0x1000) % 0x10 * 0x1000 + n / 0x40 % 0x40 * 0x40 + n % 0x40 = n := by
          omega
        have hb : isSecondOfThree (0xE0 + n / 0x1000).toUInt8 (0x80 + n / 0x40 % 0x40).toUInt8 =
            true := by
          rw [isSecondOfThree_iff, ha, toNat_toUInt8 (by omega)]
          exact ⟨isTail_tail _, by omega, by omega⟩
        rw [List.cons_append, List.cons_append, List.singleton_append,
          decode?_three (by omega) (by omega) hb (isTail_tail n), ha, tailBits_tail,
          tailBits_tail, he, hc]
      · have ha : (0xF0 + n / 0x40000).toUInt8.toNat = 0xF0 + n / 0x40000 :=
          toNat_toUInt8 (by omega)
        have he : (0xF0 + n / 0x40000) % 0x08 * 0x40000 + n / 0x1000 % 0x40 * 0x1000 +
            n / 0x40 % 0x40 * 0x40 + n % 0x40 = n := by
          omega
        have hb : isSecondOfFour (0xF0 + n / 0x40000).toUInt8
            (0x80 + n / 0x1000 % 0x40).toUInt8 = true := by
          rw [isSecondOfFour_iff, ha, toNat_toUInt8 (by omega)]
          exact ⟨isTail_tail _, by omega, by omega⟩
        rw [List.cons_append, List.cons_append, List.cons_append, List.singleton_append,
          decode?_four (by omega) (by omega) hb (isTail_tail _) (isTail_tail n), ha, tailBits_tail,
          tailBits_tail, tailBits_tail, he, hc]

theorem decode?_encode (text : List Char) : decode? (encode text) = some text := by
  induction text with
  | nil => rfl
  | cons c text ih =>
    rw [encode, List.flatMap_cons, decode?_encodeChar_append, ← encode, ih]
    rfl

theorem encode_ne_nil {text : List Char} (h : text ≠ []) : encode text ≠ [] := by
  intro he
  have hdecode := decode?_encode text
  rw [he, decode?] at hdecode
  exact h (Option.some.inj hdecode).symm

theorem toNat_ofNat {n : Nat} (h : n < 0xD800 ∨ 0xDFFF < n ∧ n < 0x110000) :
    (Char.ofNat n).toNat = n := by
  rw [Char.ofNat, dif_pos h]
  rfl

theorem toUInt8_eq {n : Nat} (b : UInt8) (h : n = b.toNat) : n.toUInt8 = b := by
  rw [h]
  exact UInt8.ofNat_toNat

theorem toNat_eq_tailBits {b : UInt8} (h : isTail b = true) : 0x80 + tailBits b = b.toNat := by
  rw [isTail_iff] at h
  rw [tailBits]
  omega

theorem tailBits_lt (b : UInt8) : tailBits b < 0x40 := Nat.mod_lt _ (by decide)

theorem encodeChar_one {a : UInt8} (ha : a.toNat < 0x80) :
    encodeChar (Char.ofNat a.toNat) = [a] := by
  rw [encodeChar, toNat_ofNat (by omega)]
  simp only [if_pos ha, toUInt8_eq a rfl]

theorem encodeChar_two {a b : UInt8} (hlow : 0xC2 ≤ a.toNat) (hhigh : a.toNat ≤ 0xDF)
    (hb : isTail b = true) :
    encodeChar (Char.ofNat (a.toNat % 0x20 * 0x40 + tailBits b)) = [a, b] := by
  have hb := toNat_eq_tailBits hb
  have hlt := tailBits_lt b
  generalize hn : a.toNat % 0x20 * 0x40 + tailBits b = n
  rw [encodeChar, toNat_ofNat (by omega)]
  simp only [if_neg (show ¬n < 0x80 by omega), if_pos (show n < 0x800 by omega)]
  rw [toUInt8_eq a (by omega), toUInt8_eq b (by omega)]

theorem encodeChar_three {a b c : UInt8} (hlow : 0xE0 ≤ a.toNat) (hhigh : a.toNat ≤ 0xEF)
    (hb : isSecondOfThree a b = true) (hc : isTail c = true) :
    encodeChar (Char.ofNat (a.toNat % 0x10 * 0x1000 + tailBits b * 0x40 + tailBits c)) =
      [a, b, c] := by
  obtain ⟨hb, hshort, hsurrogate⟩ := isSecondOfThree_iff.mp hb
  have hb := toNat_eq_tailBits hb
  have hc := toNat_eq_tailBits hc
  have hltb := tailBits_lt b
  have hltc := tailBits_lt c
  generalize hn : a.toNat % 0x10 * 0x1000 + tailBits b * 0x40 + tailBits c = n
  rw [encodeChar, toNat_ofNat (by omega)]
  simp only [if_neg (show ¬n < 0x80 by omega), if_neg (show ¬n < 0x800 by omega),
    if_pos (show n < 0x10000 by omega)]
  rw [toUInt8_eq a (by omega), toUInt8_eq b (by omega), toUInt8_eq c (by omega)]

theorem encodeChar_four {a b c d : UInt8} (hlow : 0xF0 ≤ a.toNat) (hhigh : a.toNat ≤ 0xF4)
    (hb : isSecondOfFour a b = true) (hc : isTail c = true) (hd : isTail d = true) :
    encodeChar (Char.ofNat (a.toNat % 0x08 * 0x40000 + tailBits b * 0x1000 + tailBits c * 0x40
      + tailBits d)) = [a, b, c, d] := by
  obtain ⟨hb, hshort, hgreat⟩ := isSecondOfFour_iff.mp hb
  have hb := toNat_eq_tailBits hb
  have hc := toNat_eq_tailBits hc
  have hd := toNat_eq_tailBits hd
  have hltb := tailBits_lt b
  have hltc := tailBits_lt c
  have hltd := tailBits_lt d
  generalize hn : a.toNat % 0x08 * 0x40000 + tailBits b * 0x1000 + tailBits c * 0x40
    + tailBits d = n
  rw [encodeChar, toNat_ofNat (by omega)]
  simp only [if_neg (show ¬n < 0x80 by omega), if_neg (show ¬n < 0x800 by omega),
    if_neg (show ¬n < 0x10000 by omega)]
  rw [toUInt8_eq a (by omega), toUInt8_eq b (by omega), toUInt8_eq c (by omega),
    toUInt8_eq d (by omega)]

theorem encode_cons (c : Char) (text : List Char) :
    encode (c :: text) = encodeChar c ++ encode text := List.flatMap_cons

theorem encode_append (first second : List Char) :
    encode (first ++ second) = encode first ++ encode second := List.flatMap_append

theorem encode_concat_newline (text : List Char) :
    encode (text ++ ['\n']) = encode text ++ [0x0A] := encode_append text ['\n']

theorem encode_of_decode? {bytes : Bytes} {text : List Char} (h : decode? bytes = some text) :
    encode text = bytes := by
  fun_induction decode? bytes generalizing text with
  | case1 =>
    obtain rfl := Option.some.inj h
    rfl
  | case2 a rest ha ih =>
    obtain ⟨later, hlater, rfl⟩ := Option.map_eq_some_iff.mp h
    rw [encode_cons, encodeChar_one (UInt8.lt_iff_toNat_lt.mp ha), ih hlater]
    rfl
  | case3 a _ ha b rest hb ih =>
    obtain ⟨later, hlater, rfl⟩ := Option.map_eq_some_iff.mp h
    obtain ⟨hlow, hhigh⟩ := between_iff.mp ha
    rw [encode_cons, encodeChar_two hlow hhigh hb, ih hlater]
    rfl
  | case6 a _ _ ha b c rest hbc ih =>
    obtain ⟨later, hlater, rfl⟩ := Option.map_eq_some_iff.mp h
    obtain ⟨hlow, hhigh⟩ := between_iff.mp ha
    obtain ⟨hb, hc⟩ := Bool.and_eq_true_iff.mp hbc
    rw [encode_cons, encodeChar_three hlow hhigh hb hc, ih hlater]
    rfl
  | case9 a _ _ _ ha b c d rest hbcd ih =>
    obtain ⟨later, hlater, rfl⟩ := Option.map_eq_some_iff.mp h
    obtain ⟨hlow, hhigh⟩ := between_iff.mp ha
    obtain ⟨hbc, hd⟩ := Bool.and_eq_true_iff.mp hbcd
    obtain ⟨hb, hc⟩ := Bool.and_eq_true_iff.mp hbc
    rw [encode_cons, encodeChar_four hlow hhigh hb hc hd, ih hlater]
    rfl
  | case4 | case5 | case7 | case8 | case10 | case11 | case12 => contradiction

theorem decode?_eq_some_iff {bytes : Bytes} {text : List Char} :
    decode? bytes = some text ↔ bytes = encode text := by
  constructor
  · exact fun h => (encode_of_decode? h).symm
  · rintro rfl
    exact decode?_encode text

theorem encode_inj {first second : List Char} (h : encode first = encode second) :
    first = second := by
  have hdecode := decode?_encode first
  rw [h, decode?_encode] at hdecode
  exact (Option.some.inj hdecode).symm

theorem encodeChar_eq_utf8EncodeChar (c : Char) : encodeChar c = String.utf8EncodeChar c := by
  have hvalid := toNat_valid c
  have hc : c.val.toNat = c.toNat := rfl
  unfold encodeChar String.utf8EncodeChar
  rw [hc]
  generalize c.toNat = n at hvalid
  simp only [Nat.toUInt8_eq]
  grind

theorem le_toNat_of_mem_encodeChar {c : Char} (hc : 0x80 ≤ c.toNat) {b : UInt8}
    (hb : b ∈ encodeChar c) : 0x80 ≤ b.toNat := by
  have hvalid := toNat_valid c
  unfold encodeChar at hb
  generalize c.toNat = n at hc hb hvalid
  simp only [if_neg (Nat.not_lt.mpr hc)] at hb
  split at hb
  · simp only [List.mem_cons, List.not_mem_nil, or_false] at hb
    obtain rfl | rfl := hb <;> rw [toNat_toUInt8] <;> omega
  · split at hb
    · simp only [List.mem_cons, List.not_mem_nil, or_false] at hb
      obtain rfl | rfl | rfl := hb <;> rw [toNat_toUInt8] <;> omega
    · simp only [List.mem_cons, List.not_mem_nil, or_false] at hb
      obtain rfl | rfl | rfl | rfl := hb <;> rw [toNat_toUInt8] <;> omega

theorem eq_of_mem_encodeChar {b : UInt8} (hb : b.toNat < 0x80) {c : Char} (h : b ∈ encodeChar c) :
    c = Char.ofNat b.toNat := by
  by_cases hc : c.toNat < 0x80
  · have hone : encodeChar c = [c.toNat.toUInt8] := if_pos hc
    rw [hone, List.mem_singleton] at h
    rw [h, toNat_toUInt8 (by omega), Char.ofNat_toNat]
  · exact absurd (le_toNat_of_mem_encodeChar (Nat.not_lt.mp hc) h) (Nat.not_le.mpr hb)

theorem not_mem_encode {b : UInt8} (hb : b.toNat < 0x80) {text : List Char}
    (h : Char.ofNat b.toNat ∉ text) : b ∉ encode text := by
  intro hm
  obtain ⟨c, hc, hmem⟩ := List.mem_flatMap.mp hm
  exact h (eq_of_mem_encodeChar hb hmem ▸ hc)

theorem newline_not_mem_encode {text : List Char} (h : '\n' ∉ text) :
    (0x0A : UInt8) ∉ encode text := not_mem_encode (by decide) h

end GuardedDivision.Utf8
