import GuardedDivision.Text.Numeral

namespace GuardedDivision.Numeral

structure IsDigits (text : List Char) : Prop where
  ne_nil : text ≠ []
  isDigit : ∀ c ∈ text, c.isDigit = true

theorem ne_of_class {p : Char → Bool} {c d : Char} (hc : p c = true) (hd : p d = false) :
    c ≠ d := by
  rintro rfl
  rw [hc] at hd
  contradiction

theorem IsDigits.exists_cons {text : List Char} (h : IsDigits text) :
    ∃ c rest, text = c :: rest ∧ c.isDigit = true := by
  obtain ⟨c, rest, rfl⟩ := List.exists_cons_of_ne_nil h.ne_nil
  exact ⟨c, rest, rfl, h.isDigit c (by simp)⟩

theorem isDigits_ofNat (n : Nat) : IsDigits (ofNat n) where
  ne_nil := Nat.toDigits_ne_nil
  isDigit _ hc := Nat.isDigit_of_mem_toDigits (by decide) (by decide) hc

theorem scan_eq_ofDigitChars (digits : List Char) :
    scan 10 digitValue digits = Nat.ofDigitChars 10 digits 0 := rfl

theorem value_ofNat (n : Nat) : value (ofNat n) = n := by
  rw [value, valueIn_eq_scan, scan_eq_ofDigitChars, ofNat, Nat.ofDigitChars_ten_toDigits]

theorem nat?_eq_some {text : List Char} (h : IsDigits text) : nat? text = some (value text) := by
  have hall : text.all Char.isDigit = true := List.all_eq_true.mpr h.isDigit
  rw [nat?, if_pos ⟨h.ne_nil, hall⟩]

theorem nat?_eq_some_iff {text : List Char} {n : Nat} :
    nat? text = some n ↔ IsDigits text ∧ n = value text := by
  constructor
  · intro h
    unfold nat? at h
    split at h
    · next hd =>
      refine ⟨⟨hd.1, List.all_eq_true.mp hd.2⟩, ?_⟩
      simpa [eq_comm] using h
    · contradiction
  · rintro ⟨h, rfl⟩
    exact nat?_eq_some h

theorem int?_digits {digits : List Char} (h : IsDigits digits) :
    int? digits = some (value digits : Int) := by
  obtain ⟨c, rest, rfl, hc⟩ := h.exists_cons
  have hplus : c ≠ '+' := ne_of_class hc rfl
  have hminus : c ≠ '-' := ne_of_class hc rfl
  unfold int?
  split
  · simp_all
  · simp_all
  · rw [nat?_eq_some h]
    rfl

/-- The texts of a whole number: a row of digits, which may start with zeros, after at most one
sign. -/
inductive Denotes : List Char → Int → Prop
  | unsigned {digits : List Char} : IsDigits digits → Denotes digits (Nat.ofDigitChars 10 digits 0)
  | positive {digits : List Char} :
    IsDigits digits → Denotes ('+' :: digits) (Nat.ofDigitChars 10 digits 0)
  | negative {digits : List Char} :
    IsDigits digits → Denotes ('-' :: digits) (-(Nat.ofDigitChars 10 digits 0 : Int))

theorem value_eq_ofDigitChars (digits : List Char) : value digits = Nat.ofDigitChars 10 digits 0 :=
  valueIn_eq_scan 10 digitValue digits

theorem int?_eq_some_iff {text : List Char} {n : Int} : int? text = some n ↔ Denotes text n := by
  constructor
  · intro h
    unfold int? at h
    split at h
    all_goals
      obtain ⟨m, hm, rfl⟩ := Option.map_eq_some_iff.mp h
      obtain ⟨hd, rfl⟩ := nat?_eq_some_iff.mp hm
      rw [value_eq_ofDigitChars]
    · exact .positive hd
    · exact .negative hd
    · exact .unsigned hd
  · intro h
    cases h with
    | unsigned hd => rw [int?_digits hd, value_eq_ofDigitChars]
    | positive hd =>
      rw [int?, nat?_eq_some hd, value_eq_ofDigitChars]
      rfl
    | negative hd =>
      rw [int?, nat?_eq_some hd, value_eq_ofDigitChars]
      rfl

theorem int?_ofInt (n : Int) : int? (ofInt n) = some n := by
  cases n with
  | ofNat n =>
    rw [ofInt, int?_digits (isDigits_ofNat n), value_ofNat]
    rfl
  | negSucc n =>
    rw [ofInt, int?, nat?_eq_some (isDigits_ofNat _), value_ofNat]
    rfl

theorem int?_eq_some {text : List Char} {n : Int} (h : int? text = some n) :
    ∃ negative digits, IsDigits digits ∧
      n = (if negative then -(value digits : Int) else value digits) ∧
      (text = (if negative then '-' else '+') :: digits ∨ negative = false ∧ text = digits) := by
  unfold int? at h
  split at h
  · next digits =>
    obtain ⟨m, hm, rfl⟩ := Option.map_eq_some_iff.mp h
    obtain ⟨hd, rfl⟩ := nat?_eq_some_iff.mp hm
    exact ⟨false, digits, hd, rfl, .inl rfl⟩
  · next digits =>
    obtain ⟨m, hm, rfl⟩ := Option.map_eq_some_iff.mp h
    obtain ⟨hd, rfl⟩ := nat?_eq_some_iff.mp hm
    exact ⟨true, digits, hd, rfl, .inl rfl⟩
  · obtain ⟨m, hm, rfl⟩ := Option.map_eq_some_iff.mp h
    obtain ⟨hd, rfl⟩ := nat?_eq_some_iff.mp hm
    exact ⟨false, text, hd, rfl, .inr ⟨rfl, rfl⟩⟩

theorem eq_zero_of_head?_ofNat {n : Nat} (h : (ofNat n).head? = some '0') : n = 0 := by
  induction n using Nat.strongRecOn with
  | ind n ih =>
    by_cases hn : n < 10
    · have hzero : ∀ m < 10, Nat.digitChar m = '0' → m = 0 := by decide
      rw [ofNat, Nat.toDigits_of_lt_base hn, List.head?_cons] at h
      exact hzero n hn (Option.some.inj h)
    · obtain ⟨c, rest, hc⟩ := List.exists_cons_of_ne_nil (isDigits_ofNat (n / 10)).ne_nil
      rw [ofNat, Nat.toDigits_of_base_le (by decide) (by omega), ← ofNat, hc, List.cons_append,
        List.head?_cons] at h
      have := ih (n / 10) (by omega) (by rw [hc, List.head?_cons]; exact h)
      omega

theorem mem_ofInt {n : Int} {c : Char} (h : c ∈ ofInt n) : c.isDigit = true ∨ c = '-' := by
  cases n with
  | ofNat n => exact .inl ((isDigits_ofNat n).isDigit c h)
  | negSucc n =>
    obtain rfl | h := List.mem_cons.mp h
    · exact .inr rfl
    · exact .inl ((isDigits_ofNat (n + 1)).isDigit c h)

theorem IsDigits.not_mem {digits : List Char} (h : IsDigits digits) {c : Char}
    (hc : c.isDigit = false) : c ∉ digits :=
  fun hm => ne_of_class (h.isDigit c hm) hc rfl

theorem not_mem_ofInt {c : Char} (hc : c.isDigit = false) (hminus : c ≠ '-') (n : Int) :
    c ∉ ofInt n := by
  intro h
  obtain hd | he := mem_ofInt h
  · exact ne_of_class hd hc rfl
  · exact hminus he

theorem int32?_eq_some {text : List Char} {v : Int32} (h : int32? text = some v) :
    int? text = some v.toInt := by
  obtain ⟨n, hn, hv⟩ := Option.bind_eq_some_iff.mp h
  split at hv
  · next hr =>
    have hle : -2 ^ 31 ≤ n := hr.1
    have hlt : n < 2 ^ 31 := Int.lt_add_one_of_le hr.2
    obtain rfl := Option.some.inj hv
    rw [hn, Int32.toInt_ofInt_of_le hle hlt]
  · contradiction

/-- The texts that are read as an integer of 32 bits are those of a number in its range. -/
theorem int32?_eq_some_iff {text : List Char} {v : Int32} :
    int32? text = some v ↔ Denotes text v.toInt := by
  constructor
  · intro h
    exact int?_eq_some_iff.mp (int32?_eq_some h)
  · intro h
    rw [int32?, int?_eq_some_iff.mpr h, Option.bind_some,
      if_pos ⟨v.minValue_le_toInt, v.toInt_le⟩, Int32.ofInt_toInt]

theorem ofNat_mul_pow {n : Nat} (hn : 0 < n) (k : Nat) :
    ofNat (n * Nat.pow 10 k) = ofNat n ++ List.replicate k '0' := by
  induction k with
  | zero => rw [List.replicate_zero, List.append_nil, Nat.pow_eq, Nat.pow_zero, Nat.mul_one]
  | succ k ih =>
    have hpos : 0 < n * Nat.pow 10 k := Nat.mul_pos hn (Nat.pow_pos (by decide))
    have h := Nat.toDigits_append_toDigits (b := 10) (d := 0) (by decide) hpos (by decide)
    have hp : 10 * (n * Nat.pow 10 k) + 0 = n * Nat.pow 10 (k + 1) := by
      rw [Nat.add_zero, Nat.mul_left_comm, Nat.mul_comm 10]
      rfl
    rw [hp, Nat.toDigits_zero] at h
    rw [ofNat, ← h, ← ofNat, ih, List.append_assoc, List.replicate_succ']

end GuardedDivision.Numeral
