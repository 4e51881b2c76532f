import GuardedDivision.Proofs.Numeral
import GuardedDivision.Toml.Scalar
import Mathlib.Data.List.TakeWhile

namespace GuardedDivision.Toml.Scalar

theorem isGrouped_of_not_mem (isDigit : Char → Bool) {s : List Char} (h : '_' ∉ s)
    (afterDigit : Bool) : isGrouped isDigit afterDigit s = true := by
  induction s generalizing afterDigit with
  | nil => rfl
  | cons c s ih =>
    have hc : c ≠ '_' := fun he => h (by simp [he])
    unfold isGrouped
    split
    · rfl
    · next heq => exact absurd (List.cons.inj heq).1 hc
    · next heq =>
      rw [← (List.cons.inj heq).2]
      exact ih (fun hs => h (List.mem_cons_of_mem c hs)) _

theorem ungroup_of_not_mem {s : List Char} (h : '_' ∉ s) : ungroup s = s := by
  rw [ungroup, List.filter_eq_self]
  intro c hc
  have hne : c ≠ '_' := fun he => h (he ▸ hc)
  simp [hne]

theorem unsigned_ofInt (n : Int) : unsigned (Numeral.ofInt n) = Numeral.ofNat n.natAbs := by
  cases n with
  | ofNat n =>
    obtain ⟨c, rest, hs, hc⟩ := (Numeral.isDigits_ofNat n).exists_cons
    have hplus : c ≠ '+' := Numeral.ne_of_class hc rfl
    have hminus : c ≠ '-' := Numeral.ne_of_class hc rfl
    rw [Numeral.ofInt, Int.ofNat_eq_natCast, Int.natAbs_natCast, hs]
    unfold unsigned
    split <;> simp_all
  | negSucc n => rfl

theorem decimal?_ofInt (n : Int) : decimal? (Numeral.ofInt n) = some (ofInt n) := by
  have hdigits := Numeral.isDigits_ofNat n.natAbs
  have hzero : (Numeral.ofNat n.natAbs).head? = some '0' → Numeral.ofNat n.natAbs = ['0'] := by
    intro h
    rw [Numeral.eq_zero_of_head?_ofNat h]
    rfl
  have hend : continuesInteger ((Numeral.ofNat n.natAbs).dropWhile Char.isDigit) = true := by
    rw [List.dropWhile_eq_nil_iff.mpr hdigits.isDigit]
    rfl
  have hgrouped := isGrouped_of_not_mem isHexDigit (hdigits.not_mem rfl) false
  have hungroup := ungroup_of_not_mem (Numeral.not_mem_ofInt rfl (by decide) n)
  rw [decimal?, unsigned_ofInt, if_pos ⟨hdigits.ne_nil, hzero, hend, hgrouped⟩, hungroup,
    Numeral.int?_ofInt]
  rfl

theorem integer?_ofInt (n : Int) : integer? (Numeral.ofInt n) = some (ofInt n) := by
  have hbase {c : Char} (hc : c.isDigit = false) (hminus : c ≠ '-') {s : List Char}
      (h : Numeral.ofInt n = '0' :: c :: s) : False :=
    Numeral.not_mem_ofInt hc hminus n (by simp [h])
  unfold integer?
  split
  · next h => exact (hbase rfl (by decide) h).elim
  · next h => exact (hbase rfl (by decide) h).elim
  · next h => exact (hbase rfl (by decide) h).elim
  · exact decimal?_ofInt n

theorem item?_ofInt {n : Int} (hlow : -0x80000000000000000000000000000000 ≤ n)
    (hhigh : n < 0x100000000000000000000000000000000) :
    item? (Numeral.ofInt n) = some (.integer n) := by
  have hword {word : String} {c : Char} (hw : c ∈ word.toList) (hc : c.isDigit = false)
      (hminus : c ≠ '-') : Numeral.ofInt n ≠ word.toList :=
    fun h => Numeral.not_mem_ofInt hc hminus n (h ▸ hw)
  have htrue : Numeral.ofInt n ≠ "true".toList := hword (c := 'e') (by decide) rfl (by decide)
  have hfalse : Numeral.ofInt n ≠ "false".toList := hword (c := 'e') (by decide) rfl (by decide)
  rw [item?, if_neg htrue, if_neg hfalse, integer?_ofInt, ofInt, if_pos ⟨hlow, hhigh⟩]
  rfl

end GuardedDivision.Toml.Scalar
