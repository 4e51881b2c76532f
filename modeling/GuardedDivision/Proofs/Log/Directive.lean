import GuardedDivision.Log.Directive
import GuardedDivision.Proofs.Blank
import GuardedDivision.Proofs.Cut
import GuardedDivision.Proofs.Decimal.Literal
import GuardedDivision.Proofs.Quoted

namespace GuardedDivision.Log

open Blank (isBlank)
open Numeral (IsDigits)

namespace Limit

def name : Limit → String
  | none => "off"
  | some .error => "error"
  | some .warn => "warn"
  | some .info => "info"
  | some .debug => "debug"
  | some .trace => "trace"

def number : Limit → Nat
  | none => 0
  | some least => least.rank

/-- The texts of a limit: its name in letters of any case, or its number, which may have zeros
before it, after a plus sign or none. -/
inductive Spells (limit : Limit) : List Char → Prop
  | name {text : List Char} : text.map Char.toLower = limit.name.toList → Spells limit text
  | number {digits : List Char} : IsDigits digits →
    Nat.ofDigitChars 10 digits 0 = limit.number → Spells limit digits
  | signed {digits : List Char} : IsDigits digits →
    Nat.ofDigitChars 10 digits 0 = limit.number → Spells limit ('+' :: digits)

theorem ofNat?_eq_some_iff {limit : Limit} {n : Nat} :
    ofNat? n = some limit ↔ n = limit.number := by
  constructor
  · intro h
    unfold ofNat? at h
    split at h <;> cases h <;> rfl
  · rintro rfl
    cases limit with
    | none => rfl
    | some least => cases least <;> rfl

theorem ofName?_eq_some_iff {limit : Limit} {text : List Char} :
    ofName? text = some limit ↔ text = limit.name.toList := by
  constructor
  · intro h
    unfold ofName? at h
    split_ifs at h with hoff herror hwarn hinfo hdebug htrace <;> cases h <;> assumption
  · rintro rfl
    cases limit with
    | none => rfl
    | some least => cases least <;> decide

variable {limit : Limit} {text : List Char}

theorem isLower_of_mem_name {c : Char} (h : c ∈ limit.name.toList) : c.isLower = true := by
  have hall : limit.name.toList.all Char.isLower = true := by
    cases limit with
    | none => decide
    | some least => cases least <;> decide
  exact List.all_eq_true.mp hall c h

theorem name_ne_nil (limit : Limit) : limit.name.toList ≠ [] := by
  cases limit with
  | none => decide
  | some least => cases least <;> decide

theorem isLower_toLower (h : text.map Char.toLower = limit.name.toList) {c : Char} (hc : c ∈ text) :
    c.toLower.isLower = true :=
  isLower_of_mem_name (h ▸ List.mem_map_of_mem hc)

theorem isDigit_of_isLower {c : Char} (h : c.isLower = true) : c.isDigit = false := by
  have ha : 'a'.toNat ≤ c.toNat := of_decide_eq_true (Bool.and_eq_true_iff.mp h).1
  have h9 : '9'.toNat < 'a'.toNat := by decide
  rw [← Bool.not_eq_true, Char.isDigit_iff_toNat]
  omega

theorem nat?_of_name (h : text.map Char.toLower = limit.name.toList) :
    Numeral.nat? text = none := by
  rw [Option.eq_none_iff_forall_ne_some]
  intro n hn
  obtain ⟨c, rest, rfl, hc⟩ := (Numeral.nat?_eq_some_iff.mp hn).1.exists_cons
  have hlower := isLower_toLower h List.mem_cons_self
  rw [toLower_of_isDigit hc] at hlower
  rw [isDigit_of_isLower hlower] at hc
  contradiction

theorem ofText?_plus (digits : List Char) : ofText? ('+' :: digits) =
    (Numeral.nat? digits).elim (ofName? (('+' :: digits).map Char.toLower)) ofNat? := by
  cases hn : Numeral.nat? digits <;> simp [ofText?, hn]

theorem ofText?_of_head (h : text.head? ≠ some '+') : ofText? text =
    (Numeral.nat? text).elim (ofName? (text.map Char.toLower)) ofNat? := by
  unfold ofText?
  dsimp only
  split
  all_goals
    next hn =>
      split at hn
      · contradiction
      · rw [hn]
        rfl

theorem elim_eq_some_iff {digits : List Char} :
    (Numeral.nat? digits).elim (ofName? (text.map Char.toLower)) ofNat? = some limit ↔
      IsDigits digits ∧ Nat.ofDigitChars 10 digits 0 = limit.number ∨
        Numeral.nat? digits = none ∧ text.map Char.toLower = limit.name.toList := by
  cases hn : Numeral.nat? digits with
  | none =>
    have hnot : ¬IsDigits digits := fun h => nomatch hn.symm.trans (Numeral.nat?_eq_some h)
    simp [hnot, ofName?_eq_some_iff]
  | some n =>
    obtain ⟨h, rfl⟩ := Numeral.nat?_eq_some_iff.mp hn
    simp [h, ofNat?_eq_some_iff, Numeral.value_eq_ofDigitChars]

theorem ofText?_eq_some_iff : ofText? text = some limit ↔ limit.Spells text := by
  by_cases hplus : text.head? = some '+'
  · obtain ⟨digits, rfl⟩ := List.head?_eq_some_iff.mp hplus
    rw [ofText?_plus, elim_eq_some_iff]
    constructor
    · rintro (⟨h, hvalue⟩ | ⟨-, h⟩)
      · exact .signed h hvalue
      · exact .name h
    · intro h
      cases h with
      | name h => exact absurd (isLower_toLower h List.mem_cons_self) (by decide)
      | number h => exact absurd (h.isDigit '+' List.mem_cons_self) (by decide)
      | signed h hvalue => exact .inl ⟨h, hvalue⟩
  · rw [ofText?_of_head hplus, elim_eq_some_iff]
    constructor
    · rintro (⟨h, hvalue⟩ | ⟨-, h⟩)
      · exact .number h hvalue
      · exact .name h
    · intro h
      cases h with
      | name h => exact .inr ⟨nat?_of_name h, h⟩
      | number h hvalue => exact .inl ⟨h, hvalue⟩
      | signed => exact absurd rfl hplus

theorem Spells.characters (h : limit.Spells text) {c : Char} (hc : c ∈ text) :
    c.toLower.isLower = true ∨ c.isDigit = true ∨ c = '+' := by
  cases h with
  | name h => exact .inl (isLower_toLower h hc)
  | number h => exact .inr (.inl (h.isDigit c hc))
  | signed h =>
    obtain rfl | hc := List.mem_cons.mp hc
    · exact .inr (.inr rfl)
    · exact .inr (.inl (h.isDigit c hc))

theorem Spells.ne_nil (h : limit.Spells text) : text ≠ [] := by
  cases h with
  | name h =>
    rintro rfl
    exact name_ne_nil limit h.symm
  | number h => exact h.ne_nil
  | signed => exact List.cons_ne_nil _ _

end Limit

namespace Directive

structure IsTarget (text : List Char) : Prop where
  start : ∃ c ∈ text.head?, isStart c = true
  equals : '=' ∉ text
  bracket : '[' ∉ text

/-- The texts of a directive without brackets. A level alone has no plus sign before it, and a
target alone may have blanks there, which are part of it. -/
inductive Spells : List Char → Directive → Prop
  | level {text : List Char} {limit : Limit} : text.head? ≠ some '+' → limit.Spells text →
    Spells text { target := [], limit }
  | target {blanks text : List Char} : (∀ c ∈ blanks, isBlank c = true) → IsTarget text →
    (∀ limit : Limit, ¬limit.Spells (blanks ++ text)) →
    Spells (blanks ++ text) { target := blanks ++ text, limit := some .trace }
  | both {target text : List Char} {limit : Limit} : IsTarget target → limit.Spells text →
    Spells (target ++ '=' :: text) { target, limit }
  | all {target : List Char} : IsTarget target →
    Spells (target ++ ['=']) { target, limit := some .trace }

theorem isStart_of_range {c : Char} {first last : Nat} (h : (first, last) ∈ Alphanumeric.table)
    (hfirst : first ≤ c.toNat) (hlast : c.toNat ≤ last) : isStart c = true := by
  have hmem : Alphanumeric.isAlphanumeric c = true :=
    List.any_eq_true.mpr ⟨(first, last), h, by simp [hfirst, hlast]⟩
  rw [isStart, hmem, Bool.or_true]

theorem isStart_of_isDigit {c : Char} (h : c.isDigit = true) : isStart c = true := by
  obtain ⟨hfirst, hlast⟩ := Char.isDigit_iff_toNat.mp h
  exact isStart_of_range (by decide : (0x30, 0x39) ∈ Alphanumeric.table) hfirst hlast

theorem isStart_of_toLower {c : Char} (h : c.toLower.isLower = true) : isStart c = true := by
  unfold Char.toLower at h
  split at h
  · next hupper =>
    exact isStart_of_range (by decide : (0x41, 0x5A) ∈ Alphanumeric.table) hupper.1 hupper.2
  · have hlower := Bool.and_eq_true_iff.mp h
    exact isStart_of_range (by decide : (0x61, 0x7A) ∈ Alphanumeric.table)
      (of_decide_eq_true hlower.1) (of_decide_eq_true hlower.2)

theorem isBlank_of_isStart {c : Char} (h : isStart c = true) : isBlank c = false := by
  apply Bool.eq_false_iff.mpr
  intro hblank
  obtain ⟨⟨first, last⟩, hrange, hc⟩ := List.any_eq_true.mp hblank
  simp only [Bool.and_eq_true, decide_eq_true_eq] at hc
  -- No range of blanks meets the table of letters and digits, or holds one of the marks.
  have htable : ∀ range ∈ Blank.whiteSpace, Alphanumeric.table.all
      (fun other => other.2 < range.1 || range.2 < other.1) = true := by
    decide +kernel
  have hmarks : ∀ range ∈ Blank.whiteSpace, ['-', ':', '_'].all
      (fun d => d.toNat < range.1 || range.2 < d.toNat) = true := by
    decide
  have hnot : Alphanumeric.isAlphanumeric c = false :=
    CharRanges.contains_eq_false (htable _ hrange) hc.1 hc.2
  have hmark : c ∈ ['-', ':', '_'] := by
    simpa [isStart, hnot, or_assoc] using h
  have hout := List.all_eq_true.mp (hmarks _ hrange) c hmark
  simp only [Bool.or_eq_true, decide_eq_true_eq] at hout
  omega

theorem isTarget_of_spells {limit : Limit} {text : List Char} (h : limit.Spells text)
    (hplus : text.head? ≠ some '+') : IsTarget text where
  start := by
    obtain ⟨c, rest, rfl⟩ := List.exists_cons_of_ne_nil h.ne_nil
    refine ⟨c, rfl, ?_⟩
    obtain hc | hc | rfl := h.characters List.mem_cons_self
    · exact isStart_of_toLower hc
    · exact isStart_of_isDigit hc
    · exact absurd rfl hplus
  equals hmem := absurd (h.characters hmem) (by decide)
  bracket hmem := absurd (h.characters hmem) (by decide)

theorem Spells.field_eq {text : List Char} {d : Directive} (h : Spells text d) :
    d.field = none := by
  cases h <;> rfl

theorem Spells.ne_nil {text : List Char} {d : Directive} (h : Spells text d) : text ≠ [] := by
  cases h with
  | level _ h => exact h.ne_nil
  | target _ h | both h | all h =>
    obtain ⟨c, hc, -⟩ := h.start
    obtain ⟨rest, rfl⟩ := List.head?_eq_some_iff.mp hc
    simp

theorem IsTarget.characters {text : List Char} (h : IsTarget text) :
    ∀ c ∈ text, (c != '=' && c != '[') = true := by
  intro c hc
  have hequals : c ≠ '=' := fun he => h.equals (he ▸ hc)
  have hbracket : c ≠ '[' := fun he => h.bracket (he ▸ hc)
  simp [hequals, hbracket]

section Reading

variable {blanks target text : List Char}

theorem ofText_of_isTarget (hblanks : ∀ c ∈ blanks, isBlank c = true) (h : IsTarget text) :
    ofText (blanks ++ text) = .ok (some (ofWhole (blanks ++ text))) := by
  obtain ⟨c, hc, hstart⟩ := h.start
  obtain ⟨rest, after, htrim, htext, -⟩ :=
    Blank.exists_trim_append hblanks hc (isBlank_of_isStart hstart)
  have hdrop : (c :: rest).dropWhile (fun d => d != '=' && d != '[') = [] :=
    List.dropWhile_eq_nil_iff.mpr fun d hd =>
      h.characters d (htext ▸ List.mem_append_left after hd)
  have hbracket : c ≠ '[' := fun he => h.bracket (he ▸ List.mem_of_mem_head? hc)
  unfold ofText
  rw [htrim]
  simp only [hstart, hdrop]
  rfl

theorem exists_trim_equals (hblanks : ∀ c ∈ blanks, isBlank c = true) (h : IsTarget target)
    (text : List Char) :
    ∃ inner, Blank.trim (blanks ++ (target ++ '=' :: text)) = target ++ '=' :: inner := by
  obtain ⟨c, hc, hstart⟩ := h.start
  have hhead : c ∈ (target ++ '=' :: text).head? := by
    obtain ⟨rest, rfl⟩ := List.head?_eq_some_iff.mp hc
    rfl
  obtain ⟨rest, after, htrim, htext, hafter⟩ :=
    Blank.exists_trim_append hblanks hhead (isBlank_of_isStart hstart)
  have hequals : '=' ∉ after := fun hmem => absurd (hafter '=' hmem) (by decide)
  rw [htrim]
  obtain ⟨middle, hinner, htail⟩ | ⟨middle, -, htail⟩ := List.append_eq_append_iff.mp htext
  · cases middle with
    | nil =>
      rw [List.nil_append] at htail
      exact absurd (htail ▸ List.mem_cons_self) hequals
    | cons d middle =>
      obtain rfl := (List.cons.inj htail).1
      exact ⟨middle, hinner⟩
  · exact absurd (htail ▸ List.mem_append_right middle List.mem_cons_self) hequals

theorem ofText_equals (hblanks : ∀ c ∈ blanks, isBlank c = true) (h : IsTarget target)
    {whole : List Char} (hwhole : whole = blanks ++ (target ++ '=' :: text)) :
    ofText whole = (do
      let front ← (Cut.before whole (Cut.size target)).mapError Unreadable.broken
      let later ← (Cut.after whole (Cut.size target + 1)).mapError Unreadable.broken
      return some { target := front, limit := ← limitAfter later }) := by
  obtain ⟨inner, htrim⟩ := exists_trim_equals hblanks h text
  obtain ⟨c, hc, hstart⟩ := h.start
  obtain ⟨rest, rfl⟩ := List.head?_eq_some_iff.mp hc
  have htake : (c :: rest ++ '=' :: inner).takeWhile (fun d => d != '=' && d != '[') =
      c :: rest := by
    rw [List.takeWhile_append_of_pos h.characters]
    simp
  have hdrop : (c :: rest ++ '=' :: inner).dropWhile (fun d => d != '=' && d != '[') =
      '=' :: inner := by
    rw [List.dropWhile_append_of_pos h.characters]
    simp
  have hbracket : c ≠ '[' := fun he => h.bracket (he ▸ List.mem_cons_self)
  rw [← hwhole, List.cons_append] at htrim
  rw [List.cons_append] at htake hdrop
  unfold ofText
  rw [htrim]
  simp only [hstart, htake, hdrop, Bool.not_true, Bool.false_eq_true, if_false, if_true, limitAt]
  cases Cut.before whole (Cut.size (c :: rest)) with
  | error cut => rfl
  | ok front => cases Cut.after whole (Cut.size (c :: rest) + 1) <;> rfl

theorem ofText_of_both (h : IsTarget target) :
    ofText (target ++ '=' :: text) = (limitAfter text).map fun limit => some { target, limit } := by
  have hafter : Cut.after (target ++ '=' :: text) (Cut.size target + 1) = .ok text :=
    Cut.after_append_cons target text (by decide)
  rw [ofText_equals (List.forall_mem_nil _) h (List.nil_append _).symm, Cut.before_append, hafter]
  dsimp only [Except.mapError, Bind.bind, Except.bind]
  cases limitAfter text <;> rfl

theorem limitAfter_eq_ok_iff {limit : Limit} :
    limitAfter text = .ok limit ↔ text = [] ∧ limit = some .trace ∨ limit.Spells text := by
  unfold limitAfter
  split
  · next hnil =>
    subst hnil
    have hnot : ¬limit.Spells [] := fun h => h.ne_nil rfl
    simp [hnot, eq_comm]
  · next hne =>
    rw [← Limit.ofText?_eq_some_iff]
    cases Limit.ofText? text <;> simp [hne]

/-- After blanks, the level of a target would be cut off with the equals sign still before it. -/
theorem ofText_ne_ok_of_blanks (hblanks : ∀ c ∈ blanks, isBlank c = true) (hne : blanks ≠ [])
    (h : IsTarget target) (r : Option Directive) :
    ofText (blanks ++ (target ++ '=' :: text)) ≠ .ok r := by
  -- Each blank takes a byte at least, so both cuts are made before the equals sign.
  have hsize : Cut.size target + 1 ≤ Cut.size (blanks ++ target) := by
    obtain ⟨c, rest, rfl⟩ := List.exists_cons_of_ne_nil hne
    have hpos := c.utf8Size_pos
    rw [Cut.size_append, Cut.size]
    omega
  rw [ofText_equals hblanks h rfl, ← List.append_assoc]
  cases Cut.before (blanks ++ target ++ '=' :: text) (Cut.size target) with
  | error cut => rintro ⟨⟩
  | ok front =>
    cases hlater : Cut.after (blanks ++ target ++ '=' :: text) (Cut.size target + 1) with
    | error cut => rintro ⟨⟩
    | ok later =>
      have hmem : '=' ∈ later := Cut.mem_of_after hlater hsize
      dsimp only [Except.mapError, Bind.bind, Except.bind]
      cases hlimit : limitAfter later with
      | error failure => rintro ⟨⟩
      | ok limit =>
        obtain ⟨rfl, -⟩ | hspells := limitAfter_eq_ok_iff.mp hlimit
        · contradiction
        · exact absurd (hspells.characters hmem) (by decide)

theorem Spells.ofText_eq {d : Directive} (h : Spells text d) : ofText text = .ok (some d) := by
  cases h with
  | level hplus h =>
    have hread := ofText_of_isTarget (List.forall_mem_nil _) (isTarget_of_spells h hplus)
    rw [List.nil_append] at hread
    rw [hread, ofWhole, Limit.ofText?_eq_some_iff.mpr h]
  | target hblanks h hnot =>
    have hnone : Limit.ofText? _ = none := Option.eq_none_iff_forall_ne_some.mpr
      fun limit hlimit => hnot limit (Limit.ofText?_eq_some_iff.mp hlimit)
    rw [ofText_of_isTarget hblanks h, ofWhole, hnone]
  | both htarget h => rw [ofText_of_both htarget, limitAfter_eq_ok_iff.mpr (.inr h), Except.map]
  | all htarget =>
    rw [ofText_of_both htarget, limitAfter_eq_ok_iff.mpr (.inl ⟨rfl, rfl⟩), Except.map]

theorem ofText_eq_malformed (hblanks : ∀ c ∈ blanks, isBlank c = true)
    (htext : ∀ c ∈ text.head?, isBlank c = false ∧ isStart c = false ∧ c ≠ '[') :
    ofText (blanks ++ text) = .error .malformed := by
  cases text with
  | nil =>
    have htrim : Blank.IsTrimmed (blanks ++ [] ++ []) [] :=
      Blank.isTrimmed_append hblanks (List.forall_mem_nil _) (List.forall_mem_nil _)
    rw [List.append_nil] at htrim
    rw [ofText, htrim.trim_eq]
  | cons c text =>
    have hhead : c ∈ (c :: text).head? := rfl
    obtain ⟨hblank, hstart, hbracket⟩ := htext c hhead
    obtain ⟨rest, after, htrim, -, -⟩ := Blank.exists_trim_append hblanks hhead hblank
    unfold ofText
    rw [htrim]
    simp only [hstart]
    rfl

theorem spells_ofWhole (hblanks : ∀ c ∈ blanks, isBlank c = true) (h : IsTarget text) :
    Spells (blanks ++ text) (ofWhole (blanks ++ text)) := by
  unfold ofWhole
  cases hlimit : Limit.ofText? (blanks ++ text) with
  | none =>
    refine .target hblanks h fun limit hspells => ?_
    rw [Limit.ofText?_eq_some_iff.mpr hspells] at hlimit
    contradiction
  | some limit =>
    refine .level ?_ (Limit.ofText?_eq_some_iff.mp hlimit)
    intro hplus
    cases blanks with
    | nil =>
      obtain ⟨c, hc, hstart⟩ := h.start
      obtain rfl := Option.mem_unique hc hplus
      exact absurd hstart (by decide +kernel)
    | cons c blanks =>
      obtain rfl := Option.some.inj hplus
      exact absurd (hblanks '+' List.mem_cons_self) (by decide)

theorem exists_spells_of_both (h : IsTarget target) {r : Option Directive}
    (hok : ofText (target ++ '=' :: text) = .ok r) :
    ∃ d, r = some d ∧ Spells (target ++ '=' :: text) d := by
  rw [ofText_of_both h] at hok
  cases hlimit : limitAfter text with
  | error failure =>
    rw [hlimit] at hok
    contradiction
  | ok limit =>
    rw [hlimit] at hok
    refine ⟨_, (Except.ok.inj hok).symm, ?_⟩
    obtain ⟨rfl, rfl⟩ | hspells := limitAfter_eq_ok_iff.mp hlimit
    · exact .all h
    · exact .both h hspells

theorem isTarget_of_append (hstart : ∃ c ∈ (target ++ '=' :: text).head?, isStart c = true)
    (hequals : '=' ∉ target) (hbracket : '[' ∉ target) : IsTarget target where
  start := by
    cases target with
    | nil =>
      obtain ⟨c, hc, hstart⟩ := hstart
      obtain rfl := Option.some.inj hc
      exact absurd hstart (by decide +kernel)
    | cons c target => exact hstart
  equals := hequals
  bracket := hbracket

/-- Without brackets nothing but the text of a directive is read as one. -/
theorem ofText_eq_ok_iff (hbracket : '[' ∉ text) {r : Option Directive} :
    ofText text = .ok r ↔ ∃ d, r = some d ∧ Spells text d := by
  constructor
  case mpr =>
    rintro ⟨d, rfl, h⟩
    exact h.ofText_eq
  intro hok
  obtain ⟨blanks, body, rfl, hblanks, hbody⟩ : ∃ blanks body, text = blanks ++ body ∧
      (∀ c ∈ blanks, isBlank c = true) ∧ ∀ c ∈ body.head?, isBlank c = false :=
    ⟨_, _, List.takeWhile_append_dropWhile.symm, fun c => List.mem_takeWhile_imp,
      fun c => Blank.head_dropWhile⟩
  have hno : '[' ∉ body := fun h => hbracket (List.mem_append_right blanks h)
  by_cases hstart : ∃ c ∈ body.head?, isStart c = true
  case neg =>
    have hread : ofText (blanks ++ body) = .error .malformed :=
      ofText_eq_malformed hblanks fun c hc => ⟨hbody c hc,
        Bool.eq_false_iff.mpr fun h => hstart ⟨c, hc, h⟩,
        fun he => hno (he ▸ List.mem_of_mem_head? hc)⟩
    rw [hread] at hok
    contradiction
  by_cases hequals : '=' ∈ body
  case neg =>
    have htarget : IsTarget body := ⟨hstart, hequals, hno⟩
    rw [ofText_of_isTarget hblanks htarget] at hok
    exact ⟨_, (Except.ok.inj hok).symm, spells_ofWhole hblanks htarget⟩
  obtain ⟨target, later, rfl, hfirst⟩ := List.eq_append_cons_of_mem hequals
  have htarget : IsTarget target :=
    isTarget_of_append hstart hfirst fun h => hno (List.mem_append_left _ h)
  by_cases hnil : blanks = []
  · subst hnil
    exact exists_spells_of_both htarget hok
  · exact absurd hok (ofText_ne_ok_of_blanks hblanks hnil htarget r)

theorem ofText_eq_some_iff (hbracket : '[' ∉ text) {d : Directive} :
    ofText text = .ok (some d) ↔ Spells text d := by
  simp [ofText_eq_ok_iff hbracket]

end Reading

end Directive

end GuardedDivision.Log
