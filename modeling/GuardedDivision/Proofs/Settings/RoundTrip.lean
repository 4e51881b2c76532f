import GuardedDivision.Program
import GuardedDivision.Proofs.FileTree
import GuardedDivision.Proofs.Toml.Line
import GuardedDivision.Proofs.Toml.Scalar
import GuardedDivision.Proofs.Utf8

namespace GuardedDivision

namespace Toml

theorem isBareKey_of_isDigit {c : Char} (h : c.isDigit = true) : isBareKey c = true := by
  simp [isBareKey, Char.isAlphanum, h]

theorem isBare_ofInt (n : Int) : IsBare (Numeral.ofInt n) where
  ne_nil := by
    cases n with
    | ofNat n => exact (Numeral.isDigits_ofNat n).ne_nil
    | negSucc n => exact List.cons_ne_nil _ _
  isBareKey c hc := by
    obtain hd | rfl := Numeral.mem_ofInt hc
    · exact isBareKey_of_isDigit hd
    · decide

theorem isBare_ofBool (b : Bool) : IsBare (Settings.ofBool b) := by
  cases b with
  | false => exact .of_all (by decide) (by decide)
  | true => exact .of_all (by decide) (by decide)

namespace Line

def ofInt (key : List Char) (bareKey : IsBare key) (n : Int)
    (hn : -0x80000000000000000000000000000000 ≤ n ∧ n < 0x100000000000000000000000000000000) :
    Line where
  key := key
  value := Numeral.ofInt n
  item := .integer n
  bareKey := bareKey
  bareValue := isBare_ofInt n
  item_eq := Scalar.item?_ofInt hn.1 hn.2
  holds := rfl

def ofBool (key : List Char) (bareKey : IsBare key) (b : Bool) : Line where
  key := key
  value := Settings.ofBool b
  item := .boolean b
  bareKey := bareKey
  bareValue := isBare_ofBool b
  item_eq := by cases b <;> rfl
  holds := rfl

end Line

end Toml

namespace Settings

open Toml (IsBare Line)

theorem toInt_bounds (n : Int32) : -0x80000000000000000000000000000000 ≤ n.toInt ∧
    n.toInt < 0x100000000000000000000000000000000 := by
  have hlow := n.le_toInt
  have hhigh := n.toInt_lt
  omega

theorem toNat_bounds (n : UInt64) : -0x80000000000000000000000000000000 ≤ (n.toNat : Int) ∧
    (n.toNat : Int) < 0x100000000000000000000000000000000 := by
  have hhigh := n.toNat_lt
  omega

def lines (s : Settings) : List Line :=
  .ofInt "numerator".toList (.of_all (by decide) (by decide)) s.numerator.toInt (toInt_bounds _) ::
    .ofInt "fixed_denominator".toList (.of_all (by decide) (by decide))
      s.fixedDenominator.toInt (toInt_bounds _) ::
    .ofBool "catch_faults".toList (.of_all (by decide) (by decide)) s.catchFaults ::
    match s.seed with
    | none => []
    | some seed =>
      [.ofInt "seed".toList (.of_all (by decide) (by decide)) seed.toNat (toNat_bounds seed)]

theorem toText_eq_lines (s : Settings) : s.toText = s.lines.flatMap Line.text := by
  unfold toText lines
  cases s.seed with
  | none => simp [line, Line.text, Line.ofInt, Line.ofBool]
  | some seed => simp [line, Line.text, Line.ofInt, Line.ofBool, Numeral.ofInt]

theorem nodup_keys (s : Settings) : (s.lines.map Line.key).Nodup := by
  unfold lines
  cases s.seed with
  | none =>
    change ["numerator".toList, "fixed_denominator".toList, "catch_faults".toList].Nodup
    decide
  | some seed =>
    change ["numerator".toList, "fixed_denominator".toList, "catch_faults".toList,
      "seed".toList].Nodup
    decide

theorem int32?_integer (n : Int32) : int32? (.integer n.toInt) = some n := by
  rw [int32?, if_pos ⟨n.minValue_le_toInt, n.toInt_le⟩, Int32.ofInt_toInt]

theorem seed?_integer (seed : UInt64) : seed? (.integer seed.toNat) = some (some seed) := by
  have hlt : (seed.toNat : Int) < UInt64.size := by
    have := seed.toNat_lt
    simp only [UInt64.size]
    omega
  rw [seed?, if_pos ⟨Int.natCast_nonneg _, hlt⟩, Int.toNat_natCast, UInt64.ofNat_toNat]

theorem field?_of_find? {α : Type} {entries : Toml.Entries} {key : String} {item : Toml.Item}
    (h : entries.find? key.toList = some item) (default : α) (ofItem? : Toml.Item → Option α) :
    field? entries key default ofItem? = ofItem? item := by
  rw [field?, h]

theorem field?_of_absent {α : Type} {entries : Toml.Entries} {key : String}
    (h : entries.find? key.toList = none) (default : α) (ofItem? : Toml.Item → Option α) :
    field? entries key default ofItem? = some default := by
  rw [field?, h]

theorem ofEntries?_lines (s : Settings) : ofEntries? (s.lines.map Line.entry) = some s := by
  have hnumerator : Toml.Entries.find? (s.lines.map Line.entry) "numerator".toList =
      some (.integer s.numerator.toInt) := rfl
  have hfixed : Toml.Entries.find? (s.lines.map Line.entry) "fixed_denominator".toList =
      some (.integer s.fixedDenominator.toInt) := rfl
  have hcatch : Toml.Entries.find? (s.lines.map Line.entry) "catch_faults".toList =
      some (.boolean s.catchFaults) := rfl
  have hseed : field? (s.lines.map Line.entry) "seed" none seed? = some s.seed := by
    unfold lines
    cases s.seed with
    | none => exact field?_of_absent rfl _ _
    | some seed => exact (field?_of_find? rfl _ _).trans (seed?_integer seed)
  simp only [ofEntries?, field?_of_find? hnumerator, field?_of_find? hfixed,
    field?_of_find? hcatch, hseed, int32?_integer, bool?]
  rfl

theorem ofText_toText (s : Settings) (blanks : Nat) :
    ofText (s.toText ++ List.replicate blanks '\n') = .ok s := by
  rw [ofText, toText_eq_lines, Toml.Document.ofText_lines s.nodup_keys blanks]
  change Toml.required (ofEntries? (s.lines.map Line.entry)) = _
  rw [ofEntries?_lines]
  rfl

theorem ofEntry_encode (text : List Char) :
    ofEntry (.ok (.file (Utf8.encode text))) = (ofText text).mapError .unusable := by
  have htext : (Except.ok (.file (Utf8.encode text)) : Except FileFailure Entry).bind Entry.text =
      .ok text := by
    simp only [Except.bind, Entry.text, Utf8.decode?_encode]
  rw [ofEntry, htext]
  cases hread : ofText text <;> simp only [hread, Except.mapError]

theorem ofEntry_toText (s : Settings) (blanks : Nat) :
    ofEntry (.ok (.file (Utf8.encode (s.toText ++ List.replicate blanks '\n')))) = .ok s := by
  rw [ofEntry_encode, ofText_toText]
  rfl

/-- Settings whose text is the content of a file, with or without an empty line after it, are what
any path to the file is read as. -/
theorem ofPath_toText (s : Settings) {content : Bytes}
    (hcontent : content = Utf8.encode s.toText ∨ content = Program.printed s) :
    (∀ (tree : FileTree) (working : Location) (path : String),
      tree.find working path = .ok (.file content) → ofPath tree working path = .ok s) ∧
    ∀ (tree : FileTree) (working location : Location), location ≠ [] →
      (∀ name ∈ location, IsName name) →
        ofPath (tree.putFile location content) working location.text = .ok s := by
  have hentry : ofEntry (.ok (.file content)) = .ok s := by
    obtain rfl | rfl := hcontent
    · have h := s.ofEntry_toText 0
      rw [List.replicate_zero, List.append_nil] at h
      exact h
    · exact s.ofEntry_toText 1
  constructor
  · intro tree working path hfind
    rw [ofPath, hfind]
    exact hentry
  · intro tree working location hne hnames
    rw [ofPath, tree.find_putFile working hne hnames]
    exact hentry

def extremes : Settings where
  numerator := Int32.minValue
  fixedDenominator := Int32.maxValue
  catchFaults := false
  seed := some 18446744073709551615

theorem ofPath_extremes :
    ofPath (FileTree.putFile ["work", "divguard.toml"] (Utf8.encode extremes.toText) []) []
        "/work/divguard.toml" = .ok extremes ∧
      ofPath (FileTree.putFile ["work", "divguard.toml"] (Program.printed extremes) []) []
        "/work/divguard.toml" = .ok extremes :=
  ⟨(ofPath_toText extremes (.inl rfl)).2 [] [] ["work", "divguard.toml"] (by decide) (by decide),
    (ofPath_toText extremes (.inr rfl)).2 [] [] ["work", "divguard.toml"] (by decide) (by decide)⟩

end Settings

end GuardedDivision
