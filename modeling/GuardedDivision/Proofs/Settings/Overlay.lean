import GuardedDivision.Proofs.Settings.RoundTrip
import GuardedDivision.Proofs.Toml.Datum

namespace GuardedDivision.Settings

open Toml (Datum IsBare IsBlank IsDocument IsRow Key entries)

structure Sets {α : Type} (assigned : List (Key × Datum)) (key : String) (default : α)
    (denotes : Datum → α → Prop) (value : α) : Prop where
  named (datum : Datum) : (key.toList, datum) ∈ assigned → denotes datum value
  unnamed : (∀ datum, (key.toList, datum) ∉ assigned) → value = default

/-- The defaults, overlaid by what is assigned to the keys of the settings. -/
structure Overlays (assigned : List (Key × Datum)) (s : Settings) : Prop where
  numerator : Sets assigned "numerator" 100 (fun datum v => datum = .integer v.toInt) s.numerator
  fixedDenominator : Sets assigned "fixed_denominator" 2
    (fun datum v => datum = .integer v.toInt) s.fixedDenominator
  catchFaults : Sets assigned "catch_faults" true (fun datum b => datum = .boolean b) s.catchFaults
  seed : Sets assigned "seed" none
    (fun datum seed => ∃ n : UInt64, seed = some n ∧ datum = .integer n.toNat) s.seed

structure Usable (assigned : List (Key × Datum)) : Prop where
  numerator (datum : Datum) : ("numerator".toList, datum) ∈ assigned →
    datum.Between (-2147483648) 2147483647
  fixedDenominator (datum : Datum) : ("fixed_denominator".toList, datum) ∈ assigned →
    datum.Between (-2147483648) 2147483647
  catchFaults (datum : Datum) : ("catch_faults".toList, datum) ∈ assigned →
    ∃ b, datum = .boolean b
  seed (datum : Datum) : ("seed".toList, datum) ∈ assigned →
    datum.Between 0 18446744073709551615

def keys : List Key :=
  ["numerator".toList, "fixed_denominator".toList, "catch_faults".toList, "seed".toList]

theorem item_integer {n : Int} (hlow : -0x80000000000000000000000000000000 ≤ n)
    (hhigh : n < 0x100000000000000000000000000000000) :
    (Datum.integer n).item = .integer n := if_pos ⟨hlow, hhigh⟩

theorem eq_integer_of_item {datum : Datum} {n : Int} (h : datum.item = .integer n) :
    datum = .integer n := by
  cases datum with
  | boolean | text => contradiction
  | integer m =>
    rw [Datum.item, Toml.Scalar.ofInt] at h
    split at h
    · rw [Toml.Item.integer.inj h]
    · contradiction

theorem int32?_item (datum : Datum) (v : Int32) :
    int32? datum.item = some v ↔ datum = .integer v.toInt := by
  constructor
  · intro h
    unfold int32? at h
    split at h
    · next n hitem =>
      split at h
      · next hrange =>
        have hlt : n < 2 ^ 31 := Int.lt_add_one_of_le hrange.2
        rw [eq_integer_of_item hitem, ← Option.some.inj h, Int32.toInt_ofInt_of_le hrange.1 hlt]
      · contradiction
    · contradiction
  · rintro rfl
    rw [item_integer (toInt_bounds v).1 (toInt_bounds v).2, int32?_integer]

theorem bool?_item (datum : Datum) (b : Bool) :
    bool? datum.item = some b ↔ datum = .boolean b := by
  cases datum with
  | boolean value => simp [Datum.item, bool?]
  | integer n =>
    rw [Datum.item, Toml.Scalar.ofInt]
    split <;> simp [bool?]
  | text => simp [Datum.item, bool?]

theorem seed?_item (datum : Datum) (seed : Option UInt64) : seed? datum.item = some seed ↔
    ∃ n : UInt64, seed = some n ∧ datum = .integer n.toNat := by
  constructor
  · intro h
    unfold seed? at h
    split at h
    · next n hitem =>
      split at h
      · next hrange =>
        have hlt : n.toNat < UInt64.size := by omega
        refine ⟨UInt64.ofNat n.toNat, (Option.some.inj h).symm, ?_⟩
        rw [eq_integer_of_item hitem, UInt64.toNat_ofNat_of_lt' hlt, Int.toNat_of_nonneg hrange.1]
      · contradiction
    · contradiction
  · rintro ⟨n, rfl, rfl⟩
    rw [item_integer (toNat_bounds n).1 (toNat_bounds n).2, seed?_integer]

theorem exists_toInt_iff {datum : Datum} : (∃ v : Int32, datum = .integer v.toInt) ↔
    datum.Between (-2147483648) 2147483647 := by
  constructor
  · rintro ⟨v, rfl⟩
    exact ⟨v.toInt, rfl, v.minValue_le_toInt, v.toInt_le⟩
  · rintro ⟨n, rfl, hlow, hhigh⟩
    exact ⟨Int32.ofInt n, by rw [Int32.toInt_ofInt_of_le hlow (Int.lt_add_one_of_le hhigh)]⟩

theorem exists_toNat_iff {datum : Datum} :
    (∃ seed, ∃ n : UInt64, seed = some n ∧ datum = .integer n.toNat) ↔
      datum.Between 0 18446744073709551615 := by
  constructor
  · rintro ⟨_, n, rfl, rfl⟩
    have hlt := n.toNat_lt
    exact ⟨n.toNat, rfl, Int.natCast_nonneg _, by omega⟩
  · rintro ⟨n, rfl, hlow, hhigh⟩
    have hlt : n.toNat < UInt64.size := by
      simp only [UInt64.size]
      omega
    refine ⟨_, UInt64.ofNat n.toNat, rfl, ?_⟩
    rw [UInt64.toNat_ofNat_of_lt' hlt, Int.toNat_of_nonneg hlow]

section Nodup

variable {assigned : List (Key × Datum)} (hnodup : (assigned.map Prod.fst).Nodup)

include hnodup

theorem lookup_of_mem {key : Key} {datum : Datum} (h : (key, datum) ∈ assigned) :
    assigned.lookup key = some datum := by
  induction assigned with
  | nil => contradiction
  | cons entry assigned ih =>
    obtain ⟨hentry, hnodup⟩ := List.nodup_cons.mp hnodup
    obtain rfl | h := List.mem_cons.mp h
    · exact List.lookup_cons_self
    · have hne : key ≠ entry.1 := fun he => hentry (he ▸ List.mem_map_of_mem h)
      rw [List.lookup_cons, beq_false_of_ne hne]
      exact ih hnodup h

variable {α : Type} {key : String} {default : α} {denotes : Datum → α → Prop}

theorem sets_of_mem {datum : Datum} (h : (key.toList, datum) ∈ assigned) {v : α} :
    Sets assigned key default denotes v ↔ denotes datum v := by
  constructor
  · exact fun hsets => hsets.named datum h
  · intro hdenotes
    refine ⟨fun other hother => ?_, fun hnone => absurd h (hnone datum)⟩
    have hlookup := lookup_of_mem hnodup h
    rw [lookup_of_mem hnodup hother] at hlookup
    rwa [Option.some.inj hlookup]

omit hnodup in
theorem sets_of_absent (h : ∀ datum, (key.toList, datum) ∉ assigned) {v : α} :
    Sets assigned key default denotes v ↔ v = default :=
  ⟨fun hsets => hsets.unnamed h,
    fun hv => ⟨fun datum hdatum => absurd hdatum (h datum), fun _ => hv⟩⟩

theorem exists_sets_iff : (∃ v, Sets assigned key default denotes v) ↔
    ∀ datum, (key.toList, datum) ∈ assigned → ∃ v, denotes datum v := by
  constructor
  · rintro ⟨v, hsets⟩ datum hdatum
    exact ⟨v, hsets.named datum hdatum⟩
  · intro hall
    by_cases hmem : ∃ datum, (key.toList, datum) ∈ assigned
    · obtain ⟨datum, hdatum⟩ := hmem
      obtain ⟨v, hv⟩ := hall datum hdatum
      exact ⟨v, (sets_of_mem hnodup hdatum).mpr hv⟩
    · exact ⟨default, (sets_of_absent (not_exists.mp hmem)).mpr rfl⟩

theorem field?_eq_some_iff {ofItem? : Toml.Item → Option α}
    (hdenotes : ∀ datum v, ofItem? datum.item = some v ↔ denotes datum v) {v : α} :
    field? (entries Datum.item assigned) key default ofItem? = some v ↔
      Sets assigned key default denotes v := by
  by_cases hmem : ∃ datum, (key.toList, datum) ∈ assigned
  · obtain ⟨datum, hdatum⟩ := hmem
    have hfind : (entries Datum.item assigned).find? key.toList = some datum.item := by
      rw [Toml.find?_entries, lookup_of_mem hnodup hdatum]
      rfl
    rw [field?_of_find? hfind, hdenotes, sets_of_mem hnodup hdatum]
  · have habsent := not_exists.mp hmem
    have hfind : (entries Datum.item assigned).find? key.toList = none := by
      rw [Toml.find?_entries, Option.map_eq_none_iff, List.lookup_eq_none_iff]
      rintro ⟨other, datum⟩ hother
      have hne : key.toList ≠ other := fun he => habsent datum (he ▸ hother)
      exact bne_iff_ne.mpr hne
    rw [field?_of_absent hfind, sets_of_absent habsent, Option.some.injEq, eq_comm]

theorem ofEntries?_eq_some_iff {s : Settings} :
    ofEntries? (entries Datum.item assigned) = some s ↔ Overlays assigned s := by
  simp only [ofEntries?, Option.bind_eq_bind, Option.bind_eq_some_iff,
    field?_eq_some_iff hnodup int32?_item, field?_eq_some_iff hnodup bool?_item,
    field?_eq_some_iff hnodup seed?_item]
  constructor
  · rintro ⟨numerator, hnumerator, fixed, hfixed, catches, hcatches, seed, hseed, h⟩
    obtain rfl := Option.some.inj h
    exact ⟨hnumerator, hfixed, hcatches, hseed⟩
  · rintro ⟨hnumerator, hfixed, hcatches, hseed⟩
    exact ⟨_, hnumerator, _, hfixed, _, hcatches, _, hseed, rfl⟩

theorem usable_iff : Usable assigned ↔ ∃ s, Overlays assigned s := by
  constructor
  · rintro ⟨hnumerator, hfixed, hcatches, hseed⟩
    obtain ⟨numerator, hnumerator⟩ := (exists_sets_iff hnodup).mpr
      fun datum hdatum => exists_toInt_iff.mpr (hnumerator datum hdatum)
    obtain ⟨fixedDenominator, hfixed⟩ := (exists_sets_iff hnodup).mpr
      fun datum hdatum => exists_toInt_iff.mpr (hfixed datum hdatum)
    obtain ⟨catchFaults, hcatches⟩ := (exists_sets_iff hnodup).mpr hcatches
    obtain ⟨seed, hseed⟩ := (exists_sets_iff hnodup).mpr
      fun datum hdatum => exists_toNat_iff.mpr (hseed datum hdatum)
    exact ⟨⟨numerator, fixedDenominator, catchFaults, seed⟩, hnumerator, hfixed, hcatches, hseed⟩
  · rintro ⟨s, hnumerator, hfixed, hcatches, hseed⟩
    exact ⟨fun datum hdatum => exists_toInt_iff.mp ⟨_, hnumerator.named datum hdatum⟩,
      fun datum hdatum => exists_toInt_iff.mp ⟨_, hfixed.named datum hdatum⟩,
      fun datum hdatum => ⟨_, hcatches.named datum hdatum⟩,
      fun datum hdatum => exists_toNat_iff.mp ⟨_, hseed.named datum hdatum⟩⟩

end Nodup

def OthersFit (assigned : List (Key × Datum)) : Prop :=
  ∀ key n, (key, .integer n) ∈ assigned → key ∉ keys →
    -0x8000000000000000 ≤ n ∧ n < 0x8000000000000000

/-- The bytes of rows, which may follow a byte order mark, and what the rows assign. -/
inductive Assigns : Bytes → List (Key × Datum) → Prop
  | rows {mark text : List Char} {rows : List (Option (Key × Datum))} :
    mark ∈ [[], ['\ufeff']] → IsDocument Datum.Spells rows text →
    OthersFit (rows.filterMap id) → Assigns (Utf8.encode (mark ++ text)) (rows.filterMap id)

/-- Settings if all that is assigned is usable and no key is repeated: the defaults overlaid by it.
Else the text is at fault. -/
structure Gives (assigned : List (Key × Datum)) (result : Except LoadFailure Settings) : Prop where
  repeated : ¬(assigned.map Prod.fst).Nodup → result = .error (.unusable .malformed)
  usable : (assigned.map Prod.fst).Nodup → ((∃ s, result = .ok s) ↔ Usable assigned)
  overlays (s : Settings) : result = .ok s → Overlays assigned s
  malformed (failure : LoadFailure) : result = .error failure → failure = .unusable .malformed

/-- Assignments that say the same of the settings, in any order and among any others. A key is
repeated in both of them or in none. -/
structure Alike (assigned other : List (Key × Datum)) : Prop where
  known : (assigned.filter (·.1 ∈ keys)).Perm (other.filter (·.1 ∈ keys))
  nodup : (assigned.map Prod.fst).Nodup ↔ (other.map Prod.fst).Nodup

theorem Usable.entriesHold {assigned : List (Key × Datum)} (h : Usable assigned)
    (hothers : OthersFit assigned) :
    Toml.entriesHold (entries Datum.item assigned) = true := by
  rw [Toml.entriesHold_entries, List.all_eq_true]
  rintro ⟨key, datum⟩ hmem
  cases datum with
  | boolean | text => rfl
  | integer n =>
    have hrange : -0x8000000000000000 ≤ n ∧ n ≤ 0xffffffffffffffff := by
      by_cases hkey : key ∈ keys
      · simp only [keys, List.mem_cons, List.not_mem_nil, or_false] at hkey
        obtain rfl | rfl | rfl | rfl := hkey
        · have hn := Datum.between_integer.mp (h.numerator _ hmem)
          omega
        · have hn := Datum.between_integer.mp (h.fixedDenominator _ hmem)
          omega
        · obtain ⟨_, hb⟩ := h.catchFaults _ hmem
          contradiction
        · have hn := Datum.between_integer.mp (h.seed _ hmem)
          omega
      · have hn := hothers key n hmem hkey
        omega
    rw [item_integer (by omega) (by omega)]
    rfl

section Rows

variable {rows : List (Option (Key × Datum))} {mark text : List Char}
  (hmark : mark ∈ [[], ['\ufeff']]) (hrows : IsDocument Datum.Spells rows text)

include hmark hrows

theorem ofText_rows : ofText (mark ++ text) = Toml.required
    (if ((rows.filterMap id).map Prod.fst).Nodup ∧
        Toml.entriesHold (entries Datum.item (rows.filterMap id)) then
      ofEntries? (entries Datum.item (rows.filterMap id))
    else none) := by
  rw [ofText, Toml.Document.ofText_rows Datum.Spells.exists_word hrows hmark]
  split <;> rfl

theorem eq_malformed_of_ofText {defect : Toml.Defect} (h : ofText (mark ++ text) = .error defect) :
    defect = .malformed := by
  rw [ofText_rows hmark hrows] at h
  exact Toml.eq_malformed_of_required h

theorem ofText_eq_ok_iff (hothers : OthersFit (rows.filterMap id)) {s : Settings} :
    ofText (mark ++ text) = .ok s ↔
      ((rows.filterMap id).map Prod.fst).Nodup ∧ Overlays (rows.filterMap id) s := by
  rw [ofText_rows hmark hrows, Toml.required_eq_ok_iff]
  constructor
  · intro h
    split at h
    · next hheld => exact ⟨hheld.1, (ofEntries?_eq_some_iff hheld.1).mp h⟩
    · contradiction
  · rintro ⟨hnodup, hs⟩
    have husable := (usable_iff hnodup).mpr ⟨s, hs⟩
    rw [if_pos ⟨hnodup, husable.entriesHold hothers⟩]
    exact (ofEntries?_eq_some_iff hnodup).mpr hs

end Rows

theorem ofEntry_of_assigns {content : Bytes} {assigned : List (Key × Datum)}
    (h : Assigns content assigned) : Gives assigned (ofEntry (.ok (.file content))) := by
  cases h with
  | @rows mark text rows hmark hrows hothers =>
    have hok (s : Settings) := ofText_eq_ok_iff hmark hrows hothers (s := s)
    rw [ofEntry_encode]
    cases hread : ofText (mark ++ text) with
    | ok s =>
      obtain ⟨hnodup, hs⟩ := (hok s).mp hread
      refine ⟨fun hrepeated => absurd hnodup hrepeated,
        fun _ => ⟨fun _ => (usable_iff hnodup).mpr ⟨s, hs⟩, fun _ => ⟨s, rfl⟩⟩,
        fun other h => ?_, nofun⟩
      rwa [← Except.ok.inj h]
    | error defect =>
      obtain rfl := eq_malformed_of_ofText hmark hrows hread
      refine ⟨fun _ => rfl, fun hnodup => ⟨nofun, fun husable => ?_⟩, nofun,
        fun _ h => (Except.error.inj h).symm⟩
      obtain ⟨s, hs⟩ := (usable_iff hnodup).mp husable
      rw [(hok s).mpr ⟨hnodup, hs⟩] at hread
      contradiction

theorem Alike.mem_iff {assigned other : List (Key × Datum)} (h : Alike assigned other) {key : Key}
    (hkey : key ∈ keys) (datum : Datum) : (key, datum) ∈ assigned ↔ (key, datum) ∈ other := by
  have hknown := h.known.mem_iff (a := (key, datum))
  simpa only [List.mem_filter, decide_eq_true hkey, and_true] using hknown

theorem Sets.congr {α : Type} {assigned other : List (Key × Datum)} {key : String} {default : α}
    {denotes : Datum → α → Prop} {value : α}
    (hmem : ∀ datum, (key.toList, datum) ∈ assigned ↔ (key.toList, datum) ∈ other)
    (h : Sets assigned key default denotes value) : Sets other key default denotes value where
  named datum hdatum := h.named datum ((hmem datum).mpr hdatum)
  unnamed hnone := h.unnamed fun datum hdatum => hnone datum ((hmem datum).mp hdatum)

theorem Alike.overlays {assigned other : List (Key × Datum)} (h : Alike assigned other)
    {s : Settings} (hs : Overlays assigned s) : Overlays other s where
  numerator := hs.numerator.congr (h.mem_iff (by decide))
  fixedDenominator := hs.fixedDenominator.congr (h.mem_iff (by decide))
  catchFaults := hs.catchFaults.congr (h.mem_iff (by decide))
  seed := hs.seed.congr (h.mem_iff (by decide))

theorem Alike.symm {assigned other : List (Key × Datum)} (h : Alike assigned other) :
    Alike other assigned := ⟨h.known.symm, h.nodup.symm⟩

theorem Overlays.unique {assigned : List (Key × Datum)} (hnodup : (assigned.map Prod.fst).Nodup)
    {s other : Settings} (hs : Overlays assigned s) (hother : Overlays assigned other) :
    s = other := by
  have hread := (ofEntries?_eq_some_iff hnodup).mpr hs
  rw [(ofEntries?_eq_some_iff hnodup).mpr hother] at hread
  exact (Option.some.inj hread).symm

theorem Gives.eq_ok {assigned : List (Key × Datum)} {result : Except LoadFailure Settings}
    (h : Gives assigned result) (hnodup : (assigned.map Prod.fst).Nodup) {s : Settings}
    (hs : Overlays assigned s) : result = .ok s := by
  obtain ⟨other, rfl⟩ := (h.usable hnodup).mpr ((usable_iff hnodup).mpr ⟨s, hs⟩)
  rw [(h.overlays other rfl).unique hnodup hs]

theorem Gives.eq_malformed {assigned : List (Key × Datum)} {result : Except LoadFailure Settings}
    (h : Gives assigned result) (hnodup : (assigned.map Prod.fst).Nodup)
    (hunusable : ¬Usable assigned) : result = .error (.unusable .malformed) := by
  cases result with
  | ok s => exact absurd ((h.usable hnodup).mp ⟨s, rfl⟩) hunusable
  | error failure => rw [h.malformed failure rfl]

theorem Gives.eq {assigned other : List (Key × Datum)}
    {result result' : Except LoadFailure Settings} (h : Gives assigned result)
    (h' : Gives other result') (halike : Alike assigned other) : result = result' := by
  by_cases hnodup : (assigned.map Prod.fst).Nodup
  · have hnodup' := halike.nodup.mp hnodup
    have husable : Usable assigned ↔ Usable other := by
      rw [usable_iff hnodup, usable_iff hnodup']
      exact ⟨fun ⟨s, hs⟩ => ⟨s, halike.overlays hs⟩, fun ⟨s, hs⟩ => ⟨s, halike.symm.overlays hs⟩⟩
    by_cases hall : Usable assigned
    · obtain ⟨s, hs⟩ := (usable_iff hnodup).mp hall
      rw [h.eq_ok hnodup hs, h'.eq_ok hnodup' (halike.overlays hs)]
    · rw [h.eq_malformed hnodup hall, h'.eq_malformed hnodup' (husable.not.mp hall)]
  · rw [h.repeated hnodup, h'.repeated (halike.nodup.not.mp hnodup)]

/-- A file of rows gives the defaults, overlaid by what the rows assign to the settings, if all of
that is usable and no key is repeated, and else nothing. -/
theorem ofPath_overlay (tree : FileTree) (working : Location) (path : String) :
    (∀ content, tree.find working path = .ok (.file content) →
      (∀ assigned, Assigns content assigned → Gives assigned (ofPath tree working path) ∧
        ∀ (tree' : FileTree) (working' : Location) (path' : String) (content' : Bytes)
          (assigned' : List (Key × Datum)), tree'.find working' path' = .ok (.file content') →
          Assigns content' assigned' → Alike assigned assigned' →
            ofPath tree' working' path' = ofPath tree working path) ∧
      ((∀ text, content ≠ Utf8.encode text) →
        ofPath tree working path = .error (.unreadable .notUtf8))) ∧
    ∀ cause, tree.find working path = .error cause →
      ofPath tree working path = .error (.unreadable cause) := by
  refine ⟨fun content hfind => ?_, fun cause hfind => ?_⟩
  · rw [ofPath, hfind]
    refine ⟨fun assigned h => ⟨ofEntry_of_assigns h, ?_⟩, fun hcontent => ?_⟩
    · intro tree' working' path' content' assigned' hfind' h' halike
      rw [ofPath, hfind']
      exact ((ofEntry_of_assigns h).eq (ofEntry_of_assigns h') halike).symm
    · have hnone : Utf8.decode? content = none :=
        Option.eq_none_iff_forall_ne_some.mpr fun text htext =>
          hcontent text (Utf8.decode?_eq_some_iff.mp htext)
      simp only [ofEntry, Except.bind, Entry.text, hnone]
  · rw [ofPath, hfind]
    rfl

section Samples

def busyText : List Char :=
  "\ufeffnumerator = +1_000 # many\r\nname=\"\\u0041\"\n\nseed = 0xff".toList

def busyAssigned : List (Key × Datum) :=
  [("numerator".toList, .integer 1000), ("name".toList, .text ['A']), ("seed".toList, .integer 255)]

def plainText : List Char := "seed=255\nnumerator=1000\n".toList

def plainAssigned : List (Key × Datum) :=
  [("seed".toList, .integer 255), ("numerator".toList, .integer 1000)]

def treeOf (content : Bytes) : FileTree := FileTree.putFile ["divguard.toml"] content []

theorem find_treeOf (content : Bytes) :
    (treeOf content).find [] "/divguard.toml" = .ok (.file content) :=
  FileTree.find_putFile [] [] (by decide : ["divguard.toml"] ≠ ([] : Location)) (by decide) content

theorem isBlank_nil : IsBlank [] := fun _ h => nomatch h

theorem assigns_busyText : Assigns (Utf8.encode busyText) busyAssigned := by
  have hblank : IsBlank [' '] := List.forall_mem_singleton.mpr rfl
  have hthousand : Datum.Spells (.integer 1000) (['+'] ++ ['1', '_', '0', '0', '0']) :=
    .integer (.decimal (by decide) (.apart rfl (.next rfl (.next rfl (.last rfl)))) (by decide)
      (Numeral.int?_eq_some_iff.mp rfl))
  have hletter : Datum.Spells (.text ['A'])
      ('"' :: (('\\' :: 'u' :: ['0', '0', '4', '1']) ++ [] ++ ['"'])) :=
    .basic (.cons (.codePoint (by decide) (List.all_eq_true.mp (by decide)) rfl (by decide)) .nil)
  have hbyte : Datum.Spells (.integer 255) ('0' :: 'x' :: ['f', 'f']) :=
    .integer (.based .hexadecimal (.next rfl (.last rfl)))
  have hnumerator := IsRow.assignment isBlank_nil
    (.of_all (by decide) (by decide) : IsBare "numerator".toList) hblank hblank hthousand
    (.comment hblank (List.all_eq_true.mp (by decide : " many".toList.all Toml.isPlain = true)))
  have hname := IsRow.assignment isBlank_nil
    (.of_all (by decide) (by decide) : IsBare "name".toList) isBlank_nil isBlank_nil hletter
    (.blanks isBlank_nil)
  have hseed := IsRow.assignment isBlank_nil
    (.of_all (by decide) (by decide) : IsBare "seed".toList) hblank hblank hbyte
    (.blanks isBlank_nil)
  have hrows := IsDocument.next hnumerator (by decide : ['\r', '\n'] ∈ _)
    (.next hname (by decide : ['\n'] ∈ _)
      (.next (.filler (.blanks isBlank_nil)) (by decide : ['\n'] ∈ _) (.last hseed)))
  refine Assigns.rows (by decide : ['\ufeff'] ∈ _) hrows fun key n h _ => ?_
  obtain ⟨-, rfl⟩ | ⟨-, rfl⟩ :
      (key = "numerator".toList ∧ n = 1000) ∨ (key = "seed".toList ∧ n = 255) := by simpa using h
  · decide
  · decide

theorem assigns_plainText : Assigns (Utf8.encode plainText) plainAssigned := by
  have hbyte : Datum.Spells (.integer 255) ([] ++ ['2', '5', '5']) :=
    .integer (.decimal (by decide) (.next rfl (.next rfl (.last rfl))) (by decide)
      (Numeral.int?_eq_some_iff.mp rfl))
  have hthousand : Datum.Spells (.integer 1000) ([] ++ ['1', '0', '0', '0']) :=
    .integer (.decimal (by decide) (.next rfl (.next rfl (.next rfl (.last rfl)))) (by decide)
      (Numeral.int?_eq_some_iff.mp rfl))
  have hseed := IsRow.assignment isBlank_nil
    (.of_all (by decide) (by decide) : IsBare "seed".toList) isBlank_nil isBlank_nil hbyte
    (.blanks isBlank_nil)
  have hnumerator := IsRow.assignment isBlank_nil
    (.of_all (by decide) (by decide) : IsBare "numerator".toList) isBlank_nil isBlank_nil hthousand
    (.blanks isBlank_nil)
  have hrows := IsDocument.next hseed (by decide : ['\n'] ∈ _)
    (.next hnumerator (by decide : ['\n'] ∈ _) (.last (.filler (.blanks isBlank_nil))))
  refine Assigns.rows (by decide : [] ∈ _) hrows fun key n h _ => ?_
  obtain ⟨-, rfl⟩ | ⟨-, rfl⟩ :
      (key = "seed".toList ∧ n = 255) ∨ (key = "numerator".toList ∧ n = 1000) := by simpa using h
  · decide
  · decide

theorem overlays_busyAssigned : Overlays busyAssigned { numerator := 1000, seed := some 255 } := by
  have hnodup : (busyAssigned.map Prod.fst).Nodup := by decide
  have habsent (key : Key) (h : key ∉ busyAssigned.map Prod.fst) (datum : Datum) :
      (key, datum) ∉ busyAssigned := fun hm => h (List.mem_map_of_mem hm)
  exact
    { numerator := (sets_of_mem hnodup (by decide : _ ∈ busyAssigned)).mpr rfl
      fixedDenominator := (sets_of_absent (habsent _ (by decide))).mpr rfl
      catchFaults := (sets_of_absent (habsent _ (by decide))).mpr rfl
      seed := (sets_of_mem hnodup (by decide : _ ∈ busyAssigned)).mpr ⟨255, rfl, rfl⟩ }

theorem ofPath_overlay_busyText :
    ofPath (treeOf (Utf8.encode busyText)) [] "/divguard.toml" =
        .ok { numerator := 1000, seed := some 255 } ∧
      ofPath (treeOf (Utf8.encode plainText)) [] "/divguard.toml" =
        ofPath (treeOf (Utf8.encode busyText)) [] "/divguard.toml" ∧
      ofPath (treeOf [0xff]) [] "/divguard.toml" = .error (.unreadable .notUtf8) ∧
      ofPath [] [] "/divguard.toml" = .error (.unreadable .notFound) := by
  have hbusy := ((ofPath_overlay _ [] _).1 _ (find_treeOf (Utf8.encode busyText))).1 _
    assigns_busyText
  have halike : Alike busyAssigned plainAssigned := ⟨by decide, by decide⟩
  refine ⟨hbusy.1.eq_ok (by decide) overlays_busyAssigned,
    hbusy.2 _ [] _ _ _ (find_treeOf (Utf8.encode plainText)) assigns_plainText halike, ?_,
    (ofPath_overlay [] [] _).2 _ rfl⟩
  refine ((ofPath_overlay _ [] _).1 _ (find_treeOf [0xff])).2 fun text htext => ?_
  have hdecode := Utf8.decode?_eq_some_iff.mpr htext
  contradiction

end Samples

end GuardedDivision.Settings
