import GuardedDivision.Proofs.Console
import GuardedDivision.Proofs.Quoted

namespace GuardedDivision

namespace Console

theorem IsFirstLine.not_mem_dropLast {bytes line rest : Bytes} (h : IsFirstLine bytes line rest) :
    (0x0A : UInt8) ∉ line.dropLast := by
  cases h with
  | ended hbefore => rwa [List.dropLast_concat]
  | unended hline => exact fun hm => hline (List.dropLast_subset _ hm)

theorem IsFirstLine.newline_not_mem {bytes rest : Bytes} {text inner : List Char}
    (h : IsFirstLine bytes (Utf8.encode text) rest) (hinner : Blank.IsTrimmed text inner) :
    '\n' ∉ inner := by
  intro hm
  obtain ⟨first, second, rfl⟩ := List.append_of_mem hm
  obtain ⟨before, after, rfl, -, -⟩ := hinner.ends
  have hsecond : second ≠ [] := by
    rintro rfl
    have hblank := hinner.last '\n' List.getLast?_concat
    contradiction
  have hsplit : before ++ (first ++ '\n' :: second) ++ after =
      (before ++ first ++ ['\n']) ++ (second ++ after) := by simp
  have hne : Utf8.encode (second ++ after) ≠ [] :=
    Utf8.encode_ne_nil (List.append_ne_nil_of_left_ne_nil hsecond after)
  apply h.not_mem_dropLast
  rw [hsplit, Utf8.encode_append, List.dropLast_append_of_ne_nil hne, Utf8.encode_concat_newline]
  simp

end Console

/-- What is known of a text that a way of reading does not take for a number. -/
structure Offending {γ α : Type} (read : Input γ → Except ReadFailure α × Input γ)
    (text : List Char) : Prop where
  newline : '\n' ∉ text
  first : ∀ c ∈ text.head?, Blank.isBlank c = false
  last : ∀ c ∈ text.getLast?, Blank.isBlank c = false
  again (words : γ) (later : Bytes) :
    read { unread := Utf8.encode text ++ 0x0A :: later, words } =
      (.error (.notNumber text), { unread := later, words })

namespace Source

variable {γ α : Type} [WordSource γ] {ofInt32 : Int32 → α} {ofText? : List Char → Option α}

theorem offending_of_read {source : Source} {input : Input γ} {text : List Char}
    (h : (source.read ofInt32 ofText? input).1 = .error (.notNumber text)) :
    Offending (γ := γ) (source.read ofInt32 ofText?) text := by
  cases source with
  | zero | fixed value | random => contradiction
  | console =>
    have hline := Console.isFirstLine_cutLine input.unread
    have hreading : Console.IsReading (fun number v => ofText? number = some v) _
        (Console.readLine ofText? (Console.cutLine input.unread).1) :=
      Console.isReading_readLine (fun _ _ => Iff.rfl) _
    obtain ⟨-, whole, hwhole, htrimmed, hnone⟩ := (hreading.notNumber text).mp h
    rw [hwhole] at hline
    have hnewline := hline.newline_not_mem htrimmed
    refine ⟨hnewline, htrimmed.first, htrimmed.last, fun words later => ?_⟩
    have hagain : Blank.IsTrimmed (text ++ ['\n']) text := {
      ends := ⟨[], ['\n'], rfl, List.forall_mem_nil _, List.forall_mem_singleton.mpr rfl⟩
      first := htrimmed.first
      last := htrimmed.last }
    have hne : Utf8.encode (text ++ ['\n']) ≠ [] := Utf8.encode_ne_nil (by simp)
    have herror : Console.readLine ofText? (Utf8.encode (text ++ ['\n'])) =
        .error (.notNumber text) := by
      have hread : ofText? (Blank.trim (text ++ ['\n'])) = none := by
        rw [hagain.trim_eq]
        exact Option.eq_none_iff_forall_ne_some.mpr hnone
      rw [Console.readLine_eq_error hne hread, hagain.trim_eq]
    rw [read, Console.cutLine_append (Utf8.newline_not_mem_encode hnewline),
      ← Utf8.encode_concat_newline]
    exact congrArg (·, _) herror

end Source

namespace ReadFailure

theorem message_notNumber_inj {text other : List Char}
    (h : (notNumber text).message = (notNumber other).message) : text = other :=
  Quoted.encode_inj (List.append_cancel_left h)

theorem shows_of_mem_message {text : List Char} {c : Char}
    (h : c ∈ (notNumber text).message) : Category.Shows c := by
  obtain hc | hc := List.mem_append.mp h
  · exact Category.shows_of_all (by decide) hc
  · exact Quoted.shows_of_mem_encode hc

/-- The message about a text that is no number tells the text: it is decoded from what the message
ends in, so other texts have other messages. -/
theorem notNumber_faithful {γ : Type} [WordSource γ] :
    (∀ (source : Source) (input : Input γ) (text : List Char),
      ((source.readInt input).1 = .error (.notNumber text) →
        Offending (γ := γ) source.readInt text) ∧
      ((source.readFloat input).1 = .error (.notNumber text) →
        Offending (γ := γ) source.readFloat text)) ∧
    (∀ text, ∃ quoted, (notNumber text).message = "not a number: ".toList ++ quoted ∧
      Quoted.decode quoted = some text) ∧
    (∀ text other, (notNumber text).message = (notNumber other).message ↔ text = other) ∧
    ∀ text, '\n' ∉ (notNumber text).message ∧
      ∀ c ∈ (notNumber text).message, Category.Shows c := by
  refine ⟨fun source input text => ⟨Source.offending_of_read, Source.offending_of_read⟩,
    fun text => ⟨_, rfl, Quoted.decode_encode text⟩, fun text other => ?_, fun text => ?_⟩
  · exact ⟨message_notNumber_inj, fun h => h ▸ rfl⟩
  · refine ⟨fun hm => ?_, fun c => shows_of_mem_message⟩
    have hcontrol := (shows_of_mem_message hm).control
    contradiction

theorem notNumber_faithful_quotes :
    Offending (γ := WordCycle) Source.console.readInt "te\"n\\".toList ∧
      Offending (γ := WordCycle) Source.console.readFloat "te\"n\\".toList := by
  have hreads := (notNumber_faithful (γ := WordCycle)).1 Source.console
    { unread := Utf8.encode "\u3000te\"n\\\t\n7".toList, words := { words := [] } }
    "te\"n\\".toList
  exact ⟨hreads.1 (by decide +kernel), hreads.2 (by decide +kernel)⟩

end ReadFailure

end GuardedDivision
