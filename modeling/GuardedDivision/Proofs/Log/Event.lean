import GuardedDivision.Log.Event
import Mathlib.Data.List.Forall2

namespace GuardedDivision

inductive Source.Called : Source → List Char → Prop
  | zero : Called .zero "zero".toList
  | fixed (value : Int32) :
    Called (.fixed value) ("fixed(".toList ++ Numeral.ofInt value.toInt ++ ")".toList)
  | random : Called .random "random".toList
  | console : Called .console "console".toList

theorem Source.called_text (s : Source) : s.Called s.text := by
  cases s with
  | zero => exact .zero
  | fixed value => exact .fixed value
  | random => exact .random
  | console => exact .console

inductive Route.Called : Route → List Char → Prop
  | guarded : Called .guarded "Guarded".toList
  | unguarded : Called .unguarded "Unguarded".toList

theorem Route.called_text (r : Route) : r.Called r.text := by
  cases r with
  | guarded => exact .guarded
  | unguarded => exact .unguarded

namespace Log.Event

/-- How a character of a path is shown in a message. -/
inductive ShownAs : Char → List Char → Prop
  | bell : ShownAs '\x07' "\\x07".toList
  | backspace : ShownAs '\x08' "\\x08".toList
  | formFeed : ShownAs '\x0c' "\\x0c".toList
  | escape : ShownAs '\x1b' "\\x1b".toList
  | delete : ShownAs '\x7f' "\\x7f".toList
  | control {c : Char} : 0x80 ≤ c.toNat → c.toNat ≤ 0x9F →
    ShownAs c ("\\u\x7b".toList ++ Nat.toDigits 16 c.toNat ++ "\x7d".toList)
  | itself {c : Char} : c ∉ ['\x07', '\x08', '\x0c', '\x1b', '\x7f'] →
    ¬(0x80 ≤ c.toNat ∧ c.toNat ≤ 0x9F) → ShownAs c [c]

theorem shownAs_shown (c : Char) : ShownAs c (shown c) := by
  rw [shown]
  split
  · next h =>
    obtain rfl | rfl | rfl | rfl | rfl := h
    · exact .bell
    · exact .backspace
    · exact .formFeed
    · exact .escape
    · exact .delete
  · next hshort =>
    split
    · next hcontrol => exact .control hcontrol.1 hcontrol.2
    · next hcontrol => exact .itself (by simpa using hshort) hcontrol

/-- An event of a level and a target, with the names of its fields and the line that shows it. -/
structure Says (e : Event) (level : Level) (target : String) (fields : List String)
    (line : List Char) : Prop where
  level_eq : e.level = level
  target_eq : e.target = target
  fields_eq : e.fields = fields
  text_eq : e.text = line

def TellsLoading (e : Event) (path : String) : Prop :=
  ∃ parts, List.Forall₂ ShownAs path.toList parts ∧ e.Says .info "divguard" ["message"]
    ("INFO divguard: Loading config from: ".toList ++ parts.flatten)

def TellsLoaded (e : Event) (path : String) : Prop :=
  e.Says .debug "divguard::config" ["message", "path"]
    ("DEBUG divguard::config: loaded configuration path=".toList ++ path.toList)

def TellsDefaults (e : Event) (failure : LoadFailure) : Prop :=
  e.Says .warn "divguard" ["message"]
    ("WARN divguard: Using default configuration: ".toList ++ failure.message)

def TellsDemonstration (e : Event) : Prop :=
  e.Says .debug "divguard::runner" ["message", "ack"]
    "DEBUG divguard::runner: running demo ack=1".toList

def TellsCase (e : Event) (c : Case) (d : Denominator) : Prop :=
  ∃ source route, c.source.Called source ∧ c.route.Called route ∧
    e.Says .debug "divguard_core::case" ["message", "source", "denominator", "path"]
      ("DEBUG divguard_core::case: running case source=".toList ++ source ++
        " denominator=".toList ++ d.text ++ " path=".toList ++ route)

def TellsFault (e : Event) (message : List Char) (numerator : Int32) (d : Denominator) : Prop :=
  e.Says .warn "divguard_core::case" ["message", "numerator", "denominator"]
    ("WARN divguard_core::case: unguarded sink faulted: ".toList ++ message ++
      " numerator=".toList ++ Numeral.ofInt numerator.toInt ++ " denominator=".toList ++ d.text)

variable {e : Event}

theorem TellsLoading.target_eq {path : String} (h : e.TellsLoading path) :
    e.target = "divguard" := by
  obtain ⟨_, _, hevent⟩ := h
  exact hevent.target_eq

theorem TellsCase.target_eq {c : Case} {d : Denominator} (h : e.TellsCase c d) :
    e.target = "divguard_core::case" := by
  obtain ⟨_, _, _, _, hevent⟩ := h
  exact hevent.target_eq

/-- The line of an event is its message after the level and the target. -/
theorem says_of_message {level : Level} {target : String} {fields : List String}
    {start first rest : List Char} (hlevel : e.level = level) (htarget : e.target = target)
    (hfields : e.fields = fields) (hmessage : e.message = start ++ rest)
    (hfirst : level.name.toList ++ ' ' :: target.toList ++ ": ".toList ++ start = first) :
    e.Says level target fields (first ++ rest) where
  level_eq := hlevel
  target_eq := htarget
  fields_eq := hfields
  text_eq := by rw [text, hlevel, htarget, hmessage, ← List.append_assoc, hfirst]

theorem tells_loading (path : String) : (loading path).TellsLoading path := by
  have hparts : List.Forall₂ ShownAs path.toList (path.toList.map shown) :=
    List.forall₂_map_right_iff.mpr (List.forall₂_same.mpr fun c _ => shownAs_shown c)
  exact ⟨_, hparts, says_of_message rfl rfl rfl rfl (by decide)⟩

theorem tells_loaded (path : String) : (loaded path).TellsLoaded path :=
  says_of_message rfl rfl rfl rfl (by decide)

theorem tells_usingDefaults (failure : LoadFailure) :
    (usingDefaults failure).TellsDefaults failure :=
  says_of_message rfl rfl rfl rfl (by decide)

theorem tells_runningDemonstration : runningDemonstration.TellsDemonstration :=
  ⟨rfl, rfl, rfl, by decide⟩

theorem tells_runningCase (c : Case) (d : Denominator) : (runningCase c d).TellsCase c d := by
  have hmessage : (runningCase c d).message = "running case source=".toList ++ (c.source.text ++
      (" denominator=".toList ++ (d.text ++ (" path=".toList ++ c.route.text)))) := by
    change "running case source=".toList ++ c.source.text ++ " denominator=".toList ++ d.text ++
      " path=".toList ++ c.route.text = _
    simp only [List.append_assoc]
  refine ⟨_, _, c.source.called_text, c.route.called_text, ?_⟩
  simp only [List.append_assoc]
  exact says_of_message rfl rfl rfl hmessage (by decide)

theorem tells_faulted (message : List Char) (numerator : Int32) (d : Denominator) :
    (faulted message numerator d).TellsFault message numerator d := by
  have hmessage : (faulted message numerator d).message = "unguarded sink faulted: ".toList ++
      (message ++ (" numerator=".toList ++ (Numeral.ofInt numerator.toInt ++
        (" denominator=".toList ++ d.text)))) := by
    change "unguarded sink faulted: ".toList ++ message ++ " numerator=".toList ++
      Numeral.ofInt numerator.toInt ++ " denominator=".toList ++ d.text = _
    simp only [List.append_assoc]
  rw [TellsFault]
  simp only [List.append_assoc]
  exact says_of_message rfl rfl rfl hmessage (by decide)

end Log.Event

end GuardedDivision
