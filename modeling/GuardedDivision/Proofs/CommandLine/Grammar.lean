import GuardedDivision.CommandLine.Reader
import GuardedDivision.Proofs.Numeral

namespace GuardedDivision

def Operation.word : Operation → List Char
  | .divide => "divide".toList
  | .modulo => "modulo".toList
  | .float => "float".toList

def Route.word : Route → List Char
  | .guarded => "guarded".toList
  | .unguarded => "unguarded".toList

namespace CommandLine

def Printing.word : Printing → List Char
  | .default => "default".toList
  | .current => "current".toList

def SourceKind.word : SourceKind → List Char
  | .zero => "zero".toList
  | .fixed => "fixed".toList
  | .random => "random".toList
  | .console => "console".toList

inductive Name.Denotes : Name → List Char → Setting → Prop
  | config {path : List Char} : path ≠ [] → Denotes .config path (.config (String.ofList path))
  | printConfig (printing : Printing) :
    Denotes .printConfig printing.word (.printConfig printing)
  | source (kind : SourceKind) : Denotes .source kind.word (.source kind)
  | operation (operation : Operation) : Denotes .operation operation.word (.operation operation)
  | path (route : Route) : Denotes .path route.word (.path route)
  | value {text : List Char} {v : Int32} :
    Numeral.Denotes text v.toInt → Denotes .value text (.value v)
  | numerator {text : List Char} {v : Int32} :
    Numeral.Denotes text v.toInt → Denotes .numerator text (.numerator v)

def Level.names : Level → List Name
  | .top => [.config, .printConfig]
  | .demonstration => [.config]
  | .single => [.config, .source, .value, .operation, .path, .numerator]

inductive Level.IsCalled : Level → List Char → Prop
  | demonstration : IsCalled .demonstration "demo".toList
  | single : IsCalled .single "run".toList

/-- Letters of flags after one hyphen, the word of a flag or an option after two, or the word of a
subcommand. The version is left out. -/
inductive Word.Spells (level : Level) : List Char → Word → Prop
  | letters (flags : List Flag) : flags ≠ [] → .version ∉ flags →
    Spells level ('-' :: flags.map Flag.letter) (.flags flags)
  | flag (flag : Flag) : flag ≠ .version → Spells level ('-' :: '-' :: flag.word) (.flags [flag])
  | option {name : Name} (value : List Char) : name ∈ level.names →
    Spells level ('-' :: '-' :: (name.word ++ '=' :: value)) (.option name value)
  | awaiting {name : Name} : name ∈ level.names →
    Spells level ('-' :: '-' :: name.word) (.awaiting name)
  | command {own : Level} {word : List Char} : level = .top → own.IsCalled word →
    Spells level word (.command own)

/-- A text that starts like an option: it can be the next argument only if a number is awaited. -/
def IsDashed (text : List Char) : Prop := text.head? = some '-' ∧ text ≠ ['-']

/-- The arguments that belong together at a level, and the settings that they make. -/
inductive Group (level : Level) : List String → List Setting → Prop
  | flags {argument : String} {flags : List Flag} :
    Word.Spells level argument.toList (.flags flags) → Group level [argument] (flags.map .flag)
  | option {argument : String} {name : Name} {value : List Char} {s : Setting} :
    Word.Spells level argument.toList (.option name value) → name.Denotes value s →
    Group level [argument] [s]
  | awaiting {argument value : String} {name : Name} {s : Setting} :
    Word.Spells level argument.toList (.awaiting name) →
    (name = .value ∨ name = .numerator ∨ ¬IsDashed value.toList) → name.Denotes value.toList s →
    Group level [argument, value] [s]

inductive Groups (level : Level) : List String → List Setting → Prop
  | nil : Groups level [] []
  | cons {first rest : List String} {given later : List Setting} : Group level first given →
    Groups level rest later → Groups level (first ++ rest) (given ++ later)

def AllOnce (settings : List Setting) : Prop := (settings.map Setting.kind).Nodup

def IsEnd (arguments : List String) : Prop := arguments = [] ∨ arguments = ["--"]

/-- The arguments that make a command line. Without a subcommand it is the demonstration. -/
inductive Derives : List String → CommandLine → Prop
  | alone {before last : List String} {top : List Setting} :
    Groups .top before top → AllOnce top → IsEnd last →
    Derives (before ++ last) { top, level := .demonstration, own := [] }
  | subcommand {before after last : List String} {word : String} {level : Level}
    {top own : List Setting} : Groups .top before top → AllOnce top →
    Word.Spells .top word.toList (.command level) → Groups level after own → AllOnce own →
    IsEnd last →
    Derives (before ++ word :: (after ++ last)) { top, level, own }

namespace Flag

theorem isAt_of_ne_version {flag : Flag} (h : flag ≠ .version) (level : Level) :
    flag.isAt level = true := by
  cases flag with
  | verbose | quiet => rfl
  | version => contradiction

theorem letter_ne_hyphen (flag : Flag) : flag.letter ≠ '-' := by
  cases flag <;> decide

theorem ofLetter?_eq_some_iff {level : Level} {letter : Char} {flag : Flag} :
    ofLetter? level letter = some flag ↔ flag.isAt level = true ∧ flag.letter = letter := by
  constructor
  · intro h
    simpa using List.find?_some h
  · rintro ⟨hat, rfl⟩
    revert hat
    cases flag <;> cases level <;> decide

theorem ofWord?_eq_some_iff {level : Level} {word : List Char} {flag : Flag} :
    ofWord? level word = some flag ↔ flag.isAt level = true ∧ flag.word = word := by
  constructor
  · intro h
    simpa using List.find?_some h
  · rintro ⟨hat, rfl⟩
    revert hat
    cases flag <;> cases level <;> decide

end Flag

theorem Printing.ofText?_eq_some_iff {text : List Char} {printing : Printing} :
    ofText? text = some printing ↔ printing.word = text := by
  fun_cases ofText? text with
  | case1 h | case2 _ h =>
    rw [h]
    cases printing <;> decide
  | case3 =>
    simp only [reduceCtorEq, false_iff]
    rintro rfl
    cases printing <;> contradiction

theorem SourceKind.ofText?_eq_some_iff {text : List Char} {kind : SourceKind} :
    ofText? text = some kind ↔ kind.word = text := by
  fun_cases ofText? text with
  | case1 h | case2 _ h | case3 _ _ h | case4 _ _ _ h =>
    rw [h]
    cases kind <;> decide
  | case5 =>
    simp only [reduceCtorEq, false_iff]
    rintro rfl
    cases kind <;> contradiction

theorem operation?_eq_some_iff {text : List Char} {operation : Operation} :
    operation? text = some operation ↔ operation.word = text := by
  fun_cases operation? text with
  | case1 h | case2 _ h | case3 _ _ h =>
    rw [h]
    cases operation <;> decide
  | case4 =>
    simp only [reduceCtorEq, false_iff]
    rintro rfl
    cases operation <;> contradiction

theorem route?_eq_some_iff {text : List Char} {route : Route} :
    route? text = some route ↔ route.word = text := by
  fun_cases route? text with
  | case1 h | case2 _ h =>
    rw [h]
    cases route <;> decide
  | case3 =>
    simp only [reduceCtorEq, false_iff]
    rintro rfl
    cases route <;> contradiction

theorem Level.ofCommand?_eq_some_iff {word : List Char} {level : Level} :
    ofCommand? word = some level ↔ level.IsCalled word := by
  constructor
  · intro h
    unfold ofCommand? at h
    split at h
    · next hw =>
      obtain rfl := Option.some.inj h
      exact hw ▸ .demonstration
    · split at h
      · next hw =>
        obtain rfl := Option.some.inj h
        exact hw ▸ .single
      · contradiction
  · intro h
    cases h <;> decide

theorem isDashed_iff {text : List Char} : IsDashed text ↔ ∃ c rest, text = '-' :: c :: rest := by
  unfold IsDashed
  cases text with
  | nil => simp
  | cons first text => cases text <;> simp

namespace Name

theorem isAt_iff {name : Name} {level : Level} : name.isAt level = true ↔ name ∈ level.names := by
  cases name <;> cases level <;> decide

theorem ofWord?_eq_some_iff {level : Level} {word : List Char} {name : Name} :
    ofWord? level word = some name ↔ name ∈ level.names ∧ name.word = word := by
  rw [← isAt_iff]
  constructor
  · intro h
    simpa using List.find?_some h
  · rintro ⟨hat, rfl⟩
    revert hat
    cases name <;> cases level <;> decide

theorem equals_not_mem_word (name : Name) : '=' ∉ name.word := by
  cases name <;> decide

theorem takes_iff {name : Name} {text : List Char} : name.takes text = true ↔
    name = .value ∨ name = .numerator ∨ ¬IsDashed text := by
  rw [isDashed_iff]
  unfold takes
  split <;> simp_all

theorem setting?_eq_some_iff {name : Name} {text : List Char} {s : Setting} :
    name.setting? text = some s ↔ name.Denotes text s := by
  constructor
  · intro h
    unfold setting? at h
    cases name with
    | config =>
      dsimp only at h
      split at h
      · contradiction
      · next hne =>
        obtain rfl := Option.some.inj h
        exact .config hne
    | printConfig =>
      obtain ⟨printing, hp, rfl⟩ := Option.map_eq_some_iff.mp h
      rw [← Printing.ofText?_eq_some_iff.mp hp]
      exact .printConfig printing
    | source =>
      obtain ⟨kind, hk, rfl⟩ := Option.map_eq_some_iff.mp h
      rw [← SourceKind.ofText?_eq_some_iff.mp hk]
      exact .source kind
    | value =>
      obtain ⟨v, hv, rfl⟩ := Option.map_eq_some_iff.mp h
      exact .value (Numeral.int32?_eq_some_iff.mp hv)
    | operation =>
      obtain ⟨operation, ho, rfl⟩ := Option.map_eq_some_iff.mp h
      rw [← operation?_eq_some_iff.mp ho]
      exact .operation operation
    | path =>
      obtain ⟨route, hr, rfl⟩ := Option.map_eq_some_iff.mp h
      rw [← route?_eq_some_iff.mp hr]
      exact .path route
    | numerator =>
      obtain ⟨v, hv, rfl⟩ := Option.map_eq_some_iff.mp h
      exact .numerator (Numeral.int32?_eq_some_iff.mp hv)
  · intro h
    cases h with
    | config hne => exact if_neg hne
    | printConfig => rw [setting?, Printing.ofText?_eq_some_iff.mpr rfl, Option.map_some]
    | source => rw [setting?, SourceKind.ofText?_eq_some_iff.mpr rfl, Option.map_some]
    | operation => rw [setting?, operation?_eq_some_iff.mpr rfl, Option.map_some]
    | path => rw [setting?, route?_eq_some_iff.mpr rfl, Option.map_some]
    | value hv => rw [setting?, Numeral.int32?_eq_some_iff.mpr hv, Option.map_some]
    | numerator hv => rw [setting?, Numeral.int32?_eq_some_iff.mpr hv, Option.map_some]

end Name

end CommandLine

end GuardedDivision
