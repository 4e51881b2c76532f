import GuardedDivision.Proofs.CommandLine.Meaning

namespace GuardedDivision.CommandLine

/-- The arguments that say how much is logged: letters of flags after one hyphen, or the word of a
flag after two. The version is left out. -/
def isVerbosity (argument : String) : Bool :=
  match argument.toList with
  | '-' :: '-' :: word => word = Flag.verbose.word || word = Flag.quiet.word
  | '-' :: c :: letters => (c :: letters).all fun c => c = 'v' || c = 'q'
  | _ => false

def withoutVerbosity (arguments : List String) : List String :=
  arguments.filter fun argument => !isVerbosity argument

namespace Setting

def isFlag : Setting → Bool
  | .flag _ => true
  | _ => false

end Setting

def withoutFlags (settings : List Setting) : List Setting := settings.filter fun s => !s.isFlag

def Stop.unflagged : Stop → Stop
  | .version => .version
  | .finished given => .finished (withoutFlags given)
  | .command given level rest => .command (withoutFlags given) level (withoutVerbosity rest)

def unflagged (line : CommandLine) : CommandLine where
  top := withoutFlags line.top
  level := line.level
  own := withoutFlags line.own

def Request.unflagged : Request → Request
  | .version => .version
  | .command line => .command line.unflagged

section Arguments

variable {level : Level} {argument : String} {word : Word} {flags : List Flag}

theorem eq_letter_of_ne_version {flag : Flag} (h : flag ≠ .version) :
    flag.letter = 'v' ∨ flag.letter = 'q' := by
  cases flag with
  | verbose => exact .inl rfl
  | quiet => exact .inr rfl
  | version => contradiction

theorem exists_flags_of_letters {letters : List Char} (h : ∀ c ∈ letters, c = 'v' ∨ c = 'q') :
    ∃ flags : List Flag, .version ∉ flags ∧ letters = flags.map Flag.letter := by
  induction letters with
  | nil => exact ⟨[], List.not_mem_nil, rfl⟩
  | cons c letters ih =>
    obtain ⟨hc, hletters⟩ := List.forall_mem_cons.mp h
    obtain ⟨flags, hversion, rfl⟩ := ih hletters
    obtain rfl | rfl := hc
    · exact ⟨.verbose :: flags, by simp [hversion], rfl⟩
    · exact ⟨.quiet :: flags, by simp [hversion], rfl⟩

theorem isVerbosity_of_spells (h : Word.Spells level argument.toList (.flags flags)) :
    isVerbosity argument = true := by
  unfold isVerbosity
  generalize argument.toList = text at h
  cases h with
  | letters _ hne hversion =>
    have hall : ∀ c ∈ flags.map Flag.letter, c = 'v' ∨ c = 'q' := by
      intro c hc
      obtain ⟨flag, hflag, rfl⟩ := List.mem_map.mp hc
      exact eq_letter_of_ne_version fun he => hversion (he ▸ hflag)
    obtain ⟨flag, later, rfl⟩ := List.exists_cons_of_ne_nil hne
    rw [List.map_cons] at hall ⊢
    split
    · next heq => exact absurd (List.cons.inj (List.cons.inj heq).2).1 flag.letter_ne_hyphen
    · next heq =>
      rw [← (List.cons.inj heq).2]
      simpa using hall
    · next hne => exact absurd rfl (hne _ _)
  | flag flag hflag =>
    cases flag with
    | verbose | quiet => rfl
    | version => contradiction

theorem exists_spells_of_isVerbosity (h : isVerbosity argument = true) (level : Level) :
    ∃ flags, Word.Spells level argument.toList (.flags flags) := by
  unfold isVerbosity at h
  split at h
  · next word heq =>
    rw [heq]
    obtain rfl | rfl : word = Flag.verbose.word ∨ word = Flag.quiet.word := by simpa using h
    · exact ⟨_, Word.Spells.flag .verbose nofun⟩
    · exact ⟨_, Word.Spells.flag .quiet nofun⟩
  · next c letters _ heq =>
    have hletters : ∀ d ∈ c :: letters, d = 'v' ∨ d = 'q' := by simpa using h
    obtain ⟨flags, hversion, hflags⟩ := exists_flags_of_letters hletters
    rw [heq, hflags]
    refine ⟨flags, .letters flags ?_ hversion⟩
    rintro rfl
    contradiction
  · contradiction

theorem isVerbosity_eq_false (h : Word.ofArgument? level argument.toList = some word)
    (hword : ∀ flags, word ≠ .flags flags) : isVerbosity argument = false := by
  rw [Bool.eq_false_iff]
  intro hverbosity
  obtain ⟨flags, hflags⟩ := exists_spells_of_isVerbosity hverbosity level
  rw [Word.ofArgument?_of_spells hflags] at h
  exact hword flags (Option.some.inj h).symm

theorem exists_cons_of_isVerbosity (h : isVerbosity argument = true) :
    ∃ c rest, argument.toList = '-' :: c :: rest ∧ c.isDigit = false := by
  unfold isVerbosity at h
  split at h
  · next word heq => exact ⟨'-', word, heq, rfl⟩
  · next c letters _ heq =>
    obtain ⟨rfl | rfl, -⟩ : (c = 'v' ∨ c = 'q') ∧ _ := by simpa using h
    · exact ⟨'v', letters, heq, rfl⟩
    · exact ⟨'q', letters, heq, rfl⟩
  · contradiction

theorem not_denotes_of_not_isDigit {c : Char} {rest : List Char} (hc : c.isDigit = false)
    (n : Int) : ¬Numeral.Denotes ('-' :: c :: rest) n := by
  intro h
  cases h with
  | unsigned hdigits => exact nomatch hdigits.isDigit '-' List.mem_cons_self
  | negative hdigits =>
    have htrue := hdigits.isDigit c List.mem_cons_self
    rw [hc] at htrue
    contradiction

theorem isVerbosity_eq_false_of_takes {name : Name} {s : Setting}
    (htakes : name.takes argument.toList = true)
    (hvalue : name.setting? argument.toList = some s) : isVerbosity argument = false := by
  rw [Bool.eq_false_iff]
  intro hverbosity
  obtain ⟨c, rest, htext, hc⟩ := exists_cons_of_isVerbosity hverbosity
  rw [htext] at htakes hvalue
  have hdenotes := Name.setting?_eq_some_iff.mp hvalue
  obtain rfl | rfl | hdashed := Name.takes_iff.mp htakes
  · cases hdenotes with
    | value h => exact not_denotes_of_not_isDigit hc _ h
  · cases hdenotes with
    | numerator h => exact not_denotes_of_not_isDigit hc _ h
  · exact hdashed (isDashed_iff.mpr ⟨c, rest, rfl⟩)

end Arguments

section Reading

variable {level : Level} {given settings result : List Setting} {s : Setting} {stop : Stop}

theorem AllOnce.withoutFlags (h : AllOnce given) : AllOnce (withoutFlags given) :=
  List.Nodup.sublist (List.filter_sublist.map Setting.kind) h

theorem AllOnce.withoutFlags_append (h : AllOnce (given ++ settings)) :
    AllOnce (CommandLine.withoutFlags given ++ settings) :=
  List.Nodup.sublist ((List.filter_sublist.append_right settings).map Setting.kind) h

theorem withoutFlags_append_flags (given : List Setting) (flags : List Flag) :
    withoutFlags (given ++ flags.map .flag) = withoutFlags given := by
  have hnone : withoutFlags (flags.map .flag) = [] := by
    rw [withoutFlags, List.filter_eq_nil_iff]
    intro s hs
    obtain ⟨flag, -, rfl⟩ := List.mem_map.mp hs
    exact Bool.false_ne_true
  rw [withoutFlags, List.filter_append, ← withoutFlags, ← withoutFlags, hnone, List.append_nil]

theorem give_unflagged {name : Name} {text : List Char} (hgiven : AllOnce given)
    (hversion : .flag .version ∉ given)
    (h : (name.setting? text).bind (Setting.give given) = some result) :
    AllOnce result ∧ .flag .version ∉ result ∧
      (name.setting? text).bind (Setting.give (withoutFlags given)) =
        some (withoutFlags result) := by
  obtain ⟨s, hs, hadd⟩ := Option.bind_eq_some_iff.mp h
  obtain ⟨honce, rfl⟩ := (give_eq_some_iff hgiven).mp hadd
  have hdenotes := Name.setting?_eq_some_iff.mp hs
  have hkept : withoutFlags (given ++ [s]) = withoutFlags given ++ [s] := by
    have hflag : s.isFlag = false := by cases hdenotes <;> rfl
    simp [withoutFlags, hflag]
  refine ⟨honce, fun hm => ?_, ?_⟩
  · obtain hm | hm := List.mem_append.mp hm
    · exact hversion hm
    · exact hdenotes.ne_flag .version (List.mem_singleton.mp hm)
  · rw [hs, Option.bind_some, hkept]
    exact (give_eq_some_iff hgiven.withoutFlags).mpr ⟨honce.withoutFlags_append, rfl⟩

theorem withoutVerbosity_of_pos {argument : String} (h : isVerbosity argument = true)
    (rest : List String) : withoutVerbosity (argument :: rest) = withoutVerbosity rest :=
  List.filter_cons_of_neg (by simp [h])

theorem withoutVerbosity_of_neg {argument : String} (h : isVerbosity argument = false)
    (rest : List String) :
    withoutVerbosity (argument :: rest) = argument :: withoutVerbosity rest :=
  List.filter_cons_of_pos (by simp [h])

theorem ne_hyphens_of_ofArgument? {argument : String} {word : Word}
    (h : Word.ofArgument? level argument.toList = some word) : argument ≠ "--" := by
  rintro rfl
  have hnone : Word.ofArgument? level "--".toList = none := by cases level <;> decide
  exact nomatch hnone.symm.trans h

theorem readLevel_unflagged {arguments : List String} (hgiven : AllOnce given)
    (hversion : .flag .version ∉ given) (h : readLevel level given arguments = some stop) :
    readLevel level (withoutFlags given) (withoutVerbosity arguments) = some stop.unflagged := by
  have hend {argument : String} {word : Word} {rest : List String}
      (hword : Word.ofArgument? level argument.toList = some word) :
      ¬(argument = "--" ∧ rest = []) := fun he => ne_hyphens_of_ofArgument? hword he.1
  fun_induction readLevel level given arguments with
  | case1 =>
    obtain rfl := Option.some.inj h
    rfl
  | case2 given argument rest hlast =>
    obtain rfl := Option.some.inj h
    obtain ⟨rfl, rfl⟩ := hlast
    rw [withoutVerbosity_of_neg (by decide), readLevel, if_pos ⟨rfl, rfl⟩]
    rfl
  | case5 given argument rest _ flags hword given' hgive hasked =>
    obtain rfl := Option.some.inj h
    obtain ⟨honce, rfl⟩ := (foldlM_give hgiven).mp hgive
    have hkept : isVerbosity argument = false := by
      rw [Bool.eq_false_iff]
      intro hverbosity
      obtain ⟨others, hspells⟩ := exists_spells_of_isVerbosity hverbosity level
      rw [Word.ofArgument?_of_spells hspells] at hword
      obtain rfl := Word.flags.inj (Option.some.inj hword)
      exact (Group.flags hspells).version_not_mem
        ((List.mem_append.mp hasked).resolve_left hversion)
    have hgive' := (foldlM_give hgiven.withoutFlags).mpr ⟨honce.withoutFlags_append, rfl⟩
    have hasked' : .flag .version ∈ withoutFlags given ++ flags.map .flag :=
      List.mem_append_right _ ((List.mem_append.mp hasked).resolve_left hversion)
    rw [withoutVerbosity_of_neg hkept, readLevel, if_neg (hend hword), hword]
    dsimp only
    rw [hgive']
    exact if_pos hasked'
  | case6 given argument rest _ flags hword given' hgive hnone ih =>
    obtain ⟨honce, rfl⟩ := (foldlM_give hgiven).mp hgive
    have hflags : .version ∉ flags := fun hm =>
      hnone (List.mem_append_right given (List.mem_map_of_mem hm))
    have hspells : Word.Spells level argument.toList (.flags flags) :=
      Word.spells_of_ofArgument? (fun _ he => Word.flags.inj he ▸ hflags) hword
    rw [withoutVerbosity_of_pos (isVerbosity_of_spells hspells), ← ih honce hnone h,
      withoutFlags_append_flags]
  | case8 given argument rest _ name value hword given' hgive ih =>
    obtain ⟨honce, hnone, hgive'⟩ := give_unflagged hgiven hversion hgive
    rw [withoutVerbosity_of_neg (isVerbosity_eq_false hword (by rintro _ ⟨⟩)), readLevel,
      if_neg (hend hword), hword]
    dsimp only
    rw [hgive']
    exact ih honce hnone h
  | case11 given argument name hword value rest htakes given' hgive _ ih =>
    obtain ⟨honce, hnone, hgive'⟩ := give_unflagged hgiven hversion hgive
    obtain ⟨s, hs, -⟩ := Option.bind_eq_some_iff.mp hgive
    rw [withoutVerbosity_of_neg (isVerbosity_eq_false hword (by rintro _ ⟨⟩)),
      withoutVerbosity_of_neg (isVerbosity_eq_false_of_takes htakes hs), readLevel,
      if_neg (hend hword), hword]
    dsimp only
    rw [if_pos htakes, hgive']
    exact ih honce hnone h
  | case13 given argument rest _ own hword =>
    obtain rfl := Option.some.inj h
    rw [withoutVerbosity_of_neg (isVerbosity_eq_false hword (by rintro _ ⟨⟩)), readLevel,
      if_neg (hend hword), hword]
    rfl
  | _ => contradiction

end Reading

/-- Accepted arguments are accepted without their flags, and then ask for the same without them. -/
theorem read?_unflagged {arguments : List String} {request : Request}
    (h : read? arguments = some request) :
    read? (withoutVerbosity arguments) = some request.unflagged := by
  have hlevel {level : Level} {rest : List String} {stop : Stop}
      (hstop : readLevel level [] rest = some stop) :
      readLevel level [] (withoutVerbosity rest) = some stop.unflagged := by
    have hnone : AllOnce [] := List.nodup_nil
    exact readLevel_unflagged hnone List.not_mem_nil hstop
  unfold read? at h
  split at h
  · contradiction
  · next hread =>
    obtain rfl := Option.some.inj h
    rw [read?, hlevel hread]
    rfl
  · next top hread =>
    obtain rfl := Option.some.inj h
    rw [read?, hlevel hread]
    rfl
  · next top level rest hread =>
    split at h
    · next own hown =>
      obtain rfl := Option.some.inj h
      rw [read?, hlevel hread]
      dsimp only [Stop.unflagged]
      rw [hlevel hown]
      rfl
    · contradiction

theorem unflagged_congr {arguments others : List String} {request other : Request}
    (hsame : withoutVerbosity others = withoutVerbosity arguments)
    (h : read? arguments = some request) (hother : read? others = some other) :
    other.unflagged = request.unflagged := by
  have hone := read?_unflagged h
  rw [← hsame, read?_unflagged hother] at hone
  exact Option.some.inj hone

end GuardedDivision.CommandLine
