import GuardedDivision.Proofs.CommandLine.Grammar

namespace GuardedDivision.CommandLine

theorem eq_append_of_dropWhile {c d : Char} {text later : List Char}
    (h : text.dropWhile (· != c) = d :: later) :
    text = text.takeWhile (· != c) ++ c :: later := by
  induction text with
  | nil => contradiction
  | cons e text ih =>
    by_cases he : e = c
    · subst e
      rw [List.dropWhile_cons_of_neg (by simp)] at h
      rw [List.takeWhile_cons_of_neg (by simp), (List.cons.inj h).2, List.nil_append]
    · have hp : (e != c) = true := by simpa using he
      rw [List.dropWhile_cons_of_pos (p := (· != c)) hp] at h
      rw [List.takeWhile_cons_of_pos (p := (· != c)) hp, List.cons_append, ← ih h]

theorem takeWhile_append_of_not_mem {c : Char} {first : List Char} (h : c ∉ first)
    (later : List Char) : (first ++ c :: later).takeWhile (· != c) = first ∧
      (first ++ c :: later).dropWhile (· != c) = c :: later := by
  have hall : ∀ d ∈ first, (d != c) = true := fun d hd => by
    rw [bne_iff_ne]
    rintro rfl
    exact h hd
  rw [List.takeWhile_append_of_pos hall, List.dropWhile_append_of_pos hall,
    List.takeWhile_cons_of_neg (by simp), List.dropWhile_cons_of_neg (by simp), List.append_nil]
  exact ⟨rfl, rfl⟩

namespace Word

variable {level : Level} {letters text : List Char} {flags : List Flag} {word : Word}

theorem cluster?_letters (hversion : .version ∉ flags) :
    cluster? level (flags.map Flag.letter) = some flags := by
  induction flags with
  | nil => rfl
  | cons flag flags ih =>
    have hflag : flag ≠ .version := fun he => hversion (he ▸ List.mem_cons_self)
    have hflags : .version ∉ flags := fun hm => hversion (List.mem_cons_of_mem flag hm)
    have hletter : Flag.ofLetter? level flag.letter = some flag :=
      Flag.ofLetter?_eq_some_iff.mpr ⟨Flag.isAt_of_ne_version hflag level, rfl⟩
    rw [List.map_cons, cluster?, hletter]
    cases flag with
    | verbose | quiet =>
      rw [ih hflags]
      rfl
    | version => contradiction

theorem eq_letters_of_cluster? (hversion : .version ∉ flags)
    (h : cluster? level letters = some flags) : letters = flags.map Flag.letter := by
  fun_induction cluster? level letters generalizing flags with
  | case1 => rw [← Option.some.inj h, List.map_nil]
  | case2 => contradiction
  | case3 =>
    rw [← Option.some.inj h] at hversion
    exact absurd List.mem_cons_self hversion
  | case4 c letters flag _ hflag ih =>
    obtain ⟨later, hlater, rfl⟩ := Option.map_eq_some_iff.mp h
    rw [List.map_cons, (Flag.ofLetter?_eq_some_iff.mp hflag).2,
      ← ih (fun hm => hversion (List.mem_cons_of_mem flag hm)) hlater]

theorem spells_of_ofArgument? (hversion : ∀ flags, word = .flags flags → .version ∉ flags)
    (h : ofArgument? level text = some word) : Spells level text word := by
  unfold ofArgument? at h
  split at h
  · next long =>
    dsimp only at h
    split at h
    · next value hcut =>
      obtain ⟨name, hname, rfl⟩ := Option.map_eq_some_iff.mp h
      obtain ⟨hmem, hword⟩ := Name.ofWord?_eq_some_iff.mp hname
      rw [eq_append_of_dropWhile hcut, ← hword]
      exact .option value hmem
    · next hcut =>
      have hlong : long.takeWhile (· != '=') = long := by
        have hsplit := List.takeWhile_append_dropWhile (p := (· != '=')) (l := long)
        rwa [hcut, List.append_nil] at hsplit
      rw [hlong] at h
      split at h
      · next name hname =>
        obtain rfl := Option.some.inj h
        obtain ⟨hmem, rfl⟩ := Name.ofWord?_eq_some_iff.mp hname
        exact .awaiting hmem
      · obtain ⟨flag, hflag, rfl⟩ := Option.map_eq_some_iff.mp h
        obtain ⟨-, rfl⟩ := Flag.ofWord?_eq_some_iff.mp hflag
        refine .flag flag ?_
        rintro rfl
        exact hversion _ rfl List.mem_cons_self
  · next c letters _ =>
    obtain ⟨flags, hflags, rfl⟩ := Option.map_eq_some_iff.mp h
    have hletters := eq_letters_of_cluster? (hversion flags rfl) hflags
    rw [hletters]
    refine .letters flags ?_ (hversion flags rfl)
    rintro rfl
    contradiction
  · split at h
    · next hlevel =>
      obtain ⟨own, hown, rfl⟩ := Option.map_eq_some_iff.mp h
      exact .command hlevel (Level.ofCommand?_eq_some_iff.mp hown)
    · contradiction

theorem ofArgument?_of_spells (h : Spells level text word) :
    ofArgument? level text = some word := by
  cases h with
  | letters flags hne hversion =>
    obtain ⟨flag, flags, rfl⟩ := List.exists_cons_of_ne_nil hne
    rw [List.map_cons, ofArgument?, ← List.map_cons, cluster?_letters hversion, Option.map_some]
    exact flag.letter_ne_hyphen
  | flag flag hflag =>
    cases flag with
    | verbose | quiet => cases level <;> rfl
    | version => contradiction
  | option value hname =>
    obtain ⟨htake, hdrop⟩ := takeWhile_append_of_not_mem (Name.equals_not_mem_word _) value
    rw [ofArgument?, htake]
    simp only [hdrop, Name.ofWord?_eq_some_iff.mpr ⟨hname, rfl⟩, Option.map_some]
  | @awaiting name hname =>
    revert hname
    cases name <;> cases level <;> decide
  | command hlevel hword =>
    subst hlevel
    cases hword <;> rfl

end Word

section Settings

variable {given settings result : List Setting} {s : Setting}

theorem AllOnce.left (h : AllOnce (given ++ settings)) : AllOnce given := by
  rw [AllOnce, List.map_append, List.nodup_append] at h
  exact h.1

theorem allOnce_concat_iff (hgiven : AllOnce given) :
    AllOnce (given ++ [s]) ↔ s.kind ∉ given.map Setting.kind := by
  rw [AllOnce, List.map_append, List.nodup_append, List.map_singleton]
  constructor
  · intro h hs
    exact h.2.2 _ hs _ (List.mem_singleton_self _) rfl
  · intro h
    refine ⟨hgiven, List.pairwise_singleton _ _, fun k hk l hl he => h ?_⟩
    rwa [← List.mem_singleton.mp hl, ← he]

theorem foldlM_give (hgiven : AllOnce given) :
    settings.foldlM Setting.give given = some result ↔
      AllOnce (given ++ settings) ∧ result = given ++ settings := by
  induction settings generalizing given with
  | nil =>
    rw [List.foldlM_nil, List.append_nil]
    exact ⟨fun h => ⟨hgiven, (Option.some.inj h).symm⟩, fun h => congrArg some h.2.symm⟩
  | cons s settings ih =>
    rw [List.foldlM_cons, List.append_cons]
    by_cases hs : s.kind ∈ given.map Setting.kind
    · rw [Setting.give, if_pos hs]
      exact ⟨nofun, fun h => absurd hs ((allOnce_concat_iff hgiven).mp h.1.left)⟩
    · rw [Setting.give, if_neg hs, ← ih ((allOnce_concat_iff hgiven).mpr hs)]
      rfl

theorem give_eq_some_iff (hgiven : AllOnce given) :
    Setting.give given s = some result ↔ AllOnce (given ++ [s]) ∧ result = given ++ [s] := by
  rw [← foldlM_give hgiven, List.foldlM_cons]
  cases Setting.give given s <;> rfl

end Settings

inductive Level.Stops (level : Level) (given : List Setting) : List String → Stop → Prop
  | finished {last : List String} : IsEnd last → Stops level given last (.finished given)
  | command {word : String} {own : Level} {rest : List String} :
    Word.Spells level word.toList (.command own) →
    Stops level given (word :: rest) (.command given own rest)

section Reading

variable {level : Level} {given settings result : List Setting} {arguments rest : List String}
  {stop : Stop}

theorem not_hyphens_of_spells {argument : String} {word : Word}
    (h : Word.Spells level argument.toList word) : ¬(argument = "--" ∧ rest = []) := by
  rintro ⟨rfl, -⟩
  have hread := Word.ofArgument?_of_spells h
  have hnone : Word.ofArgument? level "--".toList = none := by cases level <;> decide
  rw [hnone] at hread
  contradiction

theorem Word.Spells.version_not_mem {text : List Char} {flags : List Flag}
    (h : Word.Spells level text (.flags flags)) : .version ∉ flags := by
  cases h with
  | letters _ _ hversion => exact hversion
  | flag flag hflag => exact fun hm => hflag (List.mem_singleton.mp hm).symm

theorem Name.Denotes.ne_flag {name : Name} {text : List Char} {s : Setting}
    (h : name.Denotes text s) (flag : Flag) : .flag flag ≠ s := by
  cases h <;> exact nofun

theorem Group.version_not_mem (h : Group level arguments settings) :
    .flag .version ∉ settings := by
  cases h with
  | flags hword =>
    intro hm
    obtain ⟨flag, hflag, he⟩ := List.mem_map.mp hm
    exact hword.version_not_mem (Setting.flag.inj he ▸ hflag)
  | option _ hvalue | awaiting _ _ hvalue =>
    exact fun hm => hvalue.ne_flag .version (List.mem_singleton.mp hm)

theorem readLevel_group (h : Group level arguments settings) (hversion : .flag .version ∉ given)
    (honce : AllOnce (given ++ settings)) (rest : List String) :
    readLevel level given (arguments ++ rest) = readLevel level (given ++ settings) rest := by
  have hadded : .flag .version ∉ given ++ settings := fun hm =>
    (List.mem_append.mp hm).elim hversion h.version_not_mem
  have hgiven := honce.left
  cases h with
  | flags hword =>
    rw [List.singleton_append, readLevel, if_neg (not_hyphens_of_spells hword),
      Word.ofArgument?_of_spells hword]
    dsimp only
    rw [(foldlM_give hgiven).mpr ⟨honce, rfl⟩]
    exact if_neg hadded
  | option hword hvalue =>
    rw [List.singleton_append, readLevel, if_neg (not_hyphens_of_spells hword),
      Word.ofArgument?_of_spells hword]
    dsimp only
    rw [Name.setting?_eq_some_iff.mpr hvalue, Option.bind_some,
      (give_eq_some_iff hgiven).mpr ⟨honce, rfl⟩]
  | awaiting hword htakes hvalue =>
    rw [List.cons_append, List.singleton_append, readLevel,
      if_neg (not_hyphens_of_spells hword), Word.ofArgument?_of_spells hword]
    dsimp only
    rw [if_pos (Name.takes_iff.mpr htakes), Name.setting?_eq_some_iff.mpr hvalue,
      Option.bind_some, (give_eq_some_iff hgiven).mpr ⟨honce, rfl⟩]

theorem readLevel_stops (h : level.Stops given arguments stop) :
    readLevel level given arguments = some stop := by
  cases h with
  | finished hend =>
    obtain rfl | rfl := hend
    · rw [readLevel]
    · rw [readLevel, if_pos ⟨rfl, rfl⟩]
  | command hword =>
    rw [readLevel, if_neg (not_hyphens_of_spells hword), Word.ofArgument?_of_spells hword]

def Level.Splits (level : Level) (given : List Setting) (arguments : List String) (stop : Stop) :
    Prop :=
  ∃ before last settings, arguments = before ++ last ∧ Groups level before settings ∧
    AllOnce (given ++ settings) ∧ level.Stops (given ++ settings) last stop

theorem Level.Stops.splits (h : level.Stops given arguments stop) (hgiven : AllOnce given) :
    level.Splits given arguments stop := by
  refine ⟨[], arguments, [], rfl, .nil, ?_, ?_⟩
  · rwa [List.append_nil]
  · rwa [List.append_nil]

theorem Group.splits (h : Group level arguments settings)
    (hrest : level.Splits (given ++ settings) rest stop) :
    level.Splits given (arguments ++ rest) stop := by
  obtain ⟨before, last, later, rfl, hgroups, honce, hstops⟩ := hrest
  rw [List.append_assoc] at honce hstops
  exact ⟨arguments ++ before, last, settings ++ later, (List.append_assoc ..).symm,
    .cons h hgroups, honce, hstops⟩

theorem readLevel_groups (h : Groups level arguments settings) (hversion : .flag .version ∉ given)
    (honce : AllOnce (given ++ settings)) (rest : List String) :
    readLevel level given (arguments ++ rest) = readLevel level (given ++ settings) rest := by
  induction h generalizing given with
  | nil => rw [List.nil_append, List.append_nil]
  | @cons first before settings later hgroup _ ih =>
    rw [← List.append_assoc] at honce
    have hadded : .flag .version ∉ given ++ settings := fun hm =>
      (List.mem_append.mp hm).elim hversion hgroup.version_not_mem
    rw [List.append_assoc, readLevel_group hgroup hversion honce.left, ih hadded honce,
      List.append_assoc]

theorem splits_of_readLevel (hgiven : AllOnce given) (hstop : stop ≠ .version)
    (h : readLevel level given arguments = some stop) : level.Splits given arguments stop := by
  fun_induction readLevel level given arguments with
  | case1 =>
    obtain rfl := Option.some.inj h
    exact (Level.Stops.finished (.inl rfl)).splits hgiven
  | case2 given argument rest hend =>
    obtain rfl := Option.some.inj h
    obtain ⟨rfl, rfl⟩ := hend
    exact (Level.Stops.finished (.inr rfl)).splits hgiven
  | case5 => exact absurd (Option.some.inj h).symm hstop
  | case6 given argument rest _ flags hword given' hgive hnone ih =>
    obtain ⟨honce, rfl⟩ := (foldlM_give hgiven).mp hgive
    have hflags : .version ∉ flags := fun hm =>
      hnone (List.mem_append_right given (List.mem_map_of_mem hm))
    have hspells : Word.Spells level argument.toList (.flags flags) :=
      Word.spells_of_ofArgument? (fun _ he => Word.flags.inj he ▸ hflags) hword
    exact (Group.flags hspells).splits (ih honce h)
  | case8 given argument rest _ name value hword given' hgive ih =>
    obtain ⟨s, hs, hadd⟩ := Option.bind_eq_some_iff.mp hgive
    obtain ⟨honce, rfl⟩ := (give_eq_some_iff hgiven).mp hadd
    have hspells : Word.Spells level argument.toList (.option name value) :=
      Word.spells_of_ofArgument? (fun _ he => nomatch he) hword
    exact (Group.option hspells (Name.setting?_eq_some_iff.mp hs)).splits (ih honce h)
  | case11 given argument name hword value rest htakes given' hgive _ ih =>
    obtain ⟨s, hs, hadd⟩ := Option.bind_eq_some_iff.mp hgive
    obtain ⟨honce, rfl⟩ := (give_eq_some_iff hgiven).mp hadd
    have hspells : Word.Spells level argument.toList (.awaiting name) :=
      Word.spells_of_ofArgument? (fun _ he => nomatch he) hword
    exact (Group.awaiting hspells (Name.takes_iff.mp htakes)
      (Name.setting?_eq_some_iff.mp hs)).splits (ih honce h)
  | case13 given argument rest _ own hword =>
    obtain rfl := Option.some.inj h
    have hspells : Word.Spells level argument.toList (.command own) :=
      Word.spells_of_ofArgument? (fun _ he => nomatch he) hword
    exact (Level.Stops.command hspells).splits hgiven
  | _ => contradiction

/-- A level is read as far as its groups go, and then it stops. -/
theorem readLevel_eq_some_iff (hstop : stop ≠ .version) :
    readLevel level [] arguments = some stop ↔ level.Splits [] arguments stop := by
  constructor
  · exact splits_of_readLevel List.nodup_nil hstop
  · rintro ⟨before, last, settings, rfl, hgroups, honce, hstops⟩
    rw [readLevel_groups hgroups List.not_mem_nil honce, readLevel_stops hstops]

theorem readLevel_finished_iff : readLevel level [] arguments = some (.finished given) ↔
    ∃ before last, arguments = before ++ last ∧ Groups level before given ∧ AllOnce given ∧
      IsEnd last := by
  have hstop : Stop.finished given ≠ .version := nofun
  rw [readLevel_eq_some_iff hstop]
  constructor
  · rintro ⟨before, last, settings, rfl, hgroups, honce, hstops⟩
    cases hstops with
    | finished hend => exact ⟨before, last, rfl, hgroups, honce, hend⟩
  · rintro ⟨before, last, rfl, hgroups, honce, hend⟩
    exact ⟨before, last, given, rfl, hgroups, honce, .finished hend⟩

theorem readLevel_command_iff {own : Level} :
    readLevel level [] arguments = some (.command given own rest) ↔
      ∃ before word, arguments = before ++ word :: rest ∧ Groups level before given ∧
        AllOnce given ∧ Word.Spells level word.toList (.command own) := by
  have hstop : Stop.command given own rest ≠ .version := nofun
  rw [readLevel_eq_some_iff hstop]
  constructor
  · rintro ⟨before, last, settings, rfl, hgroups, honce, hstops⟩
    cases hstops with
    | command hword => exact ⟨before, _, rfl, hgroups, honce, hword⟩
  · rintro ⟨before, word, rfl, hgroups, honce, hword⟩
    exact ⟨before, word :: rest, given, rfl, hgroups, honce, .command hword⟩

end Reading

/-- The arguments of a command line are those that the grammar derives. -/
theorem read?_eq_some_iff {arguments : List String} {line : CommandLine} :
    read? arguments = some (.command line) ↔ Derives arguments line := by
  constructor
  · intro h
    unfold read? at h
    split at h
    · contradiction
    · cases h
    · next top hread =>
      obtain rfl := Request.command.inj (Option.some.inj h)
      obtain ⟨before, last, rfl, hgroups, honce, hend⟩ := readLevel_finished_iff.mp hread
      exact .alone hgroups honce hend
    · next top level rest hread =>
      obtain ⟨before, word, rfl, hgroups, honce, hword⟩ := readLevel_command_iff.mp hread
      split at h
      · next own hown =>
        obtain rfl := Request.command.inj (Option.some.inj h)
        obtain ⟨after, last, rfl, hafter, hafterOnce, hend⟩ := readLevel_finished_iff.mp hown
        exact .subcommand hgroups honce hword hafter hafterOnce hend
      · contradiction
  · intro h
    cases h with
    | alone hgroups honce hend =>
      rw [read?, readLevel_finished_iff.mpr ⟨_, _, rfl, hgroups, honce, hend⟩]
    | subcommand hgroups honce hword hafter hafterOnce hend =>
      rw [read?, readLevel_command_iff.mpr ⟨_, _, rfl, hgroups, honce, hword⟩]
      dsimp only
      rw [readLevel_finished_iff.mpr ⟨_, _, rfl, hafter, hafterOnce, hend⟩]

end GuardedDivision.CommandLine
