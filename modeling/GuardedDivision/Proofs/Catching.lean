import GuardedDivision.Proofs.Routes
import GuardedDivision.Proofs.Run

namespace GuardedDivision

/-- How the result of a case that catches nothing belongs together with that of the same case when
faults are caught. -/
structure Result.Delivers (free caught : Result) : Prop where
  stopped (message : List Char) :
    (∃ fault, free = .stopped fault ∧ fault.message = message) ↔
      ∃ r, caught = .reported r ∧ r.outcome = .faulted message
  same : free = caught ∨ ∃ fault, free = .stopped fault

theorem Report.isFault_eq_true_iff (r : Report) :
    r.isFault = true ↔ ∃ message, r.outcome = .faulted message := by
  rw [isFault]
  cases r.outcome <;> simp

namespace Result.Delivers

variable {free caught : Result} {r : Report}

theorem eq_of_ne_stopped (h : free.Delivers caught) (hne : ∀ fault, free ≠ .stopped fault) :
    caught = free := by
  obtain he | ⟨fault, hf⟩ := h.same
  · exact he.symm
  · exact absurd hf (hne fault)

theorem isFault_eq_false (h : free.Delivers caught) (hr : free = .reported r) :
    r.isFault = false := by
  rw [Bool.eq_false_iff]
  intro hfault
  obtain ⟨message, hmessage⟩ := r.isFault_eq_true_iff.mp hfault
  have hcaught : caught = .reported r := by
    rw [h.eq_of_ne_stopped (by simp [hr]), hr]
  obtain ⟨fault, hf, -⟩ := (h.stopped message).mpr ⟨r, hcaught, hmessage⟩
  exact nomatch hr.symm.trans hf

theorem reported_of_caught (h : free.Delivers caught) (hr : caught = .reported r)
    (hfault : r.isFault = false) : free = .reported r := by
  obtain he | ⟨fault, hf⟩ := h.same
  · exact he.trans hr
  · obtain ⟨s, hs, hmessage⟩ := (h.stopped fault.message).mp ⟨fault, hf, rfl⟩
    obtain rfl := Result.reported.inj (hr.symm.trans hs)
    have htrue : r.isFault = true := r.isFault_eq_true_iff.mpr ⟨_, hmessage⟩
    exact nomatch hfault.symm.trans htrue

end Result.Delivers

namespace Case

theorem delivers_result (c : Case) (d : Denominator) :
    (c.result false d).Delivers (c.result true d) := by
  unfold result
  cases c.route with
  | guarded => cases c.guardedResult d <;> constructor <;> simp
  | unguarded => cases c.unguardedResult d <;> constructor <;> simp

variable {γ : Type} [WordSource γ]

theorem delivers (c : Case) (input : Input γ) :
    (c.run false input).result.Delivers (c.run true input).result := by
  rw [run_result, run_result]
  cases (c.readDenominator input).1 with
  | error failure => constructor <;> simp
  | ok d => exact c.delivers_result d

theorem rest_uncaught (c : Case) (input : Input γ) :
    (c.run false input).rest = (c.run true input).rest := by
  rw [run_rest, run_rest]

end Case

namespace Session

variable {γ : Type} [WordSource γ]

theorem rest_uncaught (cases : List Case) (input : Input γ) :
    (run false cases input).rest = (run true cases input).rest := by
  induction cases generalizing input with
  | nil => rfl
  | cons c cases ih =>
    rw [run, run, c.rest_uncaught]
    exact ih _

theorem delivers_results (cases : List Case) (input : Input γ) {i : Nat} (hi : i < cases.length) :
    ∃ free caught, (run false cases input).results[i]? = some free ∧
      (run true cases input).results[i]? = some caught ∧ free.Delivers caught := by
  induction cases generalizing input i with
  | nil => exact absurd hi (Nat.not_lt_zero i)
  | cons c cases ih =>
    rw [run, run, c.rest_uncaught]
    cases i with
    | zero => exact ⟨_, _, rfl, rfl, c.delivers input⟩
    | succ i => exact ih _ (Nat.lt_of_succ_lt_succ hi)

end Session

namespace Run

variable {γ : Type} [WordSource γ]

/-- The first fault of a run that catches faults, with the reports before it, of which none is a
fault. -/
structure FirstFault (room : Room) (cases : List Case) (input : Input γ) (before : List Report)
    (message : List Char) : Prop where
  complete : (ofCases true room (cases.take before.length) input).ending = .complete before
  unfaulted : ∀ r ∈ before, r.isFault = false
  fault : ∃ r, (Session.run true cases input).results[before.length]? = some (.reported r) ∧
    r.outcome = .faulted message

variable {room : Room} {c : Case} {cases : List Case} {input : Input γ} {message : List Char}

theorem after_eq_stopped_iff {ending : Ending} {r : Report} {fault : Fault} :
    ending.after r = .stopped fault ↔ ending = .stopped fault := by
  cases ending <;> simp [Ending.after]

theorem ending_cons_eq_complete_iff {r : Report} {reports : List Report} :
    (ofCases true room (c :: cases) input).ending = .complete (r :: reports) ↔
      (c.run true input).result = .reported r ∧ room.taken r.output = r.output ∧
        (ofCases true (room.after r.output) cases (c.run true input).rest).ending =
          .complete reports := by
  cases h : (c.run true input).result with
  | unread failure => simp [ending_of_unread h]
  | stopped fault => simp [ending_of_stopped h]
  | reported s =>
    by_cases hfits : room.taken s.output = s.output
    · rw [ending_of_reported h hfits, Result.reported.injEq]
      cases hlater : (ofCases true (room.after s.output) cases (c.run true input).rest).ending with
      | complete later =>
        rw [Ending.after, Ending.complete.injEq, List.cons.injEq]
        constructor
        · rintro ⟨rfl, rfl⟩
          exact ⟨rfl, hfits, hlater⟩
        · rintro ⟨rfl, -, hreports⟩
          exact ⟨rfl, Ending.complete.inj (hlater.symm.trans hreports)⟩
      | unread | outputFull | stopped =>
        constructor
        · intro he
          cases he
        · rintro ⟨rfl, -, hreports⟩
          cases hlater.symm.trans hreports
    · rw [ending_of_full h hfits, Result.reported.injEq]
      constructor
      · intro he
        cases he
      · rintro ⟨rfl, hr, -⟩
        exact absurd hr hfits

theorem firstFault_nil_iff : FirstFault room (c :: cases) input [] message ↔
    ∃ r, (c.run true input).result = .reported r ∧ r.outcome = .faulted message := by
  constructor
  · rintro ⟨-, -, r, hr, hmessage⟩
    exact ⟨r, Option.some.inj hr, hmessage⟩
  · rintro ⟨r, hr, hmessage⟩
    exact ⟨rfl, List.forall_mem_nil _, r, congrArg some hr, hmessage⟩

theorem firstFault_cons_iff {r : Report} {before : List Report} :
    FirstFault room (c :: cases) input (r :: before) message ↔
      (c.run true input).result = .reported r ∧ room.taken r.output = r.output ∧
        r.isFault = false ∧
        FirstFault (room.after r.output) cases (c.run true input).rest before message := by
  constructor
  · rintro ⟨hcomplete, hunfaulted, hfault⟩
    obtain ⟨hr, hfits, hlater⟩ := ending_cons_eq_complete_iff.mp hcomplete
    obtain ⟨hfirst, hbefore⟩ := List.forall_mem_cons.mp hunfaulted
    exact ⟨hr, hfits, hfirst, hlater, hbefore, hfault⟩
  · rintro ⟨hr, hfits, hfirst, hlater, hbefore, hfault⟩
    exact ⟨ending_cons_eq_complete_iff.mpr ⟨hr, hfits, hlater⟩,
      List.forall_mem_cons.mpr ⟨hfirst, hbefore⟩, hfault⟩

theorem exists_firstFault_cons_iff :
    (∃ before, FirstFault room (c :: cases) input before message) ↔
      (∃ r, (c.run true input).result = .reported r ∧ r.outcome = .faulted message) ∨
        ∃ r, (c.run true input).result = .reported r ∧ room.taken r.output = r.output ∧
          r.isFault = false ∧ ∃ before,
            FirstFault (room.after r.output) cases (c.run true input).rest before message := by
  constructor
  · rintro ⟨before, h⟩
    cases before with
    | nil => exact .inl (firstFault_nil_iff.mp h)
    | cons r before =>
      obtain ⟨hr, hfits, hfirst, hlater⟩ := firstFault_cons_iff.mp h
      exact .inr ⟨r, hr, hfits, hfirst, before, hlater⟩
  · rintro (h | ⟨r, hr, hfits, hfirst, before, hlater⟩)
    · exact ⟨[], firstFault_nil_iff.mpr h⟩
    · exact ⟨r :: before, firstFault_cons_iff.mpr ⟨hr, hfits, hfirst, hlater⟩⟩

/-- A run that catches nothing stops with the first fault of the run that catches all. -/
theorem stopped_iff_firstFault (room : Room) (cases : List Case) (input : Input γ)
    (message : List Char) :
    (∃ fault, (ofCases false room cases input).ending = .stopped fault ∧
      fault.message = message) ↔ ∃ before, FirstFault room cases input before message := by
  induction cases generalizing room input with
  | nil =>
    constructor
    · rintro ⟨fault, hf, -⟩
      cases hf
    · rintro ⟨before, -, -, r, hr, -⟩
      cases hr
  | cons c cases ih =>
    have h := c.delivers input
    rw [exists_firstFault_cons_iff, ← h.stopped]
    cases hfree : (c.run false input).result with
    | stopped fault =>
      -- the fault comes first, whatever room there is for its line
      obtain ⟨r, hr, hmessage⟩ := (h.stopped fault.message).mp ⟨fault, hfree, rfl⟩
      have hfault : r.isFault = true := r.isFault_eq_true_iff.mpr ⟨_, hmessage⟩
      simp [ending_of_stopped hfree, hr, hfault]
    | unread failure =>
      have hcaught := h.eq_of_ne_stopped (by simp [hfree])
      simp [ending_of_unread hfree, hcaught, hfree]
    | reported r =>
      have hcaught := h.eq_of_ne_stopped (by simp [hfree])
      have hfault := h.isFault_eq_false hfree
      rw [hfree] at hcaught
      by_cases hfits : room.taken r.output = r.output
      · simp only [ending_of_reported hfree hfits, after_eq_stopped_iff, ih, c.rest_uncaught]
        simp [hcaught, hfits, hfault]
      · simp [ending_of_full hfree hfits, hcaught, hfits]

theorem FirstFault.outputs {before : List Report} (h : FirstFault room cases input before message) :
    (ofCases false room cases input).output = Report.lines before ∧
      Report.lines before <+: (ofCases true room cases input).output := by
  induction before generalizing room cases input with
  | nil =>
    cases cases with
    | nil =>
      obtain ⟨-, -, r, hr, -⟩ := h
      cases hr
    | cons c cases =>
      obtain ⟨fault, hf, -⟩ := ((c.delivers input).stopped message).mpr (firstFault_nil_iff.mp h)
      rw [output_ofCases, Session.leading_of_stopped hf]
      exact ⟨Room.taken_nil room, List.nil_prefix⟩
  | cons r before ih =>
    cases cases with
    | nil =>
      obtain ⟨-, -, r, hr, -⟩ := h
      cases hr
    | cons c cases =>
      obtain ⟨hr, hfits, hfault, hlater⟩ := firstFault_cons_iff.mp h
      have hfree := (c.delivers input).reported_of_caught hr hfault
      obtain ⟨houtput, hwritten⟩ := ih hlater
      rw [output_of_reported hfree hfits, output_of_reported hr hfits, c.rest_uncaught,
        Report.lines_cons, houtput]
      exact ⟨rfl, (List.prefix_append_right_inj _).mpr hwritten⟩

end Run

namespace Session

variable {γ : Type} [WordSource γ]

/-- To catch faults changes how they are delivered and nothing else: a run that catches nothing is
stopped by the first fault that the run that catches all reports. -/
theorem run_uncaught (cases : List Case) (input : Input γ) :
    (run false cases input).rest = (run true cases input).rest ∧
    (run false cases input).results.length = cases.length ∧
    (run true cases input).results.length = cases.length ∧
    (∀ i : Fin cases.length, ∃ free caught,
      (run false cases input).results[i.val]? = some free ∧
      (run true cases input).results[i.val]? = some caught ∧ free.Delivers caught) ∧
    ∀ (room : Room) (message : List Char),
      ((∃ fault, (Run.ofCases false room cases input).ending = .stopped fault ∧
          fault.message = message) ↔
        ∃ before, Run.FirstFault room cases input before message) ∧
      ∀ before, Run.FirstFault room cases input before message →
        (Run.ofCases false room cases input).output = Report.lines before ∧
          Report.lines before <+: (Run.ofCases true room cases input).output :=
  ⟨rest_uncaught cases input, length_results false cases input, length_results true cases input,
    fun i => delivers_results cases input i.isLt, fun room message =>
      ⟨Run.stopped_iff_firstFault room cases input message, fun _ h => h.outputs⟩⟩

theorem run_uncaught_demonstration :
    let input : Input WordCycle := { unread := [], words := { words := [] } }
    (Run.ofCases false none (Case.demonstration 100) input).output =
      Utf8.encode "This would result in a divide by zero\n".toList := by
  intro input
  let refused : Report := ⟨⟨100, .zero, .divide, .guarded⟩, .int 0, .refused .zeroDivisor⟩
  let faulted : Report :=
    ⟨⟨100, .zero, .divide, .unguarded⟩, .int 0, .faulted Fault.divisionByZero.message⟩
  have hfault : Run.FirstFault none (Case.demonstration 100) input [refused]
      Fault.divisionByZero.message :=
    { complete := by decide +kernel
      unfaulted := by decide +kernel
      fault := ⟨faulted, by decide +kernel, rfl⟩ }
  have h := ((run_uncaught (Case.demonstration 100) input).2.2.2.2 none _).2 _ hfault
  rw [h.1]
  decide +kernel

end Session

end GuardedDivision
