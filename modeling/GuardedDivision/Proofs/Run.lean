import GuardedDivision.Proofs.Consumption
import GuardedDivision.Proofs.Printable
import Mathlib.Data.List.TakeDrop

namespace GuardedDivision

/-- The reports before the first result that is none. -/
def Result.leading : List Result → List Report
  | .reported r :: results => r :: leading results
  | _ => []

theorem Result.take_leading (results : List Result) :
    results.take (leading results).length = (leading results).map .reported := by
  fun_induction leading results with
  | case1 r results ih =>
    rw [List.length_cons, List.take_succ_cons, ih, List.map_cons]
  | case2 => rfl

theorem Result.next_leading (results : List Result) (r : Report) :
    results[(leading results).length]? ≠ some (.reported r) := by
  fun_induction leading results with
  | case1 s results ih =>
    rw [List.length_cons, List.getElem?_cons_succ]
    exact ih
  | case2 results hnone =>
    intro h
    obtain ⟨first, later, rfl⟩ := List.exists_cons_of_ne_nil (l := results) (by rintro rfl; cases h)
    obtain rfl := Option.some.inj h
    exact hnone r later rfl

theorem Result.mem_of_mem_leading {results : List Result} {r : Report} (h : r ∈ leading results) :
    .reported r ∈ results := by
  have hmem : Result.reported r ∈ (leading results).map .reported := List.mem_map_of_mem h
  rw [← take_leading results] at hmem
  exact List.mem_of_mem_take hmem

def Report.lines (reports : List Report) : Bytes := reports.flatMap Report.output

theorem Report.lines_cons (r : Report) (reports : List Report) :
    lines (r :: reports) = r.output ++ lines reports := List.flatMap_cons

theorem Report.output_eq (r : Report) : r.output = Utf8.encode r.line ++ [0x0A] :=
  Utf8.encode_concat_newline r.line

theorem Report.cut_lines {reports : List Report} (h : ∀ r ∈ reports, Printable r.line) :
    Console.lines (lines reports) = reports.map Report.output := by
  induction reports with
  | nil => rfl
  | cons r reports ih =>
    have hline := (h r (by simp)).newline_not_mem_encode
    rw [lines_cons, output_eq, List.append_assoc, List.singleton_append,
      Console.lines_append hline, ih fun s hs => h s (List.mem_cons_of_mem r hs), List.map_cons,
      output_eq]

/-- How a run ends when it has reports and the next result, if there is one, is none. -/
inductive Ending.Closes (reports : List Report) : Option Result → Ending → Prop
  | complete : Closes reports none (.complete reports)
  | unread (failure : ReadFailure) : Closes reports (some (.unread failure)) (.unread failure)
  | stopped (fault : Fault) : Closes reports (some (.stopped fault)) (.stopped fault)

namespace Ending

theorem Closes.cons {reports : List Report} {next : Option Result} {ending : Ending}
    (h : Closes reports next ending) (r : Report) :
    Closes (r :: reports) next (ending.after r) := by
  cases h with
  | complete => exact .complete
  | unread failure => exact .unread failure
  | stopped fault => exact .stopped fault

end Ending

namespace Room

theorem taken_nil (room : Room) : room.taken [] = [] := by
  cases room with
  | none => rfl
  | some n => exact List.take_nil

theorem taken_some_eq_iff {n : Nat} {bytes : Bytes} :
    taken (some n) bytes = bytes ↔ bytes.length ≤ n :=
  List.take_eq_self_iff bytes

theorem taken_append_of_eq {room : Room} {first : Bytes} (h : room.taken first = first)
    (second : Bytes) :
    room.taken (first ++ second) = first ++ (room.after first).taken second := by
  cases room with
  | none => rfl
  | some n =>
    have hn := taken_some_eq_iff.mp h
    simp only [taken, after, Option.map_some, List.take_append, List.take_of_length_le hn]

theorem taken_append_of_ne {room : Room} {first : Bytes} (h : room.taken first ≠ first)
    (second : Bytes) : room.taken (first ++ second) = room.taken first := by
  cases room with
  | none => exact absurd rfl h
  | some n =>
    have hn : ¬first.length ≤ n := fun hle => h (taken_some_eq_iff.mpr hle)
    exact List.take_append_of_le_length (by omega)

theorem taken_append_eq_iff {room : Room} {first second : Bytes} :
    room.taken (first ++ second) = first ++ second ↔
      room.taken first = first ∧ (room.after first).taken second = second := by
  cases room with
  | none => simp [taken, after]
  | some n =>
    rw [after, Option.map_some, taken_some_eq_iff, taken_some_eq_iff, taken_some_eq_iff,
      List.length_append]
    omega

end Room

variable {γ : Type} [WordSource γ]

namespace Session

theorem leading_cons {catchFaults : Bool} {c : Case} {input : Input γ} {r : Report}
    (h : (c.run catchFaults input).result = .reported r) (cases : List Case) :
    Result.leading (run catchFaults (c :: cases) input).results =
      r :: Result.leading (run catchFaults cases (c.run catchFaults input).rest).results := by
  rw [run, h, Result.leading]

theorem leading_of_unread {catchFaults : Bool} {c : Case} {input : Input γ}
    {failure : ReadFailure} (h : (c.run catchFaults input).result = .unread failure)
    (cases : List Case) :
    Result.leading (run catchFaults (c :: cases) input).results = [] := by
  rw [run, h, Result.leading]
  intro r results he
  cases he

theorem leading_of_stopped {catchFaults : Bool} {c : Case} {input : Input γ} {fault : Fault}
    (h : (c.run catchFaults input).result = .stopped fault) (cases : List Case) :
    Result.leading (run catchFaults (c :: cases) input).results = [] := by
  rw [run, h, Result.leading]
  intro r results he
  cases he

theorem exists_outcome {catchFaults : Bool} {cases : List Case} {input : Input γ} {r : Report}
    (h : .reported r ∈ (run catchFaults cases input).results) :
    ∃ c ∈ cases, ∃ d, r = { subject := c, denominator := d, outcome := c.outcome d } := by
  induction cases generalizing input with
  | nil => exact absurd h List.not_mem_nil
  | cons c cases ih =>
    obtain hr | hr := List.mem_cons.mp h
    · rw [Case.run_result] at hr
      cases hd : (c.readDenominator input).1 with
      | error failure =>
        rw [hd] at hr
        exact nomatch hr
      | ok d =>
        rw [hd] at hr
        exact ⟨c, List.mem_cons_self, d, Case.eq_of_result_reported hr.symm⟩
    · obtain ⟨b, hb, hd⟩ := ih hr
      exact ⟨b, List.mem_cons_of_mem c hb, hd⟩

theorem printable_line_of_mem {catchFaults : Bool} {cases : List Case} {input : Input γ}
    {r : Report} (h : .reported r ∈ (run catchFaults cases input).results) :
    Printable r.line := by
  obtain ⟨c, -, d, rfl⟩ := exists_outcome h
  exact c.printable_line d

end Session

namespace Run

section

variable {catchFaults : Bool} {room : Room} {c : Case} {input : Input γ}

theorem ending_of_reported {r : Report} (h : (c.run catchFaults input).result = .reported r)
    (hfits : room.taken r.output = r.output) (cases : List Case) :
    (ofCases catchFaults room (c :: cases) input).ending =
      (ofCases catchFaults (room.after r.output) cases
        (c.run catchFaults input).rest).ending.after r := by
  rw [ofCases, h]
  simp only [hfits, ↓reduceIte]

theorem output_of_reported {r : Report} (h : (c.run catchFaults input).result = .reported r)
    (hfits : room.taken r.output = r.output) (cases : List Case) :
    (ofCases catchFaults room (c :: cases) input).output =
      r.output ++ (ofCases catchFaults (room.after r.output) cases
        (c.run catchFaults input).rest).output := by
  rw [ofCases, h]
  simp only [hfits, ↓reduceIte]

theorem ending_of_full {r : Report} (h : (c.run catchFaults input).result = .reported r)
    (hfull : room.taken r.output ≠ r.output) (cases : List Case) :
    (ofCases catchFaults room (c :: cases) input).ending = .outputFull := by
  rw [ofCases, h]
  simp only [hfull, ↓reduceIte]

theorem ending_of_unread {failure : ReadFailure}
    (h : (c.run catchFaults input).result = .unread failure) (cases : List Case) :
    (ofCases catchFaults room (c :: cases) input).ending = .unread failure := by
  rw [ofCases, h]

theorem ending_of_stopped {fault : Fault} (h : (c.run catchFaults input).result = .stopped fault)
    (cases : List Case) :
    (ofCases catchFaults room (c :: cases) input).ending = .stopped fault := by
  rw [ofCases, h]

end

theorem output_ofCases (catchFaults : Bool) (room : Room) (cases : List Case) (input : Input γ) :
    (ofCases catchFaults room cases input).output =
      room.taken (Report.lines (Result.leading (Session.run catchFaults cases input).results)) := by
  fun_induction ofCases catchFaults room cases input with
  | case1 => exact (Room.taken_nil _).symm
  | case2 room c cases input turn failure h =>
    rw [Session.leading_of_unread h]
    exact (Room.taken_nil room).symm
  | case3 room c cases input turn fault h =>
    rw [Session.leading_of_stopped h]
    exact (Room.taken_nil room).symm
  | case4 room c cases input turn report h written hfits later ih =>
    rw [Session.leading_cons h, Report.lines_cons, Room.taken_append_of_eq hfits, ← ih]
    exact congrArg (· ++ later.output) hfits
  | case5 room c cases input turn report h written hfull =>
    rw [Session.leading_cons h, Report.lines_cons, Room.taken_append_of_ne hfull]

/-- If all lines fit, a run ends with the first result that is no report. -/
theorem closes_ofCases {catchFaults : Bool} {room : Room} {cases : List Case} {input : Input γ}
    {results : List Result} (hresults : results = (Session.run catchFaults cases input).results)
    (hfits : room.taken (Report.lines (Result.leading results)) =
      Report.lines (Result.leading results)) :
    Ending.Closes (Result.leading results) results[(Result.leading results).length]?
        (ofCases catchFaults room cases input).ending ∧
      (ofCases catchFaults room cases input).rest =
        (Session.run catchFaults (cases.take ((Result.leading results).length + 1))
          input).rest := by
  subst hresults
  fun_induction ofCases catchFaults room cases input with
  | case1 => exact ⟨.complete, rfl⟩
  | case2 room c cases input turn failure h =>
    rw [Session.leading_of_unread h]
    simp only [Session.run, List.length_nil, List.getElem?_cons_zero, List.take_succ_cons,
      List.take_zero]
    rw [h]
    exact ⟨.unread failure, rfl⟩
  | case3 room c cases input turn fault h =>
    rw [Session.leading_of_stopped h]
    simp only [Session.run, List.length_nil, List.getElem?_cons_zero, List.take_succ_cons,
      List.take_zero]
    rw [h]
    exact ⟨.stopped fault, rfl⟩
  | case4 room c cases input turn report h written hwritten later ih =>
    rw [Session.leading_cons h, Report.lines_cons, Room.taken_append_eq_iff] at hfits
    obtain ⟨hending, hrest⟩ := ih hfits.2
    rw [Session.leading_cons h]
    exact ⟨hending.cons report, hrest⟩
  | case5 room c cases input turn report h written hfull =>
    rw [Session.leading_cons h, Report.lines_cons, Room.taken_append_eq_iff] at hfits
    exact absurd hfits.1 hfull

/-- If not all lines fit, a run ends with the first one that does not, and no later case has taken
anything from the input. -/
theorem outputFull_ofCases {catchFaults : Bool} {room : Room} {cases : List Case} {input : Input γ}
    {reports : List Report}
    (hreports : reports = Result.leading (Session.run catchFaults cases input).results)
    (hfull : room.taken (Report.lines reports) ≠ Report.lines reports) :
    (ofCases catchFaults room cases input).ending = .outputFull ∧ ∃ k < reports.length,
      room.taken (Report.lines (reports.take k)) = Report.lines (reports.take k) ∧
      room.taken (Report.lines (reports.take (k + 1))) ≠ Report.lines (reports.take (k + 1)) ∧
      (ofCases catchFaults room cases input).rest =
        (Session.run catchFaults (cases.take (k + 1)) input).rest := by
  subst hreports
  fun_induction ofCases catchFaults room cases input with
  | case1 => exact absurd (Room.taken_nil _) hfull
  | case2 room c cases input turn failure h =>
    rw [Session.leading_of_unread h] at hfull
    exact absurd (Room.taken_nil room) hfull
  | case3 room c cases input turn fault h =>
    rw [Session.leading_of_stopped h] at hfull
    exact absurd (Room.taken_nil room) hfull
  | case4 room c cases input turn report h written hwritten later ih =>
    rw [Session.leading_cons h] at hfull ⊢
    rw [Report.lines_cons, ne_eq, Room.taken_append_eq_iff] at hfull
    obtain ⟨hending, k, hk, hfits, hnext, hrest⟩ := ih fun hlater => hfull ⟨hwritten, hlater⟩
    refine ⟨?_, k + 1, Nat.succ_lt_succ hk, ?_, ?_, hrest⟩
    · exact congrArg (Ending.after report) hending
    · rw [List.take_succ_cons, Report.lines_cons, Room.taken_append_eq_iff]
      exact ⟨hwritten, hfits⟩
    · rw [List.take_succ_cons, Report.lines_cons, ne_eq, Room.taken_append_eq_iff]
      exact fun hboth => hnext hboth.2
  | case5 room c cases input turn report h written hwritten =>
    rw [Session.leading_cons h]
    refine ⟨rfl, 0, Nat.succ_pos _, Room.taken_nil room, ?_, rfl⟩
    rw [List.take_succ_cons, Report.lines_cons, ne_eq, Room.taken_append_eq_iff]
    exact fun hboth => hwritten hboth.1

/-- If the lines fit, they are all written. Else as many bytes of them as fit are written, and the
run ends with the first line that does not fit. -/
theorem ofCases_limit (catchFaults : Bool) (limit : Nat) (cases : List Case) (input : Input γ) :
    let results := (Session.run catchFaults cases input).results
    let reports := Result.leading results
    let run := ofCases catchFaults (some limit) cases input
    (results.length = cases.length ∧ results.take reports.length = reports.map .reported ∧
      (∀ r, results[reports.length]? ≠ some (.reported r)) ∧
      ∀ r, .reported r ∈ results → Printable r.line) ∧
    ((Report.lines reports).length ≤ limit →
      run.output = Report.lines reports ∧ Console.lines run.output = reports.map Report.output ∧
      Ending.Closes reports results[reports.length]? run.ending ∧
      run.rest = (Session.run catchFaults (cases.take (reports.length + 1)) input).rest) ∧
    (limit < (Report.lines reports).length →
      run.output = (Report.lines reports).take limit ∧ run.ending = .outputFull ∧
      ∃ k < reports.length, (Report.lines (reports.take k)).length ≤ limit ∧
        limit < (Report.lines (reports.take (k + 1))).length ∧
        run.rest = (Session.run catchFaults (cases.take (k + 1)) input).rest) := by
  intro results reports run
  have houtput : run.output = Room.taken (some limit) (Report.lines reports) :=
    output_ofCases catchFaults (some limit) cases input
  have hprintable (r : Report) (hr : .reported r ∈ results) : Printable r.line :=
    Session.printable_line_of_mem hr
  refine ⟨⟨?_, Result.take_leading results, Result.next_leading results, hprintable⟩, ?_, ?_⟩
  · have h := congrArg List.length (Session.results_run catchFaults cases input)
    rwa [List.length_mapIdx] at h
  · intro hlimit
    have hfits := Room.taken_some_eq_iff.mpr hlimit
    rw [houtput, hfits]
    refine ⟨rfl, Report.cut_lines fun r hr => hprintable r ?_, closes_ofCases rfl hfits⟩
    have hmem : Result.reported r ∈ reports.map .reported := List.mem_map_of_mem hr
    rw [← Result.take_leading results] at hmem
    exact List.mem_of_mem_take hmem
  · intro hlimit
    have hfull : Room.taken (some limit) (Report.lines reports) ≠ Report.lines reports :=
      fun he => Nat.not_le.mpr hlimit (Room.taken_some_eq_iff.mp he)
    obtain ⟨hending, k, hk, hfits, hnext, hrest⟩ := outputFull_ofCases rfl hfull
    refine ⟨houtput, hending, k, hk, Room.taken_some_eq_iff.mp hfits, ?_, hrest⟩
    exact Nat.lt_of_not_le fun hle => hnext (Room.taken_some_eq_iff.mpr hle)

theorem ofCases_limit_demonstration :
    let input : Input WordCycle := { unread := [], words := { words := [] } }
    let reports := Result.leading (Session.run true (Case.demonstration 100) input).results
    (Report.lines reports).length = 79 ∧
      (ofCases true (some 79) (Case.demonstration 100) input).output = Report.lines reports ∧
      (ofCases true (some 78) (Case.demonstration 100) input).ending = .outputFull := by
  intro input reports
  have hlength : (Report.lines reports).length = 79 := by decide +kernel
  have hfits := (ofCases_limit true 79 (Case.demonstration 100) input).2.1 (Nat.le_of_eq hlength)
  have hfull := (ofCases_limit true 78 (Case.demonstration 100) input).2.2
    (Nat.lt_of_lt_of_eq (by decide) hlength.symm)
  exact ⟨hlength, hfits.1, hfull.2.1⟩

end Run

end GuardedDivision
