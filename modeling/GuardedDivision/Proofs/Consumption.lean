import GuardedDivision.Proofs.Case
import GuardedDivision.Proofs.Lines

namespace GuardedDivision

variable {γ : Type} [WordSource γ]

theorem WordSource.skip_add (source : γ) (j k : Nat) :
    skip source (j + k) = skip (skip source j) k := by
  induction j generalizing source with
  | zero => rw [Nat.zero_add, skip]
  | succ j ih => rw [Nat.succ_add, skip, ih, skip]

namespace Input

def skip (input : Input γ) (lines words : Nat) : Input γ where
  unread := ((Console.lines input.unread).drop lines).flatten
  words := WordSource.skip input.words words

/-- The input of one case alone: a single line, none if there are no more, and the random words
from a given one on. -/
def own (input : Input γ) (line word : Nat) : Input γ where
  unread := (Console.lines input.unread)[line]?.getD []
  words := WordSource.skip input.words word

theorem skip_zero (input : Input γ) : input.skip 0 0 = input := by
  simp [skip, Console.flatten_lines, WordSource.skip]

theorem skip_skip (input : Input γ) (i j k l : Nat) :
    (input.skip i j).skip k l = input.skip (i + k) (j + l) := by
  simp only [skip, Console.lines_flatten_drop, List.drop_drop, WordSource.skip_add]

theorem own_skip (input : Input γ) (i j k l : Nat) :
    (input.skip i j).own k l = input.own (i + k) (j + l) := by
  simp only [skip, own, Console.lines_flatten_drop, List.getElem?_drop, WordSource.skip_add]

end Input

namespace Case

def lineCount (cases : List Case) : Nat := cases.countP fun c => c.source = .console

def wordCount (cases : List Case) : Nat := cases.countP fun c => c.source = .random

theorem lineCount_cons (c : Case) (cases : List Case) :
    lineCount (c :: cases) = lineCount [c] + lineCount cases := by
  rw [lineCount, ← List.singleton_append, List.countP_append, lineCount, lineCount]

theorem wordCount_cons (c : Case) (cases : List Case) :
    wordCount (c :: cases) = wordCount [c] + wordCount cases := by
  rw [wordCount, ← List.singleton_append, List.countP_append, wordCount, wordCount]

end Case

namespace Source

theorem rest_read {α : Type} (ofInt32 : Int32 → α) (ofText? : List Char → Option α)
    (c : Case) (input : Input γ) :
    (c.source.read ofInt32 ofText? input).2 =
      input.skip (Case.lineCount [c]) (Case.wordCount [c]) := by
  cases hs : c.source with
  | zero | fixed value =>
    have h := input.skip_zero
    simpa [Case.lineCount, Case.wordCount, hs, read] using h.symm
  | random =>
    simp [Case.lineCount, Case.wordCount, hs, read, Input.skip, WordSource.skip,
      Console.flatten_lines]
  | console =>
    simp [Case.lineCount, Case.wordCount, hs, read, Input.skip, WordSource.skip,
      Console.rest_cutLine]

/-- A source sees the first line and the first word of its input only. -/
theorem read_own {α : Type} (ofInt32 : Int32 → α) (ofText? : List Char → Option α)
    (source : Source) (input : Input γ) :
    (source.read ofInt32 ofText? (input.own 0 0)).1 = (source.read ofInt32 ofText? input).1 := by
  cases source with
  | zero | fixed value | random => rfl
  | console => simp only [read, Input.own, Console.head_lines, Console.cutLine_cutLine]

end Source

namespace Case

theorem rest_run (c : Case) (catchFaults : Bool) (input : Input γ) :
    (c.run catchFaults input).rest = input.skip (lineCount [c]) (wordCount [c]) := by
  rw [run_rest]
  unfold readDenominator
  cases c.operation with
  | divide | modulo => exact Source.rest_read _ _ c input
  | float => exact Source.rest_read _ _ c input

theorem result_run_own (c : Case) (catchFaults : Bool) (input : Input γ) :
    (c.run catchFaults (input.own 0 0)).result = (c.run catchFaults input).result := by
  have hd : (c.readDenominator (input.own 0 0)).1 = (c.readDenominator input).1 := by
    unfold readDenominator
    cases c.operation with
    | divide | modulo =>
      exact congrArg (Except.map Denominator.int) (Source.read_own _ _ c.source input)
    | float => exact congrArg (Except.map Denominator.float) (Source.read_own _ _ c.source input)
  rw [run_result, run_result, hd]

end Case

namespace Session

theorem rest_run (catchFaults : Bool) (cases : List Case) (input : Input γ) :
    (run catchFaults cases input).rest =
      input.skip (Case.lineCount cases) (Case.wordCount cases) := by
  induction cases generalizing input with
  | nil => exact input.skip_zero.symm
  | cons c cases ih =>
    rw [run, ih, Case.rest_run, Input.skip_skip, ← Case.lineCount_cons, ← Case.wordCount_cons]

theorem results_run (catchFaults : Bool) (cases : List Case) (input : Input γ) :
    (run catchFaults cases input).results = cases.mapIdx fun i c =>
      (c.run catchFaults
        (input.own (Case.lineCount (cases.take i)) (Case.wordCount (cases.take i)))).result := by
  induction cases generalizing input with
  | nil => rfl
  | cons c cases ih =>
    rw [run, ih, List.mapIdx_cons, Case.rest_run]
    simp only [List.cons.injEq]
    constructor
    · exact (c.result_run_own catchFaults input).symm
    · simp only [Input.own_skip, List.take_succ_cons, ← Case.lineCount_cons,
        ← Case.wordCount_cons]

/-- Each case of a session sees the line and the word after those that the cases before it have
taken, and gives what it gives on them alone. -/
theorem run_own (catchFaults : Bool) (cases : List Case) (input : Input γ) :
    (run catchFaults cases input).results = (cases.mapIdx fun i c =>
      (c.run catchFaults
        (input.own (Case.lineCount (cases.take i)) (Case.wordCount (cases.take i)))).result) ∧
      (run catchFaults cases input).rest =
        input.skip (Case.lineCount cases) (Case.wordCount cases) ∧
      ∀ (c : Case) (here : Input γ), (c.run catchFaults here).rest =
        here.skip (if c.source = .console then 1 else 0) (if c.source = .random then 1 else 0) := by
  refine ⟨results_run catchFaults cases input, rest_run catchFaults cases input, ?_⟩
  intro c here
  rw [Case.rest_run]
  simp [Case.lineCount, Case.wordCount, List.countP_cons]

end Session

end GuardedDivision
