import GuardedDivision.Log.Event

namespace GuardedDivision

inductive Result where
  | reported (report : Report)
  | unread (failure : ReadFailure)
  | stopped (fault : Fault)
deriving DecidableEq, Repr

namespace Case

def result (c : Case) (catchFaults : Bool) (denominator : Denominator) : Result :=
  match c.route with
  | .guarded => match c.guardedResult denominator with
    | .ok value => .reported { subject := c, denominator, outcome := .value value }
    | .error refusal => .reported { subject := c, denominator, outcome := .refused refusal }
  | .unguarded => match c.unguardedResult denominator with
    | .ok value => .reported { subject := c, denominator, outcome := .value value }
    | .error fault =>
      if catchFaults then
        .reported { subject := c, denominator, outcome := .faulted fault.message }
      else .stopped fault

end Case

namespace Result

def faultEvents : Result → List Log.Event
  | .reported { subject, denominator, outcome := .faulted message } =>
    [.faulted message subject.numerator denominator]
  | _ => []

end Result

structure Turn (γ : Type) where
  result : Result
  events : List Log.Event
  rest : Input γ
deriving DecidableEq, Repr

variable {γ : Type} [WordSource γ]

/-- Runs a case. Nothing is logged if its denominator cannot be read. -/
def Case.run (c : Case) (catchFaults : Bool) (input : Input γ) : Turn γ :=
  match c.readDenominator input with
  | (.error failure, rest) => { result := .unread failure, events := [], rest }
  | (.ok denominator, rest) =>
    let result := c.result catchFaults denominator
    { result, events := .runningCase c denominator :: result.faultEvents, rest }

structure Session (γ : Type) where
  results : List Result
  rest : Input γ
deriving DecidableEq, Repr

namespace Session

def run (catchFaults : Bool) : List Case → Input γ → Session γ
  | [], input => { results := [], rest := input }
  | c :: cases, input =>
    let turn := c.run catchFaults input
    let later := run catchFaults cases turn.rest
    { results := turn.result :: later.results, rest := later.rest }

end Session

end GuardedDivision
