import GuardedDivision.ChaCha
import GuardedDivision.Session

namespace GuardedDivision

inductive Ending where
  | complete (reports : List Report)
  | unread (failure : ReadFailure)
  | outputFull
  | stopped (fault : Fault)
deriving DecidableEq, Repr

namespace Ending

def after (report : Report) : Ending → Ending
  | .complete reports => .complete (report :: reports)
  | ending => ending

end Ending

structure Run (γ : Type) where
  output : Bytes
  ending : Ending
  events : List Log.Event
  rest : Input γ
deriving DecidableEq, Repr

namespace Report

def output (r : Report) : Bytes := Utf8.encode (r.line ++ ['\n'])

end Report

/-- The number of bytes that an output still takes. There may be no limit. -/
abbrev Room := Option Nat

namespace Room

def taken (room : Room) (bytes : Bytes) : Bytes :=
  match room with
  | none => bytes
  | some n => bytes.take n

def after (room : Room) (bytes : Bytes) : Room := room.map (· - bytes.length)

end Room

namespace Run

def ofCases {γ : Type} [WordSource γ] (catchFaults : Bool) :
    Room → List Case → Input γ → Run γ
  | _, [], input => { output := [], ending := .complete [], events := [], rest := input }
  | room, c :: cases, input =>
    let turn := c.run catchFaults input
    match turn.result with
    | .unread failure =>
      { output := [], ending := .unread failure, events := turn.events, rest := turn.rest }
    | .stopped fault =>
      { output := [], ending := .stopped fault, events := turn.events, rest := turn.rest }
    | .reported report =>
      let written := room.taken report.output
      if written = report.output then
        let later := ofCases catchFaults (room.after report.output) cases turn.rest
        { output := written ++ later.output
          ending := later.ending.after report
          events := turn.events ++ later.events
          rest := later.rest }
      else
        { output := written, ending := .outputFull, events := turn.events, rest := turn.rest }

end Run

namespace Settings

def input (s : Settings) (freshSeed : UInt64) (console : Bytes) : Input ChaCha :=
  { unread := console, words := .ofSeed (s.seed.getD freshSeed) }

end Settings

namespace Run

def single (s : Settings) (freshSeed : UInt64) (room : Room) (c : Case) (console : Bytes) :
    Run ChaCha :=
  ofCases s.catchFaults room [c] (s.input freshSeed console)

def demonstration (s : Settings) (freshSeed : UInt64) (room : Room) (console : Bytes) :
    Run ChaCha :=
  let run := ofCases s.catchFaults room (Case.demonstration s.numerator) (s.input freshSeed console)
  { run with events := .runningDemonstration :: run.events }

end Run

end GuardedDivision
