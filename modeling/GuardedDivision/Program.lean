import GuardedDivision.CommandLine.Meaning
import GuardedDivision.Failure
import GuardedDivision.Log.Filter
import GuardedDivision.Run
import GuardedDivision.Settings.Discovery
import GuardedDivision.Settings.Text

namespace GuardedDivision

/-- What the program finds when it starts. The seed is for when the settings have none. -/
structure Environment where
  arguments : List String
  logFilter : Option String
  tree : FileTree
  working : Location
  home : String
  console : Bytes
  freshSeed : UInt64
deriving Repr

inductive Abort where
  | uncaught (fault : Fault)
  | brokenFilter (cut : BrokenCut)
deriving DecidableEq, Repr

namespace Abort

def message : Abort → List Char
  | .uncaught fault => fault.message
  | .brokenFilter cut => cut.message

end Abort

inductive Verdict where
  | success
  | faultReported
  | failed (failure : Failure)
  | aborted (cause : Abort)
  | misused
deriving DecidableEq, Repr

namespace Verdict

def exitStatus : Verdict → Nat
  | .success => 0
  | .faultReported | .failed _ => 1
  | .misused => 2
  | .aborted _ => 101

end Verdict

structure Transcript where
  verdict : Verdict
  output : Bytes
  events : List Log.Event
deriving DecidableEq, Repr

namespace Program

def versionText : List Char := "divguard 0.1.0\n".toList

def loadNamed (env : Environment) (path : String) :
    Except LoadFailure Settings × List Log.Event :=
  match Settings.ofPath env.tree env.working path with
  | .ok s => (.ok s, [.loading path, .loaded path])
  | .error failure => (.error failure, [.loading path])

/-- The settings that are found. The defaults stand in for a file that cannot be used. -/
def loadFound (env : Environment) : Settings × List Log.Event :=
  match Settings.discovered? env.tree env.working env.home with
  | none => ({}, [])
  | some path =>
    match Settings.ofPath env.tree env.working path with
    | .ok s => (s, [.loaded path])
    | .error failure => ({}, [.usingDefaults failure])

def load (env : Environment) (line : CommandLine) :
    Except LoadFailure Settings × List Log.Event :=
  match line.config? with
  | some path => loadNamed env path
  | none =>
    let (s, events) := loadFound env
    (.ok s, events)

def printed (s : Settings) : Bytes := Utf8.encode (s.toText ++ ['\n'])

/-- The verdict on a run. A report of a fault counts if it is what was asked for. -/
def verdict (faultsCount : Bool) : Ending → Verdict
  | .complete reports =>
    if faultsCount && reports.any Report.isFault then .faultReported else .success
  | .unread cause => .failed (.unread cause)
  | .outputFull => .failed .outputFull
  | .stopped fault => .aborted (.uncaught fault)

def perform (env : Environment) (line : CommandLine) (s : Settings) : Transcript :=
  if line.printing? = some .current then
    { verdict := .success, output := printed s, events := [] }
  else if line.level = .single then
    let run := Run.single s env.freshSeed none (line.subject s) env.console
    { verdict := verdict true run.ending, output := run.output, events := run.events }
  else
    let run := Run.demonstration s env.freshSeed none env.console
    { verdict := verdict false run.ending, output := run.output, events := run.events }

/-- Everything that a command line brings about, with all events. Printing the defaults loads
nothing. -/
def execute (env : Environment) (line : CommandLine) : Transcript :=
  if line.printing? = some .default then
    { verdict := .success, output := printed {}, events := [] }
  else match load env line with
    | (.error failure, events) => { verdict := .failed (.settings failure), output := [], events }
    | (.ok s, events) =>
      let done := perform env line s
      { done with events := events ++ done.events }

def filter (env : Environment) (line : CommandLine) : Except BrokenCut Log.Filter :=
  Log.Filter.inForce (env.logFilter.map String.toList) (line.has .verbose) (line.has .quiet)

/-- The whole program. Of the events only those that the filter lets through are shown. -/
def run (env : Environment) : Transcript :=
  match CommandLine.read? env.arguments with
  | none => { verdict := .misused, output := [], events := [] }
  | some .version => { verdict := .success, output := Utf8.encode versionText, events := [] }
  | some (.command line) =>
    match filter env line with
    | .error cut => { verdict := .aborted (.brokenFilter cut), output := [], events := [] }
    | .ok filter =>
      let done := execute env line
      { done with events := done.events.filter filter.enables }

end Program

end GuardedDivision
