import GuardedDivision.Program

namespace GuardedDivision

def FileTree.look (tree : FileTree) (here : Location) : IO FileTree := do
  let path := (← IO.currentDir) / (if here = [] then "/" else here.text)
  if ← path.isDir then
    return tree.makeDirectory here
  else if ← path.pathExists then
    return tree.putFile here (← IO.FS.readBinFile path).toList
  else return tree

def FileTree.gather (working : Location) (home : String) (config : Option String) :
    IO FileTree := do
  let paths := config.toList ++ Settings.candidates working home
  let asked := paths.flatMap fun path =>
    Location.waypoints (Path.start working path) (Path.names path)
  (working :: asked).foldlM look []

partial def readLine (input : IO.FS.Stream) (line : Bytes) : IO Bytes := do
  match (← input.read 1).toList with
  | [] => return line
  | b :: _ => if b = 0x0A then return line ++ [b] else readLine input (line ++ [b])

def randomSeed : IO UInt64 := do
  let bytes ← IO.getRandomBytes 8
  return bytes.toList.foldl (fun seed b => seed * 256 + b.toUInt64) 0

def environment (arguments : List String) : IO Environment := do
  let working := Location.ofPath (← IO.currentDir).toString
  let home := (← IO.getEnv "HOME").getD ""
  let line := match CommandLine.read? arguments with
    | some (.command line) => some line
    | _ => none
  let asksConsole := line.any fun line => line.level = .single && line.sourceKind = .console
  return {
    arguments
    logFilter := ← IO.getEnv "RUST_LOG"
    tree := ← FileTree.gather working home (line.bind CommandLine.config?)
    working
    home
    console := ← if asksConsole then readLine (← IO.getStdin) [] else pure []
    freshSeed := ← randomSeed }

def Transcript.tell (t : Transcript) : IO UInt32 := do
  let output ← IO.getStdout
  let log ← IO.getStderr
  output.write ⟨t.output.toArray⟩
  output.flush
  t.events.forM fun e => log.putStrLn (String.ofList e.text)
  match t.verdict with
  | .failed failure => log.putStrLn ("Error: " ++ String.ofList failure.detail)
  | .aborted cause => log.putStrLn (String.ofList cause.message)
  | .misused => log.putStrLn "error: the arguments cannot be used"
  | .success | .faultReported => pure ()
  return t.verdict.exitStatus.toUInt32

end GuardedDivision

def main (arguments : List String) : IO UInt32 := do
  (GuardedDivision.Program.run (← GuardedDivision.environment arguments)).tell
