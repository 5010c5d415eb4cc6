import RobotSession.Program.Execution
import RobotSession.Session.Uuid

/-!
# The program

Reads the surroundings, carries out the plan, and shows its result while it comes about. The
robot programs below the working directory and the files that the command line names are
read at the start.
-/

namespace RobotSession.Program

open CommandLine

/-- Reads a file if there is one. -/
def fetch (f : Files) (path : ByteArray) : IO Files := do
  match Text.Utf8.decode? path with
  | none => return f
  | some name =>
    try
      return f.put path (some (← IO.FS.readBinFile name))
    catch _ => return f

/-- Reads the robot programs below a directory. -/
partial def gather (f : Files) (above : String) (entry : IO.FS.DirEntry) : IO Files := do
  let name := above ++ entry.fileName
  if ← entry.path.isDir then
    if entry.fileName.startsWith "." then return f
    let f := f.put name.toUTF8 none
    try
      (← entry.path.readDir).foldlM (fun f e => gather f (name ++ "/") e) f
    catch _ => return f
  else if entry.fileName.endsWith ".lua" then fetch f name.toUTF8
  else return f

/-- The files that a request names. -/
def named (r : Request) : List ByteArray :=
  r.config.toList ++ r.program.toList.map (·.2)

/-- The variables that a process can see. -/
def visibleVariables : List String :=
  [Settings.extensionsVariable, "RUST_LOG", "HOME", "USER", "PATH", "LANG", "TMPDIR"]

def surroundings (args : List String) : IO Surroundings := do
  let arguments := args.map String.toUTF8
  let environment ← visibleVariables.filterMapM fun name => do
    return (← IO.getEnv name).map fun value => (name, value.toUTF8)
  let files ← match Request.ofWords arguments with
    | .ok r =>
      if r.program.isNone then pure {}
      else
        let below ← (← (← IO.currentDir).readDir).foldlM (fun f e => gather f "" e) {}
        (named r).foldlM fetch below
    | .error _ => pure {}
  return { arguments, environment, files }

/-- A new identifier. -/
def newIdentity : IO String := do
  let digits ← (List.range 32).mapM fun i => do
    let d ← IO.rand 0 15
    let d := if i = 12 then 4 else if i = 16 then 8 + d % 4 else d
    return Uuid.digitChar ⟨d % 16, Nat.mod_lt d (by decide)⟩
  return String.ofList (List.intercalate ['-'] (Uuid.cut Uuid.groups digits))

/-- Shows the entries from `since` on. -/
def showLog (identity : String) (log : Array Entry) (since : Nat) : IO Unit :=
  for e in log.extract since log.size do
    IO.println (e.line identity toString)

/-- Carries out an execution, and shows its log meanwhile if it is wanted. -/
partial def carryOut (identity : String) (showsLog : Bool) (x : Execution) : IO Execution := do
  let since := x.log.size
  let (p, x) := x.step
  if showsLog then showLog identity x.log since
  match p with
  | .going => carryOut identity showsLog x
  | .idle (some deadline) =>
    IO.sleep (UInt32.ofNat ((deadline - x.shared.clock) / 1000000))
    carryOut identity showsLog (x.moveClock deadline)
  | .idle none => return x
  | .ended => return x

/-- Shows a result. -/
def finish (r : Execution.Result) : IO UInt32 := do
  (← IO.getStdout).write r.out
  (← IO.getStderr).write r.err
  return UInt32.ofNat r.code

end RobotSession.Program

open RobotSession RobotSession.Program in
def main (args : List String) : IO UInt32 := do
  let s ← surroundings args
  match Plan.of s with
  | .run host config path =>
    let identity ← newIdentity
    let showsLog := s.environment.lookup "RUST_LOG" != some "luabot=off".toUTF8
    let x ← carryOut identity showsLog (Execution.start host config path s)
    let r := x.result
    if showsLog then showLog identity r.log x.log.size
    finish r
  | plan => finish (plan.carryOut s (fun _ => false) 0)
