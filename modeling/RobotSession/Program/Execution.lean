import RobotSession.Bridge.Threads
import RobotSession.Program.Plan

/-!
# Executions

A process carries out a plan. It shows a text, or runs the threads of a session in turn: the
controller first, then the worker; when both wait the clock is moved on to the next deadline.
A process that runs a session ends as soon as the controller has, or when the script ends it;
a worker that was left alone does not go on.

* `Execution.start` — the process of a plan.
* `Execution.step` — a step of one of its threads.
* `Execution.run` — all steps; the surroundings may interrupt after a line of the log.
* `Execution.result` — what is shown, and the exit code.
-/

namespace RobotSession

/-- A line of the log. -/
structure Entry where
  /-- It was written while the worker ran the session. -/
  inSession : Bool
  record : Record

namespace Entry

/-- The characters that steer a terminal, apart from those that part lines and columns. -/
def steers (c : Char) : Bool :=
  [0x07, 0x08, 0x0C, 0x1B, 0x7F].contains c.toNat || (0x80 ≤ c.toNat && c.toNat ≤ 0x9F)

/-- Writes a character that steers a terminal as an escape. -/
def escape (c : Char) : List Char :=
  let digits := Nat.toDigits 16 c.toNat
  if !steers c then [c]
  else if 0x80 ≤ c.toNat then ['\\', 'u', '\x7b'] ++ digits ++ ['\x7d']
  else ['\\', 'x'] ++ List.replicate (2 - digits.length) '0' ++ digits

/-- The line, with the texts that stand for identifiers and for measured times. -/
def line (e : Entry) (identity : String) (measured : Nat → String) : String :=
  let span := if e.inSession then "session\x7bid=" ++ identity ++ "\x7d: " else ""
  e.record.write span (fun m => String.ofList (m.toList.flatMap escape)) fun
    | .text s => s
    | .identity => identity
    | .measured ms => measured ms

end Entry

/-- A process that runs a session. -/
structure Execution where
  shared : Shared
  threads : Threads
  /-- The lines of the log; those below `info` are not written. -/
  log : Array Entry := #[]
  /-- What the script has written. -/
  out : ByteArray := .empty
  err : ByteArray := .empty
  /-- The exit code, once the script has ended the process. -/
  exited : Option Int := none
  /-- Someone has interrupted the process. -/
  isInterrupted : Bool := false

namespace Execution

/-- A process that is about to run a robot program. -/
def start (host : SimHost) (config : BridgeConfig) (path : ByteArray) (s : Surroundings) : Execution :=
  { shared := { host, files := s.files, environment := s.environment, collections := s.collections }
    threads := { controller := { path, config } } }

/-- Writes a record to the log. -/
def write (p : Execution) (inSession : Bool) (r : Record) : Execution :=
  if r.level = .debug then p else { p with log := p.log.push { inSession, record := r } }

/-- Takes note of what a thread does. -/
def note (p : Execution) (inSession : Bool) : Signal → Execution
  | .record r => p.write inSession r
  | .host _ => p
  | .output false text => { p with out := p.out ++ text }
  | .output true text => { p with err := p.err ++ text }

/-- The record of a line that the script logs. -/
def scriptRecord (line : String) : Record :=
  { level := .info, target := .script, message := line }

/-- What a step of a process comes to. -/
inductive Progress
  | going
  /-- Nothing happens before a deadline, or ever. -/
  | idle (deadline : Option Nat)
  | ended

/-- Whether the controller's next step is one of the worker that it runs itself. -/
def isInline (c : Controller) : Bool :=
  match c.stage with
  | .inline_ w => w.result?.isNone
  | _ => false

/-- A step of the controller's thread. -/
def controllerStep (p : Execution) : ThreadTurn × Execution :=
  match p with
  | { shared, threads, log, out, err, exited, isInterrupted } =>
    let inSession := isInline threads.controller
    let (t, threads, shared, signals) := threads.controllerStep shared true
    let p : Execution := signals.foldl (note · inSession) { shared, threads, log, out, err, exited, isInterrupted }
    match t with
    | .log line => (.going, { p.write true (scriptRecord line) with threads := p.threads.controllerLogged none })
    | t => (t, p)

/-- A step of the worker's thread. -/
def workerStep (p : Execution) : ThreadTurn × Execution :=
  match p with
  | { shared, threads, log, out, err, exited, isInterrupted } =>
    let (t, threads, shared, signals) := threads.workerStep shared
    let p : Execution := signals.foldl (note · true) { shared, threads, log, out, err, exited, isInterrupted }
    match t with
    | .log line => (.going, { p.write true (scriptRecord line) with threads := p.threads.workerLogged none })
    | t => (t, p)

/-- A step of one of the threads. -/
def step (p : Execution) : Progress × Execution :=
  match p.controllerStep with
  | (.exit code, p) => (.ended, { p with exited := some code })
  | (.blocked first, p) =>
    match p.workerStep with
    | (.exit code, p) => (.ended, { p with exited := some code })
    | (.blocked second, p) => (.idle (Threads.earlier first second), p)
    | (.ended, p) => (.idle first, p)
    | (_, p) => (.going, p)
  | (.ended, p) => (.ended, p)
  | (_, p) => (.going, p)

/-- Moves the clock on to a deadline. -/
def moveClock (p : Execution) (deadline : Nat) : Execution :=
  { p with shared := { p.shared with clock := max p.shared.clock deadline } }

/-- Asks the host to leave its main loop. A process without one cannot be interrupted. -/
def interrupt (p : Execution) : Execution :=
  if p.shared.host.hasMainLoop then
    { p with shared := { p.shared with host := p.shared.host.requestExit }, isInterrupted := true }
  else p

/-- Interrupts the process if one of the entries from `since` on calls for it. -/
def react (p : Execution) (calls : Entry → Bool) (since : Nat) : Execution :=
  if !p.isInterrupted && (p.log.extract since p.log.size).any calls then p.interrupt else p

/-- Runs a process to its end; entries of the log may call for an interrupt. -/
def run (calls : Entry → Bool) : Nat → Execution → Execution
  | 0, p => p
  | fuel + 1, p =>
    let since := p.log.size
    match p.step with
    | (.going, p) => run calls fuel (p.react calls since)
    | (.idle (some deadline), p) => run calls fuel (p.moveClock deadline)
    | (.idle none, p) => p
    | (.ended, p) => p

/-- The record of a session that was run. -/
def finishedRecord (o : Outcome) : Record :=
  { level := .info, target := .command, message := "session finished"
    fields := [("termination", .text o.termination.title), ("join_wait_ms", .measured (o.joinWait / 1000000))] }

/-- What a process shows, and how it ends. -/
structure Result where
  code : Nat := 0
  log : Array Entry := #[]
  out : ByteArray := .empty
  err : ByteArray := .empty
  isInterrupted : Bool := false

/-- The exit code as others see it: its lowest octet. -/
def visibleCode (code : Int) : Nat :=
  (code % 256).toNat

/-- The result of a process that has ended. -/
def result (p : Execution) : Result :=
  let base : Result :=
    { log := p.log, out := p.out, err := p.err, isInterrupted := p.isInterrupted }
  match p.exited with
  | some code => { base with code := visibleCode code }
  | none =>
    match p.threads.controller.result? with
    | none => base
    | some (.ok o) =>
      { base with code := visibleCode o.exitCode, log := p.log.push ⟨false, finishedRecord o⟩ }
    | some (.error e) =>
      { base with code := visibleCode e.exitCode, err := p.err ++ (Plan.errorLine e.message).toUTF8 }
    | some (.panicked _) => { base with code := 101 }

end Execution

namespace Plan

/-- Carries out a plan. -/
def carryOut (plan : Plan) (s : Surroundings) (calls : Entry → Bool) (fuel : Nat) : Execution.Result :=
  match plan with
  | .tell text code => { code := Execution.visibleCode code, out := text.toUTF8 }
  | .complain text code => { code := Execution.visibleCode code, err := text.toUTF8 }
  | .run host config path => ((Execution.start host config path s).run calls fuel).result

end Plan

end RobotSession
