import RobotSession.Engine.Basic
import RobotSession.Session.Shared

/-!
# An engine among other threads

`Engine.turn` lets an engine go on as far as it gets in one atomic step: it executes
instructions, or the inbox or the clock answers a request, or a call of its task has ended.
A line for the log is left to the surroundings, because a log may do anything: `Turn.log`
carries the line, and `Engine.logged` the log's answer.
-/

namespace RobotSession

open Lua

/-- What a turn of an engine comes to. -/
inductive Turn
  /-- The task goes on. -/
  | going
  /-- The script waits for a call or for the clock. -/
  | blocked (deadline : Nat)
  /-- The script logs a line. -/
  | log (line : String)
  /-- The script ends the process. -/
  | exit (code : Int)
  | completed (c : Completion)

namespace Engine

/-- Number of machine steps in a turn. -/
def quantum : Nat := 2000

/-- What a machine step and a look at the clock take, in nanoseconds. -/
def stepTime : Nat := 100
def clockTime : Nat := 10000

def answer (e : Engine) (a : Answer) : Engine :=
  { e with machine := e.machine.answer a }

/-- Goes on with the log's answer. -/
def logged (e : Engine) (panic : Option Payload) : Engine :=
  e.answer (match panic with | some p => .panicked p | none => .done)

/-- The content of a file, or why it cannot be read. -/
def fileAnswer (s : Shared) (path : ByteArray) : Answer :=
  .file (match s.files.readOctets path with
    | .ok c => .ok c
    | .error f => .error (f.reason, f.number?.getD 0))

/-- Answers a request. -/
def serve (e : Engine) (s : Shared) (q : Ask) : Turn × Engine × Shared × List Signal :=
  let going (a : Answer) : Turn × Engine × Shared × List Signal := (.going, e.answer a, s, [])
  match q with
  | .pending => going (.flag (s.inbox e.id).isPending)
  | .take =>
    -- the oldest call is taken, and the flag goes with the last one
    let (i, b) := (s.inbox e.id).pop
    (.going, e.answer (.invocation i), s.setInbox e.id b, [])
  | .failed i error => (.going, e.answer .done, s, [.record (failedRecord i error)])
  | .clock =>
    -- a look at the clock takes time itself, so that no two of them agree
    let s := { s with clock := s.clock + clockTime }
    (.going, e.answer (.time (s.clock - e.openedAt)), s, [])
  | .wait deadline =>
    -- scripts count from the time at which their engine was opened
    let deadline := e.openedAt + deadline
    if (s.inbox e.id).isReady || deadline ≤ s.clock then going .done
    else (.blocked deadline, e, s, [])
  | .readFile path => going (fileAnswer s path)
  | .output toError text => (.going, e.answer .done, s, [.output toError text])
  | .environment name =>
    going (.variableIs (s.environment.lookup (Text.Utf8.lossy name)))
  -- these two are left to the surroundings; the engine waits for their answer
  | .log line => (.log line, e, s, [])
  | .exit code => (.exit code, e, s, [])

/-- Lets an engine go on. -/
def turn (e : Engine) (s : Shared) : Turn × Engine × Shared × List Signal :=
  match e with
  | { id, machine, task, openedAt } =>
    let machine := machine.advance quantum
    match machine.mode with
    | .ask w => serve { id, machine, task, openedAt } s w.question
    | .ended result =>
      match ({ id, machine, task, openedAt } : Engine).settle result with
      | (some c, e) => (.completed c, e, s, [])
      | (none, e) => (.going, e, s, [])
    | _ =>
      (.going, { id, machine, task, openedAt }, { s with clock := s.clock + quantum * stepTime }, [])

/-- A robot has been constructed: calls are accepted from now on. -/
def bindRobot (e : Engine) (s : Shared) (r : Robot) : Shared × List Signal :=
  (s.setInbox e.id (s.inbox e.id).bind, [.record (boundRecord r.finish.isSome)])

/-- Closes the inbox of an engine. -/
def closeInbox (e : Engine) (s : Shared) : Shared × List Signal :=
  (s.setInbox e.id (s.inbox e.id).close, [.record closedRecord])

/-- A new engine with its inbox. -/
def openIn (s : Shared) (interval : Nat) : Engine × Shared × List Signal :=
  let (id, s) := s.newInbox
  (.opened id interval s.clock s.collections, s, [.record openedRecord])

/-- Begins to load a module from a file. -/
def loadFile (e : Engine) (s : Shared) (path : ByteArray) : Except SessionError Engine :=
  match s.files.readText path with
  | .error f => .error (.scriptNotFound path f.message)
  | .ok source => e.load path source

end Engine

end RobotSession
