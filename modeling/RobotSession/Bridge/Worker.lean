import RobotSession.Engine.Run

/-!
# The worker of a session

The worker runs one robot program from beginning to end: it opens an engine, publishes its
handle, drives the program through module, constructor and start routine, closes the
engine, and reports. Whatever happens, its last two steps withdraw the handle and ask the
host to leave its main loop.

A panic of the script's surroundings ends the program like any other failure. A panic while
a failure is reported to the host goes on after the last two steps.

Every step is atomic: it touches the slot or one inbox once. `Worker.step` is a step and
`Worker.Stage` says which steps are still to come.
-/

namespace RobotSession

open Lua (Payload)

namespace Payload

/-- The text of a panic in a report. -/
def shown : Lua.Payload → String
  | .text s => s
  | .other => "unknown panic"

end Payload

/-- How the run of a worker ended. -/
inductive WorkerResult
  | returned
  | failed (e : SessionError)
  /-- A panic went on beyond the session. -/
  | panicked (p : Payload)
  deriving Inhabited

namespace Worker

/-- What a worker does next. -/
inductive Stage
  | start
  | publish
  | load
  /-- The engine is busy with a task. -/
  | drive
  | markRunning (r : Robot)
  | enter (r : Robot)
  | closeInbox (result : WorkerResult)
  /-- The engine runs its finalizers. -/
  | closeEngine (result : WorkerResult)
  | recordClose (result : WorkerResult)
  | report (result : WorkerResult)
  | sendError (e : SessionError)
  | finish (result : WorkerResult)
  | requestExit (result : WorkerResult)
  | done (result : WorkerResult)
  deriving Inhabited

end Worker

/-- A worker. -/
structure Worker where
  path : ByteArray
  interval : Nat
  engine : Option Engine := none
  stage : Worker.Stage := .start

/-- What a step of a worker comes to. -/
inductive WorkerTurn
  | going
  | blocked (deadline : Nat)
  | log (line : String)
  | exit (code : Int)

namespace Worker

def record (level : Level) (message : String) (fields : List (String × FieldValue)) : Record :=
  { level, target := .worker, message, fields }

/-- Whether the run has ended. -/
def result? (w : Worker) : Option WorkerResult :=
  match w.stage with
  | .done r => some r
  | _ => none

/-- Goes on with the log's answer. -/
def logged (w : Worker) (panic : Option Payload) : Worker :=
  { w with engine := w.engine.map (·.logged panic) }

/-- The stage after a task of the engine. -/
def afterTask (c : Completion) : Stage :=
  match c with
  | .module _ => .drive
  | .version _ => .drive
  | .robot r => .markRunning r
  | .ended => .closeInbox .returned
  | .failed e => .closeInbox (.failed e)
  | .panicked p => .closeInbox (.failed (.panicked (Payload.shown p)))

/-- Lets the engine go on with the program. -/
def drive (w : Worker) (s : Shared) : WorkerTurn × Worker × Shared × List Signal :=
  match w with
  | { path, interval, engine := some e, stage } =>
    let (t, e, s, signals) := e.turn s
    match t with
    | .going => (.going, { path, interval, engine := some e, stage }, s, signals)
    | .blocked deadline => (.blocked deadline, { path, interval, engine := some e, stage }, s, signals)
    | .log line => (.log line, { path, interval, engine := some e, stage }, s, signals)
    | .exit code => (.exit code, { path, interval, engine := some e, stage }, s, signals)
    | .completed (.module table) =>
      (.going, { path, interval, engine := some (e.construct table), stage }, s, signals)
    | .completed (.robot r) =>
      let (s, bound) := e.bindRobot s r
      (.going, { path, interval, engine := some e, stage := .markRunning r }, s, signals ++ bound)
    | .completed c => (.going, { path, interval, engine := some e, stage := afterTask c }, s, signals)
  | w => (.going, w, s, [])

/-- Lets the engine go on with its finalizers. -/
def finalize (w : Worker) (s : Shared) (result : WorkerResult) :
    WorkerTurn × Worker × Shared × List Signal :=
  match w with
  | { path, interval, engine := some e, stage } =>
    let (t, e, s, signals) := e.turn s
    match t with
    | .completed _ => (.going, { path, interval, engine := none, stage := .recordClose result }, s, signals)
    | .blocked deadline => (.blocked deadline, { path, interval, engine := some e, stage }, s, signals)
    | .log line => (.log line, { path, interval, engine := some e, stage }, s, signals)
    | .exit code => (.exit code, { path, interval, engine := some e, stage }, s, signals)
    | .going => (.going, { path, interval, engine := some e, stage }, s, signals)
  | w => (.going, { w with stage := .recordClose result }, s, [])

/-- Begins to close the engine. -/
def closeEngine (w : Worker) (result : WorkerResult) : Worker :=
  match w.engine with
  | none => { w with stage := .recordClose result }
  | some e =>
    match e.close with
    | (some _, _) => { w with engine := none, stage := .recordClose result }
    | (none, e) => { w with engine := some e, stage := .closeEngine result }

/-- A step of a worker. -/
def step (w : Worker) (s : Shared) : WorkerTurn × Worker × Shared × List Signal :=
  let next (stage : Stage) (s : Shared) (signals : List Signal) :
      WorkerTurn × Worker × Shared × List Signal :=
    (.going, { w with stage }, s, signals)
  match w.stage with
  | .start =>
    let started := record .info "robot session starting" [("script", .text (Text.Utf8.lossy w.path))]
    match s.engineFault with
    -- without an engine there is no queue to close either
    | some detail => next (.report (.failed (.engineInit detail))) s [.record started]
    | none =>
      let (e, s, signals) := Engine.openIn s w.interval
      (.going, { w with engine := some e, stage := .publish }, s, .record started :: signals)
  | .publish =>
    match w.engine with
    -- from here on the controller can reach the queue
    | some e => next .load { s with slot := s.slot.publish e.id } []
    | none => next .load s []
  | .load =>
    match w.engine with
    | none => next (.closeInbox .returned) s []
    | some e =>
      match e.loadFile s w.path with
      | .ok e => (.going, { w with engine := some e, stage := .drive }, s, [])
      | .error f => next (.closeInbox (.failed f)) s []
  | .drive => w.drive s
  | .markRunning r => next (.enter r) { s with slot := s.slot.markRunning } []
  | .enter r =>
    let entering := record .debug "entering startCompetition" [("has_end", .text (toString r.finish.isSome))]
    (.going, { w with engine := w.engine.map (·.start r), stage := .drive }, s, [.record entering])
  | .closeInbox result =>
    match w.engine with
    | some e =>
      let (s, signals) := e.closeInbox s
      (.going, w.closeEngine result, s, signals)
    | none => next (.recordClose result) s []
  | .closeEngine result => w.finalize s result
  | .recordClose result => next (.report result) { s with slot := s.slot.recordClose } []
  | .report result =>
    match result with
    | .failed e =>
      next (.sendError e) s [.record (record .error "robot session failed"
        [("kind", .text e.kind.title), ("error", .text e.message)])]
    | result => next (.finish result) s [.record (record .info "robot program returned" [])]
  | .sendError e =>
    let (host, r) := s.host.sendError e.diagnostic
    -- a host that fails to take the report turns the failure into a panic
    let result : WorkerResult :=
      if s.panicsOnReport then .panicked (.text "send_error panicked") else .failed e
    next (.finish result) { s with host } [.host (.sendError e.kind), .record r]
  | .finish result => next (.requestExit result) { s with slot := s.slot.finish } []
  | .requestExit result =>
    -- every way out ends here, so that the main loop of the host is always let go
    next (.done result) { s with host := s.host.requestExit } [.host .requestExit]
  | .done _ => next w.stage s []

end Worker

end RobotSession
