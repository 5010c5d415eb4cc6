import RobotSession.Engine.Inbox
import RobotSession.Lua.Open
import RobotSession.Session.Error
import RobotSession.Session.Record

/-!
# The script engine

An engine owns one interpreter. It loads the module of a robot, constructs the robot,
and runs its start routine; each of these is a *task*, which may take several calls of
script functions. While a task is under way the engine is advanced step by step, so that
whatever the script asks for can be answered in between.

* `Engine.load`, `Engine.construct`, `Engine.start` — begin a task.
* `Engine.settle` — goes on once a call of the task has ended.
* `Engine.close` — begins to close the interpreter, which runs the finalizers.

A lookup that fails counts as a field that is absent. The instance of a construction is
retained at once; its end routine only if the construction succeeds.
-/

namespace RobotSession

open Lua Lua.Library
open Text (octets)

/-- A robot whose entry points have been resolved. -/
structure Robot where
  /-- The table of the robot. -/
  instance_ : Nat
  start : Value
  finish : Option Value
  deriving Inhabited

/-- What an engine is doing. -/
inductive Task
  | idle
  | version
  | load
  | findConstructor
  | construct
  | findStart (instance_ : Nat)
  | findEnd (instance_ : Nat) (start : Value)
  | start
  /-- Finalizers are run; the tables are still to come. -/
  | finalize (rest : List Nat)

/-- What has come of a task. -/
inductive Completion
  | version (s : String)
  | module (table : Nat)
  | robot (r : Robot)
  | ended
  | failed (e : SessionError)
  /-- A panic went through the engine. -/
  | panicked (p : Payload)

structure Engine where
  /-- Names the engine and its inbox. -/
  id : Nat
  machine : Machine
  task : Task := .idle
  /-- When it was opened. -/
  openedAt : Nat

namespace Engine

/-- The required entry point. -/
def startRoutine : String := "startCompetition"

/-- The optional entry point for a graceful end. -/
def endRoutine : String := "endCompetition"

/-- The name under which the robot is retained. -/
def robotKey : String := "robot_instance"

def defaultInterval : Nat := 1000

/-- The name of the language, for an engine that does not tell its version. -/
def language : String := "Lua"

def record (message : String) (fields : List (String × FieldValue)) : Record :=
  { level := .debug, target := .engine, message, fields := ("engine", .identity) :: fields }

def openedRecord : Record := record "lua engine opened" []
def closedRecord : Record := record "lua engine closed" []
def boundRecord (hasEnd : Bool) : Record :=
  record "robot object bound" [("has_end", .text (toString hasEnd))]

/-- How a call shows in a record. -/
def invocationText : Invocation → String
  | .finish => "End"
  | .method name => "Method(" ++ Text.Quoted.encode name ++ ")"

/-- The record of a queued call that failed. -/
def failedRecord (i : Invocation) (error : String) : Record :=
  { level := .debug, target := .engine, message := "robot invocation failed"
    fields := [("invocation", .text (invocationText i)), ("error", .text error)] }

/-- An engine, with what its collector is going to do. -/
def opened (id interval now : Nat) (collections : List Collection) : Engine :=
  { id, machine := (Machine.opened interval).collecting collections, openedAt := now }

/-- Begins a call of a script function. -/
def call (e : Engine) (f : Value) (args : List Value) (task : Task) : Engine :=
  { e with machine := e.machine.start f args, task }

/-- Begins to look up a field of a table. -/
def lookUp (e : Engine) (table : Nat) (name : String) (task : Task) : Engine :=
  let key : Value := .text name
  match Access.read e.machine.heap (.table table) key with
  | .value v => { e with machine := { e.machine with mode := .ended (.ok [v]) }, task }
  | .handler f object => e.call f [object, key] task
  | _ => { e with machine := { e.machine with mode := .ended (.error (.text "not indexable")) }, task }

/-- Begins to load a module. -/
def load (e : Engine) (path : ByteArray) (source : String) : Except SessionError Engine :=
  let name := octets ("@" ++ Text.Utf8.lossy path)
  match Chunk.evaluated name (octets source) with
  | .error (.source message) =>
    .error (.moduleLoad (HostError.source (Text.Utf8.lossy message)).reason)
  | .error .tooDeep => .error (.moduleLoad (HostError.runtime "C stack overflow").reason)
  | .ok c =>
    let (f, machine) := e.machine.work (c.enter (.table e.machine.heap.globals))
    .ok ({ e with machine }.call f [] .load)

/-- Begins to look up the version of the language, as scripts see it. -/
def version (e : Engine) : Engine :=
  e.lookUp e.machine.heap.globals "_VERSION" .version

/-- Begins to construct a robot. -/
def construct (e : Engine) (module : Nat) : Engine :=
  e.lookUp module "new" .findConstructor

/-- Begins to run a robot. -/
def start (e : Engine) (r : Robot) : Engine :=
  e.call r.start [.table r.instance_] .start

/-- Retains the instance of a construction. -/
def retain (e : Engine) (v : Value) : Engine :=
  let m := e.machine
  { e with machine := { m with retained := { m.retained with instance_ := v } } }

/-- Retains the end routine of a construction that has succeeded. -/
def retainEnd (e : Engine) (f : Option Value) : Engine :=
  let m := e.machine
  { e with machine := { m with retained := { m.retained with endRoutine := f } } }

/-- What a call of a task has come to, on the host's side: its first value, or the text of
its error. -/
inductive Outcome
  | value (v : Value)
  | error (message : String)
  | panic (p : Payload)

def outcome (e : Engine) (result : Except Value (List Value)) (wantsValue : Bool) :
    Outcome × Engine :=
  let w : Body Outcome :=
    match result with
    | .ok values =>
      if wantsValue then do
        -- only the first value is taken over, so that only it can fail to be
        let vs ← Exchange.values (values.take 1)
        return .value (vs.headD .nil)
      else return .value .nil
    | .error v => do return .error (← Exchange.failure v).message
  let (r, machine) := e.machine.work w
  let e := { e with machine }
  match r with
  | .ok o => (o, e)
  | .error (.panic p) => (.panic p, e)
  | .error _ => (.error "", e)

def done (e : Engine) (c : Completion) : Option Completion × Engine :=
  (some c, { e with task := .idle })

/-- Begins with the next finalizer. -/
def finalize (e : Engine) : List Nat → Option Completion × Engine
  | [] => e.done .ended
  | id :: rest =>
    match e.machine.heap.finalizer? id with
    | some handler => (none, e.call handler [.table id] (.finalize rest))
    | none => finalize e rest

/-- Begins to close the interpreter: hooks are removed, nothing is collected any more, and the
finalizers that are left run. -/
def close (e : Engine) : Option Completion × Engine :=
  let m := e.machine
  let tables := m.heap.finalizers
  let m := { m with interval := none, heap := m.heap.closed }
  { e with machine := m }.finalize tables

/-- Goes on once a call of the task has ended. Says what has come of the task, if it has
ended too. -/
def settle (e : Engine) (result : Except Value (List Value)) : Option Completion × Engine :=
  match e.task with
  | .idle => (none, e)
  | .version =>
    match e.outcome result true with
    | (.panic p, e) => e.done (.panicked p)
    | (.value v, e) => e.done (.version ((Exchange.text e.machine.heap v).toOption.getD language))
    | (.error _, e) => e.done (.version language)
  | .load =>
    match e.outcome result true with
    | (.value (.table id), e) => e.done (.module id)
    | (.value v, e) => e.done (.failed (.notATable (Exchange.typeName e.machine.heap v)))
    | (.error message, e) => e.done (.failed (.moduleLoad message))
    | (.panic p, e) => e.done (.panicked p)
  | .findConstructor =>
    match e.outcome result true with
    | (.value (.func f), e) => (none, e.call (.func f) [] .construct)
    | (.panic p, e) => e.done (.panicked p)
    -- a lookup that fails counts as a field that is absent
    | (_, e) => e.done (.failed .missingConstructor)
  | .construct =>
    match e.outcome result true with
    | (.value v, e) =>
      -- retained before the start routine is looked up, so it stays even if that is missing
      let e := e.retain v
      match v with
      | .table id => (none, e.lookUp id startRoutine (.findStart id))
      | _ => e.done (.failed .missingStart)
    | (.error message, e) => e.done (.failed (.constructionFailed message))
    | (.panic p, e) => e.done (.panicked p)
  | .findStart id =>
    match e.outcome result true with
    | (.value (.func f), e) => (none, e.lookUp id endRoutine (.findEnd id (.func f)))
    | (.panic p, e) => e.done (.panicked p)
    | (_, e) => e.done (.failed .missingStart)
  | .findEnd id start =>
    match e.outcome result true with
    | (.panic p, e) => e.done (.panicked p)
    | (o, e) =>
      -- the end routine is optional, and only a function counts as one
      let finish : Option Value := match o with
        | .value (.func f) => some (.func f)
        | _ => none
      (e.retainEnd finish).done (.robot ⟨id, start, finish⟩)
  | .start =>
    match e.outcome result false with
    | (.value _, e) => e.done .ended
    | (.error message, e) => e.done (.failed (.startFailed message))
    | (.panic p, e) => e.done (.panicked p)
  | .finalize rest => e.finalize rest

/-- The module's own text keys with the types of their values, one line each, sorted. -/
def describeModule (e : Engine) (table : Nat) : List String :=
  let h := e.machine.heap
  let lines := (h.table table).entries.toList.filterMap fun (k, v) =>
    match k with
    | .str s => if v.isNil then none
      else some (Text.Utf8.lossy s ++ ": " ++ Exchange.typeName h v)
    | _ => none
  lines.mergeSort fun a b => a ≤ b

end Engine

end RobotSession
