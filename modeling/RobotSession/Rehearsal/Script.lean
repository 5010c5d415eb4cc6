import RobotSession.Bridge.Threads

/-!
# Rehearsed surroundings

A rehearsal runs robot programs in surroundings that react to what they log. A trigger
waits for a line; when the line is logged, its actions are carried out inside the log call,
on the thread of the script, before the call returns.

* `Bench` — the surroundings: the shared state, the triggers and what they remember.
* `Bench.hear` — the actions that a line sets off.
* `Bench.perform` — one action.
-/

namespace RobotSession.Rehearsal

open Lua (Payload Invocation)

/-- What a trigger does. -/
inductive Action
  | invoke (method : String)
  | finish
  | state
  | keepHandle
  | snapshot
  | exit
  | release
  /-- Wait until the controller has asked the robot to end. -/
  | awaitEnd
  /-- Wait until the controller's run has returned. -/
  | awaitClosed
  | panic (p : Payload)

/-- Actions that a logged line sets off. -/
structure Trigger where
  line : String
  actions : List Action
  /-- The hit that fires, if not every one does. -/
  nth : Option Int := none
  hits : Nat := 0

/-- All that a slot tells about itself. -/
structure Snapshot where
  slot : Slot

/-- What an action has to tell. -/
inductive ActionResult
  | nothing
  | delivery (d : Delivery)
  | handle (isBound isClosed : Bool)
  | flag (b : Bool)
  | snapshot (s : Slot)

/-- What is noted during a rehearsal, in order. -/
inductive Event
  | log (line : String)
  | record (r : Record)
  | host (c : HostCall)
  /-- An action, with its result if it has one. -/
  | acted (name : String) (result : Option ActionResult)

/-- How actions find the handle that they use. -/
inductive HandleSource
  | none
  /-- The handle of an engine. -/
  | engine (id : Nat)
  /-- The handle that was kept, or else the one in the slot. -/
  | slot

/-- The surroundings of a rehearsal. -/
structure Bench where
  shared : Shared := {}
  triggers : List Trigger := []
  source : HandleSource := .none
  kept : Option Nat := none
  /-- Actions see the slot. -/
  hasSlot : Bool := false
  released : Bool := false
  endRequested : Bool := false
  runReturned : Bool := false

namespace Bench

/-- The handle that actions use. -/
def handle? (b : Bench) : Option Nat :=
  match b.source with
  | .none => none
  | .engine id => some id
  | .slot => b.kept <|> b.shared.slot.handle

/-- The state of a handle. -/
def handleState (b : Bench) (handle : Nat) : ActionResult :=
  let box := b.shared.inbox handle
  .handle box.isBound box.isClosed

/-- Counts a hit of a trigger, and says whether it fires. -/
def hit (t : Trigger) : Bool × Trigger :=
  let hits := t.hits + 1
  (t.nth.all (· = (hits : Int)), { t with hits })

/-- The actions that a line sets off. All hits are counted first. -/
def hear (b : Bench) (line : String) : List Action × Bench :=
  let heard := b.triggers.map fun t => if t.line == line then hit t else (false, t)
  let actions := heard.flatMap fun (fires, t) => if fires then t.actions else []
  (actions, { b with triggers := heard.map (·.2) })

/-- What an action comes to. -/
inductive Performed
  | done (e : Event)
  | waits
  | panics (e : Event) (p : Payload)

def post (b : Bench) (name : String) (i : Invocation) : Performed × Bench :=
  match b.handle? with
  | some handle =>
    let (d, shared) := b.shared.post handle i
    (.done (.acted name (some (.delivery d))), { b with shared })
  | none => (.done (.acted name (some .nothing)), b)

/-- Carries out an action. -/
def perform (b : Bench) (a : Action) : Performed × Bench :=
  let done (name : String) (r : Option ActionResult) (b : Bench) : Performed × Bench :=
    (.done (.acted name r), b)
  match a with
  | .invoke method => b.post "invoke" (.method method)
  | .finish => b.post "end" .finish
  | .state => done "state" (some ((b.handle?.map b.handleState).getD .nothing)) b
  | .keepHandle =>
    let kept := b.handle?
    done "keep_handle" (some (.flag kept.isSome)) { b with kept }
  | .snapshot =>
    done "snapshot" (some (if b.hasSlot then .snapshot b.shared.slot else .nothing)) b
  | .exit =>
    done "exit" none { b with shared := { b.shared with host := b.shared.host.requestExit } }
  | .release => done "release" none { b with released := true }
  | .awaitEnd => if b.endRequested then done "await_end" (some .nothing) b else (.waits, b)
  | .awaitClosed => if b.runReturned then done "await_closed" (some .nothing) b else (.waits, b)
  | .panic p => (.panics (.acted "panic" none) p, b)

end Bench

/-- The event of a signal; output of the script is not noted. -/
def Event.ofSignal : Signal → Option Event
  | .record r => some (.record r)
  | .host c => some (.host c)
  | .output .. => none

/-- A thread that may be inside a log call: the actions that are left, and its notes. -/
structure Stand where
  acting : Option (List Action) := none
  notes : Array Event := #[]

namespace Stand

def note (s : Stand) (signals : List Signal) : Stand :=
  { s with notes := s.notes ++ (signals.filterMap Event.ofSignal).toArray }

/-- The script logs a line. -/
def logs (s : Stand) (b : Bench) (line : String) : Stand × Bench :=
  let (actions, b) := b.hear line
  ({ acting := some actions, notes := s.notes.push (.log line) }, b)

/-- What the next action comes to for the thread. -/
inductive Acted
  | going
  | waits
  /-- The log call returns, or panics. -/
  | returns (panic : Option Payload)

/-- Carries out the next action. -/
def act (s : Stand) (b : Bench) (actions : List Action) : Acted × Stand × Bench :=
  match actions with
  | [] => (.returns none, { s with acting := none }, b)
  | a :: rest =>
    match b.perform a with
    | (.done e, b) => (.going, { acting := some rest, notes := s.notes.push e }, b)
    | (.waits, b) => (.waits, s, b)
    | (.panics e p, b) => (.returns (some p), { acting := none, notes := s.notes.push e }, b)

end Stand

end RobotSession.Rehearsal
