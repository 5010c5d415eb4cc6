import RobotSession.Rehearsal.Script

/-!
# Rehearsing an engine

Engines, their handles, modules and robots are kept under names, and steps are carried out
on them one after the other, all on one thread.
-/

namespace RobotSession.Rehearsal

open Lua (Payload Invocation)

/-- A step of a rehearsal of engines. -/
inductive EngineStep
  | openEngine (engine : String) (interval : Nat)
  | load (engine module : String) (path : ByteArray)
  | construct (engine module robot : String)
  | start (engine robot : String)
  | finish (engine : String)
  | invoke (engine method : String)
  | state (engine : String)
  | sameId (engine other : String)
  | version (engine : String)
  | close (engine : String)
  | write (files : List (ByteArray × Option ByteArray))

/-- The name of the engine of a step; steps without one use the default. -/
def EngineStep.engine (default : String) : EngineStep → String
  | .openEngine e _ => e
  | .load e .. => e
  | .construct e .. => e
  | .start e _ => e
  | .finish e => e
  | .invoke e _ => e
  | .state e => e
  | .sameId e _ => e
  | .version e => e
  | .close e => e
  | .write _ => default

/-- What a step has come to. -/
inductive EngineResult
  | nothing
  | noSuchSlot
  | module (fields : List String)
  | robot (hasEnd : Bool)
  | error (e : SessionError)
  | panic (p : Payload)
  | delivery (d : Delivery)
  | handle (isBound isClosed : Bool)
  | flag (b : Bool)
  | text (s : String)

/-- Values under names. -/
abbrev Named (α : Type) := List (String × α)

def Named.put {α : Type} (l : Named α) (name : String) (a : α) : Named α :=
  (name, a) :: l.filter (·.1 ≠ name)

structure EngineBench where
  bench : Bench := {}
  engines : Named Engine := []
  handles : Named Nat := []
  /-- Modules, with the engines they belong to. -/
  modules : Named (Nat × Nat) := []
  /-- Robots, with the engines they belong to. -/
  robots : Named (Nat × Robot) := []

namespace EngineBench

/-- Lets an engine go on until its task has ended; `fuel` bounds the number of turns. -/
def run : Nat → Engine → Stand → Bench → Option Completion × Engine × Stand × Bench
  | 0, e, st, b => (none, e, st, b)
  | fuel + 1, e, st, b =>
    match st.acting with
    | some actions =>
      match st.act b actions with
      | (.returns panic, st, b) => run fuel (e.logged panic) st b
      | (.going, st, b) => run fuel e st b
      | (.waits, st, b) => (none, e, st, b)
    | none =>
      let (t, e, shared, signals) := e.turn b.shared
      let b := { b with shared }
      let st := st.note signals
      match t with
      | .going => run fuel e st b
      | .blocked deadline =>
        run fuel e st { b with shared := { b.shared with clock := max b.shared.clock deadline } }
      | .log line =>
        let (st, b) := st.logs b line
        run fuel e st b
      | .exit _ => (none, e, st, b)
      | .completed c => (some c, e, st, b)

/-- Notes what has come of a task of the engine under a name: a new module or robot is kept
under the name it was to have. -/
def completed (x : EngineBench) (name : String) (c : Option Completion) (e : Engine) (b : Bench)
    (module robot : String) : EngineResult × EngineBench :=
  let x := { x with bench := b, engines := x.engines.put name e }
  match c with
  | some (.version v) => (.text v, x)
  | some (.module id) => (.module (e.describeModule id), { x with modules := x.modules.put module (e.id, id) })
  | some (.robot r) => (.robot r.finish.isSome, { x with robots := x.robots.put robot (e.id, r) })
  | some .ended => (.nothing, x)
  | some (.failed f) => (.error f, x)
  | some (.panicked p) => (.panic p, x)
  | none => (.nothing, x)

/-- The panic of an engine that is given a value of another one. -/
def foreign (x : EngineBench) (owner : Nat) : EngineResult :=
  .panic (.text
    (if x.engines.any (·.2.id = owner) then
      "Lua instance passed Value created from a different main Lua state"
    else "Lua instance is destroyed"))

def post (x : EngineBench) (name : String) (i : Invocation) : EngineResult × EngineBench × Array Event :=
  match x.handles.lookup name with
  | some handle =>
    let (d, shared) := x.bench.shared.post handle i
    (.delivery d, { x with bench := { x.bench with shared } }, #[])
  | none => (.noSuchSlot, x, #[])

/-- Carries out a step. -/
def step (x : EngineBench) (fuel : Nat) (s : EngineStep) : EngineResult × EngineBench × Array Event :=
  let missing : EngineResult × EngineBench × Array Event := (.noSuchSlot, x, #[])
  let withEngine (name : String) (k : Engine → Bench → EngineResult × EngineBench × Array Event) :
      EngineResult × EngineBench × Array Event :=
    match x.engines.lookup name with
    | some e => k e { x.bench with source := .engine e.id }
    | none => missing
  match s with
  | .openEngine name interval =>
    let (e, shared, signals) := Engine.openIn x.bench.shared interval
    let st := ({} : Stand).note signals
    -- an engine that is replaced is closed
    let (shared, st) :=
      match x.engines.lookup name with
      | some old =>
        let (shared, signals) := old.closeInbox shared
        (shared, st.note signals)
      | none => (shared, st)
    (.nothing, { x with
      bench := { x.bench with shared }
      engines := x.engines.put name e
      handles := x.handles.put name e.id }, st.notes)
  | .load name module path => withEngine name fun e b =>
    match e.loadFile b.shared path with
    | .error f => (.error f, x, #[])
    | .ok e =>
      let (c, e, st, b) := run fuel e {} b
      let (r, x) := x.completed name c e b module ""
      (r, x, st.notes)
  | .construct name module robot => withEngine name fun e b =>
    match x.modules.lookup module with
    | none => missing
    | some (owner, id) =>
      if owner ≠ e.id then (x.foreign owner, x, #[]) else
      let (c, e, st, b) := run fuel (e.construct id) {} b
      let (b, st) :=
        match c with
        | some (.robot r) =>
          let (shared, signals) := e.bindRobot b.shared r
          ({ b with shared }, st.note signals)
        | _ => (b, st)
      let (r, x) := x.completed name c e b module robot
      (r, x, st.notes)
  | .start name robot => withEngine name fun _ b =>
    match x.robots.lookup robot with
    | none => missing
    | some (owner, r) =>
      match x.engines.find? (·.2.id = owner) with
      | none => (x.foreign owner, x, #[])
      | some (name, e) =>
      let (c, e, st, b) := run fuel (e.start r) {} b
      let (r, x) := x.completed name c e b "" robot
      (r, x, st.notes)
  | .finish name => x.post name .finish
  | .invoke name method => x.post name (.method method)
  | .state name =>
    match x.handles.lookup name with
    | some handle =>
      let box := x.bench.shared.inbox handle
      (.handle box.isBound box.isClosed, x, #[])
    | none => missing
  | .sameId name other =>
    match x.handles.lookup name, x.handles.lookup other with
    | some a, some b => (.flag (a = b), x, #[])
    | _, _ => missing
  | .version name => withEngine name fun e b =>
    let (c, e, st, b) := run fuel e.version {} b
    let (r, x) := x.completed name c e b "" ""
    (r, x, st.notes)
  | .close name => withEngine name fun e b =>
    let (shared, signals) := e.closeInbox b.shared
    let b := { b with shared }
    let st := ({} : Stand).note signals
    let (st, b) :=
      match e.close with
      | (some _, _) => (st, b)
      | (none, e) =>
        let (_, _, st, b) := run fuel e st b
        (st, b)
    (.nothing, { x with bench := b, engines := x.engines.filter (·.1 ≠ name) }, st.notes)
  | .write files =>
    let tree := files.foldl (fun f (path, content) => f.put path content) x.bench.shared.files
    (.nothing, { x with bench := { x.bench with shared := { x.bench.shared with files := tree } } }, #[])

end EngineBench

end RobotSession.Rehearsal
