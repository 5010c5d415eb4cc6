import RobotSession.Lua.Library.Base
import RobotSession.Number.Duration

/-!
# The functions of the host

The table `luabot` and the function `print` belong to the host. Their failures are
host failures: objects that name the argument by its position only.

* `Exchange` — how script values become host values.
* `Robot.call` — the work of a host function.
* `Robot.sleepNext` — how a sleep goes on.
* `Robot.taken`, `Robot.deliver` — how queued calls are delivered.
-/

namespace RobotSession.Lua.Library

open Text (octets)

namespace Exchange

/-- The name of a value's type on the host's side. -/
def typeName (h : Heap) : Value → String
  | .int _ => "integer"
  | .object id =>
    match h.object id with
    | .failure _ => "error"
    | _ => "userdata"
  | v => v.typeName

/-- Hands values to the host. A caught panic among them goes on; one that has been
passed on already is `nil`. -/
def values (vs : List Value) : Body (List Value) :=
  vs.mapM fun v => do
    match v with
    | .object id =>
      match (← get).object id with
      | .panic (some payload) =>
        modify fun h => { h with objects := h.objects.modify id fun _ => .panic none }
        throw (.panic payload)
      | .panic none => return .nil
      | _ => return v
    | _ => return v

/-- A failed conversion. -/
def mismatch (h : Heap) (v : Value) (wanted : String) (detail : Option String) : HostError :=
  .conversion (typeName h v) wanted detail

/-- The text that a value stands for. -/
def text (h : Heap) (v : Value) : Except HostError String :=
  match Args.asText? v with
  | some s =>
    match Text.Utf8.decode s with
    | .ok t => .ok t
    | .error f => .error (mismatch h v "String" (some f.message))
  | none => .error (mismatch h v "String" (some "expected string or number"))

def float (h : Heap) (v : Value) : Except HostError Float :=
  match Args.asFloat? v with
  | some x => .ok x
  | none => .error (mismatch h v "f64" (some "expected number or string coercible to number"))

def function (h : Heap) (v : Value) : Except HostError Value :=
  match v with
  | .func id => .ok (.func id)
  | _ => .error (mismatch h v "function" none)

/-- A function, or nothing for `nil`. -/
def function? (h : Heap) (v : Value) : Except HostError (Option Value) :=
  match v with
  | .nil => .ok none
  | _ => some <$> function h v

/-- Lifts a host failure. -/
def lift {α : Type} (r : Except HostError α) : Body α :=
  match r with
  | .ok a => return a
  | .error e => throw (.host e)

/-- The first argument of a host function. -/
def first {α : Type} (args : List Value) (convert : Heap → Value → Except HostError α) :
    Body α := do
  let v := (← values (args.take 1)).headD .nil
  match convert (← get) v with
  | .ok a => return a
  | .error e => throw (.host (.badArgument 1 e))

/-- The host failure that an error value stands for: its own, or a script error with
its text. A caught panic goes on. -/
def failure (e : Value) : Body HostError := do
  match e with
  | .object id =>
    match (← get).object id with
    | .failure f => return f
    | .panic none => return .panicTaken
    | .panic (some _) =>
      let _ ← values [e]
      return .panicTaken
    | _ => return .runtime (Text.Utf8.lossy (Access.plainText (← get) e))
  | _ => return .runtime (Text.Utf8.lossy (Access.plainText (← get) e))

end Exchange

namespace Robot

/-- Spans of this many seconds are not added to a point in time. -/
def longestSleep : Nat := 0x8000000000000000 - 1000000

/-- Asks `tostring` for the texts of the values that are left; then logs the line. -/
def printNext (tostring : Value) (done : List String) (rest : List Value) : Reply :=
  match rest with
  | [] => .ask (.logging (String.intercalate "\t" done.reverse))
  | v :: rest => .call tostring [v] (.printing tostring done rest)

/-- Goes on once the global `tostring` has been looked up. -/
def printWith (args : List Value) (found : Value) : Body Reply := do
  let tostring ← Exchange.lift (Exchange.function (← get) found)
  return printNext tostring [] args

/-- Goes on with the text of a value. -/
def printed (tostring : Value) (done : List String) (rest : List Value) (results : List Value) :
    Body Reply := do
  let v := (← Exchange.values (results.take 1)).headD .nil
  let s ← Exchange.lift (Exchange.text (← get) v)
  return printNext tostring (s :: done) rest

def print (args : List Value) : Body Reply := do
  let args ← Exchange.values args
  let globals : Value := .table (← get).globals
  match Access.read (← get) globals (.text "tostring") with
  | .value v => printWith args v
  | .handler f object => return .call f [object, .text "tostring"] (.printLookup args)
  | .notIndexable o =>
    throw (.host (.runtime s!"attempt to index a {o.typeName} value\nstack traceback:\n\t[C]: in ?"))
  | .tooLong =>
    throw (.host (.runtime "'__index' chain too long; possibly a loop\nstack traceback:\n\t[C]: in ?"))

/-- Goes on once the log has answered. -/
def logged : Answer → Body Reply
  | .panicked payload => throw (.panic payload)
  | _ => return .done []

/-- Starts to sleep: the deadline is a span after the clock's time. -/
def sleep (args : List Value) : Body Reply := do
  let seconds ← Exchange.first args Exchange.float
  match Number.Duration.ofSeconds seconds with
  | .error f =>
    let reason := f.message
    throw (.host (.runtime s!"invalid sleep duration: {reason}"))
  | .ok d =>
    if longestSleep ≤ d.seconds then throw (.host (.runtime "sleep duration too long"))
    else return .ask (.sleepStart d.nanoseconds)

/-- Reads the flag: queued calls end the sleep. -/
def sleepNext (deadline : Nat) : Reply :=
  .ask (.sleepCheck deadline)

/-- Calls what was looked up for a queued call. -/
def deliver (h : Heap) (robot : Retained) (invocation : Invocation) (found : Value) : DrainStep :=
  match Exchange.function? h found with
  | .ok none => .take
  | .ok (some f) => .call f [robot.instance_] invocation
  | .error e => .report invocation e.message

/-- Goes on with a queued call: looks up what it calls. -/
def taken (h : Heap) (robot : Retained) : Invocation → DrainStep
  | .finish => deliver h robot .finish (robot.endRoutine.getD .nil)
  | .method name =>
    match robot.instance_ with
    | .table id =>
      let key : Value := .text name
      match Access.read h (.table id) key with
      | .value v => deliver h robot (.method name) v
      | .handler f object => .lookUp f [object, key] (.method name)
      | .notIndexable o =>
        let kind := o.typeName
        .report (.method name)
          s!"runtime error: attempt to index a {kind} value\nstack traceback:\n\t[C]: in ?"
      | .tooLong =>
        .report (.method name)
          "runtime error: '__index' chain too long; possibly a loop\nstack traceback:\n\t[C]: in ?"
    -- only an instance that is a table has methods to look up
    | _ => .take

/-- The text of a failure object. -/
def failureText (args : List Value) : Body Reply := do
  let h ← get
  let shown : Option HostObject :=
    match Args.nth args 1 with
    | .object id => h.objects[id]?
    | _ => none
  match shown with
  | some (.failure e) => return .done [.text e.message]
  | some (.panic (some (.text s))) => return .done [.text s]
  | some (.panic (some .other)) => return .done [.text "<panic>"]
  | _ => throw (.host .panicTaken)

/-- A host function's work. -/
def call (f : Native) (args : List Value) : Body Reply := do
  match f with
  | .robotTime => return .ask (.secondsRead false)
  | .robotLog => return .ask (.logging (← Exchange.first args Exchange.text))
  | .robotSleep => sleep args
  | .print => print args
  | .failureText => failureText args
  | _ => return .done []

end Robot

end RobotSession.Lua.Library
