import RobotSession.Lua.Step

/-!
# Opening an interpreter

`Machine.opened` is an interpreter that has run nothing yet: all libraries are there,
the table `luabot` and `print` belong to the host, and the main thread's instructions are
counted if an interval is given.

Any interval but 0 sets the first hook, which puts the hooked functions in the place of
`coroutine.create` and `coroutine.wrap`.
-/

namespace RobotSession.Lua

open Text (octets)

namespace Machine

/-- The version that scripts see. -/
def version : String := "0.1.0"

/-- The name of the language and its version. -/
def language : String := "Lua 5.4"

/-- A table of functions that carry the same values. -/
def functionTable (fs : List (String × Native)) (captured : List Value) : Work Table :=
  fs.foldlM (fun t (name, f) => do
    return t.setText name (← Work.newNative f captured)) ({} : Table)

/-- Adds fields that are no functions. -/
def withFields (t : Table) (fields : List (String × Value)) : Table :=
  fields.foldl (fun t (name, v) => t.setText name v) t

def mathFields : List (String × Value) :=
  [("pi", .float Library.Math.pi), ("huge", .float (1.0 / 0.0)),
   ("maxinteger", .int Int64.maxValue), ("mininteger", .int Int64.minValue)]

def idOf : Value → Nat
  | .table id => id
  | _ => 0

/-- The table of a library. -/
def openLibrary (name : String) (fs : List (String × Native)) : Work Value := do
  let t ← functionTable fs []
  let fields := match name with
    | "math" => mathFields
    | "utf8" => [("charpattern", .str Library.Unicode.charPattern)]
    | _ => []
  Work.newTable (withFields t fields)

/-- Completes the package table, which its functions carry. -/
def openPackage (package loaded : Value) : Work Unit := do
  let preload ← Work.newTable {}
  let carry : List Value := [package]
  let searchers ← Work.newTable (.ofArray #[
    ← Work.newNative .searchPreload carry, ← Work.newNative .searchPath carry,
    ← Work.newNative .searchNative []])
  Work.modifyTable (idOf package) fun t => withFields t
    [("loaded", loaded), ("preload", preload), ("searchers", searchers),
     ("path", .text Library.Packages.defaultPath),
     ("cpath", .text Library.Packages.defaultNativePath),
     ("config", .text Library.Packages.config)]

/-- Completes the table of streams. -/
def openStreams (files : Value) : Work Unit := do
  let methods ← Work.newTable (← functionTable Catalog.fileMethods [])
  let metatable ← Work.newTable (withFields (← functionTable Catalog.fileEvents [])
    [("__name", .text "FILE*"), ("__index", methods)])
  let input := (← get).objects.size
  let standard ← [Stream.input, .output, .error].mapM fun s => Work.newObject (.stream s)
  modify fun h => { h with
    streamMeta := some (idOf metatable), inputStream := input, outputStream := input + 1 }
  Work.modifyTable (idOf files) fun t =>
    withFields t (["stdin", "stdout", "stderr"].zip standard)

/-- The host's table. -/
def hostFunctions : List (String × Native) :=
  [("time", .robotTime), ("log", .robotLog), ("sleep", .robotSleep)]

/-- Fills the store. -/
def openStore : Work Unit := do
  let globals ← Work.newTable (← functionTable Catalog.globals [])
  let loaded ← Work.newTable {}
  let libraries ← Catalog.libraries.mapM fun (name, fs) => do
    return (name, ← openLibrary name fs)
  let library (name : String) : Value := (libraries.lookup name).getD .nil
  openPackage (library "package") loaded
  openStreams (library "io")
  -- every library counts as loaded, and so do the globals
  Work.modifyTable (idOf loaded) fun t => withFields t (("_G", globals) :: libraries)
  let require ← Work.newNative .require [library "package"]
  let host ← functionTable hostFunctions []
  let host ← Work.newTable (host.setText "version" (.text version))
  Work.modifyTable (idOf globals) fun t => withFields t
    (libraries ++ [("_G", globals), ("_VERSION", .text language), ("require", require),
      ("luabot", host)])
  -- texts share one metatable, through which their methods are found
  let strings ← Work.newTable
    ((← functionTable Catalog.stringArithmetic []).setText "__index" (library "string"))
  -- a script can show a failure of the host, but not look into it
  let failures ← Work.newTable
    ((← functionTable [("__tostring", .failureText)] []).setText "__metatable" (.bool false))
  modify fun h => { h with
    globals := idOf globals, loaded := idOf loaded
    stringMeta := some (idOf strings), failureMeta := some (idOf failures) }

/-- An interpreter that has run nothing yet. -/
def opened (interval : Nat) : Machine :=
  let hook : Option Nat := if interval = 0 then none else some interval
  { heap := (openStore {}).2
    threads := #[{ status := .running, hook }], interval := hook
    hookTicket := if hook.isSome then 1 else 0 }

/-- An interpreter with what its collector is going to do. -/
def collecting (m : Machine) (collections : List Collection) : Machine :=
  { m with heap := { m.heap with collections } }

end Machine

end RobotSession.Lua
