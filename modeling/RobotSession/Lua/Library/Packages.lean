import RobotSession.Lua.Library.Base

/-!
# The package library

`require` asks the searchers of the package table, one after the other, for a function
that loads the module. Modules are found in the preload table and on the path; native
modules are refused.
-/

namespace RobotSession.Lua.Library.Packages

open Text (octets)

/-- The table of the library, which its functions carry. -/
def library (captured : List Value) : Nat :=
  match captured with
  | .table id :: _ => id
  | _ => 0

def defaultPath : String :=
  "/usr/local/share/lua/5.4/?.lua;/usr/local/share/lua/5.4/?/init.lua;"
    ++ "/usr/local/lib/lua/5.4/?.lua;/usr/local/lib/lua/5.4/?/init.lua;./?.lua;./?/init.lua"

def defaultNativePath : String :=
  "/usr/local/lib/lua/5.4/?.so;/usr/local/lib/lua/5.4/loadall.so;./?.so"

def config : String :=
  "/\n;\n?\n!\n-\n"

/-- Puts a text in the place of every octet `b`. -/
def substitute (b : UInt8) (by_ : ByteArray) (s : ByteArray) : ByteArray :=
  s.toList.foldl (fun acc c => if c == b then acc ++ by_ else acc.push c) ByteArray.empty

/-- The parts between semicolons. -/
def templates (path : ByteArray) : List ByteArray :=
  (path.toList.splitOn 59).filterMap fun t => if t.isEmpty then none else some (ByteArray.mk t.toArray)

/-- The file names to try for a module. -/
def candidates (name path separator directory : ByteArray) : List ByteArray :=
  let name :=
    match separator.toList with
    | [b] => substitute b directory name
    | _ => name
  (templates path).map (substitute 63 name)

def notFound (messages : ByteArray) : Reply :=
  .done [.nil, .str messages]

/-- Tries the files in turn. -/
def searchFrom (files : List ByteArray) (messages : ByteArray) (load : Bool) : Reply :=
  match files with
  | [] => if load then .done [.str messages] else notFound messages
  | file :: rest => .ask (.searchRead file rest messages load)

/-- Goes on once a file has been tried. -/
def searchRead (file : ByteArray) (rest : List ByteArray) (messages : ByteArray) (load : Bool)
    (content : Except (String × Nat) ByteArray) : Body Reply := do
  match content with
  | .error _ =>
    let lead := if messages.size = 0 then "" else "\n\t"
    return searchFrom rest (messages ++ octets (lead ++ "no file '") ++ file ++ octets "'") load
  | .ok source =>
    if !load then return .done [.str file]
    else
      match ← Basics.loadSource (Basics.withoutComment source) (octets "@" ++ file) .nil none with
      | [f] => return .done [f, .str file]
      | _ :: .str message :: _ =>
        throw (.located (octets "error loading module from file '" ++ file ++ octets "':\n\t" ++ message))
      | _ => return .done [.nil]

def requireNext (name : ByteArray) (searchers : List Value) (messages : ByteArray) : Body Reply :=
  match searchers with
  | [] => throw (.located (octets "module '" ++ name ++ octets "' not found:" ++ messages))
  | s :: rest => return .call s [.str name] (.requireSearch name rest messages)

/-- Goes on with the answer of a searcher. -/
def requireSearch (name : ByteArray) (rest : List Value) (messages : ByteArray)
    (results : List Value) : Body Reply := do
  match results with
  | .func f :: data => return .call (.func f) [.str name, data.headD .nil] (.requireLoad name (data.headD .nil))
  | .str s :: _ => requireNext name rest (messages ++ octets "\n\t" ++ s)
  | _ => requireNext name rest messages

/-- Registers a module once it has been loaded. -/
def requireLoad (name : ByteArray) (data : Value) (results : List Value) : Body Reply := do
  let loaded := (← get).loaded
  let key : Key := .str name
  match results.headD .nil with
  | .nil =>
    if ((← Work.getTable loaded).get key).isNil then
      Work.modifyTable loaded (·.set key (.bool true))
  | v => Work.modifyTable loaded (·.set key v)
  return .done [(← Work.getTable loaded).get key, data]

/-- The functions of the library. -/
def call (f : Native) (captured args : List Value) : Body Reply := do
  match f with
  | .require => do
    let name ← Args.text args 1
    let h ← get
    let known := (h.table h.loaded).get (.str name)
    -- a module is loaded once
    if known.truthy then return .done [known]
    match (h.table (library captured)).getText "searchers" with
    -- the searchers are asked in order, and what they say is gathered for the error
    | .table id => requireNext name (h.table id).items.toList ByteArray.empty
    | _ => Args.located "'package.searchers' must be a table"
  | .searchPreload => do
    let name ← Args.text args 1
    let h ← get
    let found :=
      match (h.table (library captured)).getText "preload" with
      | .table id => (h.table id).get (.str name)
      | _ => .nil
    -- a searcher that has found nothing returns a text that says so
    if found.isNil then
      return .done [.str (octets "no field package.preload['" ++ name ++ octets "']")]
    else return .done [found, .text ":preload:"]
  | .searchPath => do
    let name ← Args.text args 1
    match ((← get).table (library captured)).getText "path" with
    | .str path =>
      return searchFrom (candidates name path (octets ".") (octets "/")) ByteArray.empty true
    | _ => Args.located "'package.path' must be a string"
  | .searchNative => return .done [.text "\n\tcan't load C modules in safe mode"]
  | .packageSearchpath => do
    let name ← Args.text args 1
    let path ← Args.text args 2
    let separator ← Args.textOr args 3 (octets ".")
    let directory ← Args.textOr args 4 (octets "/")
    return searchFrom (candidates name path separator directory) ByteArray.empty false
  | .packageLoadlib => throw (.host (.forbidden "package.loadlib is disabled in safe mode"))
  | _ => return .done []

end RobotSession.Lua.Library.Packages
