import RobotSession.Text.Quoted

/-!
# Log records

A record has a level, the part of the program that it comes from, a message and named
fields. Identifiers differ from run to run, so a record only says where one stands.
-/

namespace RobotSession

inductive Level
  | error
  | warn
  | info
  | debug
  deriving DecidableEq

def Level.name : Level → String
  | .error => "ERROR"
  | .warn => "WARN"
  | .info => "INFO"
  | .debug => "DEBUG"

/-- The parts of the program that log. -/
inductive Target
  | bridge
  | worker
  | engine
  | simulation
  /-- The script itself. -/
  | script
  /-- The command line. -/
  | command
  deriving DecidableEq

def Target.path : Target → String
  | .bridge => "luabot::bridge"
  | .worker => "luabot::bridge::worker"
  | .engine => "luabot::engine"
  | .simulation => "luabot::host::sim"
  | .script => "luabot::script"
  | .command => "luabot"

inductive FieldValue
  | text (s : String)
  /-- An identifier of a session or an engine. -/
  | identity
  /-- Milliseconds that were measured. -/
  | measured (ms : Nat)
  deriving DecidableEq

/-- A log record. -/
structure Record where
  level : Level
  target : Target
  message : String
  fields : List (String × FieldValue) := []

namespace Record

open Text (Traceback.clean)

/-- The line of a record: `span` stands before the part of the program, `message` and `value`
say how texts and values are shown. -/
def write (r : Record) (span : String) (message : String → String) (value : FieldValue → String) :
    String :=
  let head := r.level.name ++ " " ++ span ++ r.target.path ++ ": " ++ message r.message
  r.fields.foldl (fun acc (name, v) => acc ++ " " ++ name ++ "=" ++ value v) head

/-- The line of a record, with `hidden` for identifiers. Texts are shown without the
calls that led to them. -/
def line (r : Record) (hidden : String) : String :=
  r.write "" Traceback.clean fun
    | .text s => Traceback.clean s
    | _ => hidden

end Record

end RobotSession
