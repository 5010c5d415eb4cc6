import RobotSession.Json.Fault

/-!
# JSON values

A JSON value that has been read already, as far as it can stand for a name of an
enumeration.
-/

namespace RobotSession.Json

inductive Value
  | null
  | boolean (b : Bool)
  | integer (i : Int)
  | float (x : Float)
  | text (s : String)
  | list (items : List Value)
  | object (members : List (String × Value))
  deriving Inhabited

namespace Value

/-- How the value shows in a message. -/
def unexpected : Value → Unexpected
  | .null => .null
  | .boolean b => .boolean b
  | .integer i => .integer i
  | .float x => .float x
  | .text s => .text s
  | .list _ => .list
  | .object _ => .object

/-- The value of an enumeration with a name. -/
def named {α : Type} (all : List α) (name : α → String) (s : String) : Except Mismatch α :=
  match all.find? fun a => name a = s with
  | some a => .ok a
  | none => .error (.unknownVariant s (all.map name))

/-- The value of an enumeration that a JSON value stands for: its name, or an object with
that one key. -/
def enumerated {α : Type} (all : List α) (name : α → String) : Value → Except Mismatch α
  | .text s => named all name s
  | .object [(key, .null)] => named all name key
  | .object [(key, v)] => do
    let _ ← named all name key
    throw (.wrongType v.unexpected "unit")
  | .object _ => .error (.wrongValue .object "map with a single key")
  | v => .error (.wrongType v.unexpected "string or map")

end Value

end RobotSession.Json
