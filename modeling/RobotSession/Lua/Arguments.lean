import RobotSession.Lua.State
import RobotSession.Lua.Numeral

/-!
# Arguments of built-in functions

Every built-in function checks its arguments here. Positions count from 1; an
argument that is absent reads as `nil`, but its type in a message is `no value`.
-/

namespace RobotSession.Lua

open Text (octets)

/-- The work of a built-in function, which may fail. -/
abbrev Body := ExceptT Fault (StateM Heap)

namespace Body

def toAct (b : Body Reply) : Act := fun h =>
  match b h with
  | (.ok r, h) => (r, h)
  | (.error f, h) => (.fail f, h)

end Body

namespace Args

/-- The argument at a position. -/
def nth (args : List Value) (i : Nat) : Value :=
  args.getD (i - 1) .nil

def isAbsent (args : List Value) (i : Nat) : Bool :=
  args.length < i

/-- Absent or `nil`. -/
def isNone (args : List Value) (i : Nat) : Bool :=
  (nth args i).isNil

def fault {α : Type} (i : Nat) (detail : String) : Body α :=
  throw (.argument i (octets detail))

def located {α : Type} (message : String) : Body α :=
  throw (.located (octets message))

/-- Refuses an argument because of its type. -/
def typeFault {α : Type} (args : List Value) (i : Nat) (wanted : String) : Body α := do
  let h ← get
  let got := if isAbsent args i then octets "no value" else h.typeName (nth args i)
  throw (.argument i (octets (wanted ++ " expected, got ") ++ got))

/-- A value must be there. -/
def any (args : List Value) (i : Nat) : Body Value :=
  if isAbsent args i then fault i "value expected" else return nth args i

/-- The number a value stands for: a number, or a string that reads as one. -/
def asNumber? : Value → Option Value
  | .int i => some (.int i)
  | .float x => some (.float x)
  | .str s => Numeral.ofString s
  | _ => none

def asFloat? (v : Value) : Option Float :=
  match asNumber? v with
  | some (.int i) => some (Number.Binary64.ofInt i.toInt)
  | some (.float x) => some x
  | _ => none

def asInt? (v : Value) : Option Int64 :=
  match asNumber? v with
  | some (.int i) => some i
  | some (.float x) => Value.floatToInt? x
  | _ => none

/-- The string a value stands for: a string, or a number's text. -/
def asText? : Value → Option ByteArray
  | .str s => some s
  | v => (Numeral.write v).map octets

def number (args : List Value) (i : Nat) : Body Value :=
  match asNumber? (nth args i) with
  | some v => return v
  | none => typeFault args i "number"

def float (args : List Value) (i : Nat) : Body Float :=
  match asFloat? (nth args i) with
  | some x => return x
  | none => typeFault args i "number"

def int (args : List Value) (i : Nat) : Body Int64 :=
  match asInt? (nth args i) with
  | some n => return n
  | none =>
    match asNumber? (nth args i) with
    | some _ => fault i "number has no integer representation"
    | none => typeFault args i "number"

def intOr (args : List Value) (i : Nat) (default : Int64) : Body Int64 :=
  if isNone args i then return default else int args i

def text (args : List Value) (i : Nat) : Body ByteArray :=
  match asText? (nth args i) with
  | some s => return s
  | none => typeFault args i "string"

def textOr (args : List Value) (i : Nat) (default : ByteArray) : Body ByteArray :=
  if isNone args i then return default else text args i

/-- One of these names. -/
def option (args : List Value) (i : Nat) (default? : Option String) (names : List String) :
    Body String := do
  let s ←
    match default? with
    | some default => textOr args i (octets default)
    | none => text args i
  match names.find? (octets · == s) with
  | some name => return name
  | none => throw (.argument i (octets "invalid option '" ++ s ++ octets "'"))

def table (args : List Value) (i : Nat) : Body Nat :=
  match nth args i with
  | .table id => return id
  | _ => typeFault args i "table"

def function (args : List Value) (i : Nat) : Body Value :=
  match nth args i with
  | .func id => return .func id
  | _ => typeFault args i "function"

def thread (args : List Value) (i : Nat) : Body Nat :=
  match nth args i with
  | .thread id => return id
  | _ => typeFault args i "coroutine"

end Args

end RobotSession.Lua
