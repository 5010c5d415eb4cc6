import RobotSession.Lua.Ast

/-!
# Instructions

The interpreter executes instructions on an operand stack. Local variables live in
the slots of a frame; a variable that an inner function uses lives in a cell, and its
slot names the cell.

Instructions that can fail on an operand carry its `Origin`, the place in the program
that the operand comes from, because messages mention it.
-/

namespace RobotSession.Lua

/-- Where an operand comes from. -/
inductive Origin
  | unknown
  | localVar (name : ByteArray)
  | upvalue (name : ByteArray)
  | global (name : ByteArray)
  | field (name : ByteArray)
  | method (name : ByteArray)
  | constant (name : ByteArray)
  | metamethod (name : ByteArray)
  | iterator
  deriving Inhabited

namespace Origin

open Text (octets)

/-- The kind and the name of an origin. -/
def parts? : Origin → Option (ByteArray × ByteArray)
  | .unknown => none
  | .localVar n => some (octets "local", n)
  | .upvalue n => some (octets "upvalue", n)
  | .global n => some (octets "global", n)
  | .field n => some (octets "field", n)
  | .method n => some (octets "method", n)
  | .constant n => some (octets "constant", n)
  | .metamethod n => some (octets "metamethod", n)
  | .iterator => some (octets "for iterator", octets "for iterator")

/-- How a message mentions an operand: nothing, or ` (kind 'name')`. -/
def mention (o : Origin) : ByteArray :=
  match o.parts? with
  | none => octets ""
  | some (kind, name) => octets " (" ++ kind ++ octets " '" ++ name ++ octets "')"

def isMethod : Origin → Bool
  | .method _ => true
  | _ => false

end Origin

inductive Instr
  | push (v : Value)
  | getLocal (slot : Nat)
  | setLocal (slot : Nat)
  | getCell (slot : Nat)
  | setCell (slot : Nat)
  /-- Takes a value into a new cell. -/
  | newCell (slot : Nat)
  | getOuter (index : Nat)
  | setOuter (index : Nat)
  /-- Takes a key and an object. -/
  | index (origin : Origin)
  /-- Takes an object and gives its field. -/
  | field (name : ByteArray) (origin : Origin)
  /-- Takes a value and stores it under the key at `depth` of the object below it. -/
  | store (depth : Nat) (origin : Origin)
  /-- Takes an object and gives its method and the object. -/
  | self (name : ByteArray) (origin : Origin)
  /-- Calls with `args` arguments, plus the open results if `isOpen`; keeps `want`
  results, or all of them as open results. -/
  | call (args : Nat) (isOpen : Bool) (want : Option Nat) (origin : Origin)
  | tailCall (args : Nat) (isOpen : Bool) (origin : Origin)
  | ret (count : Nat) (isOpen : Bool)
  | vararg (want : Option Nat)
  | closure (index : Nat)
  | binary (op : BinaryOp) (left right : Origin)
  | unary (op : UnaryOp) (origin : Origin)
  | jump (target : Nat)
  /-- Takes a value and jumps if it is false. -/
  | unless (target : Nat)
  /-- Jumps if the top value is false, else drops it. -/
  | andJump (target : Nat)
  /-- Jumps if the top value is true, else drops it. -/
  | orJump (target : Nat)
  | newTable
  /-- Takes values into the positions from `first` on of the table below them. -/
  | setItems (first count : Nat) (isOpen : Bool)
  /-- Takes a key and a value into the table below them. -/
  | setField
  | countPrepare (state exit : Nat)
  | countStep (state body : Nat)
  /-- Takes the four values of an iterator loop. -/
  | iterPrepare (state : Nat)
  | iterCall (state want : Nat)
  | iterTest (state want body : Nat)
  /-- The variable in the slot is to be closed. -/
  | closeLater (slot : Nat) (isCell : Bool) (name : ByteArray)
  /-- Closes the variables from slot `base` on. -/
  | close (base : Nat)
  | drop (count : Nat)
  deriving Inhabited

/-- Whether an instruction counts toward the interval between inbox checks. -/
def Instr.counts : Instr → Bool
  | .push _ => false
  | .getLocal _ => false
  | .getCell _ => false
  | .drop _ => false
  | .close _ => false
  | .iterTest .. => false
  | _ => true

/-- A function of a program. -/
structure Proto where
  code : Array Instr
  /-- The line of each instruction. -/
  lines : Array Nat
  /-- The slots of the parameters, and whether each is a cell. -/
  parameters : List (Nat × Bool)
  isVararg : Bool
  slots : Nat
  outer : List OuterSource
  line : Nat
  deriving Inhabited

/-- A program: its functions, with the main function last, and its name for
messages. -/
structure Chunk where
  name : ByteArray
  protos : Array Proto
  deriving Inhabited

end RobotSession.Lua
