import RobotSession.Lua.Value

/-!
# Abstract programs

A program after its names have been resolved. A local variable is known by its
*slot*, its place among the variables in scope, and by its *declaration*, a number
that is unique within the function; the declarations that inner functions use are
listed in the function's `captured`. A variable of an enclosing function is an index
into the function's list of outer variables. Any other name is a field of the
variable `_ENV`.

Expressions keep the lines on which a failure of theirs is reported.
-/

namespace RobotSession.Lua

/-- A variable in scope. -/
structure Variable where
  name : ByteArray
  slot : Nat
  declaration : Nat

/-- Where a function finds a variable of an enclosing function when it is created. -/
inductive OuterSource
  /-- A local variable of the directly enclosing function. -/
  | enclosing (slot : Nat)
  /-- An outer variable of the directly enclosing function. -/
  | shared (index : Nat)
  deriving Inhabited

inductive BinaryOp
  | add | sub | mul | mod | pow | div | idiv
  | band | bor | bxor | shl | shr
  | concat
  | eq | ne | lt | le | gt | ge
  deriving DecidableEq

inductive UnaryOp
  | neg | bnot | not | len
  deriving DecidableEq

mutual

inductive Expr
  | const (v : Value)
  | vararg
  | localVar (v : Variable)
  | outerVar (index : Nat) (name : ByteArray)
  | index (object key : Expr) (line : Nat)
  | call (f : Expr) (args : List Expr) (line : Nat)
  | method (object : Expr) (name : ByteArray) (args : List Expr) (nameLine line : Nat)
  | function (f : FunctionBody)
  | binary (op : BinaryOp) (left right : Expr) (line : Nat)
  | unary (op : UnaryOp) (operand : Expr) (line : Nat)
  | and (left right : Expr)
  | or (left right : Expr)
  | table (fields : List Field) (line : Nat)
  /-- Parentheses keep only the first value. -/
  | paren (e : Expr)

inductive Field
  | item (e : Expr)
  | keyed (key value : Expr) (line : Nat)

inductive Stat
  | callOnly (e : Expr)
  | assign (targets values : List Expr) (line : Nat)
  /-- Declares variables; `closes` is the one that is closed at the end of its scope. -/
  | declare (vars : List Variable) (values : List Expr) (closes : Option Variable) (line : Nat)
  /-- Declares a variable that the function itself can use. -/
  | declareFunction (var : Variable) (f : FunctionBody)
  /-- A block; `base` is the number of variables outside it. -/
  | block (base : Nat) (body : List Stat)
  | whileLoop (condition : Expr) (base : Nat) (body : List Stat) (exit : Nat) (line : Nat)
  | untilLoop (base : Nat) (body : List Stat) (condition : Expr) (exit : Nat)
  | branch (condition : Expr) (base : Nat) (yes no : List Stat)
  /-- A counting loop; `state` is the first of three hidden slots. -/
  | countLoop (state : Nat) (var : Variable) (start limit : Expr) (step : Option Expr)
      (body : List Stat) (exit : Nat) (prepareLine line : Nat)
  /-- An iterator loop; `state` is the first of four hidden slots. -/
  | iterLoop (state : Nat) (vars : List Variable) (values : List Expr)
      (body : List Stat) (exit : Nat) (line : Nat)
  | ret (values : List Expr) (line : Nat)
  /-- A jump, by its number. -/
  | jump (id : Nat) (line : Nat)
  /-- A jump target; `base` is the number of variables in scope there. -/
  | label (id : Nat) (base : Nat)

structure FunctionBody where
  parameters : List Variable
  isVararg : Bool
  body : List Stat
  outer : List OuterSource
  outerNames : List ByteArray
  /-- Declarations that inner functions use. -/
  captured : List Nat
  /-- Number of slots the function needs. -/
  slots : Nat
  /-- The label each jump goes to. -/
  jumps : List (Nat × Nat)
  /-- Numbers below this one name labels and jumps. -/
  marks : Nat
  line : Nat
  lastLine : Nat

end

end RobotSession.Lua
