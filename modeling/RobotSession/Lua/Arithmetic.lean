import RobotSession.Lua.Code
import RobotSession.Lua.Numeral

/-!
# Arithmetic and order

Integers are 64 bits wide and wrap around; division and remainder round toward minus
infinity; comparison of an integer with a float is exact.

* `Arithmetic.binary`, `Arithmetic.unary` — operators on numbers.
* `Arithmetic.less?`, `Arithmetic.lessEq?` — order, where it exists without
  metamethods.
* `Counting` — the course of a counting loop.
-/

namespace RobotSession.Lua.Arithmetic

open RobotSession.Number

/-- Why an operator gives no number. -/
inductive Fault
  | notNumber
  | notInteger
  | divisionByZero
  | remainderByZero
  deriving DecidableEq

def isNumber : Value → Bool
  | .int _ => true
  | .float _ => true
  | _ => false

/-- The float nearest to a number. -/
def toFloat? : Value → Option Float
  | .int i => some (Binary64.ofInt i.toInt)
  | .float x => some x
  | _ => none

/-- The integer that a number equals. -/
def toInt? : Value → Option Int64
  | .int i => some i
  | .float x => Value.floatToInt? x
  | _ => none

/-- A shift to the left; by a negative amount, to the right. Vacant bits are 0. -/
def shiftLeft (a b : Int64) : Int64 :=
  let n := b.toInt
  if n ≤ -64 ∨ 64 ≤ n then 0
  else if 0 ≤ n then ⟨a.toUInt64 <<< UInt64.ofNat n.toNat⟩
  else ⟨a.toUInt64 >>> UInt64.ofNat (-n).toNat⟩

/-- The remainder that has the sign of the divisor. -/
def floatMod (a b : Float) : Float :=
  let r := Binary64.remainder a b
  if (if r > 0 then b < 0 else r < 0 && b != r) then r + b else r

def floatOp (op : BinaryOp) (a b : Float) : Option Float :=
  match op with
  | .add => some (a + b)
  | .sub => some (a - b)
  | .mul => some (a * b)
  | .div => some (a / b)
  | .mod => some (floatMod a b)
  | .pow => some (if b == 2 then a * a else Float.pow a b)
  | .idiv => some (Float.floor (a / b))
  | _ => none

def intOp (op : BinaryOp) (a b : Int64) : Option (Except Fault Int64) :=
  match op with
  | .add => some (.ok (a + b))
  | .sub => some (.ok (a - b))
  | .mul => some (.ok (a * b))
  | .idiv =>
    some (if b = 0 then .error .divisionByZero
      else .ok (Int64.ofInt (Int.fdiv a.toInt b.toInt)))
  | .mod =>
    some (if b = 0 then .error .remainderByZero
      else .ok (Int64.ofInt (Int.fmod a.toInt b.toInt)))
  | _ => none

def bitOp (op : BinaryOp) (a b : Int64) : Option Int64 :=
  match op with
  | .band => some (a &&& b)
  | .bor => some (a ||| b)
  | .bxor => some (a ^^^ b)
  | .shl => some (shiftLeft a b)
  | .shr => some (shiftLeft a (-b))
  | _ => none

def isBitwise : BinaryOp → Bool
  | .band => true
  | .bor => true
  | .bxor => true
  | .shl => true
  | .shr => true
  | _ => false

/-- An arithmetic or bitwise operator on two values. -/
def binary (op : BinaryOp) (a b : Value) : Except Fault Value :=
  -- a bitwise operation needs integers; a number that is none is told apart from no number
  if isBitwise op then
    if !(isNumber a && isNumber b) then .error .notNumber
    else
      match toInt? a, toInt? b with
      | some x, some y =>
        match bitOp op x y with
        | some r => .ok (.int r)
        | none => .error .notNumber
      | _, _ => .error .notInteger
  else
    -- division and powers are done on floats even if both are integers
    let asFloats : Except Fault Value :=
      match toFloat? a, toFloat? b with
      | some x, some y =>
        match floatOp op x y with
        | some r => .ok (.float r)
        | none => .error .notNumber
      | _, _ => .error .notNumber
    match a, b with
    | .int x, .int y =>
      match intOp op x y with
      | some r => r.map .int
      | none => asFloats
    | _, _ => asFloats

/-- Negation or complement of a value. -/
def unary (op : UnaryOp) (a : Value) : Except Fault Value :=
  match op, a with
  | .neg, .int i => .ok (.int (-i))
  | .neg, .float x => .ok (.float (-x))
  | .bnot, .int i => .ok (.int (~~~i))
  | .bnot, .float x =>
    match Value.floatToInt? x with
    | some i => .ok (.int (~~~i))
    | none => .error .notInteger
  | _, _ => .error .notNumber

/-- Lexicographic order of octets. -/
def octetsLess : List UInt8 → List UInt8 → Bool
  | _, [] => false
  | [], _ :: _ => true
  | a :: as, b :: bs => if a = b then octetsLess as bs else a < b

/-- Whether one value is below another, if both are numbers or both are strings. -/
def less? : Value → Value → Option Bool
  | .int a, .int b => some (a < b)
  | .float a, .float b => some (a < b)
  | .int a, .float b => some (Binary64.intLt a.toInt (Binary64.ofFloat b))
  | .float a, .int b => some (Binary64.ltInt (Binary64.ofFloat a) b.toInt)
  | .str a, .str b => some (octetsLess a.toList b.toList)
  | _, _ => none

/-- Whether one value is at most another, if both are numbers or both are strings. -/
def lessEq? : Value → Value → Option Bool
  | .int a, .int b => some (a ≤ b)
  | .float a, .float b => some (a ≤ b)
  | .int a, .float b => some (Binary64.intLe a.toInt (Binary64.ofFloat b))
  | .float a, .int b => some (Binary64.leInt (Binary64.ofFloat a) b.toInt)
  | .str a, .str b => some (!octetsLess b.toList a.toList)
  | _, _ => none

/-! ### Counting loops -/

/-- Why a counting loop cannot start. -/
inductive CountFault
  /-- The named part is not a number. -/
  | notNumber (what : String) (value : Value)
  | zeroStep

/-- The hidden values of a counting loop: the variable, what bounds it, and the step. -/
abbrev Counting := Value × Value × Value

/-- The limit of an integer loop, or `none` if the loop does not run. -/
def intLimit (start step : Int64) (limit : Value) : Except CountFault (Option Int64) :=
  let up := 0 < step
  -- the loop has no turn at all if the limit lies behind the start
  let check (l : Int64) : Option Int64 :=
    if (if up then l < start else start < l) then none else some l
  match limit with
  | .int l => .ok (check l)
  | .float x =>
    -- nothing compares with this, so there is no turn
    if x.isNaN then .ok none
    else
      let v := Binary64.ofFloat x
      -- rounded towards the start, and cut to what an integer may be
      match (if up then v.floor else v.ceil) with
      | some i =>
        if i < -0x8000000000000000 then .ok (if up then none else check Int64.minValue)
        else if 0x8000000000000000 ≤ i then .ok (if up then check Int64.maxValue else none)
        else .ok (check (Int64.ofInt i))
      | none =>
        -- infinite: the loop goes as far as integers do, or has no turn
        if 0 < x then .ok (if up then check Int64.maxValue else none)
        else .ok (if up then none else check Int64.minValue)
  | v => .error (.notNumber "limit" v)

/-- Starts a loop: its hidden values, or `none` if it does not run. For integers the
bound is the number of turns after the first one. -/
def startCount (start limit step : Value) : Except CountFault (Option Counting) :=
  match start, step with
  | .int a, .int s =>
    if s = 0 then .error .zeroStep
    else do
      match ← intLimit a s limit with
      | none => return none
      | some l =>
        -- the number of turns is known in advance, so that no counter overflows
        let turns := (l.toInt - a.toInt).natAbs / s.toInt.natAbs
        return some (start, .int (Int64.ofInt turns), step)
  | _, _ =>
    -- the limit is complained of first, then the step, then the start
    match toFloat? limit, toFloat? step, toFloat? start with
    | none, _, _ => .error (.notNumber "limit" limit)
    | _, none, _ => .error (.notNumber "step" step)
    | _, _, none => .error (.notNumber "initial value" start)
    | some l, some s, some a =>
      if s == 0 then .error .zeroStep
      else if (if 0 < s then l < a else a < l) then .ok none
      else .ok (some (.float a, .float l, .float s))

/-- The next turn of a loop, if there is one. -/
def nextCount : Counting → Option Counting
  | (.int a, .int turns, .int s) =>
    if turns.toUInt64 = 0 then none
    else some (.int (a + s), .int (turns - 1), .int s)
  | (.float a, .float l, .float s) =>
    let a := a + s
    if (if 0 < s then a ≤ l else l ≤ a) then some (.float a, .float l, .float s) else none
  | _ => none

end RobotSession.Lua.Arithmetic
