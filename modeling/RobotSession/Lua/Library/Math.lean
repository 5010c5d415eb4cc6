import RobotSession.Lua.Arguments
import RobotSession.Lua.Arithmetic

/-!
# The mathematical library

Integers stay integers where the result is one.
-/

namespace RobotSession.Lua.Library.Math

open RobotSession.Number

def pi : Float := 3.141592653589793

/-- The integral float as an integer if there is one. -/
def whole (x : Float) : Value :=
  match Value.floatToInt? x with
  | some i => .int i
  | none => .float x

def ofFloat (f : Float → Float) (args : List Value) : Body Reply := do
  return .done [.float (f (← Args.float args 1))]

/-- The greatest or the least argument. -/
def extreme (args : List Value) (better : Value → Value → Bool) : Body Reply := do
  let first ← Args.number args 1
  let best ← (List.range (args.length - 1)).foldlM (fun best k => do
    let v ← Args.number args (k + 2)
    return if better v best then v else best) first
  return .done [best]

/-- The next state of the random generator. -/
def nextSeed (x : UInt64) : UInt64 :=
  let x := x ^^^ (x <<< 13)
  let x := x ^^^ (x >>> 7)
  x ^^^ (x <<< 17)

def draw : Body Nat := do
  let x := nextSeed (← get).seed
  modify fun h => { h with seed := x }
  return x.toNat

def random (args : List Value) : Body Reply := do
  let r ← draw
  match args.length with
  | 0 => return .done [.float (Binary64.nearest false (r / 2048) (-53))]
  | 1 =>
    let high ← Args.int args 1
    if high = 0 then return .done [.int (Int64.ofNat r)]
    if high < 1 then Args.fault 1 "interval is empty"
    return .done [.int (Int64.ofInt (1 + r % high.toInt))]
  | 2 =>
    let low ← Args.int args 1
    let high ← Args.int args 2
    if high < low then Args.fault 2 "interval is empty"
    return .done [.int (Int64.ofInt (low.toInt + r % (high.toInt - low.toInt + 1)))]
  | _ => Args.located "wrong number of arguments"

def fmod (args : List Value) : Body Reply := do
  match ← Args.number args 1, ← Args.number args 2 with
  | .int a, .int b =>
    if b = 0 then Args.fault 2 "zero"
    return .done [.int (Int64.ofInt (Int.tmod a.toInt b.toInt))]
  | _, _ => return .done [.float (Binary64.remainder (← Args.float args 1) (← Args.float args 2))]

def modf (args : List Value) : Body Reply := do
  let x ← Args.float args 1
  let n := if x < 0 then x.ceil else x.floor
  let rest := if x == n then 0.0 else x - n
  return .done [.float n, .float rest]

def log (args : List Value) : Body Reply := do
  let x ← Args.float args 1
  if Args.isNone args 2 then return .done [.float x.log]
  let base ← Args.float args 2
  if base == 2 then return .done [.float x.log2]
  else if base == 10 then return .done [.float x.log10]
  else return .done [.float (x.log / base.log)]

/-- The functions of the mathematical library. -/
def call (f : Native) (args : List Value) : Body Reply := do
  match f with
  | .mathAbs =>
    match ← Args.number args 1 with
    -- the least integer has no opposite and stays as it is
    | .int i => return .done [.int (if i < 0 then -i else i)]
    | _ => ofFloat Float.abs args
  | .mathFloor =>
    match ← Args.number args 1 with
    -- an integer is its own floor, without a way through floats
    | .int i => return .done [.int i]
    | _ => return .done [whole (← Args.float args 1).floor]
  | .mathCeil =>
    match ← Args.number args 1 with
    | .int i => return .done [.int i]
    | _ => return .done [whole (← Args.float args 1).ceil]
  | .mathSqrt => ofFloat Float.sqrt args
  | .mathSin => ofFloat Float.sin args
  | .mathCos => ofFloat Float.cos args
  | .mathTan => ofFloat Float.tan args
  | .mathAsin => ofFloat Float.asin args
  | .mathAcos => ofFloat Float.acos args
  | .mathAtan => do
    let y ← Args.float args 1
    let x ← if Args.isNone args 2 then pure 1.0 else Args.float args 2
    return .done [.float (Float.atan2 y x)]
  | .mathExp => ofFloat Float.exp args
  | .mathDeg => ofFloat (fun x => x * (180.0 / pi)) args
  | .mathRad => ofFloat (fun x => x * (pi / 180.0)) args
  | .mathLog => log args
  | .mathFmod => fmod args
  | .mathModf => modf args
  | .mathMax => extreme args fun v best => (Arithmetic.less? best v).getD false
  | .mathMin => extreme args fun v best => (Arithmetic.less? v best).getD false
  | .mathRandom => random args
  | .mathRandomSeed => do
    let n ← if Args.isNone args 1 then pure 0 else Args.float args 1
    -- a generator made of shifts would never leave zero
    modify fun h => { h with seed := n.toBits ^^^ 88172645463325252 }
    return .done []
  | .mathToInteger => do
    let v ← Args.any args 1
    match Args.asInt? v with
    | some i => return .done [.int i]
    | none => return .done [.nil]
  | .mathType => do
    match ← Args.any args 1 with
    | .int _ => return .done [.text "integer"]
    | .float _ => return .done [.text "float"]
    | _ => return .done [.nil]
  | .mathUlt => do
    let a ← Args.int args 1
    let b ← Args.int args 2
    -- as numbers without a sign
    return .done [.bool (a.toUInt64 < b.toUInt64)]
  | _ => return .done []

end RobotSession.Lua.Library.Math
