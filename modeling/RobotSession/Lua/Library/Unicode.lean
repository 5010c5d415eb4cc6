import RobotSession.Lua.Arguments

/-!
# The library for UTF-8 strings

Positions count octets from 1. The scheme goes up to 31 bits; unless a call is lax,
surrogates and values above U+10FFFF are refused.
-/

namespace RobotSession.Lua.Library.Unicode

open Text (octets)

def isContinuation (b : UInt8) : Bool :=
  b.toNat / 64 = 2

/-- The number of octets that a leading octet announces. -/
def announced (b : UInt8) : Nat :=
  if b < 0x80 then 1 else if b < 0xC0 then 0 else if b < 0xE0 then 2 else if b < 0xF0 then 3
  else if b < 0xF8 then 4 else if b < 0xFC then 5 else if b < 0xFE then 6 else 0

/-- The least value that needs a number of octets. -/
def least (size : Nat) : Nat :=
  match size with
  | 2 => 0x80
  | 3 => 0x800
  | 4 => 0x10000
  | 5 => 0x200000
  | 6 => 0x4000000
  | _ => 0

/-- The code point at an index, with its size. -/
def decodeAt (s : ByteArray) (i : Nat) (lax : Bool) : Option (Nat × Nat) :=
  match s[i]? with
  | none => none
  | some b =>
    let size := announced b
    let tail := (s.extract (i + 1) (i + size)).toList
    if size = 0 || tail.length + 1 ≠ size || !tail.all isContinuation then none
    else
      let lead := if size = 1 then b.toNat else b.toNat % Nat.pow 2 (7 - size)
      let n := tail.foldl (fun n c => n * 64 + c.toNat % 64) lead
      if n < least size then none
      else if !lax && (0x10FFFF < n || (0xD800 ≤ n && n ≤ 0xDFFF)) then none
      else some (n, size)

/-- A position, negative ones counted from the end. -/
def place (pos : Int) (len : Nat) : Int :=
  if 0 ≤ pos then pos else if (len : Int) < -pos then 0 else len + pos + 1

def char (args : List Value) : Body Reply := do
  let parts ← (List.range args.length).mapM fun k => do
    let n ← Args.int args (k + 1)
    if n < 0 || 0x7FFFFFFF < n then Args.fault (k + 1) "value out of range"
    return Text.Utf8.encodeExtended n.toInt.toNat
  return .done [.str (ByteArray.mk parts.flatten.toArray)]

/-- The code points that start between two indices. -/
def pointsFrom (s : ByteArray) (stop : Nat) (lax : Bool) : Nat → Nat → Option (List Nat)
  | 0, _ => some []
  | fuel + 1, i =>
    if stop ≤ i then some []
    else
      match decodeAt s i lax with
      | none => none
      | some (n, size) => (n :: ·) <$> pointsFrom s stop lax fuel (i + size)

def codepoint (args : List Value) : Body Reply := do
  let s ← Args.text args 1
  let i := place (← Args.intOr args 2 1).toInt s.size
  let j := place (← Args.intOr args 3 (Int64.ofInt i)).toInt s.size
  if i < 1 then Args.fault 2 "out of bounds"
  if s.size < j then Args.fault 3 "out of bounds"
  match pointsFrom s j.toNat (Args.nth args 4).truthy (s.size + 1) (i.toNat - 1) with
  | some points => return .done (points.map fun n => .int (Int64.ofNat n))
  | none => Args.located "invalid UTF-8 code"

/-- Counts the code points that start between two indices; a failure names its
position. -/
def countFrom (s : ByteArray) (stop : Nat) (lax : Bool) : Nat → Nat → Nat → Except Nat Nat
  | 0, _, count => .ok count
  | fuel + 1, i, count =>
    if stop ≤ i then .ok count
    else
      match decodeAt s i lax with
      | none => .error (i + 1)
      | some (_, size) => countFrom s stop lax fuel (i + size) (count + 1)

def len (args : List Value) : Body Reply := do
  let s ← Args.text args 1
  let i := place (← Args.intOr args 2 1).toInt s.size
  let j := place (← Args.intOr args 3 (-1)).toInt s.size
  if i < 1 || (s.size : Int) + 1 < i then Args.fault 2 "initial position out of bounds"
  if s.size < j then Args.fault 3 "final position out of bounds"
  match countFrom s j.toNat (Args.nth args 4).truthy (s.size + 1) (i.toNat - 1) 0 with
  | .ok n => return .done [.int (Int64.ofNat n)]
  | .error at_ => return .done [.nil, .int (Int64.ofNat at_)]

def isContinuationAt (s : ByteArray) (i : Int) : Bool :=
  if i < 0 then false
  else
    match s[i.toNat]? with
    | some b => isContinuation b
    | none => false

/-- Skips continuation octets in a direction. -/
def skip (s : ByteArray) (step : Int) : Nat → Int → Int
  | 0, i => i
  | fuel + 1, i => if isContinuationAt s i && (0 < i || 0 < step) then skip s step fuel (i + step) else i

/-- Walks over `n` characters from an index. -/
def walk (s : ByteArray) : Nat → Int → Int → Option Int
  | 0, n, i => if n = 0 then some i else none
  | fuel + 1, n, i =>
    if n = 0 then some i
    else if n < 0 then
      if i ≤ 0 then none else walk s fuel (n + 1) (skip s (-1) s.size (i - 1))
    else if (s.size : Int) ≤ i then none
    else walk s fuel (n - 1) (skip s 1 s.size (i + 1))

def offset (args : List Value) : Body Reply := do
  let s ← Args.text args 1
  let n := (← Args.int args 2).toInt
  let i := place (← Args.intOr args 3 (if 0 < n then 1 else Int64.ofNat (s.size + 1))).toInt s.size - 1
  if i < 0 || (s.size : Int) < i then Args.fault 3 "position out of bounds"
  let found : Option Int ←
    if n = 0 then pure (some (skip s (-1) s.size i))
    else do
      if isContinuationAt s i then Args.located "initial position is a continuation byte"
      pure (walk s (s.size + 1) (if 0 < n then n - 1 else n) i)
  match found with
  | some i => return .done [.int (Int64.ofInt (i + 1))]
  | none => return .done [.nil]

def codesStep (captured args : List Value) : Body Reply := do
  let s ← Args.text args 1
  let lax := (captured.headD .nil).truthy
  let at_ := (← Args.int args 2).toInt
  let i := if at_ ≤ 0 then 0 else skip s 1 s.size at_
  if (s.size : Int) ≤ i then return .done []
  match decodeAt s i.toNat lax with
  | some (n, size) =>
    if isContinuationAt s (i + size) then Args.located "invalid UTF-8 code"
    return .done [.int (Int64.ofInt (i + 1)), .int (Int64.ofNat n)]
  | none => Args.located "invalid UTF-8 code"

def codes (args : List Value) : Body Reply := do
  let s ← Args.text args 1
  if isContinuationAt s 0 then Args.fault 1 "invalid UTF-8 code"
  let lax : Value := .bool (Args.nth args 2).truthy
  return .done [← Work.newNative .utfCodesStep [lax], .str s, .int 0]

/-- A pattern that matches one character. -/
def charPattern : ByteArray :=
  octets "[\x00-" ++ ByteArray.mk #[0x7F, 0xC2] ++ octets "-" ++ ByteArray.mk #[0xFD]
    ++ octets "][" ++ ByteArray.mk #[0x80] ++ octets "-" ++ ByteArray.mk #[0xBF] ++ octets "]*"

/-- The functions of the library. -/
def call (f : Native) (captured args : List Value) : Body Reply :=
  match f with
  | .utfChar => char args
  | .utfCodepoint => codepoint args
  | .utfLen => len args
  | .utfOffset => offset args
  | .utfCodes => codes args
  | .utfCodesStep => codesStep captured args
  | _ => return .done []

end RobotSession.Lua.Library.Unicode
