import RobotSession.Json.Fault
import RobotSession.Text.Utf8

/-!
# Reading JSON texts

A reader takes octets off the front of a text. It knows the place that it has come to, and
keeps it when it fails, because what encloses a faulty value still looks for its own end.

* `Reader.failHere`, `Reader.failNext` — a fault of the octet that was taken last, and of
  the octet that comes next.
* `Reader.placed` — gives a mismatch the place at which its reader ended.
* `Reader.text`, `Reader.number` — texts and numbers.
* `Reader.skipValue` — any value, unread.
-/

namespace RobotSession.Json

/-- What is left of a text, and its place. -/
structure Cursor where
  rest : List UInt8
  place : Place := ⟨1, 0⟩

namespace Place

/-- The place after an octet. -/
def after (p : Place) (b : UInt8) : Place :=
  if b = 10 then ⟨p.line + 1, 0⟩ else ⟨p.line, p.column + 1⟩

/-- The place after several octets. -/
def afterAll (p : Place) (bs : List UInt8) : Place :=
  bs.foldl after p

end Place

namespace Cursor

/-- The place after the next octet; at the end of the text, the end. -/
def nextPlace (c : Cursor) : Place :=
  match c.rest with
  | [] => c.place
  | b :: _ => c.place.after b

def isBlank (b : UInt8) : Bool :=
  b == 32 || b == 10 || b == 9 || b == 13

/-- The cursor after blanks. -/
def skipBlanks : List UInt8 → Place → Cursor
  | [], p => ⟨[], p⟩
  | b :: rest, p => if isBlank b then skipBlanks rest (p.after b) else ⟨b :: rest, p⟩

end Cursor

/-- A reader; it fails where it stands. -/
abbrev Reader := EStateM Failure Cursor

namespace Reader

def failHere {α : Type} (fault : Fault) : Reader α := do
  throw ⟨fault, some (← get).place⟩

def failNext {α : Type} (fault : Fault) : Reader α := do
  throw ⟨fault, some (← get).nextPlace⟩

/-- A mismatch, whose place is still to come. -/
def mismatch {α : Type} (m : Mismatch) : Reader α :=
  throw ⟨.data m, none⟩

/-- Gives a fault without a place the place at which the reader ended. -/
def placed {α : Type} (r : Reader α) : Reader α := fun c =>
  match r c with
  | .error ⟨fault, none⟩ c => .error ⟨fault, some c.place⟩ c
  | result => result

/-- The next octet, which is not taken. -/
def peek : Reader (Option UInt8) := do
  return (← get).rest.head?

/-- Takes the next octet. -/
def next : Reader (Option UInt8) := do
  match ← get with
  | ⟨[], _⟩ => return none
  | ⟨b :: rest, p⟩ =>
    set (Cursor.mk rest (p.after b))
    return some b

def skip : Reader Unit := do
  let _ ← next

/-- The next octet after blanks, which is not taken. -/
def peekSolid : Reader (Option UInt8) := do
  modify fun c => Cursor.skipBlanks c.rest c.place
  peek

/-- Takes the rest of a word. -/
def word : List UInt8 → Reader Unit
  | [] => return ()
  | expected :: more => do
    match ← next with
    | none => failHere .endInValue
    | some b => if b = expected then word more else failHere .expectedWord

/-- The words `null`, `true` and `false` without their first letters. -/
def nullRest : List UInt8 := [117, 108, 108]
def trueRest : List UInt8 := [114, 117, 101]
def falseRest : List UInt8 := [97, 108, 115, 101]

/-! ### Texts -/

def hexDigit? (b : UInt8) : Option Nat :=
  if 48 ≤ b && b ≤ 57 then some (b.toNat - 48)
  else if 97 ≤ b && b ≤ 102 then some (b.toNat - 87)
  else if 65 ≤ b && b ≤ 70 then some (b.toNat - 55)
  else none

/-- Takes four hexadecimal digits. -/
def hexEscape : Reader Nat := do
  let c ← get
  match c.rest with
  | x :: y :: z :: w :: rest =>
    set (Cursor.mk rest (c.place.afterAll [x, y, z, w]))
    match [x, y, z, w].mapM hexDigit? with
    | some digits => return digits.foldl (fun n d => n * 16 + d) 0
    | none => failHere .invalidEscape
  | rest =>
    set (Cursor.mk [] (c.place.afterAll rest))
    failHere .endInText

/-- Takes an octet that has to follow a leading surrogate. -/
def surrogatePart (expected : UInt8) : Reader Unit := do
  match ← peek with
  | none => failNext .endInText
  | some b =>
    skip
    if b ≠ expected then failHere .unfinishedSurrogate

/-- Takes the rest of an escape of a character by its number. A number beyond sixteen bits
is written as two surrogates. -/
def codeEscape : Reader (List UInt8) := do
  let n ← hexEscape
  if 0xDC00 ≤ n && n ≤ 0xDFFF then failHere .loneSurrogate
  else if n < 0xD800 || 0xDBFF < n then return Text.Utf8.encodeExtended n
  else
    surrogatePart 92
    surrogatePart 117
    let m ← hexEscape
    if m < 0xDC00 || 0xDFFF < m then failHere .loneSurrogate
    else return Text.Utf8.encodeExtended ((n - 0xD800) * 1024 + (m - 0xDC00) + 0x10000)

/-- What a letter after a backslash stands for. -/
def shortEscape? (b : UInt8) : Option UInt8 :=
  if b == 34 || b == 92 || b == 47 then some b
  else if b == 98 then some 8
  else if b == 102 then some 12
  else if b == 110 then some 10
  else if b == 114 then some 13
  else if b == 116 then some 9
  else none

/-- Takes the rest of an escape. -/
def escape : Reader (List UInt8) := do
  match ← next with
  | none => failHere .endInText
  | some b =>
    match shortEscape? b with
    | some x => return [x]
    | none => if b = 117 then codeEscape else failHere .invalidEscape

/-- Takes octets up to the closing quote; `done` is reversed, `fuel` bounds the number of
octets and escapes. -/
def textOctets : Nat → List UInt8 → Reader (List UInt8)
  | 0, _ => failHere .endInText
  | fuel + 1, done => do
    match ← next with
    | none => failHere .endInText
    | some b =>
      if b = 34 then return done.reverse
      else if b = 92 then
        let bs ← escape
        textOctets fuel (bs.reverse ++ done)
      else if b < 32 then failHere .controlCharacter
      else textOctets fuel (b :: done)

/-- Takes the rest of a text after its opening quote. A part that is not well-formed is
reported at its first octet. -/
def text : Reader String := do
  let start ← get
  let bs ← textOctets (start.rest.length + 1) []
  match Text.Utf8.decode? bs.toByteArray with
  | some s => return s
  | none =>
    let taken := start.rest.length - (← get).rest.length
    let raw := start.rest.take taken
    let fault := (Text.Utf8.check raw.toByteArray).getD ⟨0, none⟩
    throw ⟨.notText, some (start.place.afterAll (raw.take (fault.index + 1)))⟩

/-- Takes the rest of an escape of a text that nobody wants. -/
def skipEscape : Reader Unit := do
  match ← next with
  | none => failHere .endInText
  | some b =>
    if (shortEscape? b).isSome then return ()
    else if b = 117 then
      let _ ← hexEscape
    else failHere .invalidEscape

/-- Takes the rest of a text that nobody wants. -/
def skipText : Nat → Reader Unit
  | 0 => failHere .endInText
  | fuel + 1 => do
    match ← peek with
    | none => failHere .endInText
    | some b =>
      if b = 34 then skip
      else if b = 92 then
        skip
        skipEscape
        skipText fuel
      else if b < 32 then failHere .controlCharacter
      else
        skip
        skipText fuel

/-! ### Numbers -/

/-- A number as it is written. -/
inductive Number
  | natural (n : Nat)
  | negative (i : Int)
  | float (x : Float)

def Number.unexpected : Number → Unexpected
  | .natural n => .integer n
  | .negative i => .integer i
  | .float x => .float x

/-- The largest number that is read without rounding. -/
def largest : Nat := UInt64.size - 1

def isDigit (b : UInt8) : Bool :=
  48 ≤ b && b ≤ 57

/-- Takes digits as long as the number they add up to is at most `limit`; says how many
were taken. A digit that would lead beyond the limit is left. -/
def digits (limit : Nat) : Nat → Nat → Nat → Reader (Nat × Nat)
  | 0, n, count => return (n, count)
  | fuel + 1, n, count => do
    match ← peek with
    | some b =>
      if isDigit b && n * 10 + (b.toNat - 48) ≤ limit then
        skip
        digits limit fuel (n * 10 + (b.toNat - 48)) (count + 1)
      else return (n, count)
    | none => return (n, count)

/-- Takes digits; says how many. -/
def skipDigits : Nat → Nat → Reader Nat
  | 0, count => return count
  | fuel + 1, count => do
    match ← peek with
    | some b =>
      if isDigit b then
        skip
        skipDigits fuel (count + 1)
      else return count
    | none => return count

/-- As many octets as are left. -/
def left : Reader Nat := do
  return (← get).rest.length

def power (k : Nat) : Float :=
  Number.Binary64.nearest false (Nat.pow 10 k) 0

/-- `x` divided by ten to the power of `k`, in steps of 308; `fuel` bounds the steps. -/
def dividedBy : Nat → Float → Nat → Float
  | 0, x, _ => x
  | fuel + 1, x, k =>
    if k ≤ 308 then x / power k
    else if x == 0.0 then x
    else dividedBy fuel (x / power 308) (k - 308)

/-- The double `n · 10 ^ k`. The digits and the power are rounded first, and then their
product or quotient. -/
def float (positive : Bool) (n : Nat) (k : Int) : Reader Float := do
  let x := Number.Binary64.nearest false n 0
  let y : Option Float :=
    if 0 ≤ k then
      if 308 < k then (if n = 0 then some x else none)
      else
        let y := x * power k.toNat
        if y.isInf then none else some y
    else some (dividedBy 10 x (-k).toNat)
  match y with
  | some y => return if positive then y else -y
  | none => failHere .outOfRange

/-- The largest exponent that is read. -/
def largestExponent : Nat := 0x7FFFFFFF

/-- Takes an exponent, which `e` announces, of a number whose digits are `n` and stand for
multiples of `10 ^ k`. -/
def exponent (positive : Bool) (n : Nat) (k : Int) : Reader Float := do
  skip
  let down ←
    match ← peek with
    | some 43 => do
      skip
      pure false
    | some 45 => do
      skip
      pure true
    | _ => pure false
  match ← next with
  | none => failHere .endInValue
  | some b =>
    if !isDigit b then failHere .invalidNumber
    else
      -- digits are taken as long as the exponent fits
      let (e, _) ← digits largestExponent (← left) (b.toNat - 48) 0
      match ← peek with
      | some b =>
        if isDigit b then
          -- too large for a number, unless its digits are all zero; too small is zero
          if n ≠ 0 && !down then failNext .outOfRange
          else
            let _ ← skipDigits (← left) 0
            return if positive then 0.0 else -0.0
        else float positive n (if down then k - e else k + e)
      | none => float positive n (if down then k - e else k + e)

/-- Takes a fraction, which a point announces. Digits beyond the largest number are not
counted. -/
def fraction (positive : Bool) (n : Nat) (k : Int) : Reader Float := do
  skip
  let (m, count) ← digits largest (← left) n 0
  let more ← skipDigits (← left) 0
  if count = 0 && more = 0 then
    match ← peek with
    | some _ => failNext .invalidNumber
    | none => failNext .endInValue
  else
    let k := k - count
    match ← peek with
    | some 101 => exponent positive m k
    | some 69 => exponent positive m k
    | _ => float positive m k

/-- Goes on after the digits before a point; `dropped` more digits did not fit. -/
def numberRest (positive : Bool) (n dropped : Nat) : Reader Number := do
  match ← peek with
  | some 46 => return .float (← fraction positive n dropped)
  | some 101 => return .float (← exponent positive n dropped)
  | some 69 => return .float (← exponent positive n dropped)
  | _ =>
    if dropped ≠ 0 then return .float (← float positive n dropped)
    else if positive then return .natural n
    else if n = 0 || 0x8000000000000000 < n then return .float (-(Number.Binary64.nearest false n 0))
    else return .negative (-n)

/-- Takes a number after its sign. A first zero is the only digit before a point. -/
def number (positive : Bool) : Reader Number := do
  match ← next with
  | none => failHere .endInValue
  | some b =>
    if b = 48 then
      match ← peek with
      | some d => if isDigit d then failNext .invalidNumber else numberRest positive 0 0
      | none => numberRest positive 0 0
    else if isDigit b then
      let (n, _) ← digits largest (← left) (b.toNat - 48) 0
      let dropped ← skipDigits (← left) 0
      numberRest positive n dropped
    else failHere .invalidNumber

/-- Takes the exponent of a number that nobody wants. -/
def skipExponent : Reader Unit := do
  skip
  match ← peek with
  | some 43 => skip
  | some 45 => skip
  | _ => pure ()
  match ← next with
  | some b =>
    if isDigit b then
      let _ ← skipDigits (← left) 0
    else failHere .invalidNumber
  | none => failHere .invalidNumber

/-- Takes the exponent of a number that nobody wants, if it has one. -/
def skipExponent? : Reader Unit := do
  match ← peek with
  | some 101 => skipExponent
  | some 69 => skipExponent
  | _ => return ()

/-- Takes the fraction and the exponent of a number that nobody wants. -/
def skipNumberRest : Reader Unit := do
  if (← peek) = some 46 then
    skip
    let count ← skipDigits (← left) 0
    if count = 0 then failNext .invalidNumber
  skipExponent?

/-- Takes a number that nobody wants, after its sign. -/
def skipNumber : Reader Unit := do
  match ← next with
  | some b =>
    if b = 48 then
      match ← peek with
      | some d => if isDigit d then failNext .invalidNumber
      | none => pure ()
      skipNumberRest
    else if isDigit b then
      let _ ← skipDigits (← left) 0
      skipNumberRest
    else failHere .invalidNumber
  | none => failHere .invalidNumber

/-! ### Values that nobody wants -/

/-- Takes a key and its colon. -/
def skipKey : Reader Unit := do
  match ← peekSolid with
  | none => failNext .endInObject
  | some b =>
    if b ≠ 34 then failNext .expectedKey
    skip
    skipText ((← left) + 1)
    match ← peekSolid with
    | none => failNext .endInObject
    | some b => if b = 58 then skip else failNext .expectedColon

/-- What a value that nobody wants begins with. -/
inductive Opening
  /-- It was short, and has been taken. -/
  | taken
  | list
  | object

/-- Takes a short value, or the opening of a long one. -/
def skipOpening : Reader Opening := do
  match ← peekSolid with
  | none => failNext .endInValue
  | some b =>
    if b = 91 then
      skip
      return .list
    else if b = 123 then
      skip
      return .object
    else if isDigit b then
      -- the digit itself is left for the number
      skipNumber
      return .taken
    else
      if b = 110 then
        skip
        word nullRest
      else if b = 116 then
        skip
        word trueRest
      else if b = 102 then
        skip
        word falseRest
      else if b = 45 then
        skip
        -- a sign has been taken, and a digit has to follow
        skipNumber
      else if b = 34 then
        skip
        skipText ((← left) + 1)
      else failNext .expectedValue
      return .taken

/-- Takes what may stand between the values of lists and objects; `open_` holds what is
open, innermost first, with `true` for an object, and `first` says that nothing has been
taken of the innermost yet. Returns what is still open when a value has to follow. -/
def skipBetween : Nat → List Bool → Bool → Reader (List Bool)
  | 0, open_, _ => return open_
  | _, [], _ => return []
  | fuel + 1, object :: outer, first => do
    match ← peekSolid with
    | none => failNext (if object then .endInObject else .endInList)
    | some b =>
      if b = (if object then 125 else 93) then
        skip
        skipBetween fuel outer false
      -- an opening bracket has just been read, and no comma comes before the first member
      else if first then
        if object then skipKey
        return object :: outer
      else if b = 44 then
        skip
        if object then skipKey
        return object :: outer
      else failNext (if object then .expectedObjectEnd else .expectedListEnd)

/-- Takes a value that nobody wants, and all that is open around it. -/
def skipNested : Nat → List Bool → Reader Unit
  | 0, _ => return ()
  | fuel + 1, open_ => do
    let opening ← skipOpening
    let open_ ←
      match opening with
      | .taken => skipBetween ((← left) + 1) open_ false
      | .list => skipBetween ((← left) + 1) (false :: open_) true
      | .object => skipBetween ((← left) + 1) (true :: open_) true
    match open_ with
    | [] => return ()
    | open_ => skipNested fuel open_

/-- Takes a value that nobody wants. -/
def skipValue : Reader Unit := do
  skipNested ((← left) + 1) []

end Reader

end RobotSession.Json
