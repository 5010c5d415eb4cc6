import RobotSession.Json.Reader
import RobotSession.Json.Value

/-!
# JSON forms of types

A `Codec` says how values of a type are read and written. Written forms have no blanks and
the fields of a record in their order. Read are more: fields in any order, fields that are
not known, the fields of a record as a list, and a name of an enumeration as an object with
that one key.

* `Codec.unsigned`, `Codec.signed`, `Codec.boolean`, `Codec.text`, `Codec.parsed` — plain
  values.
* `Codec.optional`, `Codec.list`, `Codec.enumeration` — values made of others.
* `Schema.codec` — records. While one is read, a draft holds the fields that were there.
* `Codec.decode`, `Codec.encode` — whole texts.
-/

namespace RobotSession.Json

/-- How values are read and written. -/
structure Codec (α : Type) where
  read : Reader α
  write : α → List UInt8

namespace Reader

/-- Takes a colon after a key. -/
def colon : Reader Unit := do
  match ← peekSolid with
  | none => failNext .endInObject
  | some b => if b = 58 then skip else failNext .expectedColon

/-- Whether another element of a list follows; `first` if none has been taken. -/
def hasElement (first : Bool) : Reader Bool := do
  match ← peekSolid with
  | none => failNext .endInList
  | some b =>
    if b = 93 then return false
    else if first then return true
    else if b = 44 then
      skip
      match ← peekSolid with
      | none => failNext .endInValue
      | some b => if b = 93 then failNext .trailingComma else return true
    else failNext .expectedListEnd

/-- Whether another key of an object follows; `first` if none has been taken. -/
def hasKey (first : Bool) : Reader Bool := do
  match ← peekSolid with
  | none => failNext .endInObject
  | some b =>
    if b = 125 then return false
    else if first then
      if b = 34 then return true else failNext .expectedKey
    else if b = 44 then
      skip
      match ← peekSolid with
      | none => failNext .endInValue
      | some b =>
        if b = 34 then return true
        else if b = 125 then failNext .trailingComma
        else failNext .expectedKey
    else failNext .expectedObjectEnd

/-- Takes the end of a list. -/
def listEnd : Reader Unit := do
  match ← peekSolid with
  | none => failNext .endInList
  | some b =>
    if b = 93 then skip
    else if b = 44 then
      skip
      if (← peekSolid) = some 93 then failNext .trailingComma else failNext .trailingCharacters
    else failNext .trailingCharacters

/-- Takes the end of an object. -/
def objectEnd : Reader Unit := do
  match ← peekSolid with
  | none => failNext .endInObject
  | some b =>
    if b = 125 then skip
    else if b = 44 then failNext .trailingComma
    else failNext .trailingCharacters

/-- Reads what a bracket encloses, and then its end, which is looked for even after a
failure. The first failure counts. -/
def closing {α : Type} (close : Reader Unit) (r : Reader α) : Reader α := fun c =>
  match r c with
  | .ok a c =>
    match close c with
    | .ok _ c => .ok a c
    | .error e c => .error e c
  | .error e c =>
    match close c with
    | .ok _ c => .error e c
    | .error _ c => .error e c

/-- Fails because the value that comes next is none of those that are `expected`. -/
def unexpected {α : Type} (expected : String) : Reader α := placed do
  match ← peek with
  | some 110 => do
    skip
    word nullRest
    mismatch (.wrongType .null expected)
  | some 116 => do
    skip
    word trueRest
    mismatch (.wrongType (.boolean true) expected)
  | some 102 => do
    skip
    word falseRest
    mismatch (.wrongType (.boolean false) expected)
  | some 45 => do
    skip
    let n ← number false
    mismatch (.wrongType n.unexpected expected)
  | some 34 => do
    skip
    let s ← text
    mismatch (.wrongType (.text s) expected)
  -- a list or an object is not read any further: its first octet says enough
  | some 91 => mismatch (.wrongType .list expected)
  | some 123 => mismatch (.wrongType .object expected)
  | some b =>
    if isDigit b then do
      let n ← number true
      mismatch (.wrongType n.unexpected expected)
    else failNext .expectedValue
  -- nothing is left, and no type is to blame for that
  | none => failNext .expectedValue

/-- Reads a value by its first octet. -/
def starting {α : Type} (expected : String) (r : UInt8 → Option (Reader α)) : Reader α := do
  match ← peekSolid with
  | none => failNext .endInValue
  | some b =>
    match r b with
    | some r => placed r
    | none => unexpected expected

/-- The text that a quote announces, if it says one of the values. -/
def quoted {α : Type} (expected : String) (parse : String → Except Mismatch α) : Reader α :=
  starting expected fun b =>
    if b = 34 then some do
      skip
      match parse (← text) with
      | .ok a => return a
      | .error m => mismatch m
    else none

/-- The whole number that an octet announces. -/
def whole {α : Type} (expected : String) (accept : Int → Option α) : Reader α :=
  let settle (n : Number) : Reader α :=
    match n with
    -- a number with a fraction or an exponent is no integer, whatever its value
    | .float x => mismatch (.wrongType (.float x) expected)
    | n =>
      let i : Int := match n with
        | .natural n => n
        | .negative i => i
        | .float _ => 0
      match accept i with
      | some a => return a
      | none => mismatch (.wrongValue (.integer i) expected)
  starting expected fun b =>
    if b = 45 then some do
      skip
      settle (← number false)
    else if isDigit b then some do settle (← number true)
    else none

end Reader

namespace Codec

open Reader

/-! ### Plain values -/

def digitOctet (n : Nat) : UInt8 :=
  UInt8.ofNat (48 + n % 10)

/-- The decimal digits of a number; `fuel` bounds their count. -/
def naturalOctets : Nat → Nat → List UInt8 → List UInt8
  | 0, n, done => digitOctet n :: done
  | fuel + 1, n, done =>
    if n < 10 then digitOctet n :: done
    else naturalOctets fuel (n / 10) (digitOctet n :: done)

def writeNatural (n : Nat) : List UInt8 :=
  naturalOctets n n []

def writeInteger (i : Int) : List UInt8 :=
  if i < 0 then 45 :: writeNatural i.natAbs else writeNatural i.natAbs

/-- A whole number within the limits of a type. -/
def whole {α : Type} (type : String) (accept : Int → Option α) (value : α → Int) : Codec α :=
  { read := Reader.whole type accept, write := fun a => writeInteger (value a) }

def word64 (type : String) : Codec UInt64 :=
  whole type (fun i => if 0 ≤ i ∧ i < UInt64.size then some (UInt64.ofNat i.toNat) else none)
    (fun n => n.toNat)

def word32 (type : String) : Codec UInt32 :=
  whole type (fun i => if 0 ≤ i ∧ i < UInt32.size then some (UInt32.ofNat i.toNat) else none)
    (fun n => n.toNat)

def signed32 (type : String) : Codec Int32 :=
  whole type (fun i => if -0x80000000 ≤ i ∧ i < 0x80000000 then some (Int32.ofInt i) else none)
    (fun n => n.toInt)

def trueOctets : List UInt8 := 116 :: trueRest
def falseOctets : List UInt8 := 102 :: falseRest
def nullOctets : List UInt8 := 110 :: nullRest

def boolean : Codec Bool where
  read := starting "a boolean" fun b =>
    if b = 116 then some do
      skip
      word trueRest
      return true
    else if b = 102 then some do
      skip
      word falseRest
      return false
    else none
  write b := if b then trueOctets else falseOctets

def hexOctet (n : Nat) : UInt8 :=
  UInt8.ofNat (if n < 10 then 48 + n else 87 + n)

/-- How an octet of a text is written. -/
def escaped (b : UInt8) : List UInt8 :=
  if b = 34 then [92, 34]
  else if b = 92 then [92, 92]
  else if b = 8 then [92, 98]
  else if b = 9 then [92, 116]
  else if b = 10 then [92, 110]
  else if b = 12 then [92, 102]
  else if b = 13 then [92, 114]
  else if b < 32 then [92, 117, 48, 48, hexOctet (b.toNat / 16), hexOctet (b.toNat % 16)]
  else [b]

def writeText (s : String) : List UInt8 :=
  34 :: s.toUTF8.toList.flatMap escaped ++ [34]

/-- A value that is written as a text. -/
def parsed {α : Type} (expected : String) (parse : String → Except Mismatch α)
    (shown : α → String) : Codec α :=
  { read := quoted expected parse, write := fun a => writeText (shown a) }

def text : Codec String :=
  parsed "a string" .ok id

/-! ### Values made of others -/

/-- A value or `null`. -/
def optional {α : Type} (c : Codec α) : Codec (Option α) where
  read := do
    if (← peekSolid) = some 110 then
      skip
      word nullRest
      return none
    else return some (← c.read)
  write
    | none => nullOctets
    | some a => c.write a

/-- Octet sequences with commas between them. -/
def commas (parts : List (List UInt8)) : List UInt8 :=
  List.intercalate [44] parts

/-- Reads elements until the list ends; `done` is reversed. -/
def elements {α : Type} (r : Reader α) : Nat → Bool → List α → Reader (List α)
  | 0, _, done => return done.reverse
  | fuel + 1, first, done => do
    if ← hasElement first then
      let a ← r
      elements r fuel false (a :: done)
    else return done.reverse

def list {α : Type} (c : Codec α) : Codec (List α) where
  read := starting "a sequence" fun b =>
    if b = 91 then some do
      skip
      closing listEnd do elements c.read ((← left) + 1) true []
    else none
  write as := 91 :: commas (as.map c.write) ++ [93]

/-- One of several values, written as its name. -/
def enumeration {α : Type} (all : List α) (name : α → String) : Codec α where
  read := do
    -- a value is its name, or an object whose only key is the name and whose value is null
    let byName : Reader α := quoted "variant identifier" (Value.named all name)
    match ← peekSolid with
    | none => failNext .endInValue
    | some b =>
      if b = 34 then byName
      else if b = 123 then
        skip
        let a ← byName
        colon
        starting "unit" fun b =>
          if b = 110 then some do
            skip
            word nullRest
          else none
        match ← peekSolid with
        | none => failHere .endInObject
        | some b =>
          if b = 125 then
            skip
            return a
          else failHere .expectedValue
      else failNext .expectedValue
  write a := writeText (name a)

/-! ### Whole texts -/

/-- Reads a whole text. -/
def decode {α : Type} (c : Codec α) (octets : List UInt8) : Except Failure α :=
  let whole : Reader α := do
    let a ← c.read
    match ← peekSolid with
    | none => return a
    | some _ => failNext .trailingCharacters
  match whole ⟨octets, ⟨1, 0⟩⟩ with
  | .ok a _ => .ok a
  | .error f _ => .error f

/-- The written form. -/
def encode {α : Type} (c : Codec α) (a : α) : List UInt8 :=
  c.write a

/-- The written form as a text. -/
def encodeText {α : Type} (c : Codec α) (a : α) : String :=
  Text.Utf8.lossy (c.encode a).toByteArray

end Codec

/-! ### Records -/

/-- A field of a record `α` with drafts `δ`. -/
structure Field (δ α : Type) where
  name : String
  isSet : δ → Bool
  read : δ → Reader δ
  write : α → List UInt8

/-- A field with a codec; `put` enters it into a draft. -/
def Field.of {δ α β : Type} (name : String) (c : Codec β) (draft : δ → Option β)
    (put : δ → β → δ) (value : α → β) : Field δ α where
  name
  isSet d := (draft d).isSome
  read d := do
    let b ← c.read
    return put d b
  write a := c.write (value a)

/-- A record `α` with drafts `δ`. -/
structure Schema (δ α : Type) where
  /-- What a value of another type should have been. -/
  expected : String
  fields : List (Field δ α)
  start : δ
  /-- What a list that is too short should have been, if it may not be short. -/
  full : Option String
  /-- Fields that are not known are refused. -/
  strict : Bool := false
  /-- The record of a draft, or what is wrong with it. -/
  finish : δ → Except Mismatch α

namespace Schema

open Reader

variable {δ α : Type}

/-- Reads keys and values until the object ends. -/
def members (r : Schema δ α) : Nat → Bool → δ → Reader δ
  | 0, _, d => return d
  | fuel + 1, first, d => do
    if !(← hasKey first) then return d
    else
      skip
      let key ← text
      match r.fields.find? fun f => f.name = key with
      | some f =>
        -- a field may be given once only, even with the same value
        if f.isSet d then mismatch (.duplicateField key)
        else
          colon
          let d ← f.read d
          members r fuel false d
      | none =>
        -- other keys are refused or skipped, whatever their values are
        if r.strict then mismatch (.unknownField key (r.fields.map (·.name)))
        else
          colon
          skipValue
          members r fuel false d

/-- Reads the fields in their order until the list ends; `count` have been read. -/
def elements (r : Schema δ α) : List (Field δ α) → Nat → δ → Reader δ
  | [], _, d => return d
  | f :: fields, count, d => do
    if ← hasElement (count = 0) then
      let d ← f.read d
      elements r fields (count + 1) d
    else
      match r.full with
      | none => return d
      | some full => mismatch (.wrongLength count full)

/-- The record of a draft. -/
def close (r : Schema δ α) (d : δ) : Reader α :=
  match r.finish d with
  | .ok a => return a
  | .error m => mismatch m

def codec (r : Schema δ α) : Codec α where
  read := starting r.expected fun b =>
    if b = 91 then some do
      skip
      closing listEnd do r.close (← r.elements r.fields 0 r.start)
    else if b = 123 then some do
      skip
      closing objectEnd do r.close (← r.members ((← left) + 1) true r.start)
    else none
  write a :=
    123 :: Codec.commas (r.fields.map fun f => Codec.writeText f.name ++ 58 :: f.write a) ++ [125]

end Schema

end RobotSession.Json
