import RobotSession.Number.Decimal
import RobotSession.Text.Quoted

/-!
# Faults of JSON texts

Why a text is not the JSON form of a value. A `Fault` is either an error of syntax or a
`Mismatch` between what the text says and what the type wants. A `Failure` is a fault with
its place; a mismatch gets its place from the reader that ends with it.

* `Unexpected.describe` — how a value that was not wanted shows in a message.
* `Fault.message`, `Failure.message` — the texts.
-/

namespace RobotSession.Json

/-- A value that was not wanted, as far as a message shows it. -/
inductive Unexpected
  | null
  | boolean (b : Bool)
  | integer (i : Int)
  | float (x : Float)
  | text (s : String)
  | list
  | object

/-- The text of a double in messages: the shortest digits that read back. From ten to the
sixteenth upwards and below ten to the minus fifth it has an exponent. -/
def floatText (x : Float) : String :=
  let sign (negative : Bool) : String := if negative then "-" else ""
  match Number.Binary64.ofFloat x with
  | .nan => "NaN"
  | .infinite negative => sign negative ++ "inf"
  | .finite negative 0 _ => sign negative ++ "0.0"
  | .finite negative m e =>
    -- the shortest digits that are read back as the same number
    let (d, place) := Number.Decimal.shortest m e
    let digits := Number.Decimal.digits d
    let first : Int := place + digits.length - 1
    let text : List Char :=
      -- very large and very small numbers are written with an exponent
      if -5 ≤ first ∧ first ≤ 15 then
        let cs := Number.Decimal.positional d place
        -- a whole number is still told from an integer
        if cs.contains '.' then cs else cs ++ ['.', '0']
      else
        let (head, tail) := (digits.take 1, Number.Decimal.trimFraction ('.' :: digits.drop 1))
        let sign := if first < 0 then '-' else '+'
        head ++ tail ++ ['e', sign] ++ Number.Decimal.digits first.natAbs
    sign negative ++ String.ofList text

namespace Unexpected

def describe : Unexpected → String
  | .null => "null"
  | .boolean b => "boolean `" ++ toString b ++ "`"
  | .integer i => "integer `" ++ toString i ++ "`"
  | .float x => "floating point `" ++ floatText x ++ "`"
  | .text s => "string " ++ Text.Quoted.encode s
  | .list => "sequence"
  | .object => "map"

end Unexpected

/-- What a text says does not fit the type. -/
inductive Mismatch
  | wrongType (found : Unexpected) (expected : String)
  | wrongValue (found : Unexpected) (expected : String)
  | wrongLength (length : Nat) (expected : String)
  | unknownVariant (name : String) (known : List String)
  | unknownField (name : String) (known : List String)
  | missingField (name : String)
  | duplicateField (name : String)
  /-- A text or a value that the type does not allow. -/
  | custom (message : String)

namespace Mismatch

def quoted (name : String) : String :=
  "`" ++ name ++ "`"

/-- One of several names. -/
def oneOf : List String → String
  | [] => "there are no variants"
  | [a] => quoted a
  | [a, b] => quoted a ++ " or " ++ quoted b
  | names => "one of " ++ String.intercalate ", " (names.map quoted)

def message : Mismatch → String
  | .wrongType found expected => "invalid type: " ++ found.describe ++ ", expected " ++ expected
  | .wrongValue found expected => "invalid value: " ++ found.describe ++ ", expected " ++ expected
  | .wrongLength length expected =>
    "invalid length " ++ toString length ++ ", expected " ++ expected
  | .unknownVariant name known => "unknown variant " ++ quoted name ++ ", expected " ++ oneOf known
  | .unknownField name known => "unknown field " ++ quoted name ++ ", expected " ++ oneOf known
  | .missingField name => "missing field " ++ quoted name
  | .duplicateField name => "duplicate field " ++ quoted name
  | .custom message => message

end Mismatch

/-- Why a text is not the JSON form of a value. -/
inductive Fault
  | endInList
  | endInObject
  | endInText
  | endInValue
  | expectedColon
  | expectedListEnd
  | expectedObjectEnd
  /-- A word other than `null`, `true` and `false`. -/
  | expectedWord
  | expectedValue
  | invalidEscape
  | invalidNumber
  | outOfRange
  | notText
  | controlCharacter
  | expectedKey
  | loneSurrogate
  | trailingComma
  | trailingCharacters
  | unfinishedSurrogate
  | data (m : Mismatch)

def Fault.message : Fault → String
  | .endInList => "EOF while parsing a list"
  | .endInObject => "EOF while parsing an object"
  | .endInText => "EOF while parsing a string"
  | .endInValue => "EOF while parsing a value"
  | .expectedColon => "expected `:`"
  | .expectedListEnd => "expected `,` or `]`"
  | .expectedObjectEnd => "expected `,` or `\x7d`"
  | .expectedWord => "expected ident"
  | .expectedValue => "expected value"
  | .invalidEscape => "invalid escape"
  | .invalidNumber => "invalid number"
  | .outOfRange => "number out of range"
  | .notText => "invalid unicode code point"
  | .controlCharacter => "control character (\\u0000-\\u001F) found while parsing a string"
  | .expectedKey => "key must be a string"
  | .loneSurrogate => "lone leading surrogate in hex escape"
  | .trailingComma => "trailing comma"
  | .trailingCharacters => "trailing characters"
  | .unfinishedSurrogate => "unexpected end of hex escape"
  | .data m => m.message

/-- A place in a text: its line, from 1 on, and the number of octets before it on the line. -/
structure Place where
  line : Nat
  column : Nat
  deriving DecidableEq, Inhabited

/-- A fault, with its place if it has one yet. -/
structure Failure where
  fault : Fault
  place : Option Place

def Failure.message (f : Failure) : String :=
  match f.place with
  | none => f.fault.message
  | some p =>
    f.fault.message ++ " at line " ++ toString p.line ++ " column " ++ toString p.column

end RobotSession.Json
