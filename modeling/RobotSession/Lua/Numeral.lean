import RobotSession.Lua.Value
import RobotSession.Number.Decimal

/-!
# Numerals

How numbers are written and read in scripts. An integer numeral that does not fit
becomes a float; a hexadecimal one wraps. Floats are written with 14 significant
digits, and with `.0` if that leaves no mark of a float.

* `Numeral.read` — the number a text denotes, blanks around it allowed.
* `Numeral.write` — the text of a number.
-/

namespace RobotSession.Lua.Numeral

open RobotSession.Number

/-- The six blank characters of the C locale. -/
def isBlank (b : UInt8) : Bool :=
  b == 32 || (9 ≤ b && b ≤ 13)

def isDigit (b : UInt8) : Bool :=
  48 ≤ b && b ≤ 57

/-- The value of a hexadecimal digit. -/
def hexDigit? (b : UInt8) : Option Nat :=
  if isDigit b then some (b.toNat - 48)
  else if 97 ≤ b && b ≤ 102 then some (b.toNat - 87)
  else if 65 ≤ b && b ≤ 70 then some (b.toNat - 55)
  else none

def isHexDigit (b : UInt8) : Bool :=
  (hexDigit? b).isSome

def decimalValue (ds : List UInt8) : Nat :=
  ds.foldl (fun n d => n * 10 + (d.toNat - 48)) 0

def hexValue (ds : List UInt8) : Nat :=
  ds.foldl (fun n d => n * 16 + (hexDigit? d).getD 0) 0

/-- Drops the blanks at both ends. -/
def trim (bs : List UInt8) : List UInt8 :=
  ((bs.dropWhile isBlank).reverse.dropWhile isBlank).reverse

/-- Splits off a sign. -/
def signed : List UInt8 → Bool × List UInt8
  | 45 :: rest => (true, rest)
  | 43 :: rest => (false, rest)
  | bs => (false, bs)

/-- The digits of a hexadecimal numeral after its `0x`. -/
def hexBody? : List UInt8 → Option (List UInt8)
  | 48 :: 120 :: rest => some rest
  | 48 :: 88 :: rest => some rest
  | _ => none

/-- The integer a text denotes, without blanks around it. -/
def readInt (bs : List UInt8) : Option Int64 :=
  let (negative, body) := signed bs
  let magnitude : Option Nat :=
    match hexBody? body with
    | some ds => if !ds.isEmpty && ds.all isHexDigit then some (hexValue ds % UInt64.size) else none
    | none =>
      if !body.isEmpty && body.all isDigit then
        let n := decimalValue body
        if n < 0x8000000000000000 || (negative && n = 0x8000000000000000) then some n else none
      else none
  magnitude.map fun n => Int64.ofInt (if negative then -(n : Int) else n)

/-- Digits, a point with more digits, and what follows them. -/
def mantissa (isDigit : UInt8 → Bool) (bs : List UInt8) :
    List UInt8 × List UInt8 × List UInt8 :=
  let whole := bs.takeWhile isDigit
  match bs.dropWhile isDigit with
  | 46 :: rest => (whole, rest.takeWhile isDigit, rest.dropWhile isDigit)
  | rest => (whole, [], rest)

/-- An exponent with the given mark that takes up the whole text; absent it is 0. -/
def exponent? (lower upper : UInt8) : List UInt8 → Option Int
  | [] => some 0
  | mark :: rest =>
    if mark == lower || mark == upper then
      let (negative, ds) := signed rest
      if !ds.isEmpty && ds.all isDigit then
        let n : Int := decimalValue ds
        some (if negative then -n else n)
      else none
    else none

/-- The double nearest to `n · 10 ^ e`. -/
def ofDecimal (n : Nat) (e : Int) : Float :=
  let order := e + (Decimal.digits n).length
  if n = 0 || order < -400 then 0.0
  else if 400 < order then 1.0 / 0.0
  else if 0 ≤ e then Float.ofScientific n false e.toNat
  else Float.ofScientific n true (-e).toNat

/-- The float a text denotes, without blanks around it. -/
def readFloat (bs : List UInt8) : Option Float :=
  let (negative, body) := signed bs
  let magnitude : Option Float :=
    match hexBody? body with
    | some ds =>
      let (whole, fraction, rest) := mantissa isHexDigit ds
      if whole.isEmpty && fraction.isEmpty then none
      else
        (exponent? 112 80 rest).map fun e =>
          -- cut, so that a long exponent does not build an enormous power
          let e := max (-100000) (min 100000 e)
          Binary64.nearest false (hexValue (whole ++ fraction)) (e - 4 * fraction.length)
    | none =>
      let (whole, fraction, rest) := mantissa isDigit body
      if whole.isEmpty && fraction.isEmpty then none
      else
        (exponent? 101 69 rest).map fun e =>
          ofDecimal (decimalValue (whole ++ fraction)) (e - fraction.length)
  magnitude.map fun x => if negative then -x else x

/-- The number a text denotes. -/
def read (bs : List UInt8) : Option Value :=
  let bs := trim bs
  match readInt bs with
  | some i => some (.int i)
  | none => (readFloat bs).map .float

/-- The number a string value denotes. -/
def ofString (s : ByteArray) : Option Value :=
  read s.toList

/-- Text of a float with the given significant digits, as C's `%g` writes it. -/
def general (count : Nat) (x : Float) : String :=
  match Binary64.ofFloat x with
  | .nan => "-nan"
  | .infinite negative => if negative then "-inf" else "inf"
  | .finite negative m e =>
    let (num, den) := Decimal.ratio m e
    (if negative then "-" else "") ++ String.ofList (Decimal.generalText num den count false)

/-- The text of a float. -/
def ofFloat (x : Float) : String :=
  let s := general 14 x
  if s.toList.all fun c => c.isDigit || c == '-' then s ++ ".0" else s

/-- The text of an integer. -/
def ofInt (i : Int64) : String :=
  let n := i.toInt
  String.ofList ((if n < 0 then ['-'] else []) ++ Decimal.digits n.natAbs)

/-- The text of a number. -/
def write : Value → Option String
  | .int i => some (ofInt i)
  | .float x => some (ofFloat x)
  | _ => none

end RobotSession.Lua.Numeral
