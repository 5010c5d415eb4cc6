import RobotSession.Lua.Numeral

/-!
# Formatted text

The directives of `string.format`: flags, a width, a precision and a conversion
letter.

* `Directive.parse` — cuts a directive off a template.
* `Directive.int`, `Directive.float`, `Directive.text` — the text of an argument.
-/

namespace RobotSession.Lua

open RobotSession.Number

/-- A directive of a template. -/
structure Directive where
  flags : List UInt8
  width : Nat
  precision : Option Nat
  conversion : UInt8
  /-- The directive as it was written. -/
  raw : List UInt8

namespace Directive

open Numeral

/-- Flags that any conversion takes. -/
def isFlag (b : UInt8) : Bool :=
  b == 45 || b == 43 || b == 32 || b == 35 || b == 48

/-- Cuts off a directive after its `%`. A width or precision of more than two digits
leaves a digit as the conversion, which no conversion is. -/
def parse (bs : List UInt8) : Directive × List UInt8 :=
  let flags := bs.takeWhile isFlag
  let rest := bs.drop flags.length
  -- width and precision have two digits at most; a third one is taken for the conversion
  let width := (rest.take 2).takeWhile isDigit
  let rest := rest.drop width.length
  let (precision, rest) : Option Nat × List UInt8 :=
    match rest with
    | 46 :: more =>
      let ds := (more.take 2).takeWhile isDigit
      (some (decimalValue ds), more.drop ds.length)
    | _ => (none, rest)
  let conversion := rest.headD 0
  let after := rest.drop 1
  ({ flags, width := decimalValue width, precision, conversion
     raw := 37 :: bs.take (bs.length - after.length) }, after)

def has (d : Directive) (flag : Char) : Bool :=
  d.flags.contains flag.toNat.toUInt8

/-- Whether a conversion takes the flags and the precision of the directive. -/
def fits (d : Directive) (flags : String) (precision : Bool) : Bool :=
  d.flags.all (fun f => flags.toUTF8.toList.contains f) && (precision || d.precision.isNone)

/-- Fills up to the width. -/
def pad (d : Directive) (sign body : List Char) (zeros : Bool) : List Char :=
  let missing := d.width - (sign.length + body.length)
  if d.has '-' then sign ++ body ++ List.replicate missing ' '
  else if zeros && d.has '0' then sign ++ List.replicate missing '0' ++ body
  else List.replicate missing ' ' ++ sign ++ body

/-- The sign of a number under the flags. -/
def sign (d : Directive) (negative : Bool) : List Char :=
  if negative then ['-'] else if d.has '+' then ['+'] else if d.has ' ' then [' '] else []

def hexDigits (upper : Bool) (n : Nat) : List Char :=
  (Nat.toDigits 16 n).map fun c => if upper then c.toUpper else c

/-- Digits with the precision as their least number; 0 with precision 0 has none. -/
def withPrecision (d : Directive) (n : Nat) (digits : List Char) : List Char :=
  match d.precision with
  | none => digits
  | some p => if n = 0 ∧ p = 0 then [] else Decimal.padZeros p digits

/-- The text of an integer. -/
def int (d : Directive) (i : Int64) : List Char :=
  let zeros := d.precision.isNone
  match Char.ofNat d.conversion.toNat with
  | 'o' =>
    -- all but the decimal conversions show the 64 bits without a sign
    let n := i.toUInt64.toNat
    let body := d.withPrecision n (Nat.toDigits 8 n)
    d.pad [] (if d.has '#' && body.head? != some '0' then '0' :: body else body) zeros
  | 'x' =>
    let n := i.toUInt64.toNat
    d.pad (if d.has '#' && n != 0 then ['0', 'x'] else [])
      (d.withPrecision n (hexDigits false n)) zeros
  | 'X' =>
    let n := i.toUInt64.toNat
    d.pad (if d.has '#' && n != 0 then ['0', 'X'] else [])
      (d.withPrecision n (hexDigits true n)) zeros
  | 'u' =>
    let n := i.toUInt64.toNat
    d.pad [] (d.withPrecision n (Decimal.digits n)) zeros
  | _ =>
    -- the sign belongs in front of the zeros
    let n := i.toInt
    d.pad (d.sign (n < 0)) (d.withPrecision n.natAbs (Decimal.digits n.natAbs)) zeros

/-- Hexadecimal digits of a fraction of 52 bits, without zeros at the end. -/
def hexFraction (f : Nat) : List Char :=
  let ds := Decimal.padZeros 13 (Nat.toDigits 16 f)
  (ds.reverse.dropWhile (· == '0')).reverse

/-- Text of a positive number in hexadecimal notation. -/
def hexFloat (m : Nat) (e : Int) : List Char :=
  if m = 0 then "0x0p+0".toList
  else
    let width : Int := Nat.log2 m
    let m52 := if width ≤ 52 then m * Nat.pow 2 (52 - width).toNat else m
    let fraction := hexFraction (m52 % 0x10000000000000)
    let k := e + width
    "0x1".toList ++ (if fraction.isEmpty then [] else '.' :: fraction)
      ++ 'p' :: (if k < 0 then '-' else '+') :: Decimal.digits k.natAbs

/-- The text of a float. -/
def float (d : Directive) (x : Float) : List Char :=
  let c := Char.ofNat d.conversion.toNat
  let upper := c.isUpper
  -- a capital letter asks for capital letters in all that it writes
  let fix (cs : List Char) : List Char := if upper then cs.map Char.toUpper else cs
  match Binary64.ofFloat x with
  | .nan => d.pad ['-'] (fix "nan".toList) false
  | .infinite negative => d.pad (d.sign negative) (fix "inf".toList) false
  | .finite negative m e =>
    let (num, den) := Decimal.ratio m e
    let p := d.precision.getD 6
    let alternate := d.has '#'
    let body :=
      match c.toLower with
      | 'e' => Decimal.exponentText num den p alternate
      | 'g' => Decimal.generalText num den p alternate
      | 'a' => hexFloat m e
      | _ => Decimal.fixedText num den p alternate
    d.pad (d.sign negative) (fix body) true

/-- The text of a string argument. -/
def text (d : Directive) (s : ByteArray) : ByteArray :=
  let s := match d.precision with
    | some p => s.extract 0 p
    | none => s
  let blanks := ByteArray.mk (Array.replicate (d.width - s.size) 32)
  if d.has '-' then s ++ blanks else blanks ++ s

/-- A string as a literal that reads back as the same string. -/
def quoted (bs : List UInt8) : List UInt8 :=
  let rec body : List UInt8 → List UInt8
    | [] => []
    | b :: rest =>
      let here : List UInt8 :=
        if b == 34 || b == 92 || b == 10 then [92, b]
        else if b < 32 || b == 127 then
          let ds := Decimal.digits b.toNat
          let ds := if (rest.head?.map isDigit).getD false then Decimal.padZeros 3 ds else ds
          92 :: ds.map fun c => c.toNat.toUInt8
        else [b]
      here ++ body rest
  34 :: body bs ++ [34]

end Directive

end RobotSession.Lua
