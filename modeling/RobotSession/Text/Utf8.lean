/-!
# Octets as text

Files, script strings and command line arguments are octet sequences; messages
are text. This module reads octets as UTF-8 in the three ways the program needs:

* `Utf8.check` names the first fault of a sequence, if there is one, by the index
  at which the well-formed part ends and the length of the faulty part;
* `Utf8.decode?` gives the text of a well-formed sequence;
* `Utf8.lossy` gives a text for every sequence, with one U+FFFD in the place of
  each maximal faulty part.

Faults are found by `Utf8.split`, which cuts a sequence into characters and faulty
parts.
-/

namespace RobotSession.Text

/-- Octet sequences are the same if their octets are. -/
instance decidableEqOctets : DecidableEq ByteArray := ByteArray.instDecidableEq

/-- The octets of a text. -/
abbrev octets (s : String) : ByteArray := s.toUTF8

namespace Utf8

/-- What stands at the front of an octet sequence. -/
inductive Piece
  /-- A character that takes `size` octets. -/
  | char (c : Char) (size : Nat)
  /-- A part of `size` octets that no continuation makes well-formed. -/
  | faulty (size : Nat)
  /-- The sequence ends `size` octets into a character. -/
  | cut (size : Nat)
  deriving DecidableEq

/-- Whether an octet continues a character: its two top bits are `10`. -/
def isContinuation (b : UInt8) : Bool :=
  0x80 ≤ b && b ≤ 0xBF

/-- Whether `second` may follow the leading octet `first`. The ranges leave out
overlong forms, surrogates and values above U+10FFFF. -/
def allowsSecond (first second : UInt8) : Bool :=
  if first == 0xE0 then 0xA0 ≤ second && second ≤ 0xBF
  else if first == 0xED then 0x80 ≤ second && second ≤ 0x9F
  else if first == 0xF0 then 0x90 ≤ second && second ≤ 0xBF
  else if first == 0xF4 then 0x80 ≤ second && second ≤ 0x8F
  else isContinuation second

/-- The value of the six payload bits of a continuation octet. -/
def payload (b : UInt8) : Nat :=
  b.toNat % 64

/-- The piece that starts with the leading octet `first`. -/
def piece (first : UInt8) (rest : List UInt8) : Piece :=
  if first < 0x80 then .char (Char.ofNat first.toNat) 1
  -- a continuation out of place, or two octets for a character of one
  else if first < 0xC2 then .faulty 1
  else if first < 0xE0 then
    match rest with
    | [] => .cut 1
    | b :: _ =>
      if isContinuation b then .char (Char.ofNat (first.toNat % 32 * 64 + payload b)) 2
      else .faulty 1
  else if first < 0xF0 then
    match rest with
    | [] => .cut 1
    | b :: rest =>
      -- the second octet shows whether the sequence is too long or stands for a surrogate
      if allowsSecond first b then
        match rest with
        | [] => .cut 2
        | c :: _ =>
          if isContinuation c then
            .char (Char.ofNat (first.toNat % 16 * 4096 + payload b * 64 + payload c)) 3
          else .faulty 2
      else .faulty 1
  else if first < 0xF5 then
    match rest with
    | [] => .cut 1
    | b :: rest =>
      if allowsSecond first b then
        match rest with
        | [] => .cut 2
        | c :: rest =>
          if isContinuation c then
            match rest with
            | [] => .cut 3
            | d :: _ =>
              if isContinuation d then
                .char (Char.ofNat (first.toNat % 8 * 262144 + payload b * 4096
                  + payload c * 64 + payload d)) 4
              else .faulty 3
          else .faulty 2
      else .faulty 1
  else .faulty 1

/-- Number of octets a piece takes. -/
def Piece.size : Piece → Nat
  | .char _ n => n
  | .faulty n => n
  | .cut n => n

/-- Splits a sequence into pieces; `fuel` bounds their number. -/
def pieces : Nat → List UInt8 → List Piece
  | 0, _ => []
  | _, [] => []
  | fuel + 1, b :: rest =>
    let p := piece b rest
    p :: pieces fuel (rest.drop (p.size - 1))

/-- The first fault of an octet sequence. -/
structure Fault where
  /-- Index of the first octet that is not part of a character. -/
  index : Nat
  /-- Length of the faulty part, or nothing if the sequence just ends too early. -/
  size : Option Nat
  deriving DecidableEq

/-- The text of a fault. -/
def Fault.message (f : Fault) : String :=
  match f.size with
  | some n => s!"invalid utf-8 sequence of {n} bytes from index {f.index}"
  | none => s!"incomplete utf-8 byte sequence from index {f.index}"

/-- The first fault among pieces that start at index `at`. -/
def firstFault (start : Nat) : List Piece → Option Fault
  | [] => none
  | .char _ n :: rest => firstFault (start + n) rest
  | .faulty n :: _ => some ⟨start, some n⟩
  | .cut _ :: _ => some ⟨start, none⟩

/-- The pieces of a whole sequence. -/
def split (bytes : ByteArray) : List Piece :=
  let list := bytes.toList
  pieces list.length list

/-- The first fault of a sequence. -/
def check (bytes : ByteArray) : Option Fault :=
  firstFault 0 (split bytes)

/-- The character that stands for a piece. -/
def Piece.shown : Piece → Char
  | .char c _ => c
  | _ => '\uFFFD'

/-- The text of a sequence, with U+FFFD for every faulty part. -/
def lossy (bytes : ByteArray) : String :=
  String.ofList ((split bytes).map Piece.shown)

/-- The text of a well-formed sequence, or its first fault. -/
def decode (bytes : ByteArray) : Except Fault String :=
  match String.fromUTF8? bytes with
  | some s => .ok s
  | none => .error ((check bytes).getD ⟨0, none⟩)

/-- The text of a well-formed sequence. -/
def decode? (bytes : ByteArray) : Option String :=
  String.fromUTF8? bytes

/-- The octets of one code point by the UTF-8 scheme extended to 31 bits, as
script escapes write them. -/
def encodeExtended (n : Nat) : List UInt8 :=
  let tail (k : Nat) : UInt8 := UInt8.ofNat (0x80 + n / Nat.pow 64 k % 64)
  if n < 0x80 then [UInt8.ofNat n]
  else if n < 0x800 then [UInt8.ofNat (0xC0 + n / 64), tail 0]
  else if n < 0x10000 then [UInt8.ofNat (0xE0 + n / 4096), tail 1, tail 0]
  else if n < 0x200000 then [UInt8.ofNat (0xF0 + n / 262144), tail 2, tail 1, tail 0]
  else if n < 0x4000000 then
    [UInt8.ofNat (0xF8 + n / 16777216), tail 3, tail 2, tail 1, tail 0]
  else [UInt8.ofNat (0xFC + n / 1073741824), tail 4, tail 3, tail 2, tail 1, tail 0]

end Utf8

end RobotSession.Text
