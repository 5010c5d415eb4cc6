import RobotSession.Lua.Library.Text

/-!
# Packed values

A layout says how values are laid out in a string: each of its letters stands for an item of
some size, which may be set off to an aligned place. Integers are written in two's complement,
floats as in IEEE 754.

* `Packing.itemAt` — the next item of a layout, with the octets that set it off.
* `Packing.packFrom`, `Packing.unpackFrom` — writing and reading, item by item.
-/

namespace RobotSession.Lua.Library.Packing

/-- What an item stands for. -/
inductive Kind
  | signed | unsigned | single | double
  /-- A string of the size of the item. -/
  | fixed
  /-- A string after its length. -/
  | counted
  /-- A string before an octet 0. -/
  | terminated
  /-- An octet that stands for nothing. -/
  | padding
  /-- Nothing, but set off as another item would be. -/
  | aligned
  /-- Nothing. -/
  | setting
  deriving DecidableEq

/-- What the letters that have been read say of those that follow. -/
structure Settings where
  isLittle : Bool := true
  /-- The largest alignment. -/
  maxAlign : Nat := 1

/-- An item of a layout. -/
structure Item where
  kind : Kind
  size : Nat
  /-- How many octets set it off. -/
  gap : Nat

/-- The largest size of an integer. -/
def maxIntSize : Nat := 16

/-- The largest size of an item. -/
def maxSize : Nat := 2147483647

def numberFrom : Nat → List UInt8 → Nat × List UInt8
  | n, [] => (n, [])
  | n, b :: rest =>
    if Numeral.isDigit b && n ≤ (maxSize - 9) / 10 then numberFrom (n * 10 + (b.toNat - 48)) rest
    else (n, b :: rest)

/-- The number at the front, if there is one. -/
def number? (layout : List UInt8) : Option Nat × List UInt8 :=
  if (layout.head?.map Numeral.isDigit).getD false then
    let (n, rest) := numberFrom 0 layout
    (some n, rest)
  else (none, layout)

/-- The size of an integer. -/
def intSize (default : Nat) (layout : List UInt8) : Body (Nat × List UInt8) :=
  let (n, rest) := number? layout
  let n := n.getD default
  if 0 < n && n ≤ maxIntSize then return (n, rest)
  else Args.located s!"integral size ({n}) out of limits [1,{maxIntSize}]"

/-- An option: its letter and the size that may follow. -/
def option (s : Settings) (letter : UInt8) (rest : List UInt8) :
    Body (Kind × Nat × Settings × List UInt8) := do
  match Char.ofNat letter.toNat with
  | 'b' => return (.signed, 1, s, rest)
  | 'B' => return (.unsigned, 1, s, rest)
  | 'h' => return (.signed, 2, s, rest)
  | 'H' => return (.unsigned, 2, s, rest)
  | 'l' => return (.signed, 8, s, rest)
  | 'L' => return (.unsigned, 8, s, rest)
  | 'j' => return (.signed, 8, s, rest)
  | 'J' => return (.unsigned, 8, s, rest)
  | 'T' => return (.unsigned, 8, s, rest)
  | 'f' => return (.single, 4, s, rest)
  | 'n' => return (.double, 8, s, rest)
  | 'd' => return (.double, 8, s, rest)
  | 'i' =>
    let (size, rest) ← intSize 4 rest
    return (.signed, size, s, rest)
  | 'I' =>
    let (size, rest) ← intSize 4 rest
    return (.unsigned, size, s, rest)
  | 's' =>
    let (size, rest) ← intSize 8 rest
    return (.counted, size, s, rest)
  | 'c' =>
    match number? rest with
    | (some size, rest) => return (.fixed, size, s, rest)
    | (none, _) => Args.located "missing size for format option 'c'"
  | 'z' => return (.terminated, 0, s, rest)
  | 'x' => return (.padding, 1, s, rest)
  | 'X' => return (.aligned, 0, s, rest)
  | ' ' => return (.setting, 0, s, rest)
  | '<' => return (.setting, 0, { s with isLittle := true }, rest)
  | '>' => return (.setting, 0, { s with isLittle := false }, rest)
  | '=' => return (.setting, 0, { s with isLittle := true }, rest)
  | '!' =>
    let (maxAlign, rest) ← intSize 8 rest
    return (.setting, 0, { s with maxAlign }, rest)
  | _ =>
    throw (.located (Text.octets "invalid format option '" ++ ByteArray.mk #[letter] ++ Text.octets "'"))

/-- How many octets set off what is to be aligned, at a position. -/
def gapAt (s : Settings) (position align : Nat) : Body Nat := do
  let align := min align s.maxAlign
  if align ≤ 1 then return 0
  if !align.isPowerOfTwo then Args.fault 1 "format asks for alignment not power of 2"
  return (align - position % align) % align

/-- The next item, at a position. -/
def itemAt (s : Settings) (position : Nat) (letter : UInt8) (rest : List UInt8) :
    Body (Item × Settings × List UInt8) := do
  let (kind, size, s, rest) ← option s letter rest
  match kind, rest with
  | .aligned, [] => Args.fault 1 "invalid next option for option 'X'"
  | .aligned, next :: rest =>
    -- the letter behind says how to align, and stands for nothing else
    let (other, align, s, rest) ← option s next rest
    if other = .fixed || align = 0 then Args.fault 1 "invalid next option for option 'X'"
    return (⟨kind, size, ← gapAt s position align⟩, s, rest)
  | .fixed, rest => return (⟨kind, size, 0⟩, s, rest)
  | _, rest => return (⟨kind, size, ← gapAt s position size⟩, s, rest)

/-! ### Octets -/

/-- So many octets of a number, the lowest one first. -/
def littleOctets : Nat → Nat → List UInt8
  | 0, _ => []
  | size + 1, n => UInt8.ofNat (n % 256) :: littleOctets size (n / 256)

def ofLittleOctets : List UInt8 → Nat
  | [] => 0
  | b :: rest => b.toNat + 256 * ofLittleOctets rest

def write (s : Settings) (size n : Nat) : ByteArray :=
  let bs := littleOctets size n
  ByteArray.mk (if s.isLittle then bs else bs.reverse).toArray

def read (s : Settings) (bs : ByteArray) : Nat :=
  ofLittleOctets (if s.isLittle then bs.toList else bs.toList.reverse)

/-- How many numbers so many octets can tell apart. -/
def capacity (size : Nat) : Nat :=
  Nat.pow 256 size

def zeros (count : Nat) : ByteArray :=
  ByteArray.mk (Array.replicate count 0)

/-- Reads an integer. One that is longer than the integers there are has to be one of them. -/
def readInt (s : Settings) (isSigned : Bool) (bs : ByteArray) : Body Int64 := do
  let size := bs.size
  let n := read s bs
  if size ≤ 8 then
    let isNegative := isSigned && capacity size ≤ 2 * n
    return Int64.ofInt (if isNegative then (n : Int) - capacity size else n)
  else
    let kept := n % capacity 8
    let isNegative := isSigned && capacity 8 ≤ 2 * kept
    if n / capacity 8 ≠ (if isNegative then capacity (size - 8) - 1 else 0) then
      Args.located s!"{size}-byte integer does not fit into Lua Integer"
    return Int64.ofInt kept

/-! ### Packing -/

/-- The octets of the value of an item, and whether the item has a value. -/
def packOne (s : Settings) (item : Item) (args : List Value) (i : Nat) : Body (ByteArray × Bool) := do
  let size := item.size
  match item.kind with
  | .signed =>
    let n := (← Args.int args i).toInt
    if size < 8 && (2 * n < -(capacity size : Int) || capacity size ≤ 2 * n) then
      Args.fault i "integer overflow"
    return (write s size (n % capacity size).toNat, true)
  | .unsigned =>
    let n := (← Args.int args i).toUInt64.toNat
    if size < 8 && capacity size ≤ n then Args.fault i "unsigned overflow"
    return (write s size n, true)
  | .single => return (write s size (← Args.float args i).toFloat32.toBits.toNat, true)
  | .double => return (write s size (← Args.float args i).toBits.toNat, true)
  | .fixed =>
    let text ← Args.text args i
    if size < text.size then Args.fault i "string longer than given size"
    return (text ++ zeros (size - text.size), true)
  | .counted =>
    let text ← Args.text args i
    if size < 8 && capacity size ≤ text.size then
      Args.fault i "string length does not fit in given size"
    return (write s size text.size ++ text, true)
  | .terminated =>
    let text ← Args.text args i
    if text.toList.contains 0 then Args.fault i "string contains zeros"
    return (text.push 0, true)
  | .padding => return (zeros 1, false)
  | .aligned => return (ByteArray.empty, false)
  | .setting => return (ByteArray.empty, false)

/-- Goes on to pack; every item takes a letter at least. -/
def packFrom (args : List Value) : Nat → Settings → List UInt8 → Nat → ByteArray → Body ByteArray
  | 0, _, _, _, acc => return acc
  | fuel + 1, s, layout, i, acc => do
    match layout with
    | [] => return acc
    | letter :: rest =>
      let (item, s, rest) ← itemAt s acc.size letter rest
      let (bs, hasValue) ← packOne s item args i
      packFrom args fuel s rest (if hasValue then i + 1 else i) (acc ++ zeros item.gap ++ bs)

def sizeFrom : Nat → Settings → List UInt8 → Nat → Body Nat
  | 0, _, _, total => return total
  | fuel + 1, s, layout, total => do
    match layout with
    | [] => return total
    | letter :: rest =>
      let (item, s, rest) ← itemAt s total letter rest
      if item.kind = .counted || item.kind = .terminated then Args.fault 1 "variable-length format"
      let total := total + item.gap + item.size
      if maxSize < total then Args.fault 1 "format result too large"
      sizeFrom fuel s rest total

/-- The value of an item, if it has one, and how long the item is. -/
def unpackOne (s : Settings) (item : Item) (text : ByteArray) (position : Nat) :
    Body (Option Value × Nat) := do
  let size := item.size
  let bs := text.extract position (position + size)
  match item.kind with
  | .signed => return (some (.int (← readInt s true bs)), size)
  | .unsigned => return (some (.int (← readInt s false bs)), size)
  | .single => return (some (.float (Float32.ofBits (UInt32.ofNat (read s bs))).toFloat), size)
  | .double => return (some (.float (Float.ofBits (UInt64.ofNat (read s bs)))), size)
  | .fixed => return (some (.str bs), size)
  | .counted =>
    let length := (← readInt s false bs).toUInt64.toNat
    let first := position + size
    if text.size - first < length then Args.fault 2 "data string too short"
    return (some (.str (text.extract first (first + length))), size + length)
  | .terminated =>
    let bs := (text.extract position text.size).toList
    let content := bs.takeWhile (· ≠ 0)
    if content.length = bs.length then Args.fault 2 "unfinished string for format 'z'"
    return (some (.str (ByteArray.mk content.toArray)), content.length + 1)
  | .padding => return (none, size)
  | .aligned => return (none, size)
  | .setting => return (none, size)

/-- Goes on to read values from a position. The last value is the position behind them. -/
def unpackFrom (text : ByteArray) : Nat → Settings → List UInt8 → Nat → List Value → Body (List Value)
  | 0, _, _, position, values => return values ++ [.int (Int64.ofNat (position + 1))]
  | fuel + 1, s, layout, position, values => do
    match layout with
    | [] => return values ++ [.int (Int64.ofNat (position + 1))]
    | letter :: rest =>
      let (item, s, rest) ← itemAt s position letter rest
      if text.size - position < item.gap + item.size then Args.fault 2 "data string too short"
      let (value, length) ← unpackOne s item text (position + item.gap)
      unpackFrom text fuel s rest (position + item.gap + length) (values ++ value.toList)

/-- The letters of a layout, which an octet 0 ends. -/
def letters (args : List Value) : Body (List UInt8) := do
  return (← Args.text args 1).toList.takeWhile (· ≠ 0)

/-- The functions that pack. -/
def call (f : Native) (args : List Value) : Body Reply := do
  let layout ← letters args
  match f with
  | .strPack => return .done [.str (← packFrom args layout.length {} layout 2 ByteArray.empty)]
  | .strPackSize => return .done [.int (Int64.ofNat (← sizeFrom layout.length {} layout 0))]
  | _ =>
    let text ← Args.text args 2
    let first := Strings.startAt (← Args.intOr args 3 1).toInt text.size - 1
    if text.size < first then Args.fault 3 "initial position out of string"
    return .done (← unpackFrom text layout.length {} layout first [])

end RobotSession.Lua.Library.Packing
