import RobotSession.Lua.Access

/-!
# Streams

Files can be read, but not changed. Standard input is at its end.

* `Streams.numeral` — what is read where a number is wanted.
* `Streams.readFrom` — what is read of a file, format by format.
* `Streams.opened` — goes on once a file has been looked for.
-/

namespace RobotSession.Lua.Library.Streams

open Text (octets)

/-- How an operation says that it has failed. -/
def failure (message : String) (number : Int64) : List Value :=
  [.nil, .text message, .int number]

def badDescriptor : List Value :=
  failure "Bad file descriptor" 9

/-- Why a file cannot be changed. -/
def denied : String := "Permission denied"

/-- A file could not be had. -/
def refusal (path : ByteArray) (reason : String) (number : Int64) : List Value :=
  [.nil, .str (path ++ octets s!": {reason}"), .int number]

/-- The stream that a value is. -/
def stream? (h : Heap) : Value → Option (Nat × Stream)
  | .object id =>
    match h.object id with
    | .stream s => some (id, s)
    | _ => none
  | _ => none

/-- The stream among the arguments, which has to be open. -/
def argument (args : List Value) : Body (Nat × Stream) := do
  match stream? (← get) (Args.nth args 1) with
  | some (_, .closed) => Args.located "attempt to use a closed file"
  | some s => return s
  | none => Args.typeFault args 1 "FILE*"

/-- The stream in the place of one that is not named, which has to be open. -/
def standard (id : Nat) (name : String) : Body (Nat × Stream) := do
  match stream? (← get) (.object id) with
  | some (_, .closed) => Args.located s!"default {name} file is closed"
  | some s => return s
  | none => return (id, .closed)

/-! ### Reading -/

/-- Splits off an octet that is one of these. -/
def one (cs : List UInt8) : List UInt8 → List UInt8 × List UInt8
  | [] => ([], [])
  | c :: rest => if cs.contains c then ([c], rest) else ([], c :: rest)

/-- The octets at the front that may be a number, or the beginning of one. -/
def numeral (bs : List UInt8) : List UInt8 :=
  let (sign, bs) := one [45, 43] bs
  let (zero, bs) := one [48] bs
  let (mark, bs) := if zero.isEmpty then ([], bs) else one [120, 88] bs
  let isDigit := if mark.isEmpty then Numeral.isDigit else Numeral.isHexDigit
  let (whole, bs) := bs.span isDigit
  let (point, bs) := one [46] bs
  let (fraction, bs) := if point.isEmpty then ([], bs) else bs.span isDigit
  let hasDigits := !whole.isEmpty || !fraction.isEmpty || (!zero.isEmpty && mark.isEmpty)
  let (e, bs) := if hasDigits then one (if mark.isEmpty then [101, 69] else [112, 80]) bs else ([], bs)
  let (sign', bs) := if e.isEmpty then ([], bs) else one [45, 43] bs
  let digits := if e.isEmpty then [] else bs.takeWhile Numeral.isDigit
  sign ++ zero ++ mark ++ whole ++ point ++ fraction ++ e ++ sign' ++ digits

/-- The longest number that is read. -/
def longestNumeral : Nat := 200

/-- What is to be read. -/
inductive Format
  | number
  | line (keepsEnd : Bool)
  | all
  | count (n : Nat)

/-- The format at a position of the arguments. -/
def formatAt (args : List Value) (i : Nat) : Body Format := do
  let counted : Body Format := do
    let n := (← Args.int args i).toInt
    if n < 0 then Args.located "buffer too large"
    return .count n.toNat
  match Args.nth args i with
  | .int _ => counted
  | .float _ => counted
  | _ =>
    let letters :=
      match (← Args.text args i).toList with
      | 42 :: rest => rest
      | bs => bs
    match letters.head?.map fun b => Char.ofNat b.toNat with
    | some 'n' => return .number
    | some 'l' => return .line false
    | some 'L' => return .line true
    | some 'a' => return .all
    | _ => Args.fault i "invalid format"

/-- Reads in a format: the value, if there is one, and the position behind. -/
def readOne (content : ByteArray) (position : Nat) : Format → Option Value × Nat
  | .all => (some (.str (content.extract position content.size)), max position content.size)
  | .count 0 => (if position < content.size then some (.text "") else none, position)
  | .count n =>
    let last := min (position + n) content.size
    (if position < last then some (.str (content.extract position last)) else none, max position last)
  | .line keepsEnd =>
    let line := (content.extract position content.size).toList.takeWhile (· ≠ 10)
    let last := position + line.length
    if last < content.size then
      (some (.str (content.extract position (if keepsEnd then last + 1 else last))), last + 1)
    else (if line.isEmpty then none else some (.str (content.extract position last)), last)
  | .number =>
    let bs := (content.extract position content.size).toList
    let blanks := bs.takeWhile Numeral.isBlank
    let digits := numeral (bs.drop blanks.length)
    let first := position + blanks.length
    -- nothing is a number that is too long, but its beginning has been read
    if longestNumeral < digits.length then (none, first + longestNumeral)
    else (Numeral.read digits, first + digits.length)

/-- Reads in the formats that the arguments name, until one fails. -/
def readFrom (content : ByteArray) (args : List Value) : Nat → Nat → Nat → Body (List Value × Nat)
  | 0, _, position => return ([], position)
  | fuel + 1, i, position => do
    let (value, position) := readOne content position (← formatAt args i)
    match value with
    | none => return ([.nil], position)
    | some v =>
      let (values, position) ← readFrom content args fuel (i + 1) position
      return (v :: values, position)

/-- Reads from a stream in the formats from a position of the arguments on. Without one, a line is
read. -/
def read (id : Nat) (s : Stream) (args : List Value) (first : Nat) : Body (List Value) := do
  let (args, first) := if args.length < first then ([.text "l"], 1) else (args, first)
  let count := args.length + 1 - first
  match s with
  | .reader content position =>
    let (values, position) ← readFrom content args count first position
    Work.setObject id (.stream (.reader content position))
    return values
  | .input => return (← readFrom ByteArray.empty args count first 0).1
  | _ =>
    let _ ← formatAt args first
    return badDescriptor

/-- A function that reads on. -/
def lines (id : Nat) (closes : Bool) (formats : List Value) : Body Value := do
  if 250 < formats.length then Args.fault 252 "too many arguments"
  Work.newNative .fileStep (.object id :: .bool closes :: formats)

/-- Reads on in a loop. At its end, a file that was opened for the loop is closed. -/
def step (captured : List Value) : Body Reply := do
  match captured with
  | .object id :: closes :: formats =>
    match (← get).object id with
    | .stream .closed => Args.located "file is already closed"
    | .stream s =>
      let values ← read id s (.nil :: formats) 2
      match values with
      | v :: rest =>
        if v.truthy then return .done values
        if let .str message :: _ := rest then throw (.located message)
        if closes.truthy then Work.setObject id (.stream .closed)
        return .done []
      | [] => return .done []
    | _ => return .done []
  | _ => return .done []

/-! ### Opening and closing -/

/-- A file that is read from its beginning. -/
def openFile (content : ByteArray) : Body Nat := do
  let v ← Work.newObject (.stream (.reader content 0))
  match v with
  | .object id => return id
  | _ => return 0

/-- Goes on once a file has been looked for. -/
def opened (path : ByteArray) (use : FileUse) (content : Except (String × Nat) ByteArray) :
    Body Reply := do
  let cannotOpen (reason : String) : Body Reply :=
    throw (.located (octets "cannot open file '" ++ path ++ octets s!"' ({reason})"))
  match use, content with
  | .reads, .ok content => return .done [.object (← openFile content)]
  | .reads, .error (reason, number) => return .done (refusal path reason (Int64.ofNat number))
  | .changes, .ok _ => return .done (refusal path denied 13)
  | .changes, .error (reason, number) => return .done (refusal path reason (Int64.ofNat number))
  | .input, .ok content => do
    let id ← openFile content
    modify fun h => { h with inputStream := id }
    return .done [.object id]
  | .input, .error (reason, _) => cannotOpen reason
  | .lines formats, .ok content => do
    let id ← openFile content
    -- the file is closed when the loop is left
    return .done [← lines id true formats, .nil, .nil, .object id]
  | .lines _, .error (reason, _) => cannotOpen reason

/-- What `io.open` is asked to do. -/
def openAs (path mode : ByteArray) : Body Reply := do
  let isValid (rest : List UInt8) : Bool :=
    rest.all (· == 98) || (rest.head? == some 43 && rest.tail.all (· == 98))
  match mode.toList with
  | 114 :: rest =>
    if !isValid rest then Args.fault 2 "invalid mode"
    return .ask (.opening path (if rest.head? == some 43 then .changes else .reads))
  | letter :: rest =>
    if (letter ≠ 119 && letter ≠ 97) || !isValid rest then Args.fault 2 "invalid mode"
    return .done (refusal path denied 13)
  | [] => Args.fault 2 "invalid mode"

/-- Closes a stream; a standard one stays open. -/
def close (id : Nat) (s : Stream) : Body Reply := do
  match s with
  | .reader .. =>
    Work.setObject id (.stream .closed)
    return .done [.bool true]
  | _ => return .done [.nil, .text "cannot close standard file"]

/-! ### Writing -/

/-- The octets that are to be written, from a position of the arguments on. -/
def output (args : List Value) (first : Nat) : Body ByteArray :=
  (List.range (args.length + 1 - first)).foldlM (fun acc k => do
    return acc ++ (← Args.text args (first + k))) ByteArray.empty

def write (id : Nat) (s : Stream) (args : List Value) (first : Nat) : Body Reply := do
  let text ← output args first
  match s with
  | .output => return .ask (.writing false text [.object id])
  | .error => return .ask (.writing true text [.object id])
  | _ => return .done badDescriptor

/-! ### The functions -/

def seek (args : List Value) : Body Reply := do
  let (id, s) ← argument args
  let whence ← Args.option args 2 (some "cur") ["set", "cur", "end"]
  let offset := (← Args.intOr args 3 0).toInt
  match s with
  | .reader content position =>
    let start : Nat :=
      match whence with
      | "set" => 0
      | "end" => content.size
      | _ => position
    let position := start + offset
    if position < 0 then return .done (failure "Invalid argument" 22)
    Work.setObject id (.stream (.reader content position.toNat))
    return .done [.int (Int64.ofInt position)]
  | _ => return .done (failure "Illegal seek" 29)

def setvbuf (args : List Value) : Body Reply := do
  let _ ← argument args
  let _ ← Args.option args 2 none ["no", "full", "line"]
  let _ ← Args.intOr args 3 0
  return .done [.bool true]

/-- The functions of `io`, and the methods of files. -/
def call (f : Native) (captured args : List Value) : Body Reply := do
  match f with
  | .ioWrite => do
    let (id, s) ← standard (← get).outputStream "output"
    write id s args 1
  | .ioRead => do
    let (id, s) ← standard (← get).inputStream "input"
    return .done (← read id s args 1)
  | .ioLines =>
    if Args.isNone args 1 then do
      let (id, _) ← standard (← get).inputStream "input"
      return .done [← lines id false (args.drop 1)]
    else return .ask (.opening (← Args.text args 1) (.lines (args.drop 1)))
  | .ioOpen => openAs (← Args.text args 1) (← Args.textOr args 2 (octets "r"))
  | .ioClose =>
    if Args.isAbsent args 1 then do
      let (id, s) ← standard (← get).outputStream "output"
      close id s
    else do
      let (id, s) ← argument args
      close id s
  | .ioInput =>
    if Args.isNone args 1 then return .done [.object (← get).inputStream]
    else
      match Args.asText? (Args.nth args 1) with
      | some path => return .ask (.opening path .input)
      | none => do
        let (id, _) ← argument args
        modify fun h => { h with inputStream := id }
        return .done [.object id]
  | .ioOutput =>
    if Args.isNone args 1 then return .done [.object (← get).outputStream]
    else
      match Args.asText? (Args.nth args 1) with
      | some path =>
        throw (.located (octets "cannot open file '" ++ path ++ octets s!"' ({denied})"))
      | none => do
        let (id, _) ← argument args
        modify fun h => { h with outputStream := id }
        return .done [.object id]
  | .ioFlush => do
    let _ ← standard (← get).outputStream "output"
    return .done [.bool true]
  | .ioPopen => Args.located "'popen' not supported"
  | .ioTmpfile => return .done (failure denied 13)
  | .ioType => do
    let v ← Args.any args 1
    return .done [match stream? (← get) v with
      | some (_, .closed) => .text "closed file"
      | some _ => .text "file"
      | none => .nil]
  | .fileWrite => do
    let (id, s) ← argument args
    write id s args 2
  | .fileRead => do
    let (id, s) ← argument args
    return .done (← read id s args 2)
  | .fileLines => do
    let (id, _) ← argument args
    return .done [← lines id false (args.drop 1)]
  | .fileClose => do
    let (id, s) ← argument args
    close id s
  | .fileFlush => do
    let _ ← argument args
    return .done [.bool true]
  | .fileSeek => seek args
  | .fileSetvbuf => setvbuf args
  | .fileLeft =>
    match stream? (← get) (Args.nth args 1) with
    | some (id, .reader ..) => do
      Work.setObject id (.stream .closed)
      return .done []
    | some _ => return .done []
    | none => Args.typeFault args 1 "FILE*"
  | .fileText =>
    match stream? (← get) (Args.nth args 1) with
    | some _ => return .done [.str (Access.plainText (← get) (Args.nth args 1))]
    | none => Args.typeFault args 1 "FILE*"
  | _ => step captured

end RobotSession.Lua.Library.Streams
