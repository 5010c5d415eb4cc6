import RobotSession.CommandLine.Refusal
import RobotSession.CommandLine.Similarity
import RobotSession.Text.Utf8

/-!
# Reading a command line

The words of a command line are read one after the other. An option that takes a value has
it in the same word or in the next one. What a word gives is *pending* until the next part
begins or the words end; only then is it settled: it must have its value, not be given
twice, and be readable. The name of a command starts that command, which reads the words
that are left; its parts win over those before it.

* `Request` — what a command line asks for.
* `Scan` — a command with the parts that were given so far.
* `Scan.read` — one word more.
* `Request.ofWords` — the request of a whole command line.
-/

namespace RobotSession.CommandLine

/-- How a robot program is run. -/
inductive Mode
  /-- Beside the main loop of a simulated host. -/
  | simulated
  /-- Without a main loop. -/
  | headless
  deriving DecidableEq, Inhabited

/-- What a command line asks for. -/
structure Request where
  showsVersion : Bool := false
  config : Option ByteArray := none
  joinTimeoutMs : Option UInt64 := none
  /-- The robot program to be run, and how. -/
  program : Option (Mode × ByteArray) := none
  deriving DecidableEq, Inhabited

/-- Why a command line leads to no request. -/
inductive Stop
  /-- The help for a command was asked for. -/
  | help (c : Command)
  | refused (r : Refusal)
  deriving DecidableEq

/-! ### Words -/

/-- The octets of a word. -/
abbrev Octets := List UInt8

/-- Octets as messages show them. -/
def Octets.shown (o : Octets) : String :=
  Text.Utf8.lossy (ByteArray.mk o.toArray)

/-- What a word looks like. -/
inductive Shape
  /-- Two dashes: no options follow. -/
  | dashes
  | long (name : Octets) (value : Option Octets)
  | short (letters : Octets)
  | plain
  deriving DecidableEq

/-- Cuts octets at the first `=`. -/
def cutAtEquals (o : Octets) : Octets × Option Octets :=
  match o.dropWhile (· ≠ 61) with
  | [] => (o, none)
  | _ :: value => (o.takeWhile (· ≠ 61), some value)

def Shape.of : Octets → Shape
  | [45, 45] => .dashes
  | 45 :: 45 :: rest => .long (cutAtEquals rest).1 (cutAtEquals rest).2
  | 45 :: b :: rest => .short (b :: rest)
  | _ => .plain

/-- The value in the word of a letter, if there is one. -/
def attached : Octets → Option Octets
  | [] => none
  | 61 :: value => some value
  | value => some value

/-! ### Numbers -/

/-- Reads digits on from a value. -/
def readDigits (value : Nat) : List Char → Except NumberFault Nat
  | [] => .ok value
  | c :: rest =>
    if c.isDigit then
      let value := value * 10 + (c.toNat - 48)
      if UInt64.size ≤ value then .error .tooLarge else readDigits value rest
    else .error .notDigit

/-- Reads a number of 64 bits; a plus may stand in front. -/
def readNumber : List Char → Except NumberFault Nat
  | [] => .error .empty
  | '+' :: c :: rest => readDigits 0 (c :: rest)
  | cs => readDigits 0 cs

/-! ### Parts of a command -/

/-- A command with the parts that were given so far. -/
structure Scan where
  command : Command
  /-- What has been settled, in order. -/
  given : List Part := []
  pending : Option (Part × Option Octets) := none
  /-- Two dashes have been passed. -/
  isPlain : Bool := false
  request : Request := {}

namespace Scan

def refuse {α : Type} (s : Scan) (fault : Fault) (usage : Usage) (tips : List Tip := []) :
    Except Stop α :=
  .error (.refused { command := s.command, fault, tips, usage })

/-- Enters a value into the request. -/
def enter (s : Scan) (p : Part) (value : Octets) : Except Stop Request :=
  let path := ByteArray.mk value.toArray
  match p with
  | .flag .joinTimeout =>
    match Text.Utf8.decode? path with
    -- a number has to be a text, while paths are taken as they are
    | none => s.refuse .notText .full
    | some text =>
      match readNumber text.toList with
      | .ok n => .ok { s.request with joinTimeoutMs := some (UInt64.ofNat n) }
      | .error f => s.refuse (.notNumber p text f) .hidden
  | .flag .config =>
    if value.isEmpty then s.refuse (.missingValue p) .hidden
    else .ok { s.request with config := some path }
  | .script =>
    if value.isEmpty then s.refuse (.missingValue p) .hidden
    else
      -- the argument of the other command is the script as well, but beside a main loop
      let mode : Mode := if s.command = .run then .headless else .simulated
      .ok { s.request with program := some (mode, path) }
  | .flag .version => .ok { s.request with showsVersion := true }
  | .flag .help => .error (.help s.command)

/-- Settles a part. After a fault the scan tells which parts had been given nevertheless. -/
def give (s : Scan) (p : Part) (value : Octets) : Option Stop × Scan :=
  if s.given.contains p then (some (.refused { command := s.command, fault := .repeated p, usage := .full }),
    { s with given := s.given.erase p })
  else
    let s := { s with given := s.given ++ [p] }
    match s.enter p value with
    | .ok request => (none, { s with request })
    | .error stop => (some stop, s)

/-- Settles the pending part. -/
def settle (s : Scan) : Option Stop × Scan :=
  match s.pending with
  | none => (none, s)
  | some (p, value) =>
    let s := { s with pending := none }
    match value with
    | some value => s.give p value
    | none => (some (.refused { command := s.command, fault := .missingValue p, usage := .hidden }), s)

/-- The scan, unless it has to stop. -/
def orStop : Option Stop × Scan → Except Stop Scan
  | (none, s) => .ok s
  | (some stop, _) => .error stop

/-- Begins with a part of which the value may still be to come. -/
def begin_ (s : Scan) (p : Part) (value : Option Octets) : Except Stop Scan := do
  let s ← orStop s.settle
  .ok { s with pending := some (p, value) }

/-- Settles the pending part and then one more. -/
def settleWith (s : Scan) (p : Part) (value : Octets) : Except Stop Scan := do
  let s ← orStop s.settle
  orStop (s.give p value)

/-- Reads an option; its value may be in the word. -/
def option (s : Scan) (f : Flag) (value : Option Octets) : Except Stop Scan :=
  match f.takesValue, value with
  | true, none => s.begin_ (.flag f) none
  | true, some value => s.settleWith (.flag f) value
  | false, none => s.settleWith (.flag f) []
  | false, some value =>
    s.refuse (.needlessValue f value.shown) (.parts (s.given.filter (· ≠ .script) ++ [.flag f]))

/-- A word with dashes that might have been meant as a path. -/
def asValue (s : Scan) (word : String) : List Tip :=
  if s.command.needsScript then [.asValue word] else []

/-- Refuses an option that is not known. -/
def unknownLong (s : Scan) (name : String) : Except Stop Scan :=
  let (_, s) := s.settle
  let word := "--" ++ name
  let similar := (similarWords name (s.command.flags.map Flag.long)).getLast?
  match s.command.flags.find? fun f => some f.long == similar with
  | some f =>
    s.refuse (.unexpected word) (.parts (s.given ++ [.flag f])) [.similarFlag f]
  | none => s.refuse (.unexpected word) (.parts s.given) (s.asValue word)

/-- Reads an option by its name. -/
def long (s : Scan) (name : Octets) (value : Option Octets) : Except Stop Scan :=
  match s.command.flags.find? fun f => f.long.toUTF8.toList == name with
  | some f => s.option f value
  | none => s.unknownLong name.shown

/-- Refuses a letter that is not known. -/
def unknownShort (s : Scan) (letters : Octets) : Except Stop Scan :=
  let word := "-" ++ (match letters with
    | [] => ""
    | b :: rest =>
      match Text.Utf8.piece b rest with
      | .char c _ => String.singleton c
      | _ => letters.shown)
  s.refuse (.unexpected word) .full (s.asValue word)

/-- Reads options by their letters. -/
def short (s : Scan) : Octets → Except Stop Scan
  | [] => .ok s
  | b :: rest =>
    match s.command.flags.find? fun f => f.short?.map (·.toUInt8) == some b with
    | none => s.unknownShort (b :: rest)
    | some f =>
      if f.takesValue then s.option f (attached rest)
      else do (← s.option f none).short rest

/-- Refuses a word for which there is no place. -/
def unplaced (s : Scan) (word : Octets) : Except Stop Scan :=
  let names := s.command.subcommands.map Command.name
  let shown := word.shown
  if s.isPlain && names.contains shown then
    s.refuse (.unexpected shown) .full [.withoutDashes shown]
  else if names.isEmpty then s.refuse (.unexpected shown) .full
  else
    match similarWords shown names with
    | [] => s.refuse (.unknownCommand shown) .full
    | similar => s.refuse (.unknownCommand shown) .full [.similarCommands similar]

/-- Reads a word that is no option. -/
def plain (s : Scan) (word : Octets) : Except Stop Scan :=
  let isTaken := s.given.contains .script || (s.pending.any fun (p, _) => p = .script)
  if s.command.needsScript && !isTaken then s.begin_ .script (some word)
  else s.unplaced word

/-- The option that waits for a value in the next word. -/
def awaits? (s : Scan) : Option Part :=
  match s.pending with
  | some (p, none) => if s.isPlain then none else some p
  | _ => none

/-- Reads a word. -/
def read (s : Scan) (word : Octets) : Except Stop Scan :=
  if s.isPlain then s.plain word
  else
    match Shape.of word with
    | .dashes => .ok { s with isPlain := true }
    | .long name value => s.long name value
    | .short letters => s.short letters
    | .plain =>
      match s.awaits? with
      | some p => .ok { s with pending := some (p, some word) }
      | none => s.plain word

/-- The command that a word starts. -/
def starts? (s : Scan) (word : Octets) : Option Command :=
  if s.isPlain || s.awaits?.isSome then none
  else s.command.subcommands.find? fun c => c.name.toUTF8.toList == word

/-- Reads words until they end or one starts a command, which has the words that are left. -/
def readAll (s : Scan) : List Octets → Except Stop (Scan × Option (Command × List Octets))
  | [] => .ok (s, none)
  | word :: rest =>
    match s.starts? word with
    | some c => .ok (s, some (c, rest))
    | none => do (← s.read word).readAll rest

/-- Ends a command. -/
def finish (s : Scan) : Except Stop Request := do
  let s ← orStop s.settle
  if s.command.needsScript && s.request.program.isNone then
    s.refuse .missingScript (.parts (s.given ++ [.script]))
  else .ok s.request

end Scan

/-! ### Command lines -/

/-- The help that is asked for by the names of commands. -/
def explain (c : Command) : List Octets → Stop
  | [] => .help c
  | word :: rest =>
    match c.subcommands.find? fun d => d.name.toUTF8.toList == word with
    | some d => explain d rest
    | none => .refused { command := c, fault := .unknownCommand word.shown, usage := .full }

namespace Request

/-- A request with what a command within it asks for. -/
def within (outer inner : Request) : Request :=
  { showsVersion := outer.showsVersion || inner.showsVersion
    config := inner.config <|> outer.config
    joinTimeoutMs := inner.joinTimeoutMs <|> outer.joinTimeoutMs
    program := inner.program <|> outer.program }

/-- The request of a command line. The parts of a command are settled before those that
stand in front of it. -/
def ofWords (words : List ByteArray) : Except Stop Request := do
  let root : Scan := { command := .root }
  match ← root.readAll (words.map ByteArray.toList) with
  | (root, none) => root.finish
  | (_, some (.help, rest)) => .error (explain .root rest)
  | (root, some (c, rest)) =>
    let command : Scan := { command := c }
    let inner ← (← command.readAll rest).1.finish
    return (← root.finish).within inner

end Request

end RobotSession.CommandLine
