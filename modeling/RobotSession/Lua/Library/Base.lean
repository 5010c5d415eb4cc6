import RobotSession.Lua.Access
import RobotSession.Lua.Load

/-!
# The basic functions

`Basics.call` is the work of a basic function; `Basics.describe` is the text of any
value, which may take a call of its `__tostring`.
-/

namespace RobotSession.Lua.Library.Basics

open Text (octets)

/-- The text of a value: at once, or by a call of its `__tostring`. -/
def describe (h : Heap) (v : Value) : Except (Value × Callback) ByteArray :=
  match h.metamethod v "__tostring" with
  | .nil => .ok (Access.plainText h v)
  | handler => .error (handler, .mustBeText)

def tostring (args : List Value) : Body Reply := do
  let v ← Args.any args 1
  match describe (← get) v with
  | .ok s => return .done [.str s]
  | .error (handler, k) => return .call handler [v] k

/-- The digits of an integer in a base. -/
def digitsIn (base : Nat) : List UInt8 → Nat → Option Nat
  | [], n => some n
  | b :: rest, n =>
    let digit : Nat :=
      if Numeral.isDigit b then b.toNat - 48
      else if 97 ≤ b && b ≤ 122 then b.toNat - 87
      else if 65 ≤ b && b ≤ 90 then b.toNat - 55
      else base
    if digit < base then digitsIn base rest (n * base + digit) else none

def tonumber (args : List Value) : Body Reply := do
  if Args.isNone args 2 then
    match Args.nth args 1 with
    | .int i => return .done [.int i]
    | .float x => return .done [.float x]
    | .str s => return .done [(Numeral.ofString s).getD .nil]
    | _ =>
      -- something has to be given, even if it is no number
      let _ ← Args.any args 1
      return .done [.nil]
  else
    let base ← Args.int args 2
    match Args.nth args 1 with
    | .str s =>
      -- the range of the base matters only once there is a text to read
      if base < 2 || 36 < base then Args.fault 2 "base out of range"
      let (negative, digits) :=
        match Numeral.trim s.toList with
        | 45 :: rest => (true, rest)
        | bs => (false, bs)
      match digits, digitsIn base.toInt.toNat digits 0 with
      | [], _ => return .done [.nil]
      | _, none => return .done [.nil]
      | _, some n =>
        let n := Int64.ofNat n
        return .done [.int (if negative then -n else n)]
    | _ => Args.typeFault args 1 "string"

def select (args : List Value) : Body Reply := do
  if let .str s := Args.nth args 1 then
    if s.toList = [35] then return .done [.int (Int64.ofNat (args.length - 1))]
  let i := (← Args.int args 1).toInt
  let count := args.length
  if i < 0 then
    if (count : Int) + i < 1 then Args.fault 1 "index out of range"
    return .done (args.drop (count + i).toNat)
  else if i = 0 then Args.fault 1 "index out of range"
  else return .done (args.drop i.toNat)

def setmetatable (args : List Value) : Body Reply := do
  let id ← Args.table args 1
  let new : Option Nat ←
    match Args.nth args 2 with
    | .table m => pure (some m)
    | .nil => if Args.isAbsent args 2 then Args.typeFault args 2 "nil or table" else pure none
    | _ => Args.typeFault args 2 "nil or table"
  let h ← get
  if !(h.metamethod (.table id) "__metatable").isNil then
    Args.located "cannot change a protected metatable"
  Work.modifyTable id fun t => { t with metatable := new }
  if let some m := new then
    if !((h.table m).getText "__gc").isNil then
      -- a table that is marked already keeps its place
      unless h.finalizers.contains id do
        modify fun h => { h with finalizers := id :: h.finalizers }
  return .done [.table id]

def next (args : List Value) : Body Reply := do
  let id ← Args.table args 1
  let t := (← get).table id
  let field : Option (Option (Value × Value)) :=
    match Args.nth args 2 with
    | .nil => t.next none
    | k =>
      match k.key? with
      | some k => t.next (some k)
      | none => none
  match field with
  | some (some (k, v)) => return .done [k, v]
  | some none => return .done [.nil]
  | none => throw (.value (.text "invalid key to 'next'"))

def ipairsStep (args : List Value) : Body Reply := do
  let i := (← Args.int args 2) + 1
  let object := Args.nth args 1
  match Access.read (← get) object (.int i) with
  | .value v => return .done (if v.isNil then [.nil] else [.int i, v])
  | .handler f o => return .call f [o, .int i] (.position i)
  | .notIndexable o =>
    throw (.value (.str (octets "attempt to index a " ++ (← get).typeName o ++ octets " value")))
  | .tooLong => Args.located "'__index' chain too long; possibly a loop"

/-! ### Loading -/

/-- Refuses a kind of program that the mode does not allow. -/
def modeFault (mode : Value) (source : ByteArray) : Option ByteArray :=
  match mode with
  | .str m =>
    let (kind, letter) : String × UInt8 :=
      if source.toList.head? = some 27 then ("binary", 98) else ("text", 116)
    if m.toList.contains letter then none
    else some (octets s!"attempt to load a {kind} chunk (mode is '" ++ m ++ octets "')")
  | _ => none

/-- The function of a source, or `nil` and a message. -/
def loadSource (source name : ByteArray) (mode : Value) (environment : Option Value) :
    Body (List Value) := do
  match modeFault mode source with
  | some message => return [.nil, .str message]
  | none =>
    match Chunk.load name source with
    | .ok c =>
      let e := environment.getD (.table (← get).globals)
      return [← c.enter e]
    | .error f => return [.nil, .str f.text]

def environmentOf (args : List Value) (i : Nat) : Option Value :=
  if Args.isAbsent args i then none else some (Args.nth args i)

def load (args : List Value) : Body Reply := do
  let environment := environmentOf args 4
  let mode : Value ← if Args.isNone args 3 then pure .nil else (.str <$> Args.text args 3)
  match Args.asText? (Args.nth args 1) with
  | some s =>
    let name ← Args.textOr args 2 s
    return .done (← loadSource s name mode environment)
  | none =>
    let name ← Args.textOr args 2 (octets "=(load)")
    let f ← Args.function args 1
    return .call f [] (.loadPieces f mode (.str name) environment ByteArray.empty)

/-- Takes a piece of a program; an empty one or `nil` is the last. -/
def loadPiece (f mode name : Value) (environment : Option Value) (pieces : ByteArray)
    (results : List Value) : Body Reply := do
  let finish : Body Reply := do
    let name := match name with | .str n => n | _ => ByteArray.empty
    return .done (← loadSource pieces name mode environment)
  match results.headD .nil with
  | .nil => finish
  | .str s =>
    if s.size = 0 then finish
    else return .call f [] (.loadPieces f mode name environment (pieces ++ s))
  | _ => return .done [.nil, .text "reader function must return a string"]

/-- Drops a first line that starts with `#`, but not its end. -/
def withoutComment (source : ByteArray) : ByteArray :=
  match source.toList with
  | 35 :: rest => ByteArray.mk (rest.dropWhile (· != 10)).toArray
  | _ => source

/-- Goes on once a program file has been read. -/
def fileRead (path : ByteArray) (environment : Option Value) (run : Bool)
    (content : Except (String × Nat) ByteArray) : Body Reply := do
  let loaded : List Value ←
    match content with
    | .ok source => loadSource (withoutComment source) (octets "@" ++ path) .nil environment
    | .error (reason, _) =>
      pure [.nil, .str (octets "cannot open " ++ path ++ octets s!": {reason}")]
  if !run then return .done loaded
  else
    match loaded with
    | [f] => return .call f [] (.takeOf 1000000)
    | _ => throw (.value (loaded.getD 1 .nil))

/-- A parameter of the collector, as it is kept: by fours, in an octet. -/
def kept (percent : Int64) : Nat :=
  (percent.toInt32.toInt.tdiv 4 % 256).toNat * 4

def modeName (c : Collector) : Value :=
  .text (if c.isGenerational then "generational" else "incremental")

/-- Says what a collector has been asked, and sets it. One that is busy does neither. -/
def collectorAnswer (v : Value) (change : Collector → Collector) : Body Reply := do
  let c := (← get).collector
  if c.isBusy then return .done [.nil]
  modify fun h => { h with collector := change h.collector }
  return .done [v]

/-- What only the surroundings know: how much memory is in use, and whether a step of the
collector has ended its cycle. -/
def memoryRead (isStep : Bool) : Body Reply := do
  if (← get).collector.isBusy then return .done [.nil]
  return .ask (.memoryRead isStep)

/-- Speaks to the collector. What it collects, it collects at its turns, of which there is one
when this function has returned. -/
def collectgarbage (args : List Value) : Body Reply := do
  let option := Text.Utf8.lossy (← Args.textOr args 1 (octets "collect"))
  let c := (← get).collector
  match option with
  | "collect" => collectorAnswer (.int 0) id
  | "stop" => collectorAnswer (.int 0) fun c => { c with isRunning := false }
  | "restart" => collectorAnswer (.int 0) fun c => { c with isRunning := true }
  | "count" => memoryRead false
  | "step" => do
    let _ ← Args.intOr args 2 0
    memoryRead true
  | "setpause" => do
    let pause := kept (← Args.intOr args 2 0)
    collectorAnswer (.int (Int64.ofNat c.pause)) fun c => { c with pause }
  | "setstepmul" => do
    let stepMultiplier := kept (← Args.intOr args 2 0)
    collectorAnswer (.int (Int64.ofNat c.stepMultiplier)) fun c => { c with stepMultiplier }
  | "isrunning" => collectorAnswer (.bool c.isRunning) id
  | "generational" => do
    let _ ← Args.intOr args 2 0
    let _ ← Args.intOr args 3 0
    collectorAnswer (modeName c) fun c => { c with isGenerational := true }
  | "incremental" => do
    let pause ← Args.intOr args 2 0
    let stepMultiplier ← Args.intOr args 3 0
    let _ ← Args.intOr args 4 0
    -- a parameter of 0 stays as it was
    collectorAnswer (modeName c) fun c => { c with
      isGenerational := false
      pause := if pause.toInt32 = 0 then c.pause else kept pause
      stepMultiplier := if stepMultiplier.toInt32 = 0 then c.stepMultiplier else kept stepMultiplier }
  | option => Args.fault 1 s!"invalid option '{option}'"

/-- A basic function's work. -/
def call (f : Native) (args : List Value) : Body Reply := do
  match f with
  | .assert => do
    let v ← Args.any args 1
    if v.truthy then return .done args
    else
      -- a text is told with its place, any other value is raised as it is
      match (args.drop 1).headD (.text "assertion failed!") with
      | .str s => throw (.atLevel 1 s)
      | e => throw (.value e)
  | .error => do
    let level ← Args.intOr args 2 1
    match Args.nth args 1 with
    | .str s => if 0 < level then throw (.atLevel level.toInt.toNat s) else throw (.value (.str s))
    | e => throw (.value e)
  | .collectgarbage => collectgarbage args
  | .getmetatable => do
    let v ← Args.any args 1
    let h ← get
    -- a field of the metatable may stand for it
    match h.metamethod v "__metatable", h.metatable? v with
    | .nil, some id => return .done [.table id]
    | shown, _ => return .done [shown]
  | .ipairs => do
    let v ← Args.any args 1
    return .done [← Work.newNative .ipairsStep [], v, .int 0]
  | .ipairsStep => ipairsStep args
  | .next => next args
  | .pairs => do
    let v ← Args.any args 1
    match (← get).metamethod v "__pairs" with
    -- every call makes a function of its own
    | .nil => return .done [← Work.newNative .next [], v, .nil]
    | handler => return .call handler [v] (.takeOf 3)
  | .pcall => do
    let v ← Args.any args 1
    return .call v (args.drop 1) .pcall
  | .xpcall => do
    let handler ← Args.function args 2
    return .call (Args.nth args 1) (args.drop 2) (.xpcall handler)
  | .rawequal => do
    let a ← Args.any args 1
    let b ← Args.any args 2
    return .done [.bool (a.rawEq b)]
  | .rawget => do
    let id ← Args.table args 1
    let k ← Args.any args 2
    return .done [Access.rawGet (← get) id k]
  | .rawlen =>
    match Args.nth args 1 with
    | .table id => return .done [.int (Int64.ofNat ((← get).table id).border)]
    | .str s => return .done [.int (Int64.ofNat s.size)]
    | _ => Args.fault 1 "table or string expected"
  | .rawset => do
    let id ← Args.table args 1
    let k ← Args.any args 2
    let v ← Args.any args 3
    -- no metatable is asked, but nothing and NaN are no keys
    match k.key? with
    | some key => Work.modifyTable id (·.set key v)
    | none =>
      throw (.value (.text (if k.isNil then "table index is nil" else "table index is NaN")))
    return .done [.table id]
  | .select => select args
  | .setmetatable => setmetatable args
  | .tonumber => tonumber args
  | .tostring => tostring args
  | .type => return .done [.text (← Args.any args 1).typeName]
  | .warn => do
    let _ ← Args.text args 1
    -- all arguments have to be texts, although nothing is made of them
    (List.range args.length).forM fun i => do
      let _ ← Args.text args (i + 1)
    return .done []
  | .load => load args
  | .loadfile => do
    let path ← Args.text args 1
    return .ask (.loadRead path (environmentOf args 3) false)
  | .dofile => do
    let path ← Args.text args 1
    return .ask (.loadRead path none true)
  | _ => return .done []

end RobotSession.Lua.Library.Basics
