import RobotSession.Lua.Code

/-!
# The state of the interpreter

Everything an interpreter holds is first-order data: the store (`Heap`), the threads with
their frames, and what happens next (`Mode`). Built-in functions work on the store only;
threads are made, resumed and left by the machine. Nothing of a running script is kept
in the control flow of this library, so a script may be interrupted, resumed, nested
in a delivered call or unwound at any instruction.

* `LuaFrame` — a script function that is running or waits for a call.
* `Cont` — what is done once a call has ended. `Cont.isBoundary` says which of them end an
  error.
* `Ask` and `Answer` — the questions an interpreter puts to its host, one for each
  access to something shared: the log, the inbox, the clock. `Waiting` is what waits for
  the answer.
* `Machine` — the interpreter. Its steps are defined in `Step`.
-/

namespace RobotSession.Lua

open Text (octets)

/-! ### Failures -/

/-- A failure of the host's side of the interface. -/
inductive HostError
  /-- A script error that is not a host failure itself. -/
  | runtime (message : String)
  /-- The source is not a program. -/
  | source (message : String)
  /-- A value does not convert to what the host expects. -/
  | conversion (got wanted : String) (detail : Option String)
  | badArgument (position : Nat) (cause : HostError)
  /-- A failure of a function that the host provides, with the calls that led to it. -/
  | callback (cause : HostError) (trace : String)
  | unresumable
  /-- The host does not allow it. -/
  | forbidden (message : String)
  /-- A panic that has been passed on already. -/
  | panicTaken
  deriving Inhabited

namespace HostError

/-- The text of a failure without the calls that led to it. -/
def reason : HostError → String
  | .runtime s => "runtime error: " ++ s
  | .source s => "syntax error: " ++ s
  | .conversion got wanted detail =>
    let detail := match detail with
      | some d => s!" ({d})"
      | none => ""
    s!"error converting Lua {got} to {wanted}{detail}"
  | .badArgument position cause => s!"bad argument #{position}: {cause.reason}"
  | .callback cause _ => cause.reason
  | .unresumable => "coroutine is non-resumable"
  | .forbidden s => "safety error: " ++ s
  | .panicTaken => "previously resumed panic returned again"

/-- The text of a failure. -/
def message (e : HostError) : String :=
  match e with
  | .callback _ trace => s!"{e.reason}\n{trace}\n"
  | _ => e.reason

end HostError

/-- What a panic carries. -/
inductive Payload
  | text (s : String)
  | other
  deriving DecidableEq, Inhabited

/-- What a script reads from, or writes to. -/
inductive Stream
  /-- Standard input, which is at its end. -/
  | input
  | output
  | error
  /-- A file that is read, with how far it has been read. -/
  | reader (content : ByteArray) (position : Nat)
  | closed
  deriving Inhabited

/-- A host object that scripts can hold. -/
inductive HostObject
  | failure (e : HostError)
  /-- A caught panic, until it is passed on. -/
  | panic (payload : Option Payload)
  | stream (s : Stream)
  deriving Inhabited

/-! ### Requests to the host -/

/-- A call queued for the robot. -/
inductive Invocation
  /-- Run the end routine that was resolved at construction. -/
  | finish
  /-- Run a method, looked up when the call is delivered. -/
  | method (name : String)
  deriving DecidableEq, Inhabited

/-- A request that the interpreter makes to its host. -/
inductive Ask
  /-- Write a line to the log. -/
  | log (line : String)
  /-- Read the inbox's flag. -/
  | pending
  /-- Take the oldest queued call. -/
  | take
  /-- A queued call failed. -/
  | failed (invocation : Invocation) (error : String)
  /-- Read the clock, in nanoseconds since the interpreter was opened. -/
  | clock
  /-- Block until something is queued or the clock reaches `deadline`. -/
  | wait (deadline : Nat)
  /-- Read a file. -/
  | readFile (path : ByteArray)
  /-- Write to standard output or standard error. -/
  | output (toError : Bool) (text : ByteArray)
  /-- An environment variable. -/
  | environment (name : ByteArray)
  /-- End the process. -/
  | exit (code : Int)
  deriving DecidableEq, Inhabited

/-- The host's answer to a request. -/
inductive Answer
  | done
  /-- The log panicked. -/
  | panicked (payload : Payload)
  | flag (b : Bool)
  | invocation (i : Option Invocation)
  | time (nanoseconds : Nat)
  /-- The content of a file, or why it cannot be read, with the error number. -/
  | file (content : Except (String × Nat) ByteArray)
  | variableIs (value : Option ByteArray)

/-! ### Built-in functions -/

/-- Arithmetic that the string metatable offers. -/
inductive TextArith
  | add | sub | mul | mod | pow | div | idiv | unm
  deriving DecidableEq

/-- The functions that scripts find when they start. -/
inductive Native
  | assert | collectgarbage | dofile | error | getmetatable | ipairs | ipairsStep | load
  | loadfile | next | pairs | pcall | print | rawequal | rawget | rawlen | rawset | require
  | select | setmetatable | tonumber | tostring | type | warn | xpcall
  | coClose | coCreate | coIsYieldable | coResume | coRunning | coStatus | coWrap | coYield
  /-- Calls the thread it was made for. -/
  | coWrapped
  | strByte | strChar | strDump | strFind | strFormat | strGmatch | strGmatchStep | strGsub
  | strLen | strLower | strMatch | strPack | strPackSize | strRep | strReverse | strSub
  | strUnpack | strUpper
  | textArith (op : TextArith)
  | tabConcat | tabInsert | tabMove | tabPack | tabRemove | tabSort | tabUnpack
  | mathAbs | mathAcos | mathAsin | mathAtan | mathCeil | mathCos | mathDeg | mathExp
  | mathFloor | mathFmod | mathLog | mathMax | mathMin | mathModf | mathRad | mathRandom
  | mathRandomSeed | mathSin | mathSqrt | mathTan | mathToInteger | mathType | mathUlt
  | utfChar | utfCodepoint | utfCodes | utfCodesStep | utfLen | utfOffset
  | osClock | osDate | osDifftime | osExecute | osExit | osGetenv | osRemove | osRename
  | osSetlocale | osTime | osTmpname
  | ioClose | ioFlush | ioInput | ioLines | ioOpen | ioOutput | ioPopen | ioRead | ioTmpfile
  | ioType | ioWrite
  | fileClose | fileFlush | fileLines | fileRead | fileSeek | fileSetvbuf | fileWrite
  /-- Closes a file that is left. -/
  | fileLeft
  | fileText
  /-- Reads on, for a loop. -/
  | fileStep
  | packageLoadlib | packageSearchpath
  | searchPreload | searchPath | searchNative
  | robotTime | robotLog | robotSleep
  | failureText
  deriving DecidableEq, Inhabited

/-- A function in the store. -/
inductive Function
  | script (chunk : Chunk) (proto : Nat) (cells : Array Nat)
  | native (f : Native) (captured : List Value)

instance : Inhabited Function := ⟨.native .type []⟩

/-! ### Frames -/

/-- What a script frame does with the results of the call it waits for. -/
inductive Await
  /-- Keep the wanted number of results, or all of them as open results. -/
  | results (want : Option Nat)
  | discard
  /-- Keep whether the first result counts as true. -/
  | truth (negate : Bool)
  /-- Return the results. -/
  | returning
  /-- Go on returning these values. -/
  | leave (values : List Value)
  /-- Keep the first result, with the object it was looked up in above it. -/
  | selfOf (object : Value)
  deriving Inhabited

/-- A variable that is to be closed. -/
structure Closing where
  slot : Nat
  value : Value
  deriving Inhabited

/-- A script function that is running or waits for a call. -/
structure LuaFrame where
  chunk : Chunk
  proto : Proto
  /-- The next instruction. -/
  pc : Nat := 0
  stack : List Value := []
  locals : Array Value
  cells : Array Nat
  outer : Array Nat
  varargs : List Value := []
  /-- Number of open results on the stack. -/
  openCount : Nat := 0
  await : Await := .discard
  closing : List Closing := []
  /-- The frame took the place of its caller. -/
  isTail : Bool := false
  /-- How the function was called. -/
  origin : Origin := .unknown
  /-- Stack slots in use below the frame. -/
  below : Nat := 0
  deriving Inhabited

/-- Which comparison a sorting waits for. -/
inductive SortPhase
  /-- The last value with the first. -/
  | ends
  /-- The middle value with the first. -/
  | middleLow
  /-- The last value with the middle one. -/
  | middleHigh
  /-- The next value from below with the pivot. -/
  | ascend
  /-- The pivot with the next value from above. -/
  | descend
  deriving DecidableEq

/-- The state of `table.sort`. -/
structure Sorting where
  table : Nat
  compare : Option Value
  /-- The range being sorted. -/
  low : Nat
  high : Nat
  /-- The positions reached from below and from above. -/
  i : Nat
  j : Nat
  pivot : Value
  /-- Ranges still to be sorted. -/
  ranges : List (Nat × Nat)
  phase : SortPhase

/-- The state of `string.gsub`. -/
structure Substituting where
  source : ByteArray
  pattern : ByteArray
  replacement : Value
  anchored : Bool
  /-- Where the next match is tried. -/
  position : Nat
  /-- How many replacements are still allowed. -/
  left : Nat
  count : Nat
  /-- The end of the last match. -/
  lastEnd : Option Nat
  result : ByteArray
  /-- The text matched last. -/
  matched : ByteArray

/-- The state of `string.format`. -/
structure Formatting where
  /-- The part of the template that is not used. -/
  template : List UInt8
  args : List Value
  argument : Nat
  result : ByteArray
  /-- The directive whose argument is being turned into text. -/
  directive : List UInt8

/-- Why queued calls are being delivered. -/
inductive DrainReason
  /-- Between two instructions; the number names the hook that runs. -/
  | hook (ticket : Nat)
  | sleep
  deriving DecidableEq

/-- How a thread was resumed. -/
inductive ResumeKind
  /-- Failures become results. -/
  | guarded
  /-- Failures are raised with the place of the call. -/
  | wrapped
  /-- Failures become host failures. -/
  | hooked
  deriving DecidableEq

/-- What a built-in function does with the results of a call of its own. -/
inductive Callback
  | pcall
  | xpcall (handler : Value)
  /-- The result is the first `n` values. -/
  | takeOf (n : Nat)
  /-- The first value must be a string. -/
  | mustBeText
  /-- Reading a position of a sequence that is being traversed. -/
  | position (i : Int64)
  /-- Looking up the function that `print` uses. -/
  | printLookup (args : List Value)
  | printing (tostring : Value) (done : List String) (rest : List Value)
  | sorting (s : Sorting)
  | substituting (s : Substituting)
  | formatting (s : Formatting)
  | loadPieces (f mode chunkName : Value) (env : Option Value) (pieces : ByteArray)
  | requireSearch (name : ByteArray) (searchers : List Value) (messages : ByteArray)
  | requireLoad (name : ByteArray) (data : Value)

/-- What a file is asked for. -/
inductive FileUse
  /-- To be read. -/
  | reads
  /-- To be changed or removed, which no file can be. -/
  | changes
  /-- To be read where no stream is named. -/
  | input
  /-- To be read in a loop, in these formats. -/
  | lines (formats : List Value)

/-- What a built-in function asks its host for, with what it needs to go on. -/
inductive Request
  | logging (line : String)
  /-- Reading the clock before sleeping. -/
  | sleepStart (duration : Nat)
  /-- Reading the flag. -/
  | sleepCheck (deadline : Nat)
  /-- Reading the clock. -/
  | sleepClock (deadline : Nat)
  | sleepWait (deadline : Nat)
  | loadRead (path : ByteArray) (env : Option Value) (run : Bool)
  | searchRead (path : ByteArray) (rest : List ByteArray) (messages : ByteArray) (load : Bool)
  /-- Looking for a file. -/
  | opening (path : ByteArray) (use : FileUse)
  | writing (toError : Bool) (text : ByteArray) (result : List Value)
  | exiting (code : Int)
  | variableRead (name : ByteArray)
  /-- Reading the clock, in seconds. -/
  | secondsRead (isWhole : Bool)
  /-- Reading the clock, for a date. -/
  | dateRead (template : ByteArray)
  /-- Reading how much memory is in use, or whether a step of the collector has ended its cycle. -/
  | memoryRead (isStep : Bool)

namespace Request

def question : Request → Ask
  | .logging line => .log line
  | .sleepStart _ => .clock
  | .sleepCheck _ => .pending
  | .sleepClock _ => .clock
  | .sleepWait deadline => .wait deadline
  | .loadRead path .. => .readFile path
  | .searchRead path .. => .readFile path
  | .opening path _ => .readFile path
  | .writing toError text _ => .output toError text
  | .exiting code => .exit code
  | .variableRead name => .environment name
  | .secondsRead _ => .clock
  | .dateRead _ => .clock
  -- the memory in use is the surroundings' business, like the time, and is read off their clock
  | .memoryRead _ => .clock

end Request

/-- What waits for the host's answer. -/
inductive Waiting
  | native (r : Request)
  /-- Reading the flag between two instructions; the number names the hook. -/
  | hookPoll (ticket : Nat)
  /-- Taking the next queued call. -/
  | drainTake (reason : DrainReason)
  /-- Reporting a failed queued call. -/
  | drainReport (reason : DrainReason) (invocation : Invocation) (error : String)

namespace Waiting

def question : Waiting → Ask
  | .native r => r.question
  | .hookPoll _ => .pending
  | .drainTake _ => .take
  | .drainReport _ invocation error => .failed invocation error

end Waiting

/-- What is done with the results of a call. -/
inductive Cont
  /-- The host called; its call ends here. -/
  | entry
  | native (k : Callback)
  /-- A message handler runs before the error is unwound. -/
  | handling
  /-- A message handler turns an error value into text. -/
  | describing
  /-- The error value of a hooked thread is turned into text. -/
  | describingFailure
  /-- A variable was closed while an error was being unwound. -/
  | rethrow (e : Value)
  | resuming (thread : Nat) (kind : ResumeKind)
  /-- Closing the variables of a thread. -/
  | closingThread (thread : Nat)
  /-- Looking up the method of a queued call. -/
  | drainLookup (reason : DrainReason) (invocation : Invocation)
  /-- Running a queued call. -/
  | drainCall (reason : DrainReason) (invocation : Invocation)
  /-- Running the finalizer of a table, between two instructions. -/
  | finalizing

/-- A frame of a thread. -/
inductive Frame
  /-- `depth` is the number of nested native calls below the frame. -/
  | lua (f : LuaFrame) (depth : Nat)
  | cont (c : Cont) (depth : Nat)
  deriving Inhabited

instance : Inhabited Cont := ⟨.entry⟩

namespace Cont

/-- Whether an error ends here. -/
def isBoundary : Cont → Bool
  | .entry => true
  | .native .pcall => true
  | .native (.xpcall _) => true
  | .native (.printLookup _) => true
  | .native (.printing ..) => true
  | .drainLookup .. => true
  | .drainCall .. => true
  | .describingFailure => true
  | .finalizing => true
  | _ => false

/-- Whether the host calls from here, and wants errors with the calls that led to them. -/
def isHostCall : Cont → Bool
  | .native .pcall => false
  | .native (.xpcall _) => false
  | .finalizing => false
  | c => c.isBoundary

/-- Whether a thread can be suspended across it. -/
def isYieldable : Cont → Bool
  | .native .pcall => true
  | .native (.xpcall _) => true
  | .native (.takeOf _) => true
  | .rethrow _ => true
  | _ => false

/-- The delivery that it is a part of. -/
def drain? : Cont → Option DrainReason
  | .drainLookup reason _ => some reason
  | .drainCall reason _ => some reason
  | _ => none

/-- Whether it runs between two instructions of the frame below. -/
def isHook (c : Cont) : Bool :=
  c.drain? matches some (.hook _)

/-- Whether a finalizer runs between two instructions of the frame below. -/
def isFinalizing (c : Cont) : Bool :=
  c matches .finalizing

end Cont

/-! ### Threads, store and machine -/

inductive ThreadStatus
  | suspended
  | running
  /-- It resumed another thread. -/
  | normal
  | dead
  deriving DecidableEq, Inhabited

/-- The name for scripts. -/
def ThreadStatus.name : ThreadStatus → String
  | .suspended => "suspended"
  | .running => "running"
  | .normal => "normal"
  | .dead => "dead"

structure Thread where
  status : ThreadStatus
  /-- Its frames, innermost first, while it does not run. -/
  frames : List Frame := []
  /-- The function it starts with, until it starts. -/
  body : Option Value := none
  /-- The error it ended with. -/
  failure : Option Value := none
  /-- The thread that resumed it. -/
  resumer : Option Nat := none
  /-- Whether instructions are counted, and how many are left until the hook runs. -/
  hook : Option Nat := none
  deriving Inhabited

/-- A thread; what is no thread counts as a dead one. -/
def Thread.at (threads : Array Thread) (id : Nat) : Thread :=
  threads.getD id { status := .dead }

/-- The robot that the interpreter retains. -/
structure Retained where
  instance_ : Value := .nil
  /-- The end routine that was resolved at construction. -/
  endRoutine : Option Value := none

/-- What the collector does when its turn comes. -/
inductive Collection
  | nothing
  /-- A table is out of reach: its finalizer runs. -/
  | finalizes (table : Nat)
  /-- A weak table loses an entry that is out of reach. -/
  | drops (table : Nat) (key : Key)
  deriving DecidableEq

/-- The collector, as far as scripts can tell. -/
structure Collector where
  /-- A finalizer runs, or the interpreter is being closed: nothing is collected. -/
  isBusy : Bool := false
  isRunning : Bool := true
  isGenerational : Bool := false
  /-- In percent, by fours. -/
  pause : Nat := 200
  stepMultiplier : Nat := 100

/-- The store. -/
structure Heap where
  tables : Array Table := #[]
  functions : Array Function := #[]
  cells : Array Value := #[]
  objects : Array HostObject := #[]
  /-- The table of global variables. -/
  globals : Nat := 0
  /-- The table of loaded modules. -/
  loaded : Nat := 0
  stringMeta : Option Nat := none
  failureMeta : Option Nat := none
  streamMeta : Option Nat := none
  /-- The streams that are read from and written to where none is named. -/
  inputStream : Nat := 0
  outputStream : Nat := 0
  /-- The tables with a finalizer, the last one marked first. -/
  finalizers : List Nat := []
  /-- What the collector is going to do, turn by turn. It is settled beforehand what will be found
  out of reach, and when, because no script can tell. -/
  collections : List Collection := []
  collector : Collector := {}
  /-- The state of the random generator. -/
  seed : UInt64 := 88172645463325252

/-- What happens next. -/
inductive Mode
  /-- Execute the innermost frame; the inbox may have been looked after already. -/
  | run (polled : Bool)
  /-- Call a value. -/
  | call (f : Value) (args : List Value) (origin : Origin) (meta_ : Bool)
  /-- Give values to the innermost frame. -/
  | give (values : List Value)
  /-- Raise an error: its message handler runs first. -/
  | raise (e : Value)
  /-- Leave frames until an error ends. -/
  | unwind (e : Value)
  /-- Wait for the host's answer. -/
  | ask (w : Waiting)
  /-- The host's call has ended with values, or with an error value. -/
  | ended (result : Except Value (List Value))

/-- The interpreter. -/
structure Machine where
  heap : Heap
  /-- The threads that there have been; the first one is the main thread. -/
  threads : Array Thread := #[]
  /-- The thread that runs. -/
  current : Nat := 0
  /-- Its frames, innermost first. -/
  frames : List Frame := []
  /-- Number of nested native calls. -/
  depth : Nat := 0
  mode : Mode := .ended (.ok [])
  /-- Number of instructions between two looks at the inbox, if there are any. -/
  interval : Option Nat := none
  /-- The thread that the hook is meant for. -/
  hookOwner : Nat := 0
  /-- The number of the hook that was set last; 0 if none has been. -/
  hookTicket : Nat := 0
  retained : Retained := {}

/-! ### Access to the store -/

/-- Work on the store. -/
abbrev Work := StateM Heap

namespace Heap

def table (h : Heap) (id : Nat) : Table :=
  h.tables.getD id {}

def object (h : Heap) (id : Nat) : HostObject :=
  h.objects.getD id (.stream .closed)

def function (h : Heap) (id : Nat) : Function :=
  h.functions.getD id default

/-- The metatable of a value. -/
def metatable? (h : Heap) : Value → Option Nat
  | .table id => (h.table id).metatable
  | .str _ => h.stringMeta
  | .object id =>
    match h.object id with
    | .stream _ => h.streamMeta
    | _ => h.failureMeta
  | _ => none

/-- A metamethod of a value, `nil` if it has none. -/
def metamethod (h : Heap) (v : Value) (event : String) : Value :=
  match h.metatable? v with
  | some id => (h.table id).getText event
  | none => .nil

/-- What runs as the finalizer of a table. -/
def finalizer? (h : Heap) (table : Nat) : Option Value :=
  match h.metamethod (.table table) "__gc" with
  | .nil => none
  | handler => some handler

/-- Whether a table does not keep its keys, or its values. -/
def isWeak (h : Heap) (table : Nat) : Bool :=
  match h.metamethod (.table table) "__mode" with
  | .str mode => mode.toList.any fun c => c = 'k'.toUInt8 || c = 'v'.toUInt8
  | _ => false

/-- The store without an entry of a table. -/
def dropEntry (h : Heap) (table : Nat) (key : Key) : Heap :=
  { h with tables := h.tables.modify table (·.set key .nil) }

/-- Makes the collector wait, or go on. -/
def occupy (h : Heap) (isBusy : Bool) : Heap :=
  { h with collector := { h.collector with isBusy } }

/-- The store of an interpreter that is closed: nothing is collected any more. -/
def closed (h : Heap) : Heap :=
  { h.occupy true with finalizers := [] }

/-- What the collector does in a turn, and the finalizer that it runs, with its table. -/
def collected (h : Heap) : Option (Value × Nat) × Heap :=
  match h.collections with
  | [] => (none, h)
  | c :: later =>
    if h.collector.isBusy then (none, h)
    else
      let h := { h with collections := later }
      match c with
      | .nothing => (none, h)
      | .drops id key => (none, if h.isWeak id then h.dropEntry id key else h)
      | .finalizes id =>
        match h.finalizer? id, h.finalizers.contains id with
        -- a table has to be marked once more to be finalized once more
        | some handler, true =>
          (some (handler, id), { h.occupy true with finalizers := h.finalizers.erase id })
        | _, _ => (none, h)

/-- The name of a value's type for messages: `__name` of its metatable if that is a
string. -/
def typeName (h : Heap) (v : Value) : ByteArray :=
  let plain := octets v.typeName
  match v with
  | .table _ =>
    match h.metamethod v "__name" with
    | .str s => s
    | _ => plain
  | .object _ =>
    match h.metamethod v "__name" with
    | .str s => s
    | _ => plain
  | _ => plain

end Heap

namespace Work

def newTable (t : Table) : Work Value :=
  modifyGet fun h => (.table h.tables.size, { h with tables := h.tables.push t })

def newFunction (f : Function) : Work Value :=
  modifyGet fun h => (.func h.functions.size, { h with functions := h.functions.push f })

def newNative (f : Native) (captured : List Value) : Work Value :=
  newFunction (.native f captured)

def newCell (v : Value) : Work Nat :=
  modifyGet fun h => (h.cells.size, { h with cells := h.cells.push v })

def newObject (o : HostObject) : Work Value :=
  modifyGet fun h => (.object h.objects.size, { h with objects := h.objects.push o })

def setObject (id : Nat) (o : HostObject) : Work Unit :=
  modify fun h => { h with objects := h.objects.set! id o }

def getTable (id : Nat) : Work Table := do
  return (← get).table id

def modifyTable (id : Nat) (f : Table → Table) : Work Unit :=
  modify fun h => { h with tables := h.tables.modify id f }

end Work

/-! ### Replies of built-in functions -/

/-- A failure of a built-in function. -/
inductive Fault
  /-- An argument is wrong; the message names the function that was called. -/
  | argument (position : Nat) (detail : ByteArray)
  /-- A message that starts with the place of the call. -/
  | located (message : ByteArray)
  /-- A message that starts with the place of the caller at a level, for strings. -/
  | atLevel (level : Nat) (message : ByteArray)
  /-- An error value. -/
  | value (v : Value)
  /-- A failure of a function that the host provides. -/
  | host (e : HostError)
  /-- A panic of the host. -/
  | panic (payload : Payload)

/-- What a built-in function does. -/
inductive Reply
  | done (values : List Value)
  | fail (f : Fault)
  /-- Call a function and go on with `k`. -/
  | call (f : Value) (args : List Value) (k : Callback)
  /-- Call a function in its own place. -/
  | tail (f : Value) (args : List Value)
  | ask (r : Request)
  /-- Resume a thread, whose failures are raised if it is wrapped, and results otherwise. -/
  | resume (thread : Nat) (args : List Value) (isWrapped : Bool)
  | closeThread (thread : Nat)
  | yield (values : List Value)
  /-- Make a thread and give it, or a function that carries it. -/
  | create (body : Value) (carrier : Option Native)

/-- What the delivery of queued calls does next. -/
inductive DrainStep
  /-- Take the next call. -/
  | take
  /-- Call a function that looks up the method of a queued call. -/
  | lookUp (f : Value) (args : List Value) (invocation : Invocation)
  /-- Run a queued call. -/
  | call (f : Value) (args : List Value) (invocation : Invocation)
  | report (invocation : Invocation) (error : String)

/-- What a built-in function can see of its caller. -/
structure Caller where
  /-- The thread that runs. -/
  thread : Nat
  /-- Its frames. -/
  frames : List Frame
  /-- All threads; what this one has of its own is not up to date. -/
  threads : Array Thread
  /-- A hook has been set. -/
  isHooked : Bool

namespace Frame

def isYieldable : Frame → Bool
  | .lua .. => true
  | .cont c _ => c.isYieldable

def isHook : Frame → Bool
  | .lua .. => false
  | .cont c _ => c.isHook

def isFinalizing : Frame → Bool
  | .lua .. => false
  | .cont c _ => c.isFinalizing

end Frame

/-- Whether the thread that runs can be suspended here. -/
def Caller.isYieldable (c : Caller) : Bool :=
  c.thread ≠ 0 && c.frames.all Frame.isYieldable

/-- A built-in function's work. -/
abbrev Act := Work Reply

end RobotSession.Lua
