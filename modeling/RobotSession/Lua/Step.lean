import RobotSession.Lua.Library.Continue

/-!
# Steps of the interpreter

`Machine.step` is one step of an interpreter: an instruction, a call, the return of
values to a frame, or the removal of a frame by an error. A step never waits: where the
host is asked, the machine stops in the mode `ask`, and `Machine.answer` goes on.

An error is raised where it arises; the message handler of the nearest boundary runs on
top of the frames that failed, and only then are they left, one by one.

Between two instructions a thread whose instructions are counted may ask for the flag of
the inbox. `Machine.polls` says when: the count has run down, the hook is meant for this
thread, and no delivery by the same hook is under way.

* `Machine.step` — a step.
* `Machine.advance` — steps until the host is needed.
* `Machine.start` — a call by the host.
-/

namespace RobotSession.Lua

open Library
open Text (octets)

/-- Place of the caller at a level, for messages; level 1 is the innermost frame. Hooks, the
collector and calls of the host are no callers. -/
def Frame.placeAt : Nat → List Frame → ByteArray
  | _, [] => ByteArray.empty
  | level, .cont c _ :: rest =>
    if c.isHook || c.isFinalizing || c matches .entry then placeAt level rest
    else if level ≤ 1 then ByteArray.empty
    else placeAt (level - 1) rest
  | level, .lua f _ :: rest => if level ≤ 1 then f.place else placeAt (level - 1) rest

namespace Machine

/-- Number of nested native calls at which an error is raised. -/
def depthLimit : Nat := 200

/-- Number of nested native calls at which message handlers are given up. -/
def handlerLimit : Nat := 220

/-- Number of stack slots. -/
def stackLimit : Nat := 1000000

/-- The calls that led to a failure, as far as they are told. -/
def trace : String := "stack traceback:\n\t[C]: in ?"

/-- Works on the store. -/
@[inline]
def work {α : Type} (m : Machine) (w : Work α) : α × Machine :=
  match m with
  | ⟨heap, threads, current, frames, depth, mode, interval, owner, ticket, robot⟩ =>
    let (a, heap) := w heap
    (a, ⟨heap, threads, current, frames, depth, mode, interval, owner, ticket, robot⟩)

def thread (m : Machine) (id : Nat) : Thread :=
  Thread.at m.threads id

@[inline]
def modifyThread (m : Machine) (id : Nat) (change : Thread → Thread) : Machine :=
  match m with
  | ⟨heap, threads, current, frames, depth, mode, interval, owner, ticket, robot⟩ =>
    ⟨heap, threads.modify id change, current, frames, depth, mode, interval, owner, ticket, robot⟩

def raise (m : Machine) (e : Value) : Machine :=
  { m with mode := .raise e }

def raiseText (m : Machine) (s : String) : Machine :=
  m.raise (.text s)

def give (m : Machine) (values : List Value) : Machine :=
  { m with mode := .give values }

def invoke (m : Machine) (f : Value) (args : List Value) : Machine :=
  { m with mode := .call f args .unknown false }

def push (m : Machine) (c : Cont) : Machine :=
  { m with frames := .cont c m.depth :: m.frames }

/-- Goes one native call deeper. -/
def deeper (m : Machine) (k : Machine → Machine) : Machine :=
  let m := { m with depth := m.depth + 1 }
  if m.depth = depthLimit then
    m.raise (.str (Frame.placeAt 1 m.frames ++ octets "C stack overflow"))
  else if handlerLimit ≤ m.depth then { m with mode := .unwind (.text "error in error handling") }
  else k m

/-- Raises a failure of the host as an object. -/
def raiseFailure (m : Machine) (e : HostError) : Machine :=
  let (v, m) := m.work (Work.newObject (.failure (.callback e trace)))
  m.raise v

def raisePanic (m : Machine) (p : Payload) : Machine :=
  let (v, m) := m.work (Work.newObject (.panic (some p)))
  m.raise v

/-! ### Failures of built-in functions -/

/-- The name under which a message mentions a built-in function, and whether it was
called as a method. -/
def calleeName (m : Machine) (callee : Option Native) (origin : Origin) : ByteArray × Bool :=
  let known : Option ByteArray :=
    match m.frames with
    | .lua .. :: _ => origin.parts?.map (·.2)
    | _ => none
  match known with
  | some name => (name, origin.isMethod)
  | none => (octets ((callee.bind Native.qualifiedName?).getD "?"), false)

/-- The message about a wrong argument. -/
def argumentMessage (m : Machine) (callee : Option Native) (origin : Origin) (position : Nat)
    (detail : ByteArray) : ByteArray :=
  let (name, isMethod) := m.calleeName callee origin
  let position := if isMethod then position - 1 else position
  let detail := octets " (" ++ detail ++ octets ")"
  if isMethod && position = 0 then octets "calling '" ++ name ++ octets "' on bad self" ++ detail
  else octets s!"bad argument #{position} to '" ++ name ++ octets "'" ++ detail

/-- Raises a failure of a built-in function. -/
def fail (m : Machine) (f : Fault) (callee : Option Native) (origin : Origin) : Machine :=
  let located (message : ByteArray) : Machine :=
    m.raise (.str (Frame.placeAt 1 m.frames ++ message))
  match f with
  | .argument position detail => located (m.argumentMessage callee origin position detail)
  | .located message => located message
  | .atLevel level message => m.raise (.str (Frame.placeAt level m.frames ++ message))
  | .value v => m.raise v
  | .host e => m.raiseFailure e
  | .panic p => m.raisePanic p

/-! ### Threads -/

/-- How a thread was resumed, by what its resumer waits for. -/
def resumption? (m : Machine) : Option Cont :=
  match (m.thread m.current).resumer with
  | some r =>
    match (m.thread r).frames with
    | .cont c _ :: _ => some c
    | _ => none
  | none => none

/-- Goes over to a thread, which the current one resumes. -/
def switchTo (m : Machine) (id : Nat) (c : Cont) (frames : List Frame) : Machine :=
  match m with
  | ⟨heap, threads, current, own, depth, mode, interval, owner, ticket, robot⟩ =>
    let threads := threads.modify current fun t =>
      { t with status := .normal, frames := .cont c depth :: own }
    let threads := threads.modify id fun t =>
      { t with status := .running, frames := [], body := none, resumer := some current }
    ⟨heap, threads, id, frames, depth, mode, interval, owner, ticket, robot⟩

/-- Goes back to the resumer, leaving the current thread with a status. -/
def switchBack (m : Machine) (change : Thread → Thread) : Machine :=
  match m with
  | ⟨heap, threads, current, _, depth, mode, interval, owner, ticket, robot⟩ =>
    let resumer := (Thread.at threads current).resumer.getD 0
    let frames := (Thread.at threads resumer).frames
    let threads := threads.modify current fun t => { change t with resumer := none }
    let threads := threads.modify resumer fun t => { t with status := .running, frames := [] }
    ⟨heap, threads, resumer, frames, depth, mode, interval, owner, ticket, robot⟩

/-- The error value of a hooked thread becomes a failure of the host. -/
def failHooked (m : Machine) (e : Value) : Machine :=
  match e with
  | .object id =>
    match m.heap.object id with
    | .failure f => m.raiseFailure f
    | .panic (some p) =>
      let m := { m with heap := { m.heap with objects := m.heap.objects.modify id fun _ => .panic none } }
      m.raisePanic p
    | .panic none => m.raiseFailure .panicTaken
    | .stream _ => m.raiseFailure (.runtime (Text.Utf8.lossy (Access.plainText m.heap e) ++ "\n" ++ trace))
  | _ =>
    match Basics.describe m.heap e with
    | .ok s => m.raiseFailure (.runtime (Text.Utf8.lossy s ++ "\n" ++ trace))
    | .error (handler, _) => (m.push .describingFailure).deeper (·.invoke handler [e])

/-- What a resumption gives, for the frame that waits for it. -/
def resumed (m : Machine) (kind : ResumeKind) (result : Except Value (List Value)) : Machine :=
  match kind, result with
  | .guarded, .ok values => m.give (.bool true :: values)
  | .guarded, .error e => m.give [.bool false, e]
  | .wrapped, .ok values => m.give values
  | .wrapped, .error (.str s) => m.raise (.str (Frame.placeAt 1 m.frames ++ s))
  | .wrapped, .error e => m.raise e
  | .hooked, .ok values =>
    let (r, m) := m.work (Exchange.values values)
    match r with
    | .ok values => m.give values
    | .error f => m.fail f none .unknown
  | .hooked, .error e => m.failHooked e

/-- Takes the frame that waits for another thread, and gives it what has come of it. -/
def deliverResult (m : Machine) (result : Except Value (List Value)) : Machine :=
  match m.frames with
  | .cont (.resuming _ kind) depth :: rest =>
    { m with frames := rest, depth := depth }.resumed kind result
  | .cont (.closingThread id) depth :: rest =>
    let m := { m.modifyThread id fun t => { t with failure := none } with frames := rest, depth := depth }
    match result with
    | .error .nil => m.give [.bool true]
    | .error e => m.give [.bool false, e]
    | .ok _ => m.give [.bool true]
  | _ => m.give []

/-- The thread has ended with values. -/
def finish (m : Machine) (values : List Value) : Machine :=
  if m.current = 0 then { m with mode := .ended (.ok values) }
  else (m.switchBack fun t => { t with status := .dead, frames := [] }).deliverResult (.ok values)

/-- The thread has ended with an error; the frames that stay are kept for the variables
they are to close. -/
def die (m : Machine) (e : Value) : Machine :=
  if m.current = 0 then { m with frames := [], mode := .ended (.error e) }
  else
    let kept := m.frames
    (m.switchBack fun t =>
      { t with status := .dead, failure := some e, frames := kept }).deliverResult (.error e)

/-- The frames that have variables to close. -/
def closers (frames : List Frame) : List Frame :=
  frames.filter fun
    | .lua f _ => !f.closing.isEmpty
    | .cont .. => false

/-- Makes a thread, and gives it or a function that carries it. A hooked thread takes the
hook over. -/
def create (m : Machine) (body : Value) (isHooked : Bool) (carrier : Option Native) : Machine :=
  match m with
  | ⟨heap, threads, current, frames, depth, mode, interval, owner, ticket, robot⟩ =>
    let id := threads.size
    let hook := if isHooked then interval else none
    let threads := threads.push { status := .suspended, body := some body, hook }
    let owner := if isHooked then id else owner
    let ticket := if isHooked then ticket + 1 else ticket
    let m : Machine := ⟨heap, threads, current, frames, depth, mode, interval, owner, ticket, robot⟩
    match carrier with
    | none => m.give [.thread id]
    | some f =>
      let (v, m) := m.work (Work.newNative f [.thread id])
      m.give [v]

/-- Resumes a thread. -/
def resume (m : Machine) (id : Nat) (args : List Value) (kind : ResumeKind) : Machine :=
  let t := m.thread id
  if id ≠ m.current && t.status = .suspended then
    if depthLimit ≤ m.depth + 1 then m.resumed kind (.error (.text "C stack overflow"))
    else
      -- threads that resume each other share one depth, which goes on counting
      let m := m.switchTo id (.resuming id kind) t.frames
      let m := { m with depth := m.depth + 1 }
      match t.body with
      -- a thread that has not run yet starts its function, any other goes on where it left off
      | some f => m.invoke f args
      | none => m.give args
  else
    let isDead := id ≠ m.current && t.status = .dead
    match kind with
    | .hooked =>
      if isDead || id = m.current then m.raiseFailure .unresumable
      else m.raiseFailure (.runtime ("cannot resume non-suspended coroutine\n" ++ trace))
    | kind =>
      m.resumed kind (.error (.text
        (if isDead then "cannot resume dead coroutine" else "cannot resume non-suspended coroutine")))

/-- Closes the variables of a thread, which must be suspended or dead. -/
def closeThread (m : Machine) (id : Nat) : Machine :=
  let t := m.thread id
  let status := if id = m.current then .running else t.status
  if status = .suspended || status = .dead then
    match closers t.frames with
    | [] =>
      let m := m.modifyThread id fun t =>
        { t with status := .dead, frames := [], body := none, failure := none }
      match t.failure with
      | none => m.give [.bool true]
      | some e => m.give [.bool false, e]
    -- its variables that are to be closed come first, in the thread itself
    | frames =>
      let m := m.switchTo id (.closingThread id) frames
      { m with depth := m.depth + 1, mode := .unwind (t.failure.getD .nil) }
  else
    let name := status.name
    m.fail (.located (octets s!"cannot close a {name} coroutine")) none .unknown

/-- Suspends the current thread. -/
def yield (m : Machine) (values : List Value) : Machine :=
  if m.current = 0 then
    m.raiseText "attempt to yield from outside a coroutine"
  else if !m.frames.all Frame.isYieldable then
    m.raiseText "attempt to yield across a C-call boundary"
  else
    let kept := m.frames
    (m.switchBack fun t => { t with status := .suspended, frames := kept }).deliverResult (.ok values)

/-! ### Calls -/

/-- A hook has been set. -/
def isHooked (m : Machine) : Bool :=
  m.hookTicket ≠ 0

/-- How a function that wraps a thread resumes it. -/
def wrapping (m : Machine) : ResumeKind :=
  if m.isHooked then .hooked else .wrapped

/-- Does what a built-in function wants. -/
def reply (m : Machine) (r : Reply) (callee : Option Native) (origin : Origin) : Machine :=
  match r with
  | .done values => m.give values
  | .fail f => m.fail f callee origin
  | .call f args k => (m.push (.native k)).deeper (·.invoke f args)
  | .tail f args => m.invoke f args
  | .ask r => { m with mode := .ask (.native r) }
  | .resume id args isWrapped => m.resume id args (if isWrapped then m.wrapping else .guarded)
  | .closeThread id => m.closeThread id
  | .yield values => m.yield values
  | .create body carrier => m.create body m.isHooked carrier

/-- Does what the work of a built-in function comes to. -/
def act (m : Machine) (b : Body Reply) (callee : Option Native) (origin : Origin) : Machine :=
  let (r, m) := m.work b.toAct
  m.reply r callee origin

/-- Goes on with the delivery of queued calls. -/
def drain (m : Machine) (reason : DrainReason) (s : DrainStep) : Machine :=
  match s with
  | .take => { m with mode := .ask (.drainTake reason) }
  | .lookUp f args i => (m.push (.drainLookup reason i)).deeper (·.invoke f args)
  | .call f args i => (m.push (.drainCall reason i)).deeper (·.invoke f args)
  | .report i error => { m with mode := .ask (.drainReport reason i error) }

/-- Ends the delivery of queued calls: there are no more. -/
def drained (m : Machine) : DrainReason → Machine
  | .hook _ => { m with mode := .run true }
  | .sleep => m.give [.bool true]

/-- Stack slots in use below a new frame. -/
def slotsBelow : List Frame → Nat
  | [] => 0
  | .lua f _ :: _ => f.below + f.proto.slots + 3
  | .cont .. :: rest => slotsBelow rest

/-- Gives the parameters of a new frame their values. -/
def bindParameters (f : LuaFrame) : List (Nat × Bool) → List Value → Work LuaFrame
  | [], _ => return f
  | (slot, isCell) :: ps, args => do
    let v := args.headD .nil
    let f ←
      if isCell then do
        let id ← Work.newCell v
        pure { f with cells := f.cells.set! slot id }
      else pure (f.setLocal slot v)
    bindParameters f ps args.tail

/-- Enters a script function. -/
def enter (m : Machine) (chunk : Chunk) (number : Nat) (outer : Array Nat) (args : List Value)
    (origin : Origin) : Machine :=
  let proto := chunk.protos.getD number default
  let below := slotsBelow m.frames
  if stackLimit < below + proto.slots then
    m.raise (.str (Frame.placeAt 1 m.frames ++ octets "stack overflow"))
  else
    let f : LuaFrame := {
      chunk, proto, outer, origin, below
      locals := Array.replicate proto.slots .nil
      cells := Array.replicate proto.slots 0
      varargs := if proto.isVararg then args.drop proto.parameters.length else [] }
    let (f, m) := m.work (bindParameters f proto.parameters args)
    { m with frames := .lua f m.depth :: m.frames, mode := .run false }

/-- What a built-in function can see of its caller. -/
def caller (m : Machine) : Caller :=
  ⟨m.current, m.frames, m.threads, m.isHooked⟩

/-- Calls a value. -/
def callValue (m : Machine) (f : Value) (args : List Value) (origin : Origin) : Machine :=
  match f with
  | .func id =>
    match m.heap.function id with
    | .script chunk number cells => m.enter chunk number cells args origin
    | .native g captured => m.act (g.call m.caller captured args) (some g) origin
  | f =>
    match m.heap.metamethod f "__call" with
    | .nil =>
      let origin := match m.frames with
        | .lua .. :: _ => origin
        | _ => .unknown
      m.fail (.located (Instr.refusal m.heap "call" f origin)) none origin
    | handler => { m with mode := .call handler (f :: args) origin false }

/-- Whether a call of a value enters a script function at once. -/
def isScript (h : Heap) : Value → Bool
  | .func id =>
    match h.function id with
    | .script .. => true
    | .native .. => false
  | _ => false

/-! ### The collector -/

/-- The collector takes its turn, between two instructions. -/
def collect (m : Machine) : Machine :=
  match m.work Heap.collected with
  | (none, m) => { m with mode := .run false }
  | (some (handler, id), m) => (m.push .finalizing).deeper (·.invoke handler [.table id])

/-- A finalizer has ended, with an error perhaps, which is forgotten. The collector goes on. -/
def finalized (m : Machine) : Machine :=
  { m with heap := m.heap.occupy false }.collect

/-! ### Instructions -/

/-- Whether a hook delivers calls on a thread or on one that it was resumed by. -/
def isDelivering (threads : Array Thread) (ticket : Nat) : Nat → Option Nat → Bool
  | 0, _ => false
  | _, none => false
  | fuel + 1, some id =>
    let t := Thread.at threads id
    (t.frames.any fun
      | .cont c _ => c.drain? = some (.hook ticket)
      | .lua .. => false) || isDelivering threads ticket fuel t.resumer

/-- What the count of a thread comes to before an instruction. -/
inductive Count
  | go
  | countDown (left : Nat)
  /-- The hook runs, and the count starts anew. -/
  | poll
  /-- The hook is meant for another thread: this one is not looked after any more. -/
  | remove

/-- Whether the hook runs before an instruction of a frame above `rest`, unless the inbox
has been looked after already. -/
def polls (m : Machine) (polled : Bool) (i : Instr) (rest : List Frame) : Count :=
  match m.interval with
  | none => .go
  | some interval =>
    if !i.counts || polled then .go
    else
      match (m.thread m.current).hook with
      | none => .go
      | some left =>
        if 1 < left then .countDown (left - 1)
        -- its turn has come, but it does not run within itself or in a finalizer, and only for the
        -- thread that owns it
        else if rest.any Frame.isHook || rest.any Frame.isFinalizing then .countDown interval
        else if m.hookOwner ≠ m.current then .remove
        else if isDelivering m.threads m.hookTicket (m.threads.size + 1)
            (m.thread m.current).resumer then .countDown interval
        else .poll

def setHook (m : Machine) (hook : Option Nat) : Machine :=
  let current := m.current
  m.modifyThread current fun t => { t with hook }

/-- Does what an instruction comes to; `d` is the depth of the frame. -/
def effect (m : Machine) (e : Effect) (d : Nat) : Machine :=
  match e with
  | .next f => { m with frames := .lua f d :: m.frames, depth := d }.collect
  | .fault f message =>
    let e : Value := .str (f.place ++ message)
    { m with frames := .lua f d :: m.frames, depth := d, mode := .raise e }
  | .call f callee args origin isMeta =>
    let m := { m with frames := .lua f d :: m.frames, depth := d }
    let next (m : Machine) : Machine := { m with mode := .call callee args origin false }
    if isMeta then m.deeper next else next m
  | .tail f callee args origin =>
    if isScript m.heap callee then { m with depth := d, mode := .call callee args origin false }
    else { m with frames := .lua f d :: m.frames, depth := d, mode := .call callee args origin false }
  | .leave values => { m with depth := d, mode := .give values }

/-- Takes an instruction off the count. -/
def counted (m : Machine) : Count → Machine
  | .countDown left => m.setHook (some left)
  | .remove => m.setHook none
  | _ => m

/-- Executes the next instruction of a frame, unless the inbox is looked after first. -/
def runFrame (m : Machine) (polled : Bool) (f : LuaFrame) (d : Nat) : Machine :=
  match f.proto.code[f.pc]? with
  | none => { m with depth := d, mode := .give [] }
  | some i =>
    let count := m.polls polled i m.frames
    match count with
    | .poll =>
      let m := m.setHook m.interval
      let m := { m with frames := .lua f d :: m.frames, depth := d }
      { m with mode := .ask (.hookPoll m.hookTicket) }
    | count =>
      let (e, m) := (m.counted count).work (i.execute { f with pc := f.pc + 1 })
      m.effect e d

/-- Executes the innermost frame. -/
def runTop (m : Machine) (polled : Bool) : Machine :=
  match m with
  | ⟨heap, threads, current, frames, depth, mode, interval, owner, ticket, robot⟩ =>
    match frames with
    | .lua f d :: rest =>
      (Machine.mk heap threads current rest depth mode interval owner ticket robot).runFrame polled f d
    | frames => (Machine.mk heap threads current frames depth mode interval owner ticket robot).give []

/-! ### Errors -/

/-- The nearest boundary of an error. -/
def boundary : List Frame → Option Cont
  | [] => none
  | .cont c _ :: rest => if c.isBoundary then some c else boundary rest
  | .lua .. :: rest => boundary rest

def isHostObject (h : Heap) : Value → Bool
  | .object id =>
    match h.object id with
    | .stream _ => false
    | _ => true
  | _ => false

/-- Runs the message handler of the nearest boundary. -/
def handle (m : Machine) (e : Value) : Machine :=
  match boundary m.frames with
  | none =>
    match m.resumption? with
    | some (.resuming _ .wrapped) => { m with mode := .unwind e }
    | some (.closingThread _) => { m with mode := .unwind e }
    | _ => m.die e
  -- the handler runs before anything is unwound, so that it can look at the place of the error
  | some (.native (.xpcall handler)) =>
    (m.push .handling).deeper (·.invoke handler [e])
  | some c =>
    if !c.isHostCall || isHostObject m.heap e then { m with mode := .unwind e }
    else
      match Basics.describe m.heap e with
      | .ok s => { m with mode := .unwind (.str (s ++ octets ("\n" ++ trace))) }
      | .error (handler, _) => (m.push .describing).deeper (·.invoke handler [e])

/-- Goes on with an error that ended a call of the host inside a host function. -/
def unwindHost (m : Machine) (e : Value) : Machine :=
  let (r, m) := m.work (Exchange.failure e)
  match r with
  | .ok f => m.raiseFailure f
  | .error f => m.fail f none .unknown

/-- Reports the failure of a queued call. -/
def unwindDelivery (m : Machine) (reason : DrainReason) (invocation : Invocation) (e : Value) :
    Machine :=
  let (r, m) := m.work (Exchange.failure e)
  match r with
  | .ok f => m.drain reason (.report invocation f.message)
  | .error f => m.fail f none .unknown

/-- Leaves the innermost frame because of an error. -/
def unwindTop (m : Machine) (e : Value) : Machine :=
  match m.frames with
  | [] => m.die e
  | .lua f d :: rest =>
    match f.closing with
    | [] => { m with frames := rest, mode := .unwind e }
    | c :: cs =>
      -- a variable that is to be closed learns of the error, which is raised again afterwards
      let handler := m.heap.metamethod c.value "__close"
      let f := { f with closing := cs }
      ({ m with frames := .lua f d :: rest, depth := d }.push (.rethrow e)).deeper
        fun m => { m with mode := .call handler [c.value, e] (.metamethod (octets "close")) true }
  | .cont c d :: rest =>
    let m := { m with frames := rest, depth := d }
    match c with
    | .entry => { m with mode := .ended (.error e) }
    -- only a protected call ends the unwinding with values
    | .native .pcall => m.give [.bool false, e]
    | .native (.xpcall _) => m.give [.bool false, e]
    | .native (.printLookup _) => m.unwindHost e
    | .native (.printing ..) => m.unwindHost e
    | .describingFailure => m.unwindHost e
    | .finalizing => m.finalized
    | .drainLookup reason invocation => m.unwindDelivery reason invocation e
    | .drainCall reason invocation => m.unwindDelivery reason invocation e
    | _ => { m with mode := .unwind e }

/-! ### Values -/

/-- Gives values to the innermost frame. -/
def giveTop (m : Machine) (values : List Value) : Machine :=
  -- the record is taken apart, so that nothing else holds the frames while they change
  match m with
  | ⟨heap, threads, current, frames, depth, mode, interval, owner, ticket, robot⟩ =>
    match frames with
    | [] =>
      (Machine.mk heap threads current [] depth mode interval owner ticket robot).finish values
    | .lua f d :: rest =>
      let e := f.accept values heap
      (Machine.mk heap threads current rest depth mode interval owner ticket robot).effect e d
    | .cont c d :: rest =>
      let m := Machine.mk heap threads current rest d mode interval owner ticket robot
      match c with
      | .entry => { m with mode := .ended (.ok values) }
      | .native k => m.act (k.withResults values) none .unknown
      | .handling => { m with mode := .unwind (values.headD .nil) }
      | .describing =>
        match Args.asText? (values.headD .nil) with
        | some s => { m with mode := .unwind (.str (s ++ octets ("\n" ++ trace))) }
        | none => m.fail (.located (octets "'__tostring' must return a string")) none .unknown
      | .describingFailure =>
        match Args.asText? (values.headD .nil) with
        | some s => m.raiseFailure (.runtime (Text.Utf8.lossy s ++ "\n" ++ trace))
        | none => m.raiseFailure (.runtime ("'__tostring' must return a string\n" ++ trace))
      | .rethrow e => { m with mode := .unwind e }
      | .finalizing => m.finalized
      | .resuming .. => m.give values
      | .closingThread _ => m.give values
      | .drainLookup reason i =>
        m.drain reason (Robot.deliver m.heap robot i (values.headD .nil))
      | .drainCall reason _ => m.drain reason .take

/-- A step of the interpreter. -/
def step (m : Machine) : Machine :=
  match m.mode with
  | .run polled => m.runTop polled
  | .call f args origin _ => m.callValue f args origin
  | .give values => m.giveTop values
  | .raise e => m.handle e
  | .unwind e => m.unwindTop e
  | .ask _ => m
  | .ended _ => m

/-- Whether the interpreter waits for the host. -/
def isWaiting (m : Machine) : Bool :=
  match m.mode with
  | .ask _ => true
  | .ended _ => true
  | _ => false

/-- Steps until the host is needed; `fuel` bounds their number. -/
def advance : Nat → Machine → Machine
  | 0, m => m
  | fuel + 1, m => if m.isWaiting then m else advance fuel m.step

/-- Goes on with the host's answer. -/
def answer (m : Machine) (a : Answer) : Machine :=
  match m with
  | ⟨heap, threads, current, frames, depth, .ask w, interval, owner, ticket, robot⟩ =>
    let m := Machine.mk heap threads current frames depth (.run false) interval owner ticket robot
    match w, a with
    | .native (.sleepCheck _), .flag true => m.drain .sleep .take
    | .native r, a => m.act (r.withAnswer a) none .unknown
    | .hookPoll ticket, .flag true => m.drain (.hook ticket) .take
    | .hookPoll _, _ => { m with mode := .run true }
    | .drainTake reason, .invocation (some i) => m.drain reason (Robot.taken m.heap robot i)
    | .drainTake reason, _ => m.drained reason
    | .drainReport reason .., _ => m.drain reason .take
  | m => m

/-- A call by the host, which ends with the mode `ended`. -/
def start (m : Machine) (f : Value) (args : List Value) : Machine :=
  ({ m with current := 0, frames := [], depth := 0 }.push .entry).deeper (·.invoke f args)

end Machine

end RobotSession.Lua
