import RobotSession.Lua.Library.Tables

/-!
# The meaning of instructions

`LuaFrame.execute` carries out one instruction of a script function. What it comes to
is an `Effect`: the frame goes on, or a call is made, or an error is raised, or the
function has ended. Calls and errors are left to the machine.
-/

namespace RobotSession.Lua

open Text (octets)

/-- What an instruction comes to. -/
inductive Effect
  | next (f : LuaFrame)
  /-- Raise an error with the place of the frame in front. -/
  | fault (f : LuaFrame) (message : ByteArray)
  /-- Make a call; `isMeta` says that it is one of a metamethod. -/
  | call (f : LuaFrame) (callee : Value) (args : List Value) (origin : Origin) (isMeta : Bool)
  /-- Make a call in the place of the frame. -/
  | tail (f : LuaFrame) (callee : Value) (args : List Value) (origin : Origin)
  /-- The function has ended. -/
  | leave (values : List Value)

namespace LuaFrame

/-- The place of the last instruction, for messages. -/
def place (f : LuaFrame) : ByteArray :=
  let line := f.proto.lines.getD (f.pc - 1) 0
  f.chunk.name ++ octets s!":{line}: "

def push (f : LuaFrame) (v : Value) : LuaFrame :=
  { f with stack := v :: f.stack }

/-- Pushes values, the last one on top. -/
def pushAll (f : LuaFrame) (vs : List Value) : LuaFrame :=
  { f with stack := vs.foldl (fun s v => v :: s) f.stack }

/-- The first `n` values, `nil` for those that are missing. -/
def adjust : Nat → List Value → List Value
  | 0, _ => []
  | n + 1, [] => .nil :: adjust n []
  | n + 1, v :: vs => v :: adjust n vs

/-- Pushes the wanted number of values, or all of them as open values. -/
def pushWanted (f : LuaFrame) (want : Option Nat) (vs : List Value) : LuaFrame :=
  match want with
  | some n => f.pushAll (adjust n vs)
  | none => { f.pushAll vs with openCount := vs.length }

/-- The top `n` values in the order in which they were pushed, and what is below. -/
def popAll (f : LuaFrame) (n : Nat) : List Value × List Value :=
  go n f.stack []
where
  go : Nat → List Value → List Value → List Value × List Value
    | 0, stack, acc => (acc, stack)
    | _ + 1, [], acc => (acc, [])
    | n + 1, v :: stack, acc => go n stack (v :: acc)

/-- The top value and the frame without it. -/
def pop (f : LuaFrame) : Value × LuaFrame :=
  match f with
  | { stack := v :: rest, .. } => (v, { f with stack := rest })
  | _ => (.nil, f)

def setLocal (f : LuaFrame) (slot : Nat) (v : Value) : LuaFrame :=
  { f with locals := f.locals.set! slot v }

def getLocal (f : LuaFrame) (slot : Nat) : Value :=
  f.locals.getD slot .nil

/-- Ends the function with values, once the variables that are to be closed are. -/
def returning (f : LuaFrame) (values : List Value) (h : Heap) : Effect :=
  match f.closing with
  | [] => .leave values
  | c :: rest =>
    .call { f with closing := rest, await := .leave values }
      (h.metamethod c.value "__close") [c.value, .nil] (.metamethod (octets "close")) true

/-- Takes the results of the call the frame waits for. -/
def accept (f : LuaFrame) (values : List Value) (h : Heap) : Effect :=
  match f.await with
  | .results want => .next (f.pushWanted want values)
  | .discard => .next f
  | .truth negate => .next (f.push (.bool ((values.headD .nil).truthy != negate)))
  | .returning => f.returning values h
  | .leave saved => f.returning saved h
  | .selfOf object => .next ((f.push (values.headD .nil)).push object)

end LuaFrame

namespace Instr

/-- A message about a value that does not admit an operation. -/
def refusal (h : Heap) (what : String) (v : Value) (origin : Origin) : ByteArray :=
  octets s!"attempt to {what} a " ++ h.typeName v ++ octets " value" ++ origin.mention

/-- A call of a metamethod that gives one value. -/
def meta1 (f : LuaFrame) (handler : Value) (args : List Value) (event : String) : Effect :=
  .call { f with await := .results (some 1) } handler args (.metamethod (octets event)) true

def loopText : ByteArray :=
  octets "'__index' chain too long; possibly a loop"

/-- Reads a field; `keep` says what to do with its value. -/
def read (f : LuaFrame) (object key : Value) (origin : Origin) (keep : Await) :
    Work Effect := do
  let h ← get
  match Access.read h object key with
  | .value v => return { f with await := keep }.accept [v] h
  | .handler g o =>
    return .call { f with await := keep } g [o, key] (.metamethod (octets "index")) true
  | .notIndexable o =>
    let origin := if object matches .table _ then .unknown else origin
    return .fault f (refusal h "index" o origin)
  | .tooLong => return .fault f loopText

/-- Writes a field. -/
def write (f : LuaFrame) (object key value : Value) (origin : Origin) : Work Effect := do
  let h ← get
  match Access.write h object key with
  | .raw id k =>
    Work.modifyTable id (·.set k value)
    return .next f
  | .handler g o =>
    return .call { f with await := .discard } g [o, key, value] (.metamethod (octets "newindex")) true
  | .notIndexable o =>
    let origin := if object matches .table _ then .unknown else origin
    return .fault f (refusal h "index" o origin)
  | .nilKey => return .fault f (octets "table index is nil")
  | .nanKey => return .fault f (octets "table index is NaN")
  | .tooLong => return .fault f (octets "'__newindex' chain too long; possibly a loop")

/-- The event of an operator. -/
def eventName : BinaryOp → String
  | .add => "add" | .sub => "sub" | .mul => "mul" | .mod => "mod" | .pow => "pow"
  | .div => "div" | .idiv => "idiv" | .band => "band" | .bor => "bor" | .bxor => "bxor"
  | .shl => "shl" | .shr => "shr" | .concat => "concat"
  | .eq => "eq" | .ne => "eq" | .lt => "lt" | .gt => "lt" | .le => "le" | .ge => "le"

/-- The metamethod of the first operand that has one. -/
def handlerOf (h : Heap) (a b : Value) (event : String) : Value :=
  let event := "__" ++ event
  match h.metamethod a event with
  | .nil => h.metamethod b event
  | handler => handler

/-- A string that reads as a number, as that number. -/
def numeric (v : Value) : Value :=
  match v with
  | .str s => (Numeral.ofString s).getD v
  | v => v

/-- An arithmetic or bitwise operator. -/
def arithmetic (f : LuaFrame) (op : BinaryOp) (a b : Value) (left right : Origin) :
    Work Effect := do
  let isBitwise := Arithmetic.isBitwise op
  -- only the bitwise operations read a text as the number it spells before they look at it
  let (x, y) := if isBitwise then (numeric a, numeric b) else (a, b)
  match Arithmetic.binary op x y with
  | .ok v => return .next (f.push v)
  | .error .divisionByZero => return .fault f (octets "attempt to divide by zero")
  | .error .remainderByZero => return .fault f (octets "attempt to perform 'n%%0'")
  | .error _ =>
    let h ← get
    match handlerOf h a b (eventName op) with
    | .nil =>
      -- with no handler the operand to blame is named: the second one if the first one would do
      if isBitwise && Arithmetic.isNumber a && Arithmetic.isNumber b then
        let origin := if (Arithmetic.toInt? a).isSome then right else left
        return .fault f (octets "number" ++ origin.mention ++ octets " has no integer representation")
      else
        let (v, origin) := if Arithmetic.isNumber a then (b, right) else (a, left)
        let what := if isBitwise then "perform bitwise operation on" else "perform arithmetic on"
        return .fault f (refusal h what v origin)
    | handler => return meta1 f handler [a, b] (eventName op)

def concat (f : LuaFrame) (a b : Value) (left right : Origin) : Work Effect := do
  match Args.asText? a, Args.asText? b with
  | some s, some t => return .next (f.push (.str (s ++ t)))
  | s?, _ =>
    let h ← get
    match handlerOf h a b "concat" with
    | .nil =>
      let (v, origin) := if s?.isSome then (b, right) else (a, left)
      return .fault f (refusal h "concatenate" v origin)
    | handler => return meta1 f handler [a, b] "concat"

/-- Whether two values can be equal by a metamethod. -/
def comparable : Value → Value → Bool
  | .table _, .table _ => true
  | .object _, .object _ => true
  | _, _ => false

def equal (f : LuaFrame) (a b : Value) (negate : Bool) : Work Effect := do
  if a.rawEq b then return .next (f.push (.bool (!negate)))
  else if !comparable a b then return .next (f.push (.bool negate))
  else
    match handlerOf (← get) a b "eq" with
    | .nil => return .next (f.push (.bool negate))
    | handler =>
      return .call { f with await := .truth negate } handler [a, b] (.metamethod (octets "eq")) true

/-- Whether `a` is below `b`, or at most `b`. -/
def order (f : LuaFrame) (a b : Value) (strict : Bool) : Work Effect := do
  match (if strict then Arithmetic.less? a b else Arithmetic.lessEq? a b) with
  | some r => return .next (f.push (.bool r))
  | none =>
    let h ← get
    let event := if strict then "lt" else "le"
    match handlerOf h a b event with
    | .nil => return .fault f (Library.Tables.orderFault h a b)
    | handler =>
      return .call { f with await := .truth false } handler [a, b] (.metamethod (octets event)) true

def binaryOp (f : LuaFrame) (op : BinaryOp) (a b : Value) (left right : Origin) : Work Effect :=
  match op with
  | .concat => concat f a b left right
  | .eq => equal f a b false
  | .ne => equal f a b true
  | .lt => order f a b true
  | .le => order f a b false
  | .gt => order f b a true
  | .ge => order f b a false
  | op => arithmetic f op a b left right

def unaryOp (f : LuaFrame) (op : UnaryOp) (a : Value) (origin : Origin) : Work Effect := do
  let h ← get
  match op with
  | .not => return .next (f.push (.bool !a.truthy))
  | .len =>
    -- the length of a text is never overridden, that of a table may be
    match a, h.metamethod a "__len" with
    | .str s, _ => return .next (f.push (.int (Int64.ofNat s.size)))
    | .table id, .nil => return .next (f.push (.int (Int64.ofNat (h.table id).border)))
    | _, .nil => return .fault f (refusal h "get length of" a origin)
    | _, handler => return meta1 f handler [a, a] "len"
  | op =>
    -- what is left is a sign or a bitwise complement
    let isBitwise := op = .bnot
    match Arithmetic.unary op (if isBitwise then numeric a else a) with
    | .ok v => return .next (f.push v)
    | .error _ =>
      let event := if isBitwise then "bnot" else "unm"
      match h.metamethod a ("__" ++ event) with
      | .nil =>
        if isBitwise && Arithmetic.isNumber a then
          return .fault f (octets "number" ++ origin.mention ++ octets " has no integer representation")
        else
          let what := if isBitwise then "perform bitwise operation on" else "perform arithmetic on"
          return .fault f (refusal h what a origin)
      | handler => return meta1 f handler [a, a] event

/-- The cells of a new function. -/
def capture (f : LuaFrame) (sources : List OuterSource) : Array Nat :=
  sources.foldl (fun acc s =>
    match s with
    | .enclosing slot => acc.push (f.cells.getD slot 0)
    | .shared i => acc.push (f.outer.getD i 0)) #[]

def storeCell (cell : Nat) (v : Value) : Work Unit :=
  modify fun h => { h with cells := h.cells.set! cell v }

/-- Fills positions of a table. -/
def fillItems (t : Table) (first : Nat) : List Value → Table
  | [] => t
  | v :: vs =>
    let t :=
      if t.items.size + 1 = first then { t with items := t.items.push v }
      else t.set (.int (Int64.ofNat first)) v
    fillItems t (first + 1) vs

/-- Marks a variable that is to be closed. -/
def markClosing (f : LuaFrame) (slot : Nat) (v : Value) (name : ByteArray) : Work Effect := do
  if !v.truthy then return .next f
  if ((← get).metamethod v "__close").isNil then
    return .fault f (octets "variable '" ++ name ++ octets "' got a non-closable value")
  else return .next { f with closing := ⟨slot, v⟩ :: f.closing }

/-- Carries out an instruction; `f` is at the next one already. -/
def execute (i : Instr) (f : LuaFrame) : Work Effect :=
  match i with
  | .push v => return .next (f.push v)
  | .getLocal slot => return .next (f.push (f.getLocal slot))
  | .setLocal slot =>
    let (v, f) := f.pop
    return .next (f.setLocal slot v)
  | .getCell slot => do return .next (f.push ((← get).cells.getD (f.cells.getD slot 0) .nil))
  | .setCell slot => do
    let (v, f) := f.pop
    storeCell (f.cells.getD slot 0) v
    return .next f
  | .newCell slot => do
    let (v, f) := f.pop
    let id ← Work.newCell v
    return .next { f with cells := f.cells.set! slot id }
  | .getOuter place => do return .next (f.push ((← get).cells.getD (f.outer.getD place 0) .nil))
  | .setOuter place => do
    let (v, f) := f.pop
    storeCell (f.outer.getD place 0) v
    return .next f
  | .index origin =>
    let (key, f) := f.pop
    let (object, f) := f.pop
    read f object key origin (.results (some 1))
  | .field name origin =>
    let (object, f) := f.pop
    read f object (.str name) origin (.results (some 1))
  | .store depth origin =>
    let (v, f) := f.pop
    match f.stack.drop depth with
    | key :: object :: _ => write f object key v origin
    | _ => return .next f
  | .self name origin =>
    let (object, f) := f.pop
    read f object (.str name) origin (.selfOf object)
  | .call args isOpen want origin =>
    let (values, below) := f.popAll (if isOpen then args + f.openCount else args)
    let callee := below.headD .nil
    return .call { f with stack := below.tail, await := .results want } callee values origin false
  | .tailCall args isOpen origin =>
    let (values, below) := f.popAll (if isOpen then args + f.openCount else args)
    let callee := below.headD .nil
    let f := { f with stack := below.tail, await := .returning }
    if f.closing.isEmpty then return .tail f callee values origin
    else return .call f callee values origin false
  | .ret count isOpen => do
    let (values, _) := f.popAll (if isOpen then count + f.openCount else count)
    return f.returning values (← get)
  | .vararg want => return .next (f.pushWanted want f.varargs)
  | .closure number => do
    let proto := f.chunk.protos.getD number default
    let v ← Work.newFunction (.script f.chunk number (capture f proto.outer))
    return .next (f.push v)
  | .binary op left right =>
    let (b, f) := f.pop
    let (a, f) := f.pop
    binaryOp f op a b left right
  | .unary op origin =>
    let (a, f) := f.pop
    unaryOp f op a origin
  | .jump target => return .next { f with pc := target }
  | .unless target =>
    let (v, f) := f.pop
    return .next (if v.truthy then f else { f with pc := target })
  | .andJump target =>
    let (v, g) := f.pop
    return .next (if v.truthy then g else { g.push v with pc := target })
  | .orJump target =>
    let (v, g) := f.pop
    return .next (if v.truthy then { g.push v with pc := target } else g)
  | .newTable => do return .next (f.push (← Work.newTable {}))
  | .setItems first count isOpen => do
    let (values, below) := f.popAll (if isOpen then count + f.openCount else count)
    if let .table id := below.headD .nil then Work.modifyTable id (fillItems · first values)
    return .next { f with stack := below }
  | .setField => do
    let (v, f) := f.pop
    let (key, f) := f.pop
    match f.stack.headD .nil, key.key? with
    | .table id, some k =>
      Work.modifyTable id (·.set k v)
      return .next f
    | _, _ =>
      return .fault f (octets (if key.isNil then "table index is nil" else "table index is NaN"))
  | .countPrepare state exit => do
    let (step, f) := f.pop
    let (limit, f) := f.pop
    let (start, f) := f.pop
    match Arithmetic.startCount start limit step with
    | .ok (some (a, l, s)) =>
      return .next ((((f.setLocal state a).setLocal (state + 1) l).setLocal (state + 2) s).push a)
    | .ok none => return .next { f with pc := exit }
    | .error .zeroStep => return .fault f (octets "'for' step is zero")
    | .error (.notNumber what v) =>
      let h ← get
      return .fault f (octets s!"bad 'for' {what} (number expected, got " ++ h.typeName v ++ octets ")")
  | .countStep state body =>
    match Arithmetic.nextCount (f.getLocal state, f.getLocal (state + 1), f.getLocal (state + 2)) with
    | some (a, l, s) =>
      let f := ((f.setLocal state a).setLocal (state + 1) l).setLocal (state + 2) s
      return .next { f.push a with pc := body }
    | none => return .next f
  | .iterPrepare state =>
    let (values, below) := f.popAll 4
    let f := (List.range 4).foldl (fun f k => f.setLocal (state + k) (values.getD k .nil))
      { f with stack := below }
    markClosing f (state + 3) (values.getD 3 .nil) (octets "(for state)")
  | .iterCall state want =>
    let args := [f.getLocal (state + 1), f.getLocal (state + 2)]
    return .call { f with await := .results (some want) } (f.getLocal state) args .iterator false
  | .iterTest state want body =>
    let (values, below) := f.popAll want
    match values.headD .nil with
    | .nil => return .next { f with stack := below }
    | v => return .next { f.setLocal (state + 2) v with pc := body }
  | .closeLater slot isCell name => do
    let h ← get
    let v := if isCell then h.cells.getD (f.cells.getD slot 0) .nil else f.getLocal slot
    markClosing f slot v name
  | .close base => do
    match f.closing with
    | c :: rest =>
      if base ≤ c.slot then
        -- the instruction is carried out again, for the variables that are left
        return .call { f with closing := rest, await := .discard, pc := f.pc - 1 }
          ((← get).metamethod c.value "__close") [c.value, .nil] (.metamethod (octets "close")) true
      else return .next f
    | [] => return .next f
  | .drop count => return .next { f with stack := f.stack.drop count }

end Instr

end RobotSession.Lua
