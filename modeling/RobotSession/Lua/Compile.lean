import RobotSession.Lua.Code

/-!
# From programs to instructions

`Chunk.ofProgram` gives the instructions of a program. Code is emitted with labels,
and the labels are replaced by places once the function is complete.

* `Emit.expr` emits code that leaves a wanted number of values.
* `Emit.exprs` does the same for a list of expressions.
* `Emit.stat` emits a statement, which leaves the operand stack as it was.
-/

namespace RobotSession.Lua

namespace Expr

def isEnvironment : Expr → Bool
  | .localVar v => v.name = Text.octets "_ENV"
  | .outerVar _ name => name = Text.octets "_ENV"
  | _ => false

/-- Where the value of an expression comes from. -/
def origin : Expr → Origin
  | .const (.str s) => .constant s
  | .localVar v => .localVar v.name
  | .outerVar _ name => .upvalue name
  | .index object (.const (.str s)) _ =>
    if object.isEnvironment then .global s else .field s
  | .index _ (.const (.int i)) _ =>
    if 0 ≤ i && i < 256 then .field (Text.octets "integer index") else .field (Text.octets "?")
  | .index .. => .field (Text.octets "?")
  | .paren e => e.origin
  | _ => .unknown

/-- Whether an expression can have any number of values. -/
def isMulti : Expr → Bool
  | .call .. => true
  | .method .. => true
  | .vararg => true
  | _ => false

end Expr

/-- A function being emitted. -/
structure Emitting where
  code : Array Instr := #[]
  lines : Array Nat := #[]
  /-- Places of labels, by label. -/
  labels : List (Nat × Nat) := []
  nextLabel : Nat
  jumps : List (Nat × Nat)
  captured : List Nat
  /-- Functions that are complete. -/
  protos : Array Proto

abbrev Emit := StateM Emitting

namespace Emit

/-- Emits an instruction; line 0 stands for the line of the instruction before. -/
def instr (i : Instr) (line : Nat) : Emit Unit :=
  modify fun s =>
    let line := if line = 0 then s.lines.back?.getD 0 else line
    { s with code := s.code.push i, lines := s.lines.push line }

def newLabel : Emit Nat :=
  modifyGet fun s => (s.nextLabel, { s with nextLabel := s.nextLabel + 1 })

/-- Puts a label here. -/
def place (label : Nat) : Emit Unit :=
  modify fun s => { s with labels := (label, s.code.size) :: s.labels }

def isCell (v : Variable) : Emit Bool := do
  return (← get).captured.contains v.declaration

def getVar (v : Variable) (line : Nat) : Emit Unit := do
  if ← isCell v then instr (.getCell v.slot) line else instr (.getLocal v.slot) line

def setVar (v : Variable) (line : Nat) : Emit Unit := do
  if ← isCell v then instr (.setCell v.slot) line else instr (.setLocal v.slot) line

/-- Takes the top value as the first value of a variable. -/
def initVar (v : Variable) (line : Nat) : Emit Unit := do
  if ← isCell v then instr (.newCell v.slot) line else instr (.setLocal v.slot) line

/-- First values of variables, the last one on top. -/
def initVars (vs : List Variable) (line : Nat) : Emit Unit :=
  vs.reverse.forM fun v => initVar v line

def pushNils (n line : Nat) : Emit Unit :=
  (List.replicate n ()).forM fun _ => instr (.push .nil) line

/-- How many values an expression is to leave. -/
inductive Want
  | one
  | exactly (n : Nat)
  /-- All of them; only of an expression that can have any number. -/
  | all

def Want.count? : Want → Option Nat
  | .one => some 1
  | .exactly n => some n
  | .all => none

/-- Adjusts the one value on the stack to the wanted number. -/
def Want.adjust (w : Want) (line : Nat) : Emit Unit :=
  match w with
  | .exactly 0 => instr (.drop 1) line
  | .exactly (n + 1) => pushNils n line
  | _ => pure ()

/-- Replaces labels by places. -/
def Emitting.finish (s : Emitting) : Array Instr :=
  let target (label : Nat) : Nat := (s.labels.lookup label).getD s.code.size
  s.code.map fun i =>
    match i with
    | .jump t => .jump (target t)
    | .unless t => .unless (target t)
    | .andJump t => .andJump (target t)
    | .orJump t => .orJump (target t)
    | .countPrepare state exit => .countPrepare state (target exit)
    | .countStep state body => .countStep state (target body)
    | .iterTest state want body => .iterTest state want (target body)
    | i => i

/-- How many targets of an assignment are fields. -/
def fieldTargets : List Expr → Nat
  | [] => 0
  | .index .. :: rest => fieldTargets rest + 1
  | _ :: rest => fieldTargets rest

/-- Stores the values on the stack into targets, the last one first; `above` is the
number of values below the top one that are still to be stored. -/
def storeTargets : List Expr → Nat → Nat → Emit Unit
  | [], _, _ => pure ()
  | t :: rest, line, before => do
    storeTargets rest line (before + 1)
    match t with
    | .localVar v => setVar v line
    | .outerVar i _ => instr (.setOuter i) line
    | .index object .. => instr (.store (before + 2 * fieldTargets rest) object.origin) line
    | _ => instr (.drop 1) line

mutual

/-- Leaves the wanted number of values of an expression. -/
def expr (e : Expr) (line : Nat) (want : Want) : Emit Unit :=
  match e with
  | .const v => do
    instr (.push v) line
    want.adjust line
  -- these two leave as many values as are wanted, so that nothing is to be adjusted
  | .vararg => instr (.vararg want.count?) line
  | .localVar v => do
    getVar v line
    want.adjust line
  | .outerVar i _ => do
    instr (.getOuter i) line
    want.adjust line
  | .index object key at_ => do
    expr object at_ .one
    match key with
    -- a constant name is part of the instruction, and of its error
    | .const (.str s) => instr (.field s object.origin) at_
    | key => do
      expr key at_ .one
      instr (.index object.origin) at_
    want.adjust line
  | .call f args at_ => do
    expr f at_ .one
    -- an open list ends in a call or in `...`, whose values are counted at run time
    let isOpen ← arguments args at_
    instr (.call (if isOpen then args.length - 1 else args.length) isOpen want.count? f.origin) at_
  | .method object name args nameLine at_ => do
    expr object nameLine .one
    instr (.self name object.origin) nameLine
    let isOpen ← arguments args at_
    -- the object comes before the arguments
    let count := if isOpen then args.length else args.length + 1
    instr (.call count isOpen want.count? (.method name)) at_
  | .function f => do
    function f line
    want.adjust line
  | .binary op left right at_ => do
    expr left at_ .one
    expr right at_ .one
    instr (.binary op left.origin right.origin) at_
    want.adjust line
  | .unary op operand at_ => do
    expr operand at_ .one
    instr (.unary op operand.origin) at_
    want.adjust line
  | .and left right => do
    let exit ← newLabel
    expr left line .one
    -- the jump keeps the value that decides, and drops it otherwise
    instr (.andJump exit) line
    expr right line .one
    place exit
    want.adjust line
  | .or left right => do
    let exit ← newLabel
    expr left line .one
    instr (.orJump exit) line
    expr right line .one
    place exit
    want.adjust line
  | .table list at_ => do
    instr .newTable at_
    fields list at_ 1 0
    want.adjust line
  | .paren inner => do
    -- brackets cut several values to one
    expr inner line .one
    want.adjust line

/-- Leaves values of which the last may be open; says whether it is. -/
def arguments (es : List Expr) (line : Nat) : Emit Bool :=
  match es with
  | [] => return false
  | [e] => do
    expr e line (if e.isMulti then .all else .one)
    return e.isMulti
  | e :: rest => do
    expr e line .one
    arguments rest line

/-- Leaves exactly `want` values of expressions. -/
def exprs (es : List Expr) (want line : Nat) : Emit Unit :=
  match es with
  | [] => pushNils want line
  | [e] => expr e line (.exactly want)
  | e :: rest => do
    expr e line .one
    if want = 0 then instr (.drop 1) line
    exprs rest (want - 1) line

/-- Fills the table on the stack; `next` is the next position, and the `waiting`
values above the table belong before it. -/
def fields (fs : List Field) (line next waiting : Nat) : Emit Unit :=
  match fs with
  | [] => if waiting = 0 then pure () else instr (.setItems (next - waiting) waiting false) line
  -- only the last item may stand for several values
  | [.item e] => do
    expr e line (if e.isMulti then .all else .one)
    instr (.setItems (next - waiting) (if e.isMulti then waiting else waiting + 1) e.isMulti) line
  | .item e :: rest => do
    expr e line .one
    -- items are stored fifty at a time, so that they do not fill the stack
    if waiting = 49 then
      instr (.setItems (next - waiting) 50 false) line
      fields rest line (next + 1) 0
    else fields rest line (next + 1) (waiting + 1)
  | .keyed key value at_ :: rest => do
    if waiting ≠ 0 then instr (.setItems (next - waiting) waiting false) line
    expr key at_ .one
    expr value at_ .one
    instr .setField at_
    fields rest line next 0

/-- Leaves a new function. -/
def function (f : FunctionBody) (line : Nat) : Emit Unit :=
  match f with
  | { parameters, isVararg, body, outer, captured, slots, jumps, marks, line := at_, lastLine, .. } => do
    let around ← get
    set ({ nextLabel := marks, jumps, captured, protos := around.protos } : Emitting)
    stats body
    instr (.ret 0 false) lastLine
    let s ← get
    let proto : Proto := {
      code := Emitting.finish s, lines := s.lines
      parameters := parameters.map fun v => (v.slot, captured.contains v.declaration)
      isVararg, slots, outer, line := at_ }
    set { around with protos := s.protos.push proto }
    instr (.closure s.protos.size) line

/-- Emits statements in order. -/
def stats (ss : List Stat) : Emit Unit :=
  match ss with
  | [] => pure ()
  | s :: rest => do
    stat s
    stats rest

/-- Leaves the objects and keys of the targets of an assignment. -/
def targets (es : List Expr) (line : Nat) : Emit Unit :=
  match es with
  | [] => pure ()
  | .index object key at_ :: rest => do
    expr object at_ .one
    expr key at_ .one
    targets rest line
  | _ :: rest => targets rest line

/-- Emits a statement. -/
def stat (s : Stat) : Emit Unit :=
  match s with
  | .callOnly e => expr e 0 (.exactly 0)
  | .assign ts values line => do
    targets ts line
    exprs values ts.length line
    storeTargets ts line 0
    if 0 < fieldTargets ts then instr (.drop (2 * fieldTargets ts)) line
  | .declare vars values closes line => do
    exprs values vars.length line
    initVars vars line
    if let some v := closes then instr (.closeLater v.slot (← isCell v) v.name) line
  | .declareFunction v f => do
    -- the variable exists before the function, which may refer to it
    if ← isCell v then
      instr (.push .nil) f.line
      instr (.newCell v.slot) f.line
    function f f.line
    setVar v f.line
  | .block base body => do
    stats body
    closeAfter base body
  | .whileLoop condition base body exit line => do
    let start ← newLabel
    place start
    expr condition line .one
    instr (.unless exit) line
    stats body
    closeAfter base body
    instr (.jump start) line
    place exit
    instr (.close base) line
  | .untilLoop base body condition exit => do
    let start ← newLabel
    place start
    stats body
    expr condition 0 .one
    closeAfter base body
    instr (.unless start) 0
    place exit
    instr (.close base) 0
  | .branch condition base yes no => do
    let other ← newLabel
    let exit ← newLabel
    expr condition 0 .one
    instr (.unless other) 0
    stats yes
    closeAfter base yes
    if !no.isEmpty then instr (.jump exit) 0
    place other
    stats no
    closeAfter base no
    place exit
  | .countLoop state var start limit step body exit prepareLine line => do
    let top ← newLabel
    expr start prepareLine .one
    expr limit prepareLine .one
    match step with
    | some e => expr e prepareLine .one
    | none => instr (.push (.int 1)) prepareLine
    instr (.countPrepare state exit) prepareLine
    place top
    initVar var line
    stats body
    closeAfter (state + 3) body
    instr (.countStep state top) line
    place exit
    instr (.close state) line
  | .iterLoop state vars values body exit line => do
    let top ← newLabel
    let test ← newLabel
    exprs values 4 line
    instr (.iterPrepare state) line
    instr (.jump test) line
    place top
    initVars vars line
    stats body
    closeAfter (state + 4) body
    place test
    instr (.iterCall state vars.length) line
    instr (.iterTest state vars.length top) line
    place exit
    instr (.close state) line
  | .ret values line =>
    match values with
    | [.call f args at_] => do
      expr f at_ .one
      let isOpen ← arguments args at_
      instr (.tailCall (if isOpen then args.length - 1 else args.length) isOpen f.origin) at_
    | [.method object name args nameLine at_] => do
      expr object nameLine .one
      instr (.self name object.origin) nameLine
      let isOpen ← arguments args at_
      let count := if isOpen then args.length else args.length + 1
      instr (.tailCall count isOpen (.method name)) at_
    | values => do
      let isOpen ← arguments values line
      instr (.ret (if isOpen then values.length - 1 else values.length) isOpen) line
  | .jump id line => do
    let s ← get
    instr (.jump ((s.jumps.lookup id).getD id)) line
  | .label id base => do
    place id
    instr (.close base) 0

/-- Closes the variables of a block that ends here, if it declares one to be closed. -/
def closeAfter (base : Nat) (body : List Stat) : Emit Unit :=
  if body.any fun s => match s with | .declare _ _ (some _) _ => true | _ => false
  then instr (.close base) 0
  else pure ()

end

end Emit

/-- The instructions of a program. -/
def Chunk.ofProgram (name : ByteArray) (f : FunctionBody) : Chunk :=
  let ((), s) := (Emit.function f 0).run { nextLabel := 0, jumps := [], captured := [], protos := #[] }
  { name, protos := s.protos }

end RobotSession.Lua
