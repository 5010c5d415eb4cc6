import RobotSession.Lua.Ast
import RobotSession.Lua.Token

/-!
# From lexemes to abstract programs

A recursive descent over the lexemes that resolves names as it goes, so that of
several faults in a source the first one is reported, whether it is one of form
(`'end' expected`), of names (`attempt to assign to const variable`) or of jumps
(`no visible label`).

* `Scope` — what is known about the function being read: its variables in scope,
  its outer variables, its labels and open jumps.
* `Parser.chunk` — the main function of a source.

Every function takes a bound on the depth of the descent. `Parser.chunk` derives it
from the number of lexemes, and no descent takes more than a few steps per lexeme.
-/

namespace RobotSession.Lua

/-- How a local variable may be used. -/
inductive Access
  | regular
  | const
  | close
  deriving DecidableEq

/-- A local variable with its access. -/
structure Declared where
  var : Variable
  access : Access

/-- A label in scope. -/
structure Label where
  name : ByteArray
  id : Nat
  line : Nat
  /-- Number of variables in scope at the label. -/
  base : Nat

/-- A jump whose label has not been met. -/
structure OpenJump where
  name : ByteArray
  id : Nat
  line : Nat
  base : Nat

/-- A block being read. -/
structure Block where
  /-- Number of variables outside the block. -/
  base : Nat
  /-- The label behind the loop, if the block is one. -/
  exit : Option Nat
  labels : List Label := []
  jumps : List OpenJump := []

/-- A variable of an enclosing function. -/
structure Outer where
  name : ByteArray
  source : OuterSource
  access : Access

/-- A function being read. -/
structure Scope where
  line : Nat
  isVararg : Bool
  /-- Variables in scope, innermost first. -/
  locals : List Declared := []
  outer : Array Outer := #[]
  captured : List Nat := []
  blocks : List Block := []
  declarations : Nat := 0
  slots : Nat := 0
  /-- Numbers for labels and jumps. -/
  marks : Nat := 0
  resolved : List (Nat × Nat) := []

namespace Scope

/-- A local variable by name. -/
def local? (s : Scope) (name : ByteArray) : Option Declared :=
  s.locals.find? fun d => d.var.name = name

/-- An outer variable by name. -/
def outer? (s : Scope) (name : ByteArray) : Option Nat :=
  s.outer.findIdx? fun o => o.name = name

/-- Where a name was found. -/
inductive Found
  | localVar (d : Declared)
  | outerVar (index : Nat) (access : Access)

/-- Looks a name up in nested functions, innermost first. A variable found further
out becomes an outer variable of every function between. -/
def find (name : ByteArray) : List Scope → Option Found × List Scope
  | [] => (none, [])
  | s :: rest =>
    match s.local? name with
    | some d => (some (.localVar d), s :: rest)
    | none =>
      match s.outer? name with
      | some i => (some (.outerVar i ((s.outer[i]?.map (·.access)).getD .regular)), s :: rest)
      | none =>
        -- a name of an enclosing function becomes an outer variable of this one, and of each in
        -- between
        match find name rest with
        | (none, rest) => (none, s :: rest)
        | (some found, rest) =>
          let (source, access, rest) : OuterSource × Access × List Scope :=
            match found with
            | .localVar d =>
              (.enclosing d.var.slot, d.access,
                match rest with
                | [] => []
                -- the function that declares it has to know, for the variable outlives its block
                | p :: up => { p with captured := d.var.declaration :: p.captured } :: up)
            | .outerVar i a => (.shared i, a, rest)
          (some (.outerVar s.outer.size access),
            { s with outer := s.outer.push ⟨name, source, access⟩ } :: rest)

end Scope

/-- The state of a reading. -/
structure Reading where
  /-- The lexeme under consideration. -/
  current : Lexeme
  rest : List Scanned
  /-- The line of the last lexeme taken. -/
  lastLine : Nat
  /-- The functions being read, innermost first. -/
  scopes : List Scope
  /-- How many levels of nesting are open. -/
  depth : Nat

/-- Why a source is not a program. -/
inductive ParseFault
  | source (f : SourceFault)
  /-- The source is nested too deeply. -/
  | tooDeep

/-- A step of reading. -/
abbrev Parse := StateT Reading (Except ParseFault)

namespace Parser

open Text (octets)

def fail {α : Type} (f : SourceFault) : Parse α :=
  throw (.source f)

/-- Refuses the current lexeme. -/
def failNear {α : Type} (message : ByteArray) : Parse α := do
  let s ← get
  fail ⟨s.current.line, message, s.current.near⟩

/-- Refuses the program for a reason that the current lexeme does not show. -/
def failPlain {α : Type} (message : ByteArray) : Parse α := do
  let s ← get
  fail ⟨s.current.line, message, none⟩

/-- Takes the current lexeme. -/
def advance : Parse Unit := do
  let s ← get
  match s.rest with
  | [] => pure ()
  | .lexeme l :: rest => set { s with current := l, rest := rest, lastLine := s.current.line }
  | .fault f :: _ => fail f

def currentLine : Parse Nat := do
  return (← get).current.line

def lastLine : Parse Nat := do
  return (← get).lastLine

/-- Whether the current lexeme is the given mark. -/
def at? (mark : String) : Parse Bool := do
  match (← get).current.token with
  | .mark s => return s == mark
  | _ => return false

/-- Takes the given mark if it is there. -/
def accept (mark : String) : Parse Bool := do
  if ← at? mark then
    advance
    return true
  else return false

def expected {α : Type} (what : String) : Parse α :=
  failNear (octets s!"{what} expected")

/-- Takes the given mark or refuses the program. -/
def expect (mark : String) : Parse Unit := do
  unless ← accept mark do expected s!"'{mark}'"

/-- Takes the mark that closes what `opening` opened on `line`. -/
def expectMatch (mark opening : String) (line : Nat) : Parse Unit := do
  unless ← accept mark do
    if (← currentLine) = line then expected s!"'{mark}'"
    else failNear (octets s!"'{mark}' expected (to close '{opening}' at line {line})")

/-- Takes a name. -/
def expectName : Parse ByteArray := do
  match (← get).current.token with
  | .name s => advance; return s
  | _ => expected "<name>"

/-- The most levels a source may nest. -/
def maxDepth : Nat := 195

/-- Reads one level deeper. -/
def nested {α : Type} (body : Parse α) : Parse α := do
  let s ← get
  if maxDepth ≤ s.depth then throw .tooDeep
  set { s with depth := s.depth + 1 }
  let a ← body
  modify fun s => { s with depth := s.depth - 1 }
  return a

/-! ### Scopes -/

/-- The innermost function. -/
def scope : Parse Scope := do
  return (← get).scopes.headD { line := 0, isVararg := true }

def modifyScope (f : Scope → Scope) : Parse Unit :=
  modify fun s =>
    match s.scopes with
    | [] => s
    | c :: up => { s with scopes := f c :: up }

/-- Number of variables in scope. -/
def base : Parse Nat := do
  return (← scope).locals.length

def describeFunction (line : Nat) : String :=
  if line = 0 then "main function" else s!"function at line {line}"

/-- A new variable, not yet in scope, `ahead` places after the last one in scope. -/
def newVariable (name : ByteArray) (ahead : Nat) : Parse Variable := do
  let s ← scope
  let slot := s.locals.length + ahead
  if 200 ≤ slot then
    failNear (octets s!"too many local variables (limit is 200) in {describeFunction s.line}")
  modifyScope fun s =>
    { s with declarations := s.declarations + 1, slots := max s.slots (slot + 1) }
  return ⟨name, slot, s.declarations⟩

/-- Brings variables into scope. -/
def bringIn (vars : List Declared) : Parse Unit :=
  modifyScope fun s => { s with locals := vars.reverse ++ s.locals }

def hidden (ahead : Nat) : Parse Declared := do
  return ⟨← newVariable (octets "(for state)") ahead, .regular⟩

/-- A new number for a label or a jump. -/
def newMark : Parse Nat := do
  let n := (← scope).marks
  modifyScope fun s => { s with marks := n + 1 }
  return n

def openBlock (exit : Option Nat) : Parse Unit :=
  modifyScope fun s => { s with blocks := { base := s.locals.length, exit } :: s.blocks }

/-- Records where jumps go. -/
def resolve (jumps : List OpenJump) (label : Nat) : Parse Unit :=
  modifyScope fun s => { s with resolved := jumps.map (fun j => (j.id, label)) ++ s.resolved }

def breakName : ByteArray := octets "break"

/-- Leaves the innermost block: its variables go out of scope, and its open jumps
become those of the block around it. -/
def closeBlock : Parse Unit := do
  let s ← scope
  match s.blocks with
  | [] => pure ()
  | b :: outer =>
    -- jumps out of a loop end at its exit
    let (leaving, jumps) : List OpenJump × List OpenJump :=
      match b.exit with
      | some _ => b.jumps.partition fun j => j.name = breakName
      | none => ([], b.jumps)
    if let some exit := b.exit then resolve leaving exit
    -- any other jump leaves this block, and looks for its label in the next one
    let moved := jumps.map fun j => { j with base := min j.base b.base }
    modifyScope fun s => { s with locals := s.locals.drop (s.locals.length - b.base) }
    match outer with
    | o :: up => modifyScope fun s => { s with blocks := { o with jumps := o.jumps ++ moved } :: up }
    | [] =>
      -- the function ends, and a jump that is left has nowhere to go
      modifyScope fun s => { s with blocks := [] }
      match moved with
      | [] => pure ()
      | j :: _ =>
        if j.name = breakName then failPlain (octets s!"break outside loop at line {j.line}")
        else
          failPlain (octets "no visible label '" ++ j.name
            ++ octets s!"' for <goto> at line {j.line}")

/-- Reads inside a block. -/
def inBlock {α : Type} (exit : Option Nat) (body : Parse α) : Parse α := do
  openBlock exit
  let a ← body
  closeBlock
  return a

/-- The label of a name in the blocks around. -/
def label? (name : ByteArray) : Parse (Option Label) := do
  return (← scope).blocks.findSome? fun b => b.labels.find? fun l => l.name = name

/-- The name of the variable in scope at a place. -/
def nameAt (slot : Nat) : Parse ByteArray := do
  let s ← scope
  return ((s.locals.reverse[slot]?).map fun d => d.var.name).getD (octets "?")

/-- Puts a label here. At the end of a block the variables of the block count as out
of scope already. -/
def placeLabel (name : ByteArray) (line : Nat) (last : Bool) : Parse Stat := do
  let s ← scope
  let id ← newMark
  match s.blocks with
  | [] => return .label id 0
  | b :: up =>
    -- behind a label at the end of a block no variable is used any more
    let base := if last then b.base else s.locals.length
    let (here, others) := b.jumps.partition fun j => j.name = name
    -- variables that the jump skips would have no value
    if let some j := here.find? fun j => j.base < base then
      failPlain (octets "<goto " ++ j.name ++ octets s!"> at line {j.line} jumps into the scope of local '"
        ++ (← nameAt j.base) ++ octets "'")
    resolve here id
    modifyScope fun s =>
      { s with blocks := { b with labels := ⟨name, id, line, base⟩ :: b.labels, jumps := others } :: up }
    return .label id base

/-- A jump to a name. -/
def jumpTo (name : ByteArray) (line : Nat) : Parse Stat := do
  let id ← newMark
  let target ← if name = breakName then pure none else label? name
  match target with
  | some l =>
    modifyScope fun s => { s with resolved := (id, l.id) :: s.resolved }
    return .jump id line
  | none =>
    let base ← base
    modifyScope fun s =>
      match s.blocks with
      | [] => s
      | b :: up => { s with blocks := { b with jumps := b.jumps ++ [⟨name, id, line, base⟩] } :: up }
    return .jump id line

/-- The expression a name denotes here. -/
def nameExpr (name : ByteArray) : Parse Expr := do
  let s ← get
  let lookUp (name : ByteArray) : Parse (Option Expr) := do
    let s ← get
    let (found, scopes) := Scope.find name s.scopes
    set { s with scopes }
    if let some c := scopes.head? then
      if 255 < c.outer.size then
        failNear (octets s!"too many upvalues (limit is 255) in {describeFunction c.line}")
    match found with
    | some (.localVar d) => return some (.localVar d.var)
    | some (.outerVar i _) => return some (.outerVar i name)
    | none => return none
  match ← lookUp name with
  | some e => return e
  | none =>
    -- any other name is a field of the environment
    match ← lookUp (octets "_ENV") with
    | some env => return .index env (.const (.str name)) s.current.line
    | none => return .const .nil

/-- Refuses an assignment to a variable that cannot change. -/
def checkWritable (e : Expr) : Parse Unit := do
  let s ← scope
  let access : Access × ByteArray :=
    match e with
    | .localVar v => (((s.local? v.name).map (·.access)).getD .regular, v.name)
    | .outerVar i name => (((s.outer[i]?).map (·.access)).getD .regular, name)
    | _ => (.regular, octets "")
  if access.1 ≠ .regular then
    failPlain (octets "attempt to assign to const variable '" ++ access.2 ++ octets "'")

/-! ### Expressions -/

/-- Left and right priority of the binary operators. -/
def binaryPriority : String → Option (Nat × Nat)
  | "or" => some (1, 1)
  | "and" => some (2, 2)
  | "<" => some (3, 3)
  | ">" => some (3, 3)
  | "<=" => some (3, 3)
  | ">=" => some (3, 3)
  | "~=" => some (3, 3)
  | "==" => some (3, 3)
  | "|" => some (4, 4)
  | "~" => some (5, 5)
  | "&" => some (6, 6)
  | "<<" => some (7, 7)
  | ">>" => some (7, 7)
  -- a lower number on the right groups to the right, here and for powers
  | ".." => some (9, 8)
  | "+" => some (10, 10)
  | "-" => some (10, 10)
  | "*" => some (11, 11)
  | "/" => some (11, 11)
  | "//" => some (11, 11)
  | "%" => some (11, 11)
  | "^" => some (14, 13)
  | _ => none

def unaryPriority : Nat := 12

def binaryOp? : String → Option BinaryOp
  | "<" => some .lt
  | ">" => some .gt
  | "<=" => some .le
  | ">=" => some .ge
  | "~=" => some .ne
  | "==" => some .eq
  | "|" => some .bor
  | "~" => some .bxor
  | "&" => some .band
  | "<<" => some .shl
  | ">>" => some .shr
  | ".." => some .concat
  | "+" => some .add
  | "-" => some .sub
  | "*" => some .mul
  | "/" => some .div
  | "//" => some .idiv
  | "%" => some .mod
  | "^" => some .pow
  | _ => none

def unaryOp? : String → Option UnaryOp
  | "not" => some .not
  | "-" => some .neg
  | "~" => some .bnot
  | "#" => some .len
  | _ => none

/-- The mark of the current lexeme, or none. -/
def currentMark : Parse String := do
  match (← get).current.token with
  | .mark s => return s
  | _ => return ""

def binary (mark : String) (left right : Expr) (line : Nat) : Expr :=
  match mark with
  | "and" => .and left right
  | "or" => .or left right
  | _ =>
    match binaryOp? mark with
    | some op => .binary op left right line
    | none => left

/-- Whether the current lexeme ends a block. -/
def endsBlock (withUntil : Bool) : Parse Bool := do
  match (← get).current.token with
  | .eof => return true
  | .mark s => return s == "else" || s == "elseif" || s == "end" || (withUntil && s == "until")
  | _ => return false

/-- Whether the next lexeme is `=`; a fault in it is reported at once. -/
def nextIsAssign : Parse Bool := do
  match (← get).rest with
  | .lexeme l :: _ =>
    match l.token with
    | .mark s => return s == "="
    | _ => return false
  | .fault f :: _ => fail f
  | [] => return false

/-- Opens a function whose line is `line`. -/
def openFunction (line : Nat) : Parse Unit :=
  modify fun s => { s with scopes := { line, isVararg := false } :: s.scopes }

/-- Closes the innermost function. -/
def closeFunction (parameters : List Variable) (body : List Stat) (lastLine : Nat) :
    Parse FunctionBody := do
  let s ← scope
  modify fun r => { r with scopes := r.scopes.tail }
  return {
    parameters, body, isVararg := s.isVararg
    outer := s.outer.toList.map (·.source)
    outerNames := s.outer.toList.map (·.name)
    captured := s.captured, slots := s.slots, jumps := s.resolved, marks := s.marks
    line := s.line, lastLine }

/-- The parameters of a function up to `)`, and whether it takes more arguments. -/
def parameters : Nat → List ByteArray → Parse (List ByteArray × Bool)
  | 0, names => return (names, false)
  | fuel + 1, names => do
    match (← get).current.token with
    | .name s =>
      advance
      if ← accept "," then parameters fuel (names ++ [s]) else return (names ++ [s], false)
    | .mark "..." =>
      advance
      return (names, true)
    | _ => expected "<name> or '...'"

/-- New variables for names, in order. -/
def newVariables : List ByteArray → Nat → Parse (List Variable)
  | [], _ => return []
  | n :: rest, ahead => do
    let v ← newVariable n ahead
    return v :: (← newVariables rest (ahead + 1))

def isCall : Expr → Bool
  | .call .. => true
  | .method .. => true
  | _ => false

def isAssignable : Expr → Bool
  | .localVar _ => true
  | .outerVar .. => true
  | .index .. => true
  | _ => false

mutual

/-- An expression whose operators bind tighter than `limit`. -/
def subExpr : Nat → Nat → Parse Expr
  | 0, _ => throw .tooDeep
  | fuel + 1, limit => nested do
    let mark ← currentMark
    let line ← currentLine
    let left ← match unaryOp? mark with
      | some op => do
        advance
        let operand ← subExpr fuel unaryPriority
        pure (Expr.unary op operand line)
      | none => simpleExpr fuel
    operators fuel limit left

/-- Continues an expression with binary operators. -/
def operators : Nat → Nat → Expr → Parse Expr
  | 0, _, _ => throw .tooDeep
  | fuel + 1, limit, left => do
    let mark ← currentMark
    match binaryPriority mark with
    | some (l, r) =>
      if limit < l then
        let line ← currentLine
        advance
        let right ← subExpr fuel r
        operators fuel limit (binary mark left right line)
      else return left
    | none => return left

/-- An expression without operators. -/
def simpleExpr : Nat → Parse Expr
  | 0 => throw .tooDeep
  | fuel + 1 => do
    match (← get).current.token with
    | .int i => advance; return .const (.int i)
    | .float x => advance; return .const (.float x)
    | .str s => advance; return .const (.str s)
    | .mark "nil" => advance; return .const .nil
    | .mark "true" => advance; return .const (.bool true)
    | .mark "false" => advance; return .const (.bool false)
    | .mark "..." =>
      unless (← scope).isVararg do
        failNear (octets "cannot use '...' outside a vararg function")
      advance
      return .vararg
    | .mark "\x7b" => tableExpr fuel
    | .mark "function" =>
      let line ← currentLine
      advance
      return .function (← functionBody fuel false line)
    | _ => suffixedExpr fuel

/-- A table constructor. -/
def tableExpr : Nat → Parse Expr
  | 0 => throw .tooDeep
  | fuel + 1 => do
    let line ← currentLine
    expect "\x7b"
    let fields ← tableFields fuel []
    expectMatch "\x7d" "\x7b" line
    return .table fields line

/-- The fields of a table constructor, last first in `acc`. -/
def tableFields : Nat → List Field → Parse (List Field)
  | 0, _ => throw .tooDeep
  | fuel + 1, acc => do
    if ← at? "\x7d" then return acc.reverse
    let field ← match (← get).current.token with
      | .name s => do
        -- a name is a key only in front of a sign of assignment
        if ← nextIsAssign then
          advance
          expect "="
          let value ← expr fuel
          pure (Field.keyed (.const (.str s)) value (← lastLine))
        else pure (Field.item (← expr fuel))
      | .mark "[" => do
        advance
        let key ← expr fuel
        expect "]"
        expect "="
        let value ← expr fuel
        pure (Field.keyed key value (← lastLine))
      | _ => do pure (Field.item (← expr fuel))
    if (← accept ",") || (← accept ";") then tableFields fuel (field :: acc)
    else return (field :: acc).reverse

/-- A name or an expression in parentheses, and what is applied to it. -/
def suffixedExpr : Nat → Parse Expr
  | 0 => throw .tooDeep
  | fuel + 1 => do
    let first ← match (← get).current.token with
      | .name s => do
        let e ← nameExpr s
        advance
        pure e
      | .mark "(" => do
        let line ← currentLine
        advance
        let e ← expr fuel
        expectMatch ")" "(" line
        pure (Expr.paren e)
      | _ => failNear (octets "unexpected symbol")
    suffixes fuel first

/-- Continues an expression with fields, indices and calls. -/
def suffixes : Nat → Expr → Parse Expr
  | 0, _ => throw .tooDeep
  | fuel + 1, e => do
    match (← get).current.token with
    | .mark "." =>
      advance
      let name ← expectName
      suffixes fuel (.index e (.const (.str name)) (← lastLine))
    | .mark "[" =>
      advance
      let key ← expr fuel
      expect "]"
      suffixes fuel (.index e key (← lastLine))
    | .mark ":" =>
      advance
      let name ← expectName
      let nameLine ← lastLine
      let (args, line) ← arguments fuel
      suffixes fuel (.method e name args nameLine line)
    | .mark "(" => callSuffix fuel e
    | .mark "\x7b" => callSuffix fuel e
    | .str _ => callSuffix fuel e
    | _ => return e

/-- Continues an expression with a call. -/
def callSuffix : Nat → Expr → Parse Expr
  | 0, _ => throw .tooDeep
  | fuel + 1, e => do
    let (args, line) ← arguments fuel
    suffixes fuel (.call e args line)

/-- The arguments of a call, and the line they start on. -/
def arguments : Nat → Parse (List Expr × Nat)
  | 0 => throw .tooDeep
  | fuel + 1 => do
    let line ← currentLine
    match (← get).current.token with
    | .str s => advance; return ([.const (.str s)], line)
    | .mark "\x7b" => return ([← tableExpr fuel], line)
    | .mark "(" =>
      advance
      if ← accept ")" then return ([], line)
      let args ← exprList fuel
      expectMatch ")" "(" line
      return (args, line)
    | _ => failNear (octets "function arguments expected")

/-- An expression. -/
def expr : Nat → Parse Expr
  | 0 => throw .tooDeep
  | fuel + 1 => subExpr fuel 0

/-- Expressions separated by commas. -/
def exprList : Nat → Parse (List Expr)
  | 0 => throw .tooDeep
  | fuel + 1 => do
    let e ← expr fuel
    if ← accept "," then return e :: (← exprList fuel) else return [e]

/-- Parameters and body of a function. -/
def functionBody : Nat → Bool → Nat → Parse FunctionBody
  | 0, _, _ => throw .tooDeep
  | fuel + 1, isMethod, line => do
    openFunction line
    openBlock none
    expect "("
    let (names, isVararg) ← if ← at? ")" then pure ([], false) else parameters fuel []
    -- a method takes its object first, under a name that is not written
    let names := if isMethod then octets "self" :: names else names
    let vars ← newVariables names 0
    bringIn (vars.map fun v => ⟨v, .regular⟩)
    modifyScope fun s => { s with isVararg }
    expect ")"
    let body ← statements fuel
    let last ← currentLine
    expectMatch "end" "function" line
    closeBlock
    closeFunction vars body last

/-- Statements up to the end of a block. -/
def statements : Nat → Parse (List Stat)
  | 0 => throw .tooDeep
  | fuel + 1 => do
    if ← endsBlock true then return []
    if ← at? "return" then
      let s ← nested (returnStat fuel)
      return [s]
    let first ← nested (statement fuel)
    return first ++ (← statements fuel)

/-- The return statement, which ends a block. -/
def returnStat : Nat → Parse Stat
  | 0 => throw .tooDeep
  | fuel + 1 => do
    let line ← currentLine
    advance
    let values ←
      if (← endsBlock true) || (← at? ";") then pure [] else exprList fuel
    let _ ← accept ";"
    return .ret values line

/-- A block in a scope of its own, with the number of variables outside it. -/
def blockOf : Nat → Option Nat → Parse (Nat × List Stat)
  | 0, _ => throw .tooDeep
  | fuel + 1, exit => do
    let outside ← base
    let body ← inBlock exit (statements fuel)
    return (outside, body)

/-- A statement; labels that stand together come out together. -/
def statement : Nat → Parse (List Stat)
  | 0 => throw .tooDeep
  | fuel + 1 => do
    let line ← currentLine
    match (← get).current.token with
    | .mark ";" => advance; return []
    | .mark "if" => advance; return [← ifStat fuel line]
    | .mark "while" =>
      advance
      let condition ← expr fuel
      expect "do"
      let exit ← newMark
      let (outside, body) ← blockOf fuel (some exit)
      expectMatch "end" "while" line
      return [.whileLoop condition outside body exit line]
    | .mark "do" =>
      advance
      let (outside, body) ← blockOf fuel none
      expectMatch "end" "do" line
      return [.block outside body]
    | .mark "for" => advance; return [← forStat fuel line]
    | .mark "repeat" => advance; return [← untilStat fuel line]
    | .mark "function" => advance; return [← functionStat fuel line]
    | .mark "local" =>
      advance
      if ← accept "function" then
        let name ← expectName
        let v ← newVariable name 0
        -- in scope before its body is read, so that the function can call itself
        bringIn [⟨v, .regular⟩]
        return [.declareFunction v (← functionBody fuel false (← currentLine))]
      else return [← localStat fuel]
    | .mark "::" =>
      advance
      let name ← expectName
      expect "::"
      -- what follows is read first: it decides whether the block ends with this label
      let more ← labelsAfter fuel
      if let some l ← label? name then
        failPlain (octets "label '" ++ name ++ octets s!"' already defined on line {l.line}")
      let here ← placeLabel name line (← endsBlock false)
      return more ++ [here]
    | .mark "return" => return [← returnStat fuel]
    | .mark "break" =>
      advance
      return [← jumpTo breakName line]
    | .mark "goto" =>
      advance
      let name ← expectName
      return [← jumpTo name line]
    | _ => return [← exprStat fuel]

/-- Empty statements and labels that follow a label. -/
def labelsAfter : Nat → Parse (List Stat)
  | 0 => throw .tooDeep
  | fuel + 1 => do
    if (← at? ";") || (← at? "::") then
      let first ← nested (statement fuel)
      return first ++ (← labelsAfter fuel)
    else return []

/-- A conditional after its `if` or `elseif`. -/
def ifStat : Nat → Nat → Parse Stat
  | 0, _ => throw .tooDeep
  | fuel + 1, line => do
    let condition ← expr fuel
    expect "then"
    let (outside, yes) ← blockOf fuel none
    if ← accept "elseif" then
      -- a further condition is a branch of its own, closed by the same end
      let other ← ifStat fuel line
      return .branch condition outside yes [other]
    else if ← accept "else" then
      let (_, no) ← blockOf fuel none
      expectMatch "end" "if" line
      return .branch condition outside yes no
    else
      expectMatch "end" "if" line
      return .branch condition outside yes []

/-- A loop whose condition stands at its end and sees the variables of the body. -/
def untilStat : Nat → Nat → Parse Stat
  | 0, _ => throw .tooDeep
  | fuel + 1, line => do
    let exit ← newMark
    openBlock (some exit)
    openBlock none
    let outside ← base
    let body ← statements fuel
    expectMatch "until" "repeat" line
    let condition ← expr fuel
    closeBlock
    closeBlock
    return .untilLoop outside body condition exit

/-- A counting or iterator loop. -/
def forStat : Nat → Nat → Parse Stat
  | 0, _ => throw .tooDeep
  | fuel + 1, line => do
    let exit ← newMark
    openBlock (some exit)
    let state ← base
    let name ← expectName
    let result ← match (← get).current.token with
      | .mark "=" => do
        advance
        -- the state of the loop has variables without a name
        let a ← hidden 0
        let b ← hidden 1
        let c ← hidden 2
        let start ← expr fuel
        expect ","
        let limit ← expr fuel
        let step ← if ← accept "," then pure (some (← expr fuel)) else pure none
        bringIn [a, b, c]
        expect "do"
        let prepareLine ← lastLine
        let (v, body) ← loopBody fuel [name]
        expectMatch "end" "for" line
        pure (Stat.countLoop state (v.headD ⟨name, state + 3, 0⟩) start limit step body exit
          prepareLine line)
      | .mark "," => iterStat fuel line state exit [name]
      | .mark "in" => iterStat fuel line state exit [name]
      | _ => failNear (octets "'=' or 'in' expected")
    closeBlock
    return result

/-- The rest of an iterator loop after its first name. -/
def iterStat : Nat → Nat → Nat → Nat → List ByteArray → Parse Stat
  | 0, _, _, _, _ => throw .tooDeep
  | fuel + 1, line, state, exit, names => do
    if ← accept "," then
      let name ← expectName
      iterStat fuel line state exit (names ++ [name])
    else
      let a ← hidden 0
      let b ← hidden 1
      let c ← hidden 2
      let d ← hidden 3
      expect "in"
      let values ← exprList fuel
      -- in scope only now: the values are computed outside of the loop
      bringIn [a, b, c, d]
      expect "do"
      let (vars, body) ← loopBody fuel names
      expectMatch "end" "for" line
      return .iterLoop state vars values body exit line

/-- The body of a loop that declares variables. -/
def loopBody : Nat → List ByteArray → Parse (List Variable × List Stat)
  | 0, _ => throw .tooDeep
  | fuel + 1, names => inBlock none do
    let vars ← newVariables names 0
    bringIn (vars.map fun v => ⟨v, .regular⟩)
    let body ← statements fuel
    return (vars, body)

/-- A function statement: a name, fields, and perhaps a method name. -/
def functionStat : Nat → Nat → Parse Stat
  | 0, _ => throw .tooDeep
  | fuel + 1, line => do
    let name ← expectName
    let first ← nameExpr name
    let (target, isMethod) ← functionName fuel first
    let f ← functionBody fuel isMethod line
    checkWritable target
    return .assign [target] [.function f] line

/-- Fields after the first name of a function statement. -/
def functionName : Nat → Expr → Parse (Expr × Bool)
  | 0, _ => throw .tooDeep
  | fuel + 1, e => do
    if ← accept "." then
      let name ← expectName
      functionName fuel (.index e (.const (.str name)) (← lastLine))
    else if ← accept ":" then
      let name ← expectName
      return (.index e (.const (.str name)) (← lastLine), true)
    else return (e, false)

/-- A declaration of variables after `local`. -/
def localStat : Nat → Parse Stat
  | 0 => throw .tooDeep
  | fuel + 1 => do
    let vars ← declaredNames fuel 0 false
    let values ← if ← accept "=" then exprList fuel else pure []
    bringIn vars
    let closes := (vars.find? fun d => d.access = .close).map (·.var)
    return .declare (vars.map (·.var)) values closes (← lastLine)

/-- Names with attributes, separated by commas. -/
def declaredNames : Nat → Nat → Bool → Parse (List Declared)
  | 0, _, _ => throw .tooDeep
  | fuel + 1, ahead, closing => do
    let name ← expectName
    let v ← newVariable name ahead
    let access ← if ← accept "<" then do
        let word ← expectName
        expect ">"
        if word = octets "const" then pure Access.const
        else if word = octets "close" then pure Access.close
        else failPlain (octets "unknown attribute '" ++ word ++ octets "'")
      else pure Access.regular
    if access = .close && closing then
      failPlain (octets "multiple to-be-closed variables in local list")
    let d : Declared := ⟨v, access⟩
    if ← accept "," then
      return d :: (← declaredNames fuel (ahead + 1) (closing || access = .close))
    else return [d]

/-- An assignment or a call. -/
def exprStat : Nat → Parse Stat
  | 0 => throw .tooDeep
  | fuel + 1 => do
    let e ← suffixedExpr fuel
    if (← at? "=") || (← at? ",") then
      let targets ← moreTargets fuel e
      expect "="
      let values ← exprList fuel
      return .assign targets values (← lastLine)
    else if isCall e then return .callOnly e
    else failNear (octets "syntax error")

/-- The targets of an assignment from one on. -/
def moreTargets : Nat → Expr → Parse (List Expr)
  | 0, _ => throw .tooDeep
  | fuel + 1, e => do
    unless isAssignable e do failNear (octets "syntax error")
    checkWritable e
    if ← accept "," then
      let next ← suffixedExpr fuel
      return e :: (← nested (moreTargets fuel next))
    else return [e]

end

/-- The main function of a source. -/
def mainFunction (fuel : Nat) : Parse FunctionBody := do
  modify fun s =>
    { s with scopes := [{ line := 0, isVararg := true
                          outer := #[⟨octets "_ENV", .shared 0, .regular⟩] }] }
  openBlock none
  let body ← statements fuel
  unless (← get).current.token matches .eof do expected "<eof>"
  let last ← currentLine
  closeBlock
  closeFunction [] body last

/-- The main function of a source, or why there is none. -/
def chunk (source : List UInt8) : Except ParseFault FunctionBody :=
  match Token.scan source with
  | [] => .error .tooDeep
  | .fault f :: _ => .error (.source f)
  | .lexeme l :: rest =>
    let state : Reading := { current := l, rest, lastLine := 1, scopes := [], depth := 0 }
    ((mainFunction (16 * rest.length + 64)).run state).map (·.1)

end Parser

end RobotSession.Lua
