import RobotSession.Lua.Access
import RobotSession.Lua.Format
import RobotSession.Lua.Pattern
import RobotSession.Lua.Arithmetic

/-!
# The string library

Strings are octet sequences; positions count from 1, and from -1 backwards.
-/

namespace RobotSession.Lua.Library

open Text (octets)

namespace Strings

/-- A start position, at least 1. -/
def startAt (pos : Int) (len : Nat) : Nat :=
  if 0 < pos then pos.toNat
  else if pos = 0 ∨ pos < -(len : Int) then 1
  else (len + pos + 1).toNat

/-- An end position, at most the length. -/
def endAt (pos : Int) (len : Nat) : Nat :=
  if (len : Int) < pos then len
  else if 0 ≤ pos then pos.toNat
  else if pos < -(len : Int) then 0
  else (len + pos + 1).toNat

/-- The octets between two positions. -/
def slice (s : ByteArray) (first last : Nat) : ByteArray :=
  s.extract (first - 1) last

def mapOctets (f : UInt8 → UInt8) (s : ByteArray) : ByteArray :=
  ByteArray.mk (s.data.map f)

/-- The largest string that is built. -/
def maxSize : Nat := 0x10000000

def outOfMemory {α : Type} : Body α :=
  throw (.value (.text "not enough memory"))

/-- Lifts a fault of a pattern. -/
def lift {α : Type} (r : Except String α) : Body α :=
  match r with
  | .ok a => return a
  | .error e => Args.located e

def valueOf (s : ByteArray) : Reply :=
  .done [.str s]

def rep (args : List Value) : Body Reply := do
  let s ← Args.text args 1
  let n ← Args.int args 2
  let separator ← Args.textOr args 3 ByteArray.empty
  if n.toInt ≤ 0 then return valueOf ByteArray.empty
  let count := n.toInt.toNat
  let total := count * (s.size + separator.size)
  if 0x4000000000000000 < total then Args.located "resulting string too large"
  if maxSize < total then outOfMemory
  let piece := s ++ separator
  let most := (List.replicate (count - 1) ()).foldl (fun acc _ => acc ++ piece) (ByteArray.emptyWithCapacity total)
  return valueOf (most ++ s)

/-- `find` and `match`. -/
def search (args : List Value) (positions : Bool) : Body Reply := do
  let s ← Args.text args 1
  let p ← Args.text args 2
  let start ← Args.intOr args 3 1
  let first := startAt start.toInt s.size - 1
  if s.size < first then return .done [.nil]
  let place (a b : Nat) : List Value := [.int (Int64.ofNat (a + 1)), .int (Int64.ofNat b)]
  -- a pattern without special octets is looked for as it is, as one that is said to be plain
  if positions && ((Args.nth args 4).truthy || Pattern.isPlain p) then
    match Pattern.findPlain s p (s.size + 1) first with
    | some i => return .done (place i (i + p.size))
    | none => return .done [.nil]
  else
    let m : Pattern.Problem := ⟨s, p⟩
    match ← lift (Pattern.search m first) with
    | none => return .done [.nil]
    | some (a, b, caps) =>
      let values ← lift (Pattern.captureValues m a b caps (!positions))
      return .done (if positions then place a b ++ values else values)

/-- Starts `gmatch`; the iterator keeps its position and the end of the last match in
a table. -/
def gmatch (args : List Value) : Body Reply := do
  let s ← Args.text args 1
  let p ← Args.text args 2
  let start ← Args.intOr args 3 1
  let first := min (startAt start.toInt s.size - 1) (s.size + 1)
  let state ← Work.newTable (.ofArray #[.int (Int64.ofNat first), .int (-1)])
  return .done [← Work.newNative .strGmatchStep [.str s, .str p, state]]

/-- The next match at or after a position that does not end where the last one did. -/
def nextMatch (m : Pattern.Problem) (last : Int) :
    Nat → Nat → Except String (Option (Nat × Nat × Array Pattern.Capture))
  | 0, _ => .ok none
  | fuel + 1, s => do
    if m.source.size < s then return none
    match ← Pattern.matchAt m s 0 with
    | some (e, caps) =>
      if (e : Int) = last then nextMatch m last fuel (s + 1) else return some (s, e, caps)
    | none => nextMatch m last fuel (s + 1)

def gmatchStep (captured : List Value) : Body Reply := do
  match captured with
  | [.str s, .str p, .table id] =>
    let t ← Work.getTable id
    let number (v : Value) : Int := match v with | .int i => i.toInt | _ => 0
    let m : Pattern.Problem := ⟨s, p⟩
    match ← lift (nextMatch m (number (t.getAt 2)) (s.size + 2) (number (t.getAt 1)).toNat) with
    | none => return .done [.nil]
    | some (a, b, caps) =>
      let b' : Value := .int (Int64.ofNat b)
      Work.modifyTable id fun _ => .ofArray #[b', b']
      return .done (← lift (Pattern.captureValues m a b caps true))
  | _ => return .done [.nil]

/-- The text that a replacement string stands for. -/
def expand (m : Pattern.Problem) (a b : Nat) (caps : Array Pattern.Capture) :
    List UInt8 → ByteArray → Except String ByteArray
  | [], acc => .ok acc
  | 37 :: c :: rest, acc =>
    if c == 37 then expand m a b caps rest (acc.push 37)
    else if c == 48 then expand m a b caps rest (acc ++ m.source.extract a b)
    else if Numeral.isDigit c then
      match Pattern.captureValue m a b caps (c.toNat - 49) with
      | .ok v => expand m a b caps rest (acc ++ (Args.asText? v).getD ByteArray.empty)
      | .error e =>
        .error (if e.startsWith "invalid capture index" then e ++ " in replacement string" else e)
    else .error "invalid use of '%' in replacement string"
  | [37], _ => .error "invalid use of '%' in replacement string"
  | c :: rest, acc => expand m a b caps rest (acc.push c)

/-- What a match of `gsub` comes to: a text, or a call. -/
inductive Replacement
  | text (s : ByteArray)
  | call (f : Value) (args : List Value)

def replacement (h : Heap) (s : Substituting) (m : Pattern.Problem) (a b : Nat)
    (caps : Array Pattern.Capture) : Except String (Except Value Replacement) :=
  match s.replacement with
  | .table id => do
    let key ← Pattern.captureValue m a b caps 0
    match Access.read h (.table id) key with
    | .value v => return .error v
    | .handler f object => return .ok (.call f [object, key])
    | _ => return .error .nil
  | .func id => do
    return .ok (.call (.func id) (← Pattern.captureValues m a b caps true))
  | v => do
    let template := (Args.asText? v).getD ByteArray.empty
    return .ok (.text (← expand m a b caps template.toList ByteArray.empty))

/-- The text that a replacement value stands for; a false one keeps the match. -/
def replacementText (v : Value) (matched : ByteArray) : Except String ByteArray :=
  if !v.truthy then .ok matched
  else
    match Args.asText? v with
    | some t => .ok t
    | none => .error s!"invalid replacement value (a {v.typeName})"

/-- Goes on with `gsub` until it needs a call. -/
def gsubFrom : Nat → Substituting → Body Reply
  | 0, s => finish s
  | fuel + 1, s => do
    if s.left = 0 then finish s
    else
      let m : Pattern.Problem := ⟨s.source, s.pattern⟩
      -- an octet at which nothing is replaced goes to the result as it is
      let skip (s : Substituting) : Body Reply :=
        match s.source[s.position]? with
        | some c =>
          let s := { s with result := s.result.push c, position := s.position + 1 }
          if s.anchored then finish s else gsubFrom fuel s
        | none => finish s
      match ← lift (Pattern.matchAt m s.position (if s.anchored then 1 else 0)) with
      | some (e, caps) =>
        -- an empty match right behind the last match does not count
        if s.lastEnd = some e then skip s
        else
          let matched := s.source.extract s.position e
          let next := { s with position := e, lastEnd := some e, left := s.left - 1
                               count := s.count + 1, matched := matched }
          let go (t : ByteArray) : Body Reply :=
            let next := { next with result := next.result ++ t }
            if next.anchored then finish next else gsubFrom fuel next
          match ← lift (replacement (← get) s m s.position e caps) with
          | .error v => go (← lift (replacementText v matched))
          | .ok (.text t) => go t
          -- a function has to be called: the search goes on with its answer
          | .ok (.call f args) => return .call f args (.substituting next)
      | none => skip s
where
  /-- The result, with the rest of the source. -/
  finish (s : Substituting) : Body Reply :=
    return .done [.str (s.result ++ s.source.extract s.position s.source.size),
      .int (Int64.ofNat s.count)]

/-- Goes on with `gsub` after a call. -/
def gsubResume (s : Substituting) (results : List Value) : Body Reply := do
  let t ← lift (replacementText (results.headD .nil) s.matched)
  let s := { s with result := s.result ++ t }
  gsubFrom (if s.anchored then 0 else s.source.size + 2) s

def gsub (args : List Value) : Body Reply := do
  let source ← Args.text args 1
  let pattern ← Args.text args 2
  let repl := Args.nth args 3
  let allowed : Bool :=
    match repl with
    | .int _ => true
    | .float _ => true
    | .str _ => true
    | .table _ => true
    | .func _ => true
    | _ => false
  if !allowed then Args.typeFault args 3 "string/function/table"
  -- a text has at most one match for each octet, and one at its end
  let limit ← Args.intOr args 4 (Int64.ofNat (source.size + 1))
  gsubFrom (source.size + 2) {
    source, pattern, replacement := repl
    anchored := Pattern.at? pattern 0 == some 94
    position := 0, left := limit.toInt.toNat, count := 0, lastEnd := none
    result := ByteArray.empty, matched := ByteArray.empty }

def ofChars (cs : List Char) : ByteArray :=
  ByteArray.mk (cs.map fun c => c.toNat.toUInt8).toArray

/-- The text of an argument under a directive, `%s` of values with `__tostring` aside. -/
def formatOne (d : Directive) (args : List Value) (i : Nat) : Body ByteArray := do
  let bad {α : Type} : Body α :=
    throw (.located (octets "invalid conversion '" ++ ByteArray.mk d.raw.toArray
      ++ octets "' to 'format'"))
  -- every conversion takes flags of its own, and a precision or none
  let need (flags : String) (precision : Bool) : Body Unit :=
    if d.fits flags precision then pure () else bad
  match Char.ofNat d.conversion.toNat with
  | 'c' =>
    need "-" false
    return d.text (ByteArray.mk #[(← Args.int args i).toUInt64.toUInt8])
  | 'd' => need "-+0 " true; return ofChars (d.int (← Args.int args i))
  | 'i' => need "-+0 " true; return ofChars (d.int (← Args.int args i))
  | 'u' => need "-0" true; return ofChars (d.int (← Args.int args i))
  | 'o' => need "-#0" true; return ofChars (d.int (← Args.int args i))
  | 'x' => need "-#0" true; return ofChars (d.int (← Args.int args i))
  | 'X' => need "-#0" true; return ofChars (d.int (← Args.int args i))
  | 'a' => need "-+#0 " true; return ofChars (d.float (← Args.float args i))
  | 'A' => need "-+#0 " true; return ofChars (d.float (← Args.float args i))
  | 'e' => need "-+#0 " true; return ofChars (d.float (← Args.float args i))
  | 'E' => need "-+#0 " true; return ofChars (d.float (← Args.float args i))
  | 'f' => need "-+#0 " true; return ofChars (d.float (← Args.float args i))
  | 'g' => need "-+#0 " true; return ofChars (d.float (← Args.float args i))
  | 'G' => need "-+#0 " true; return ofChars (d.float (← Args.float args i))
  | 'p' => do
    need "-" false
    return d.text (octets ((Access.address? (Args.nth args i)).getD "(null)"))
  | 'q' =>
    if d.raw.length ≠ 2 then Args.located "specifier '%q' cannot have modifiers"
    match Args.nth args i with
    | .str s => return ByteArray.mk (Directive.quoted s.toList).toArray
    | .int n =>
      -- in digits it would be a minus and a number that is too large
      if n = Int64.minValue then return octets "0x8000000000000000"
      else return octets (Numeral.ofInt n)
    | .float x =>
      -- these have no literal, but there are expressions for them
      if x.isNaN then return octets "(0/0)"
      else if x.isInf then return octets (if 0 < x then "1e9999" else "-1e9999")
      else return ofChars (({ d with conversion := 97 } : Directive).float x)
    | .nil => return octets "nil"
    | .bool b => return octets (if b then "true" else "false")
    | _ => Args.fault i "value has no literal form"
  | 's' =>
    need "-" true
    return d.text (Access.plainText (← get) (Args.nth args i))
  | _ => bad

/-- Goes on with `format` until it needs a call. -/
def formatFrom : Nat → Formatting → Body Reply
  | 0, s => return valueOf s.result
  | fuel + 1, s => do
    match s.template with
    | [] => return valueOf s.result
    | 37 :: 37 :: rest => formatFrom fuel { s with template := rest, result := s.result.push 37 }
    | 37 :: rest =>
      let i := s.argument + 1
      if s.args.length < i then Args.fault i "no value"
      let (d, after) := Directive.parse rest
      -- a value may have a text of its own, which a function has to be called for
      let handler := (← get).metamethod (Args.nth s.args i) "__tostring"
      if d.conversion == 115 && !handler.isNil then
        return .call handler [Args.nth s.args i]
          (.formatting { s with template := after, argument := i, directive := d.raw })
      else
        let t ← formatOne d s.args i
        formatFrom fuel { s with template := after, argument := i, result := s.result ++ t }
    | c :: rest => formatFrom fuel { s with template := rest, result := s.result.push c }

/-- Goes on with `format` after `__tostring`. -/
def formatResume (s : Formatting) (results : List Value) : Body Reply := do
  match Args.asText? (results.headD .nil) with
  | some t =>
    let (d, _) := Directive.parse (s.directive.drop 1)
    formatFrom (s.template.length + 1) { s with result := s.result ++ d.text t }
  | none => Args.located "'__tostring' must return a string"

def format (args : List Value) : Body Reply := do
  let template ← Args.text args 1
  formatFrom (template.size + 1)
    { template := template.toList, args, argument := 1, result := ByteArray.empty, directive := [] }

def binaryOf : TextArith → BinaryOp
  | .add => .add
  | .sub => .sub
  | .mul => .mul
  | .mod => .mod
  | .pow => .pow
  | .div => .div
  | .idiv => .idiv
  | .unm => .sub

def eventOf : TextArith → String
  | .add => "add"
  | .sub => "sub"
  | .mul => "mul"
  | .mod => "mod"
  | .pow => "pow"
  | .div => "div"
  | .idiv => "idiv"
  | .unm => "unm"

/-- Arithmetic on values of which one is a string. -/
def arith (op : TextArith) (args : List Value) : Body Reply := do
  let a := Args.nth args 1
  let b := Args.nth args 2
  match Args.asNumber? a, Args.asNumber? b with
  | some x, some y =>
    let r := if op = .unm then Arithmetic.unary .neg x else Arithmetic.binary (binaryOf op) x y
    match r with
    | .ok v => return .done [v]
    | .error .divisionByZero => throw (.value (.text "attempt to divide by zero"))
    | .error .remainderByZero => throw (.value (.text "attempt to perform 'n%%0'"))
    | .error _ => return .done [.nil]
  | _, _ =>
    let h ← get
    let handler := h.metamethod b ("__" ++ eventOf op)
    -- the only handler of a text is this one
    match b with
    | .str _ => refuse a b
    | _ => if handler.isNil then refuse a b else return .tail handler [a, b]
where
  refuse (a b : Value) : Body Reply :=
    Args.located s!"attempt to {eventOf op} a '{a.typeName}' with a '{b.typeName}'"

/-- The functions of the string library. -/
def call (f : Native) (captured args : List Value) : Body Reply := do
  match f with
  | .strLen => return .done [.int (Int64.ofNat (← Args.text args 1).size)]
  | .strSub => do
    let s ← Args.text args 1
    let i ← Args.int args 2
    let j ← Args.intOr args 3 (-1)
    return valueOf (slice s (startAt i.toInt s.size) (endAt j.toInt s.size))
  | .strByte => do
    let s ← Args.text args 1
    let i ← Args.intOr args 2 1
    let j ← Args.intOr args 3 i
    let part := slice s (startAt i.toInt s.size) (endAt j.toInt s.size)
    return .done (part.toList.map fun b => .int (Int64.ofNat b.toNat))
  | .strChar => do
    let bytes ← (List.range args.length).mapM fun k => do
      let n ← Args.int args (k + 1)
      if 0 ≤ n && n ≤ 255 then return n.toUInt64.toUInt8
      else Args.fault (k + 1) "value out of range"
    return valueOf (ByteArray.mk bytes.toArray)
  | .strUpper => return valueOf (mapOctets Pattern.toUpper (← Args.text args 1))
  | .strLower => return valueOf (mapOctets Pattern.toLower (← Args.text args 1))
  | .strReverse => return valueOf (ByteArray.mk (← Args.text args 1).data.reverse)
  | .strRep => rep args
  | .strFind => search args true
  | .strMatch => search args false
  | .strGmatch => gmatch args
  | .strGmatchStep => gmatchStep captured
  | .strGsub => gsub args
  | .strFormat => format args
  | .strDump => do
    let _ ← Args.function args 1
    Args.located "unable to dump given function"
  | .textArith op => arith op args
  | _ => return .done []

end Strings

end RobotSession.Lua.Library
