import RobotSession.Lua.Access
import RobotSession.Lua.Arithmetic

/-!
# The table library

`table.sort` is a quicksort with the median of three as its pivot. A comparison may be
a call, so its state is a `Sorting`, which knows the comparison it waits for.
-/

namespace RobotSession.Lua.Library.Tables

open Text (octets)

/-- The value at a position, looked up through tables. -/
def valueAt (id : Nat) (i : Int64) : Body Value := do
  match Access.read (← get) (.table id) (.int i) with
  | .value v => return v
  | _ => return .nil

def lengthOf (id : Nat) : Body Nat := do
  return ((← get).table id).border

def setAt (id : Nat) (i : Int64) (v : Value) : Body Unit :=
  Work.modifyTable id (·.set (.int i) v)

def position (n : Nat) : Int64 :=
  Int64.ofNat n

/-- The positions from one to another, ascending. -/
def span (first last : Int) : List Int64 :=
  (List.range (last + 1 - first).toNat).map fun (k : Nat) => Int64.ofInt (first + k)

def concat (args : List Value) : Body Reply := do
  let id ← Args.table args 1
  let separator ← Args.textOr args 2 ByteArray.empty
  let first ← Args.intOr args 3 1
  let last ← Args.intOr args 4 (position (← lengthOf id))
  let add (acc : ByteArray × Bool) (i : Int64) : Body (ByteArray × Bool) := do
    let v ← valueAt id i
    match Args.asText? v with
    | some s => return ((if acc.2 then acc.1 ++ separator else acc.1) ++ s, true)
    | none =>
      let n := i.toInt
      throw (.located (octets "invalid value (at index " ++ octets s!"{n}"
        ++ octets ") in table for 'concat'"))
  let (s, _) ← (span first.toInt last.toInt).foldlM add (ByteArray.empty, false)
  return .done [.str s]

def insert (args : List Value) : Body Reply := do
  let id ← Args.table args 1
  let next := (← lengthOf id) + 1
  match args.length with
  | 2 => setAt id (position next) (Args.nth args 2)
  | 3 => do
    let at_ ← Args.int args 2
    if at_ < 1 || next < at_.toInt then Args.fault 2 "position out of bounds"
    (span (at_.toInt + 1) next).reverse.forM fun i => do
      setAt id i (← valueAt id (i - 1))
    setAt id at_ (Args.nth args 3)
  | _ => Args.located "wrong number of arguments to 'insert'"
  return .done []

def remove (args : List Value) : Body Reply := do
  let id ← Args.table args 1
  let size := position (← lengthOf id)
  let at_ ← Args.intOr args 2 size
  if 2 ≤ args.length && size + 1 != at_ && (at_ < 1 || size + 1 < at_) && !(size = 0 && at_ = 0) then
    Args.fault 2 "position out of bounds"
  let v ← valueAt id at_
  (span at_.toInt (size.toInt - 1)).forM fun i => do
    setAt id i (← valueAt id (i + 1))
  if at_ ≤ size then setAt id size .nil else setAt id at_ .nil
  return .done [v]

def unpack (args : List Value) : Body Reply := do
  let object := Args.nth args 1
  let id? : Option Nat := match object with | .table id => some id | _ => none
  let size ← match id? with | some id => lengthOf id | none => pure 0
  let first ← Args.intOr args 2 1
  let last ← Args.intOr args 3 (position size)
  if 1000000 ≤ last.toInt - first.toInt then Args.located "too many results to unpack"
  let values ← (span first.toInt last.toInt).mapM fun i =>
    match id? with
    | some id => valueAt id i
    | none => do
      Args.located (String.fromUTF8! (octets "attempt to index a " ++ (← get).typeName object
        ++ octets " value"))
  return .done values

def move (args : List Value) : Body Reply := do
  let source ← Args.table args 1
  let first ← Args.int args 2
  let last ← Args.int args 3
  let place ← Args.int args 4
  let target ← if Args.isNone args 5 then pure source else Args.table args 5
  let list := span first.toInt last.toInt
  let overlaps := first < place && place ≤ last && source = target
  (if overlaps then list.reverse else list).forM fun i => do
    setAt target (place + (i - first)) (← valueAt source i)
  return .done [.table target]

/-! ### Sorting -/

/-- The values whose order is asked for, the one that should be below first. -/
def question (s : Sorting) : Body (Value × Value) := do
  let value (n : Nat) : Body Value := valueAt s.table (position n)
  match s.phase with
  | .ends => return (← value s.high, ← value s.low)
  | .middleLow => return (← value ((s.low + s.high) / 2), ← value s.low)
  | .middleHigh => return (← value s.high, ← value ((s.low + s.high) / 2))
  | .ascend => return (← value s.i, s.pivot)
  | .descend => return (s.pivot, ← value s.j)

def swap (s : Sorting) (a b : Nat) : Body Unit := do
  let x ← valueAt s.table (position a)
  let y ← valueAt s.table (position b)
  setAt s.table (position a) y
  setAt s.table (position b) x

/-- Goes to the next range that holds two values at least. -/
def nextRange (s : Sorting) : List (Nat × Nat) → Option Sorting
  | [] => none
  | (low, high) :: rest =>
    if low < high then some { s with low, high, ranges := rest, phase := .ends }
    else nextRange s rest

/-- Starts to part a range around its median. -/
def part (s : Sorting) : Body (Option Sorting) := do
  if s.high - s.low = 2 then return nextRange s s.ranges
  let middle := (s.low + s.high) / 2
  let pivot ← valueAt s.table (position middle)
  swap s middle (s.high - 1)
  return some { s with pivot, i := s.low + 1, j := s.high - 1, phase := .ascend }

def badOrder : Body (Option Sorting) :=
  Args.located "invalid order function for sorting"

/-- Goes on with the answer to the question, up to the next one. -/
def answered (s : Sorting) (isBelow : Bool) : Body (Option Sorting) := do
  match s.phase with
  | .ends =>
    -- the ends of the range come first, so that they can stand guard
    if isBelow then swap s s.low s.high
    if s.high - s.low = 1 then return nextRange s s.ranges
    return some { s with phase := .middleLow }
  | .middleLow =>
    if isBelow then
      -- the pivot is the median of the two ends and the middle
      swap s ((s.low + s.high) / 2) s.low
      part s
    else return some { s with phase := .middleHigh }
  | .middleHigh =>
    if isBelow then swap s ((s.low + s.high) / 2) s.high
    part s
  | .ascend =>
    if isBelow then
      -- an order that is none would lead beyond the guard
      if s.i = s.high - 1 then badOrder else return some { s with i := s.i + 1 }
    else return some { s with j := s.j - 1, phase := .descend }
  | .descend =>
    if isBelow then
      if s.j < s.i then badOrder else return some { s with j := s.j - 1 }
    else if s.j < s.i then
      swap s (s.high - 1) s.i
      -- the two have met: the pivot goes between, and the smaller range is sorted first
      let lower := (s.low, s.i - 1)
      let upper := (s.i + 1, s.high)
      let ranges :=
        if s.i - s.low < s.high - s.i then lower :: upper :: s.ranges
        else upper :: lower :: s.ranges
      return nextRange s ranges
    else
      swap s s.i s.j
      return some { s with i := s.i + 1, phase := .ascend }

/-- How two values of no common order are refused. -/
def orderFault (h : Heap) (a b : Value) : ByteArray :=
  let x := h.typeName a
  let y := h.typeName b
  if x = y then octets "attempt to compare two " ++ x ++ octets " values"
  else octets "attempt to compare " ++ x ++ octets " with " ++ y

/-- Sorts until a comparison is a call; `fuel` bounds the number of comparisons. -/
def sortFrom : Nat → Option Sorting → Body Reply
  | 0, _ => return .done []
  | _, none => return .done []
  | fuel + 1, some s => do
    let (a, b) ← question s
    match s.compare with
    | some f => return .call f [a, b] (.sorting s)
    | none =>
      -- without a function the order of the language is asked, and then a metamethod
      match Arithmetic.less? a b with
      | some isBelow => sortFrom fuel (← answered s isBelow)
      | none =>
        let h ← get
        let handler :=
          match h.metamethod a "__lt" with
          | .nil => h.metamethod b "__lt"
          | handler => handler
        if handler.isNil then throw (.value (.str (orderFault h a b)))
        else return .call handler [a, b] (.sorting s)

/-- A bound for the number of comparisons. -/
def sortFuel (s : Sorting) : Body Nat := do
  let n ← lengthOf s.table
  return n * n + 64

/-- Goes on with the result of a call. -/
def sortResume (s : Sorting) (results : List Value) : Body Reply := do
  sortFrom (← sortFuel s) (← answered s (results.headD .nil).truthy)

def sort (args : List Value) : Body Reply := do
  let id ← Args.table args 1
  let size ← lengthOf id
  if size < 2 then return .done []
  if 0x80000000 ≤ size then Args.fault 1 "array too big"
  let compare ← if Args.isNone args 2 then pure none else some <$> Args.function args 2
  let s : Sorting := { table := id, compare, low := 1, high := size, i := 0, j := 0
                       pivot := .nil, ranges := [], phase := .ends }
  sortFrom (← sortFuel s) (some s)

/-- The functions of the table library. -/
def call (f : Native) (args : List Value) : Body Reply := do
  match f with
  | .tabConcat => concat args
  | .tabInsert => insert args
  | .tabRemove => remove args
  | .tabUnpack => unpack args
  | .tabMove => move args
  | .tabSort => sort args
  | .tabPack =>
    let t := (Table.ofArray args.toArray).setText "n" (.int (position args.length))
    return .done [← Work.newTable t]
  | _ => return .done []

end RobotSession.Lua.Library.Tables
