import RobotSession.Text.Utf8
import RobotSession.Number.Binary64

/-!
# Script values and tables

A value is a scalar, an octet string, or the name of something that lives in the
interpreter's store: a table, a function, a thread or a host object.

A table keeps the positions `1 … n` in an array and all other keys in the order in
which they first appeared. An absent key has the value `nil`; a key whose value was
set to `nil` keeps its place, so that a traversal may clear the fields it visits.

* `Value.key?` — the key a value denotes: an integral float is the same key as the
  integer, `nil` and NaN are no keys.
* `Table.get`, `Table.set` — access without metamethods.
* `Table.next` — traversal order.
* `Table.border` — a position with a value whose successor has none.
-/

namespace RobotSession.Lua

open RobotSession.Number

/-- A script value. Compound values are names for store entries. -/
inductive Value
  | nil
  | bool (b : Bool)
  | int (i : Int64)
  | float (x : Float)
  | str (s : ByteArray)
  | table (id : Nat)
  | func (id : Nat)
  | thread (id : Nat)
  | object (id : Nat)
  deriving Inhabited

/-- The kinds of store entries a key can name. -/
inductive RefKind
  | table
  | func
  | thread
  | object
  deriving DecidableEq

/-- A table key. -/
inductive Key
  | bool (b : Bool)
  | int (i : Int64)
  /-- A float that equals no integer, by its bits. -/
  | float (bits : UInt64)
  | str (s : ByteArray)
  | ref (kind : RefKind) (id : Nat)
  deriving DecidableEq

namespace Value

/-- The string value of a text. -/
def text (s : String) : Value :=
  .str (Text.octets s)

/-- Everything but `nil` and `false` counts as true. -/
def truthy : Value → Bool
  | .nil => false
  | .bool b => b
  | _ => true

def isNil : Value → Bool
  | .nil => true
  | _ => false

/-- The basic type of a value, as scripts see it. -/
def typeName : Value → String
  | .nil => "nil"
  | .bool _ => "boolean"
  | .int _ => "number"
  | .float _ => "number"
  | .str _ => "string"
  | .table _ => "table"
  | .func _ => "function"
  | .thread _ => "thread"
  | .object _ => "userdata"

/-- The integer a float equals, if it is in the range of script integers. -/
def floatToInt? (x : Float) : Option Int64 :=
  match (Binary64.ofFloat x).toInt? with
  | some i => if -0x8000000000000000 ≤ i ∧ i < 0x8000000000000000 then some (Int64.ofInt i) else none
  | none => none

/-- The key a value denotes; none for `nil` and NaN. -/
def key? : Value → Option Key
  | .nil => none
  | .bool b => some (.bool b)
  | .int i => some (.int i)
  | .float x =>
    match floatToInt? x with
    | some i => some (.int i)
    | none => if x.isNaN then none else some (.float x.toBits)
  | .str s => some (.str s)
  | .table id => some (.ref .table id)
  | .func id => some (.ref .func id)
  | .thread id => some (.ref .thread id)
  | .object id => some (.ref .object id)

/-- Equality without metamethods: numbers by their mathematical value, strings by
their octets, compound values by identity. -/
def rawEq : Value → Value → Bool
  | .nil, .nil => true
  | .bool a, .bool b => a == b
  | .int a, .int b => a == b
  | .float a, .float b => a == b
  | .int a, .float b => (Binary64.ofFloat b).toInt? == some a.toInt
  | .float a, .int b => (Binary64.ofFloat a).toInt? == some b.toInt
  | .str a, .str b => a == b
  | .table a, .table b => a == b
  | .func a, .func b => a == b
  | .thread a, .thread b => a == b
  | .object a, .object b => a == b
  | _, _ => false

end Value

/-- The value a key denotes. -/
def Key.value : Key → Value
  | .bool b => .bool b
  | .int i => .int i
  | .float bits => .float (Float.ofBits bits)
  | .str s => .str s
  | .ref .table id => .table id
  | .ref .func id => .func id
  | .ref .thread id => .thread id
  | .ref .object id => .object id

/-- The string key of a text. -/
def Key.text (s : String) : Key :=
  .str (Text.octets s)

def Key.isInt : Key → Bool
  | .int _ => true
  | _ => false

/-- A table. -/
structure Table where
  /-- The values at positions `1 … items.size`. -/
  items : Array Value := #[]
  /-- All other keys, in the order in which they first appeared. -/
  entries : Array (Key × Value) := #[]
  /-- How many keys of `entries` are integers. -/
  sparse : Nat := 0
  /-- The table that holds the metamethods. -/
  metatable : Option Nat := none
  deriving Inhabited

namespace Table

/-- A table with the given values at positions `1 … n`. -/
def ofArray (items : Array Value) : Table :=
  { items }

/-- The place of a key among the entries. -/
def find? (t : Table) (k : Key) : Option Nat :=
  t.entries.findIdx? (·.1 = k)

/-- The index in `items` of an integer key. -/
def position? (t : Table) (i : Int64) : Option Nat :=
  let n := i.toInt
  if 1 ≤ n ∧ n ≤ t.items.size then some (n.toNat - 1) else none

/-- The value of a key that is not in `items`. -/
def entry (t : Table) (k : Key) : Value :=
  match t.find? k with
  | some j => (t.entries.getD j (k, .nil)).2
  | none => .nil

/-- The value of a key. -/
def get (t : Table) (k : Key) : Value :=
  match k with
  | .int i =>
    match t.position? i with
    | some j => t.items.getD j .nil
    | none => if t.sparse = 0 then .nil else t.entry k
  | _ => t.entry k

/-- The value of a text key. -/
def getText (t : Table) (name : String) : Value :=
  t.get (.text name)

/-- The value at a position. -/
def getAt (t : Table) (n : Nat) : Value :=
  t.get (.int (Int64.ofNat n))

/-- Drops the places of keys without a value. -/
def compact (t : Table) : Table :=
  let live := t.entries.filter fun e => !e.2.isNil
  { t with entries := live, sparse := live.foldl (fun n e => if e.1.isInt then n + 1 else n) 0 }

/-- Gives a key that is not in `items` a value. -/
def setEntry (t : Table) (k : Key) (v : Value) : Table :=
  match t.find? k with
  | some j => { t with entries := t.entries.set! j (k, v) }
  | none =>
    if v.isNil then t
    else
      let t := if t.entries.size % 64 = 63 then t.compact else t
      { t with
        entries := t.entries.push (k, v)
        sparse := if k.isInt then t.sparse + 1 else t.sparse }

/-- Moves entries that continue `items` into it; `fuel` bounds their number. -/
def absorb : Nat → Table → Table
  | 0, t => t
  | fuel + 1, t =>
    let k : Key := .int (Int64.ofNat (t.items.size + 1))
    let v := t.entry k
    if v.isNil then t
    else absorb fuel { t.setEntry k .nil with items := t.items.push v }

/-- Gives a key a value. -/
def set (t : Table) (k : Key) (v : Value) : Table :=
  match k with
  | .int i =>
    match t.position? i with
    | some j => { t with items := t.items.set! j v }
    | none =>
      if i.toInt = t.items.size + 1 ∧ !v.isNil then
        if t.sparse = 0 then { t with items := t.items.push v }
        else
          let t := t.setEntry k .nil
          absorb t.sparse { t with items := t.items.push v }
      else t.setEntry k v
  | _ => t.setEntry k v

/-- Gives a text key a value. -/
def setText (t : Table) (name : String) (v : Value) : Table :=
  t.set (.text name) v

/-- The first position above `i` with a value, searching `fuel` positions. -/
def nextItem (t : Table) : Nat → Nat → Option (Value × Value)
  | 0, _ => none
  | fuel + 1, i =>
    let v := t.items.getD i .nil
    if v.isNil then nextItem t fuel (i + 1)
    else some (.int (Int64.ofNat (i + 1)), v)

/-- The first entry from place `j` on with a value, searching `fuel` places. -/
def nextEntry (t : Table) : Nat → Nat → Option (Value × Value)
  | 0, _ => none
  | fuel + 1, j =>
    match t.entries[j]? with
    | none => none
    | some (k, v) => if v.isNil then nextEntry t fuel (j + 1) else some (k.value, v)

/-- The first field from position `i + 1` on. -/
def nextFrom (t : Table) (i : Nat) : Option (Value × Value) :=
  match t.nextItem (t.items.size - i) i with
  | some field => some field
  | none => t.nextEntry t.entries.size 0

/-- The field after a key; the outer option fails if the key is not in the table. -/
def next (t : Table) (k : Option Key) : Option (Option (Value × Value)) :=
  match k with
  | none => some (t.nextFrom 0)
  | some k =>
    let afterEntry : Option (Option (Value × Value)) :=
      (t.find? k).map fun j => t.nextEntry t.entries.size (j + 1)
    match k with
    | .int i =>
      match t.position? i with
      | some j => some (t.nextFrom (j + 1))
      | none => afterEntry
    | _ => afterEntry

/-- Halves the gap between a position with a value (or 0) and one without. -/
def borderBetween (t : Table) : Nat → Nat → Nat → Nat
  | 0, low, _ => low
  | fuel + 1, low, high =>
    if high - low ≤ 1 then low
    else
      let middle := (low + high) / 2
      if (t.items.getD (middle - 1) .nil).isNil then borderBetween t fuel low middle
      else borderBetween t fuel middle high

/-- A position with a value whose successor has none; 0 if the first has none. -/
def border (t : Table) : Nat :=
  let n := t.items.size
  if n = 0 then 0
  else if !(t.items.getD (n - 1) .nil).isNil then n
  else if 2 ≤ n ∧ !(t.items.getD (n - 2) .nil).isNil then n - 1
  else t.borderBetween n 0 n

end Table

end RobotSession.Lua
