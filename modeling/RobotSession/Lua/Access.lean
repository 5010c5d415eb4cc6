import RobotSession.Lua.Arguments

/-!
# Access through metatables

Reading and writing a field may lead through a chain of metatables and end in a call.
The chain is followed here; the call is left to the machine.

* `Access.read` — what reading a field comes to.
* `Access.write` — what writing a field comes to.
* `Access.text?` — the text of a value that has no `__tostring`.
-/

namespace RobotSession.Lua.Access

open Text (octets)

/-- What reading a field comes to. -/
inductive Read
  | value (v : Value)
  /-- Call `f` with the object and the key. -/
  | handler (f object : Value)
  /-- The object has no fields. -/
  | notIndexable (object : Value)
  | tooLong

/-- What writing a field comes to. -/
inductive Write
  | raw (table : Nat) (k : Key)
  /-- Call `f` with the object, the key and the value. -/
  | handler (f object : Value)
  | notIndexable (object : Value)
  | nilKey
  | nanKey
  | tooLong

/-- The most metatables an access leads through. -/
def maxChain : Nat := 2000

/-- A field of a table without metamethods. -/
def rawGet (h : Heap) (id : Nat) (key : Value) : Value :=
  match key.key? with
  | some k => (h.table id).get k
  | none => .nil

def readFrom (h : Heap) (key : Value) : Nat → Value → Read
  | 0, _ => .tooLong
  | fuel + 1, object =>
    let own : Value :=
      match object with
      | .table id => rawGet h id key
      | _ => .nil
    if !own.isNil then .value own
    else
      match h.metamethod object "__index", object with
      | .nil, .table _ => .value .nil
      | .nil, _ => .notIndexable object
      | .func f, _ => .handler (.func f) object
      | next, _ => readFrom h key fuel next

/-- What reading a field comes to. -/
def read (h : Heap) (object key : Value) : Read :=
  readFrom h key maxChain object

def writeTo (h : Heap) (key : Value) : Nat → Value → Write
  | 0, _ => .tooLong
  | fuel + 1, object =>
    let raw (id : Nat) : Write :=
      match key.key?, key with
      | some k, _ => .raw id k
      | none, .nil => .nilKey
      | none, _ => .nanKey
    let through (fallback : Write) : Write :=
      match h.metamethod object "__newindex" with
      | .nil => fallback
      | .func f => .handler (.func f) object
      | next => writeTo h key fuel next
    match object with
    | .table id =>
      if (h.table id).metatable.isNone || !(rawGet h id key).isNil then raw id
      else through (raw id)
    | _ => through (.notIndexable object)

/-- What writing a field comes to. -/
def write (h : Heap) (object key : Value) : Write :=
  writeTo h key maxChain object

/-- An address for the text of a compound value. -/
def address (kind id : Nat) : String :=
  let n := 0x5581a0c00000 + kind * 0x1000000 + id * 64
  "0x" ++ String.ofList (Number.Decimal.padZeros 12 (Nat.toDigits 16 n))

/-- The address of a compound value. -/
def address? : Value → Option String
  | .table id => some (address 0 id)
  | .func id => some (address 1 id)
  | .thread id => some (address 2 id)
  | .object id => some (address 3 id)
  | _ => none

/-- The text of a value, `__tostring` aside. -/
def plainText (h : Heap) (v : Value) : ByteArray :=
  let named (kind id : Nat) : ByteArray :=
    h.typeName v ++ octets (": " ++ address kind id)
  match v with
  | .nil => octets "nil"
  | .bool true => octets "true"
  | .bool false => octets "false"
  | .int i => octets (Numeral.ofInt i)
  | .float x => octets (Numeral.ofFloat x)
  | .str s => s
  | .table id => named 0 id
  | .func id =>
    match h.function id with
    -- a function without captured values has a name of its own
    | .native _ [] => octets ("function: builtin: " ++ address 1 id)
    | _ => named 1 id
  | .thread id => named 2 id
  | .object id =>
    match h.object id with
    -- a file shows as one, any other object as its type
    | .stream .closed => octets "file (closed)"
    | .stream _ => octets ("file (" ++ address 3 id ++ ")")
    | _ => named 3 id

end RobotSession.Lua.Access
