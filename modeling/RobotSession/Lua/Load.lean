import RobotSession.Lua.Compile
import RobotSession.Lua.Parser
import RobotSession.Lua.State

/-!
# Loading programs

A program is loaded from octets under a name. A name that starts with `@` is a path,
one that starts with `=` stands for itself, and any other one is the source text.
Messages show a short form of it.

Octets that start with an escape are a precompiled program. Such programs are not
executed; what is refused about them is decided by their header.

* `Chunk.load` — the program in a source, or why there is none.
* `Chunk.evaluated` — the same, but a source that is an expression is its value.
* `Chunk.enter` — the main function of a program over a table of variables.
-/

namespace RobotSession.Lua

open Text (octets)

/-- Why a source cannot be loaded. -/
inductive LoadFault
  | source (message : ByteArray)
  /-- The source is nested too deeply. -/
  | tooDeep

def LoadFault.text : LoadFault → ByteArray
  | .source message => message
  | .tooDeep => octets "C stack overflow"

namespace Chunk

/-- The most octets of a name in a message. -/
def nameLimit : Nat := 59

/-- The short form of a name. -/
def shortName (name : ByteArray) : ByteArray :=
  match name.toList with
  | 61 :: rest => ByteArray.mk (rest.take nameLimit).toArray
  | 64 :: rest =>
    if rest.length ≤ nameLimit then ByteArray.mk rest.toArray
    else octets "..." ++ ByteArray.mk (rest.drop (rest.length - 56)).toArray
  | bs =>
    let line := bs.takeWhile (· != 10)
    let kept :=
      if line.length = bs.length ∧ bs.length < 45 then ByteArray.mk bs.toArray
      else ByteArray.mk (line.take 45).toArray ++ octets "..."
    octets "[string \"" ++ kept ++ octets "\"]"

/-- The form of a name in messages about precompiled programs. -/
def plainName (name : ByteArray) : ByteArray :=
  match name.toList with
  | 61 :: rest => ByteArray.mk rest.toArray
  | 64 :: rest => ByteArray.mk rest.toArray
  | 27 :: _ => octets "binary string"
  | _ => name

/-- The text of a fault of a source. -/
def faultText (short : ByteArray) (f : SourceFault) : ByteArray :=
  let near :=
    match f.near with
    | some s => octets " near " ++ s
    | none => ByteArray.empty
  short ++ octets s!":{f.line}: " ++ f.message ++ near

/-- The parts of a header, and what is wrong with a program that has others. -/
def headerParts : List (List UInt8 × String) :=
  [([76, 117, 97], "not a binary chunk"),
   ([0x54], "version mismatch"),
   ([0], "format mismatch"),
   ([0x19, 0x93, 13, 10, 0x1a, 10], "corrupted chunk"),
   ([4], "Instruction size mismatch"),
   ([8], "lua_Integer size mismatch"),
   ([8], "lua_Number size mismatch"),
   ([0x78, 0x56, 0, 0, 0, 0, 0, 0], "integer format mismatch"),
   ([0, 0, 0, 0, 0, 0x28, 0x77, 0x40], "float format mismatch")]

/-- What is wrong with a precompiled program, after its escape. -/
def headerFault : List (List UInt8 × String) → List UInt8 → String
  | [], _ => "truncated chunk"
  | (part, fault) :: rest, bs =>
    if bs.length < part.length then "truncated chunk"
    else if bs.take part.length = part then headerFault rest (bs.drop part.length)
    else fault

/-- The program in a text. -/
def ofText (name : ByteArray) (source : List UInt8) : Except LoadFault Chunk :=
  let short := shortName name
  match Parser.chunk source with
  | .ok f => .ok (.ofProgram short f)
  | .error (.source f) => .error (.source (faultText short f))
  | .error .tooDeep => .error .tooDeep

/-- The program in a source. -/
def load (name source : ByteArray) : Except LoadFault Chunk :=
  match source.toList with
  | 27 :: rest =>
    .error (.source (plainName name
      ++ octets (": bad binary format (" ++ headerFault headerParts rest ++ ")")))
  | bs => ofText name bs

/-- The program in a source; a source that is an expression is the program that
returns its values. -/
def evaluated (name source : ByteArray) : Except LoadFault Chunk :=
  match ofText name (octets "return " ++ source).toList with
  | .ok c => .ok c
  | .error _ => load name source

/-- The main function of a program over a table of variables. -/
def enter (c : Chunk) (environment : Value) : Work Value := do
  let cell ← Work.newCell environment
  Work.newFunction (.script c (c.protos.size - 1) #[cell])

end Chunk

end RobotSession.Lua
