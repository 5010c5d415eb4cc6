/-!
# Identifiers of sessions

A session is known by 128 bits, which are written as 32 hexadecimal digits in five groups.

* `Uuid.write` — the written form: small digits, groups with hyphens between them.
* `Uuid.read` — reads the written form, also with large digits, without hyphens, in braces
  or after `urn:uuid:`; `Uuid.Fault` says what is wrong with any other text.
-/

namespace RobotSession

/-- An identifier, as its hexadecimal digits. -/
structure Uuid where
  digits : List (Fin 16)
  length_digits : digits.length = 32
  deriving DecidableEq

namespace Uuid

/-- The identifier that has only zeros. -/
def zero : Uuid := ⟨List.replicate 32 0, rfl⟩

instance : Inhabited Uuid := ⟨zero⟩

def digit? (c : Char) : Option (Fin 16) :=
  if '0' ≤ c && c ≤ '9' then some (Fin.ofNat 16 (c.toNat - 48))
  else if 'a' ≤ c && c ≤ 'f' then some (Fin.ofNat 16 (c.toNat - 87))
  else if 'A' ≤ c && c ≤ 'F' then some (Fin.ofNat 16 (c.toNat - 55))
  else none

def digitChar (d : Fin 16) : Char :=
  Char.ofNat (if d.val < 10 then 48 + d.val else 87 + d.val)

/-- The lengths of the groups. -/
def groups : List Nat := [8, 4, 4, 4, 12]

/-- Cuts a list into parts of given lengths. -/
def cut {α : Type} : List Nat → List α → List (List α)
  | [], _ => []
  | n :: ns, as => as.take n :: cut ns (as.drop n)

/-- The written form. -/
def write (u : Uuid) : String :=
  String.ofList (List.intercalate ['-'] (cut groups (u.digits.map digitChar)))

/-- What is wrong with a text. -/
inductive Fault
  /-- A character that is no digit, at an index in octets. -/
  | character (c : Char) (index : Nat)
  | length (found : Nat)
  | groupCount (found : Nat)
  | groupLength (group found : Nat)
  deriving DecidableEq

def Fault.message : Fault → String
  | .character c index =>
    "invalid character: found `" ++ String.singleton c ++ "` at " ++ toString index
  | .length found => "invalid length: found " ++ toString found
  | .groupCount found => "invalid group count: expected 5, found " ++ toString found
  | .groupLength group found =>
    "invalid group length in group " ++ toString group ++ ": expected "
      ++ toString (groups.getD group 0) ++ ", found " ++ toString found

/-- Number of octets of a text. -/
def size (cs : List Char) : Nat :=
  cs.foldl (fun n c => n + c.utf8Size) 0

/-- The first character that is neither digit nor hyphen, with its index. -/
def firstWrong : List Char → Nat → Option (Char × Nat)
  | [], _ => none
  | c :: rest, index =>
    if c = '-' || (digit? c).isSome then firstWrong rest (index + c.utf8Size)
    else some (c, index)

/-- The text after `urn:uuid:`. -/
def afterName? (cs : List Char) : Option (List Char) :=
  let name := "urn:uuid:".toList
  if cs.take name.length = name then some (cs.drop name.length) else none

/-- The text between braces. -/
def inBraces? : List Char → Option (List Char)
  | '\x7b' :: rest => if rest.getLast? = some '\x7d' then some rest.dropLast else none
  | _ => none

/-- The indices of the hyphens. -/
def hyphens (cs : List Char) : List Nat :=
  (List.range cs.length).filter fun i => cs[i]? = some '-'

/-- The first group whose length is wrong: group, where it starts, and its end. -/
def wrongGroup : List Nat → List Nat → Nat → Nat → Option Fault
  | n :: ns, e :: ends, group, start =>
    if e = start + n then wrongGroup ns ends (group + 1) (e + 1)
    else some (.groupLength group (e - start))
  | _, _, _, _ => none

/-- What is wrong with a text that is no identifier. -/
def diagnose (cs : List Char) : Fault :=
  let (body, offset, plain) :=
    match inBraces? cs, afterName? cs with
    | some body, _ => (body, 1, false)
    | none, some body => (body, 9, false)
    | none, none => (cs, 0, true)
  match firstWrong body 0 with
  | some (c, index) => .character c (index + offset)
  | none =>
    let ends := hyphens body
    if ends.isEmpty && plain then .length (size cs)
    else if ends.length ≠ 4 then .groupCount (ends.length + 1)
    else (wrongGroup groups ends 0 0).getD (.groupLength 4 (size cs - 24))

def ofDigits? (cs : List Char) : Option Uuid :=
  match cs.mapM digit? with
  | some digits => if h : digits.length = 32 then some ⟨digits, h⟩ else none
  | none => none

/-- Reads groups of digits with hyphens between them. -/
def ofGroups? (cs : List Char) : Option Uuid :=
  if hyphens cs = [8, 13, 18, 23] then ofDigits? (cs.filter (· ≠ '-')) else none

/-- Reads an identifier. -/
def read (s : String) : Except Fault Uuid :=
  let cs := s.toList
  let settle (found : Option Uuid) (cs : List Char) : Except Fault Uuid :=
    match found with
    | some u => .ok u
    | none => .error (diagnose cs)
  match size cs, inBraces? cs, afterName? cs with
  | 32, _, _ => settle (ofDigits? cs) cs
  | 36, _, _ => settle (ofGroups? cs) cs
  | 38, some body, _ => settle (ofGroups? body) body
  | 45, _, some body => settle (ofGroups? body) body
  | _, _, _ => .error (diagnose cs)

end Uuid

end RobotSession
