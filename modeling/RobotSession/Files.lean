import RobotSession.Text.Utf8

/-!
# Files

The files and directories that a program can see, and the reasons why a path cannot be
read. Paths are followed part by part from the working directory, or from the root if they
start with a slash: each part but the last must lead into a directory, and `..` leads out of
one.
-/

namespace RobotSession

/-- Why a file cannot be read. -/
inductive FileFault
  | notFound
  | isDirectory
  | notDirectory
  | nameTooLong
  /-- The path holds a zero octet. -/
  | zeroOctet
  /-- The content is not text. -/
  | notText
  deriving DecidableEq, Inhabited

namespace FileFault

/-- The reason, without its number. -/
def reason : FileFault → String
  | .notFound => "No such file or directory"
  | .isDirectory => "Is a directory"
  | .notDirectory => "Not a directory"
  | .nameTooLong => "File name too long"
  | .zeroOctet => "file name contained an unexpected NUL byte"
  | .notText => "stream did not contain valid UTF-8"

/-- The number under which the operating system knows the reason. -/
def number? : FileFault → Option Nat
  | .notFound => some 2
  | .isDirectory => some 21
  | .notDirectory => some 20
  | .nameTooLong => some 36
  | _ => none

def message (f : FileFault) : String :=
  match f.number? with
  | some n => f.reason ++ s!" (os error {n})"
  | none => f.reason

end FileFault

/-- A path, as the names on it. -/
abbrev Names := List (List UInt8)

/-- The files by their paths; a directory has no content. -/
structure Files where
  entries : List (Names × Option ByteArray) := []
  deriving Inhabited

namespace Files

/-- The name that stands for the root. -/
def top : List UInt8 := [47]

/-- The name that leads out of a directory. -/
def up : List UInt8 := [46, 46]

/-- The names on a path. -/
def parts (path : ByteArray) : Names :=
  let octets := path.toList
  let names := (octets.splitOn 47).filter fun n => !n.isEmpty && n ≠ [46]
  if octets.head? = some 47 then top :: names else names

/-- Adds a file, or a directory if there is no content. -/
def put (f : Files) (path : ByteArray) (content : Option ByteArray) : Files :=
  let names := parts path
  { entries := (names, content) :: f.entries.filter fun e => e.1 ≠ names }

/-- Whether names lead to the root, the working directory or a directory around it. -/
def isAround (names : Names) : Bool :=
  names = [top] || names.all (· = up)

def isDirectory (f : Files) (names : Names) : Bool :=
  isAround names || f.entries.any fun (n, c) =>
    (n = names && c.isNone) || (n.length > names.length && n.take names.length = names)

def content? (f : Files) (names : Names) : Option ByteArray :=
  f.entries.findSome? fun (n, c) => if n = names then c else none

/-- The longest name and the longest path. -/
def nameLimit : Nat := 255
def pathLimit : Nat := 4096

/-- Leaves a directory; the names are reversed. -/
def leave (done : Names) : Names :=
  if isAround done then (if done = [top] then done else up :: done) else done.tail

/-- Follows a path from a place; `done` is reversed. -/
def follow (f : Files) (done : Names) : Names → Except FileFault Names
  | [] => .ok done.reverse
  | name :: rest =>
    if !f.isDirectory done.reverse then
      .error (if (f.content? done.reverse).isSome then .notDirectory else .notFound)
    else if nameLimit < name.length then .error .nameTooLong
    else if name = up then follow f (leave done) rest
    else follow f (name :: done) rest

/-- Whether a path can only mean a directory, by its end. -/
def meansDirectory (path : ByteArray) : Bool :=
  match path.toList.reverse with
  | 47 :: _ => true
  | 46 :: 47 :: _ => true
  | _ => false

/-- The octets of a file. -/
def readOctets (f : Files) (path : ByteArray) : Except FileFault ByteArray :=
  let bytes := path.toList
  if bytes.contains 0 then .error .zeroOctet
  else if bytes.isEmpty then .error .notFound
  else if pathLimit ≤ bytes.length then .error .nameTooLong
  else do
    let names ← match parts path with
      | name :: rest => if name = top then f.follow [top] rest else f.follow [] (name :: rest)
      | [] => .ok []
    match f.content? names with
    | some c => if meansDirectory path then .error .notDirectory else .ok c
    | none => .error (if f.isDirectory names then .isDirectory else .notFound)

/-- The text of a file. -/
def readText (f : Files) (path : ByteArray) : Except FileFault String := do
  let bytes ← f.readOctets path
  match Text.Utf8.decode? bytes with
  | some s => .ok s
  | none => .error .notText

end Files

end RobotSession
