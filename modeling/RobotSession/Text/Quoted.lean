import RobotSession.Text.Utf8

/-!
# Texts in records

Two forms in which texts appear in log records and messages.

* `Quoted.encode` — a text between quotes, with everything that would not be visible
  written as an escape.
* `Traceback.clean` — a text without the calls that led to a script error. They stand on
  lines that start with a tab, after a line `stack traceback:`.
-/

namespace RobotSession.Text

namespace Quoted

/-- Ranges of characters that are not visible by themselves: control and format
characters, marks that combine with the character before them, blanks other than the
space, unassigned and private characters. -/
def hiddenRanges : List (Nat × Nat) :=
  [(0x00, 0x1F), (0x7F, 0xA0), (0xAD, 0xAD), (0x300, 0x36F), (0x483, 0x489), (0x591, 0x5BD),
   (0x5BF, 0x5BF), (0x5C1, 0x5C2), (0x5C4, 0x5C5), (0x5C7, 0x5C7), (0x600, 0x605),
   (0x610, 0x61A), (0x61C, 0x61C), (0x64B, 0x65F), (0x670, 0x670), (0x6D6, 0x6DD),
   (0x6DF, 0x6E4), (0x6E7, 0x6E8), (0x6EA, 0x6ED), (0x93C, 0x93C), (0x941, 0x948),
   (0x94D, 0x94D), (0xE31, 0xE31), (0xE34, 0xE3A), (0xE47, 0xE4E), (0x1680, 0x1680),
   (0x1AB0, 0x1ACE), (0x1DC0, 0x1DFF), (0x2000, 0x200F), (0x2028, 0x202F),
   (0x205F, 0x206F), (0x20D0, 0x20F0), (0x302A, 0x302F), (0x3000, 0x3000),
   (0x3099, 0x309A), (0xD800, 0xF8FF), (0xFE00, 0xFE0F), (0xFE20, 0xFE2F), (0xFEFF, 0xFEFF),
   (0xFFF0, 0xFFFB), (0xFFFE, 0xFFFF), (0xE0000, 0x10FFFF)]

def isHidden (c : Char) : Bool :=
  hiddenRanges.any fun (low, high) => low ≤ c.toNat && c.toNat ≤ high

/-- A character between quotes. -/
def escape (c : Char) : List Char :=
  if c == '"' then ['\\', '"']
  else if c == '\\' then ['\\', '\\']
  else if c == '\n' then ['\\', 'n']
  else if c == '\r' then ['\\', 'r']
  else if c == '\t' then ['\\', 't']
  else if c == '\x00' then ['\\', '0']
  else if isHidden c then ['\\', 'u', '\x7b'] ++ Nat.toDigits 16 c.toNat ++ ['\x7d']
  else [c]

/-- A text between quotes. -/
def encode (s : String) : String :=
  "\"" ++ String.ofList (s.toList.flatMap escape) ++ "\""

/-- A list of texts. -/
def encodeList (ss : List String) : String :=
  "[" ++ String.intercalate ", " (ss.map encode) ++ "]"

end Quoted

namespace Traceback

/-- The line that announces the calls. -/
def heading : List Char := "stack traceback:".toList

def isCall : List Char → Bool
  | '\t' :: _ => true
  | _ => false

/-- Drops the first announcement of calls and the calls. -/
def dropCalls : List (List Char) → Option (List (List Char))
  | [] => none
  | line :: rest =>
    if line = heading then some (rest.dropWhile isCall)
    else (dropCalls rest).map (line :: ·)

/-- Drops every announcement of calls and the calls; `fuel` bounds their number. -/
def dropAll : Nat → List (List Char) → List (List Char)
  | 0, lines => lines
  | fuel + 1, lines =>
    match dropCalls lines with
    | some rest => dropAll fuel rest
    | none => lines

/-- A text without the calls that led to a script error. -/
def clean (s : String) : String :=
  let lines := s.toList.splitOn '\n'
  match dropCalls lines with
  | none => s
  | some _ =>
    let rest := (List.intercalate ['\n'] (dropAll lines.length lines)).reverse
    String.ofList (rest.dropWhile (· == '\n')).reverse

end Traceback

end RobotSession.Text
