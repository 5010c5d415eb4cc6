import RobotSession.Lua.Numeral

/-!
# Tokens of the script language

`Token.scan` cuts a source into lexemes: a token, the line on which it ends, and the
text by which an error message quotes it. A fault in the source ends the list with
the fault, so that a reader of the list reports whichever fault comes first.
-/

namespace RobotSession.Lua

inductive Token
  | name (s : ByteArray)
  | str (s : ByteArray)
  | int (i : Int64)
  | float (x : Float)
  /-- A reserved word or an operator. -/
  | mark (s : String)
  /-- An octet that starts no token. -/
  | stray (b : UInt8)
  | eof

/-- A token in its place. -/
structure Lexeme where
  token : Token
  /-- The line on which the token ends. -/
  line : Nat
  /-- How messages quote the token, or nothing if they do not. -/
  near : Option ByteArray

/-- A fault in a source text. -/
structure SourceFault where
  line : Nat
  message : ByteArray
  near : Option ByteArray

/-- An element of a scanned source. -/
inductive Scanned
  | lexeme (l : Lexeme)
  | fault (f : SourceFault)

namespace Token

open Numeral

/-- The reserved words. -/
def words : List String :=
  ["and", "break", "do", "else", "elseif", "end", "false", "for", "function", "goto",
   "if", "in", "local", "nil", "not", "or", "repeat", "return", "then", "true",
   "until", "while"]

/-- The operators, longest first among those that start alike. -/
def operators : List String :=
  ["...", "..", "==", "~=", "<=", ">=", "<<", ">>", "//", "::",
   "+", "-", "*", "/", "%", "^", "#", "&", "~", "|", "<", ">", "=", "(", ")",
   "\x7b", "\x7d", "[", "]", ";", ":", ",", "."]

def isLetter (b : UInt8) : Bool :=
  (65 ≤ b && b ≤ 90) || (97 ≤ b && b ≤ 122) || b == 95

def isNamePart (b : UInt8) : Bool :=
  isLetter b || isDigit b

def isPrintable (b : UInt8) : Bool :=
  32 ≤ b && b < 127

/-- A quoted text, cut at the first NUL. -/
def quote (bs : List UInt8) : ByteArray :=
  ByteArray.mk (([39] ++ bs.takeWhile (· != 0) ++ [39]).toArray)

/-- How messages quote an octet that starts no token. NUL is not quoted. -/
def quoteStray (b : UInt8) : Option ByteArray :=
  if b == 0 then none
  else if isPrintable b then some (quote [b])
  else some (Text.octets s!"'<\\{b.toNat}>'")

/-- Whether two octets together end one line. -/
def isPair (a b : UInt8) : Bool :=
  (a == 10 && b == 13) || (a == 13 && b == 10)

def isNewline (b : UInt8) : Bool :=
  b == 10 || b == 13

/-- Skips a line end whose first octet is `b`. -/
def skipNewline (b : UInt8) : List UInt8 → List UInt8
  | [] => []
  | c :: rest => if isPair b c then rest else c :: rest

/-- The level of a long bracket after its first `[` or `]`, and what follows its
second one; `close` is that second bracket. -/
def longBracket? (close : UInt8) (bs : List UInt8) : Option (Nat × List UInt8) :=
  let level := (bs.takeWhile (· == 61)).length
  match bs.dropWhile (· == 61) with
  | c :: rest => if c == close then some (level, rest) else none
  | [] => none

/-- Reads a long string after its opening bracket: its octets, what follows, and the
line where it ends. -/
def longString (level : Nat) :
    Nat → List UInt8 → List UInt8 → Nat → Option (List UInt8 × List UInt8 × Nat)
  | 0, _, _, _ => none
  | _ + 1, _, [], _ => none
  | fuel + 1, acc, b :: rest, line =>
    if isNewline b then
      longString level fuel (10 :: acc) (skipNewline b rest) (line + 1)
    else if b == 93 then
      match longBracket? 93 rest with
      | some (n, after) =>
        if n = level then some (acc.reverse, after, line)
        else longString level fuel (b :: acc) rest line
      | none => longString level fuel (b :: acc) rest line
    else longString level fuel (b :: acc) rest line

/-- A string that has been read, with what follows and the line where it ends. -/
structure Quoted where
  octets : List UInt8
  rest : List UInt8
  line : Nat

def stringFault (line : Nat) (message : String) (raw : List UInt8) : SourceFault :=
  ⟨line, Text.octets message, some (quote raw)⟩

/-- The value of an escape letter. -/
def escapeLetter? (b : UInt8) : Option UInt8 :=
  match b.toNat with
  | 97 => some 7
  | 98 => some 8
  | 102 => some 12
  | 110 => some 10
  | 114 => some 13
  | 116 => some 9
  | 118 => some 11
  | 92 => some 92
  | 34 => some 34
  | 39 => some 39
  | _ => none

/-- Skips blanks after `\z`, counting lines. -/
def skipBlanks : Nat → List UInt8 → Nat → List UInt8 × Nat
  | 0, bs, line => (bs, line)
  | _ + 1, [], line => ([], line)
  | fuel + 1, b :: rest, line =>
    if isNewline b then skipBlanks fuel (skipNewline b rest) (line + 1)
    else if isBlank b then skipBlanks fuel rest line
    else (b :: rest, line)

/-- A numeric escape: its octets and what follows, or the message and the octets
that the message quotes. -/
abbrev Escape :=
  Except (String × List UInt8) (List UInt8 × List UInt8)

/-- The octets of an escape that are quoted: those read, and the one after them. -/
def withNext (taken : List UInt8) (rest : List UInt8) : List UInt8 :=
  taken ++ rest.take 1

/-- Reads `\xXX` after the `x`. -/
def hexEscape (rest : List UInt8) : Escape :=
  match rest with
  | a :: after =>
    match hexDigit? a with
    | none => .error ("hexadecimal digit expected", withNext [120] rest)
    | some x =>
      match after with
      | b :: after' =>
        match hexDigit? b with
        | none => .error ("hexadecimal digit expected", withNext [120, a] after)
        | some y => .ok ([UInt8.ofNat (x * 16 + y)], after')
      | [] => .error ("hexadecimal digit expected", [120, a])
  | [] => .error ("hexadecimal digit expected", [120])

/-- The digits of `\u`, with the value so far; fails at a value above 31 bits. -/
def unicodeDigits (taken : List UInt8) (value : Nat) :
    List UInt8 → Except (String × List UInt8) (Nat × List UInt8 × List UInt8)
  | [] => .ok (value, taken, [])
  | b :: rest =>
    match hexDigit? b with
    | none => .ok (value, taken, b :: rest)
    | some d =>
      if value ≤ 0x7FFFFFF then unicodeDigits (taken ++ [b]) (value * 16 + d) rest
      else .error ("UTF-8 value too large", taken ++ [b])

/-- Reads a `\u` escape after the `u`. -/
def unicodeEscape (rest : List UInt8) : Escape :=
  match rest with
  | 123 :: after =>
    match after with
    | b :: _ =>
      if isHexDigit b then
        match unicodeDigits [117, 123] 0 after with
        | .error e => .error e
        | .ok (value, taken, after) =>
          match after with
          | 125 :: after => .ok (Text.Utf8.encodeExtended value, after)
          | _ => .error ("missing '\x7d'", withNext taken after)
      else .error ("hexadecimal digit expected", withNext [117, 123] after)
    | [] => .error ("hexadecimal digit expected", [117, 123])
  | _ => .error ("missing '\x7b'", withNext [117] rest)

/-- Reads a decimal escape of at most three digits. -/
def decimalEscape (rest : List UInt8) : Escape :=
  let ds := (rest.take 3).takeWhile isDigit
  let after := rest.drop ds.length
  if ds.isEmpty then .error ("invalid escape sequence", withNext [] rest)
  else
    let n := decimalValue ds
    if 255 < n then .error ("decimal escape too large", withNext ds after)
    else .ok ([UInt8.ofNat n], after)

/-- Reads a quoted string after its opening quote `delimiter`. `acc` holds the octets
so far, last first. -/
def shortString (delimiter : UInt8) :
    Nat → List UInt8 → List UInt8 → Nat → Except SourceFault Quoted
  | 0, acc, _, line => .error (stringFault line "unfinished string" (delimiter :: acc.reverse))
  | _ + 1, _, [], line => .error ⟨line, Text.octets "unfinished string", some (Text.octets "<eof>")⟩
  | fuel + 1, acc, b :: rest, line =>
    if b == delimiter then .ok ⟨acc.reverse, rest, line⟩
    -- a line ends within a text only behind a backslash
    else if isNewline b then
      .error (stringFault line "unfinished string" (delimiter :: acc.reverse))
    else if b == 92 then
      -- a fault in an escape shows the text up to it
      let escape (e : Escape) : Except SourceFault (List UInt8 × List UInt8) :=
        match e with
        | .ok r => .ok r
        | .error (message, raw) =>
          .error (stringFault line message (delimiter :: acc.reverse ++ 92 :: raw))
      match rest with
      | [] => .error ⟨line, Text.octets "unfinished string", some (Text.octets "<eof>")⟩
      | c :: after =>
        match escapeLetter? c with
        | some v => shortString delimiter fuel (v :: acc) after line
        | none =>
          if isNewline c then
            shortString delimiter fuel (10 :: acc) (skipNewline c after) (line + 1)
          else if c == 122 then
            -- the blanks that follow are dropped, ends of lines among them
            let (after, line) := skipBlanks after.length after line
            shortString delimiter fuel acc after line
          else
            let parsed :=
              if c == 120 then hexEscape after
              else if c == 117 then unicodeEscape after
              else decimalEscape rest
            match escape parsed with
            | .error f => .error f
            | .ok (octets, after) => shortString delimiter fuel (octets.reverse ++ acc) after line
    else shortString delimiter fuel (b :: acc) rest line

/-- The extent of a numeral: digits, letters, points, and a sign after an exponent
mark. -/
def numeralExtent (isMark : UInt8 → Bool) : Nat → List UInt8 → Nat
  | 0, _ => 0
  | _ + 1, [] => 0
  | fuel + 1, b :: rest =>
    if isMark b then
      match rest with
      | s :: rest' =>
        if s == 43 || s == 45 then 2 + numeralExtent isMark fuel rest'
        else 1 + numeralExtent isMark fuel rest
      | [] => 1
    else if isHexDigit b || b == 46 then 1 + numeralExtent isMark fuel rest
    else if isLetter b then 1
    else 0

/-- Reads a numeral: its octets and what follows. -/
def numeral (bs : List UInt8) : List UInt8 × List UInt8 :=
  let isHex := (hexBody? bs).isSome
  let isMark : UInt8 → Bool :=
    if isHex then fun b => b == 112 || b == 80 else fun b => b == 101 || b == 69
  let start := if isHex then 2 else 0
  let n := start + numeralExtent isMark bs.length (bs.drop start)
  (bs.take n, bs.drop n)

/-- The operator at the front of the source. -/
def operator? (bs : List UInt8) : Option (String × List UInt8) :=
  operators.findSome? fun op =>
    let mark := (Text.octets op).toList
    if mark.isPrefixOf bs then some (op, bs.drop mark.length) else none

/-- One step through the source. -/
inductive Cut
  /-- Blanks or a comment. -/
  | skip (rest : List UInt8) (line : Nat)
  | lexeme (l : Lexeme) (rest : List UInt8) (line : Nat)
  | fault (f : SourceFault)

def ofOctets (bs : List UInt8) : ByteArray :=
  ByteArray.mk bs.toArray

/-- Skips a first line end after the opening of a long bracket. -/
def skipFirstNewline (bs : List UInt8) (line : Nat) : List UInt8 × Nat :=
  match bs with
  | b :: rest => if isNewline b then (skipNewline b rest, line + 1) else (bs, line)
  | [] => (bs, line)

/-- Reads a long bracket at `line`: a string, or what a comment leaves. -/
def longCut (isComment : Bool) (level : Nat) (bs : List UInt8) (line : Nat) : Cut :=
  let (body, start) := skipFirstNewline bs line
  match longString level (body.length + 1) [] body start with
  | some (s, rest, ended) =>
    if isComment then .skip rest ended
    else
      let bracket (b : UInt8) := b :: List.replicate level 61 ++ [b]
      let raw := bracket 91 ++ bs.take (bs.length - rest.length)
      .lexeme ⟨.str (ofOctets s), ended, some (quote raw)⟩ rest ended
  | none =>
    let what := if isComment then "comment" else "string"
    let ended := start + (body.foldl (fun n b => if b == 10 then n + 1 else n) 0)
    .fault ⟨ended, Text.octets s!"unfinished long {what} (starting at line {line})",
      some (Text.octets "<eof>")⟩

/-- Reads what stands at the front of a source. -/
def cut (b : UInt8) (rest : List UInt8) (line : Nat) : Cut :=
  if isNewline b then .skip (skipNewline b rest) (line + 1)
  else if isBlank b then .skip rest line
  else if isLetter b then
    let s := b :: rest.takeWhile isNamePart
    let after := rest.dropWhile isNamePart
    -- the words of the language are no names
    let token : Token :=
      match words.find? fun w => (Text.octets w).toList == s with
      | some w => .mark w
      | none => .name (ofOctets s)
    .lexeme ⟨token, line, some (quote s)⟩ after line
  else if isDigit b || (b == 46 && (rest.head?.map isDigit).getD false) then
    -- a point begins a number only in front of a digit
    let (s, after) := numeral (b :: rest)
    match Numeral.read s with
    | some (.int i) => .lexeme ⟨.int i, line, some (quote s)⟩ after line
    | some (.float x) => .lexeme ⟨.float x, line, some (quote s)⟩ after line
    | _ => .fault ⟨line, Text.octets "malformed number", some (quote s)⟩
  else if b == 34 || b == 39 then
    match shortString b (rest.length + 1) [] rest line with
    | .ok q =>
      .lexeme ⟨.str (ofOctets q.octets), q.line, some (quote (b :: q.octets ++ [b]))⟩ q.rest q.line
    | .error f => .fault f
  else if b == 45 && rest.head? == some 45 then
    let body := rest.drop 1
    -- a comment lasts to the end of its line, unless a long bracket opens it
    match (if body.head? == some 91 then longBracket? 91 (body.drop 1) else none) with
    | some (level, after) => longCut true level after line
    | none => .skip (body.dropWhile fun c => !isNewline c) line
  else if b == 91 && (rest.head? == some 91 || rest.head? == some 61) then
    -- a bracket alone is a mark, but one with an equals sign has to open a long text
    match longBracket? 91 rest with
    | some (level, after) => longCut false level after line
    | none =>
      .fault ⟨line, Text.octets "invalid long string delimiter",
        some (quote (b :: rest.takeWhile (· == 61)))⟩
  else
    match operator? (b :: rest) with
    | some (op, after) => .lexeme ⟨.mark op, line, some (Text.octets s!"'{op}'")⟩ after line
    | none => .lexeme ⟨.stray b, line, quoteStray b⟩ rest line

/-- Scans at most `fuel` pieces of a source. -/
def scanFrom : Nat → List UInt8 → Nat → List Scanned
  | 0, _, line => [.lexeme ⟨.eof, line, some (Text.octets "<eof>")⟩]
  | _ + 1, [], line => [.lexeme ⟨.eof, line, some (Text.octets "<eof>")⟩]
  | fuel + 1, b :: rest, line =>
    match cut b rest line with
    | .skip rest line => scanFrom fuel rest line
    | .lexeme l rest line => .lexeme l :: scanFrom fuel rest line
    | .fault f => [.fault f]

/-- The lexemes of a source. -/
def scan (source : List UInt8) : List Scanned :=
  scanFrom (source.length + 1) source 1

end Token

end RobotSession.Lua
