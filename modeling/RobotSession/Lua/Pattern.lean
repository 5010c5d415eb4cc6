import RobotSession.Lua.Numeral

/-!
# Patterns

Matching of script patterns by backtracking. A pattern is a sequence of items: a
character class with an optional repetition, a capture, a balanced pair (`%b`), a
frontier (`%f`), or a reference to an earlier capture.

* `Pattern.matchAt` — the end of the match at a position, with the captures.
* `Pattern.search` — the first match from a position on.
* `Pattern.captureValue` — the value of a capture.
-/

namespace RobotSession.Lua.Pattern

open Numeral

/-- The extent of a capture. -/
inductive Extent
  /-- The capture has been opened. -/
  | unfinished
  /-- The capture stands for its position. -/
  | position
  | length (n : Nat)
  deriving DecidableEq, Inhabited

/-- A capture: where it starts, and its extent. -/
abbrev Capture := Nat × Extent

/-- A subject with the pattern it is matched against. -/
structure Problem where
  source : ByteArray
  pattern : ByteArray

/-- The end of a match and its captures, or no match. -/
abbrev Result := Except String (Option (Nat × Array Capture))

def at? (b : ByteArray) (i : Nat) : Option UInt8 :=
  b[i]?

def isLower (b : UInt8) : Bool := 97 ≤ b && b ≤ 122
def isUpper (b : UInt8) : Bool := 65 ≤ b && b ≤ 90
def isAlpha (b : UInt8) : Bool := isLower b || isUpper b
def toLower (b : UInt8) : UInt8 := if isUpper b then b + 32 else b
def toUpper (b : UInt8) : UInt8 := if isLower b then b - 32 else b

/-- Whether an octet is in the class that a letter names. -/
def inClass (c letter : UInt8) : Bool :=
  let positive : Option Bool :=
    match (toLower letter).toNat with
    | 97 => some (isAlpha c)
    | 99 => some (c < 32 || c == 127)
    | 100 => some (isDigit c)
    | 103 => some (33 ≤ c && c ≤ 126)
    | 108 => some (isLower c)
    | 112 => some (33 ≤ c && c ≤ 126 && !isAlpha c && !isDigit c)
    | 115 => some (isBlank c)
    | 117 => some (isUpper c)
    | 119 => some (isAlpha c || isDigit c)
    | 120 => some (isHexDigit c)
    | _ => none
  match positive with
  -- a capital letter stands for all octets that are not in the class
  | some b => if isUpper letter then !b else b
  | none => letter == c

/-- The position of the `]` that ends a set, from a position inside it. -/
def setEnd (p : ByteArray) : Nat → Nat → Except String Nat
  | 0, _ => .error "malformed pattern (missing ']')"
  | fuel + 1, i =>
    match at? p i with
    | none => .error "malformed pattern (missing ']')"
    | some c =>
      let next := if c == 37 then i + 2 else i + 1
      match at? p next with
      | some 93 => .ok next
      | _ => setEnd p fuel next

/-- The position after the item at `i`. -/
def itemEnd (p : ByteArray) (i : Nat) : Except String Nat :=
  match at? p i with
  | some 37 =>
    if i + 1 < p.size then .ok (i + 2) else .error "malformed pattern (ends with '%')"
  | some 91 =>
    let first := if at? p (i + 1) == some 94 then i + 2 else i + 1
    (setEnd p (p.size + 1) first).map (· + 1)
  | _ => .ok (i + 1)

/-- Whether an octet is in the set between the positions `i` and `last`. -/
def inSet (p : ByteArray) (c : UInt8) (last : Nat) : Nat → Nat → Bool
  | 0, _ => false
  | fuel + 1, i =>
    if last ≤ i then false
    else
      let a := (at? p i).getD 0
      if a == 37 then
        inClass c ((at? p (i + 1)).getD 0) || inSet p c last fuel (i + 2)
      else if at? p (i + 1) == some 45 && i + 2 < last then
        (a ≤ c && c ≤ (at? p (i + 2)).getD 0) || inSet p c last fuel (i + 3)
      else a == c || inSet p c last fuel (i + 1)

/-- Whether an octet is in the set that starts at `i` and whose `]` is at `last`. -/
def inBracket (p : ByteArray) (c : UInt8) (i last : Nat) : Bool :=
  if at? p (i + 1) == some 94 then !inSet p c last (p.size + 1) (i + 2)
  else inSet p c last (p.size + 1) (i + 1)

/-- Whether the octet at `s` matches the item from `p` to `ep`. -/
def single (m : Problem) (s p ep : Nat) : Bool :=
  match at? m.source s with
  | none => false
  | some c =>
    match at? m.pattern p with
    | some 46 => true
    | some 37 => inClass c ((at? m.pattern (p + 1)).getD 0)
    | some 91 => inBracket m.pattern c p (ep - 1)
    | some x => x == c
    | none => false

/-- The end of a balanced text from position `s`, with `level` open. -/
def balance (src : ByteArray) (opening closing : UInt8) : Nat → Nat → Nat → Option Nat
  | 0, _, _ => none
  | fuel + 1, s, level =>
    match at? src s with
    | none => none
    | some c =>
      if c == closing then
        if level = 1 then some (s + 1) else balance src opening closing fuel (s + 1) (level - 1)
      else if c == opening then balance src opening closing fuel (s + 1) (level + 1)
      else balance src opening closing fuel (s + 1) level

/-- How many octets from `s` on match an item. -/
def run (m : Problem) (p ep : Nat) : Nat → Nat → Nat
  | 0, _ => 0
  | fuel + 1, s => if single m s p ep then run m p ep fuel (s + 1) + 1 else 0

/-- The index of the last open capture. -/
def lastOpen (caps : Array Capture) : Option Nat :=
  (List.range caps.size).reverse.find? fun i => (caps[i]?.map (·.2)) == some .unfinished

/-- The text of a finished capture that a digit refers to. -/
def referred (m : Problem) (caps : Array Capture) (digit : UInt8) : Except String ByteArray :=
  let index := digit.toNat - 49
  let number : Int := digit.toNat - 48
  let bad : Except String ByteArray := .error s!"invalid capture index %{number}"
  if digit < 49 then bad
  else
    match caps[index]? with
    | some (start, .length n) => .ok (m.source.extract start (start + n))
    | some (_, .position) => .ok ByteArray.empty
    | _ => bad

mutual

/-- Matches the pattern from `p` on at position `s`. -/
def matchFrom (m : Problem) : Nat → Nat → Nat → Array Capture → Result
  | 0, _, _, _ => .error "pattern too complex"
  | fuel + 1, s, p, caps =>
    match at? m.pattern p with
    | none => .ok (some (s, caps))
    | some 40 =>
      if 32 ≤ caps.size then .error "too many captures"
      else if at? m.pattern (p + 1) == some 41 then
        -- empty brackets capture the place instead of a text
        matchFrom m fuel s (p + 2) (caps.push (s, .position))
      else matchFrom m fuel s (p + 1) (caps.push (s, .unfinished))
    | some 41 =>
      match lastOpen caps with
      | none => .error "invalid pattern capture"
      | some l =>
        -- the innermost capture that is still open ends here
        let start := ((caps[l]?).map (·.1)).getD 0
        matchFrom m fuel s (p + 1) (caps.set! l (start, .length (s - start)))
    | some 36 =>
      -- the sign is special at the end of the pattern only
      if p + 1 = m.pattern.size then
        .ok (if s = m.source.size then some (s, caps) else none)
      else matchItem m fuel s p caps
    | some 37 =>
      match at? m.pattern (p + 1) with
      | some 98 =>
        match at? m.pattern (p + 2), at? m.pattern (p + 3) with
        | some opening, some closing =>
          -- balanced: up to the octet that closes the one found here
          if at? m.source s == some opening then
            match balance m.source opening closing (m.source.size + 1) (s + 1) 1 with
            | some e => matchFrom m fuel e (p + 4) caps
            | none => .ok none
          else .ok none
        | _, _ => .error "malformed pattern (missing arguments to '%b')"
      | some 102 =>
        if at? m.pattern (p + 2) != some 91 then .error "missing '[' after '%f' in pattern"
        else do
          -- a frontier, from an octet outside of the set to one in it; both ends of the source
          -- count as 0
          let ep ← itemEnd m.pattern (p + 2)
          let before := if s = 0 then 0 else (at? m.source (s - 1)).getD 0
          let here := (at? m.source s).getD 0
          if !inBracket m.pattern before (p + 2) (ep - 1)
              && inBracket m.pattern here (p + 2) (ep - 1) then
            matchFrom m fuel s ep caps
          else .ok none
      | some d =>
        if isDigit d then do
          -- a digit stands for the text of an earlier capture
          let text ← referred m caps d
          if m.source.extract s (s + text.size) = text then
            matchFrom m fuel (s + text.size) (p + 2) caps
          else .ok none
        else matchItem m fuel s p caps
      | none => matchItem m fuel s p caps
    | some _ => matchItem m fuel s p caps

/-- Matches a class with its repetition, and then the rest. -/
def matchItem (m : Problem) : Nat → Nat → Nat → Array Capture → Result
  | 0, _, _, _ => .error "pattern too complex"
  | fuel + 1, s, p, caps => do
    let ep ← itemEnd m.pattern p
    match at? m.pattern ep with
    | some 63 =>
      if single m s p ep then
        -- with the octet first, and without it if the rest does not match then
        match ← matchFrom m fuel (s + 1) (ep + 1) caps with
        | some r => return some r
        | none => matchFrom m fuel s (ep + 1) caps
      else matchFrom m fuel s (ep + 1) caps
    | some 42 => longest m fuel s (ep + 1) caps (run m p ep (m.source.size + 1) s)
    | some 43 =>
      if single m s p ep then
        longest m fuel (s + 1) (ep + 1) caps (run m p ep (m.source.size + 1) (s + 1))
      else return none
    | some 45 => shortest m fuel s p ep caps
    | _ => if single m s p ep then matchFrom m fuel (s + 1) ep caps else return none

/-- Tries the rest after `n` repetitions, then after fewer. -/
def longest (m : Problem) : Nat → Nat → Nat → Array Capture → Nat → Result
  | 0, _, _, _, _ => .error "pattern too complex"
  | fuel + 1, s, p, caps, n => do
    match ← matchFrom m fuel (s + n) p caps with
    | some r => return some r
    | none =>
      match n with
      | 0 => return none
      | k + 1 => longest m fuel s p caps k

/-- Tries the rest after as few repetitions as possible. -/
def shortest (m : Problem) : Nat → Nat → Nat → Nat → Array Capture → Result
  | 0, _, _, _, _ => .error "pattern too complex"
  | fuel + 1, s, p, ep, caps => do
    match ← matchFrom m fuel s (ep + 1) caps with
    | some r => return some r
    | none =>
      if single m s p ep then shortest m fuel (s + 1) p ep caps
      else return none

end

/-- Matches the pattern from `p` on at position `s`. -/
def matchAt (m : Problem) (s p : Nat) : Result :=
  matchFrom m ((m.source.size + 4) * (m.pattern.size + 4)) s p #[]

/-- The first match from position `s` on, trying at most `fuel` positions: where it
starts and ends, and its captures. -/
def searchFrom (m : Problem) (p : Nat) :
    Nat → Nat → Except String (Option (Nat × Nat × Array Capture))
  | 0, _ => .ok none
  | fuel + 1, s => do
    match ← matchAt m s p with
    | some (e, caps) => return some (s, e, caps)
    | none => if s < m.source.size then searchFrom m p fuel (s + 1) else return none

/-- The first match from position `s` on; an anchored pattern matches only there. -/
def search (m : Problem) (s : Nat) : Except String (Option (Nat × Nat × Array Capture)) :=
  if at? m.pattern 0 == some 94 then
    (matchAt m s 1).map fun r => r.map fun (e, caps) => (s, e, caps)
  else searchFrom m 0 (m.source.size + 1) s

/-- The value of a capture; index 0 of a match without captures is the whole match. -/
def captureValue (m : Problem) (start stop : Nat) (caps : Array Capture) (i : Nat) :
    Except String Value :=
  match caps[i]? with
  | some (s, .length n) => .ok (.str (m.source.extract s (s + n)))
  | some (s, .position) => .ok (.int (Int64.ofNat (s + 1)))
  | some (_, .unfinished) => .error "unfinished capture"
  | none =>
    if i = 0 then .ok (.str (m.source.extract start stop))
    else .error s!"invalid capture index %{i + 1}"

/-- All captures of a match, or the whole match if it has none and `whole` is set. -/
def captureValues (m : Problem) (start stop : Nat) (caps : Array Capture) (whole : Bool) :
    Except String (List Value) :=
  let n := if caps.isEmpty && whole then 1 else caps.size
  (List.range n).mapM fun i => captureValue m start stop caps i

/-- The position of a text inside another, from a position on. -/
def findPlain (source text : ByteArray) : Nat → Nat → Option Nat
  | 0, _ => none
  | fuel + 1, s =>
    if source.size < s + text.size then none
    else if source.extract s (s + text.size) = text then some s
    else findPlain source text fuel (s + 1)

/-- Whether a pattern has no special characters. -/
def isPlain (pattern : ByteArray) : Bool :=
  pattern.toList.all fun b => !("^$*+?.([%-".toUTF8.toList.contains b)

end RobotSession.Lua.Pattern
