/-!
# Similar words

How much two words agree, by the characters that they share at about the same places and by
how many of these stand in the same order. It is a fraction from 0 to 1.

* `likeness` — how much two words agree.
* `similarWords` — the words that agree well enough with one that is not known, the best last.
-/

namespace RobotSession.CommandLine

namespace Similarity

/-- Takes the first `c` that is still free among the places from `low` to `high`; the list
starts at place `here`. -/
def take (c : Char) (low high : Nat) : Nat → List (Char × Bool) → Option (List (Char × Bool))
  | _, [] => none
  | here, (d, taken) :: rest =>
    if low ≤ here && here ≤ high && c == d && !taken then some ((d, true) :: rest)
    else (take c low high (here + 1) rest).map ((d, taken) :: ·)

/-- The characters of the first word that are shared, and what has been taken of the second.
Places that are more than `range` apart do not count. -/
def shared (range : Nat) : Nat → List Char → List (Char × Bool) → List Char × List (Char × Bool)
  | _, [], other => ([], other)
  | here, c :: rest, other =>
    match take c (here - range) (here + range) 0 other with
    | some other =>
      let (cs, other) := shared range (here + 1) rest other
      (c :: cs, other)
    | none => shared range (here + 1) rest other

end Similarity

open Similarity in
/-- How much two words agree. -/
def likeness (a b : List Char) : Rat :=
  if a.isEmpty && b.isEmpty then 1
  else
    let range := max a.length b.length / 2 - 1
    let (left, other) := shared range 0 a (b.map fun c => (c, false))
    let right := (other.filter (·.2)).map (·.1)
    let common := left.length
    let displaced := ((left.zip right).countP fun (c, d) => c != d) / 2
    if common = 0 then 0
    else (mkRat common a.length + mkRat common b.length + mkRat (common - displaced) common) / 3

/-- From here on words are similar. -/
def enough : Rat := 7 / 10

/-- The words that are similar to one that is not known, the best last. -/
def similarWords (word : String) (known : List String) : List String :=
  let rated := known.map fun k => (likeness word.toList k.toList, k)
  let close := rated.filter fun (r, _) => enough ≤ r
  (close.mergeSort fun a b => a.1 ≤ b.1).map (·.2)

end RobotSession.CommandLine
