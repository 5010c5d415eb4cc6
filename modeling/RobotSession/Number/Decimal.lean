import RobotSession.Number.Binary64

/-!
# Decimal text of binary numbers

Digits are cut from the exact value by integer division, so every text here is
the correctly rounded one (ties to even).

* `Decimal.scientific` — the first `count` significant digits and the exponent of
  the first one.
* `Decimal.fixedText`, `Decimal.exponentText`, `Decimal.generalText` — the three
  classic notations with a given precision, without sign.
* `Decimal.shortest` — the shortest digits that read back as the same double, and
  of those the nearest.
-/

namespace RobotSession.Number.Decimal

/-- Decimal digits of a natural number, most significant first. -/
def digits (n : Nat) : List Char :=
  Nat.toDigits 10 n

/-- A fraction for `m · 2 ^ e`. -/
def ratio (m : Nat) (e : Int) : Nat × Nat :=
  if 0 ≤ e then (m * Nat.pow 2 e.toNat, 1) else (m, Nat.pow 2 (-e).toNat)

/-- The exponent `k` with `10 ^ k ≤ num / den < 10 ^ (k + 1)`, for `num > 0`. -/
def magnitude (num den : Nat) : Int :=
  let k : Int := (digits num).length - (digits den).length
  let reached :=
    if 0 ≤ k then den * Nat.pow 10 k.toNat ≤ num else den ≤ num * Nat.pow 10 (-k).toNat
  if reached then k else k - 1

/-- The value of `num / den` in units of `10 ^ place`, as a fraction. -/
def inUnits (num den : Nat) (place : Int) : Nat × Nat :=
  if 0 ≤ place then (num, den * Nat.pow 10 place.toNat) else (num * Nat.pow 10 (-place).toNat, den)

/-- The first `count` significant digits of `num / den`, rounded, with the exponent
of the first digit. Zero has the exponent 0. -/
def scientific (num den count : Nat) : Nat × Int :=
  if num = 0 then (0, 0)
  else
    let k := magnitude num den
    let (a, b) := inUnits num den (k - (count - 1 : Nat))
    let d := Binary64.roundDiv a b
    if d = Nat.pow 10 count then (Nat.pow 10 (count - 1), k + 1) else (d, k)

/-- Pads with zeros on the left. -/
def padZeros (width : Nat) (cs : List Char) : List Char :=
  List.replicate (width - cs.length) '0' ++ cs

/-- Puts a point before the last `places` digits, and none if there are none. -/
def pointed (places : Nat) (alternate : Bool) (cs : List Char) : List Char :=
  let cs := padZeros (places + 1) cs
  let whole := cs.take (cs.length - places)
  let fraction := cs.drop (cs.length - places)
  if places = 0 && !alternate then whole else whole ++ '.' :: fraction

/-- Removes zeros at the end of a fraction, and then a point at the end. -/
def trimFraction (cs : List Char) : List Char :=
  if cs.contains '.' then
    ((cs.reverse.dropWhile (· == '0')).dropWhile (· == '.')).reverse
  else cs

/-- A sign and at least two digits. -/
def exponentDigits (k : Int) : List Char :=
  (if k < 0 then '-' else '+') :: padZeros 2 (digits k.natAbs)

/-- Fixed notation: `places` digits after the point. -/
def fixedText (num den places : Nat) (alternate : Bool) : List Char :=
  pointed places alternate (digits (Binary64.roundDiv (num * Nat.pow 10 places) den))

/-- Exponent notation: one digit, a point, `places` digits, and the exponent. -/
def exponentText (num den places : Nat) (alternate : Bool) : List Char :=
  let (d, k) := scientific num den (places + 1)
  pointed places alternate (padZeros (places + 1) (digits d)) ++ 'e' :: exponentDigits k

/-- General notation with `count` significant digits: fixed if the exponent is at
least -4 and below `count`, else with an exponent; zeros at the end of the fraction
are left out unless `alternate`. -/
def generalText (num den count : Nat) (alternate : Bool) : List Char :=
  let count := max count 1
  let trim := if alternate then id else trimFraction
  let (d, k) := scientific num den count
  if -4 ≤ k ∧ k < count then
    let places := (count - 1 - k : Int).toNat
    trim (fixedText num den places alternate)
  else
    trim (pointed (count - 1) alternate (padZeros count (digits d)))
      ++ 'e' :: exponentDigits k

/-- Whether the decimal `d · 10 ^ place` rounds to the double `m · 2 ^ e`: it lies
between the midpoints to the neighbouring doubles, ends included for even `m`. -/
def roundsTo (m : Nat) (e : Int) (d : Nat) (place : Int) : Bool :=
  -- everything is compared in quarter units of the last place
  let low : Nat := if m = 0x10000000000000 ∧ -1074 < e then 4 * m - 1 else 4 * m - 2
  let high : Nat := 4 * m + 2
  let (num, den) := ratio 1 (e - 2)
  let (a, b) := if 0 ≤ place then (d * Nat.pow 10 place.toNat, 1) else (d, Nat.pow 10 (-place).toNat)
  let value := a * den
  let scale := b * num
  if m % 2 = 0 then low * scale ≤ value && value ≤ high * scale
  else low * scale < value && value < high * scale

/-- The best decimal with `count` digits that rounds to the double, if there is one:
one of the two neighbours of the value on that grid. -/
def candidate (m : Nat) (e : Int) (count : Nat) : Option (Nat × Int) :=
  let (num, den) := ratio m e
  let place := magnitude num den - (count - 1 : Nat)
  let (a, b) := inUnits num den place
  let below := a / b
  let nearer := Binary64.roundDiv a b
  let other := if nearer = below then below + 1 else below
  if roundsTo m e nearer place then some (nearer, place)
  else if roundsTo m e other place then some (other, place)
  else none

/-- The shortest digits that read back as `m · 2 ^ e` with `m > 0`, as an integer and
the place of its last digit. -/
def shortest (m : Nat) (e : Int) : Nat × Int :=
  match (List.range 17).findSome? fun i => candidate m e (i + 1) with
  | some found => found
  | none => (m * Nat.pow 2 e.toNat, 0)

/-- Positional text of `d · 10 ^ place` without zeros at either end of the digits. -/
def positional (d : Nat) (place : Int) : List Char :=
  if 0 ≤ place then digits d ++ List.replicate place.toNat '0'
  else trimFraction (pointed (-place).toNat false (digits d))

end RobotSession.Number.Decimal
