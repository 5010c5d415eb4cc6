/-!
# Binary floating point numbers, exactly

A finite double is a sign and `m · 2 ^ e` with natural `m`. Everything here is
computed on `m` and `e` in exact arithmetic: comparison with integers, rounding
to an integer, the remainder of a truncated division, and the nearest double of
a dyadic number.

* `Binary64.ofFloat` — the exact value of a double.
* `Binary64.toInt?` — the integer a double equals, if there is one.
* `Binary64.floor`, `Binary64.ceil` — the neighbouring integers.
* `Binary64.nearest` — the double nearest to `m · 2 ^ e`, ties to even.
* `Binary64.remainder` — the remainder whose quotient is cut toward zero.
-/

namespace RobotSession.Number

/-- The value of a double. -/
inductive Binary64
  | nan
  | infinite (negative : Bool)
  /-- The number `m · 2 ^ e`, negated if `negative`; `-0.0` has `m = 0`. -/
  | finite (negative : Bool) (m : Nat) (e : Int)
  deriving DecidableEq

namespace Binary64

/-- The value that 64 bits stand for. -/
def ofBits (bits : UInt64) : Binary64 :=
  let negative := bits >>> 63 == 1
  let exponent := (bits >>> 52 &&& 0x7FF).toNat
  let fraction := (bits &&& 0xFFFFFFFFFFFFF).toNat
  if exponent = 2047 then
    if fraction = 0 then .infinite negative else .nan
  else if exponent = 0 then .finite negative fraction (-1074)
  else .finite negative (fraction + 0x10000000000000) ((exponent : Int) - 1075)

/-- The value of a double. -/
def ofFloat (x : Float) : Binary64 :=
  ofBits x.toBits

/-- Quotient to the nearest natural number, ties to even. -/
def roundDiv (num den : Nat) : Nat :=
  let q := num / den
  let r := num % den
  if 2 * r < den then q
  else if 2 * r > den then q + 1
  else q + q % 2

/-- The bits of the double nearest to `m · 2 ^ e`. -/
def nearestBits (negative : Bool) (m : Nat) (e : Int) : UInt64 :=
  let sign : UInt64 := if negative then 0x8000000000000000 else 0
  if m = 0 then sign
  else
    let width : Int := Nat.log2 m + 1
    -- the exponent of the last place that is kept
    let last : Int := max (e + width - 53) (-1074)
    let kept : Nat :=
      if last ≤ e then m * Nat.pow 2 (e - last).toNat else roundDiv m (Nat.pow 2 (last - e).toNat)
    let (kept, last) := if kept = 0x20000000000000 then (0x10000000000000, last + 1) else (kept, last)
    if kept < 0x10000000000000 then sign ||| UInt64.ofNat kept
    else
      let biased := last + 1075
      if biased ≥ 2047 then sign ||| 0x7FF0000000000000
      else sign ||| UInt64.ofNat (biased.toNat * 0x10000000000000 + (kept - 0x10000000000000))

/-- The double nearest to `m · 2 ^ e`, ties to even. -/
def nearest (negative : Bool) (m : Nat) (e : Int) : Float :=
  Float.ofBits (nearestBits negative m e)

/-- The double nearest to an integer. -/
def ofInt (i : Int) : Float :=
  nearest (i < 0) i.natAbs 0

/-- The largest integer that is not above the value. -/
def floor : Binary64 → Option Int
  | .finite negative m e =>
    let v : Int := if negative then -(m : Int) else m
    some (if 0 ≤ e then v * Nat.pow 2 e.toNat else Int.fdiv v (Nat.pow 2 (-e).toNat))
  | _ => none

/-- The smallest integer that is not below the value. -/
def ceil : Binary64 → Option Int
  | .finite negative m e => (floor (.finite (!negative) m e)).map (- ·)
  | _ => none

/-- The integer that the value equals, if there is one. -/
def toInt? (x : Binary64) : Option Int :=
  match x.floor, x.ceil with
  | some a, some b => if a = b then some a else none
  | _, _ => none

/-- Whether an integer is below a double; not when the double is NaN. -/
def intLt (i : Int) (x : Binary64) : Bool :=
  match x with
  | .nan => false
  | .infinite negative => !negative
  | .finite .. => match x.ceil with
    | some c => i < c
    | none => false

/-- Whether an integer is at most a double; not when the double is NaN. -/
def intLe (i : Int) (x : Binary64) : Bool :=
  match x with
  | .nan => false
  | .infinite negative => !negative
  | .finite .. => match x.floor with
    | some f => i ≤ f
    | none => false

/-- Whether a double is below an integer. -/
def ltInt (x : Binary64) (i : Int) : Bool :=
  match x with
  | .nan => false
  | .infinite negative => negative
  | .finite .. => match x.floor with
    | some f => f < i
    | none => false

/-- Whether a double is at most an integer. -/
def leInt (x : Binary64) (i : Int) : Bool :=
  match x with
  | .nan => false
  | .infinite negative => negative
  | .finite .. => match x.ceil with
    | some c => c ≤ i
    | none => false

/-- The remainder of `x / y` with the quotient cut toward zero; it has the sign
of `x`. -/
def remainder (x y : Float) : Float :=
  match ofFloat x, ofFloat y with
  | .finite negative m e, .finite _ n f =>
    if n = 0 then 0.0 / 0.0
    else
      let low := min e f
      let a := m * Nat.pow 2 (e - low).toNat
      let b := n * Nat.pow 2 (f - low).toNat
      nearest negative (a % b) low
  | .finite .., .infinite _ => x
  | _, _ => 0.0 / 0.0

end Binary64

end RobotSession.Number
