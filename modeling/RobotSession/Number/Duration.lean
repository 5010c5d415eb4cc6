import RobotSession.Number.Binary64

/-!
# Spans of time

A span is a number of nanoseconds, less than 2^64 seconds. `Duration.ofSeconds` reads one
from a double, rounded to the nearest nanosecond.
-/

namespace RobotSession.Number

/-- A span of time. -/
structure Duration where
  nanoseconds : Nat
  nanoseconds_lt : nanoseconds < UInt64.size * 1000000000 := by decide
  deriving DecidableEq

namespace Duration

/-- Nanoseconds in a second. -/
def second : Nat := 1000000000

instance : Inhabited Duration := ⟨{ nanoseconds := 0 }⟩

/-- The span of a number of nanoseconds, if it is not too long. -/
def ofNanoseconds? (n : Nat) : Option Duration :=
  if h : n < UInt64.size * 1000000000 then some ⟨n, h⟩ else none

/-- The span of a number of milliseconds. -/
def ofMillis (n : UInt64) : Duration where
  nanoseconds := n.toNat * 1000000
  nanoseconds_lt := by
    have h : n.toNat < UInt64.size := n.toNat_lt
    simp only [UInt64.size] at h ⊢
    omega

/-- The whole seconds of a span. -/
def seconds (d : Duration) : Nat :=
  d.nanoseconds / second

/-- The nanoseconds beyond the whole seconds of a span. -/
def subsecond (d : Duration) : Nat :=
  d.nanoseconds % second

/-- Why a double is not a span. -/
inductive Fault
  | negative
  | tooBig

def Fault.message : Fault → String
  | .negative => "cannot convert float seconds to Duration: value is negative"
  | .tooBig => "cannot convert float seconds to Duration: value is either too big or NaN"

/-- The span of a number of seconds. -/
def ofSeconds (x : Float) : Except Fault Duration :=
  match Binary64.ofFloat x with
  | .nan => .error .tooBig
  | .infinite negative => .error (if negative then .negative else .tooBig)
  | .finite negative m e =>
    if negative && m ≠ 0 then .error .negative
    else
      let n :=
        if 0 ≤ e then m * Nat.pow 2 e.toNat * second
        else Binary64.roundDiv (m * second) (Nat.pow 2 (-e).toNat)
      match ofNanoseconds? n with
      | some d => .ok d
      | none => .error .tooBig

end Duration

end RobotSession.Number
