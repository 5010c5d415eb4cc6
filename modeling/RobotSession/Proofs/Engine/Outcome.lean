import RobotSession.Engine.Basic
import RobotSession.Proofs.Lua.Exchange

/-!
# What the host makes of a result

When a call of a task has ended, the host takes the first of its values, if it wants one, or the
text of its error. A panic that the script has caught and hands over goes on in the host; then it
does not matter what the call has come to otherwise.

* `Engine.Makes` — what the host makes of a result.
* `Engine.makes_outcome` — every call of a task is taken in this way.
-/

namespace RobotSession

open Lua Lua.Library

/-- The first result of a call, or the error that it has raised. -/
def firstOf : Except Value (List Value) → Value
  | .ok values => values.headD .nil
  | .error e => e

namespace Engine

/-- **What the host makes of a result**, and the store after that. -/
inductive Makes (h : Heap) (wants : Bool) : Except Value (List Value) → Outcome → Heap → Prop
  | value {values : List Value} (hwants : wants = true)
      (hcalm : h.panics (values.headD .nil) = false) :
      Makes h wants (.ok values) (.value (h.handed (values.headD .nil))) h
  | unwanted {values : List Value} (hwants : wants = false) :
      Makes h wants (.ok values) (.value .nil) h
  | error {v : Value} {f : HostError} (hfailure : Exchange.failure v h = (.ok f, h)) :
      Makes h wants (.error v) (.error f.message) h
  /-- A panic that the script has caught goes on, and is gone from the store. -/
  | panics {result : Except Value (List Value)} {id : Nat} {p : Payload}
      (hwants : wants = true ∨ ∃ v, result = .error v) (hfirst : firstOf result = .object id)
      (hobject : h.object id = .panic (some p)) :
      Makes h wants result (.panic p)
        { h with objects := h.objects.modify id fun _ => .panic none }

variable {e : Engine} {wants : Bool}

/-- What a call has returned is handed to the engine. -/
theorem outcome_of_calm {values : List Value}
    (hcalm : e.machine.heap.panics (values.headD .nil) = false) :
    e.outcome (.ok values) true = (.value (e.machine.heap.handed (values.headD .nil)), e) := by
  -- only the first value is taken over, and that one does not panic
  have hvalues : Exchange.values (values.take 1) e.machine.heap
      = (.ok ((values.take 1).map e.machine.heap.handed), e.machine.heap) := by
    refine Exchange.values_of_calm ?_
    cases values with
    | nil => rfl
    | cons v rest =>
      rw [List.take_succ_cons, List.take_zero, List.any_cons, List.any_nil, Bool.or_false]
      exact hcalm
  have hfirst : ((values.take 1).map e.machine.heap.handed).headD .nil
      = e.machine.heap.handed (values.headD .nil) := by
    cases values with
    | nil => rfl
    | cons v rest => rfl
  have hwork := Body.bind_of_ok (k := fun vs => (pure (.value (vs.headD .nil)) : Body Outcome)) hvalues
  unfold outcome Machine.work
  dsimp only
  rw [if_pos rfl, hwork, hfirst]
  rfl

/-- What a call has returned is a caught panic, which goes on. -/
theorem outcome_of_panics {values : List Value} {id : Nat} {p : Payload}
    (hfirst : values.headD .nil = .object id) (hobject : e.machine.heap.object id = .panic (some p)) :
    e.outcome (.ok values) true = (.panic p, { e with machine := { e.machine with
      heap := { e.machine.heap with
        objects := e.machine.heap.objects.modify id fun _ => .panic none } } }) := by
  cases values with
  | nil => cases hfirst
  | cons v rest =>
    obtain rfl : v = .object id := hfirst
    -- converting the values takes the panic out of the object, which is left empty
    have hwork := Body.bind_of_error (k := fun vs => (pure (.value (vs.headD .nil)) : Body Outcome))
      (Machine.values_panic hobject)
    unfold outcome Machine.work
    dsimp only [List.take]
    rw [if_pos rfl, hwork]

/-- An error that a call has raised is told as a text. -/
theorem outcome_of_failure {v : Value} {f : HostError}
    (hfailure : Exchange.failure v e.machine.heap = (.ok f, e.machine.heap)) :
    e.outcome (.error v) wants = (.error f.message, e) := by
  have hwork := Body.bind_of_ok (k := fun f => (pure (.error f.message) : Body Outcome)) hfailure
  unfold outcome Machine.work
  dsimp only
  rw [hwork]
  rfl

/-- An error that a call has raised is a caught panic, which goes on. -/
theorem outcome_of_raised_panic {id : Nat} {p : Payload}
    (hobject : e.machine.heap.object id = .panic (some p)) :
    e.outcome (.error (.object id)) wants = (.panic p, { e with machine := { e.machine with
      heap := { e.machine.heap with
        objects := e.machine.heap.objects.modify id fun _ => .panic none } } }) := by
  have hwork := Body.bind_of_error (k := fun f => (pure (.error f.message) : Body Outcome))
    (Exchange.failure_of_panic hobject)
  unfold outcome Machine.work
  dsimp only
  rw [hwork]

/-- **Every call of a task** is taken in this way. -/
theorem makes_outcome (e : Engine) (result : Except Value (List Value)) (wants : Bool) :
    Makes e.machine.heap wants result (e.outcome result wants).1
      (e.outcome result wants).2.machine.heap := by
  cases result with
  | ok values =>
    cases wants with
    | false => exact .unwanted rfl
    | true =>
      -- the first value tells whether a panic goes on
      cases hpanics : e.machine.heap.panics (values.headD .nil) with
      | true =>
        obtain ⟨id, p, hfirst, hobject⟩ := Heap.panics_iff.mp hpanics
        rw [outcome_of_panics hfirst hobject]
        exact .panics (.inl rfl) hfirst hobject
      | false =>
        rw [outcome_of_calm hpanics]
        exact .value rfl hpanics
  | error v =>
    rcases Machine.failure_cases v e.machine.heap with ⟨f, hf⟩ | ⟨id, p, rfl, hobject, -⟩
    · rw [outcome_of_failure hf]
      exact .error hf
    · rw [outcome_of_raised_panic hobject]
      exact .panics (.inr ⟨_, rfl⟩) rfl hobject

end Engine
end RobotSession
