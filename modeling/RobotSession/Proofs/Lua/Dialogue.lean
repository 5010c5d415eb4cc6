import RobotSession.Lua.Step
import RobotSession.Proofs.Run

/-!
# Dialogues

Between two calls of the host an interpreter takes steps by itself, and is answered what it asks.
What it has been answered settles where it is, so a call of a script function is a dialogue: it
depends on the store it begins on and on the answers, and on nothing else.

* `Machine.Event`, `Machine.Goes` — what happens to an interpreter.
* `Machine.run_unique` — what has happened settles where it is.
* `Machine.run_advance` — an interpreter goes ahead by steps.
-/

namespace RobotSession.Lua.Machine

/-- **What happens to an interpreter**: it takes a step by itself, or it is given the answer to what
it has asked. -/
inductive Event
  | step
  | answer (q : Ask) (a : Answer)

/-- An interpreter goes on. -/
inductive Goes : Machine → Event → Machine → Prop
  | step {m : Machine} (h : m.isWaiting = false) : Goes m .step m.step
  | answer {m : Machine} {w : Waiting} {q : Ask} (hmode : m.mode = .ask w) (hask : w.question = q)
      (a : Answer) : Goes m (.answer q a) (m.answer a)

/-- The lines that have been given to the log. -/
def lines (happened : List Event) : List String :=
  happened.filterMap fun
    | .answer (.log line) _ => some line
    | _ => none

@[simp]
theorem lines_append (happened later : List Event) :
    lines (happened ++ later) = lines happened ++ lines later :=
  List.filterMap_append

@[simp]
theorem lines_step (happened : List Event) : lines (.step :: happened) = lines happened := rfl

variable {m m' m₁ m₂ : Machine} {happened : List Event} {l : Event}

/-- What happens settles where an interpreter goes. -/
theorem Goes.unique (h : Goes m l m₁) (h' : Goes m l m₂) : m₁ = m₂ := by
  cases h with
  | step => cases h' with
    | step => rfl
  | answer hmode hask a => cases h' with
    | answer => rfl

/-- **What has happened settles where an interpreter is.** -/
theorem run_unique (hrun : Run Goes m happened m₁) (hrun' : Run Goes m happened m₂) : m₁ = m₂ := by
  induction hrun generalizing m₂ with
  | refl =>
    -- `cases` needs the list of events as a variable.
    generalize hnothing : ([] : List Event) = happened at hrun'
    cases hrun' with
    | refl => rfl
    | tail => exact absurd hnothing.symm (List.append_ne_nil_of_right_ne_nil _ (List.cons_ne_nil _ _))
  | tail run step ih =>
    -- both runs end with the same event, and before it they agree
    obtain ⟨y, hrun₂, hstep⟩ := hrun'.last
    rw [ih hrun₂] at step
    exact step.unique hstep

/-- An interpreter that goes ahead does so by steps. -/
theorem run_advance (m : Machine) (fuel : Nat) : ∃ happened, Run Goes m happened (m.advance fuel) := by
  induction fuel generalizing m with
  | zero => exact ⟨[], .refl⟩
  | succ fuel ih =>
    unfold advance
    cases hgo : m.isWaiting with
    -- a machine that waits is left where it is
    | true => exact ⟨[], .refl⟩
    | false =>
      obtain ⟨happened, hrun⟩ := ih m.step
      exact ⟨_, (Run.single (.step hgo)).trans hrun⟩

end RobotSession.Lua.Machine
