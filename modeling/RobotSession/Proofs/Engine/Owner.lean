import RobotSession.Proofs.Engine.Turn

/-!
# An engine and its owner

The thread to which an engine belongs calls it: it has a module loaded, a robot constructed and
run, and closes the engine in the end. It waits for each call to return, and a robot that has
been constructed is bound before that call returns. Meanwhile other threads may post.

`Engine.Move` allows an engine to be bound, or to be closed, at any time. Here the order is the
owner's, and a history tells which call was made and what has come of it.

* `Dealing` — what an owner does, or what happens meanwhile.
* `Held`, `Held.Move` — an engine in the hands of its owner, and the moves.
* `Held.Move.engine` — each of them is a move of the engine.
* `Engine.inner_frame` — what is left alone while a call of a script function is under way.
-/

namespace RobotSession

open Lua

/-! ### Moves -/

/-- What happens while the owner waits for its engine. -/
def Deed.isInner : Deed → Bool
  | .step | .serve | .take .. | .post .. | .elsewhere => true
  | .task | .bind | .close .. => false

namespace Engine

/-- Whether the engine has just begun to construct a robot. -/
def isConstructing (e : Engine) : Bool :=
  e.task matches .findConstructor

/-- What the constructor of a robot has returned, if it is a constructor that has. -/
def given (e : Engine) (result : Except Value (List Value)) : Option Value :=
  match e.task with
  | .construct =>
    match (e.outcome result true).1 with
    | .value v => some v
    | _ => none
  | _ => none

variable {e e' : Engine} {s s' : Shared} {l : Deed}

/-- **While the owner waits**, the engine goes on with its task, and its inbox is not bound. -/
theorem inner_frame (h : Move (e, s) l (e', s')) (hinner : l.isInner = true) :
    e'.task = e.task ∧ e'.id = e.id ∧ (s'.inbox e.id).isBound = (s.inbox e.id).isBound
      ∧ s.inboxes.size ≤ s'.inboxes.size := by
  -- an inner move is one that the owner of the engine does not make
  cases h with
  | step hgo => exact ⟨rfl, rfl, rfl, Nat.le_refl _⟩
  | serve hmode htake hserve =>
    obtain ⟨rfl | ⟨a, rfl, -⟩, hs⟩ := serve_cases htake hserve
    · rw [hs]
      exact ⟨rfl, rfl, rfl, Nat.le_refl _⟩
    · rw [hs]
      exact ⟨rfl, rfl, rfl, Nat.le_refl _⟩
  | logged hmode hlog panic => exact ⟨rfl, rfl, rfl, Nat.le_refl _⟩
  | take hmode =>
    have halike := Shared.Alike.pop s e.id
    exact ⟨rfl, rfl, halike.bound e.id, halike.size⟩
  | settle hmode => cases hinner
  | begin_ hidle hb => cases hinner
  | bind r => cases hinner
  | close hidle => cases hinner
  | post i =>
    have halike := Shared.Alike.post s e.id i
    exact ⟨rfl, rfl, halike.bound e.id, halike.size⟩
  | elsewhere hinbox hsize => exact ⟨rfl, rfl, by rw [hinbox], hsize⟩

end Engine

/-- The robot that a call has come to. -/
def Completion.robot? : Completion → Option Robot
  | .robot r => some r
  | _ => none

/-- **What the owner of an engine does**, or what happens meanwhile. -/
inductive Dealing
  /-- The owner calls the engine, perhaps to construct a robot. -/
  | calls (constructs : Bool)
  /-- The engine goes on, or another thread moves. -/
  | goesOn (l : Deed)
  /-- A script function has ended. If it was the constructor of a robot, `given` is what it has
  returned; if the owner's call is over with it, `completion` is what has come of that. -/
  | settles (given : Option Value) (completion : Option Completion)
  | binds
  | closes (rest : List Invocation)

/-- What an owner does, as far as the inbox is concerned. -/
def Dealing.deed : Dealing → Deed
  | .calls _ | .settles .. => .task
  | .goesOn l => l
  | .binds => .bind
  | .closes rest => .close rest

/-- **An engine in the hands of its owner.** -/
structure Held where
  engine : Engine
  /-- The robot that has been constructed, as long as no call is accepted for it. -/
  ready : Option Robot := none

/-- **A move** of an owner, of its engine, or of the threads around them. -/
inductive Held.Move : Held × Shared → Dealing → Held × Shared → Prop
  | calls {e e' : Engine} {s : Shared} (hidle : e.task = .idle) (h : e.Begins e') :
      Move (⟨e, none⟩, s) (.calls e'.isConstructing) (⟨e', none⟩, s)
  | goesOn {e e' : Engine} {s s' : Shared} {l : Deed} {ready : Option Robot}
      (hinner : l.isInner = true) (h : Engine.Move (e, s) l (e', s')) :
      Move (⟨e, ready⟩, s) (.goesOn l) (⟨e', ready⟩, s')
  | settles {e : Engine} {s : Shared} {result : Except Value (List Value)}
      (hmode : e.machine.mode = .ended result) :
      Move (⟨e, none⟩, s) (.settles (e.given result) (e.settle result).1)
        (⟨(e.settle result).2, (e.settle result).1.bind Completion.robot?⟩, s)
  | binds {e : Engine} {s : Shared} (r : Robot) :
      Move (⟨e, some r⟩, s) .binds (⟨e, none⟩, (e.bindRobot s r).1)
  | closes {e : Engine} {s : Shared} (hidle : e.task = .idle) :
      Move (⟨e, none⟩, s) (.closes (s.inbox e.id).queue) (⟨e.close.2, none⟩, (e.closeInbox s).1)

/-- **An owner does nothing that its engine does not.** -/
theorem Held.Move.engine {x y : Held × Shared} {l : Dealing} (h : Held.Move x l y) :
    Engine.Move (x.1.engine, x.2) l.deed (y.1.engine, y.2) := by
  cases h with
  | calls hidle h => exact .begin_ hidle h
  | goesOn hinner h => exact h
  | settles hmode => exact .settle hmode
  | binds r => exact .bind r
  | closes hidle => exact .close hidle

/-- An engine keeps its number, and with it its inbox. -/
theorem Held.Move.id_eq {x y : Held × Shared} {l : Dealing} (h : Held.Move x l y) :
    y.1.engine.id = x.1.engine.id := by
  cases h with
  | calls hidle h => exact Engine.id_begins h
  | goesOn hinner h => exact (Engine.inner_frame h hinner).2.1
  | settles hmode => exact ((Engine.Rests.of_ended hmode).settle _).id_eq
  | binds r => rfl
  | closes hidle => exact Engine.id_close _

end RobotSession
