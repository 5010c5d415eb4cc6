import RobotSession.Proofs.Bridge.Custody
import RobotSession.Proofs.Bridge.View

/-!
# A program by itself

What a program comes to is a matter of its own steps, of the log's answers and of the time that
passes. `Worker.Alone` is the system of a program by itself: nobody posts a call, and nobody
but the program touches the host. Its host might as well be another one that has been told the
same (`Worker.step_onHost`).

A program need not come to the same thing twice, because it may ask for the time; it need not
come to anything. `Worker.TimeFree` and `Worker.EndsByItself` say of a program that it does. Both
hold of a program that never asks for the time on its course to the end: its next step is then
determined by the steps before (`Worker.Alone.advances`), whatever the clock shows.

* `Worker.Alone`, `Worker.Fair` — a program by itself, and its fair executions.
* `Worker.TimeFree`, `Worker.EndsByItself` — what may be asked of a program.
* `Worker.Point.comesTo` — the course of a program that never asks for the time, to its end.
-/

namespace RobotSession

open Lua

/-! ### The host of a program -/

/-- The same on another host, which has been told and asked the same. -/
def Shared.onHost (s : Shared) (h : SimHost) : Shared :=
  { s with host :=
    { h with diagnostics := s.host.diagnostics, exitRequested := s.host.exitRequested } }

theorem Engine.serve_onHost (e : Engine) (s : Shared) (h : SimHost) (q : Ask) :
    e.serve (s.onHost h) q
      = ((e.serve s q).1, (e.serve s q).2.1, (e.serve s q).2.2.1.onHost h, (e.serve s q).2.2.2) := by
  cases q with
  | wait deadline =>
    unfold Engine.serve
    dsimp only
    -- whether the wait is over is a matter of the inbox and of the clock
    rw [show ((s.onHost h).inbox e.id) = s.inbox e.id from rfl,
      show (s.onHost h).clock = s.clock from rfl]
    split
    · rfl
    · rfl
  | _ => rfl

theorem Engine.turn_onHost (e : Engine) (s : Shared) (h : SimHost) :
    e.turn (s.onHost h)
      = ((e.turn s).1, (e.turn s).2.1, (e.turn s).2.2.1.onHost h, (e.turn s).2.2.2) := by
  unfold Engine.turn
  dsimp only
  split
  · exact Engine.serve_onHost ..
  · split
    · rfl
    · rfl
  · rfl

namespace Worker

variable {w w' : Worker} {s s' : Shared} {t : WorkerTurn} {signals : List Signal}

theorem drive_onHost (w : Worker) (s : Shared) (h : SimHost) :
    w.drive (s.onHost h)
      = ((w.drive s).1, (w.drive s).2.1, (w.drive s).2.2.1.onHost h, (w.drive s).2.2.2) := by
  obtain ⟨path, interval, engine, stage⟩ := w
  cases engine with
  | none => rfl
  | some e =>
    unfold drive
    dsimp only
    -- a turn of the engine does not look at the host
    rw [Engine.turn_onHost]
    rcases e.turn s with ⟨t, e', s', signals⟩
    cases t with
    | completed c =>
      cases c with
      | _ => rfl
    | _ => rfl

theorem finalize_onHost (w : Worker) (s : Shared) (h : SimHost) (result : WorkerResult) :
    w.finalize (s.onHost h) result
      = ((w.finalize s result).1, (w.finalize s result).2.1, (w.finalize s result).2.2.1.onHost h,
        (w.finalize s result).2.2.2) := by
  obtain ⟨path, interval, engine, stage⟩ := w
  cases engine with
  | none => rfl
  | some e =>
    unfold finalize
    dsimp only
    -- a turn of the engine does not look at the host
    rw [Engine.turn_onHost]
    rcases e.turn s with ⟨t, e', s', signals⟩
    cases t with
    | _ => rfl

/-- **A program does the same on another host.** -/
theorem step_onHost (w : Worker) (s : Shared) (h : SimHost) :
    w.step (s.onHost h)
      = ((w.step s).1, (w.step s).2.1, (w.step s).2.2.1.onHost h, (w.step s).2.2.2) := by
  obtain ⟨path, interval, engine, stage⟩ := w
  cases stage with
  | start =>
    unfold Worker.step
    dsimp only
    rw [show (s.onHost h).engineFault = s.engineFault from rfl]
    cases s.engineFault with
    | _ => rfl
  | publish | closeInbox =>
    cases engine with
    | _ => rfl
  | load =>
    cases engine with
    | none => rfl
    | some e =>
      unfold Worker.step
      dsimp only
      -- loading reads the files, which are not the host's
      rw [show e.loadFile (s.onHost h) path = e.loadFile s path from rfl]
      cases e.loadFile s path with
      | _ => rfl
  | drive => exact drive_onHost _ s h
  | closeEngine result => exact finalize_onHost _ s h result
  | report result =>
    cases result with
    | _ => rfl
  | _ => rfl

end Worker

/-! ### The log -/

/-- It is the program's own doing: a step, or a line that the log has answered. -/
def SessionDeed.isProgram : SessionDeed → Bool
  | .program .. => true
  | .logged .. => true
  | _ => false

/-- The lines that the log has answered. -/
def logLines (happened : List SessionDeed) : List String :=
  happened.filterMap fun
    | .logged line _ => some line
    | _ => none

/-- **The log answers by a rule**: what becomes of a line depends on the lines up to it. -/
def AnsweredBy (log : List String → Option Payload) (happened : List SessionDeed) : Prop :=
  ∀ before line panic after, happened = before ++ .logged line panic :: after →
    panic = log (logLines before ++ [line])

section Log

variable {log : List String → Option Payload} {happened later : List SessionDeed}

theorem logLines_append : logLines (happened ++ later) = logLines happened ++ logLines later :=
  List.filterMap_append

/-- What was answered by the rule was so from the beginning. -/
theorem AnsweredBy.of_append (h : AnsweredBy log (happened ++ later)) : AnsweredBy log happened := by
  intro before line panic after hsplit
  apply h before line panic (after ++ later)
  rw [hsplit, List.append_assoc]
  rfl

theorem AnsweredBy.last {line : String} {panic : Option Payload}
    (h : AnsweredBy log (happened ++ [.logged line panic])) :
    panic = log (logLines happened ++ [line]) :=
  h happened line panic [] rfl

/-- Where nothing is logged, every rule is kept. -/
theorem AnsweredBy.of_silent (h : ∀ line panic, .logged line panic ∉ happened) :
    AnsweredBy log happened := by
  intro before line panic after hsplit
  apply absurd _ (h line panic)
  rw [hsplit]
  exact List.mem_append_right _ List.mem_cons_self

end Log

/-! ### A program by itself -/

namespace Worker

/-- **The moves of a program by itself.** -/
inductive Alone : Worker × Shared → SessionDeed → Worker × Shared → Prop
  | step {w w' : Worker} {s s' : Shared} {t : WorkerTurn} {signals : List Signal}
      (hgo : w.result? = none) (hquiet : w.logging? = none)
      (h : w.step s = (t, w', s', signals)) : Alone (w, s) (.program w s) (w', s')
  | logged {w : Worker} {s : Shared} {line : String} (panic : Option Payload)
      (hgo : w.result? = none) (hlog : w.logging? = some line) :
      Alone (w, s) (.logged line panic) (w.logged panic, s)
  | clock {w : Worker} {s : Shared} {clock : Nat} (h : s.clock ≤ clock) :
      Alone (w, s) .clock (w, { s with clock })

/-- **An execution of a program by itself that leaves nobody out**: the log answers by its rule,
the program goes on until it is over, and so does the clock. -/
structure Fair (log : List String → Option Payload) {x : Worker × Shared} (E : Endless Alone x) :
    Prop where
  answered : ∀ i, AnsweredBy log (E.past i)
  program : ∀ i, (E.state i).1.result? = none → ∃ j, i ≤ j ∧ (E.deed j).isProgram = true
  clock : ∀ time, ∃ i, time ≤ (E.state i).2.clock

/-- **What a program may come to by itself**: its result, and whether the robot was started. -/
def MayEnd (log : List String → Option Payload) (w₀ : Worker) (s₀ : Shared) (result : WorkerResult)
    (started : Bool) : Prop :=
  ∃ happened w s, Run Alone (w₀, s₀) happened (w, s) ∧ AnsweredBy log happened
    ∧ w.result? = some result ∧ s.slot.robotStarted = started

/-- **The program does not depend on time**: whatever the clock does, it comes to the same. -/
def TimeFree (log : List String → Option Payload) (w₀ : Worker) (s₀ : Shared) : Prop :=
  ∀ {result result' started started'}, MayEnd log w₀ s₀ result started →
    MayEnd log w₀ s₀ result' started' → result = result' ∧ started = started'

/-- **The program ends by itself**, in every execution that leaves nobody out. -/
def EndsByItself (log : List String → Option Payload) (w₀ : Worker) (s₀ : Shared) : Prop :=
  ∀ E : Endless Alone (w₀, s₀), Fair log E → ∃ i, (E.state i).1.result?.isSome = true

/-- A program that is over does nothing any more. -/
theorem Alone.over {x y : Worker × Shared} {l : SessionDeed} {result : WorkerResult}
    (h : Alone x l y) (hover : x.1.result? = some result) : y.1.result? = some result := by
  cases h with
  | step hgo => exact nomatch hgo.symm.trans hover
  | logged panic hgo => exact nomatch hgo.symm.trans hover
  | clock hlater => exact hover

end Worker

/-! ### Apart from the time -/

/-- The engine, apart from when it was opened. -/
def Engine.untimed (e : Engine) : Engine :=
  { e with openedAt := 0 }

/-- What the threads share, apart from the time. -/
def Shared.untimed (s : Shared) : Shared :=
  { s with clock := 0 }

/-- A program, apart from when its engine was opened. -/
def Worker.untimed (w : Worker) : Worker :=
  { w with engine := w.engine.map Engine.untimed }

namespace Engine

variable {e : Engine} {s : Shared}

/-- The engine asks for the time at its next turn, or waits for it. -/
def asksTime (e : Engine) : Bool :=
  match (e.machine.advance quantum).mode with
  | .ask w =>
    match w.question with
    | .clock => true
    | .wait _ => true
    | _ => false
  | _ => false

/-- **Past the time.** An interpreter does not show when its engine was opened. -/
def View.timeless : View where
  machine m := m
  clock _ := 0
  interval n := n
  heap _ := rfl
  work _ _ := rfl
  start _ _ _ := rfl
  ended _ _ := rfl
  collecting _ _ := rfl
  retained _ _ := rfl
  closing _ _ := rfl

/-- **A turn at which nobody asks for the time** is the same at any time. -/
theorem turn_untimed (h : e.asksTime = false) :
    View.timeless.turn (e.untimed.turn s.untimed) = View.timeless.turn (e.turn s) := by
  obtain ⟨id, machine, task, openedAt⟩ := e
  unfold asksTime at h
  unfold turn
  dsimp only [untimed] at h ⊢
  cases hmode : (machine.advance quantum).mode with
  | ask w =>
    rw [hmode] at h
    dsimp only at h ⊢
    cases hquestion : w.question with
    | clock =>
      rw [hquestion] at h
      cases h
    | wait deadline =>
      rw [hquestion] at h
      cases h
    | _ => rfl
  | ended result =>
    have hsettle := View.settle_engine (v := .timeless)
      (e := ⟨id, machine.advance quantum, task, openedAt⟩) result
    unfold View.engine View.timeless at hsettle
    dsimp only at hsettle ⊢
    rw [hsettle]
    rcases settle ⟨id, machine.advance quantum, task, openedAt⟩ result with ⟨c, e'⟩
    cases c with
    | _ => rfl
  | _ =>
    -- whatever time the steps have taken
    have hany : ∀ clock clock', View.timeless.shared { s.untimed with clock }
        = View.timeless.shared { s with clock := clock' } := fun _ _ => rfl
    exact congrArg (fun s => (Turn.going, _, s, [])) (hany _ _)

end Engine

namespace Worker

variable {w w' : Worker} {s s' : Shared} {t : WorkerTurn} {signals : List Signal}

/-- The program asks for the time at its next step, or waits for it. -/
def asksTime (w : Worker) : Bool :=
  match w.stage, w.engine with
  | .drive, some e => e.asksTime
  | .closeEngine _, some e => e.asksTime
  | _, _ => false

theorem untimed_untimed (w : Worker) : w.untimed.untimed = w.untimed := by
  obtain ⟨path, interval, engine, stage⟩ := w
  cases engine with
  | _ => rfl

/-- **A step at which nobody asks for the time** is the same at any time. -/
theorem step_untimed (h : w.asksTime = false) :
    (w.untimed.step s.untimed).2.1.untimed = (w.step s).2.1.untimed
      ∧ (w.untimed.step s.untimed).2.2.1.untimed = (w.step s).2.2.1.untimed := by
  have hstep : Engine.View.timeless.step (w.untimed.step s.untimed)
      = Engine.View.timeless.step (w.step s) := by
    -- where no engine is driven the step follows from what is seen, else from the engine's turn
    cases hdriven : w.isDriven with
    | false => exact Engine.View.step_of_seen (v := .timeless) (untimed_untimed w) rfl hdriven rfl
    | true =>
      obtain ⟨e, hengine⟩ := engine_of_isDriven hdriven
      have hquiet : e.asksTime = false := by
        obtain ⟨path, interval, engine, stage⟩ := w
        obtain rfl : engine = some e := hengine
        cases stage with
        | drive => exact h
        | closeEngine result => exact h
        | _ => cases hdriven
      have hsame : w.untimed = { w with engine := some e.untimed } := by
        unfold untimed
        rw [hengine]
        rfl
      rw [hsame]
      exact Engine.View.step_of_turn (v := .timeless) rfl hdriven hengine (Engine.turn_untimed hquiet)
  exact ⟨congrArg (fun x => x.2.1) hstep, congrArg (fun x => x.2.2.1) hstep⟩

/-! ### The course of a program that never asks for the time -/

/-- Where a program has come to, apart from the time, and the lines that it has logged. -/
structure Point where
  worker : Worker
  shared : Shared
  lines : List String

namespace Point

/-- Where a program has come to. -/
def of (x : Worker × Shared) (lines : List String) : Point :=
  ⟨x.1.untimed, x.2.untimed, lines⟩

/-- The program's next move of its own: its step, or the log's answer. -/
def next (log : List String → Option Payload) (p : Point) : Point :=
  match p.worker.logging? with
  | some line => of (p.worker.logged (log (p.lines ++ [line])), p.shared) (p.lines ++ [line])
  | none => of ((p.worker.step p.shared).2.1, (p.worker.step p.shared).2.2.1) p.lines

/-- **The program is over after `n` moves of its own**, and does not ask for the time before. -/
def comesTo (log : List String → Option Payload) : Nat → Point → Bool
  | 0, p => p.worker.result?.isSome
  | n + 1, p => p.worker.result?.isNone && !p.worker.asksTime && (p.next log).comesTo log n

/-- Where the program has come to after `n` moves of its own. -/
def after (log : List String → Option Payload) : Nat → Point → Point
  | 0, p => p
  | n + 1, p => (p.next log).after log n

variable {log : List String → Option Payload} {p : Point} {n m : Nat}

/-- A program is over after so many moves, and not before. -/
theorem comesTo_unique (hn : p.comesTo log n = true) (hm : p.comesTo log m = true) : n = m := by
  induction n generalizing p m with
  | zero =>
    cases m with
    | zero => rfl
    | succ m =>
      unfold comesTo at hn hm
      -- over after no step, it cannot be going on as well
      rw [Option.isNone_eq_false_iff.mpr hn] at hm
      cases hm
  | succ n ih =>
    cases m with
    | zero =>
      unfold comesTo at hn hm
      rw [Option.isNone_eq_false_iff.mpr hm] at hn
      cases hn
    | succ m =>
      unfold comesTo at hn hm
      rw [Bool.and_eq_true] at hn hm
      rw [ih hn.2 hm.2]

end Point

variable {log : List String → Option Payload} {happened : List SessionDeed} {l : SessionDeed}
  {n : Nat}

theorem asksTime_untimed (w : Worker) : w.untimed.asksTime = w.asksTime := by
  obtain ⟨path, interval, engine, stage⟩ := w
  cases engine with
  | none => rfl
  | some e =>
    cases stage with
    | _ => rfl

theorem logging?_untimed (w : Worker) : w.untimed.logging? = w.logging? := by
  obtain ⟨path, interval, engine, stage⟩ := w
  cases engine with
  | _ => rfl

theorem logged_untimed (w : Worker) (panic : Option Payload) :
    (w.untimed.logged panic).untimed = (w.logged panic).untimed := by
  obtain ⟨path, interval, engine, stage⟩ := w
  cases engine with
  | _ => rfl

theorem shared_untimed (s : Shared) : s.untimed.untimed = s.untimed := rfl

theorem asksTime_of_comesTo {x : Worker × Shared} {lines : List String}
    (h : (Point.of x lines).comesTo log n = true) (hgo : x.1.result? = none) :
    x.1.asksTime = false := by
  cases n with
  -- a program that has still to go on is not over
  | zero =>
    have hover : x.1.result?.isSome = true := h
    rw [hgo] at hover
    cases hover
  | succ n =>
    unfold Point.comesTo at h
    rw [Bool.and_eq_true, Bool.and_eq_true, Bool.not_eq_true'] at h
    exact (asksTime_untimed x.1).symm.trans h.1.2

/-- Only a program that is not over has anything to do. -/
theorem Alone.goesOn {x y : Worker × Shared} (h : Alone x l y) (hl : l.isProgram = true) :
    x.1.result? = none := by
  cases h with
  | step hgo => exact hgo
  | logged panic hgo => exact hgo
  | clock hlater => cases hl

/-- **A move by itself** is the next one on the course, or only the clock goes on. -/
theorem Alone.advances {x y : Worker × Shared} {lines : List String} (h : Alone x l y)
    (hasks : x.1.result? = none → x.1.asksTime = false)
    (hlog : ∀ line panic, l = .logged line panic → panic = log (lines ++ [line])) :
    Point.of y (lines ++ logLines [l])
      = if l.isProgram then (Point.of x lines).next log else Point.of x lines := by
  cases h with
  | @step w w' s s' t signals hgo hquiet hstep =>
    -- a step that asks no time is the same on every clock
    obtain ⟨hworker, hshared⟩ := step_untimed (s := s) (hasks hgo)
    show Point.of (w', s') (lines ++ []) = (Point.of (w, s) lines).next log
    unfold Point.next
    rw [show (Point.of (w, s) lines).worker.logging? = none from
      (logging?_untimed w).trans hquiet, List.append_nil]
    unfold Point.of
    dsimp only
    rw [hworker, hshared, hstep]
  | @logged w s line panic hgo hline =>
    obtain rfl := hlog line panic rfl
    show Point.of _ (lines ++ [line]) = (Point.of (w, s) lines).next log
    unfold Point.next
    rw [show (Point.of (w, s) lines).worker.logging? = some line from
      (logging?_untimed w).trans hline]
    unfold Point.of
    dsimp only
    rw [logged_untimed, shared_untimed]
  | clock hlater =>
    show Point.of _ (lines ++ []) = Point.of _ lines
    rw [List.append_nil]
    rfl

section Course

variable {w₀ w : Worker} {s₀ s : Shared}

/-- What is left of the course, after a move. -/
theorem Alone.leaves {x y : Worker × Shared} {lines : List String} (h : Alone x l y)
    (hcomes : (Point.of x lines).comesTo log n = true)
    (hlog : ∀ line panic, l = .logged line panic → panic = log (lines ++ [line])) :
    ∃ m, n = m + (if l.isProgram then 1 else 0)
      ∧ (Point.of y (lines ++ logLines [l])).comesTo log m = true
      ∧ (Point.of y (lines ++ logLines [l])).after log m = (Point.of x lines).after log n := by
  rw [h.advances (asksTime_of_comesTo hcomes) hlog]
  cases hl : l.isProgram with
  -- a move of others uses up no step of the course
  | false => exact ⟨n, rfl, hcomes, rfl⟩
  | true =>
    have hgo := h.goesOn hl
    cases n with
    | zero =>
      have hover : x.1.result?.isSome = true := hcomes
      rw [hgo] at hover
      cases hover
    | succ n =>
      have hrest := hcomes
      unfold Point.comesTo at hrest
      rw [Bool.and_eq_true] at hrest
      exact ⟨n, rfl, hrest.2, rfl⟩

/-- **A program stays on its course.** -/
theorem course_of_alone (hcourse : (Point.of (w₀, s₀) []).comesTo log n = true)
    {x : Worker × Shared} (hrun : Run Alone (w₀, s₀) happened x) (hlog : AnsweredBy log happened) :
    ∃ m, (Point.of x (logLines happened)).comesTo log m = true
      ∧ (Point.of x (logLines happened)).after log m = (Point.of (w₀, s₀) []).after log n := by
  induction hrun with
  | refl => exact ⟨n, hcourse, rfl⟩
  | @tail happened y z l run step ih =>
    obtain ⟨m, hcomes, hafter⟩ := ih hlog.of_append
    have hanswer : ∀ line panic, l = .logged line panic →
        panic = log (logLines happened ++ [line]) := by
      rintro line panic rfl
      exact hlog.last
    -- the log has answered as it was settled, so that the step stays on the course
    obtain ⟨k, -, hcomes', hafter'⟩ := step.leaves hcomes hanswer
    rw [logLines_append]
    exact ⟨k, hcomes', hafter'.trans hafter⟩

/-- **A program that never asks for the time does not depend on it.** -/
theorem timeFree_of_course (hcourse : (Point.of (w₀, s₀) []).comesTo log n = true) :
    TimeFree log w₀ s₀ := by
  -- where a program is over, it has come to the end of the course
  have hend : ∀ {result started}, MayEnd log w₀ s₀ result started →
      ((Point.of (w₀, s₀) []).after log n).worker.result? = some result
        ∧ ((Point.of (w₀, s₀) []).after log n).shared.slot.robotStarted = started := by
    rintro result started ⟨happened, w, s, hrun, hlog, hdone, hstarted⟩
    obtain ⟨m, hcomes, hafter⟩ := course_of_alone hcourse hrun hlog
    have hover : (Point.of (w, s) (logLines happened)).comesTo log 0 = true := by
      show w.result?.isSome = true
      rw [hdone]
      rfl
    obtain rfl := Point.comesTo_unique hcomes hover
    rw [← hafter]
    exact ⟨hdone, hstarted⟩
  intro result result' started started' h h'
  obtain ⟨hresult, hstarted⟩ := hend h
  obtain ⟨hresult', hstarted'⟩ := hend h'
  exact ⟨Option.some.inj (hresult.symm.trans hresult'), hstarted.symm.trans hstarted'⟩

/-- **A program that never asks for the time ends by itself**, if its course has an end. -/
theorem endsByItself_of_course (hcourse : (Point.of (w₀, s₀) []).comesTo log n = true) :
    EndsByItself log w₀ s₀ := by
  intro E hfair
  -- what is left of the course, at each moment
  have hleft : ∀ i, ∃ m, (Point.of (E.state i) (logLines (E.past i))).comesTo log m = true := by
    intro i
    obtain ⟨m, hcomes, -⟩ := course_of_alone hcourse (E.run i) (hfair.answered i)
    exact ⟨m, hcomes⟩
  choose left hcomes using hleft
  have hstep : ∀ i, left i = left (i + 1) + (if (E.deed i).isProgram then 1 else 0) := by
    intro i
    have hanswer : ∀ line panic, E.deed i = .logged line panic →
        panic = log (logLines (E.past i) ++ [line]) := by
      intro line panic hdeed
      have hlog : AnsweredBy log (E.past i ++ [E.deed i]) := hfair.answered (i + 1)
      rw [hdeed] at hlog
      exact hlog.last
    obtain ⟨m, hm, hcomes', -⟩ := (E.next i).leaves (hcomes i) hanswer
    rw [← logLines_append] at hcomes'
    have hsame : left (i + 1) = m := Point.comesTo_unique (hcomes (i + 1)) hcomes'
    rw [hsame]
    exact hm
  have hlowers : ∀ i, True → ¬ (E.state i).1.result?.isSome = true →
      True ∧ left (i + 1) ≤ left i ∧ ((E.deed i).isProgram = true → left (i + 1) < left i) := by
    intro i _ _
    refine ⟨trivial, Nat.le.intro (hstep i).symm, fun hhelpful => ?_⟩
    have hlower := hstep i
    rw [hhelpful] at hlower
    exact Nat.lt_of_lt_of_eq (Nat.lt_succ_self _) hlower.symm
  have hrecurs : ∀ i, True → ¬ (E.state i).1.result?.isSome = true →
      ∃ j, i ≤ j ∧ (E.deed j).isProgram = true := by
    intro i _ hgo
    rw [Option.not_isSome_iff_eq_none] at hgo
    exact hfair.program i hgo
  obtain ⟨i, -, hover⟩ := eventually_of_rank _ _ _ left hlowers hrecurs (i := 0) trivial
  exact ⟨i, hover⟩

end Course
end Worker
end RobotSession
