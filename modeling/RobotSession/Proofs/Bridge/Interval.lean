import RobotSession.Proofs.Bridge.Solo
import RobotSession.Proofs.Bridge.Unhooked

/-!
# The interval of the hook

An engine looks after its inbox every so many instructions. As long as nothing is queued, how many
these are should make no difference: not to what a script asks for, nor to what its host is told,
nor to what its session comes to. A program whose hook stops it more often gets less far in a turn,
so two programs that differ in this way do not go on in step. One of them goes ahead, and the other
one *follows* it (`Worker.Follows`). Where the one that goes ahead does something that cannot be
told from outside, the other one does nothing, and where it does something that can, the other one
catches up first (`Worker.catches_up`) and then does the same.

Time is left aside: the clock of a program that is undisturbed (`Worker.Undisturbed`) shows
anything. What a script asks for is compared together with the time at which it asks.

There is one difference that does show. A hook brings with it functions of the host that make
coroutines, and an error that a wrapped coroutine raises comes out of them as a failure of the host
instead of the value that it was. So a program with a hook and one without are the same only as
long as the hook does not show in this way (`Worker.strays`), and in general they are not
(`Worker.interval_observable`). Two programs that both have a hook are always the same.

* `Contact`, `contacts` — what passes between a program and its surroundings.
* `Worker.Undisturbed` — the moves of a program for which nothing is queued.
* `Worker.Behind`, `Worker.Follows` — what two programs with two intervals have in common.
* `Worker.Follows.move`, `Worker.Follows.run` — a move is followed, and so is a run.
* `Worker.interval_unobservable` — the interval makes no difference.
* `Worker.interval_observable` — except for wrapped coroutines.
-/

namespace RobotSession

open Lua

variable {g : Grain} {w w' : Worker} {s s' : Shared}

/-! ### What passes between a program and its surroundings -/

/-- The request at which the next turn stops, unless it is the hook's. -/
def Engine.asks? (e : Engine) : Option Ask :=
  match e.stopped.machine.mode with
  | .ask (.hookPoll _) => none
  | .ask w => some w.question
  | _ => none

theorem Engine.asks?_of_held {e : Engine} {ticket : Nat}
    (h : e.stopped.machine.mode = .ask (.hookPoll ticket)) : e.asks? = none := by
  unfold asks?
  rw [h]

theorem Engine.asks?_of_late {e : Engine} (h : e.stopped.machine.isWaiting = false) :
    e.asks? = none := by
  unfold Machine.isWaiting at h
  unfold asks?
  cases hmode : e.stopped.machine.mode with
  | ask w =>
    rw [hmode] at h
    cases h
  | _ => rfl

/-- **What passes between a program and its surroundings.** -/
inductive Contact
  /-- The script asks for something, so long after its engine was opened. -/
  | asks (q : Ask) (time : Nat)
  | tells (x : Signal)
  /-- The log answers, or somebody else does something. -/
  | others (l : SessionDeed)

/-- What the script asks for at the next step. -/
def Worker.asked (w : Worker) (s : Shared) : List Contact :=
  match w.isDriven, w.engine with
  | true, some e => (e.asks?.map fun q => .asks q (s.clock - e.openedAt)).toList
  | _, _ => []

def SessionDeed.contacts : SessionDeed → List Contact
  | .program w s => w.asked s ++ (w.step s).2.2.2.map .tells
  | .clock => []
  | l => [.others l]

/-- **All that passed between a program and its surroundings**, in order. -/
def contacts (happened : List SessionDeed) : List Contact :=
  happened.flatMap SessionDeed.contacts

theorem contacts_append (happened later : List SessionDeed) :
    contacts (happened ++ later) = contacts happened ++ contacts later :=
  List.flatMap_append

namespace Worker

/-- **The moves of a program for which nothing is queued.** The log answers, others touch the host,
and what they post is refused. The clock shows anything at any time: what a script makes of the
time is left aside. -/
inductive Undisturbed : Worker × Shared → SessionDeed → Worker × Shared → Prop
  | step {w w' : Worker} {s s' : Shared} {t : WorkerTurn} {signals : List Signal}
      (hgo : w.result? = none) (hquiet : w.logging? = none)
      (h : w.step s = (t, w', s', signals)) : Undisturbed (w, s) (.program w s) (w', s')
  | logged {w : Worker} {s : Shared} {line : String} (panic : Option Payload)
      (hgo : w.result? = none) (hlog : w.logging? = some line) :
      Undisturbed (w, s) (.logged line panic) (w.logged panic, s)
  | host {w : Worker} {s : Shared} {l : SessionDeed} {host : SimHost}
      (hl : l = .controller ∧ host.exitRequested = s.host.exitRequested ∨ l = .exit)
      (h : host.diagnostics = s.host.diagnostics) : Undisturbed (w, s) l (w, { s with host })
  | refused {w : Worker} {s : Shared} {id : Nat} {i : Invocation}
      (h : (s.post id i).1 ≠ .queued) :
      Undisturbed (w, s) (.asksEnd (s.post id i).1) (w, (s.post id i).2)
  | clock {w : Worker} {s : Shared} (clock : Nat) :
      Undisturbed (w, s) .clock (w, { s with clock })

/-- Nothing is queued for the program. -/
def Quiet (w : Worker) (s : Shared) : Prop :=
  ∀ e, w.engine = some e → (s.inbox e.id).isPending = false

theorem isPending_setInbox {id other : Nat} {b : Inbox} (hb : b.isPending = false)
    (h : (s.inbox other).isPending = false) :
    ((s.setInbox id b).inbox other).isPending = false := by
  rcases Shared.inbox_setInbox_cases s id other b with ⟨hinbox, -⟩ | hinbox
  · rw [hinbox]
    exact hb
  · rw [hinbox]
    exact h

/-- A turn leaves the flag of an empty inbox alone. -/
theorem isPending_turn {e e' : Engine} {t : Turn} {signals : List Signal}
    (h : e.turn s = (t, e', s', signals)) (hquiet : (s.inbox e.id).isPending = false) :
    (s'.inbox e.id).isPending = false := by
  rcases Engine.turn_shared h with ⟨-, clock, rfl⟩ | ⟨-, rfl⟩
  · exact hquiet
  · -- the flag of a queue from which a call is taken is raised only if it was
    apply isPending_setInbox _ hquiet
    unfold Inbox.pop
    split
    · rfl
    · dsimp only
      rw [hquiet]
      rfl

theorem Quiet.step (h : w.Quiet s) (hsteps : w.Steps s w' s') : w'.Quiet s' := by
  intro e' he'
  cases hsteps with
  | opens hstage hfault =>
    -- a number that no inbox has yet reads as an empty one
    obtain rfl := Option.some.inj he'
    show (s.newInbox.2.inbox s.inboxes.size).isPending = false
    rw [Shared.inbox_newInbox]
    unfold Shared.inbox
    rw [Array.getD_eq_getD_getElem?, Array.getElem?_eq_none (Nat.le_refl _)]
    rfl
  | @loads e _ hstage hengine hid =>
    obtain rfl := Option.some.inj he'
    rw [hid]
    exact h e hengine
  | @drives e _ _ _ _ _ _ _ hstage hengine hturn hid hto =>
    obtain rfl := Option.some.inj he'
    have hflag := isPending_turn hturn (h e hengine)
    rw [hid]
    cases hto with
    | goesOn => exact hflag
    | ready r => exact isPending_setInbox hflag hflag
    | ends hresult => exact hflag
  | enters hstage =>
    cases hengine : w.engine with
    | none =>
      rw [hengine] at he'
      cases he'
    | some e =>
      rw [hengine] at he'
      obtain rfl := Option.some.inj he'
      exact h e hengine
  | @closes e _ _ _ hstage hengine hid hto =>
    rw [hid e' he']
    exact isPending_setInbox rfl (h e hengine)
  | @finalizes e _ _ _ _ _ _ _ hstage hengine hturn hid hto =>
    rw [hid e' he']
    exact isPending_turn hturn (h e hengine)
  | _ => exact h e' he'

theorem Quiet.move {x y : Worker × Shared} {l : SessionDeed} (hquiet : x.1.Quiet x.2)
    (h : Undisturbed x l y) : y.1.Quiet y.2 := by
  cases h with
  | step hgo hlog hstep => exact hquiet.step (steps hgo hstep)
  | @logged w s line panic hgo hlog =>
    intro e' he'
    cases hengine : w.engine with
    | none =>
      rw [show (w.logged panic).engine = w.engine.map (·.logged panic) from rfl, hengine] at he'
      cases he'
    | some e =>
      rw [show (w.logged panic).engine = w.engine.map (·.logged panic) from rfl, hengine] at he'
      obtain rfl := Option.some.inj he'
      exact hquiet e hengine
  | host hl hdiagnostics => exact hquiet
  | @refused w s id i hrefused =>
    intro e he
    show ((s.setInbox id ((s.inbox id).post i).2).inbox e.id).isPending = false
    -- a call that was refused has left its queue as it was
    rcases (s.inbox id).post_cases i with ⟨hpost, -⟩ | ⟨-, hsame⟩
    · exact absurd (congrArg Prod.fst hpost) hrefused
    · rw [hsame]
      rcases Shared.inbox_setInbox_cases s id e.id (s.inbox id) with ⟨hinbox, hid⟩ | hinbox
      · rw [hinbox, ← hid]
        exact hquiet e he
      · rw [hinbox]
        exact hquiet e he
  | clock clock => exact hquiet

/-- The interval of a program stays the same. -/
theorem interval_of_steps (h : w.Steps s w' s') : w'.interval = w.interval := by
  cases h with
  | _ => rfl

/-! ### Catching up -/

theorem isDriven_withEngine (h : w.isDriven = true) (e : Engine) :
    (w.withEngine e).isDriven = true := by
  obtain ⟨path, interval, engine, stage⟩ := w
  cases engine with
  | none =>
    cases stage with
    | _ => cases h
  | some e =>
    -- two stages drive an engine, whichever it is
    cases stage with
    | drive => rfl
    | closeEngine result => rfl
    | _ => cases h

theorem result?_of_isDriven (h : w.isDriven = true) : w.result? = none := by
  obtain ⟨path, interval, engine, stage⟩ := w
  cases stage with
  | done result => cases h
  | _ => rfl

/-- An interpreter that goes on by itself does not wait for the log. -/
theorem logging?_of_isWaiting {e : Engine} (hengine : w.engine = some e)
    (h : e.machine.isWaiting = false) : w.logging? = none := by
  unfold Worker.logging?
  rw [hengine]
  show e.logging? = none
  unfold Engine.logging?
  unfold Machine.isWaiting at h
  -- an interpreter that does not wait asks for no line
  cases hmode : e.machine.mode with
  | ask w =>
    rw [hmode] at h
    cases h
  | _ => rfl

/-- A turn at which the script asks for nothing cannot be told from outside. -/
theorem silent_step {e e' : Engine} (hdriven : w.isDriven = true) (hengine : w.engine = some e)
    (hlog : w.logging? = none) (hasks : e.asks? = none) (hturn : e.turn s = (.going, e', s', [])) :
    Undisturbed (w, s) (.program w s) (w.withEngine e', s')
      ∧ (SessionDeed.program w s).contacts = [] := by
  have hstep := step_of_going hdriven hengine hturn
  refine ⟨.step (result?_of_isDriven hdriven) hlog hstep, ?_⟩
  -- the engine goes on and asks for nothing
  have hasked : w.asked s = [] := by
    unfold asked
    rw [hdriven, hengine]
    dsimp only
    rw [hasks]
    rfl
  show w.asked s ++ (w.step s).2.2.2.map .tells = []
  rw [hasked, hstep]
  rfl

/-- What is left on the way: two for each step of what is seen, and one if the hook may run
first. -/
def distance (j : Nat) (m : Machine) : Nat :=
  match m.mode with
  | .run true => 2 * j
  | _ => 2 * j + 1

theorem distance_le (j : Nat) (m : Machine) : distance j m ≤ 2 * j + 1 := by
  unfold distance
  split
  · exact Nat.le_succ _
  · exact Nat.le_refl _

theorem le_distance (j : Nat) (m : Machine) : 2 * j ≤ distance j m := by
  unfold distance
  split
  · exact Nat.le_refl _
  · exact Nat.le_succ _

/-- **A program that is behind catches up by itself**, and nobody can tell: it comes to where its
next turn stops at the same. -/
theorem catches_up {d : Machine} (hd : d.isWaiting = true) (hready : d.mode.isReady = false)
    {e : Engine} {m : Machine} {j : Nat} (h : Machine.Trails g j (m.seen g) d)
    (hdriven : w.isDriven = true) (hengine : w.engine = some { e with machine := m })
    (hquiet : (s.inbox e.id).isPending = false) (hlog : w.logging? = none) :
    ∃ happened m' clock, Run Undisturbed (w, s) happened
        (w.withEngine { e with machine := m' }, { s with clock })
      ∧ contacts happened = [] ∧ (m'.advance Engine.quantum).bare g = d
      ∧ (w.withEngine { e with machine := m' }).logging? = none := by
  -- the way gets shorter with every turn that is stopped before its end
  induction hn : distance j m using Nat.strongRecOn generalizing m j w s with
  | _ n ih =>
    have hsame : w.withEngine { e with machine := m } = w := by
      unfold withEngine
      rw [← hengine]
    -- after a turn that nobody can tell, the rest of the way
    have hrest : ∀ {m₁ : Machine} {k clock : Nat}, ({ e with machine := m } : Engine).asks? = none →
        ({ e with machine := m } : Engine).turn s
          = (.going, { e with machine := m₁ }, { s with clock }, []) →
        Machine.Trails g k (m₁.seen g) d → distance k m₁ < n → m₁.isWaiting = false →
        ∃ happened m' clock, Run Undisturbed (w, s) happened
            (w.withEngine { e with machine := m' }, { s with clock })
          ∧ contacts happened = [] ∧ (m'.advance Engine.quantum).bare g = d
          ∧ (w.withEngine { e with machine := m' }).logging? = none := by
      intro m₁ k clock hasks hturn htrails hless hgoes
      obtain ⟨hmove, hcontacts⟩ := silent_step hdriven hengine hlog hasks hturn
      have hdriven₁ := isDriven_withEngine hdriven { e with machine := m₁ }
      obtain ⟨happened, m', clock', hrun, hsilent, hstops, hlog'⟩ := ih _ hless htrails hdriven₁ rfl
        (s := { s with clock }) hquiet (logging?_of_isWaiting rfl hgoes) rfl
      refine ⟨.program w s :: happened, m', clock', (Run.single hmove).trans hrun, ?_, hstops,
        hlog'⟩
      show (SessionDeed.program w s).contacts ++ contacts happened = []
      rw [hcontacts, hsilent]
      rfl
    cases Machine.advance_trails hd hready (n := Engine.quantum) h with
    | arrives hstops hmode =>
      refine ⟨[], m, s.clock, ?_, rfl, hstops, ?_⟩
      · rw [hsame]
        exact .refl
      · rw [hsame]
        exact hlog
    | held ticket hmode k hk hnearer htrails =>
      have hturn := Engine.turn_of_held (e := { e with machine := m }) hmode hquiet
      obtain ⟨hseen, hrun⟩ :=
        Machine.seen_answer_hookPoll (g := g) hmode (a := .flag false) (by simp)
      have hasks := Engine.asks?_of_held (e := { e with machine := m }) hmode
      rw [← hseen] at htrails
      have hleft : distance k ((m.advance Engine.quantum).answer (.flag false)) = 2 * k := by
        unfold distance
        rw [hrun]
      have hgoes : ((m.advance Engine.quantum).answer (.flag false)).isWaiting = false := by
        unfold Machine.isWaiting
        rw [hrun]
      -- either the next step is not held up any more, or there are fewer left
      have hless : distance k ((m.advance Engine.quantum).answer (.flag false)) < n := by
        rw [hleft, ← hn]
        by_cases hpolled : m.mode = .run true
        · have hfewer := hnearer hpolled (by decide)
          have hle := le_distance j m
          omega
        · have hmost : distance j m = 2 * j + 1 := by
            unfold distance
            split
            · exact absurd ‹_› hpolled
            · rfl
          omega
      exact hrest hasks hturn htrails hless hgoes
    | late hmode k hk htrails =>
      have hturn := Engine.turn_of_late (s := s) (e := { e with machine := m }) hmode
      have hasks := Engine.asks?_of_late (e := { e with machine := m }) hmode
      have hless : distance k (m.advance Engine.quantum) < n := by
        have hquantum : Engine.quantum = 2000 := rfl
        have hmost := distance_le k (m.advance Engine.quantum)
        have hle := le_distance j m
        omega
      exact hrest hasks hturn htrails hless hmode

/-! ### Two intervals -/

/-- **What the two programs have in common**, the one that goes ahead first: they are the same
apart from the hook, or the second one is on the way to where the first one is. -/
inductive Behind (g : Grain) (w : Worker) : Worker → Prop
  | level {w' : Worker} (h : w'.bare g = w.bare g) : Behind g w w'
  | trails {e : Engine} {m : Machine} {interval j : Nat} (hdriven : w.isDriven = true)
      (hengine : w.engine = some e) (hgoes : e.machine.isWaiting = false)
      (h : Machine.Trails g j (m.seen g) (e.machine.seen g)) :
      Behind g w { w with interval, engine := some { e with machine := m } }

/-- **One program follows another**, whose interval is a different one. -/
structure Follows (g : Grain) (x x' : Worker × Shared) : Prop where
  opens : (Machine.opened x'.1.interval).bare g = (Machine.opened x.1.interval).bare g
  behind : Behind g x.1 x'.1
  /-- Only the clock may show something else. -/
  shared : ∃ clock, x'.2 = { x.2 with clock }
  quiet : x.1.Quiet x.2

/-- The hook may show at the next step. -/
def strays (w : Worker) : Bool :=
  match w.isDriven, w.engine with
  | true, some e => e.machine.straysWithin Engine.quantum
  | _, _ => false

theorem Behind.result? (h : Behind g w w') : w'.result? = w.result? := by
  cases h with
  | level h =>
    have hstage : w'.stage = w.stage := show (w'.bare g).stage = (w.bare g).stage by rw [h]
    unfold Worker.result?
    rw [hstage]
  | trails hdriven hengine hgoes h => rfl

/-- What is asked for does not depend on the hook. -/
theorem asked_of_stopped {e e' : Engine} {interval : Nat} (hengine : w.engine = some e)
    (h : e'.stopped.bare g = e.stopped.bare g) :
    ({ w with interval, engine := some e' } : Worker).asked s = w.asked s := by
  obtain ⟨path, interval₀, engine, stage⟩ := w
  obtain rfl : engine = some e := hengine
  have hmode : e'.stopped.machine.mode = e.stopped.machine.mode :=
    show (e'.stopped.bare g).machine.mode = (e.stopped.bare g).machine.mode by rw [h]
  have hopened : e'.openedAt = e.openedAt :=
    show (e'.stopped.bare g).openedAt = (e.stopped.bare g).openedAt by rw [h]
  -- what a machine asks is its mode, and when is counted from the opening; neither has to do with
  -- hooks
  have hasks : e'.asks? = e.asks? := by
    unfold Engine.asks?
    rw [hmode]
  have hsame : (e'.asks?.map fun q => Contact.asks q (s.clock - e'.openedAt))
      = e.asks?.map fun q => Contact.asks q (s.clock - e.openedAt) := by
    rw [hasks, hopened]
  cases stage with
  | drive => exact congrArg Option.toList hsame
  | closeEngine result => exact congrArg Option.toList hsame
  | _ => rfl

theorem asked_of_not_isDriven (h : w.isDriven = false) : w.asked s = [] := by
  unfold asked
  rw [h]

theorem isDriven_bare : (w.bare g).isDriven = w.isDriven := by
  obtain ⟨path, interval, engine, stage⟩ := w
  cases engine with
  | none =>
    cases stage with
    | _ => rfl
  | some e =>
    cases stage with
    | _ => rfl

/-- Within a task, a program that has something in common with another one is behind it. -/
theorem Behind.trails_of_isDriven {e : Engine} (h : Behind g w w') (hengine : w.engine = some e) :
    ∃ m j interval, Machine.Trails g j (m.seen g) (e.machine.seen g)
      ∧ w' = { w with interval, engine := some { e with machine := m } } := by
  cases h with
  | level h =>
    rcases bare_cases h with ⟨hnone, -⟩ | ⟨e₀, e', hengine₀, he, hw'⟩
    · rw [hengine] at hnone
      cases hnone
    · obtain rfl := Option.some.inj (hengine.symm.trans hengine₀)
      have hmachine : e'.machine.bare g = e.machine.bare g :=
        show (e'.bare g).machine = (e.bare g).machine by rw [he]
      -- the two engines differ in their machines alone
      have hsame : e' = { e with machine := e'.machine } := by
        obtain ⟨id', machine', task', openedAt'⟩ := e'
        obtain ⟨id, machine, task, openedAt⟩ := e
        obtain ⟨rfl, -, rfl, rfl⟩ := Engine.mk.inj he
        rfl
      refine ⟨e'.machine, 0, w'.interval, ?_, hw'.trans ?_⟩
      · rw [← Machine.settled_bare, hmachine, Machine.settled_bare]
        exact .refl _
      · rw [← hsame]
  | @trails e₀ m interval j hdriven hengine₀ hgoes h =>
    obtain rfl := Option.some.inj (hengine.symm.trans hengine₀)
    exact ⟨m, j, interval, h, rfl⟩

/-- Only within a task may one program be on the way to where the other one is. -/
theorem Behind.level_of_not_isDriven (h : Behind g w w') (hdriven : w.isDriven = false) :
    w'.bare g = w.bare g := by
  cases h with
  | level h => exact h
  | trails hdriven' => exact nomatch hdriven.symm.trans hdriven'

/-- Where the log has been asked, both programs have asked it. -/
theorem Behind.level_of_logging? {line : String} (h : Behind g w w')
    (hlog : w.logging? = some line) : w'.bare g = w.bare g := by
  cases h with
  | level h => exact h
  | trails hdriven hengine hgoes =>
    exact nomatch hlog.symm.trans (logging?_of_isWaiting hengine hgoes)

/-- An interpreter on the way to one that does not wait for the log does not wait for it either. -/
theorem logging?_of_trails {e : Engine} {m : Machine} {j : Nat}
    (h : Machine.Trails g j (m.seen g) (e.machine.seen g)) (hlog : e.logging? = none) :
    ({ e with machine := m } : Engine).logging? = none := by
  cases hmode : m.mode with
  | ask w =>
    cases w with
    | hookPoll ticket =>
      unfold Engine.logging?
      rw [hmode]
      rfl
    | _ =>
      -- it goes nowhere, so it is there already
      have hready : m.mode.isReady = false := by rw [hmode]; rfl
      have hwaiting : m.isWaiting = true := by unfold Machine.isWaiting; rw [hmode]
      rw [Machine.seen_of_not_ready hready] at h
      have hthere := h.eq_of_next_eq (Machine.next_of_isWaiting hwaiting hready)
      obtain ⟨-, -, hsame⟩ := Machine.mode_of_seen (d := m.bare g) hready hthere
      unfold Engine.logging? at hlog ⊢
      rw [show (m.bare g).mode = m.mode from rfl] at hsame
      rw [hsame] at hlog
      exact hlog
  | _ =>
    unfold Engine.logging?
    rw [hmode]

variable {t : WorkerTurn} {w₁ : Worker} {s₁ : Shared} {signals : List Signal}

/-- **A step within a task is followed**: with nothing, if it cannot be told from outside, and else
by catching up and doing the same. -/
theorem Follows.driven {e : Engine} (h : Follows g (w, s) (w', s')) (hdriven : w.isDriven = true)
    (hengine : w.engine = some e) (hlog : w.logging? = none)
    (hstep : w.step s = (t, w₁, s₁, signals)) (hsteady : g.Allows w.strays) :
    ∃ happened y', Run Undisturbed (w', s') happened y' ∧ Follows g (w₁, s₁) y'
      ∧ contacts happened = (SessionDeed.program w s).contacts := by
  have hgo := result?_of_isDriven hdriven
  have hmove : Undisturbed (w, s) (.program w s) (w₁, s₁) := .step hgo hlog hstep
  have hempty : (s.inbox e.id).isPending = false := h.quiet e hengine
  have hquiet := h.quiet.move hmove
  have hinterval : w₁.interval = w.interval := interval_of_steps (steps hgo hstep)
  obtain ⟨m, j, interval, hbehind, rfl⟩ := h.behind.trails_of_isDriven hengine
  obtain ⟨clock, rfl⟩ := h.shared
  have hopens : (Machine.opened interval).bare g = (Machine.opened w₁.interval).bare g := by
    rw [hinterval]
    exact h.opens
  have hstrays : g.Allows (e.machine.straysWithin Engine.quantum) := by
    unfold strays at hsteady
    rw [hdriven, hengine] at hsteady
    exact hsteady
  obtain ⟨k, hahead⟩ := Machine.trails_advance hstrays
  have htrails := hbehind.trans hahead
  -- after a step that cannot be told from outside, the other one only has farther to go
  have hstays : ∀ {machine : Machine} (now : Nat), e.asks? = none →
      e.turn s = (.going, { e with machine }, { s with clock := now }, []) →
      machine.isWaiting = false → Machine.Trails g (j + k) (m.seen g) (machine.seen g) →
      Follows g (w₁, s₁)
          ({ w with interval, engine := some { e with machine := m } }, { s with clock })
        ∧ contacts [] = (SessionDeed.program w s).contacts := by
    intro machine now hasks hturn hgoes htrails
    obtain ⟨-, hsilent⟩ := silent_step hdriven hengine hlog hasks hturn
    have hgoing := (step_of_going hdriven hengine hturn).symm.trans hstep
    obtain rfl : w.withEngine { e with machine } = w₁ := congrArg (fun x => x.2.1) hgoing
    obtain rfl : { s with clock := now } = s₁ := congrArg (fun x => x.2.2.1) hgoing
    have hbehind : Behind g (w.withEngine { e with machine })
        { w.withEngine { e with machine } with interval, engine := some { e with machine := m } } :=
      .trails (e := { e with machine }) (isDriven_withEngine hdriven _) rfl hgoes htrails
    exact ⟨⟨hopens, hbehind, ⟨clock, rfl⟩, hquiet⟩, hsilent.symm⟩
  cases hwaiting : (e.machine.advance Engine.quantum).isWaiting with
  | false =>
    -- there was no time for more steps
    have hturn := Engine.turn_of_late (e := e) (s := s) hwaiting
    have hasks := Engine.asks?_of_late (e := e) hwaiting
    obtain ⟨hfollows, hsilent⟩ := hstays _ hasks hturn hwaiting htrails
    exact ⟨[], _, .refl, hfollows, hsilent⟩
  | true =>
    cases hready : (e.machine.advance Engine.quantum).mode.isReady with
    | true =>
      -- the hook has stopped the one that goes ahead
      obtain ⟨ticket, hmode⟩ := Machine.held_of_isReady hwaiting hready
      have hturn := Engine.turn_of_held (e := e) hmode hempty
      have hasks := Engine.asks?_of_held (e := e) hmode
      obtain ⟨hseen, hrun⟩ :=
        Machine.seen_answer_hookPoll (g := g) hmode (a := .flag false) (by simp)
      have hgoes : ((e.machine.advance Engine.quantum).answer (.flag false)).isWaiting = false := by
        unfold Machine.isWaiting
        rw [hrun]
      rw [← hseen] at htrails
      obtain ⟨hfollows, hsilent⟩ := hstays s.clock hasks hturn hgoes htrails
      exact ⟨[], _, .refl, hfollows, hsilent⟩
    | false =>
      -- the other one gets to where it stops at the same, and takes the same step
      have hlog' : ({ e with machine := m } : Engine).logging? = none := by
        apply logging?_of_trails hbehind
        unfold Worker.logging? at hlog
        rw [hengine] at hlog
        exact hlog
      rw [Machine.seen_of_not_ready hready] at htrails
      have hdriven' : ({ w with interval, engine := some { e with machine := m } } :
          Worker).isDriven = true := isDriven_withEngine hdriven { e with machine := m }
      obtain ⟨happened, m', now, hrun, hsilent, hstops, hlog'⟩ :=
        catches_up (g := g) (s := { s with clock })
          (w := { w with interval, engine := some { e with machine := m } })
          (d := (e.machine.advance Engine.quantum).bare g)
          hwaiting hready htrails hdriven' rfl hempty hlog'
      let w' : Worker := { w with interval, engine := some { e with machine := m' } }
      have hstopped : ({ e with machine := m' } : Engine).stopped.bare g = e.stopped.bare g :=
        congrArg (fun machine => { e with machine }) hstops
      have hbare : bareStep g (w'.step s) = bareStep g (w.step s) :=
        step_of_bareTurn hdriven hengine (Engine.turn_of_stopped hstopped hready)
      have hasked : w'.asked s = w.asked s := asked_of_stopped hengine hstopped
      rw [hstep] at hbare
      obtain ⟨w₁', hstep', hbare⟩ := bareStep_cases hbare
      have hgo' : w'.result? = none := hgo
      have hmove' : Undisturbed (w', s) (.program w' s) (w₁', s₁) := .step hgo' hlog' hstep'
      have hopens' : (Machine.opened w₁'.interval).bare g
          = (Machine.opened w₁.interval).bare g := by
        rw [interval_of_steps (steps hgo' hstep')]
        exact hopens
      refine ⟨happened ++ [.clock] ++ [.program w' s], _,
        (hrun.tail (.clock s.clock)).tail hmove',
        ⟨hopens', .level hbare, ⟨s₁.clock, rfl⟩, hquiet⟩, ?_⟩
      rw [contacts_append, contacts_append, hsilent]
      show w'.asked s ++ (w'.step s).2.2.2.map .tells ++ []
        = w.asked s ++ (w.step s).2.2.2.map .tells
      rw [List.append_nil, hasked, hstep', hstep]

/-- **A step between two tasks is followed** by the same step. -/
theorem Follows.between (h : Follows g (w, s) (w', s')) (hdriven : w.isDriven = false)
    (hgo : w.result? = none) (hlog : w.logging? = none)
    (hstep : w.step s = (t, w₁, s₁, signals)) :
    ∃ happened y', Run Undisturbed (w', s') happened y' ∧ Follows g (w₁, s₁) y'
      ∧ contacts happened = (SessionDeed.program w s).contacts := by
  have hmove : Undisturbed (w, s) (.program w s) (w₁, s₁) := .step hgo hlog hstep
  have hlevel := h.behind.level_of_not_isDriven hdriven
  obtain ⟨clock, rfl⟩ := h.shared
  have hgo' : w'.result? = none := h.behind.result?.trans hgo
  have hlog' : w'.logging? = none := by
    rw [← logging?_bare (g := g), hlevel, logging?_bare]
    exact hlog
  have hdriven' : w'.isDriven = false := by
    rw [← isDriven_bare (g := g), hlevel, isDriven_bare]
    exact hdriven
  -- outside of scripts the hook plays no part, so that equal sights give equal steps
  have hbare : bareStep g (w'.step s) = bareStep g (w.step s) :=
    step_of_bare hlevel hdriven h.opens
  rw [hstep] at hbare
  obtain ⟨w₁', hstep', hbare⟩ := bareStep_cases hbare
  have hmove' : Undisturbed (w', s) (.program w' s) (w₁', s₁) := .step hgo' hlog' hstep'
  have hopens : (Machine.opened w₁'.interval).bare g = (Machine.opened w₁.interval).bare g := by
    rw [interval_of_steps (steps hgo' hstep'), interval_of_steps (steps hgo hstep)]
    exact h.opens
  -- the follower looks at the clock first, so that both see the same time
  refine ⟨[.clock, .program w' s], _, (Run.single (.clock s.clock)).tail hmove',
    ⟨hopens, .level hbare, ⟨s₁.clock, rfl⟩, h.quiet.move hmove⟩, ?_⟩
  show w'.asked s ++ (w'.step s).2.2.2.map .tells ++ [] = w.asked s ++ (w.step s).2.2.2.map .tells
  rw [List.append_nil, asked_of_not_isDriven hdriven', asked_of_not_isDriven hdriven, hstep', hstep]

/-- **A move is followed**, and what passes between the program and its surroundings is the same. -/
theorem Follows.move {x x' y : Worker × Shared} {l : SessionDeed} (h : Follows g x x')
    (hmove : Undisturbed x l y) (hsteady : ∀ w s, l = .program w s → g.Allows w.strays) :
    ∃ happened y', Run Undisturbed x' happened y' ∧ Follows g y y'
      ∧ contacts happened = l.contacts := by
  obtain ⟨w', s'⟩ := x'
  have hquiet := h.quiet.move hmove
  cases hmove with
  | @step w _ s _ _ _ hgo hlog hstep =>
    cases hdriven : w.isDriven with
    -- while a script is driven the follower may need other steps; all other moves it makes alike
    | true =>
      obtain ⟨e, hengine⟩ := engine_of_isDriven hdriven
      exact h.driven hdriven hengine hlog hstep (hsteady w s rfl)
    | false => exact h.between hdriven hgo hlog hstep
  | @logged w s line panic hgo hlog =>
    obtain ⟨clock, rfl⟩ := h.shared
    have hlevel := h.behind.level_of_logging? hlog
    have hlog' : w'.logging? = some line := by
      rw [← logging?_bare (g := g), hlevel, logging?_bare]
      exact hlog
    have hbare : (w'.logged panic).bare g = (w.logged panic).bare g := by
      rw [logged_bare hlog', logged_bare hlog, hlevel]
    exact ⟨[.logged line panic], _, .single (.logged panic (h.behind.result?.trans hgo) hlog'),
      ⟨h.opens, .level hbare, ⟨clock, rfl⟩, hquiet⟩, rfl⟩
  | @host w s l host hl hdiagnostics =>
    obtain ⟨clock, rfl⟩ := h.shared
    refine ⟨[l], _, .single (.host hl hdiagnostics), ⟨h.opens, h.behind, ⟨clock, rfl⟩, hquiet⟩, ?_⟩
    exact List.append_nil _
  | @refused w s id i hrefused =>
    obtain ⟨clock, rfl⟩ := h.shared
    exact ⟨_, _, .single (.refused (s := { s with clock }) hrefused),
      ⟨h.opens, h.behind, ⟨clock, rfl⟩, hquiet⟩, rfl⟩
  | @clock w s now =>
    obtain ⟨clock, rfl⟩ := h.shared
    exact ⟨[], _, .refl, ⟨h.opens, h.behind, ⟨clock, rfl⟩, hquiet⟩, rfl⟩

/-- **A run is followed.** -/
theorem Follows.run {x x' y : Worker × Shared} {happened : List SessionDeed} (h : Follows g x x')
    (hrun : Run Undisturbed x happened y)
    (hsteady : ∀ w s, .program w s ∈ happened → g.Allows w.strays) :
    ∃ happened' y', Run Undisturbed x' happened' y' ∧ Follows g y y'
      ∧ contacts happened' = contacts happened := by
  induction hrun with
  | refl => exact ⟨[], x', .refl, h, rfl⟩
  | @tail happened y z l hrun hmove ih =>
    obtain ⟨before, y', hrun', hfollows, hsame⟩ := ih fun w s hdeed =>
      hsteady w s (List.mem_append_left _ hdeed)
    -- the move is answered by a run, which adds the same contacts
    obtain ⟨later, z', hrun'', hfollows', hsame'⟩ := hfollows.move hmove fun w s hdeed =>
      hsteady w s (List.mem_append_right _ (by rw [hdeed]; exact List.mem_singleton_self _))
    refine ⟨before ++ later, z', hrun'.trans hrun'', hfollows', ?_⟩
    rw [contacts_append, contacts_append, hsame, hsame']
    exact congrArg (contacts happened ++ ·) (List.append_nil _).symm

/-! ### Any two intervals -/

/-- How closely programs with two intervals can be compared. -/
def grain (interval interval' : Nat) : Grain :=
  if interval = 0 ↔ interval' = 0 then .fine else .coarse

theorem opened_grain (interval interval' : Nat) :
    (Machine.opened interval').bare (grain interval interval')
      = (Machine.opened interval).bare (grain interval interval') := by
  have hticket : (grain interval interval').kept (Machine.opened interval').hookTicket
      = (grain interval interval').kept (Machine.opened interval).hookTicket := by
    -- either both machines have a hook at first, or the grain forgets the tickets
    by_cases hboth : interval = 0 ↔ interval' = 0
    · by_cases hzero : interval = 0
      · rw [hzero, hboth.mp hzero]
      · unfold Machine.opened
        dsimp only
        rw [if_neg hzero, if_neg (mt hboth.mpr hzero)]
        rfl
    · unfold grain
      rw [if_neg hboth]
      rfl
  unfold Machine.bare
  rw [hticket]
  unfold Machine.opened
  simp [Thread.bare]

/-- **The interval of the hook is unobservable** as long as nothing is queued, unless one of the
two programs has no hook and a wrapped coroutine strays: then the same passes between the program
and its surroundings, and the program comes to the same. -/
theorem interval_unobservable {path : ByteArray} {interval : Nat} (interval' : Nat)
    {happened : List SessionDeed} {y : Worker × Shared}
    (hrun : Run Undisturbed ({ path, interval }, s) happened y)
    (hsteady : ∀ w s, .program w s ∈ happened → w.strays = true → (interval = 0 ↔ interval' = 0)) :
    ∃ happened' y', Run Undisturbed ({ path, interval := interval' }, s) happened' y'
      ∧ contacts happened' = contacts happened ∧ y'.1.result? = y.1.result?
      ∧ (∃ clock, y'.2 = { y.2 with clock }) ∧ Behind (grain interval interval') y.1 y'.1 := by
  have hfollows : Follows (grain interval interval') ({ path, interval }, s)
      ({ path, interval := interval' }, s) :=
    ⟨opened_grain interval interval', .level rfl, ⟨s.clock, rfl⟩, fun e hengine => nomatch hengine⟩
  -- where the script strays, both intervals have a hook or neither has
  have hallows : ∀ w s, .program w s ∈ happened → (grain interval interval').Allows w.strays :=
    fun w s hdeed hstrays => if_pos (hsteady w s hdeed hstrays)
  obtain ⟨happened', y', hrun', hfollows, hsame⟩ := hfollows.run hrun hallows
  exact ⟨happened', y', hrun', hsame, hfollows.behind.result?, hfollows.shared, hfollows.behind⟩

/-! ### A wrapped coroutine that strays -/

/-- So many steps of a program, as long as they are allowed. -/
def stepsWhile (allowed : Worker → Bool) : Nat → Worker × Shared → Worker × Shared
  | 0, x => x
  | n + 1, (w, s) =>
    if w.result?.isNone && w.logging?.isNone && allowed w then
      stepsWhile allowed n ((w.step s).2.1, (w.step s).2.2.1)
    else (w, s)

theorem run_stepsWhile (allowed : Worker → Bool) (n : Nat) (x : Worker × Shared) :
    ∃ happened, Run Undisturbed x happened (stepsWhile allowed n x)
      ∧ ∀ l ∈ happened, ∃ w s, l = .program w s ∧ allowed w = true := by
  induction n generalizing x with
  | zero => exact ⟨[], .refl, fun l hl => nomatch hl⟩
  | succ n ih =>
    obtain ⟨w, s⟩ := x
    unfold stepsWhile
    split
    · rename_i hall
      rw [Bool.and_eq_true, Bool.and_eq_true, Option.isNone_iff_eq_none,
        Option.isNone_iff_eq_none] at hall
      obtain ⟨⟨hgo, hlog⟩, hallowed⟩ := hall
      obtain ⟨later, hrun, hlater⟩ := ih ((w.step s).2.1, (w.step s).2.2.1)
      refine ⟨.program w s :: later, (Run.single (.step hgo hlog rfl)).trans hrun, ?_⟩
      -- the step just taken was allowed by the test, the later ones by induction
      rintro l (_ | ⟨_, hl⟩)
      · exact ⟨w, s, rfl, hallowed⟩
      · exact hlater l hl
    · exact ⟨[], .refl, fun l hl => nomatch hl⟩

/-- A program that sums up what a wrapped coroutine yields, and gives no robot. -/
def summing : Files :=
  { entries := [([[114]],
      some ("local f = coroutine.wrap(function(a) local b = coroutine.yield(a + 1) " ++
        "return a + b end) return \x7bf(1) + f(10)\x7d").toUTF8)] }

/-- A program that gives the error that a wrapped coroutine has raised. -/
def raising : Files :=
  { entries := [([[114]],
      some ("local _, e = pcall(coroutine.wrap(function() error(\x7b\x7d) end)) " ++
        "return e").toUTF8)] }

/-- The table of a module has been found without a constructor. -/
def isUnconstructed : WorkerResult → Bool
  | .failed .missingConstructor => true
  | _ => false

theorem isUnconstructed_iff {r : WorkerResult} :
    isUnconstructed r = true ↔ r = .failed .missingConstructor := by
  unfold isUnconstructed
  split <;> simp_all

/-- A module has been found to be no table. -/
def isNoTable : WorkerResult → Bool
  | .failed (.notATable _) => true
  | _ => false

/-- What a wrapped coroutine yields and gives is the same with the hook and without. -/
theorem interval_unobservable_summing : ∃ happened happened' y y',
    Run Undisturbed ({ path := ⟨#[114]⟩, interval := 0 }, { files := summing }) happened y
      ∧ Run Undisturbed ({ path := ⟨#[114]⟩, interval := 1000 }, { files := summing }) happened' y'
      ∧ contacts happened' = contacts happened
      ∧ y.1.result? = some (.failed .missingConstructor)
      ∧ y'.1.result? = some (.failed .missingConstructor) := by
  -- the program returns a table without a constructor
  have hends : (stepsWhile (fun w => !w.strays) 40
      ({ path := ⟨#[114]⟩, interval := 0 }, { files := summing })).1.result?.any isUnconstructed
      = true := by
    decide +kernel
  obtain ⟨happened, hrun, hsteps⟩ := run_stepsWhile (fun w => !w.strays) 40
    ({ path := ⟨#[114]⟩, interval := 0 }, { files := summing })
  generalize stepsWhile (fun w => !w.strays) 40
    ({ path := ⟨#[114]⟩, interval := 0 }, { files := summing }) = last at hends hrun
  -- none of these steps strays
  have hsteady : ∀ w s, .program w s ∈ happened → w.strays = true → (0 = 0 ↔ 1000 = 0) := by
    intro w s hdeed hstrays
    obtain ⟨_, _, hl, hallowed⟩ := hsteps _ hdeed
    cases hl
    rw [hstrays] at hallowed
    cases hallowed
  obtain ⟨happened', y', hrun', hcontacts, hresult, -⟩ := interval_unobservable 1000 hrun hsteady
  have hdone : last.1.result? = some (.failed .missingConstructor) := by
    obtain ⟨result, hdone, hends⟩ := (Option.any_eq_true _ _).mp hends
    exact hdone.trans (congrArg some (isUnconstructed_iff.mp hends))
  exact ⟨happened, happened', last, y', hrun, hrun', hcontacts, hdone, hresult.trans hdone⟩

section Course

variable {log : List String → Option Payload} {n : Nat} {x y : Worker × Shared}

/-- The steps of a program are not others'. -/
theorem others_not_mem_contacts {happened : List SessionDeed}
    (h : ∀ l ∈ happened, ∃ w s, l = .program w s) (l : SessionDeed) :
    .others l ∉ contacts happened := by
  intro hl
  obtain ⟨l', hl', hcontact⟩ := List.mem_flatMap.mp hl
  obtain ⟨w, s, rfl⟩ := h l' hl'
  -- a step of the program asks or tells something, and neither is a deed of others
  rcases List.mem_append.mp hcontact with hasks | htells
  · unfold asked at hasks
    split at hasks
    · rename_i e _ _
      cases hq : e.asks? with
      | none =>
        rw [hq] at hasks
        cases hasks
      | some q =>
        rw [hq] at hasks
        exact nomatch List.mem_singleton.mp hasks
    · cases hasks
  · obtain ⟨x, -, hx⟩ := List.mem_map.mp htells
    cases hx

/-- Without others, a program stays on its course. -/
theorem Undisturbed.leaves {l : SessionDeed} (h : Undisturbed x l y)
    (hcourse : (Point.of x []).comesTo log n = true) (hothers : ∀ l', .others l' ∉ l.contacts) :
    ∃ m, (Point.of y []).comesTo log m = true
      ∧ (Point.of y []).after log m = (Point.of x []).after log n := by
  cases h with
  | step hgo hquiet hstep =>
    obtain ⟨m, -, hcomes, hafter⟩ :=
      (Alone.step hgo hquiet hstep).leaves hcourse fun _ _ hl => nomatch hl
    exact ⟨m, hcomes, hafter⟩
  | clock clock => exact ⟨n, hcourse, rfl⟩
  -- other parties do not interfere
  | host hl hdiagnostics =>
    rcases hl with ⟨rfl, -⟩ | rfl
    · exact absurd (List.mem_singleton_self _) (hothers .controller)
    · exact absurd (List.mem_singleton_self _) (hothers .exit)
  | logged panic hgo hlog => exact absurd (List.mem_singleton_self _) (hothers _)
  | refused hrefused => exact absurd (List.mem_singleton_self _) (hothers _)

/-- Without others, a program comes to what is at the end of its course. -/
theorem result_of_course (hcourse : (Point.of x []).comesTo log n = true)
    {happened : List SessionDeed} (hrun : Run Undisturbed x happened y)
    (hothers : ∀ l, .others l ∉ contacts happened) (hover : y.1.result?.isSome = true) :
    y.1.result? = ((Point.of x []).after log n).worker.result? := by
  -- along the run the course stays the same, with fewer and fewer steps to go
  have hend : ∃ m, (Point.of y []).comesTo log m = true
      ∧ (Point.of y []).after log m = (Point.of x []).after log n := by
    clear hover
    induction hrun with
    | refl => exact ⟨n, hcourse, rfl⟩
    | @tail happened y z l hrun hmove ih =>
      rw [contacts_append] at hothers
      obtain ⟨m, hcomes, hafter⟩ := ih fun l hl => hothers l (List.mem_append_left _ hl)
      have hlast : ∀ l', .others l' ∉ l.contacts := fun l' hl' =>
        hothers l' (List.mem_append_right _
          (List.mem_flatMap.mpr ⟨l, List.mem_singleton_self l, hl'⟩))
      obtain ⟨k, hcomes', hafter'⟩ := hmove.leaves hcomes hlast
      exact ⟨k, hcomes', hafter'.trans hafter⟩
  obtain ⟨m, hcomes, hafter⟩ := hend
  -- it is over here, so that no step is left
  have hzero : (Point.of y []).comesTo log 0 = true := hover
  obtain rfl := Point.comesTo_unique hcomes hzero
  exact congrArg (fun p => p.worker.result?) hafter

end Course

/-- **An error that a wrapped coroutine has raised is another value with the hook**, and the program
may come to something else. -/
theorem interval_observable : ¬∀ (path : ByteArray) (interval interval' : Nat) (s : Shared)
    (happened : List SessionDeed) (y : Worker × Shared),
    Run Undisturbed ({ path, interval }, s) happened y →
    ∃ happened' y', Run Undisturbed ({ path, interval := interval' }, s) happened' y'
      ∧ contacts happened' = contacts happened ∧ y'.1.result? = y.1.result? := by
  intro hclaim
  let log : List String → Option Payload := fun _ => none
  -- without the hook, a table comes out, but there is no constructor in it
  have hplain : (stepsWhile (fun _ => true) 40
      ({ path := ⟨#[114]⟩, interval := 0 }, { files := raising })).1.result?.any isUnconstructed
      = true := by
    decide +kernel
  -- with the hook, it is no table
  have hhooked : (fun p : Point => p.comesTo log 10
      && (p.after log 10).worker.result?.any isNoTable)
      (Point.of ({ path := ⟨#[114]⟩, interval := 1000 }, { files := raising }) []) = true := by
    decide +kernel
  rw [Bool.and_eq_true] at hhooked
  obtain ⟨hcourse, hhooked⟩ := hhooked
  obtain ⟨happened, hrun, hsteps⟩ := run_stepsWhile (fun _ => true) 40
    ({ path := ⟨#[114]⟩, interval := 0 }, { files := raising })
  generalize stepsWhile (fun _ => true) 40
    ({ path := ⟨#[114]⟩, interval := 0 }, { files := raising }) = last at hplain hrun
  obtain ⟨happened', y', hrun', hcontacts, hresult⟩ := hclaim _ 0 1000 _ _ _ hrun
  have hothers : ∀ l, .others l ∉ contacts happened' := by
    rw [hcontacts]
    exact others_not_mem_contacts fun l hl => (hsteps l hl).imp fun w h => h.imp fun s h => h.1
  obtain ⟨result, hdone, hplain⟩ := (Option.any_eq_true _ _).mp hplain
  obtain rfl := isUnconstructed_iff.mp hplain
  have hover : y'.1.result?.isSome = true := by
    rw [hresult, hdone]
    rfl
  rw [← result_of_course hcourse hrun' hothers hover, hresult, hdone] at hhooked
  cases hhooked

end Worker

end RobotSession
