import RobotSession.Proofs.Engine.Slumber
import RobotSession.Proofs.Lua.Stray

/-!
# What a sleep comes to

A sleep of a script returns `true` when it has delivered calls, and `false` at its deadline. Here
it is followed from its first question to its return, while other threads post whenever they like
and the calls that it delivers do whatever they like, such as sleeping themselves.

Until the flag is found set, a sleep only asks, and nothing is taken: whatever is posted is queued
behind what was there. So a sleep that returns `false` has lost no call, not even one that was
posted after its last look. Once the flag is found set a call is queued, and nobody but the sleep
can take it: so a sleep that returns `true` has taken a call in its own round, and has gone on until
there was no other one.

* `Slumber.Sleeping` — a sleep that is under way, with what has become of the calls.
* `Slumber.Ends` — the ways in which it ends.
* `Slumber.Sleeping.move` — each move leaves it under way, or ends it.
* `Slumber.sleeps_of_sound` — so it is with every sleep, in every interleaving.
-/

namespace RobotSession

open Lua

/-! ### Answers to a sleep -/

namespace Lua

/-- Why a sleep is rejected. -/
def Library.Robot.rejection? (seconds : Float) : Option String :=
  match Number.Duration.ofSeconds seconds with
  | .error f =>
    let reason := f.message
    some s!"invalid sleep duration: {reason}"
  | .ok d => if longestSleep ≤ d.seconds then some "sleep duration too long" else none

/-- **A duration that is rejected is an error**, and nothing is asked for. -/
theorem Library.Robot.sleep_of_rejection {args : List Value} {seconds : Float} {h h' : Heap}
    {reason : String} (harg : Exchange.first args Exchange.float h = (.ok seconds, h'))
    (hrejected : rejection? seconds = some reason) :
    sleep args h = (.error (.host (.runtime reason)), h') := by
  unfold sleep
  rw [Body.bind_of_ok harg]
  -- the conversion fails, or the duration is too long
  unfold rejection? at hrejected
  split at hrejected
  · rename_i f hfault
    obtain rfl := Option.some.inj hrejected
    rw [hfault]
    rfl
  · rename_i d hduration
    rw [hduration]
    dsimp only
    split at hrejected
    · obtain rfl := Option.some.inj hrejected
      rw [if_pos ‹_›]
      rfl
    · cases hrejected

/-- Any other duration is slept for. -/
theorem Library.Robot.sleep_of_accepted {args : List Value} {seconds : Float} {h h' : Heap}
    (harg : Exchange.first args Exchange.float h = (.ok seconds, h'))
    (haccepted : rejection? seconds = none) :
    ∃ d, Number.Duration.ofSeconds seconds = .ok d
      ∧ sleep args h = (.ok (.ask (.sleepStart d.nanoseconds)), h') := by
  unfold sleep
  rw [Body.bind_of_ok harg]
  -- the conversion has worked, and the duration is short enough
  unfold rejection? at haccepted
  split at haccepted
  · cases haccepted
  · rename_i d hduration
    refine ⟨d, hduration, ?_⟩
    rw [hduration]
    dsimp only
    split at haccepted
    · cases haccepted
    · rw [if_neg ‹_›]
      rfl

namespace Machine

variable {m : Machine} {deadline : Nat}

theorem mode_answer_sleepStart {duration : Nat}
    (hmode : m.mode = .ask (.native (.sleepStart duration))) (now : Nat) :
    (m.answer (.time now)).mode = .ask (.native (.sleepCheck (now + duration))) := by
  rw [answer_of_mode hmode]
  rfl

theorem mode_answer_sleepCheck (hmode : m.mode = .ask (.native (.sleepCheck deadline))) :
    (m.answer (.flag false)).mode = .ask (.native (.sleepClock deadline)) := by
  rw [answer_of_mode hmode]
  rfl

theorem mode_answer_sleepCheck_flag (hmode : m.mode = .ask (.native (.sleepCheck deadline))) :
    (m.answer (.flag true)).mode = .ask (.drainTake .sleep) := by
  rw [answer_of_mode hmode]
  rfl

/-- A sleep ends at its deadline, and waits before. -/
theorem mode_answer_sleepClock (hmode : m.mode = .ask (.native (.sleepClock deadline)))
    (now : Nat) :
    deadline ≤ now ∧ (m.answer (.time now)).mode = .give [.bool false]
      ∨ (m.answer (.time now)).mode = .ask (.native (.sleepWait deadline)) := by
  rw [answer_of_mode hmode]
  -- the clock decides between giving up and waiting for what is left
  by_cases hle : deadline ≤ now
  · refine .inl ⟨hle, ?_⟩
    unfold answer act Body.toAct Request.withAnswer
    dsimp only
    rw [if_pos hle]
    rfl
  · refine .inr ?_
    unfold answer act Body.toAct Request.withAnswer
    dsimp only
    rw [if_neg hle]
    rfl

/-- A sleep that has delivered calls, and finds no other one, returns. -/
theorem mode_answer_drained (hmode : m.mode = .ask (.drainTake .sleep)) :
    (m.answer (.invocation none)).mode = .give [.bool true] := by
  have hnone : ∀ i, Answer.invocation none ≠ .invocation (some i) := fun i hi => nomatch hi
  rw [answer_drainTake hmode hnone]
  rfl

section Called

variable {id : Nat} {captured args : List Value} {origin : Origin} {isMeta : Bool} {heap : Heap}

/-- A sleep is called: the machine does what the built-in function comes to. -/
theorem step_sleep (hmode : m.mode = .call (.func id) args origin isMeta)
    (hf : m.heap.function id = .native .robotSleep captured) :
    m.step = m.act (Library.Robot.sleep args) (some .robotSleep) origin := by
  unfold step
  rw [hmode]
  dsimp only
  unfold callValue
  dsimp only
  rw [hf]
  rfl

end Called

end Machine
end Lua

namespace Slumber

variable {x₀ x y z : Slumber} {l : SlumberDeed} {happened after : List SlumberDeed}
  {duration deadline : Nat}

/-! ### Moves of a history -/

/-- Nanoseconds since the engine was opened. -/
def time (x : Slumber) : Nat :=
  x.shared.clock - x.engine.openedAt

/-- **A move of a history**: it led from `y` to `z`, and this has happened since. -/
structure Went (x₀ : Slumber) (happened : List SlumberDeed) (x y : Slumber) (l : SlumberDeed)
    (z : Slumber) (after : List SlumberDeed) : Prop where
  before : ∃ before, happened = before ++ l :: after ∧ Run Move x₀ before y
  move : Move y l z
  later : Run Move z after x

theorem Went.last (hrun : Run Move x₀ happened x) (hmove : Move x l y) :
    Went x₀ (happened ++ [l]) y x l y [] :=
  ⟨⟨happened, rfl, hrun⟩, hmove, .refl⟩

theorem Went.next {l' : SlumberDeed} {x' : Slumber} (h : Went x₀ happened x y l z after)
    (hmove : Move x l' x') : Went x₀ (happened ++ [l']) x' y l z (after ++ [l']) := by
  obtain ⟨⟨before, rfl, hbefore⟩, hstep, hlater⟩ := h
  exact ⟨⟨before, by rw [List.append_assoc]; rfl, hbefore⟩, hstep, .tail hlater hmove⟩

/-! ### A sleep under way -/

/-- **Nothing has been taken**: what has been posted meanwhile is queued behind what was there. -/
structure Quiet (x₀ : Slumber) (happened : List SlumberDeed) (x : Slumber) : Prop where
  rounds : x.rounds = x₀.rounds
  queue : x.inbox.queue = x₀.inbox.queue ++ queued happened
  takes : ∀ reason found, .own (.take reason found) ∉ happened

/-- The deadline lies a span after the time at which the sleep began. -/
def Began (x₀ : Slumber) (duration : Nat) (happened : List SlumberDeed) (x : Slumber)
    (deadline : Nat) : Prop :=
  ∃ y z after, Went x₀ happened x y (.own .serve) z after
    ∧ y.mode = .ask (.native (.sleepStart duration)) ∧ deadline = z.time + duration

/-- **The last look at the flag** saw nothing pending: no call was queued, but perhaps one whose
post had still to set the flag. What has been posted since is queued. -/
def Checked (x₀ : Slumber) (happened : List SlumberDeed) (x : Slumber) (deadline : Nat) : Prop :=
  ∃ y z after, Went x₀ happened x y (.own .serve) z after ∧ .own .serve ∉ after
    ∧ y.mode = .ask (.native (.sleepCheck deadline)) ∧ y.inbox.isPending = false
    ∧ (y.inbox.queue = [] ∨ y.posting = some .pushed)
    ∧ x.inbox.queue = y.inbox.queue ++ queued after

/-- **A sleep that is under way**, since the state `x₀` in which it began. -/
inductive Sleeping (x₀ : Slumber) (duration : Nat) (happened : List SlumberDeed) (x : Slumber) :
    Prop
  | begins (hmode : x.mode = .ask (.native (.sleepStart duration))) (hquiet : Quiet x₀ happened x)
  | checks (deadline : Nat) (hmode : x.mode = .ask (.native (.sleepCheck deadline)))
      (hquiet : Quiet x₀ happened x) (hbegan : Began x₀ duration happened x deadline)
  | clocks (deadline : Nat) (hmode : x.mode = .ask (.native (.sleepClock deadline)))
      (hquiet : Quiet x₀ happened x) (hbegan : Began x₀ duration happened x deadline)
      (hchecked : Checked x₀ happened x deadline)
  | waits (deadline : Nat) (hmode : x.mode = .ask (.native (.sleepWait deadline)))
      (hquiet : Quiet x₀ happened x) (hbegan : Began x₀ duration happened x deadline)
  /-- It delivers calls, in a round of its own; the rounds above are of other deliveries that the
  calls have begun. Before the first call has been taken, one is queued. -/
  | drains (above : List Round) (calls : List Invocation)
      (hrounds : x.rounds = above ++ ⟨.sleep, calls⟩ :: x₀.rounds)
      (hfirst : calls = [] →
        above = [] ∧ x.mode = .ask (.drainTake .sleep) ∧ x.inbox.queue ≠ [])

/-- **The ways in which a sleep ends** with a move. -/
inductive Ends (x₀ : Slumber) (duration : Nat) (happened : List SlumberDeed) (x : Slumber) :
    SlumberDeed → Slumber → Prop
  /-- Its own round has taken calls, and finds the queue empty: it returns `true`. -/
  | drained {y : Slumber} (calls : List Invocation) (hcalls : calls ≠ [])
      (hrounds : x.rounds = ⟨.sleep, calls⟩ :: x₀.rounds) (hqueue : x.inbox.queue = [])
      (hafter : y.rounds = x₀.rounds) (hvalue : y.mode = .give [.bool true]) :
      Ends x₀ duration happened x (.own (.take .sleep none)) y
  /-- The deadline has passed, the last look saw nothing pending, and nothing has been taken: it
  returns `false`, and what has been posted stays queued. -/
  | expired {y : Slumber} (deadline : Nat) (hbegan : Began x₀ duration happened x deadline)
      (hchecked : Checked x₀ happened x deadline) (hquiet : Quiet x₀ happened x)
      (hdeadline : deadline ≤ y.time) (hinbox : y.inbox = x.inbox)
      (hafter : y.rounds = x₀.rounds) (hvalue : y.mode = .give [.bool false]) :
      Ends x₀ duration happened x (.own .serve) y
  /-- A panic leaves it while it delivers calls, and it returns nothing. -/
  | forsaken {y : Slumber} (h : Machine.Forsaken .sleep x.engine.machine)
      (hafter : y.rounds = x₀.rounds) : Ends x₀ duration happened x (.own .step) y

/-! ### Moves around a sleep -/

/-- **A move around the engine**, which goes on with nothing. -/
structure Around (x : Slumber) (l : SlumberDeed) (y : Slumber) : Prop where
  engine : y.engine = x.engine
  rounds : y.rounds = x.rounds
  queue : y.inbox.queue = x.inbox.queue ++ queued [l]
  takes : ∀ reason found, l ≠ .own (.take reason found)
  serves : l ≠ .own .serve

/-- **Every move** is one around the engine, ends a wait, or is the engine's own. -/
theorem Move.cases (h : x.Sound) (hmove : Move x l y) :
    Around x l y
      ∨ (∃ deadline, x.mode = .ask (.native (.sleepWait deadline)) ∧ y = x.goOn
        ∧ (l = .looks ∨ l = .resumes))
      ∨ ∃ l' e' s', l = .own l' ∧ l'.isOwn = true ∧ l' ≠ .bind
        ∧ Engine.Move (x.engine, x.shared) l' (e', s')
        ∧ y = ⟨e', s', x.rest, x.posting, Engine.rounds (x.engine, x.shared) l' x.rounds⟩ := by
  cases hmove with
  | @own l' e' s' hawake hwaits hown hlock hmove =>
    -- binding touches the queue only, and counts as a move around the engine
    by_cases hbind : l' = .bind
    · subst hbind
      cases hmove with
      | bind r =>
        have hinbox := inbox_setInbox h x.inbox.bind
        refine .inl ⟨rfl, rfl, ?_, nofun, nofun⟩
        change (x.setInbox x.inbox.bind).inbox.queue = _
        rw [hinbox]
        exact (List.append_nil _).symm
    · exact .inr (.inr ⟨l', e', s', rfl, hown, hbind, hmove, rfl⟩)
  | finds hawake hlock hmode hready => exact .inr (.inl ⟨_, hmode, rfl, .inl rfl⟩)
  | resumes hwoken hlock =>
    obtain ⟨deadline, hmode⟩ := h.waits (by rw [hwoken]; exact nofun)
    exact .inr (.inl ⟨deadline, hmode, rfl, .inr rfl⟩)
  | push i hlock hqueued =>
    -- the call is in the queue before the flag says so
    obtain ⟨hpost, -⟩ := post_of_queued hqueued
    have hinbox := inbox_setInbox h { (x.inbox.post i).2 with isPending := x.inbox.isPending }
    refine .inl ⟨rfl, rfl, ?_, nofun, nofun⟩
    change (x.setInbox _).inbox.queue = _
    rw [hinbox, hpost]
    rfl
  | flag hposting =>
    have hinbox := inbox_setInbox h { x.inbox with isPending := true }
    refine .inl ⟨rfl, rfl, ?_, nofun, nofun⟩
    change (x.setInbox _).inbox.queue = _
    rw [hinbox]
    exact (List.append_nil _).symm
  | elsewhere hinbox hsize =>
    refine .inl ⟨rfl, rfl, ?_, nofun, nofun⟩
    exact (congrArg Inbox.queue hinbox).trans (List.append_nil _).symm
  | sleeps | wakes | refused | ring | release =>
    exact .inl ⟨rfl, rfl, (List.append_nil _).symm, nofun, nofun⟩

theorem Quiet.next (h : Quiet x₀ happened x) (hrounds : y.rounds = x.rounds)
    (hqueue : y.inbox.queue = x.inbox.queue ++ queued [l])
    (htakes : ∀ reason found, l ≠ .own (.take reason found)) : Quiet x₀ (happened ++ [l]) y where
  rounds := hrounds.trans h.rounds
  queue := by
    rw [hqueue, h.queue, queued_append, List.append_assoc]
  takes := by
    intro reason found hmem
    rcases List.mem_append.mp hmem with hbefore | hlast
    · exact h.takes reason found hbefore
    · exact htakes reason found (List.mem_singleton.mp hlast).symm

theorem Quiet.around (h : Quiet x₀ happened x) (ha : Around x l y) : Quiet x₀ (happened ++ [l]) y :=
  h.next ha.rounds ha.queue ha.takes

/-- A move that takes nothing and posts nothing. -/
theorem Quiet.of_eq (h : Quiet x₀ happened x) (hrounds : y.rounds = x.rounds)
    (hinbox : y.inbox.queue = x.inbox.queue) (hqueued : queued [l] = [])
    (htakes : ∀ reason found, l ≠ .own (.take reason found)) : Quiet x₀ (happened ++ [l]) y := by
  refine h.next hrounds ?_ htakes
  rw [hinbox, hqueued, List.append_nil]

theorem Began.next (h : Began x₀ duration happened x deadline) (hmove : Move x l y) :
    Began x₀ duration (happened ++ [l]) y deadline := by
  obtain ⟨z, z', after, hwent, hmode, hdeadline⟩ := h
  exact ⟨z, z', _, hwent.next hmove, hmode, hdeadline⟩

theorem Checked.around (h : Checked x₀ happened x deadline) (hmove : Move x l y)
    (ha : Around x l y) : Checked x₀ (happened ++ [l]) y deadline := by
  obtain ⟨z, z', after, hwent, hserves, hmode, hpending, hbefore, hqueue⟩ := h
  refine ⟨z, z', _, hwent.next hmove, fun hmem => ?_, hmode, hpending, hbefore, ?_⟩
  · rcases List.mem_append.mp hmem with hafter | hlast
    · exact hserves hafter
    · exact ha.serves (List.mem_singleton.mp hlast).symm
  · rw [ha.queue, hqueue, queued_append, List.append_assoc]

namespace Sleeping

/-- A sleep stays where it is while others move. -/
theorem around (h : Sleeping x₀ duration happened x) (hmove : Move x l y) (ha : Around x l y) :
    Sleeping x₀ duration (happened ++ [l]) y := by
  have hmode : y.mode = x.mode := congrArg (fun e => e.machine.mode) ha.engine
  cases h with
  | begins hx hquiet => exact .begins (hmode.trans hx) (hquiet.around ha)
  | checks deadline hx hquiet hbegan =>
    exact .checks deadline (hmode.trans hx) (hquiet.around ha) (hbegan.next hmove)
  | clocks deadline hx hquiet hbegan hchecked =>
    exact .clocks deadline (hmode.trans hx) (hquiet.around ha) (hbegan.next hmove)
      (hchecked.around hmove ha)
  | waits deadline hx hquiet hbegan =>
    exact .waits deadline (hmode.trans hx) (hquiet.around ha) (hbegan.next hmove)
  | drains above calls hrounds hfirst =>
    refine .drains above calls (ha.rounds.trans hrounds) fun hnil => ?_
    obtain ⟨habove, hx, hqueue⟩ := hfirst hnil
    -- a queue that was not empty is not emptied from outside
    refine ⟨habove, hmode.trans hx, ?_⟩
    rw [ha.queue]
    exact List.append_ne_nil_of_left_ne_nil hqueue _

/-- A sleep that has waited looks at the flag again. -/
theorem goOn (h : Sleeping x₀ duration happened x) (hmove : Move x l x.goOn)
    (hmode : x.mode = .ask (.native (.sleepWait deadline))) (hl : l = .looks ∨ l = .resumes) :
    Sleeping x₀ duration (happened ++ [l]) x.goOn := by
  have hqueued : queued [l] = [] := by
    rcases hl with rfl | rfl
    · rfl
    · rfl
  have htakes : ∀ reason found, l ≠ .own (.take reason found) := by
    rcases hl with rfl | rfl
    · exact nofun
    · exact nofun
  -- of all the stages only the waiting one can look again
  cases h with
  | waits deadline' hx hquiet hbegan =>
    exact .checks deadline' (mode_goOn hx) (hquiet.of_eq rfl rfl hqueued htakes) (hbegan.next hmove)
  | begins hx hquiet => exact nomatch hmode.symm.trans hx
  | checks deadline' hx hquiet hbegan => exact nomatch hmode.symm.trans hx
  | clocks deadline' hx hquiet hbegan hchecked => exact nomatch hmode.symm.trans hx
  | drains above calls hrounds hfirst =>
    refine .drains above calls hrounds fun hnil => ?_
    obtain ⟨-, hx, -⟩ := hfirst hnil
    exact nomatch hmode.symm.trans hx

/-! ### Questions -/

/-- An engine's own move does not leave it alone, unless it binds its inbox. -/
theorem not_isAround {l : Deed} (hown : l.isOwn = true) (hbind : l ≠ .bind) :
    ¬ l.isAround = true := by
  intro haround
  cases l with
  | bind => exact hbind rfl
  | post i answer => cases hown
  | elsewhere => cases hown
  | _ => cases haround

/-- Whether a request is a question of a sleep that nobody else has to answer. -/
def asksItself : Request → Bool
  | .sleepStart _ | .sleepCheck _ | .sleepClock _ => true
  | _ => false

/-- **A sleep that has asked** is answered, and its engine does nothing else. -/
theorem own_of_asks {l : Deed} {e' : Engine} {s' : Shared} {r : Request} (h : x.Sound)
    (hmode : x.mode = .ask (.native r)) (hr : asksItself r = true) (hown : l.isOwn = true)
    (hbind : l ≠ .bind) (hmove : Engine.Move (x.engine, x.shared) l (e', s')) :
    l = .serve ∧ ∃ t signals, x.engine.serve x.shared r.question = (t, e', s', signals) := by
  -- an idle engine rests at an ended machine, and this one is asking
  have hbusy : x.engine.task ≠ .idle := by
    intro hidle
    obtain ⟨result, hended⟩ := h.nested.engine.idle hidle
    exact nomatch hended.symm.trans hmode
  rcases Engine.move_of_ask hmode hbusy hmove with
    ⟨reason, hw, -⟩ | ⟨rfl, -, hserve | ⟨line, hlog⟩⟩ | ⟨-, haround⟩
  · cases hw
  · exact ⟨rfl, hserve⟩
  · cases r with
    | logging line => cases hr
    | _ => cases hlog
  · -- what happens around the engine is not the slumber's own, but for `bind`, which is excluded
    exact absurd haround (not_isAround hown hbind)

/-! ### Deliveries -/

/-- **A move of the engine while a sleep delivers calls.** -/
theorem drains_own {l : Deed} {e' : Engine} {s' : Shared} {above : List Round}
    {calls : List Invocation} (h : x.Sound)
    (hrounds : x.rounds = above ++ ⟨.sleep, calls⟩ :: x₀.rounds)
    (hfirst : calls = [] → above = [] ∧ x.mode = .ask (.drainTake .sleep) ∧ x.inbox.queue ≠ [])
    (hown : l.isOwn = true) (hbind : l ≠ .bind)
    (hmove : Engine.Move (x.engine, x.shared) l (e', s'))
    (hy : y = ⟨e', s', x.rest, x.posting, Engine.rounds (x.engine, x.shared) l x.rounds⟩) :
    Sleeping x₀ duration (happened ++ [.own l]) y ∨ Ends x₀ duration happened x (.own l) y := by
  have hnested : x.engine.Nested (above ++ ⟨.sleep, calls⟩ :: x₀.rounds) := hrounds ▸ h.nested
  -- before the first call has been taken, the engine looks for one
  have htakes : calls = [] → ∃ reason, l = .take reason x.inbox.pop.1 := by
    intro hnil
    obtain ⟨-, hmode, -⟩ := hfirst hnil
    rcases Engine.move_of_ask hmode hnested.not_idle hmove with
      ⟨reason, -, hl⟩ | ⟨-, htake, -⟩ | ⟨-, haround⟩
    · exact ⟨reason, hl⟩
    · exact absurd rfl htake
    · exact absurd haround (not_isAround hown hbind)
  have hproceeds := hnested.proceeds hmove
  rw [← hrounds] at hproceeds
  subst hy
  cases hproceeds with
  | keeps above' htake hkeeps =>
    refine .inl (.drains above' calls hkeeps fun hnil => ?_)
    obtain ⟨reason, hl⟩ := htakes hnil
    exact absurd hl (htake (hfirst hnil).1 _ _)
  | takes i habove hl htaken =>
    refine .inl (.drains [] (calls ++ [i]) htaken fun hnil => ?_)
    exact absurd hnil (List.append_ne_nil_of_right_ne_nil _ (List.cons_ne_nil _ _))
  | ends habove hl hends =>
    subst habove hl
    obtain ⟨hmode, hfound, he'⟩ := Engine.mode_of_take hmove
    have hqueue : x.inbox.queue = [] :=
      List.head?_eq_none_iff.mp ((Inbox.pop_head _).symm.trans hfound)
    refine .inr (.drained calls (fun hnil => (hfirst hnil).2.2 hqueue) hrounds hqueue hends ?_)
    rw [he']
    exact Machine.mode_answer_drained hmode
  | forsaken habove hl hpanic hends =>
    subst hl
    exact .inr (.forsaken hpanic hends)

/-- The clock is read for an engine, and nothing else changes. -/
theorem serve_clock {e e' : Engine} {s s' : Shared} {t : Turn} {signals : List Signal}
    (h : e.serve s .clock = (t, e', s', signals)) :
    e' = e.answer (.time (s'.clock - e.openedAt)) ∧ s'.inboxes = s.inboxes := by
  cases h
  exact ⟨rfl, rfl⟩

/-- The flag is read for an engine, and nothing else changes. -/
theorem serve_pending {e e' : Engine} {s s' : Shared} {t : Turn} {signals : List Signal}
    (h : e.serve s .pending = (t, e', s', signals)) :
    e' = e.answer (.flag (s.inbox e.id).isPending) ∧ s' = s := by
  cases h
  exact ⟨rfl, rfl⟩

/-- **Each move leaves a sleep under way, or ends it.** -/
theorem move (hs : Sleeping x₀ duration happened x) (h : x.Sound) (hrun : Run Move x₀ happened x)
    (hmove : Move x l y) :
    Sleeping x₀ duration (happened ++ [l]) y ∨ Ends x₀ duration happened x l y := by
  rcases hmove.cases h with ha | ⟨deadline, hmode, rfl, hl⟩ | ⟨l', e', s', rfl, hown, hbind, hm, hy⟩
  · exact .inl (hs.around hmove ha)
  · exact .inl (hs.goOn hmove hmode hl)
  · -- the engine goes on: it is answered, or delivers calls
    cases hs with
    | begins hmode hquiet =>
      obtain ⟨rfl, t, signals, hserve⟩ := own_of_asks h hmode rfl hown hbind hm
      obtain ⟨he', hinboxes⟩ := serve_clock hserve
      have hrounds : y.rounds = x.rounds := by
        rw [hy]
        exact Engine.rounds_serve (.inl (by rw [show x.engine.machine.mode = _ from hmode]; rfl))
      have hinbox : y.inbox = x.inbox := by
        rw [hy]
        change s'.inbox e'.id = _
        rw [he']
        exact congrArg (fun b : Array Inbox => b.getD x.engine.id {}) hinboxes
      have htime : y.time = s'.clock - x.engine.openedAt := by
        rw [hy, he']
        rfl
      refine .inl (.checks (y.time + duration) ?_ (hquiet.of_eq hrounds (by rw [hinbox]) rfl nofun)
        ⟨x, y, [], .last hrun hmove, hmode, rfl⟩)
      rw [htime, hy, he']
      exact Machine.mode_answer_sleepStart hmode _
    | checks deadline hmode hquiet hbegan =>
      obtain ⟨rfl, t, signals, hserve⟩ := own_of_asks h hmode rfl hown hbind hm
      obtain ⟨he', hs'⟩ := serve_pending hserve
      cases hpending : (x.shared.inbox x.engine.id).isPending with
      | true =>
        -- a call is queued, and a round of its own begins
        rw [hpending] at he'
        have hopens : x.engine.machine.mode.opens? = some .sleep := by
          rw [show x.engine.machine.mode = _ from hmode]
          rfl
        have hrounds : y.rounds = ⟨.sleep, []⟩ :: x₀.rounds := by
          rw [hy, ← hquiet.rounds]
          exact Engine.rounds_serve_pending hopens hpending
        refine .inl (.drains [] [] hrounds fun _ => ⟨rfl, ?_, ?_⟩)
        · rw [hy, he']
          exact Machine.mode_answer_sleepCheck_flag hmode
        · rw [hy, he', hs']
          exact h.queue_ne_nil hpending
      | false =>
        rw [hpending] at he'
        have hrounds : y.rounds = x.rounds := by
          rw [hy]
          exact Engine.rounds_serve (.inr hpending)
        have hinbox : y.inbox = x.inbox := by
          rw [hy, he', hs']
          rfl
        refine .inl (.clocks deadline ?_ (hquiet.of_eq hrounds (by rw [hinbox]) rfl nofun)
          (hbegan.next hmove) ⟨x, y, [], .last hrun hmove, List.not_mem_nil, hmode, hpending,
            h.queue_eq_nil hpending, ?_⟩)
        · rw [hy, he']
          exact Machine.mode_answer_sleepCheck hmode
        · rw [hinbox]
          exact (List.append_nil _).symm
    | clocks deadline hmode hquiet hbegan hchecked =>
      obtain ⟨rfl, t, signals, hserve⟩ := own_of_asks h hmode rfl hown hbind hm
      obtain ⟨he', hinboxes⟩ := serve_clock hserve
      have hrounds : y.rounds = x.rounds := by
        rw [hy]
        exact Engine.rounds_serve (.inl (by rw [show x.engine.machine.mode = _ from hmode]; rfl))
      have hinbox : y.inbox = x.inbox := by
        rw [hy]
        change s'.inbox e'.id = _
        rw [he']
        exact congrArg (fun b : Array Inbox => b.getD x.engine.id {}) hinboxes
      have htime : y.time = s'.clock - x.engine.openedAt := by
        rw [hy, he']
        rfl
      rcases Machine.mode_answer_sleepClock hmode (s'.clock - x.engine.openedAt) with
        ⟨hle, hvalue⟩ | hwait
      · refine .inr (.expired deadline hbegan hchecked hquiet ?_ hinbox
          (hrounds.trans hquiet.rounds) ?_)
        · rw [htime]
          exact hle
        · rw [hy, he']
          exact hvalue
      · refine .inl (.waits deadline ?_ (hquiet.of_eq hrounds (by rw [hinbox]) rfl nofun)
          (hbegan.next hmove))
        rw [hy, he']
        exact hwait
    | waits deadline hmode hquiet hbegan =>
      -- the engine does not move while its thread waits
      cases hmove with
      | own hawake hwaits hown hlock hm => exact absurd hmode (hwaits deadline)
    | drains above calls hrounds hfirst =>
      exact drains_own h hrounds hfirst hown hbind hm hy

end Sleeping

/-! ### Every sleep -/

/-- **A sleep that has ended** at some point of a history. -/
def Ended (x₀ : Slumber) (duration : Nat) (happened : List SlumberDeed) (x : Slumber) : Prop :=
  ∃ before l after y z, happened = before ++ l :: after ∧ Run Move x₀ before y ∧ Move y l z
    ∧ Run Move z after x ∧ Ends x₀ duration before y l z

theorem sleeping_of_run (h : x₀.Sound) (hmode : x₀.mode = .ask (.native (.sleepStart duration)))
    (hrun : Run Move x₀ happened x) :
    Sleeping x₀ duration happened x ∨ Ended x₀ duration happened x := by
  induction hrun with
  | refl =>
    exact .inl (.begins hmode ⟨rfl, (List.append_nil _).symm, fun _ _ => List.not_mem_nil⟩)
  | @tail happened y z l run step ih =>
    have hsound : y.Sound := run.invariant Sound.move h
    -- while the sleep is under way the step carries it on or ends it; a sleep that has ended stays
    -- described by the deed that ended it
    rcases ih with hsleeping | ⟨before, l', after, w, w', rfl, hbefore, hmove, hafter, hends⟩
    · rcases hsleeping.move hsound run step with hnext | hends
      · exact .inl hnext
      · exact .inr ⟨happened, l, [], y, z, rfl, run, step, .refl, hends⟩
    · refine .inr ⟨before, l', after ++ [l], w, w', ?_, hbefore, hmove, .tail hafter step, hends⟩
      rw [List.append_assoc]
      rfl

/-- **What becomes of the sleeps** of an engine, from one of its states on. -/
structure Sleeps (x₀ : Slumber) : Prop where
  /-- Nothing that is queued is slept through. -/
  attentive : ∀ happened x, Run Move x₀ happened x → x.Attentive
  /-- A sleep whose duration is rejected raises a failure that says why, and leaves the inbox and
  the rounds as they are; any other one begins. -/
  called : ∀ id captured args origin isMeta seconds heap y,
    x₀.mode = .call (.func id) args origin isMeta →
    x₀.engine.machine.heap.function id = .native .robotSleep captured →
    Library.Exchange.first args Library.Exchange.float x₀.engine.machine.heap
      = (.ok seconds, heap) →
    Move x₀ (.own .step) y →
    y.shared = x₀.shared ∧ y.rounds = x₀.rounds
      ∧ match Library.Robot.rejection? seconds with
        | some reason => y.engine.machine
          = Machine.raiseFailure { x₀.engine.machine with heap } (.runtime reason)
        | none => ∃ d, Number.Duration.ofSeconds seconds = .ok d
          ∧ y.mode = .ask (.native (.sleepStart d.nanoseconds))
  /-- A sleep that has begun is under way until it ends. -/
  goesOn : ∀ duration, x₀.mode = .ask (.native (.sleepStart duration)) →
    ∀ happened x, Run Move x₀ happened x →
      Sleeping x₀ duration happened x ∨ Ended x₀ duration happened x

theorem called_of_sound {id : Nat} {captured args : List Value} {origin : Origin} {isMeta : Bool}
    {seconds : Float} {heap : Heap} (hmode : x₀.mode = .call (.func id) args origin isMeta)
    (hf : x₀.engine.machine.heap.function id = .native .robotSleep captured)
    (harg : Library.Exchange.first args Library.Exchange.float x₀.engine.machine.heap
      = (.ok seconds, heap)) (hmove : Move x₀ (.own .step) y) :
    y.shared = x₀.shared ∧ y.rounds = x₀.rounds
      ∧ match Library.Robot.rejection? seconds with
        | some reason => y.engine.machine
          = Machine.raiseFailure { x₀.engine.machine with heap } (.runtime reason)
        | none => ∃ d, Number.Duration.ofSeconds seconds = .ok d
          ∧ y.mode = .ask (.native (.sleepStart d.nanoseconds)) := by
  -- a machine that calls is not unwinding
  have hkeeps : ∀ reason, ¬ Machine.Forsaken reason x₀.engine.machine := by
    rintro reason ⟨v, c, d, rest, fault, hunwind, -⟩
    exact nomatch hunwind.symm.trans hmode
  -- the one step there is of a machine that calls
  have hstep : y = { x₀ with
      engine := { x₀.engine with machine := x₀.engine.machine.step }
      rounds := Engine.rounds (x₀.engine, x₀.shared) .step x₀.rounds } := by
    cases hmove with
    | own hawake hwaits hown hlock hm =>
      cases hm with
      | step hgo => rfl
  subst hstep
  refine ⟨rfl, Engine.rounds_step hkeeps, ?_⟩
  cases hrejected : Library.Robot.rejection? seconds with
  | some reason =>
    exact (Machine.step_sleep hmode hf).trans
      (Machine.act_of_error (Library.Robot.sleep_of_rejection harg hrejected) _ _)
  | none =>
    obtain ⟨d, hd, hsleep⟩ := Library.Robot.sleep_of_accepted harg hrejected
    refine ⟨d, hd, ?_⟩
    change x₀.engine.machine.step.mode = _
    rw [Machine.step_sleep hmode hf, Machine.act_of_ok hsleep]
    rfl

/-- **No sleep misses or invents a call**, in whatever order it, the posts of other threads and the
clock move. This is so from every state in which the flag, the queue and the lock are in order; and
that they are, in every state that an engine comes to, is `Slumber.sound_of_run`. -/
theorem sleeps_of_sound (h : x₀.Sound) : Sleeps x₀ where
  attentive := fun _ _ hrun => (hrun.invariant Sound.move h).attentive
  called := fun _ _ _ _ _ _ _ _ hmode hf harg hmove => called_of_sound hmode hf harg hmove
  goesOn := fun _ hmode _ _ hrun => sleeping_of_run h hmode hrun

/-- A script that has just begun to sleep. -/
def dozing (duration : Nat) : Slumber where
  engine :=
    { id := 0
      machine := { Machine.opened 0 with mode := .ask (.native (.sleepStart duration)) }
      task := .start
      openedAt := 0 }
  shared := { inboxes := #[{ isBound := true }] }

theorem sound_dozing (duration : Nat) : (dozing duration).Sound := by
  have hopened := Machine.Sound.opened 0
  -- what the machine waits for does not show in its outline
  have houtline : ∀ (m : Machine) (mode : Mode), ({ m with mode } : Machine).outline = m.outline :=
    fun _ _ => rfl
  have hsame := houtline (Machine.opened 0) (.ask (.native (.sleepStart duration)))
  have hsound := hopened.outline
  rw [← hsame] at hsound
  have hgathered := Machine.gathered_opened 0
  rw [← hsame] at hgathered
  have hmain := Outline.Nests.main hopened.outline rfl rfl
  rw [← hsame] at hmain
  exact ⟨⟨⟨⟨hsound, nofun, nofun⟩, nofun⟩, hgathered, Machine.nests_of_drain_none hmain rfl⟩,
    Nat.zero_lt_one, fun _ => ⟨rfl, fun hqueue => absurd rfl hqueue, nofun⟩, nofun, nofun,
    fun hrest => absurd rfl hrest⟩

/-- The engine is answered. -/
theorem Move.serves {w : Waiting} (hawake : x.rest = .awake) (hmode : x.mode = .ask w)
    (htake : w.question ≠ .take) (hwait : ∀ deadline, w ≠ .native (.sleepWait deadline)) :
    Move x (.own .serve)
      { x with
        engine := (x.engine.serve x.shared w.question).2.1
        shared := (x.engine.serve x.shared w.question).2.2.1
        rounds := Engine.rounds (x.engine, x.shared) .serve x.rounds } :=
  .own hawake (fun deadline h => hwait deadline (Mode.ask.inj (hmode.symm.trans h))) rfl nofun
    (.serve hmode htake rfl)

/-- A call is posted between the last look at the flag and the wait: the sleep does not fall asleep,
takes the call, and returns `true`. -/
theorem sleeps_of_sound_dozing : ∃ happened x,
    (dozing 1000000).Sound ∧ Run Move (dozing 1000000) happened x
      ∧ queued happened = [.finish] ∧ x.mode = .give [.bool true]
      ∧ Ended (dozing 1000000) 1000000 happened x := by
  -- the routine checks the inbox, reads the clock and is about to wait
  have hbegun : Run Move (dozing 1000000) _ _ :=
    .tail (.tail (.single (.serves rfl rfl nofun nofun)) (.serves rfl rfl nofun nofun))
      (.serves rfl rfl nofun nofun)
  -- the post comes between the check and the wait: pushed, flagged, rung, with nobody asleep to
  -- hear it
  have hposted := Run.tail (Run.tail (Run.tail (Run.tail hbegun (.push .finish rfl rfl)) (.flag rfl))
    (.ring rfl)) (.release rfl)
  -- the wait finds the flag set and does not fall asleep, and the drain takes the end
  have hwoken := Run.tail (Run.tail hposted (.finds rfl rfl rfl rfl)) (.serves rfl rfl nofun nofun)
  have htaken := Run.tail (Run.tail hwoken (.own rfl nofun rfl (fun _ => rfl) (.take rfl)))
    (.own rfl nofun rfl (fun _ => rfl) (.take rfl))
  refine ⟨_, _, sound_dozing _, htaken, rfl, rfl, ?_⟩
  refine ((sleeps_of_sound (sound_dozing 1000000)).goesOn 1000000 rfl _ _ htaken).resolve_left ?_
  -- the machine gives `true` now, so each stage of a sleep still under way is excluded by its mode,
  -- and a drain by the rounds it would stand on
  intro hsleeping
  cases hsleeping with
  | begins hmode hquiet => cases hmode
  | checks deadline hmode hquiet hbegan => cases hmode
  | clocks deadline hmode hquiet hbegan hchecked => cases hmode
  | waits deadline hmode hquiet hbegan => cases hmode
  | drains above calls hrounds hfirst =>
    exact absurd hrounds.symm (List.append_ne_nil_of_right_ne_nil _ (List.cons_ne_nil _ _))

end Slumber
end RobotSession
