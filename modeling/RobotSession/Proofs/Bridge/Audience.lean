import RobotSession.Proofs.Bridge.Phases

/-!
# Waiting for a phase

Any number of threads read the phase of a session, and wait until it has come to a certain one. A
wait takes the lock of the slot, and answers at once if the phase has come; otherwise it falls
asleep, which gives the lock back, and looks again whenever it has been woken, until its time is
over. The worker writes a phase and wakes whoever sleeps before it gives the lock back.

Between these two pieces a thread may sleep although the phase has come that it waits for; then the
worker has still to ring. So nobody sleeps on when the lock is free, whichever phases the worker
has skipped, and whatever panic has made it skip them.

* `Audience`, `Audience.Move` — a session, the threads that wait, and the moves.
* `Audience.shown`, `readings` — the phases of a session, and those that were read.
* `Audience.Sound` — what holds between any two moves.
* `Audience.Informed` — what the threads are told.
* `Audience.informed_of_run` — so they are in every interleaving.
-/

namespace RobotSession

open Lua (Payload)

/-! ### States and moves -/

/-- **How far a thread has come** that waits for a phase. -/
inductive Watch
  /-- It does not wait. -/
  | away
  /-- It has still to look at the slot for the first time. -/
  | asks (p : WorkerPhase) (timeout : Nat)
  /-- It sleeps since it has looked in vain, and will be woken when its time is over. -/
  | asleep (p : WorkerPhase) (since timeout : Nat)
  /-- It has been woken, because its time is over or for another reason, and needs the lock. -/
  | woken (p : WorkerPhase) (since timeout : Nat) (late : Bool)
  deriving DecidableEq

namespace Watch

/-- The phase that is waited for. -/
def phase? : Watch → Option WorkerPhase
  | .away => none
  | .asks p _ | .asleep p .. | .woken p .. => some p

/-- The phase that is looked for as soon as the lock is free. -/
def looks? : Watch → Option WorkerPhase
  | .asks p _ | .woken p .. => some p
  | _ => none

/-- When the wait has begun, and how long it may last. -/
def span? : Watch → Option (WorkerPhase × Nat × Nat)
  | .asleep p since timeout | .woken p since timeout _ => some (p, since, timeout)
  | _ => none

/-- The bell has been rung. -/
def roused : Watch → Watch
  | .asleep p since timeout => .woken p since timeout false
  | v => v

/-- Nobody who has been roused is asleep. -/
theorem roused_ne_asleep (v : Watch) {p : WorkerPhase} {since timeout : Nat} :
    v.roused ≠ .asleep p since timeout := by
  cases v with
  | _ => exact nofun

/-- It is known since when, and for how long, a thread has been waiting. -/
theorem span?_roused (v : Watch) : v.roused.span? = v.span? := by
  cases v with
  | _ => rfl

/-- It is known for which phase. -/
theorem phase?_roused (v : Watch) : v.roused.phase? = v.phase? := by
  cases v with
  | _ => rfl

/-- Only who sleeps does not look. -/
theorem looks?_of_ne_asleep {v : Watch} (h : ∀ p since timeout, v ≠ .asleep p since timeout) :
    v.looks? = v.phase? := by
  cases v with
  | asleep p since timeout => exact absurd rfl (h p since timeout)
  | _ => rfl

end Watch

/-- **How far the worker has come** that has written a phase, and has the lock of the slot. -/
inductive Ringing
  /-- Whoever sleeps has still to be woken. -/
  | due
  | rung
  deriving DecidableEq

/-- **A session and the threads that wait for its phases.** -/
structure Audience where
  worker : Worker
  shared : Shared
  bell : Option Ringing := none
  watch : Nat → Watch := fun _ => .away

/-- **What happens** in a session to whose phases others attend. -/
inductive AudienceDeed
  /-- The worker takes a step from this state, for which it takes the lock if it needs it. -/
  | step (w : Worker) (s : Shared)
  /-- A panic comes up. -/
  | unwinds
  /-- The worker wakes who sleeps. -/
  | rings
  /-- The worker gives the lock back. -/
  | leaves
  /-- The log answers, or other threads move. -/
  | aside
  /-- A thread begins to wait. -/
  | asks (thread : Nat) (p : WorkerPhase) (timeout : Nat)
  | answers (thread : Nat) (p : WorkerPhase) (reached : Bool)
  | sleeps (thread : Nat)
  /-- Who sleeps wakes up: its time is over, or there is no reason. -/
  | wakes (thread : Nat)
  /-- The phase is read, by itself or with the rest of the slot. -/
  | reads (p : WorkerPhase)

namespace Audience

/-- The phase that the worker has come to. -/
def phase (x : Audience) : WorkerPhase :=
  x.shared.slot.phase

/-- A thread goes on with its wait. -/
def setWatch (x : Audience) (t : Nat) (v : Watch) : Audience :=
  { x with watch := fun u => if u = t then v else x.watch u }

/-- **The moves** of a session and of the threads that attend to it. -/
inductive Move : Audience → AudienceDeed → Audience → Prop
  | step {x : Audience} {w' : Worker} {s' : Shared} {turn : WorkerTurn} {signals : List Signal}
      (hlock : x.bell = none) (hgo : x.worker.result? = none)
      (h : x.worker.step x.shared = (turn, w', s', signals)) :
      Move x (.step x.worker x.shared)
        { x with
          worker := w'
          shared := s'
          bell := if x.worker.stage.rings then some .due else none }
  | unwinds {x : Audience} {stage : Worker.Stage} (hlock : x.bell = none)
      (h : x.worker.stage.Unwinds stage) :
      Move x .unwinds { x with worker := { x.worker with stage } }
  | rings {x : Audience} (h : x.bell = some .due) :
      Move x .rings { x with bell := some .rung, watch := fun t => (x.watch t).roused }
  | leaves {x : Audience} (h : x.bell = some .rung) : Move x .leaves { x with bell := none }
  | logged {x : Audience} (panic : Option Payload) :
      Move x .aside { x with worker := x.worker.logged panic }
  -- others may change anything but the slot, which only the worker writes
  | aside {x : Audience} {s' : Shared} (hslot : s'.slot = x.shared.slot)
      (hclock : x.shared.clock ≤ s'.clock) : Move x .aside { x with shared := s' }
  | asks {x : Audience} (t : Nat) (p : WorkerPhase) (timeout : Nat) (haway : x.watch t = .away) :
      Move x (.asks t p timeout) (x.setWatch t (.asks p timeout))
  -- to look needs the lock, and what is found is answered before the lock is given back
  | sees {x : Audience} {t : Nat} {p : WorkerPhase} (hlock : x.bell = none)
      (hlooks : (x.watch t).looks? = some p) (h : x.shared.slot.reached p = true) :
      Move x (.answers t p true) (x.setWatch t .away)
  | givesUp {x : Audience} {t : Nat} {p : WorkerPhase} {since timeout : Nat} (hlock : x.bell = none)
      (hlate : x.watch t = .woken p since timeout true) (h : x.shared.slot.reached p = false) :
      Move x (.answers t p false) (x.setWatch t .away)
  | sleeps {x : Audience} {t : Nat} {p : WorkerPhase} {timeout : Nat} (hlock : x.bell = none)
      (hasks : x.watch t = .asks p timeout) (h : x.shared.slot.reached p = false) :
      Move x (.sleeps t) (x.setWatch t (.asleep p x.shared.clock timeout))
  | sleepsOn {x : Audience} {t : Nat} {p : WorkerPhase} {since timeout : Nat}
      (hlock : x.bell = none) (hwoken : x.watch t = .woken p since timeout false)
      (h : x.shared.slot.reached p = false) :
      Move x (.sleeps t) (x.setWatch t (.asleep p since timeout))
  | wakes {x : Audience} {t : Nat} {p : WorkerPhase} {since timeout : Nat} {late : Bool}
      (hasleep : x.watch t = .asleep p since timeout)
      (hlate : late = true → since + timeout ≤ x.shared.clock) :
      Move x (.wakes t) (x.setWatch t (.woken p since timeout late))
  | reads {x : Audience} (hlock : x.bell = none) : Move x (.reads x.phase) x

variable {x₀ x y z : Audience} {happened later : List AudienceDeed} {l : AudienceDeed} {t : Nat}
  {p q : WorkerPhase} {since timeout : Nat}

/-! ### What happened -/

/-- **The phases of a session**, in the order in which they were written. The first one is there from
the beginning. -/
def shown (happened : List AudienceDeed) : List WorkerPhase :=
  .pending :: happened.filterMap fun
    | .step w s => if w.stage.rings then some (w.step s).2.2.1.slot.phase else none
    | _ => none

/-- The phases that were read, in order. -/
def readings (happened : List AudienceDeed) : List WorkerPhase :=
  happened.filterMap fun
    | .reads p => some p
    | _ => none

/-- What is shown goes on with what is shown later. -/
theorem shown_append (happened later : List AudienceDeed) :
    shown (happened ++ later) = shown happened ++ (shown later).tail := by
  unfold shown
  rw [List.filterMap_append]
  rfl

/-- Readings are made one after the other. -/
theorem readings_append (happened later : List AudienceDeed) :
    readings (happened ++ later) = readings happened ++ readings later :=
  List.filterMap_append

/-- What has been shown stays on record. -/
theorem shown_subset (happened later : List AudienceDeed) :
    shown happened ⊆ shown (happened ++ later) := by
  rw [shown_append]
  exact List.subset_append_left _ _

/-- A session has been in a state, on its way. -/
def Passed (x₀ : Audience) (happened : List AudienceDeed) (x z : Audience) : Prop :=
  ∃ before after, happened = before ++ after ∧ Run Move x₀ before z ∧ Run Move z after x

/-- A wait has looked in vain for the first time at this moment, and has not answered since. -/
def Began (x₀ : Audience) (happened : List AudienceDeed) (t : Nat) (p : WorkerPhase)
    (since timeout : Nat) : Prop :=
  ∃ before z after, happened = before ++ .sleeps t :: after ∧ Run Move x₀ before z
    ∧ z.watch t = .asks p timeout ∧ z.shared.clock = since ∧ ∀ q r, .answers t q r ∉ after

/-! ### The phases of a session -/

/-- **A move** writes a later phase, which then belongs to the worker and for which the bell has to
be rung, or it leaves the phase as it is; and the slot goes on to show where the worker is. -/
theorem Move.shows (h : x.worker.Shows x.shared) (hmove : Move x l y) :
    y.worker.Shows y.shared
      ∧ (shown [l] = [.pending] ∧ y.phase = x.phase
        ∨ shown [l] = [.pending, y.phase] ∧ x.phase.rank < y.phase.rank
          ∧ y.worker.phase? = some y.phase ∧ y.bell = some .due) := by
  cases hmove with
  | step hlock hgo hstep =>
    refine ⟨h.step hgo hstep, ?_⟩
    unfold shown
    rw [List.filterMap_cons]
    dsimp only
    -- a stage rings exactly when its step changes the phase, and then the bell is due
    cases hrings : x.worker.stage.rings with
    | true =>
      obtain ⟨hrank, hphase⟩ := h.rings hgo hstep hrings
      rw [hstep]
      exact .inr ⟨rfl, hrank, hphase, rfl⟩
    | false => exact .inl ⟨rfl, (Worker.steps hgo hstep).phase hrings⟩
  | unwinds hlock hunwinds => exact ⟨h.unwinds hunwinds, .inl ⟨rfl, rfl⟩⟩
  | logged panic => exact ⟨h.logged panic, .inl ⟨rfl, rfl⟩⟩
  | aside hslot hclock => exact ⟨h.alike hslot, .inl ⟨rfl, congrArg Slot.phase hslot⟩⟩
  | _ => exact ⟨h, .inl ⟨rfl, rfl⟩⟩

/-! ### The threads that wait -/

/-- One thread at a time changes what it does. -/
theorem watch_setWatch (x : Audience) (t u : Nat) (v : Watch) :
    (x.setWatch t v).watch u = if u = t then v else x.watch u :=
  rfl

/-- **Who sleeps although its phase has come** will be woken. -/
def Attentive (x : Audience) : Prop :=
  ∀ t p since timeout, x.watch t = .asleep p since timeout → p.rank ≤ x.phase.rank →
    x.bell = some .due

/-- **Who is woken because its time is over** has waited that long. -/
def Timely (x : Audience) : Prop :=
  ∀ t p since timeout, x.watch t = .woken p since timeout true → since + timeout ≤ x.shared.clock

/-- A phase that has not been reached is a later one. -/
theorem rank_lt_of_not_reached (h : x.shared.slot.reached p = false) : x.phase.rank < p.rank :=
  Nat.lt_of_not_le (of_decide_eq_false h)

/-- Nobody falls asleep for a phase that has come. -/
theorem rank_lt_of_sleeps (hwaits : (x.watch t).phase? = some p) (hmove : Move x (.sleeps t) y) :
    x.phase.rank < p.rank := by
  cases hmove with
  | sleeps hlock hwas hnot | sleepsOn hlock hwas hnot =>
    rw [hwas] at hwaits
    cases hwaits
    exact rank_lt_of_not_reached hnot

/-- A thread may go to sleep where its phase has not been reached. -/
theorem Attentive.setWatch {v : Watch} (h : x.Attentive)
    (hv : ∀ p since timeout, v = .asleep p since timeout → x.phase.rank < p.rank) :
    (x.setWatch t v).Attentive := by
  intro u p since timeout hasleep hrank
  rw [watch_setWatch] at hasleep
  split at hasleep
  · exact absurd hrank (Nat.not_le_of_lt (hv _ _ _ hasleep))
  · exact h _ _ _ _ hasleep hrank

/-- **Nobody sleeps past the phase** that is waited for. -/
theorem Attentive.move (h : x.Attentive) (hmove : Move x l y) : y.Attentive := by
  cases hmove with
  | @step w' s' turn signals hlock hgo hstep =>
    intro t p since timeout hasleep hrank
    cases hrings : x.worker.stage.rings with
    | true => rfl
    | false =>
      -- the phase is the old one, and nobody was to be woken for it
      have hphase : s'.slot.phase = x.phase := (Worker.steps hgo hstep).phase hrings
      change p.rank ≤ s'.slot.phase.rank at hrank
      rw [hphase] at hrank
      exact nomatch hlock.symm.trans (h _ _ _ _ hasleep hrank)
  | unwinds => exact h
  | rings hbell =>
    intro t p since timeout hasleep
    exact absurd hasleep (x.watch t).roused_ne_asleep
  | leaves hbell =>
    intro t p since timeout hasleep hrank
    exact nomatch hbell.symm.trans (h _ _ _ _ hasleep hrank)
  | logged => exact h
  | @aside s' hslot hclock =>
    intro t p since timeout hasleep hrank
    change p.rank ≤ s'.slot.phase.rank at hrank
    rw [hslot] at hrank
    exact h _ _ _ _ hasleep hrank
  | sleeps hlock hasks hnot | sleepsOn hlock hwoken hnot =>
    refine h.setWatch fun p since timeout hv => ?_
    cases hv
    exact rank_lt_of_not_reached hnot
  | asks | sees | givesUp | wakes => exact h.setWatch nofun
  | reads => exact h

/-- The clock goes forward. -/
theorem Move.clock_le (hmove : Move x l y) : x.shared.clock ≤ y.shared.clock := by
  cases hmove with
  | step hlock hgo hstep => exact (Worker.steps hgo hstep).clock_le
  | aside hslot hclock => exact hclock
  | _ => exact Nat.le_refl _

/-- A thread may wake up by the clock when its time has run out. -/
theorem Timely.setWatch {v : Watch} (h : x.Timely)
    (hv : ∀ p since timeout, v = .woken p since timeout true → since + timeout ≤ x.shared.clock) :
    (x.setWatch t v).Timely := by
  intro u p since timeout hwoken
  rw [watch_setWatch] at hwoken
  split at hwoken
  · exact hv _ _ _ hwoken
  · exact h _ _ _ _ hwoken

/-- **Nobody wakes up by the clock before the time.** -/
theorem Timely.move (h : x.Timely) (hmove : Move x l y) : y.Timely := by
  have hclock := hmove.clock_le
  cases hmove with
  | step | aside | unwinds | leaves | logged =>
    -- no step of a session wakes anybody up; the clock has only gone on
    exact fun t p since timeout hwoken => Nat.le_trans (h _ _ _ _ hwoken) hclock
  | rings hbell =>
    intro t p since timeout hwoken
    refine h t p since timeout ?_
    change (x.watch t).roused = _ at hwoken
    -- only who slept is roused, and who was woken before has been late before
    generalize x.watch t = v at hwoken ⊢
    cases v with
    | asleep => cases hwoken
    | _ => exact hwoken
  | wakes hasleep hlate =>
    refine h.setWatch fun p since timeout hv => ?_
    cases hv
    -- woken without the bell, and so because the time was over
    exact hlate rfl
  | asks | sees | givesUp | sleeps | sleepsOn => exact h.setWatch nofun
  | reads => exact h

/-- **A wait goes on**, unanswered, or it begins. -/
theorem Move.span (hmove : Move x l y) (h : (y.watch t).span? = some (p, since, timeout)) :
    (x.watch t).span? = some (p, since, timeout) ∧ (∀ q r, l ≠ .answers t q r)
      ∨ l = .sleeps t ∧ x.watch t = .asks p timeout ∧ x.shared.clock = since := by
  cases hmove with
  | rings hbell =>
    change (x.watch t).roused.span? = _ at h
    rw [Watch.span?_roused] at h
    exact .inl ⟨h, nofun⟩
  | asks u =>
    rw [watch_setWatch] at h
    split at h
    · cases h
    · exact .inl ⟨h, nofun⟩
  | sees | givesUp =>
    rw [watch_setWatch] at h
    split at h
    · cases h
    · rename_i hother
      exact .inl ⟨h, fun q r hl => hother (AudienceDeed.answers.inj hl).1.symm⟩
  | sleeps hlock hasks =>
    rw [watch_setWatch] at h
    split at h
    · rename_i hsame
      cases h
      -- the span begins when the thread falls asleep; nothing later changes it
      exact .inr ⟨by rw [hsame], hsame ▸ hasks, rfl⟩
    · exact .inl ⟨h, nofun⟩
  | sleepsOn hlock hwas | wakes hwas =>
    rw [watch_setWatch] at h
    split at h
    · rename_i hsame
      refine .inl ⟨?_, nofun⟩
      rw [hsame, hwas]
      exact h
    · exact .inl ⟨h, nofun⟩
  | _ => exact .inl ⟨h, nofun⟩

/-- A wait that has begun goes on until it is answered. -/
theorem Began.append (h : Began x₀ happened t p since timeout) (hl : ∀ q r, l ≠ .answers t q r) :
    Began x₀ (happened ++ [l]) t p since timeout := by
  obtain ⟨before, z, after, rfl, hrun, hasks, hclock, hnone⟩ := h
  refine ⟨before, z, after ++ [l], by simp, hrun, hasks, hclock, fun q r hmem => ?_⟩
  rcases List.mem_append.mp hmem with hmem | hmem
  · exact hnone q r hmem
  · exact hl q r (List.mem_singleton.mp hmem).symm

/-! ### What holds between two moves -/

/-- **A session and its audience** between two moves. -/
structure Sound (x₀ : Audience) (happened : List AudienceDeed) (x : Audience) : Prop where
  run : Run Move x₀ happened x
  shows : x.worker.Shows x.shared
  /-- The last phase that was written is the one that the slot has. -/
  last : ∃ before, shown happened = before ++ [x.phase]
  order : (shown happened).Pairwise (·.rank < ·.rank)
  inOrder : (readings happened).Pairwise (·.rank ≤ ·.rank)
  read : readings happened ⊆ shown happened
  attentive : x.Attentive
  timely : x.Timely
  began : ∀ t p since timeout, (x.watch t).span? = some (p, since, timeout) →
    Began x₀ happened t p since timeout

namespace Sound

/-- The phase of the worker has been shown. -/
theorem mem_phase (h : Sound x₀ happened x) : x.phase ∈ shown happened := by
  obtain ⟨before, hlast⟩ := h.last
  rw [hlast]
  exact List.mem_append_right _ List.mem_cons_self

/-- No phase comes after the one that the slot has. -/
theorem rank_le (h : Sound x₀ happened x) (hp : p ∈ shown happened) : p.rank ≤ x.phase.rank := by
  obtain ⟨before, hlast⟩ := h.last
  have horder := h.order
  rw [hlast] at hp horder
  rcases List.mem_append.mp hp with hp | hp
  · exact Nat.le_of_lt ((List.pairwise_append.mp horder).2.2 p hp _ List.mem_cons_self)
  · exact Nat.le_of_eq (congrArg WorkerPhase.rank (List.mem_singleton.mp hp))

/-- A phase that is written comes after all others. -/
theorem shown_move (h : Sound x₀ happened x) (hmove : Move x l y) :
    (∃ before, shown (happened ++ [l]) = before ++ [y.phase])
      ∧ (shown (happened ++ [l])).Pairwise (·.rank < ·.rank) := by
  rw [shown_append]
  rcases (hmove.shows h.shows).2 with ⟨hnone, hphase⟩ | ⟨hnew, hrank, -, -⟩
  · rw [hnone, hphase]
    change (∃ before, shown happened ++ [] = _) ∧ (shown happened ++ []).Pairwise _
    rw [List.append_nil]
    exact ⟨h.last, h.order⟩
  · -- the new phase is later than the last one, and so than all that were shown
    rw [hnew]
    refine ⟨⟨_, rfl⟩, List.pairwise_append.mpr ⟨h.order, List.pairwise_singleton _ _, ?_⟩⟩
    intro p hp q hq
    rw [List.mem_singleton.mp hq]
    exact Nat.lt_of_le_of_lt (h.rank_le hp) hrank

/-- What is read is the phase that the slot has. -/
theorem readings_move (h : Sound x₀ happened x) (hmove : Move x l y) :
    (readings (happened ++ [l])).Pairwise (·.rank ≤ ·.rank)
      ∧ readings (happened ++ [l]) ⊆ shown (happened ++ [l]) := by
  have hsubset := List.Subset.trans h.read (shown_subset happened [l])
  rw [readings_append]
  have hnone (hl : readings [l] = []) :
      (readings happened ++ readings [l]).Pairwise (·.rank ≤ ·.rank)
        ∧ readings happened ++ readings [l] ⊆ shown (happened ++ [l]) := by
    rw [hl, List.append_nil]
    exact ⟨h.inOrder, hsubset⟩
  cases hmove with
  -- who reads sees the phase that was shown last, and no earlier one has a higher rank
  | reads hlock =>
    refine ⟨List.pairwise_append.mpr ⟨h.inOrder, List.pairwise_singleton _ _, ?_⟩, ?_⟩
    · intro p hp q hq
      rw [List.mem_singleton.mp hq]
      exact h.rank_le (h.read hp)
    · refine List.append_subset.mpr ⟨hsubset, fun p hp => ?_⟩
      rw [List.mem_singleton.mp hp]
      exact shown_subset _ _ h.mem_phase
  | _ => exact hnone rfl

/-- **Every move** keeps it so. -/
theorem move (h : Sound x₀ happened x) (hmove : Move x l y) : Sound x₀ (happened ++ [l]) y where
  run := h.run.tail hmove
  shows := (hmove.shows h.shows).1
  last := (h.shown_move hmove).1
  order := (h.shown_move hmove).2
  inOrder := (h.readings_move hmove).1
  read := (h.readings_move hmove).2
  attentive := h.attentive.move hmove
  timely := h.timely.move hmove
  began := by
    intro t p since timeout hspan
    -- a wait that is under way was so before, or has just begun
    rcases hmove.span hspan with ⟨hwas, hl⟩ | ⟨rfl, hasks, hclock⟩
    · exact (h.began _ _ _ _ hwas).append hl
    · exact ⟨happened, x, [], rfl, h.run, hasks, hclock, fun q r => List.not_mem_nil⟩

/-- **All of this is kept** by every run. -/
theorem runs (h : Sound x₀ happened x) (hrun : Run Move x later y) :
    Sound x₀ (happened ++ later) y := by
  induction hrun with
  | refl =>
    rw [List.append_nil]
    exact h
  | tail run step ih =>
    rw [← List.append_assoc]
    exact ih.move step

/-- The phase goes forward only. -/
theorem rank_le_of_run (h : Sound x₀ happened x) (hrun : Run Move x later y) :
    x.phase.rank ≤ y.phase.rank :=
  (h.runs hrun).rank_le (shown_subset _ _ h.mem_phase)

/-! ### What the threads are told -/

/-- So it is at the beginning. -/
theorem start {path : ByteArray} {interval : Nat} {s₀ : Shared} (hslot : s₀.slot = {}) :
    Sound ⟨{ path, interval }, s₀, none, fun _ => .away⟩ []
      ⟨{ path, interval }, s₀, none, fun _ => .away⟩ where
  run := .refl
  shows := by
    refine ⟨trivial, fun p hp => ?_, nofun⟩
    rw [hslot]
    exact Option.some.inj hp
  last := by
    refine ⟨[], ?_⟩
    unfold Audience.phase
    rw [hslot]
    rfl
  order := List.pairwise_singleton _ _
  inOrder := .nil
  read := List.nil_subset _
  attentive := nofun
  timely := nofun
  began := nofun

/-- A phase that is shown belonged to the worker when it was written. -/
theorem passed_of_shown (h₀ : Sound x₀ [] x₀) (hfirst : x₀.worker.phase? = some .pending)
    (hrun : Run Move x₀ happened x) (hp : p ∈ shown happened) :
    ∃ z, Passed x₀ happened x z ∧ z.worker.phase? = some p := by
  induction hrun with
  | refl =>
    obtain rfl := List.mem_singleton.mp hp
    exact ⟨x₀, ⟨[], [], rfl, .refl, .refl⟩, hfirst⟩
  | @tail happened x y l run step ih =>
    rw [shown_append] at hp
    rcases List.mem_append.mp hp with hp | hp
    · obtain ⟨z, ⟨before, after, rfl, hbefore, hafter⟩, hz⟩ := ih hp
      exact ⟨z, ⟨before, after ++ [l], List.append_assoc _ _ _, hbefore, hafter.tail step⟩, hz⟩
    · -- the last move has shown a phase only if the worker has just entered it
      rcases (step.shows (h₀.runs run).shows).2 with ⟨hnone, -⟩ | ⟨hnew, -, hphase, -⟩
      · rw [hnone] at hp
        exact absurd hp List.not_mem_nil
      · rw [hnew] at hp
        obtain rfl := List.mem_singleton.mp hp
        exact ⟨y, ⟨happened ++ [l], [], (List.append_nil _).symm, run.tail step, .refl⟩, hphase⟩

/-- The phase of every stage on the way is shown. -/
theorem shown_of_passed (h₀ : Sound x₀ [] x₀) (hz : Passed x₀ happened x z)
    (hphase : z.worker.phase? = some p) : p ∈ shown happened := by
  obtain ⟨before, after, rfl, hbefore, -⟩ := hz
  have hsound := h₀.runs hbefore
  obtain rfl : z.phase = p := hsound.shows.phase p hphase
  exact shown_subset _ _ hsound.mem_phase

/-- Nothing is shown after the last phase. -/
theorem shown_final (h : Sound x₀ happened x) (hfinished : x.phase = .finished)
    (hlater : Run Move x later y) :
    y.phase = .finished ∧ shown (happened ++ later) = shown happened := by
  have hy := h.runs hlater
  have hrank := h.rank_le_of_run hlater
  rw [hfinished] at hrank
  refine ⟨WorkerPhase.rank_inj (Nat.le_antisymm y.phase.rank_le_finished hrank), ?_⟩
  -- no phase is later than the last one, so that none has been shown since
  have horder := hy.order
  rw [shown_append] at horder ⊢
  cases htail : (shown later).tail with
  | nil => exact List.append_nil _
  | cons q rest =>
    rw [htail] at horder
    have hlast := (List.pairwise_append.mp horder).2.2 _ h.mem_phase q List.mem_cons_self
    rw [hfinished] at hlast
    exact absurd q.rank_le_finished (Nat.not_le_of_lt hlast)

/-- Who is told that a phase has come never reads an earlier one again. -/
theorem yes (h : Sound x₀ happened x) (hmove : Move x (.answers t p true) y) :
    p.rank ≤ x.phase.rank
      ∧ ∀ {later z q z'}, Run Move y later z → Move z (.reads q) z' → p.rank ≤ q.rank := by
  have hy := h.move hmove
  cases hmove with
  | sees hlock hlooks hreached =>
    have hrank : p.rank ≤ x.phase.rank := of_decide_eq_true hreached
    refine ⟨hrank, fun hlater hreads => ?_⟩
    cases hreads
    exact Nat.le_trans hrank (hy.rank_le_of_run hlater)

/-- Who is told that a phase has not come has waited for it as long as was asked for. -/
theorem no (h : Sound x₀ happened x) (hmove : Move x (.answers t p false) y) :
    x.phase.rank < p.rank
      ∧ ∃ since timeout, Began x₀ happened t p since timeout ∧ since + timeout ≤ x.shared.clock := by
  cases hmove with
  | givesUp hlock hlate hnot =>
    refine ⟨rank_lt_of_not_reached hnot, _, _, h.began t p _ _ ?_, h.timely _ _ _ _ hlate⟩
    rw [hlate]
    rfl

/-- The wake-up of who sleeps too long is on its way. -/
theorem pending (h : Sound x₀ happened x) (hasleep : x.watch t = .asleep p since timeout)
    (hrank : p.rank ≤ x.phase.rank) :
    x.bell = some .due ∧ (∃ y, Move x .rings y)
      ∧ ∀ y, Move x .rings y → y.watch t = .woken p since timeout false := by
  have hdue := h.attentive _ _ _ _ hasleep hrank
  refine ⟨hdue, ⟨_, .rings hdue⟩, fun y hmove => ?_⟩
  cases hmove
  change (x.watch t).roused = _
  rw [hasleep]
  rfl

/-- A thread that looks for a phase that has come is told so. -/
theorem answers (h : Sound x₀ happened x) (hlock : x.bell = none)
    (hwaits : (x.watch t).phase? = some p) (hrank : p.rank ≤ x.phase.rank) :
    ∃ y, Move x (.answers t p true) y := by
  have hlooks : (x.watch t).looks? = some p := by
    rw [Watch.looks?_of_ne_asleep, hwaits]
    intro q since timeout hasleep
    rw [hasleep] at hwaits
    cases hwaits
    exact nomatch hlock.symm.trans (h.attentive _ _ _ _ hasleep hrank)
  exact ⟨_, .sees hlock hlooks (decide_eq_true hrank)⟩

/-- The worker has the lock until it has rung, and a thread that waits for a phase that has come is
told so then. -/
theorem answers_soon (h : Sound x₀ happened x) (hwaits : (x.watch t).phase? = some p)
    (hrank : p.rank ≤ x.phase.rank) :
    ∃ later y, Run Move x (later ++ [.answers t p true]) y
      ∧ ∀ l ∈ later, l = .rings ∨ l = .leaves := by
  -- once the bell has been rung, its ringer leaves, and then the thread can answer
  have hleaves {happened : List AudienceDeed} {x : Audience} (h : Sound x₀ happened x)
      (hbell : x.bell = some .rung) (hwaits : (x.watch t).phase? = some p)
      (hrank : p.rank ≤ x.phase.rank) : ∃ y, Run Move x [.leaves, .answers t p true] y := by
    obtain ⟨y, hmove⟩ := (h.move (.leaves hbell)).answers rfl hwaits hrank
    exact ⟨y, (Run.single (.leaves hbell)).tail hmove⟩
  -- at most two moves of the ringer come first: it rings, if that is due, and leaves
  cases hbell : x.bell with
  | none =>
    obtain ⟨y, hmove⟩ := h.answers hbell hwaits hrank
    exact ⟨[], y, .single hmove, fun l hl => absurd hl List.not_mem_nil⟩
  | some b =>
    cases b with
    | rung =>
      obtain ⟨y, hrun⟩ := hleaves h hbell hwaits hrank
      refine ⟨[.leaves], y, hrun, fun l hl => .inr (List.mem_singleton.mp hl)⟩
    | due =>
      have hwoken : ((x.watch t).roused).phase? = some p := by
        rw [Watch.phase?_roused]
        exact hwaits
      obtain ⟨y, hrun⟩ := hleaves (h.move (.rings hbell)) rfl hwoken hrank
      refine ⟨[.rings, .leaves], y, (Run.single (.rings hbell)).trans hrun, fun l hl => ?_⟩
      rcases List.mem_cons.mp hl with rfl | hl
      · exact .inl rfl
      · exact .inr (List.mem_singleton.mp hl)

end Sound

/-- **What the threads are told** of a session that began like this. -/
structure Informed (x₀ : Audience) (happened : List AudienceDeed) (x : Audience) : Prop where
  /-- The phases follow one another in their order, and the last one is that of the slot. -/
  order : (shown happened).Pairwise (·.rank < ·.rank)
  last : ∃ before, shown happened = before ++ [x.phase]
  /-- The session has come to these phases, and to no others. -/
  shown_iff {p : WorkerPhase} :
    p ∈ shown happened ↔ ∃ z, Passed x₀ happened x z ∧ z.worker.phase? = some p
  /-- What is read are phases of the session, and none is read after a later one. -/
  readings : (readings happened).Pairwise (·.rank ≤ ·.rank)
  read : Audience.readings happened ⊆ shown happened
  /-- A session that is finished stays so. -/
  final {later : List AudienceDeed} {y : Audience} (hfinished : x.phase = .finished)
    (hlater : Run Move x later y) : y.phase = .finished ∧ shown (happened ++ later) = shown happened
  /-- Who is told that a phase has come is told so while it has, and reads no earlier one again. -/
  yes {t : Nat} {p : WorkerPhase} {y : Audience} (hmove : Move x (.answers t p true) y) :
    p.rank ≤ x.phase.rank ∧ ∀ {later z q z'}, Run Move y later z → Move z (.reads q) z' →
      p.rank ≤ q.rank
  /-- Who is told that it has not come has waited as long as was asked for, since the first look. -/
  no {t : Nat} {p : WorkerPhase} {y : Audience} (hmove : Move x (.answers t p false) y) :
    x.phase.rank < p.rank ∧ ∃ since timeout, Began x₀ happened t p since timeout
      ∧ since + timeout ≤ x.shared.clock
  /-- Who sleeps although the phase has come is about to be woken by the worker. -/
  pending {t : Nat} {p : WorkerPhase} {since timeout : Nat}
    (hasleep : x.watch t = .asleep p since timeout) (hrank : p.rank ≤ x.phase.rank) :
    x.bell = some .due ∧ (∃ y, Move x .rings y)
      ∧ ∀ y, Move x .rings y → y.watch t = .woken p since timeout false
  /-- Nobody falls asleep any more once the phase has come. -/
  sleeps {t : Nat} {p : WorkerPhase} {y : Audience} (hwaits : (x.watch t).phase? = some p)
    (hmove : Move x (.sleeps t) y) : x.phase.rank < p.rank
  /-- So the wait is over as soon as the worker has given the lock back. -/
  answers {t : Nat} {p : WorkerPhase} (hwaits : (x.watch t).phase? = some p)
    (hrank : p.rank ≤ x.phase.rank) :
    ∃ later y, Run Move x (later ++ [.answers t p true]) y ∧ ∀ l ∈ later, l = .rings ∨ l = .leaves

/-- **In every interleaving** of a session with threads that read its phase and wait for it. -/
theorem informed_of_run {path : ByteArray} {interval : Nat} {s₀ : Shared} (hslot : s₀.slot = {})
    (hrun : Run Move { worker := { path, interval }, shared := s₀ } happened x) :
    Informed { worker := { path, interval }, shared := s₀ } happened x := by
  have h₀ : Sound { worker := { path, interval }, shared := s₀ } []
      { worker := { path, interval }, shared := s₀ } := .start hslot
  have h : Sound { worker := { path, interval }, shared := s₀ } happened x := h₀.runs hrun
  exact {
    order := h.order
    last := h.last
    shown_iff :=
      ⟨h₀.passed_of_shown rfl hrun, fun ⟨z, hz, hphase⟩ => h₀.shown_of_passed hz hphase⟩
    readings := h.inOrder
    read := h.read
    final := h.shown_final
    yes := h.yes
    no := h.no
    pending := h.pending
    sleeps := rank_lt_of_sleeps
    answers := h.answers_soon }

/-- What the worker does next, with the lock or without it. -/
def next? (x : Audience) : Option (AudienceDeed × Audience) :=
  match x.bell, x.worker.result? with
  | some .due, _ =>
    some (.rings, { x with bell := some .rung, watch := fun t => (x.watch t).roused })
  | some .rung, _ => some (.leaves, { x with bell := none })
  | none, some _ => none
  | none, none =>
    some (.step x.worker x.shared,
      { x with
        worker := (x.worker.step x.shared).2.1
        shared := (x.worker.step x.shared).2.2.1
        bell := if x.worker.stage.rings then some .due else none })

/-- The worker goes on by itself; `fuel` bounds the number of its moves. -/
def advance : Nat → Audience → List AudienceDeed × Audience
  | 0, x => ([], x)
  | fuel + 1, x =>
    match x.next? with
    | none => ([], x)
    | some (l, y) => (l :: (advance fuel y).1, (advance fuel y).2)

/-- What happens next is a move. -/
theorem move_next? (h : x.next? = some (l, y)) : Move x l y := by
  unfold next? at h
  split at h
  · cases h
    exact .rings ‹_›
  · cases h
    exact .leaves ‹_›
  · cases h
  · cases h
    exact .step ‹_› ‹_› rfl

/-- A schedule is followed by moves. -/
theorem run_advance (fuel : Nat) (x : Audience) :
    Run Move x (advance fuel x).1 (advance fuel x).2 := by
  induction fuel generalizing x with
  | zero => exact .refl
  | succ fuel ih =>
    unfold advance
    split
    · exact .refl
    · rename_i l y hnext
      exact (Run.single (move_next? hnext)).trans (ih y)

/-- A program whose file is missing, and a thread that waits for it to run. -/
def missing : Audience :=
  { worker := { path := ⟨#[114]⟩, interval := 1000 }, shared := {} }

set_option maxRecDepth 100000 in
/-- A session whose program is missing never runs; but who waits for that is not left asleep. -/
theorem informed_of_run_missing : ∃ happened x, Run Move missing happened x
    ∧ Informed missing happened x ∧ shown happened = [.pending, .loading, .finished]
    ∧ ∃ later y, Run Move x (later ++ [.answers 0 .running true]) y := by
  -- a thread goes to sleep for a phase that this session never shows as its last
  let waits : Audience := (missing.setWatch 0 (.asks .running 5)).setWatch 0 (.asleep .running 0 5)
  have hends : shown (advance 40 waits).1 = [.pending, .loading, .finished]
      ∧ (advance 40 waits).2.phase = .finished
      ∧ ((advance 40 waits).2.watch 0).phase? = some .running := by
    decide +kernel
  -- it sleeps before the worker begins
  have hrun : Run Move missing ([.asks 0 .running 5, .sleeps 0] ++ (advance 40 waits).1)
      (advance 40 waits).2 :=
    ((Run.single (.asks 0 .running 5 rfl)).tail (.sleeps rfl rfl rfl)).trans (run_advance 40 waits)
  obtain ⟨hshown, hphase, hwaits⟩ := hends
  have hinformed := informed_of_run rfl hrun
  obtain ⟨later, y, hlater, -⟩ := hinformed.answers hwaits (hphase ▸ WorkerPhase.rank_le_finished _)
  exact ⟨_, _, hrun, hinformed, hshown, later, y, hlater⟩

end Audience
end RobotSession
