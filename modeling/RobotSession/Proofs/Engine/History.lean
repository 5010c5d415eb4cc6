import RobotSession.Proofs.Engine.Inbox
import RobotSession.Proofs.Engine.Life

/-!
# The history of the calls of an engine

Several threads post calls to an engine, and the engine takes them out where its script may
be interrupted: between two instructions, in a sleep, and inside a call that is being
delivered. A panic may leave such a delivery at any point.

None of this loses a call, repeats it or lets it overtake another one. After every run, the
calls that were **taken**, then those that are queued, then those that were **discarded**
when the engine was closed are exactly the calls that were **accepted**, in the order of
their posts (`Engine.History`).

* `accepted`, `taken`, `discarded` — what became of the calls of a run.
* `Engine.History.move` — one move keeps the account.
* `Engine.history_of_run` — so every run does.
-/

namespace RobotSession

open Lua

/-! ### What became of the calls -/

/-- The calls whose posts were answered with `queued`. -/
def accepted (happened : List Deed) : List Invocation :=
  happened.filterMap fun
    | .post i .queued => some i
    | _ => none

/-- The calls that were taken for delivery. -/
def taken (happened : List Deed) : List Invocation :=
  happened.filterMap fun
    | .take _ found => found
    | _ => none

/-- The calls that were discarded. -/
def discarded (happened : List Deed) : List Invocation :=
  happened.flatMap fun
    | .close rest => rest
    | _ => []

/-- Calls are accepted one after the other. -/
theorem accepted_append (happened : List Deed) (l : Deed) :
    accepted (happened ++ [l]) = accepted happened ++ accepted [l] :=
  List.filterMap_append

/-- So are they taken. -/
theorem taken_append (happened : List Deed) (l : Deed) :
    taken (happened ++ [l]) = taken happened ++ taken [l] :=
  List.filterMap_append

/-- So are they discarded. -/
theorem discarded_append (happened : List Deed) (l : Deed) :
    discarded (happened ++ [l]) = discarded happened ++ discarded [l] :=
  List.flatMap_append

/-- The posts of calls that were accepted. -/
def posts (calls : List Invocation) : List Deed :=
  calls.map (.post · .queued)

/-- Calls that are posted are accepted. -/
theorem accepted_posts (calls : List Invocation) : accepted (posts calls) = calls := by
  induction calls with
  | nil => rfl
  | cons i rest ih => exact congrArg (i :: ·) ih

/-- Posting takes no call. -/
theorem taken_posts (calls : List Invocation) : taken (posts calls) = [] := by
  induction calls with
  | nil => rfl
  | cons i rest ih => exact ih

/-- Nor does it discard one. -/
theorem discarded_posts (calls : List Invocation) : discarded (posts calls) = [] := by
  induction calls with
  | nil => rfl
  | cons i rest ih => exact ih

namespace Engine

/-- **The account of a run**: what became of every call that was accepted. -/
structure History (happened : List Deed) (x : Engine × Shared) : Prop where
  /-- Every call that was accepted has been taken, is queued or has been discarded, once and
  in order. -/
  account : taken happened ++ (x.2.inbox x.1.id).queue ++ discarded happened = accepted happened
  /-- Only an engine that is closed has discarded calls. -/
  kept : (x.2.inbox x.1.id).isClosed = false → discarded happened = []
  inbox : (x.2.inbox x.1.id).Sound
  inbox_lt : x.1.id < x.2.inboxes.size
  engine : x.1.Sound

namespace History

variable {happened : List Deed} {e e' : Engine} {s s' : Shared} {l : Deed}

/-- A move that changes the inbox, by what it does to the queue. -/
theorem setInbox (h : History happened (e, s)) {b : Inbox} (hid : e'.id = e.id)
    (hsound : e'.Sound) (hb : b.Sound)
    (haccount : taken happened ++ taken [l] ++ b.queue ++ (discarded happened ++ discarded [l])
      = accepted happened ++ accepted [l])
    (hkept : b.isClosed = false → discarded happened ++ discarded [l] = []) :
    History (happened ++ [l]) (e', s.setInbox e.id b) := by
  -- the engine has kept its number, and so the new queue is its own
  have hinbox : (s.setInbox e.id b).inbox e'.id = b := by
    rw [hid]
    exact Shared.inbox_setInbox h.inbox_lt b
  refine ⟨?_, ?_, ?_, ?_, hsound⟩
  · rw [hinbox, accepted_append, taken_append, discarded_append]
    exact haccount
  · rw [hinbox, discarded_append]
    exact hkept
  · rw [hinbox]
    exact hb
  · rw [hid, Shared.size_setInbox]
    exact h.inbox_lt

/-- A move that leaves the inbox alone. -/
theorem of_inbox_eq (h : History happened (e, s)) (hid : e'.id = e.id) (hsound : e'.Sound)
    (hinbox : s'.inbox e.id = s.inbox e.id) (hsize : s.inboxes.size ≤ s'.inboxes.size)
    (haccepted : accepted [l] = []) (htaken : taken [l] = []) (hdiscarded : discarded [l] = []) :
    History (happened ++ [l]) (e', s') := by
  -- the deed accepts, takes and discards nothing, so each account is the earlier one read at an
  -- inbox of the same content
  refine ⟨?_, ?_, ?_, ?_, hsound⟩
  · rw [accepted_append, taken_append, discarded_append, haccepted, htaken, hdiscarded,
      List.append_nil, List.append_nil, List.append_nil, hid, hinbox]
    exact h.account
  · rw [discarded_append, hdiscarded, List.append_nil, hid, hinbox]
    exact h.kept
  · rw [hid, hinbox]
    exact h.inbox
  · rw [hid]
    exact Nat.lt_of_lt_of_le h.inbox_lt hsize

/-- The call that is taken was the first one in the queue. -/
theorem take (h : History happened (e, s)) (hid : e'.id = e.id) (hsound : e'.Sound)
    (reason : DrainReason) : History (happened ++ [.take reason (s.inbox e.id).pop.1])
      (e', s.setInbox e.id (s.inbox e.id).pop.2) := by
  have htaken : taken [.take reason (s.inbox e.id).pop.1] = (s.inbox e.id).pop.1.toList := by
    unfold taken
    cases (s.inbox e.id).pop.1 with
    | none => rfl
    | some i => rfl
  refine h.setInbox hid hsound h.inbox.pop ?_ ?_
  · -- what is taken and what is left are the queue as it was
    rw [htaken]
    calc taken happened ++ (s.inbox e.id).pop.1.toList ++ (s.inbox e.id).pop.2.queue
          ++ (discarded happened ++ [])
        = taken happened ++ ((s.inbox e.id).pop.1.toList ++ (s.inbox e.id).pop.2.queue)
          ++ discarded happened := by rw [List.append_nil, List.append_assoc (taken happened)]
      _ = taken happened ++ (s.inbox e.id).queue ++ discarded happened := by
          rw [Inbox.pop_queue]
      _ = accepted happened := h.account
      _ = accepted happened ++ [] := (List.append_nil _).symm
  · rw [Inbox.isClosed_pop]
    intro hopen
    rw [h.kept hopen]
    rfl

/-- To bind a robot moves no call. -/
theorem bind (h : History happened (e, s)) :
    History (happened ++ [.bind]) (e, s.setInbox e.id (s.inbox e.id).bind) := by
  refine h.setInbox rfl h.engine h.inbox.bind ?_ ?_
  · change taken happened ++ [] ++ (s.inbox e.id).queue ++ (discarded happened ++ [])
      = accepted happened ++ []
    rw [List.append_nil, List.append_nil, List.append_nil]
    exact h.account
  · intro hopen
    rw [h.kept hopen]
    rfl

/-- What is left in the queue is discarded. -/
theorem close (h : History happened (e, s)) (hid : e'.id = e.id) (hsound : e'.Sound) :
    History (happened ++ [.close (s.inbox e.id).queue])
      (e', s.setInbox e.id (s.inbox e.id).close) := by
  -- an engine that is closed again has nothing to discard
  have hrest : (s.inbox e.id).queue ++ discarded happened
      = discarded happened ++ (s.inbox e.id).queue := by
    cases hclosed : (s.inbox e.id).isClosed with
    | false =>
      rw [h.kept hclosed]
      exact List.append_nil _
    | true =>
      rw [h.inbox.closed hclosed]
      exact (List.append_nil _).symm
  refine h.setInbox hid hsound (Inbox.Sound.close _) ?_ nofun
  calc taken happened ++ [] ++ [] ++ (discarded happened ++ ((s.inbox e.id).queue ++ []))
      = taken happened ++ (discarded happened ++ (s.inbox e.id).queue) := by
        rw [List.append_nil, List.append_nil, List.append_nil]
    _ = taken happened ++ ((s.inbox e.id).queue ++ discarded happened) := by rw [hrest]
    _ = taken happened ++ (s.inbox e.id).queue ++ discarded happened :=
        (List.append_assoc ..).symm
    _ = accepted happened := h.account
    _ = accepted happened ++ [] := (List.append_nil _).symm

/-- A call that is accepted becomes the last one in the queue. -/
theorem post (h : History happened (e, s)) (i : Invocation) :
    History (happened ++ [.post i (s.post e.id i).1]) (e, (s.post e.id i).2) := by
  refine h.setInbox rfl h.engine (h.inbox.post i) ?_ ?_
  · change taken happened ++ [] ++ ((s.inbox e.id).post i).2.queue ++ (discarded happened ++ [])
      = accepted happened ++ accepted [.post i ((s.inbox e.id).post i).1]
    rw [List.append_nil, List.append_nil]
    rcases (s.inbox e.id).post_cases i with ⟨hpost, hopen, -⟩ | ⟨hrefused, hsame⟩
    · -- an open inbox has discarded nothing, so the new call is the last one on both sides
      rw [hpost, ← h.account, h.kept hopen, List.append_nil, List.append_nil, List.append_assoc]
      rfl
    · have hnone : accepted [.post i ((s.inbox e.id).post i).1] = [] := by
        unfold accepted
        cases hanswer : ((s.inbox e.id).post i).1 with
        | queued => exact absurd hanswer hrefused
        | notBound => rfl
        | closed => rfl
      rw [hnone, hsame, List.append_nil]
      exact h.account
  · intro (hopen : ((s.inbox e.id).post i).2.isClosed = false)
    change discarded happened ++ [] = []
    rw [List.append_nil]
    rcases (s.inbox e.id).post_cases i with ⟨-, hopen', -⟩ | ⟨-, hsame⟩
    · exact h.kept hopen'
    · rw [hsame] at hopen
      exact h.kept hopen

/-- **One move keeps the account.** -/
theorem move {x y : Engine × Shared} (h : History happened x) (hmove : Move x l y) :
    History (happened ++ [l]) y := by
  obtain ⟨hsound, hid⟩ := h.engine.move hmove
  cases hmove with
  -- four moves touch the queue, all others leave the account as it is
  | step hgo => exact h.of_inbox_eq hid hsound rfl (Nat.le_refl _) rfl rfl rfl
  | serve hmode htake hserve =>
    obtain ⟨-, hsame⟩ := serve_cases htake hserve
    rw [hsame]
    exact h.of_inbox_eq hid hsound rfl (Nat.le_refl _) rfl rfl rfl
  | logged hmode hlog panic => exact h.of_inbox_eq hid hsound rfl (Nat.le_refl _) rfl rfl rfl
  | settle hmode => exact h.of_inbox_eq hid hsound rfl (Nat.le_refl _) rfl rfl rfl
  | begin_ hidle hb => exact h.of_inbox_eq hid hsound rfl (Nat.le_refl _) rfl rfl rfl
  | elsewhere hinbox hsize => exact h.of_inbox_eq hid hsound hinbox hsize rfl rfl rfl
  | take hmode => exact h.take hid hsound _
  | bind r => exact h.bind
  | close hidle => exact h.close hid hsound
  | post i => exact h.post i

/-- What is queued has been accepted, and that is all that has to be known of the past. -/
theorem of_inbox {x : Engine × Shared} (hengine : x.1.Sound) (hinbox : (x.2.inbox x.1.id).Sound)
    (hlt : x.1.id < x.2.inboxes.size) : History (posts (x.2.inbox x.1.id).queue) x where
  account := by
    rw [taken_posts, discarded_posts, accepted_posts, List.append_nil]
    rfl
  kept := fun _ => discarded_posts _
  inbox := hinbox
  inbox_lt := hlt
  engine := hengine

/-- **A history goes on**, move by move. -/
theorem run {x y : Engine × Shared} {later : List Deed} (h : History happened x)
    (hrun : Run Move x later y) : History (happened ++ later) y := by
  -- what has happened grows at its end, as the run does
  induction hrun with
  | refl =>
    rw [List.append_nil]
    exact h
  | tail run step ih =>
    rw [← List.append_assoc]
    exact ih.move step

end History

/-- **What one move does to the queue**: calls are taken from its front, and accepted at its end. -/
theorem account_move {x y : Engine × Shared} {l : Deed} (hengine : x.1.Sound)
    (hinbox : (x.2.inbox x.1.id).Sound) (hlt : x.1.id < x.2.inboxes.size) (hmove : Move x l y) :
    taken [l] ++ (y.2.inbox y.1.id).queue ++ discarded [l]
        = (x.2.inbox x.1.id).queue ++ accepted [l]
      ∧ (y.2.inbox y.1.id).Sound ∧ y.1.id < y.2.inboxes.size := by
  have h := (History.of_inbox hengine hinbox hlt).move hmove
  have haccount := h.account
  rw [accepted_append, taken_append, discarded_append, taken_posts, discarded_posts,
    accepted_posts] at haccount
  exact ⟨haccount, h.inbox, h.inbox_lt⟩

/-! ### Runs -/

variable {s₀ s₁ : Shared} {interval : Nat} {e₀ : Engine} {signals : List Signal}

/-- An engine that has just been opened has no history. -/
theorem history_of_openIn (hopen : openIn s₀ interval = (e₀, s₁, signals)) :
    History [] (e₀, s₁) := by
  obtain ⟨hsound, hlt, hinbox⟩ := openIn_sound hopen
  refine ⟨?_, fun _ => rfl, ?_, hlt, hsound⟩
  · rw [hinbox]
    rfl
  · rw [hinbox]
    exact Inbox.Sound.new

/-- A hook that finds the flag set takes the oldest call. -/
theorem run_hookPoll {e : Engine} {s : Shared} {ticket : Nat}
    (hmode : e.machine.mode = .ask (.hookPoll ticket))
    (hpending : (s.inbox e.id).isPending = true) :
    ∃ e', Run Move (e, s) [.serve, .take (.hook ticket) (s.inbox e.id).pop.1]
      (e', s.setInbox e.id (s.inbox e.id).pop.2) := by
  have hserve : e.serve s .pending = (.going, e.answer (.flag true), s, []) := by
    rw [← hpending]
    rfl
  have hasks : (e.answer (.flag true)).machine.mode = .ask (.drainTake (.hook ticket)) :=
    congrArg Machine.mode (Machine.answer_hookPoll_flag hmode)
  exact ⟨_, .tail (.single (.serve hmode nofun hserve)) (.take (e := e.answer (.flag true)) hasks)⟩

/-- **Every call that is accepted is accounted for**, exactly once and in order, at every
moment of the life of an engine: it has been taken, it is queued, or it was discarded when
the engine was closed.

What is taken next is the oldest call that is queued, whether the delivery before it has
ended or was left by a panic; and who takes it delivers it. -/
theorem history_of_run {happened : List Deed} {e : Engine} {s : Shared}
    (hopen : openIn s₀ interval = (e₀, s₁, signals)) (hrun : Run Move (e₀, s₁) happened (e, s)) :
    taken happened ++ (s.inbox e₀.id).queue ++ discarded happened = accepted happened
      ∧ ((s.inbox e₀.id).isClosed = false → discarded happened = [])
      ∧ ∀ {reason found y}, Move (e, s) (.take reason found) y →
        found = (s.inbox e₀.id).queue.head?
          ∧ ∀ i, found = some i → y.1.machine = Machine.drain { e.machine with mode := .run false }
            reason (Library.Robot.taken e.machine.heap e.machine.retained i) := by
  have hhistory := (history_of_openIn hopen).run hrun
  -- the engine keeps its number, and with it its inbox
  have hid : e.id = e₀.id :=
    (hrun.invariant (fun {a l b} (ha : a.1.Sound ∧ a.1.id = e₀.id) hmove =>
      ⟨(ha.1.move hmove).1, (ha.1.move hmove).2.trans ha.2⟩) ⟨(openIn_sound hopen).1, rfl⟩).2
  rw [← hid]
  refine ⟨hhistory.account, hhistory.kept, ?_⟩
  -- what the next look will find, wherever the last delivery was left
  intro reason found y hmove
  cases hmove with
  | take hmode =>
    refine ⟨Inbox.pop_head _, fun i hi => ?_⟩
    change e.machine.answer (.invocation (s.inbox e.id).pop.1) = _
    rw [hi]
    exact Machine.answer_drainTake_some hmode i

/-- Whether a hook is about to read the flag. -/
def isPolling (e : Engine) : Bool :=
  e.machine.mode matches .ask (.hookPoll _)

/-- An engine that polls waits for the flag. -/
theorem mode_of_isPolling {e : Engine} (h : e.isPolling = true) :
    ∃ ticket, e.machine.mode = .ask (.hookPoll ticket) := by
  unfold isPolling at h
  split at h
  · exact ⟨_, ‹_›⟩
  · cases h

set_option maxRecDepth 100000 in
/-- A program that returns at once is interrupted before its first instruction, if every
instruction counts. -/
theorem hook_of_load : ∃ e ticket, (openIn {} 1).1.load .empty "return 1" = .ok e
    ∧ (e.machine.advance 3).mode = .ask (.hookPoll ticket) := by
  have heval : ((openIn {} 1).1.load .empty "return 1").toOption.any
      (fun e => isPolling { e with machine := e.machine.advance 3 }) = true := by decide +kernel
  rcases hload : (openIn {} 1).1.load .empty "return 1" with error | e
  · rw [hload] at heval
    cases heval
  · rw [hload] at heval
    obtain ⟨ticket, hmode⟩ := mode_of_isPolling heval
    exact ⟨e, ticket, rfl, hmode⟩

/-- A robot is bound and asked to end, a program is loaded, and its hook takes the call. -/
theorem history_of_run_load : ∃ happened x,
    Run Move ((openIn {} 1).1, (openIn {} 1).2.1) happened x ∧ taken happened = [.finish]
    ∧ taken happened ++ (x.2.inbox 0).queue ++ discarded happened = accepted happened := by
  obtain ⟨e, ticket, hload, hmode⟩ := hook_of_load
  have hbegins : (openIn {} 1).1.Begins e := .load hload
  have hid : e.id = 0 := (((openIn_sound rfl).1.rests rfl).begins hbegins).id_eq
  let s : Shared := { inboxes := #[{ queue := [.finish], isBound := true, isPending := true }] }
  have hbegun : Run Move ((openIn {} 1).1, (openIn {} 1).2.1)
      [.bind, .post .finish .queued, .task] (e, s) :=
    .tail (.tail (.single (.bind ⟨0, .nil, none⟩)) (.post .finish)) (.begin_ rfl hbegins)
  have hinbox : s.inbox e.id = { queue := [.finish], isBound := true, isPending := true } := by
    rw [hid]
    rfl
  obtain ⟨steps, hsteps⟩ := run_advance e s 3
  obtain ⟨e', htake⟩ := run_hookPoll (e := { e with machine := e.machine.advance 3 }) (s := s)
    hmode (by rw [hinbox])
  change Run Move _ [.serve, .take (.hook ticket) (s.inbox e.id).pop.1] _ at htake
  rw [hinbox] at htake
  -- bound, asked to end, loaded, run up to the hook, and interrupted there
  have hrun := (hbegun.trans hsteps).trans htake
  refine ⟨_, _, hrun, ?_, (history_of_run rfl hrun).1⟩
  have hnone : taken (List.replicate steps Deed.step) = [] := by
    unfold taken
    rw [List.filterMap_replicate_of_none rfl]
  unfold taken at hnone ⊢
  rw [List.filterMap_append, List.filterMap_append, hnone]
  rfl

end Engine
end RobotSession
