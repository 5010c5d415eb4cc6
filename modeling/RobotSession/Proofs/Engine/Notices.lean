import RobotSession.Proofs.Engine.Turn

/-!
# What posts are answered

Whoever has a handle of an engine may post calls to it, at any time. What a post is answered
tells how far the engine has come: there is no robot yet, the call is queued, or the engine is
closed. An engine goes through this once, and so do the answers.

Here a history tells of each inbox when it is opened, bound and closed, and of each post what it
is answered. Who does this, and what happens between, does not matter.

* `Notice`, `Shared.Notes` — what is told of the inboxes, and what has to come of them.
* `Shared.Records` — the state of every inbox is what has been told of it.
* `Shared.Answered` — what posts are answered, and that a post that is refused changes nothing.
* `Shared.answered_of_run` — so it is in every history.
-/

namespace RobotSession

open Lua

/-! ### Notices -/

/-- **What is told of the inboxes** of a process, by the numbers of their engines. -/
inductive Notice
  | opens (id : Nat)
  | binds (id : Nat)
  | closes (id : Nat)
  | posts (id : Nat) (invocation : Invocation) (answer : Delivery)
  /-- Something else happens; calls may be taken. -/
  | aside
  deriving DecidableEq

/-- **What comes of the inboxes** when something is told of them. -/
structure Shared.Notes (s : Shared) (l : Notice) (s' : Shared) : Prop where
  opened : ∀ id, id < s'.inboxes.size ↔ id < s.inboxes.size ∨ l = .opens id
  bound : ∀ id, (s'.inbox id).isBound = true ↔ (s.inbox id).isBound = true ∨ l = .binds id
  closed : ∀ id, (s'.inbox id).isClosed = true ↔ (s.inbox id).isClosed = true ∨ l = .closes id
  posted : ∀ {id i d}, l = .posts id i d → s.post id i = (d, s')

/-- What the posts to an engine were answered, in order. -/
def answers (id : Nat) (happened : List Notice) : List Delivery :=
  happened.filterMap fun
    | .posts id' _ d => if id' = id then some d else none
    | _ => none

/-- What a post to an engine is answered after a history. -/
def answerAfter (id : Nat) (happened : List Notice) : Delivery :=
  if .closes id ∈ happened then .closed
  else if .binds id ∈ happened then .queued
  else .notBound

/-- The answers after a history are those before, and that of what is told last. -/
theorem answers_append (id : Nat) (happened : List Notice) (l : Notice) :
    answers id (happened ++ [l]) = answers id happened ++ answers id [l] :=
  List.filterMap_append

/-- Only the answers of one engine are kept. -/
theorem answers_posts (id id' : Nat) (i : Invocation) (d : Delivery) :
    answers id [.posts id' i d] = if id' = id then [d] else [] := by
  unfold answers
  rw [List.filterMap_cons]
  dsimp only
  -- an answer counts for the engine that was posted to
  by_cases hid : id' = id
  · rw [if_pos hid, if_pos hid]
    rfl
  · rw [if_neg hid, if_neg hid]
    rfl

namespace Shared

/-! ### Posts -/

/-- To leave an inbox as it is changes nothing. -/
theorem setInbox_inbox (s : Shared) (id : Nat) : s.setInbox id (s.inbox id) = s := by
  have hsame : s.inboxes.set! id (s.inbox id) = s.inboxes := by
    rw [Array.set!_eq_setIfInBounds]
    -- the array has the same size, and the same inbox at every number
    refine Array.ext (by rw [Array.size_setIfInBounds]) fun k hk hk' => ?_
    rw [Array.getElem_setIfInBounds hk']
    split
    · rename_i heq
      subst heq
      unfold inbox
      rw [Array.getD_eq_getD_getElem?, Array.getElem?_eq_getElem hk']
      rfl
    · rfl
  unfold setInbox
  rw [hsame]

/-- **A post that is refused changes nothing.** -/
theorem post_refused {s : Shared} {id : Nat} {i : Invocation} (h : (s.post id i).1 ≠ .queued) :
    (s.post id i).2 = s := by
  rcases (s.inbox id).post_cases i with ⟨hpost, -⟩ | ⟨-, hsame⟩
  · -- a call that is queued is not refused
    exact absurd (congrArg Prod.fst hpost) h
  · change s.setInbox id ((s.inbox id).post i).2 = s
    rw [hsame, setInbox_inbox]

/-- A post through one handle leaves all other engines alone. -/
theorem inbox_post_of_ne {s : Shared} {id other : Nat} (hne : other ≠ id) (i : Invocation) :
    (s.post id i).2.inbox other = s.inbox other :=
  inbox_setInbox_of_ne hne _

/-- An inbox that is closed answers so, whether it was bound or not. -/
theorem answer_post (s : Shared) (id : Nat) (i : Invocation) :
    (s.post id i).1 = if (s.inbox id).isClosed then .closed
      else if (s.inbox id).isBound then .queued else .notBound := by
  change ((s.inbox id).post i).1 = _
  unfold Inbox.post
  split
  · rfl
  · cases (s.inbox id).isBound with
    | true => rfl
    | false => rfl

namespace Notes

variable {s s' : Shared} {l : Notice}

/-- Nothing is told of what leaves the inboxes as bound, and as closed, as they were. -/
theorem of_alike (h : s.Alike s') (hsize : s'.inboxes.size = s.inboxes.size) :
    Notes s .aside s' where
  opened id := by rw [hsize, or_iff_left nofun]
  bound id := by rw [h.bound, or_iff_left nofun]
  closed id := by rw [h.closed, or_iff_left nofun]
  posted := nofun

/-- A post is told of with its answer. -/
theorem post (s : Shared) (id : Nat) (i : Invocation) :
    Notes s (.posts id i (s.post id i).1) (s.post id i).2 := by
  have halike := Alike.post s id i
  -- a post changes the queue of one inbox, which is neither opened, bound nor closed by it
  refine ⟨fun other => ?_, fun other => ?_, fun other => ?_, ?_⟩
  · rw [or_iff_left nofun]
    change other < (s.setInbox id _).inboxes.size ↔ _
    rw [size_setInbox]
  · rw [halike.bound, or_iff_left nofun]
  · rw [halike.closed, or_iff_left nofun]
  · intro id' i' d h
    obtain ⟨rfl, rfl, rfl⟩ := Notice.posts.inj h
    rfl

/-- A new engine is told of with the number of its inbox. -/
theorem newInbox (s : Shared) : Notes s (.opens s.inboxes.size) s.newInbox.2 := by
  have halike := Alike.newInbox s
  refine ⟨fun other => ?_, fun other => ?_, fun other => ?_, nofun⟩
  · -- there is one number more, and it is that of the new inbox
    change other < (s.inboxes.push {}).size ↔ _
    rw [Array.size_push, Nat.lt_succ_iff_lt_or_eq, Notice.opens.injEq, eq_comm]
  · rw [halike.bound, or_iff_left nofun]
  · rw [halike.closed, or_iff_left nofun]

/-- An inbox is bound, and perhaps calls have been taken before. -/
theorem bind {s₀ : Shared} {id : Nat} (h : s₀.Alike s) (hsize : s.inboxes.size = s₀.inboxes.size)
    (hid : id < s.inboxes.size) :
    Notes s₀ (.binds id) (s.setInbox id (s.inbox id).bind) := by
  refine ⟨fun other => ?_, fun other => ?_, fun other => ?_, nofun⟩
  · rw [size_setInbox, hsize, or_iff_left nofun]
  · -- the inbox that is told of is bound now, every other one as before
    rw [Notice.binds.injEq, ← h.bound]
    by_cases hother : other = id
    · rw [hother, inbox_setInbox hid]
      exact ⟨fun _ => .inr rfl, fun _ => rfl⟩
    · rw [inbox_setInbox_of_ne hother, or_iff_left (Ne.symm hother)]
  · rw [← h.closed, or_iff_left nofun]
    -- binding an inbox does not close it
    rcases inbox_setInbox_cases s id other (s.inbox id).bind with ⟨hb, rfl⟩ | hsame
    · rw [hb]
      rfl
    · rw [hsame]

/-- An inbox is closed, whatever is in it. -/
theorem close {id : Nat} (hid : id < s.inboxes.size) :
    Notes s (.closes id) (s.setInbox id (s.inbox id).close) := by
  refine ⟨fun other => ?_, fun other => ?_, fun other => ?_, nofun⟩
  · rw [size_setInbox, or_iff_left nofun]
  · rw [or_iff_left nofun]
    -- closing an inbox does not unbind it
    rcases inbox_setInbox_cases s id other (s.inbox id).close with ⟨hb, rfl⟩ | hsame
    · rw [hb]
      rfl
    · rw [hsame]
  · -- the inbox that is told of is closed now, every other one as before
    rw [Notice.closes.injEq]
    by_cases hother : other = id
    · rw [hother, inbox_setInbox hid]
      exact ⟨fun _ => .inr rfl, fun _ => rfl⟩
    · rw [inbox_setInbox_of_ne hother, or_iff_left (Ne.symm hother)]

end Notes

/-! ### Records -/

/-- **The state of the inboxes is what has been told** of them, for all engines opened since
there were `base` of them. -/
structure Records (base : Nat) (happened : List Notice) (s : Shared) : Prop where
  opened : ∀ id, base ≤ id → (id < s.inboxes.size ↔ .opens id ∈ happened)
  bound : ∀ id, base ≤ id → ((s.inbox id).isBound = true ↔ .binds id ∈ happened)
  closed : ∀ id, base ≤ id → ((s.inbox id).isClosed = true ↔ .closes id ∈ happened)

/-- An engine that is still to be opened is neither bound nor closed. -/
theorem records_nil (s : Shared) : Records s.inboxes.size [] s := by
  -- where no inbox is, a new one is read, which is open and not bound
  have hnew : ∀ id, s.inboxes.size ≤ id → s.inbox id = {} := by
    intro id hid
    unfold inbox
    rw [Array.getD_eq_getD_getElem?, Array.getElem?_eq_none hid]
    rfl
  refine ⟨fun id hid => ?_, fun id hid => ?_, fun id hid => ?_⟩
  · exact ⟨fun hlt => absurd hlt (Nat.not_lt.mpr hid), nofun⟩
  · rw [hnew id hid]
    exact ⟨nofun, nofun⟩
  · rw [hnew id hid]
    exact ⟨nofun, nofun⟩

namespace Records

variable {base : Nat} {happened : List Notice} {s s' : Shared} {l : Notice}

/-- **The record is kept** when something is told. -/
theorem note (h : Records base happened s) (hnotes : s.Notes l s') :
    Records base (happened ++ [l]) s' := by
  -- what is told last is told of one inbox, the others have what was told before
  refine ⟨fun id hid => ?_, fun id hid => ?_, fun id hid => ?_⟩
  · rw [hnotes.opened, h.opened id hid, List.mem_append, List.mem_singleton, eq_comm]
  · rw [hnotes.bound, h.bound id hid, List.mem_append, List.mem_singleton, eq_comm]
  · rw [hnotes.closed, h.closed id hid, List.mem_append, List.mem_singleton, eq_comm]

theorem run {later : List Notice} (h : Records base happened s) (hrun : Run Notes s later s') :
    Records base (happened ++ later) s' := by
  induction hrun with
  | refl =>
    rw [List.append_nil]
    exact h
  | tail run step ih =>
    rw [← List.append_assoc]
    exact ih.note step

/-- What a post is answered depends on what has been told of the engine. -/
theorem answer (h : Records base happened s) {id : Nat} (hid : base ≤ id) (i : Invocation) :
    (s.post id i).1 = answerAfter id happened := by
  rw [answer_post]
  unfold answerAfter
  have hclosed := h.closed id hid
  have hbound := h.bound id hid
  congr 1
  · exact propext hclosed
  · congr 1
    exact propext hbound

end Records

/-! ### Phases -/

/-- **Answers in order**: at first there is no robot, then calls are queued, and in the end the
engine is closed. Nothing is queued before it is bound, nor refused for good before it is closed. -/
def InPhases (isBound isClosed : Bool) (ds : List Delivery) : Prop :=
  ∃ x y z, ds = List.replicate x .notBound ++ List.replicate y .queued ++ List.replicate z .closed
    ∧ (isBound = false → y = 0) ∧ (isClosed = false → z = 0)

namespace InPhases

variable {isBound isClosed isBound' isClosed' : Bool} {ds : List Delivery}

/-- Nothing has been answered yet. -/
theorem nil (isBound isClosed : Bool) : InPhases isBound isClosed [] :=
  ⟨0, 0, 0, rfl, fun _ => rfl, fun _ => rfl⟩

/-- An engine that has come further may have given the same answers. -/
theorem mono (h : InPhases isBound isClosed ds) (hbound : isBound = true → isBound' = true)
    (hclosed : isClosed = true → isClosed' = true) : InPhases isBound' isClosed' ds := by
  obtain ⟨x, y, z, hds, hy, hz⟩ := h
  refine ⟨x, y, z, hds, fun hfalse => hy ?_, fun hfalse => hz ?_⟩
  · -- what is not so later was not so before
    rw [Bool.eq_false_iff] at hfalse ⊢
    exact fun htrue => hfalse (hbound htrue)
  · rw [Bool.eq_false_iff] at hfalse ⊢
    exact fun htrue => hfalse (hclosed htrue)

/-- The next answer is as late as the engine has come. -/
theorem next (h : InPhases isBound isClosed ds) : InPhases isBound isClosed
    (ds ++ [if isClosed then .closed else if isBound then .queued else .notBound]) := by
  obtain ⟨x, y, z, rfl, hy, hz⟩ := h
  -- the answers come in three phases, and the next one belongs to the last phase that has begun
  cases isClosed with
  | true =>
    refine ⟨x, y, z + 1, ?_, hy, nofun⟩
    rw [List.replicate_succ', ← List.append_assoc]
    rfl
  | false =>
    obtain rfl := hz rfl
    cases isBound with
    | true =>
      refine ⟨x, y + 1, 0, ?_, nofun, fun _ => rfl⟩
      rw [List.replicate_succ', List.replicate_zero, List.append_nil, List.append_nil,
        ← List.append_assoc]
      rfl
    | false =>
      obtain rfl := hy rfl
      refine ⟨x + 1, 0, 0, ?_, fun _ => rfl, fun _ => rfl⟩
      rw [List.replicate_succ', List.replicate_zero, List.replicate_zero, List.append_nil,
        List.append_nil, List.append_nil, List.append_nil]
      rfl

end InPhases

/-- What the posts to an engine were answered, and how far it has come. -/
def PhasesOf (id : Nat) (happened : List Notice) (s : Shared) : Prop :=
  InPhases (s.inbox id).isBound (s.inbox id).isClosed (answers id happened)

/-- **The answers stay in their order** when something is told. -/
theorem PhasesOf.note {id : Nat} {happened : List Notice} {s s' : Shared} {l : Notice}
    (h : PhasesOf id happened s) (hnotes : s.Notes l s') : PhasesOf id (happened ++ [l]) s' := by
  -- an engine that is bound, or closed, stays so
  have hmono : ∀ {ds}, InPhases (s.inbox id).isBound (s.inbox id).isClosed ds →
      InPhases (s'.inbox id).isBound (s'.inbox id).isClosed ds := fun h =>
    h.mono (fun hbound => (hnotes.bound id).mpr (.inl hbound))
      fun hclosed => (hnotes.closed id).mpr (.inl hclosed)
  unfold PhasesOf at h ⊢
  rw [answers_append]
  -- only a post to this very engine is answered
  cases l with
  | posts id' i d =>
    by_cases hid : id' = id
    · subst hid
      -- the answer is as late as the state before the post
      have hanswer : (s.post id' i).1 = d := congrArg Prod.fst (hnotes.posted rfl)
      rw [answer_post] at hanswer
      rw [answers_posts, if_pos rfl, ← hanswer]
      exact hmono h.next
    · rw [answers_posts, if_neg hid, List.append_nil]
      exact hmono h
  | _ =>
    rw [show answers id [_] = [] from rfl, List.append_nil]
    exact hmono h

/-- So they are in every history. -/
theorem PhasesOf.run {id : Nat} {s₀ s : Shared} {happened : List Notice}
    (hrun : Run Notes s₀ happened s) : PhasesOf id happened s := by
  induction hrun with
  | refl => exact .nil _ _
  | tail run step ih => exact ih.note step

/-! ### Answers -/

/-- **What posts are answered** in a history, for all engines opened since there were `base` of
them. -/
structure Answered (base : Nat) (happened : List Notice) (s : Shared) : Prop where
  /-- An engine is bound, or closed, if this has been told of it. -/
  records : Records base happened s
  /-- There was no robot until the engine was bound, and the engine was closed from then on when it
  was closed. -/
  answered : ∀ {before after id i d}, happened = before ++ .posts id i d :: after → base ≤ id →
    d = answerAfter id before
  phases : ∀ id, ∃ x y z, answers id happened
    = List.replicate x .notBound ++ List.replicate y .queued ++ List.replicate z .closed
  /-- So will the next post be. -/
  answers : ∀ {id}, base ≤ id → ∀ i, (s.post id i).1 = answerAfter id happened
  /-- A post that is refused changes nothing. -/
  refused : ∀ {id i}, (s.post id i).1 ≠ .queued → (s.post id i).2 = s
  /-- Nor does any post change what belongs to another engine. -/
  apart : ∀ {id other}, other ≠ id → ∀ i, (s.post id i).2.inbox other = s.inbox other

/-- **What posts are answered** in every history. -/
theorem answered_of_run {s₀ s : Shared} {happened : List Notice}
    (hrun : Run Notes s₀ happened s) : Answered s₀.inboxes.size happened s where
  records := (records_nil s₀).run hrun
  answered := by
    rintro before after id i d rfl hid
    -- the state in which the call was posted is that of the history before it
    obtain ⟨s₁, s₂, hbefore, hnotes, -⟩ := hrun.through
    have hpost := congrArg Prod.fst (hnotes.posted rfl)
    exact hpost.symm.trans (((records_nil s₀).run hbefore).answer hid i)
  phases id := by
    have hphases : PhasesOf id happened s := .run hrun
    obtain ⟨x, y, z, hanswers, -⟩ := hphases
    exact ⟨x, y, z, hanswers⟩
  answers hid i := ((records_nil s₀).run hrun).answer hid i
  refused := post_refused
  apart hne i := inbox_post_of_ne hne i

end Shared
end RobotSession
