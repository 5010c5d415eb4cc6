import RobotSession.Proofs.Lua.Dialogue
import RobotSession.Proofs.Lua.Stray
import RobotSession.Proofs.Text.Utf8

/-!
# What `print` writes

`print` looks up the global `tostring`, calls it for one value after the other, and gives the log
a line with the texts. Each of these calls may run any script: it may log lines of its own, wait
for the clock, resume coroutines and have queued calls delivered. All that is a dialogue between
the interpreter and its host (`Machine.Goes`), and `print` goes on where the call has returned.

* `Machine.Returns` — a call that a built-in function made has returned.
* `Machine.LooksUp`, `Machine.Tells` — `print` has found `tostring`, and has got texts for values.
* `Machine.print_writes` — the line that is written, and when there is none.
-/

namespace RobotSession.Lua

open Library
open Text (octets)

namespace Machine

variable {m m' m₁ m₂ : Machine} {happened : List Event} {l : Event}

/-! ### Calls of built-in functions -/

/-- A built-in function calls a value, and goes on with `k` when the call has returned. -/
def calling (m : Machine) (k : Callback) (f : Value) (args : List Value) : Machine :=
  (m.push (.native k)).deeper (·.invoke f args)

/-- **A call has returned** that was made in `m`: what called it is on top again, in the thread in
which it was called, and is given results. -/
structure Returns (m : Machine) (k : Callback) (results : List Value) (m' : Machine) : Prop where
  mode : m'.mode = .give results
  frames : m'.frames = .cont (.native k) m.depth :: m.frames
  current : m'.current = m.current

/-- The state after a call, with the frames of the caller. -/
def back (m m' : Machine) : Machine :=
  { m' with frames := m.frames, depth := m.depth }

/-- What made a call goes on with the results. -/
theorem step_of_returns {k : Callback} {results : List Value} (h : m.Returns k results m') :
    m'.step = (m.back m').act (k.withResults results) none .unknown := by
  obtain ⟨hmode, hframes, -⟩ := h
  -- the frame that waits is on top, and is given the results
  rw [step_of_top hmode hframes]
  rfl

/-- A call that has returned leaves nothing to wait for. -/
theorem isWaiting_of_returns {k : Callback} {results : List Value} (h : m.Returns k results m') :
    m'.isWaiting = false := by
  unfold isWaiting
  rw [h.mode]

/-! ### The work of `print` -/

/-- `print` goes on: it has the texts `done`, the last one first, and asks for those of `rest`. -/
def printing (m : Machine) (t : Value) (done : List String) (rest : List Value) : Machine :=
  match rest with
  | [] => { m with mode := .ask (.native (.logging ("\t".intercalate done.reverse))) }
  | v :: rest => m.calling (.printing t done rest) t [v]

/-- A reply of `print` makes the interpreter go on with the work of `print`. -/
theorem reply_printNext (t : Value) (done : List String) (rest : List Value)
    (callee : Option Native) (origin : Origin) :
    m.reply (Robot.printNext t done rest) callee origin = m.printing t done rest := by
  cases rest with
  | _ => rfl

end Machine

namespace Machine

variable {m m' m₁ m₂ : Machine} {p : Nat} {args rest : List Value} {origin : Origin} {b : Bool}
  {captured : List Value} {done : List String} {t : Value} {results : List Value}
  {happened looked told : List Event}

/-- A value that reads as a text is handed to the host as it is. -/
theorem calm_of_asText? {h : Heap} {v : Value} {s : ByteArray} (htext : Args.asText? v = some s) :
    h.panics v = false ∧ h.handed v = v := by
  cases v with
  | object id => cases htext
  | _ => exact ⟨rfl, rfl⟩

/-- **What `print` does with the first result of a call** that reads as a text: the octets have to
be those of a text on the host's side, too. -/
theorem printed_eq {s : ByteArray} (t : Value) (done : List String) (rest : List Value) (h : Heap)
    (htext : Args.asText? (results.headD .nil) = some s) :
    Robot.printed t done rest results h =
      match Text.Utf8.decode s with
      | .ok s => (.ok (Robot.printNext t (s :: done) rest), h)
      | .error f => (.error (.host (.conversion (Exchange.typeName h (results.headD .nil)) "String"
          (some f.message))), h) := by
  cases results with
  | nil => cases htext
  | cons v vs =>
    rw [List.headD_cons] at htext ⊢
    -- a text, or a number, is no panic and nothing that the host would change
    obtain ⟨hcalm, hhanded⟩ := calm_of_asText? (h := h) htext
    -- what has a text is handed out as it is
    have hvalues : Exchange.values ((v :: vs).take 1) h = (.ok [v], h) := by
      have hone : Exchange.values [v] h = (.ok ([v].map h.handed), h) :=
        Exchange.values_of_calm (by simp [hcalm])
      rwa [List.map_cons, List.map_nil, hhanded] at hone
    unfold Robot.printed
    rw [Body.bind_of_ok hvalues, List.headD_cons, Body.bind_of_ok (b := get) (a := h) rfl]
    -- the octets may still not be UTF-8, although `tostring` gave a string
    cases hdecode : Text.Utf8.decode s with
    | ok s' =>
      have htext' : Exchange.text h v = .ok s' := by
        simp only [Exchange.text, htext, hdecode]
      rw [htext', Body.bind_of_ok (b := Exchange.lift (.ok s')) (a := s') rfl]
      rfl
    | error f =>
      have htext' : Exchange.text h v
          = .error (.conversion (Exchange.typeName h v) "String" (some f.message)) := by
        simp only [Exchange.text, htext, hdecode, Exchange.mismatch]
      rw [htext']
      exact Body.bind_of_error rfl

/-- What `print` begins with: it is handed its arguments, and looks up `tostring`. -/
theorem print_eq {h : Heap} (hcalm : args.any h.panics = false) :
    Robot.print args h =
      match Access.read h (.table h.globals) (.text "tostring") with
      | .value v => Robot.printWith (args.map h.handed) v h
      | .handler f object => (.ok (.call f [object, .text "tostring"]
          (.printLookup (args.map h.handed))), h)
      | .notIndexable o => (.error (.host (.runtime
          s!"attempt to index a {o.typeName} value\nstack traceback:\n\t[C]: in ?")), h)
      | .tooLong => (.error (.host (.runtime
          "'__index' chain too long; possibly a loop\nstack traceback:\n\t[C]: in ?")), h) := by
  unfold Robot.print
  -- calm arguments are converted without a fault, and the heap is as before
  rw [Body.bind_of_ok (Exchange.values_of_calm hcalm), Body.bind_of_ok (b := get) (a := h) rfl,
    Body.bind_of_ok (b := get) (a := h) rfl]
  cases Access.read h (.table h.globals) (.text "tostring") with
  | _ => rfl

/-- `print` goes on with what it has found, which must be a function. -/
theorem printWith_eq (args : List Value) (h : Heap) (found : Value) :
    Robot.printWith args found h =
      match found with
      | .func t => (.ok (Robot.printNext (.func t) [] args), h)
      | v => (.error (.host (.conversion (Exchange.typeName h v) "function" none)), h) := by
  unfold Robot.printWith
  rw [Body.bind_of_ok (b := get) (a := h) rfl]
  cases found with
  | func t => rfl
  | _ => exact Body.bind_of_error rfl

/-! ### From call to call -/

/-- Work that comes to the same on the store is the same. -/
theorem act_congr {w w' : Body Reply} (h : w m.heap = w' m.heap) (callee : Option Native)
    (origin : Origin) : m.act w callee origin = m.act w' callee origin := by
  obtain ⟨heap, threads, current, frames, depth, mode, interval, owner, ticket, robot⟩ := m
  change w heap = w' heap at h
  unfold act work Body.toAct
  dsimp only
  rw [h]

/-- A failure on the host's side is raised, if it leaves the store as it is. -/
theorem act_of_host {w : Body Reply} {e : HostError} (h : w m.heap = (.error (.host e), m.heap))
    (callee : Option Native) (origin : Origin) : m.act w callee origin = m.raiseFailure e :=
  act_of_error h callee origin

/-- **`print` has looked up the global `tostring`**, and found a value: it stands in the table of
globals, or a function in a metatable has been asked for it. -/
inductive LooksUp (m : Machine) (args : List Value) : List Event → Value → Machine → Prop
  | there {found : Value}
      (hread : Access.read m.heap (.table m.heap.globals) (.text "tostring") = .value found) :
      LooksUp m args [] found m
  | asked {f object : Value} {happened : List Event} {results : List Value} {m' : Machine}
      (hread : Access.read m.heap (.table m.heap.globals) (.text "tostring") = .handler f object)
      (hrun : Run Goes (m.calling (.printLookup args) f [object, .text "tostring"]) happened m')
      (hreturns : m.Returns (.printLookup args) results m') :
      LooksUp m args (happened ++ [.step]) (results.headD .nil) (m.back m')

/-- **`print` has got texts**, calling `t` for one value after the other. It begins with the texts
`done` and is to ask for those of some values; it has got some more texts, and has some values
left. -/
inductive Tells (t : Value) : Machine → List String → List Value → List Event →
    List String → List Value → Machine → Prop
  | nothing {m : Machine} {done : List String} {rest : List Value} :
      Tells t m done rest [] [] rest m
  | text {m m' m₁ : Machine} {done texts : List String} {rest left : List Value} {v : Value}
      {happened later : List Event} {results : List Value} {s : String}
      (hrun : Run Goes (m.calling (.printing t done rest) t [v]) happened m')
      (hreturns : m.Returns (.printing t done rest) results m')
      (htext : Args.asText? (results.headD .nil) = some (octets s))
      (h : Tells t (m.back m') (s :: done) rest later texts left m₁) :
      Tells t m done (v :: rest) (happened ++ .step :: later) (s :: texts) left m₁

/-- `print` is called. -/
def Prints (m : Machine) (args : List Value) : Prop :=
  ∃ p origin isMeta captured, m.mode = .call (.func p) args origin isMeta
    ∧ m.heap.function p = .native .print captured

/-- The first step runs `print`. -/
theorem Prints.step (h : m.Prints args) : m.isWaiting = false
    ∧ ∃ origin, m.step = m.act (Robot.print args) (some .print) origin := by
  obtain ⟨p, origin, isMeta, captured, hcall, hprint⟩ := h
  -- a call is no question, so that the interpreter goes on at once
  refine ⟨?_, origin, ?_⟩
  · unfold isWaiting
    rw [hcall]
  · unfold Machine.step
    rw [hcall]
    dsimp only [callValue]
    rw [hprint]
    rfl

variable {texts : List String} {left : List Value} {found : Value}

/-- **`print` looks up `tostring`**, and goes on with what it finds. -/
theorem run_looksUp (h : m.Prints args) (hcalm : args.any m.heap.panics = false)
    (hlook : m.LooksUp (args.map m.heap.handed) looked found m₁) : ∃ callee origin,
    Run Goes m (.step :: looked)
      (m₁.act (Robot.printWith (args.map m.heap.handed) found) callee origin) := by
  obtain ⟨hgo, origin, hstep⟩ := h.step
  have hwork := print_eq hcalm
  -- the function for texts is a field that is there, or a metamethod has to be asked for it
  cases hlook with
  | there hread =>
    rw [hread] at hwork
    have hsame : m.step = m.act (Robot.printWith (args.map m.heap.handed) found) (some .print) origin := by
      rw [hstep]
      exact act_congr hwork _ _
    exact ⟨some .print, origin, hsame ▸ .single (.step hgo)⟩
  | @asked f object happened results m' hread hrun hreturns =>
    rw [hread] at hwork
    have hfirst : m.step = m.calling (.printLookup (args.map m.heap.handed)) f
        [object, .text "tostring"] :=
      hstep.trans (act_of_ok hwork _ _)
    -- the metamethod has returned, and what it gave takes the place of the field
    have hlast := step_of_returns hreturns
    refine ⟨none, .unknown, ?_⟩
    have hall := ((Run.single (.step hgo)).trans (hfirst ▸ hrun)).trans
      (.single (.step (isWaiting_of_returns hreturns)))
    rw [hlast] at hall
    exact hall

/-- **`print` gets one text after the other.** -/
theorem run_tells (h : Tells t m done rest told texts left m₁) :
    Run Goes (m.printing t done rest) told (m₁.printing t (texts.reverse ++ done) left) := by
  induction h with
  | nothing => exact .refl
  | @text m m' m₁ done texts rest left v happened later results s hrun hreturns htext h ih =>
    have hstep : m'.step = (m.back m').printing t (s :: done) rest := by
      have hwork := printed_eq t done rest (m.back m').heap htext
      rw [Text.Utf8.decode_toUTF8] at hwork
      rw [step_of_returns hreturns]
      exact (act_of_ok hwork _ _).trans (reply_printNext ..)
    -- the call has run its own dialogue, and one step more gives its result to `print`
    have hback := Run.single (Goes.step (isWaiting_of_returns hreturns))
    rw [hstep] at hback
    have hall := (hrun.trans hback).trans ih
    rw [List.append_assoc] at hall
    rw [List.reverse_cons, List.append_assoc]
    exact hall

/-- Each call that `print` makes leaves its caller as it is. -/
theorem LooksUp.frame (h : m.LooksUp args looked found m₁) :
    m₁.frames = m.frames ∧ m₁.depth = m.depth ∧ m₁.current = m.current := by
  cases h with
  | there => exact ⟨rfl, rfl, rfl⟩
  | asked hread hrun hreturns => exact ⟨rfl, rfl, hreturns.current⟩

/-- So do the calls for all of its values. -/
theorem Tells.frame (h : Tells t m done rest told texts left m₁) :
    m₁.frames = m.frames ∧ m₁.depth = m.depth ∧ m₁.current = m.current := by
  induction h with
  | nothing => exact ⟨rfl, rfl, rfl⟩
  -- the frames and the depth are put back after each call, the thread is that of the return
  | text hrun hreturns htext h ih =>
    obtain ⟨hframes, hdepth, hcurrent⟩ := ih
    exact ⟨hframes, hdepth, hcurrent.trans hreturns.current⟩

/-- When the log has answered, `print` returns nothing. -/
theorem answer_printing {a : Answer} (ha : ∀ payload, a ≠ .panicked payload) :
    (m.printing t done []).answer a = m.give [] := by
  cases a with
  | panicked payload => exact absurd rfl (ha payload)
  | _ => rfl

/-- **What `print` writes.** It has looked up the global `tostring`, with whatever dialogue that
took, and has called it for its arguments one after the other.

If all these calls have returned texts, it gives the log one line, the texts in the order of the
arguments with tabs between them, and returns nothing to its caller. The calls may have logged
lines of their own; `print` adds this one only. If a call returns octets that are not UTF-8, `print`
raises an error instead and logs nothing, and so it does if what it has found is no function. -/
theorem print_writes (h : m.Prints args) (hcalm : args.any m.heap.panics = false)
    (hlook : m.LooksUp (args.map m.heap.handed) looked found m₁) :
    (∀ p, found = .func p → ∀ told texts left m₂,
        Tells found m₁ [] (args.map m.heap.handed) told texts left m₂ →
        (left = [] → ∀ a, (∀ payload, a ≠ .panicked payload) →
          let line := "\t".intercalate texts
          let happened := .step :: (looked ++ told ++ [.answer (.log line) a])
          (∀ y, Run Goes m happened y ↔ y = m₂.give [])
            ∧ lines happened = lines looked ++ lines told ++ [line]
            ∧ m₂.frames = m.frames ∧ m₂.depth = m.depth ∧ m₂.current = m.current)
        ∧ ∀ v rest calling results m₃ octets f, left = v :: rest →
          Run Goes (m₂.calling (.printing found texts.reverse rest) found [v]) calling m₃ →
          m₂.Returns (.printing found texts.reverse rest) results m₃ →
          Args.asText? (results.headD .nil) = some octets → Text.Utf8.decode octets = .error f →
          let happened := .step :: (looked ++ told ++ calling ++ [.step])
          (∀ y, Run Goes m happened y ↔ y = (m₂.back m₃).raiseFailure (.conversion
            (Exchange.typeName m₃.heap (results.headD .nil)) "String" (some f.message)))
            ∧ lines happened = lines looked ++ lines told ++ lines calling)
      ∧ ((∀ p, found ≠ .func p) → ∀ y, Run Goes m (.step :: looked) y
        ↔ y = m₁.raiseFailure (.conversion (Exchange.typeName m₁.heap found) "function" none)) := by
  have hunique : ∀ {happened : List Event} {y : Machine}, Run Goes m happened y →
      ∀ y', Run Goes m happened y' ↔ y' = y := by
    intro happened y hrun y'
    refine ⟨fun hrun' => run_unique hrun' hrun, ?_⟩
    rintro rfl
    exact hrun
  -- what has happened determines the run, so that it is enough to follow one
  obtain ⟨callee, origin, hbegins⟩ := run_looksUp h hcalm hlook
  have hwork := printWith_eq (args.map m.heap.handed) m₁.heap found
  refine ⟨?_, fun hno => ?_⟩
  · rintro p rfl told texts left m₂ htells
    -- up to here `print` has got texts
    have htold : Run Goes m (.step :: (looked ++ told))
        (m₂.printing (.func p) texts.reverse left) := by
      rw [act_of_ok hwork, reply_printNext] at hbegins
      have hall := hbegins.trans (run_tells htells)
      rwa [List.append_nil] at hall
    refine ⟨?_, ?_⟩
    · -- no value is left: the line is logged, and the answer gives nothing to the caller
      rintro rfl a ha
      have hlogs : Goes (m₂.printing (.func p) texts.reverse []) (.answer (.log ("\t".intercalate texts)) a)
          (m₂.give []) := by
        have hline : (Waiting.native (.logging ("\t".intercalate texts.reverse.reverse))).question
            = .log ("\t".intercalate texts) := by
          rw [List.reverse_reverse]
          rfl
        have hanswer := Goes.answer (m := m₂.printing (.func p) texts.reverse []) rfl hline a
        rwa [answer_printing ha] at hanswer
      have hall := htold.trans (.single hlogs)
      obtain ⟨hframes, hdepth, hcurrent⟩ := htells.frame
      obtain ⟨hframes', hdepth', hcurrent'⟩ := hlook.frame
      refine ⟨hunique hall, ?_, hframes.trans hframes', hdepth.trans hdepth',
        hcurrent.trans hcurrent'⟩
      rw [lines_step, lines_append, lines_append]
      rfl
    · -- a value is left, and its text cannot be held on the host's side
      rintro v rest calling results m₃ octets f rfl hrun hreturns htext hdecode
      have hfails : m₃.step = (m₂.back m₃).raiseFailure (.conversion
          (Exchange.typeName m₃.heap (results.headD .nil)) "String" (some f.message)) := by
        have hprinted := printed_eq (.func p) texts.reverse rest (m₂.back m₃).heap htext
        rw [hdecode] at hprinted
        rw [step_of_returns hreturns]
        exact act_of_host hprinted _ _
      have hlast := Run.single (Goes.step (isWaiting_of_returns hreturns))
      rw [hfails] at hlast
      have hall := (htold.trans hrun).trans hlast
      refine ⟨hunique hall, ?_⟩
      rw [lines_step, lines_append, lines_append, lines_append]
      exact List.append_nil _
  · -- what has been found is no function, and `print` refuses it before it calls anything
    have hfails := act_of_host (m := m₁) (w := Robot.printWith (args.map m.heap.handed) found)
      (e := .conversion (Exchange.typeName m₁.heap found) "function" none) (by
        rw [hwork]
        cases found with
        | func p => exact absurd rfl (hno p)
        | _ => rfl) callee origin
    rw [hfails] at hbegins
    exact hunique hbegins

/-- A call of `print` where `tostring` is the function that scripts find when they start. -/
def printer (args : List Value) : Machine :=
  { heap := {
      tables := #[({} : Table).setText "tostring" (.func 1)]
      functions := #[.native .print [], .native .tostring []] }
    mode := .call (.func 0) args .unknown false }

/-- A function has been read. -/
def isFunc (p : Nat) : Access.Read → Bool
  | .value (.func q) => q == p
  | _ => false

/-- Only this function is read. -/
theorem isFunc_iff {p : Nat} {r : Access.Read} : isFunc p r = true ↔ r = .value (.func p) := by
  unfold isFunc
  split
  · simp
  · -- what is not a function is not this one
    rename_i hother
    exact ⟨nofun, fun hr => (hother p hr).elim⟩

/-- `print` writes a number and `nil`. -/
theorem print_writes_number : ∃ happened y, Run Goes (printer [.int 3, .nil]) happened y
    ∧ y.mode = .give [] ∧ lines happened = ["3\tnil"] := by
  let m := printer [.int 3, .nil]
  let m₁ := m.calling (.printing (.func 1) [] [.nil]) (.func 1) [.int 3]
  let m₂ := (m.back m₁.step).calling (.printing (.func 1) ["3"] []) (.func 1) [.nil]
  have hprints : m.Prints [.int 3, .nil] := ⟨0, .unknown, false, [], rfl, rfl⟩
  -- the global `tostring` stands in the table of globals
  have hlook : m.LooksUp ([.int 3, .nil].map m.heap.handed) [] (.func 1) m :=
    .there (isFunc_iff.mp (by decide +kernel))
  have htells : Tells (.func 1) m [] ([.int 3, .nil].map m.heap.handed) [.step, .step, .step, .step]
      ["3", "nil"] [] ((m.back m₁.step).back m₂.step) := by
    have hthree : m.Returns (.printing (.func 1) [] [.nil]) [.text "3"] m₁.step := by
      refine ⟨?_, rfl, rfl⟩
      rfl
    have hnil : (m.back m₁.step).Returns (.printing (.func 1) ["3"] []) [.text "nil"] m₂.step := by
      refine ⟨?_, rfl, rfl⟩
      rfl
    -- one step runs `tostring`, which needs no call for a number or `nil`
    exact .text (.single (.step rfl)) hthree rfl
      (.text (.single (.step rfl)) hnil rfl .nothing)
  obtain ⟨hwrites, -⟩ := print_writes hprints rfl hlook
  obtain ⟨hall, -⟩ := hwrites 1 rfl _ _ _ _ htells
  obtain ⟨hrun, hlines, -⟩ := hall rfl .done nofun
  exact ⟨_, _, (hrun _).mpr rfl, rfl, hlines⟩

/-- An error has been raised. -/
def isRaise : Mode → Bool
  | .raise _ => true
  | _ => false

/-- Only an error that is raised counts. -/
theorem isRaise_iff {mode : Mode} : isRaise mode = true ↔ ∃ e, mode = .raise e := by
  cases mode <;> simp [isRaise]

/-- **The octets of a string need not be printed**, though `tostring` gives a string for it:
`print` raises an error and logs nothing. -/
theorem print_refuses_octets :
    let v : Value := .str ⟨#[255]⟩
    let m := printer [v]
    (∃ m', Run Goes (m.calling (.printing (.func 1) [] []) (.func 1) [v]) [.step] m'
        ∧ m.Returns (.printing (.func 1) [] []) [v] m')
      ∧ ∃ y e, Run Goes m [.step, .step, .step] y ∧ y.mode = .raise e := by
  intro v m
  have hraises : isRaise m.step.step.step.mode = true := by
    decide +kernel
  -- `print` is called, calls `tostring`, and is given the octets
  have hsteps : Run Goes m [.step, .step, .step] m.step.step.step :=
    .tail (.tail (.single (.step rfl)) (.step (by decide +kernel))) (.step (by decide +kernel))
  refine ⟨⟨_, .single (.step rfl), by rfl, rfl, rfl⟩, m.step.step.step, ?_⟩
  obtain ⟨e, hmode⟩ := isRaise_iff.mp hraises
  exact ⟨e, hsteps, hmode⟩

end Machine

end RobotSession.Lua
