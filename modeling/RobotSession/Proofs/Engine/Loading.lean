import RobotSession.Proofs.Engine.Outcome
import RobotSession.Proofs.Engine.Owner
import RobotSession.Proofs.Lua.Dispatch
import RobotSession.Proofs.Text.Utf8

/-!
# How a module is loaded

A file is taken for a program only if it is UTF-8. Its text is then read twice: first with `return`
before it, and by itself only if that is no program. So a list of expressions is a module, too,
and a text that is a single call has the results of the call.

Once there is a program, it is called, and what it does on the way is up to it. What has come of it
in the end depends on its first result.

* `Verdict` — what is said of a program that has been evaluated.
* `Engine.evaluating` — an engine begins to evaluate a program.
* `Engine.plainly` — it takes a content for a program as it stands.
* `Engine.Loads` — what comes of it.
* `Engine.module_of_file` — how a file is loaded.
-/

namespace RobotSession

open Lua Lua.Library
open Text (octets)

/-! ### What is said of a program -/

/-- **What is said of a program that has been evaluated**, with the store as it is then. -/
inductive Verdict (h : Heap) : Except Value (List Value) → Completion → Prop
  /-- Its first result is a table. -/
  | accepted {values : List Value} {table : Nat} (hfirst : values.headD .nil = .table table) :
      Verdict h (.ok values) (.module table)
  /-- Its first result is something else, or it returns nothing, which counts as `nil`. -/
  | rejected {values : List Value} (hcalm : h.panics (values.headD .nil) = false)
      (hfirst : ∀ table, values.headD .nil ≠ .table table) :
      Verdict h (.ok values)
        (.failed (.notATable (Exchange.typeName h (h.handed (values.headD .nil)))))
  /-- It has raised an error. -/
  | raised {e : Value} {f : HostError} (hfailure : Exchange.failure e h = (.ok f, h)) :
      Verdict h (.error e) (.failed (.moduleLoad f.message))
  /-- A panic that the script has caught goes on: the script has returned or raised it. -/
  | panicked {result : Except Value (List Value)} {id : Nat} {p : Payload}
      (hfirst : firstOf result = .object id) (hobject : h.object id = .panic (some p)) :
      Verdict h result (.panicked p)

namespace Engine

variable {e e' : Engine} {s s' : Shared}

/-- What is said of a program whose call has come to this on the host's side. -/
def judged (h : Heap) : Outcome → Completion
  | .value (.table id) => .module id
  | .value v => .failed (.notATable (Exchange.typeName h v))
  | .error message => .failed (.moduleLoad message)
  | .panic p => .panicked p

theorem settle_of_load (htask : e.task = .load) (result : Except Value (List Value)) :
    (e.settle result).1
      = some (judged (e.outcome result true).2.machine.heap (e.outcome result true).1) := by
  unfold settle
  rw [htask]
  dsimp only
  obtain ⟨o, e₁⟩ := e.outcome result true
  cases o with
  | value v =>
    cases v with
    | _ => rfl
  | _ => rfl

/-- **A program that has been evaluated** is judged by its first result. -/
theorem settle_load (htask : e.task = .load) (result : Except Value (List Value)) :
    ∃ c, (e.settle result).1 = some c ∧ Verdict e.machine.heap result c := by
  rw [settle_of_load htask]
  refine ⟨_, rfl, ?_⟩
  cases result with
  | ok values =>
    -- a value that panics is told apart before its kind is looked at
    cases hpanics : e.machine.heap.panics (values.headD .nil) with
    | true =>
      obtain ⟨id, p, hfirst, hobject⟩ := Heap.panics_iff.mp hpanics
      rw [outcome_of_panics hfirst hobject]
      exact .panicked hfirst hobject
    | false =>
      rw [outcome_of_calm hpanics]
      cases hfirst : values.headD .nil with
      | table id => exact .accepted hfirst
      | object id =>
        -- an object of the host is no table, whatever it is handed out as
        have hhanded : judged e.machine.heap (.value (e.machine.heap.handed (.object id)))
            = .failed (.notATable (Exchange.typeName e.machine.heap
              (e.machine.heap.handed (.object id)))) := by
          unfold Heap.handed
          dsimp only
          split
          · rfl
          · rfl
        rw [hhanded, ← hfirst]
        exact .rejected hpanics fun table htable => nomatch hfirst.symm.trans htable
      | _ =>
        have hrejected := Verdict.rejected hpanics fun table htable => nomatch hfirst.symm.trans htable
        rw [hfirst] at hrejected
        exact hrejected
  | error v =>
    rcases Machine.failure_cases v e.machine.heap with ⟨f, hf⟩ | ⟨id, p, rfl, hobject, -⟩
    · rw [outcome_of_failure hf]
      exact .raised hf
    · rw [outcome_of_raised_panic hobject]
      exact .panicked rfl hobject

end Engine

/-- There is one verdict. -/
theorem Verdict.unique {h : Heap} {result : Except Value (List Value)} {c c' : Completion}
    (hc : Verdict h result c) (hc' : Verdict h result c') : c = c' := by
  -- the verdict is read off the first value or the failure, so that two of them clash or agree
  cases hc with
  | accepted hfirst =>
    cases hc' with
    | accepted hfirst' => rw [Value.table.inj (hfirst.symm.trans hfirst')]
    | rejected hcalm hno => exact absurd hfirst (hno _)
    | panicked hfirst' hobject => exact nomatch hfirst.symm.trans hfirst'
  | rejected hcalm hno =>
    cases hc' with
    | accepted hfirst' => exact absurd hfirst' (hno _)
    | rejected hcalm' hno' => rfl
    | panicked hfirst' hobject =>
      exact nomatch hcalm.symm.trans (Heap.panics_iff.mpr ⟨_, _, hfirst', hobject⟩)
  | raised hfailure =>
    cases hc' with
    | raised hfailure' =>
      have hf := hfailure.symm.trans hfailure'
      rw [Except.ok.inj (Prod.mk.inj hf).1]
    | panicked hfirst' hobject =>
      obtain rfl := hfirst'
      exact nomatch hfailure.symm.trans (Exchange.failure_of_panic hobject)
  | panicked hfirst hobject =>
    cases hc' with
    | accepted hfirst' => exact nomatch hfirst.symm.trans hfirst'
    | rejected hcalm hno =>
      exact nomatch hcalm.symm.trans (Heap.panics_iff.mpr ⟨_, _, hfirst, hobject⟩)
    | raised hfailure =>
      obtain rfl := hfirst
      exact nomatch hfailure.symm.trans (Exchange.failure_of_panic hobject)
    | panicked hfirst' hobject' =>
      obtain rfl := Value.object.inj (hfirst.symm.trans hfirst')
      rw [Option.some.inj (HostObject.panic.inj (hobject.symm.trans hobject'))]

/-! ### What a file is taken for -/

namespace Engine

variable {e e' e₁ : Engine} {s s₁ s₂ : Shared} {path content : ByteArray}

/-- The name of the program in a file. -/
def programName (path : ByteArray) : ByteArray :=
  octets ("@" ++ Text.Utf8.lossy path)

/-- How a source that is no program is refused. -/
def refusal : LoadFault → SessionError
  | .source message => .moduleLoad (HostError.source (Text.Utf8.lossy message)).reason
  | .tooDeep => .moduleLoad (HostError.runtime "C stack overflow").reason

/-- **An engine begins to evaluate a program**: it calls the main function over its globals. -/
def evaluating (e : Engine) (c : Chunk) : Engine :=
  let (f, machine) := e.machine.work (c.enter (.table e.machine.heap.globals))
  { e with machine }.call f [] .load

/-- A text is taken for a program as it stands. -/
def plainly (e : Engine) (path content : ByteArray) : Except SessionError Engine :=
  match Chunk.load (programName path) content with
  | .ok c => .ok (e.evaluating c)
  | .error f => .error (refusal f)

/-- A text is read twice. -/
theorem load_eq (e : Engine) (path : ByteArray) (source : String) :
    e.load path source
      = match Chunk.ofText (programName path) (octets "return " ++ octets source).toList with
        | .ok c => .ok (e.evaluating c)
        | .error _ => e.plainly path (octets source) := by
  unfold load Chunk.evaluated plainly
  dsimp only
  unfold programName
  -- the source is tried as an expression first, and only then as it is
  cases Chunk.ofText (octets ("@" ++ Text.Utf8.lossy path))
      (octets "return " ++ octets source).toList with
  | ok c => rfl
  | error f =>
    dsimp only
    cases Chunk.load (octets ("@" ++ Text.Utf8.lossy path)) (octets source) with
    | ok c => rfl
    | error f => cases f with
      | _ => rfl

/-- Whatever is evaluated is evaluated as a module. -/
theorem task_of_loadFile (h : e.loadFile s path = .ok e') : e'.task = .load := by
  -- in either way of loading, what is loaded is an engine that evaluates a program
  obtain ⟨c, rfl⟩ : ∃ c, e' = e.evaluating c := by
    unfold loadFile at h
    cases hread : s.files.readText path with
    | error f =>
      rw [hread] at h
      cases h
    | ok source =>
      rw [hread] at h
      change e.load path source = _ at h
      rw [load_eq] at h
      unfold plainly at h
      split at h
      · exact ⟨_, (Except.ok.inj h).symm⟩
      · split at h
        · exact ⟨_, (Except.ok.inj h).symm⟩
        · cases h
  rfl

/-- What happens while the owner of an engine waits for it. -/
def Meanwhile (x : Engine × Shared) (l : Deed) (y : Engine × Shared) : Prop :=
  Move x l y ∧ l.isInner = true

/-- While a module is evaluated, nothing else is begun. -/
theorem task_meanwhile {happened : List Deed} (hrun : Run Meanwhile (e, s) happened (e₁, s₁))
    (htask : e.task = .load) : e₁.task = .load :=
  hrun.invariant (P := fun x => x.1.task = .load)
    (fun {x l y} hx hmove => by
      obtain ⟨e, s⟩ := x
      obtain ⟨e', s'⟩ := y
      obtain ⟨hmove, hinner⟩ := hmove
      obtain ⟨hkept, -⟩ := inner_frame hmove hinner
      exact hkept.trans hx) htask

/-- **How a module is loaded.**

A file that cannot be read is not found, and neither is one whose octets are not UTF-8. A text is
read with `return` before it, and evaluated so if that is a program; only if not is it loaded as it
stands, and refused with what is wrong with it then.

Whatever the program does until it is done, the verdict is about the first value that it returns, or
the error that it has raised, and there is one verdict. -/
theorem module_of_file (e : Engine) (s : Shared) (path : ByteArray) :
    (∀ f, s.files.readOctets path = .error f →
        e.loadFile s path = .error (.scriptNotFound path f.message))
      ∧ (∀ content, s.files.readOctets path = .ok content →
        (Text.Utf8.decode? content = none →
          e.loadFile s path = .error (.scriptNotFound path FileFault.notText.message))
        ∧ ∀ text, Text.Utf8.decode? content = some text →
          (∀ c, Chunk.ofText (programName path) (octets "return " ++ content).toList = .ok c →
            e.loadFile s path = .ok (e.evaluating c))
          ∧ ∀ f, Chunk.ofText (programName path) (octets "return " ++ content).toList = .error f →
            e.loadFile s path = e.plainly path content)
      ∧ ∀ e', e.loadFile s path = .ok e' → ∀ s₁ happened e₁ s₂ result,
        Run Meanwhile (e', s₁) happened (e₁, s₂) → e₁.machine.mode = .ended result →
        ∀ completion, (e₁.settle result).1 = some completion
          ↔ Verdict e₁.machine.heap result completion := by
  -- the file is unreadable, not text, or text; only for text is the chunk compiled, first as an
  -- expression
  refine ⟨fun f hread => ?_, fun content hread => ⟨fun hno => ?_, fun text htext => ?_⟩, ?_⟩
  · unfold loadFile
    rw [Files.readText_of_not_readOctets hread]
  · unfold loadFile
    rw [Files.readText_of_readOctets hread, hno]
  · have hload : e.loadFile s path = e.load path text := by
      unfold loadFile
      rw [Files.readText_of_readOctets hread, htext]
    have hcontent : octets text = content := (Text.Utf8.eq_of_decode? htext).symm
    rw [hload, load_eq, hcontent]
    refine ⟨fun c hchunk => ?_, fun f hno => ?_⟩
    · rw [hchunk]
    · rw [hno]
  · -- whatever was compiled, the task is a load until it ends, and `settle_load` reads the verdict
    -- off the result
    intro e' hload s₁ happened e₁ s₂ result hrun hended completion
    have htask := task_meanwhile hrun (task_of_loadFile hload)
    obtain ⟨c, hc, hverdict⟩ := settle_load htask result
    rw [hc]
    refine ⟨fun hcompletion => ?_, fun h => ?_⟩
    · obtain rfl := Option.some.inj hcompletion
      exact hverdict
    · rw [hverdict.unique h]

/-! ### Modules that are loaded -/

/-- **What comes of loading a module**: it is refused at once, or judged once it is done. -/
inductive Loads (s : Shared) : Except SessionError Engine → Completion → Prop
  | refused {err : SessionError} : Loads s (.error err) (.failed err)
  | judged {e e₁ : Engine} {s₁ : Shared} {happened : List Deed} {result : Except Value (List Value)}
      {c : Completion} (hrun : Run Meanwhile (e, s) happened (e₁, s₁))
      (hended : e₁.machine.mode = .ended result) (hsettle : (e₁.settle result).1 = some c) :
      Loads s (.ok e) c

/-- What comes of a module that asks for nothing while it is evaluated. -/
def comesTo (loaded : Except SessionError Engine) (fuel : Nat) : Option Completion :=
  match loaded with
  | .error err => some (.failed err)
  | .ok e =>
    let e := { e with machine := e.machine.advance fuel }
    match e.machine.mode with
    | .ended result => (e.settle result).1
    | _ => none

theorem loads_of_comesTo {loaded : Except SessionError Engine} {fuel : Nat} {c : Completion}
    (h : comesTo loaded fuel = some c) (s : Shared) : Loads s loaded c := by
  unfold comesTo at h
  cases loaded with
  | error err =>
    obtain rfl := Option.some.inj h
    exact .refused
  | ok e =>
    -- a machine that does not wait can always make its next step
    have hstep : ∀ {e : Engine} {s : Shared}, e.machine.isWaiting = false →
        Meanwhile (e, s) .step ({ e with machine := e.machine.step }, s) :=
      fun hgo => ⟨.step hgo, rfl⟩
    obtain ⟨steps, hrun⟩ := run_advance_of hstep e s fuel
    dsimp only at h
    split at h
    · rename_i result hended
      exact .judged hrun hended h
    · cases h

/-- Whether a module has been accepted. -/
def isModule : Option Completion → Bool
  | some (.module _) => true
  | _ => false

theorem loads_module {loaded : Except SessionError Engine} (fuel : Nat)
    (h : isModule (comesTo loaded fuel) = true) (s : Shared) :
    ∃ table, Loads s loaded (.module table) := by
  unfold isModule at h
  split at h
  · exact ⟨_, loads_of_comesTo ‹_› s⟩
  · cases h

/-- A value of this type has been refused for a module. -/
def isNotATable (type : String) : Completion → Bool
  | .failed (.notATable type') => type' == type
  | _ => false

theorem isNotATable_iff {type : String} {c : Completion} :
    isNotATable type c = true ↔ c = .failed (.notATable type) := by
  unfold isNotATable
  split
  · simp
  · rename_i hother
    exact ⟨nofun, fun hc => (hother type hc).elim⟩

theorem exists_error {ε α : Type} {x : Except ε α} (h : x.isOk = false) : ∃ e, x = .error e := by
  cases x with
  | ok a => cases h
  | error e => exact ⟨e, rfl⟩

/-- A file with this content. -/
def holding (content : ByteArray) : Shared :=
  { files := { entries := [([[114]], some content)] } }

/-- A program that returns a table is no program with `return` before it, and loaded as it stands. -/
theorem module_of_file_table :
    let content := "return \x7b\x7d".toUTF8
    let s := holding content
    let e := opened 0 1000 0 []
    e.loadFile s ⟨#[114]⟩ = e.plainly ⟨#[114]⟩ content
      ∧ ∃ table, Loads s (e.loadFile s ⟨#[114]⟩) (.module table) := by
  intro content s e
  obtain ⟨-, hfile, hjudged⟩ := module_of_file e s ⟨#[114]⟩
  obtain ⟨-, htext⟩ := hfile content (by decide +kernel)
  -- `return return {}` is no chunk, so the content is compiled once more as it stands.
  have hno : (Chunk.ofText (programName ⟨#[114]⟩) (octets "return " ++ content).toList).isOk
      = false := by
    decide +kernel
  have hplain : e.loadFile s ⟨#[114]⟩ = e.plainly ⟨#[114]⟩ content := by
    obtain ⟨-, hplain⟩ := htext "return \x7b\x7d" (by decide +kernel)
    obtain ⟨m, hm⟩ := exists_error hno
    exact hplain m hm
  refine ⟨hplain, ?_⟩
  have hends : isModule (comesTo (e.loadFile s ⟨#[114]⟩) 100) = true := by decide +kernel
  exact loads_module 100 hends s

/-- **Files that are not loaded as they stand**: an expression is no program, but accepted; so is a
single call, which as a program returns nothing; and a program with octets that are not UTF-8 is
not found. -/
theorem not_every_module_plain :
    let e := opened 0 1000 0 []
    let expression := "\x7b\x7d".toUTF8
    let call := "setmetatable(\x7b\x7d, \x7b\x7d)".toUTF8
    let remark := "return \x7b\x7d".toUTF8 ++ ⟨#[45, 45, 255]⟩
    ((∃ table, Loads (holding expression) (e.loadFile (holding expression) ⟨#[114]⟩) (.module table))
        ∧ ∃ err, e.plainly ⟨#[114]⟩ expression = .error err)
      ∧ ((∃ table, Loads (holding call) (e.loadFile (holding call) ⟨#[114]⟩) (.module table))
        ∧ Loads (holding call) (e.plainly ⟨#[114]⟩ call) (.failed (.notATable "nil")))
      ∧ e.loadFile (holding remark) ⟨#[114]⟩
          = .error (.scriptNotFound ⟨#[114]⟩ "stream did not contain valid UTF-8")
        ∧ ∃ table, Loads (holding remark) (e.plainly ⟨#[114]⟩ remark) (.module table) := by
  intro e expression call remark
  have hexpression : (e.plainly ⟨#[114]⟩ expression).isOk = false := by
    decide +kernel
  obtain ⟨c, hcomes, hcall⟩ := (Option.any_eq_true _ _).mp
    (show (comesTo (e.plainly ⟨#[114]⟩ call) 100).any (isNotATable "nil") = true by decide +kernel)
  have hread : (holding remark).files.readOctets ⟨#[114]⟩ = .ok remark := by
    decide +kernel
  have hdecode : Text.Utf8.decode? remark = none := by
    decide +kernel
  -- as an expression each content gives a table; as a chunk the first does not compile, the second
  -- returns nothing, and the third is never compiled at all
  refine ⟨⟨loads_module 100 (by decide +kernel) _, ?_⟩,
    ⟨loads_module 100 (by decide +kernel) _, ?_⟩, ?_,
    loads_module 100 (by decide +kernel) _⟩
  · exact exists_error hexpression
  · rw [isNotATable_iff.mp hcall] at hcomes
    exact loads_of_comesTo hcomes _
  · unfold loadFile
    rw [Files.readText_of_readOctets hread, hdecode]
    rfl

end Engine
end RobotSession
