import RobotSession.Proofs.Json.Faithful
import RobotSession.Proofs.Session.Timestamp
import RobotSession.Proofs.Session.Uuid
import RobotSession.Session.Report
import RobotSession.Settings.Basic

/-!
# Reports and settings that were written

Everything that is written as JSON is read as the value that it was: settings, reports,
diagnostics, and the enumerations in them. So a text that is read and written again is the same
from then on, however it was spelled at first.

* `Codec.Faithful.roundTrips` — for every faithful codec.
* `Report.faithful`, `Dispatch.faithful`, `Settings.faithful` — the records.
* `serialized_roundTrips` — all of them.
-/

namespace RobotSession

open Json

namespace Json.Codec

variable {α : Type} {c : Codec α}

/-- A text that is read and written again. -/
def rewritten (c : Codec α) (octets : List UInt8) : Except Failure (List UInt8) :=
  (c.decode octets).map c.encode

/-- **A codec goes round** if what is written is read as the value that it was. -/
structure RoundTrips (c : Codec α) : Prop where
  decode_encode : ∀ a, c.decode (c.encode a) = .ok a
  /-- What is written is a text. -/
  encodeText : ∀ a, (c.encodeText a).toUTF8.toList = c.encode a
  /-- A text that is accepted and written again is written the same from then on. -/
  rewritten : ∀ octets out, c.rewritten octets = .ok out → c.rewritten out = .ok out

namespace Faithful

/-- **What has been encoded is decoded as it was.** -/
theorem decode_encode (h : c.Faithful) (a : α) : c.decode (c.encode a) = .ok a := by
  have hreads := h.reads a [] ⟨1, 0⟩ nofun
  rw [List.append_nil] at hreads
  unfold decode encode
  dsimp only
  rw [Reader.bind_ok hreads]
  rfl

/-- **A faithful codec** gives back every value, and writes what it has read in one way. -/
theorem roundTrips (h : c.Faithful) : c.RoundTrips where
  decode_encode := h.decode_encode
  encodeText a := by
    obtain ⟨s, hs⟩ := h.isText a
    unfold Codec.encodeText encode
    rw [hs, Text.toByteArray_toList, Text.Utf8.lossy_toUTF8]
  rewritten octets out hout := by
    -- what was written once is read as the same value, and written alike
    unfold Codec.rewritten at hout ⊢
    cases hdecode : c.decode octets with
    | error f =>
      rw [hdecode] at hout
      cases hout
    | ok a =>
      rw [hdecode] at hout
      cases hout
      rw [h.decode_encode]
      rfl

/-- A number of 64 bits is within the bounds of its type. -/
theorem word64 (type : String) : (Codec.word64 type).Faithful := by
  refine whole (fun n => ?_) (fun n => ?_)
  · have hlt := n.toNat_lt
    rw [if_pos ⟨Int.natCast_nonneg _, by unfold UInt64.size; omega⟩, Int.toNat_natCast,
      UInt64.ofNat_toNat]
  · have hlt := n.toNat_lt
    unfold Reader.largest UInt64.size
    omega

/-- So is one of 32 bits. -/
theorem word32 (type : String) : (Codec.word32 type).Faithful := by
  refine whole (fun n => ?_) (fun n => ?_)
  · have hlt := n.toNat_lt
    rw [if_pos ⟨Int.natCast_nonneg _, by unfold UInt32.size; omega⟩, Int.toNat_natCast,
      UInt32.ofNat_toNat]
  · have hlt := n.toNat_lt
    unfold Reader.largest UInt64.size
    omega

/-- So is one of 32 bits with a sign. -/
theorem signed32 (type : String) : (Codec.signed32 type).Faithful := by
  refine whole (fun n => ?_) (fun n => ?_)
  · have hle := n.le_toInt
    have hlt := n.toInt_lt
    rw [if_pos ⟨by omega, by omega⟩, Int32.ofInt_toInt]
  · have hle := n.le_toInt
    have hlt := n.toInt_lt
    unfold Reader.largest UInt64.size
    omega

end Faithful
end Json.Codec

open Json.Codec (Faithful)

/-! ### Enumerations -/

/-- Each of the names stands for what it has been written for. -/
theorem Delivery.faithful : Delivery.codec.Faithful :=
  .enumeration fun a => by cases a <;> rfl

/-- So it is with the states of a bridge. -/
theorem BridgeState.faithful : BridgeState.codec.Faithful :=
  .enumeration fun a => by cases a <;> rfl

/-- So it is with the ways in which a program ends. -/
theorem Termination.faithful : Termination.codec.Faithful :=
  .enumeration fun a => by cases a <;> rfl

/-- So it is with the phases of a worker. -/
theorem WorkerPhase.faithful : WorkerPhase.codec.Faithful :=
  .enumeration fun a => by cases a <;> rfl

/-- So it is with severities. -/
theorem Severity.faithful : Severity.codec.Faithful :=
  .enumeration fun a => by cases a; rfl

/-- So it is with the kinds of diagnostics. -/
theorem DiagnosticKind.faithful : DiagnosticKind.codec.Faithful :=
  .enumeration fun a => by cases a <;> rfl

/-! ### Plain values -/

/-- An identifier is read from the form with hyphens in which it is written. -/
theorem Uuid.faithful : Uuid.codec.Faithful :=
  .parsed fun u => by rw [read_write]; rfl

/-- A point in time is read from the form in which it is written, in UTC. -/
theorem Timestamp.faithful : Timestamp.codec.Faithful :=
  .parsed fun t => by rw [read_write]; rfl

namespace Number.Duration

/-- A span is that of its seconds and the nanoseconds beyond them. -/
theorem ofNanoseconds?_parts (d : Duration) :
    ofNanoseconds? ((UInt64.ofNat d.seconds).toNat * second
      + (UInt32.ofNat d.subsecond).toNat) = some d := by
  have hseconds : d.seconds < UInt64.size :=
    (Nat.div_lt_iff_lt_mul (by decide)).mpr d.nanoseconds_lt
  have hsubsecond : d.subsecond < UInt32.size :=
    Nat.lt_trans (Nat.mod_lt _ (by decide)) (by decide)
  -- neither part is cut off by its width, and together they are the whole
  rw [UInt64.toNat_ofNat_of_lt' hseconds, UInt32.toNat_ofNat_of_lt' hsubsecond,
    show d.seconds * second + d.subsecond = d.nanoseconds from Nat.div_add_mod' ..]
  unfold ofNanoseconds?
  rw [dif_pos d.nanoseconds_lt]

/-- The span of parts that have been read, by any function: the limit of a span is too large a
number to compute with. -/
def ofParts (f : Nat → Option Duration) : Option UInt64 → Option UInt32 → Except Mismatch Duration
  | none, _ => .error (.missingField "secs")
  | _, none => .error (.missingField "nanos")
  | some s, some n =>
    match f (s.toNat * second + n.toNat) with
    | some d => .ok d
    | none => .error (.custom "overflow deserializing Duration")

/-- Seconds and nanoseconds make up the duration that has been written as both. -/
theorem ofParts_eq {f : Nat → Option Duration} {s : UInt64} {n : UInt32} {d : Duration}
    (h : f (s.toNat * second + n.toNat) = some d) : ofParts f (some s) (some n) = .ok d := by
  unfold ofParts
  dsimp only
  rw [h]

/-- Both have been read. -/
theorem ofDraft_eq {x : Draft} {s : UInt64} {n : UInt32} {d : Duration}
    (hs : x.seconds = some s) (hn : x.nanoseconds = some n)
    (h : ofNanoseconds? (s.toNat * second + n.toNat) = some d) : ofDraft x = .ok d := by
  have hparts : ofDraft x = ofParts ofNanoseconds? x.seconds x.nanoseconds := rfl
  rw [hparts, hs, hn]
  exact ofParts_eq h

end Number.Duration

/-- **A duration** is written as a record of its seconds and the nanoseconds that are left. -/
theorem Number.Duration.faithful : Number.Duration.codec.Faithful := by
  refine .record (by decide) fun d => ?_
  have hfinish : ofDraft ⟨some (UInt64.ofNat d.seconds), some (UInt32.ofNat d.subsecond)⟩ = .ok d :=
    ofDraft_eq rfl rfl d.ofNanoseconds?_parts
  exact ⟨_, .of (.word64 _) rfl (.of (.word32 _) rfl .nil), hfinish⟩

/-! ### Records -/

/-- The settings of an engine are read field by field. -/
theorem EngineSettings.faithful : EngineSettings.codec.Faithful :=
  .record (by decide) fun _ => ⟨_, .of (.word32 _) rfl .nil, rfl⟩

/-- So are those of a simulation. -/
theorem SimSettings.faithful : SimSettings.codec.Faithful :=
  .record (by decide) fun _ => ⟨_, .of (.list .text) rfl .nil, rfl⟩

/-- So are those of the program. -/
theorem Settings.faithful : Settings.codec.Faithful :=
  .record (by decide) fun _ =>
    ⟨_, .of (.word64 _) rfl (.of (.word32 _) rfl (.of SimSettings.faithful rfl .nil)), rfl⟩

/-- **A report** is a record in which the answer to an end request may be `null`. -/
theorem Report.faithful : Report.codec.Faithful := by
  refine .record (by decide) fun r => ?_
  have hrequest : (Codec.optional Delivery.codec).Faithful :=
    .optional Delivery.faithful fun a => show some 34 ≠ some 110 by decide
  have hfills : Schema.Fills r Report.schema.fields Report.schema.start _ :=
    .of Uuid.faithful rfl <| .of Termination.faithful rfl <| .of (.list BridgeState.faithful) rfl <|
      .of hrequest rfl <| .of .boolean rfl <| .of (.word64 _) rfl <|
      .of Number.Duration.faithful rfl .nil
  exact ⟨_, hfills, rfl⟩

/-- **A dispatch** is a record of a diagnostic and the time at which it was reported. -/
theorem Dispatch.faithful : Dispatch.codec.Faithful := by
  refine .record (by decide) fun d => ?_
  have hfills : Schema.Fills d Dispatch.schema.fields Dispatch.schema.start _ :=
    .of Severity.faithful rfl <| .of (.signed32 _) rfl <| .of .text rfl <|
      .of DiagnosticKind.faithful rfl <| .of .text rfl <| .of Timestamp.faithful rfl .nil
  exact ⟨_, hfills, rfl⟩

/-- **Everything that is written as JSON goes round**: the settings of the program, of the host and
of an engine, the answers to an end request, the states of a bridge, the ways to end, the phases of
a worker, diagnostics with their severities and kinds, and the reports of sessions. -/
theorem serialized_roundTrips :
    Settings.codec.RoundTrips ∧ SimSettings.codec.RoundTrips ∧ EngineSettings.codec.RoundTrips
      ∧ Delivery.codec.RoundTrips ∧ BridgeState.codec.RoundTrips ∧ Termination.codec.RoundTrips
      ∧ WorkerPhase.codec.RoundTrips ∧ Severity.codec.RoundTrips
      ∧ DiagnosticKind.codec.RoundTrips ∧ Dispatch.codec.RoundTrips ∧ Report.codec.RoundTrips :=
  ⟨Settings.faithful.roundTrips, SimSettings.faithful.roundTrips,
    EngineSettings.faithful.roundTrips, Delivery.faithful.roundTrips,
    BridgeState.faithful.roundTrips, Termination.faithful.roundTrips,
    WorkerPhase.faithful.roundTrips, Severity.faithful.roundTrips,
    DiagnosticKind.faithful.roundTrips, Dispatch.faithful.roundTrips,
    Report.faithful.roundTrips⟩

end RobotSession
