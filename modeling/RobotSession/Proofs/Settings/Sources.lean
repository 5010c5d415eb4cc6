import RobotSession.Program.Plan
import RobotSession.Proofs.Text.Utf8

/-!
# Where settings come from

The settings of a run come from defaults, from a file, from the environment and from the command
line. A file may be unreadable or make no sense, the value in the environment need not be text,
and any of them may be absent.

* `Listed` — the names in a list with colons between them.
* `Settings.InForce` — the extensions, by the value of the environment variable.
* `Settings.Loaded` — what the file at a path comes to.
* `Request.Given`, `Request.Refused` — the settings that the others are laid over, and when there
  are none.
* `Request.settings_of_refused`, `Request.settings_of_given` — the settings of a run.
-/

namespace RobotSession

open CommandLine
open Text (octets)

/-! ### Lists of names -/

/-- **The names of a list with colons between them**, in order: each is as long as can be, and
colons with nothing between them do not count. -/
inductive Listed : List Char → List String → Prop
  | nil : Listed [] []
  | colon {cs : List Char} {names : List String} (h : Listed cs names) : Listed (':' :: cs) names
  | last {n : List Char} (hsome : n ≠ []) (hcolon : ':' ∉ n) : Listed n [String.ofList n]
  | name {n cs : List Char} {names : List String} (hsome : n ≠ []) (hcolon : ':' ∉ n)
      (h : Listed (':' :: cs) names) : Listed (n ++ ':' :: cs) (String.ofList n :: names)

namespace Settings

/-- The names of a list of characters, as settings split it. -/
def namesOf (cs : List Char) : List String :=
  ((cs.splitOn ':').filter fun n => !n.isEmpty).map String.ofList

/-- A colon at the front separates nothing. -/
theorem namesOf_colon (cs : List Char) : namesOf (':' :: cs) = namesOf cs := by
  have hnone : ∀ c ∈ ([] : List Char), (c == ':') = false := nofun
  have hsplit : (':' :: cs).splitOn ':' = [] :: cs.splitOn ':' :=
    List.splitOnP_append_cons_of_forall_mem hnone ':' (by simp) cs
  simp [namesOf, hsplit]

/-- Without a colon there is one name at most. -/
theorem namesOf_of_not_mem {n : List Char} (hcolon : ':' ∉ n) :
    namesOf n = if n.isEmpty then [] else [String.ofList n] := by
  -- without a colon nothing is split
  have hsplit : n.splitOn ':' = [n] := by
    refine List.splitOnP_eq_singleton fun c hc => ?_
    simp only [beq_eq_false_iff_ne, ne_eq]
    rintro rfl
    exact hcolon hc
  cases n with
  | nil => rfl
  | cons c n => simp [namesOf, hsplit]

/-- A name ends at the next colon. -/
theorem namesOf_append {n : List Char} (hsome : n ≠ []) (hcolon : ':' ∉ n) (cs : List Char) :
    namesOf (n ++ ':' :: cs) = String.ofList n :: namesOf cs := by
  have hsplit : (n ++ ':' :: cs).splitOn ':' = n :: cs.splitOn ':' := by
    refine List.splitOnP_append_cons_of_forall_mem (fun c hc => ?_) ':' (by simp) cs
    simp only [beq_eq_false_iff_ne, ne_eq]
    rintro rfl
    exact hcolon hc
  have hkept : n.isEmpty = false := by simpa using hsome
  simp [namesOf, hsplit, hkept]

theorem listed_namesOf (cs : List Char) : Listed cs (namesOf cs) := by
  -- on the length: what follows the first colon is shorter
  induction hlength : cs.length using Nat.strongRecOn generalizing cs with
  | ind length ih =>
    by_cases hmem : ':' ∈ cs
    · obtain ⟨n, rest, rfl, hcolon⟩ := List.eq_append_cons_of_mem hmem
      have hrest : Listed (':' :: rest) (namesOf rest) := by
        refine .colon (ih rest.length ?_ rest rfl)
        rw [← hlength, List.length_append, List.length_cons]
        omega
      by_cases hsome : n = []
      · subst hsome
        rw [List.nil_append, namesOf_colon]
        exact hrest
      · rw [namesOf_append hsome hcolon]
        exact .name hsome hcolon hrest
    · rw [namesOf_of_not_mem hmem]
      cases cs with
      | nil => exact .nil
      | cons c cs => exact .last (List.cons_ne_nil c cs) hmem

/-! ### The environment -/

/-- **The extensions in force**, by the value of the environment variable and the extensions that
are set otherwise. -/
inductive InForce (otherwise : List String) : Option ByteArray → List String → Prop
  | unset : InForce otherwise none otherwise
  | notText {value : ByteArray} (h : ∀ text : String, value ≠ octets text) :
      InForce otherwise (some value) otherwise
  | empty : InForce otherwise (some (octets "")) otherwise
  | listed {text : String} {names : List String} (hsome : text ≠ "")
      (h : Listed text.toList names) : InForce otherwise (some (octets text)) names

/-- The variable changes nothing but the extensions, and it sets those in force. -/
theorem overrideOctets_inForce (s : Settings) (value : Option ByteArray) :
    ∃ names, s.overrideOctets value = { s with sim := { extensions := names } }
      ∧ InForce s.sim.extensions value names := by
  cases value with
  | none => exact ⟨s.sim.extensions, rfl, .unset⟩
  | some value =>
    cases hdecode : Text.Utf8.decode? value with
    | none =>
      refine ⟨s.sim.extensions, ?_, .notText fun text htext => ?_⟩
      · simp only [overrideOctets, Option.bind_some, hdecode, override]
      · rw [htext, Text.Utf8.decode?_toUTF8] at hdecode
        cases hdecode
    | some text =>
      -- the variable is a text, and counts unless it is empty
      obtain rfl := Text.Utf8.eq_of_decode? hdecode
      by_cases hempty : text = ""
      · subst hempty
        refine ⟨s.sim.extensions, ?_, .empty⟩
        simp only [overrideOctets, Option.bind_some, hdecode, override]
        rfl
      · have hsome : text.isEmpty = false := by
          simpa using hempty
        refine ⟨splitNames text, ?_, .listed hempty (listed_namesOf text.toList)⟩
        simp only [overrideOctets, Option.bind_some, hdecode, override, hsome]
        rfl

/-! ### The file -/

/-- **What the file at a path comes to.** It is read first, then understood, and then looked at
for a time to wait that is zero. -/
inductive Loaded (files : Files) (path : ByteArray) : Except SettingsError Settings → Prop
  | unreadable {f : FileFault} (hread : files.readText path = .error f) :
      Loaded files path (.error (.unreadable path f))
  | malformed {text : String} {f : Json.Failure} (hread : files.readText path = .ok text)
      (hdecode : codec.decode (octets text).toList = .error f) :
      Loaded files path (.error (.malformed f))
  | invalid {text : String} {s : Settings} (hread : files.readText path = .ok text)
      (hdecode : codec.decode (octets text).toList = .ok s) (hzero : s.joinTimeoutMs = 0) :
      Loaded files path (.error (.invalid "join_timeout_ms must be greater than zero"))
  | ok {text : String} {s : Settings} (hread : files.readText path = .ok text)
      (hdecode : codec.decode (octets text).toList = .ok s) (hwait : s.joinTimeoutMs ≠ 0) :
      Loaded files path (.ok s)

theorem loaded_load (files : Files) (path : ByteArray) : Loaded files path (load files path) := by
  unfold load
  -- reading, decoding and validating fail in this order
  cases hread : files.readText path with
  | error f => exact .unreadable hread
  | ok text =>
    cases hdecode : codec.decode text.toUTF8.toList with
    | error f =>
      simp only [hdecode]
      exact .malformed hread hdecode
    | ok s =>
      by_cases hzero : s.joinTimeoutMs = 0
      · simp only [hdecode, validate, if_pos hzero]
        exact .invalid hread hdecode hzero
      · simp only [hdecode, validate, if_neg hzero]
        exact .ok hread hdecode hzero

/-- **A file comes to one thing only**, and it is what loading it gives. -/
theorem loaded_iff {files : Files} {path : ByteArray} {r : Except SettingsError Settings} :
    Loaded files path r ↔ load files path = r := by
  constructor
  · intro h
    unfold load
    cases h with
    | unreadable hread => simp only [hread]
    | malformed hread hdecode => simp only [hread, hdecode]
    | invalid hread hdecode hzero => simp only [hread, hdecode, validate, if_pos hzero]
    | ok hread hdecode hwait => simp only [hread, hdecode, validate, if_neg hwait]
  · rintro rfl
    exact loaded_load files path

end Settings

/-! ### The command line -/

namespace CommandLine.Request

/-- **The settings that the others are laid over**: those of the file that was named, or else the
defaults. -/
inductive Given (r : Request) (files : Files) : Settings → Prop
  | default (hconfig : r.config = none) :
      Given r files
        { joinTimeoutMs := 1000
          hookInterval := 1000
          sim := { extensions := ["halsim_ds_socket", "halsim_gui"] } }
  | file {path : ByteArray} {s : Settings} (hconfig : r.config = some path)
      (hload : Settings.Loaded files path (.ok s)) : Given r files s

/-- **There are no settings with which to run**: the file that was named is unreadable, makes no
sense or sets the time to wait to zero, or the command line sets it to zero. -/
inductive Refused (r : Request) (files : Files) : Prop
  | file {path : ByteArray} {e : SettingsError} (hconfig : r.config = some path)
      (hload : Settings.Loaded files path (.error e))
  | commandLine (hzero : r.joinTimeoutMs = some 0)

variable {r : Request} {files : Files}

/-- There are settings to start from, or the file that was named is at fault. -/
theorem given_or_fault (r : Request) (files : Files) :
    (∃ s, r.Given files s)
      ∨ ∃ path e, r.config = some path ∧ Settings.Loaded files path (.error e) := by
  -- without a file the defaults are given
  cases hconfig : r.config with
  | none => exact .inl ⟨_, .default hconfig⟩
  | some path =>
    have hloaded := Settings.loaded_load files path
    cases hload : Settings.load files path with
    | error e =>
      rw [hload] at hloaded
      exact .inr ⟨path, e, rfl, hloaded⟩
    | ok s =>
      rw [hload] at hloaded
      exact .inl ⟨s, .file hconfig hloaded⟩

/-- The time to wait that a run starts from is not zero. -/
theorem Given.joinTimeoutMs_ne_zero {s : Settings} (h : r.Given files s) : s.joinTimeoutMs ≠ 0 := by
  cases h with
  | default hconfig => decide
  | file hconfig hload =>
    cases hload with
    | ok hread hdecode hwait => exact hwait

/-- **The settings of a run**, once there are some to start from: the environment and the command
line are laid over them, and the time to wait may still be refused. -/
theorem settings_eq {given : Settings} (hgiven : r.Given files given) (value : Option ByteArray) :
    ∃ names, Settings.InForce given.sim.extensions value names
      ∧ r.settings value files =
        (let s : Settings :=
          { joinTimeoutMs := r.joinTimeoutMs.getD given.joinTimeoutMs
            hookInterval := given.hookInterval
            sim := { extensions := names } }
        if s.joinTimeoutMs = 0
        then .error (.commandLine (.invalid "join_timeout_ms must be greater than zero"))
        else .ok s) := by
  obtain ⟨names, hover, hforce⟩ := Settings.overrideOctets_inForce given value
  refine ⟨names, hforce, ?_⟩
  -- whatever the source, its settings are overridden and then checked
  have hsettings : r.settings value files = (do
      let s := given.overrideOctets value
      let s := { s with joinTimeoutMs := r.joinTimeoutMs.getD s.joinTimeoutMs }
      s.validate.mapError .commandLine
      return s) := by
    unfold settings
    cases hgiven with
    | default hconfig =>
      rw [hconfig]
      rfl
    | file hconfig hload =>
      rw [hconfig]
      dsimp only
      rw [Settings.loaded_iff.mp hload]
      rfl
  rw [hsettings, hover]
  dsimp only [Settings.validate]
  split
  · rfl
  · rfl

/-- A file that is at fault is the end of it, whatever else is set. -/
theorem settings_of_fault {path : ByteArray} {e : SettingsError} (hconfig : r.config = some path)
    (hload : Settings.Loaded files path (.error e)) (value : Option ByteArray) :
    r.settings value files = .error (.file path e) := by
  unfold settings
  rw [hconfig]
  dsimp only
  rw [Settings.loaded_iff.mp hload]
  rfl

/-- **A run that is refused has no settings.** -/
theorem settings_of_refused (h : r.Refused files) (value : Option ByteArray) :
    ∃ f, r.settings value files = .error f := by
  cases h with
  | file hconfig hload => exact ⟨_, settings_of_fault hconfig hload value⟩
  -- the timeout of zero is found last, so a file at fault is reported instead
  | commandLine hzero =>
    rcases given_or_fault r files with ⟨given, hgiven⟩ | ⟨path, e, hconfig, hload⟩
    · obtain ⟨names, -, hsettings⟩ := settings_eq hgiven value
      rw [hzero, Option.getD_some] at hsettings
      exact ⟨_, hsettings⟩
    · exact ⟨_, settings_of_fault hconfig hload value⟩

/-- **A run that is not refused** has the settings that the last source to name them gives. -/
theorem settings_of_given {given : Settings} (hgiven : r.Given files given)
    (hgood : ¬ r.Refused files) (value : Option ByteArray) :
    ∃ s names, r.settings value files = .ok s
      ∧ s = { joinTimeoutMs := r.joinTimeoutMs.getD given.joinTimeoutMs
              hookInterval := given.hookInterval
              sim := { extensions := names } }
      ∧ s.joinTimeoutMs ≠ 0 ∧ Settings.InForce given.sim.extensions value names := by
  obtain ⟨names, hforce, hsettings⟩ := settings_eq hgiven value
  -- a zero from the command line is refused, and one from the file is not given
  have hwait : r.joinTimeoutMs.getD given.joinTimeoutMs ≠ 0 := by
    intro hzero
    cases hflag : r.joinTimeoutMs with
    | none =>
      rw [hflag] at hzero
      exact hgiven.joinTimeoutMs_ne_zero hzero
    | some n =>
      rw [hflag, Option.getD_some] at hzero
      exact hgood (.commandLine (hflag.trans (congrArg some hzero)))
  refine ⟨_, names, hsettings.trans (if_neg hwait), rfl, hwait, hforce⟩

end CommandLine.Request

end RobotSession
