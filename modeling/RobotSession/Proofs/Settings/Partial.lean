import RobotSession.Proofs.Settings.Reading
import RobotSession.Proofs.Settings.Sources

/-!
# Settings of which a part is given

Where a text gives only some of the settings, the others have their defaults, and the settings of
the host that are missing are those of an empty object. A key that is given twice, or whose value is
not of its type, makes the whole text worthless. A file whose text gives settings may still set the
time to wait to zero.

* `Misgiven`, `Settings.Faulty` — a value that says nothing about the settings.
* `Settings.refused_iff` — what is refused.
* `Settings.Gives`, `Settings.only` — an object gives a part of settings.
* `Settings.Unloaded` — why a file gives none.
* `Settings.of_part` — settings of which a part is given.
-/

namespace RobotSession

open Json
open Text (octets)

variable {β : Type} {name : String} {ms : List Member} {t : Tree}

/-! ### What is refused -/

/-- **A key is given wrongly**: more than once, or with a value that is wrong. -/
inductive Misgiven (name : String) (wrong : Tree → Prop) (ms : List Member) : Prop
  | twice (h : 2 ≤ (valuesOf name ms).length)
  | value {t : Tree} (h : t ∈ valuesOf name ms) (hwrong : wrong t)

section Wrong

variable {P : Tree → β → Prop} {wrong : Tree → Prop} {default v : β} {value : Option Tree}

/-- A value that may be missing stands for something, or it is wrong. -/
theorem stands_or_wrong (h : ∀ t, (∃ v, P t v) ∨ wrong t) (default : β) (value : Option Tree) :
    (∃ v, Stands P default value v) ∨ ∃ t, value = some t ∧ wrong t := by
  cases value with
  | none => exact .inl ⟨default, rfl⟩
  | some t => exact (h t).imp_right fun hwrong => ⟨t, rfl, hwrong⟩

/-- A field is given a value, or misgiven, by what stands for it. -/
theorem given_or_misgiven (h : ∀ t, (∃ v, P t v) ∨ wrong t) (default : β) (name : String)
    (ms : List Member) : (∃ v, Given name P default ms v) ∨ Misgiven name wrong ms := by
  by_cases honce : (valuesOf name ms).length ≤ 1
  · rcases stands_or_wrong h default (valuesOf name ms).head? with ⟨v, hstands⟩ | ⟨t, ht, hwrong⟩
    · exact .inl ⟨v, honce, hstands⟩
    · exact .inr (.value (List.mem_of_head? ht) hwrong)
  · exact .inr (.twice (Nat.lt_of_not_le honce))

/-- What stands for a value is not wrong. -/
theorem Stands.not_wrong (h : Stands P default value v) (hP : ∀ t v, wrong t → ¬ P t v) :
    ∀ t, value = some t → ¬ wrong t := by
  rintro t rfl hwrong
  exact hP t v hwrong h

/-- A field that is given is not misgiven. -/
theorem Given.not_misgiven (h : Given name P default ms v) (hP : ∀ t v, wrong t → ¬ P t v) :
    ¬ Misgiven name wrong ms := by
  -- a field given once is given with one value, which is the one that stands
  rintro (htwice | ⟨hmem, hwrong⟩)
  · exact absurd htwice (Nat.not_le_of_lt (Nat.lt_succ_of_le h.once))
  · obtain ⟨honce, hstands⟩ := h
    cases hvalues : valuesOf name ms with
    | nil =>
      rw [hvalues] at hmem
      cases hmem
    | cons t' ts =>
      rw [hvalues] at hmem honce hstands
      obtain rfl := List.eq_nil_of_length_eq_zero (Nat.le_zero.mp (Nat.le_of_succ_le_succ honce))
      obtain rfl := List.mem_singleton.mp hmem
      exact hP _ _ hwrong hstands

end Wrong

/-- A value that is nothing of a kind is wrong. -/
def Wrong (P : Tree → β → Prop) (t : Tree) : Prop :=
  ∀ v, ¬ P t v

/-- A value has the type that is wanted, or not. -/
theorem or_wrong (P : Tree → β → Prop) (t : Tree) : (∃ v, P t v) ∨ Wrong P t :=
  (Classical.em _).imp_right not_exists.mp

/-- **A value that says nothing about the settings of the host**: it is neither an object nor a
list, a key is no text, or what should be the extensions is not. -/
inductive SimSettings.Faulty : Tree → Prop
  | type {t : Tree} (hobject : ∀ ms, t ≠ .object ms) (hlist : ∀ ts, t ≠ .list ts) : Faulty t
  | key {ms : List Member} (h : ¬ Keyed ms) : Faulty (.object ms)
  | extensions {ms : List Member} (h : Misgiven "extensions" (Wrong IsNames) ms) :
      Faulty (.object ms)
  | length {ts : List Tree} (h : 1 < ts.length) : Faulty (.list ts)
  | first {ts : List Tree} {t : Tree} (ht : ts[0]? = some t) (h : Wrong IsNames t) :
      Faulty (.list ts)

/-- **A value that says nothing about the settings.** -/
inductive Settings.Faulty : Tree → Prop
  | type {t : Tree} (hobject : ∀ ms, t ≠ .object ms) (hlist : ∀ ts, t ≠ .list ts) : Faulty t
  | key {ms : List Member} (h : ¬ Keyed ms) : Faulty (.object ms)
  | joinTimeoutMs {ms : List Member} (h : Misgiven "join_timeout_ms" (Wrong IsWord64) ms) :
      Faulty (.object ms)
  | hookInterval {ms : List Member} (h : Misgiven "hook_interval" (Wrong IsWord32) ms) :
      Faulty (.object ms)
  | sim {ms : List Member} (h : Misgiven "sim" SimSettings.Faulty ms) : Faulty (.object ms)
  | length {ts : List Tree} (h : 3 < ts.length) : Faulty (.list ts)
  | first {ts : List Tree} {t : Tree} (ht : ts[0]? = some t) (h : Wrong IsWord64 t) :
      Faulty (.list ts)
  | second {ts : List Tree} {t : Tree} (ht : ts[1]? = some t) (h : Wrong IsWord32 t) :
      Faulty (.list ts)
  | third {ts : List Tree} {t : Tree} (ht : ts[2]? = some t) (h : SimSettings.Faulty t) :
      Faulty (.list ts)

namespace SimSettings

/-- **A tree says settings of a simulation, or is faulty.** -/
theorem exists_or_faulty (t : Tree) : (∃ s, Says t s) ∨ Faulty t := by
  cases t with
  | object ms =>
    -- the first thing that is wrong is the fault, and if nothing is, the settings can be named
    by_cases hkeys : Keyed ms
    · rcases given_or_misgiven (or_wrong IsNames) defaultNames "extensions" ms with ⟨names, h⟩ | h
      · exact .inl ⟨⟨names⟩, .object hkeys h⟩
      · exact .inr (.extensions h)
    · exact .inr (.key hkeys)
  | list ts =>
    -- as a list, the places stand for the fields
    by_cases hlength : ts.length ≤ 1
    · rcases stands_or_wrong (or_wrong IsNames) defaultNames ts[0]? with ⟨names, h⟩ | ⟨t, ht, h⟩
      · exact .inl ⟨⟨names⟩, .list hlength h⟩
      · exact .inr (.first ht h)
    · exact .inr (.length (Nat.lt_of_not_le hlength))
  | _ => exact .inr (.type nofun nofun)

/-- It is never both. -/
theorem Faulty.not_says {s : SimSettings} (h : Faulty t) : ¬ Says t s := by
  have hP : ∀ t names, Wrong IsNames t → ¬ IsNames t names := fun _ _ hwrong => hwrong _
  -- each fault denies one of the conditions under which something is said
  intro hsays
  cases hsays with
  | object hkeys hextensions =>
    cases h with
    | type hobject => exact hobject _ rfl
    | key h => exact h hkeys
    | extensions h => exact hextensions.not_misgiven hP h
  | list hlength hextensions =>
    cases h with
    | type _ hlist => exact hlist _ rfl
    | length h => exact Nat.not_le_of_lt h hlength
    | first ht h => exact hextensions.not_wrong hP _ ht h

end SimSettings

namespace Settings

/-- **A tree says settings, or is faulty.** -/
theorem exists_or_faulty (t : Tree) : (∃ s, Says t s) ∨ Faulty t := by
  cases t with
  | object ms =>
    -- the fields are tried in their order, and the first that is wrong is the fault
    by_cases hkeys : Keyed ms
    · rcases given_or_misgiven (or_wrong IsWord64) 1000 "join_timeout_ms" ms with ⟨join, hjoin⟩ | h
      · rcases given_or_misgiven (or_wrong IsWord32) 1000 "hook_interval" ms with ⟨hook, hhook⟩ | h
        · rcases given_or_misgiven SimSettings.exists_or_faulty ⟨defaultNames⟩ "sim" ms
            with ⟨sim, hsim⟩ | h
          · exact .inl ⟨⟨join, hook, sim⟩, .object hkeys hjoin hhook hsim⟩
          · exact .inr (.sim h)
        · exact .inr (.hookInterval h)
      · exact .inr (.joinTimeoutMs h)
    · exact .inr (.key hkeys)
  | list ts =>
    by_cases hlength : ts.length ≤ 3
    · rcases stands_or_wrong (or_wrong IsWord64) 1000 ts[0]? with ⟨join, hjoin⟩ | ⟨t, ht, h⟩
      · rcases stands_or_wrong (or_wrong IsWord32) 1000 ts[1]? with ⟨hook, hhook⟩ | ⟨t, ht, h⟩
        · rcases stands_or_wrong SimSettings.exists_or_faulty ⟨defaultNames⟩ ts[2]?
            with ⟨sim, hsim⟩ | ⟨t, ht, h⟩
          · exact .inl ⟨⟨join, hook, sim⟩, .list hlength hjoin hhook hsim⟩
          · exact .inr (.third ht h)
        · exact .inr (.second ht h)
      · exact .inr (.first ht h)
    · exact .inr (.length (Nat.lt_of_not_le hlength))
  | _ => exact .inr (.type nofun nofun)

/-- It is never both. -/
theorem Faulty.not_says {s : Settings} (h : Faulty t) : ¬ Says t s := by
  have hjoins : ∀ t v, Wrong IsWord64 t → ¬ IsWord64 t v := fun _ _ hwrong => hwrong _
  have hhooks : ∀ t v, Wrong IsWord32 t → ¬ IsWord32 t v := fun _ _ hwrong => hwrong _
  have hsims : ∀ t v, SimSettings.Faulty t → ¬ SimSettings.Says t v := fun _ _ h => h.not_says
  intro hsays
  cases hsays with
  | object hkeys hjoin hhook hsim =>
    cases h with
    | type hobject => exact hobject _ rfl
    | key h => exact h hkeys
    | joinTimeoutMs h => exact hjoin.not_misgiven hjoins h
    | hookInterval h => exact hhook.not_misgiven hhooks h
    | sim h => exact hsim.not_misgiven hsims h
  | list hlength hjoin hhook hsim =>
    cases h with
    | type _ hlist => exact hlist _ rfl
    | length h => exact Nat.not_le_of_lt h hlength
    | first ht h => exact hjoin.not_wrong hjoins _ ht h
    | second ht h => exact hhook.not_wrong hhooks _ ht h
    | third ht h => exact hsim.not_wrong hsims _ ht h

/-- **A text is refused if the value in it says nothing about the settings**, and only then. -/
theorem refused_iff {bs : List UInt8} (h : Spelled (.item t) bs) :
    (∃ f, codec.decode bs = .error f) ↔ Faulty t := by
  constructor
  · rintro ⟨f, hf⟩
    refine (exists_or_faulty t).resolve_left ?_
    rintro ⟨s, hs⟩
    rw [(decode_iff h s).mpr hs] at hf
    cases hf
  · intro hfaulty
    cases hdecode : codec.decode bs with
    | error f => exact ⟨f, rfl⟩
    | ok s => exact (hfaulty.not_says ((decode_iff h s).mp hdecode)).elim

end Settings

/-! ### Parts of settings -/

/-- What an object does not give stands at its default. -/
theorem Given.of_nil {P : Tree → β → Prop} {default : β} (hvalues : valuesOf name ms = []) :
    Given name P default ms default := by
  constructor
  · rw [hvalues]
    exact Nat.zero_le _
  · rw [hvalues]
    rfl

/-- A field that comes once has the value that stands there. -/
theorem Given.of_singleton {P : Tree → β → Prop} {default v : β} (hvalues : valuesOf name ms = [t])
    (ht : P t v) : Given name P default ms v := by
  constructor
  · rw [hvalues]
    exact Nat.le_refl _
  · rw [hvalues]
    exact ht

/-- **A key stands in an object** just once and with a value of a kind, or not at all. -/
def Shown (name : String) (P : Tree → Prop) (ms : List Member) : Bool → Prop
  | true => ∃ t, valuesOf name ms = [t] ∧ P t
  | false => valuesOf name ms = []

/-- A field that is shown has its value, and any other one its default. -/
theorem Shown.given {P : Tree → β → Prop} {v : β} {shown : Bool}
    (h : Shown name (P · v) ms shown) (default : β) :
    Given name P default ms (if shown then v else default) := by
  cases shown with
  | true =>
    obtain ⟨t, hvalues, ht⟩ := h
    exact .of_singleton hvalues ht
  | false => exact .of_nil h

/-- What is shown of a field may be said in other words. -/
theorem Shown.imp {P Q : Tree → Prop} (hPQ : ∀ t, P t → Q t) {shown : Bool}
    (h : Shown name P ms shown) : Shown name Q ms shown := by
  cases shown with
  | true =>
    obtain ⟨t, hvalues, ht⟩ := h
    exact ⟨t, hvalues, hPQ t ht⟩
  | false => exact h

/-- **An object gives the extensions of settings of the host**, or leaves them out; it may have
other keys. -/
structure SimSettings.Gives (s : SimSettings) (extensions : Bool) (ms : List Member) : Prop where
  keys : Keyed ms
  extensions : Shown "extensions" (IsNames · s.extensions) ms extensions

/-- The settings of the host with the extensions only if they are given. -/
def SimSettings.only (s : SimSettings) (extensions : Bool) : SimSettings :=
  ⟨if extensions then s.extensions else defaultNames⟩

/-- The fields that are shown make up the settings. -/
theorem SimSettings.Gives.says {s : SimSettings} {extensions : Bool} (h : s.Gives extensions ms) :
    Says (.object ms) (s.only extensions) :=
  .object h.keys (h.extensions.given _)

namespace Settings

/-- Which settings are given. -/
structure Part where
  joinTimeoutMs : Bool
  hookInterval : Bool
  sim : Bool
  /-- The extensions of the host, if its settings are given. -/
  extensions : Bool

/-- **An object gives a part of settings**, in whatever order; it may have other keys. -/
structure Gives (c : Settings) (part : Part) (ms : List Member) : Prop where
  keys : Keyed ms
  joinTimeoutMs : Shown "join_timeout_ms" (IsWord64 · c.joinTimeoutMs) ms part.joinTimeoutMs
  hookInterval : Shown "hook_interval" (IsWord32 · c.hookInterval) ms part.hookInterval
  sim : Shown "sim" (fun t => ∃ ms, t = .object ms ∧ c.sim.Gives part.extensions ms) ms part.sim

/-- **The settings of which a part is given**: where nothing is given, the default. -/
def only (c : Settings) (part : Part) : Settings where
  joinTimeoutMs := if part.joinTimeoutMs then c.joinTimeoutMs else 1000
  hookInterval := if part.hookInterval then c.hookInterval else 1000
  sim := if part.sim then c.sim.only part.extensions else ⟨defaultNames⟩

/-- So they do for the settings of the program. -/
theorem Gives.says {c : Settings} {part : Part} (h : c.Gives part ms) :
    Says (.object ms) (c.only part) := by
  refine .object h.keys (h.joinTimeoutMs.given _) (h.hookInterval.given _) (Shown.given ?_ _)
  refine h.sim.imp fun t ht => ?_
  obtain ⟨ms, rfl, hms⟩ := ht
  exact hms.says

/-- **Why a file gives no settings**: it cannot be read, is no text, is not understood, or sets the
time to wait to zero. -/
inductive Unloaded (files : Files) (path : ByteArray) : SettingsError → Prop
  | unreadable {f : FileFault} (hread : files.readOctets path = .error f) :
      Unloaded files path (.unreadable path f)
  | notText {content : ByteArray} (hread : files.readOctets path = .ok content)
      (hno : ∀ text : String, content ≠ octets text) :
      Unloaded files path (.unreadable path .notText)
  | malformed {text : String} {f : Json.Failure} (hread : files.readOctets path = .ok (octets text))
      (hdecode : codec.decode (octets text).toList = .error f) :
      Unloaded files path (.malformed f)
  | invalid {text : String} {s : Settings} (hread : files.readOctets path = .ok (octets text))
      (hdecode : codec.decode (octets text).toList = .ok s) (hzero : s.joinTimeoutMs = 0) :
      Unloaded files path (.invalid "join_timeout_ms must be greater than zero")

/-- **Settings are loaded** if the file is text that says them, with a time to wait. -/
theorem load_ok_iff {files : Files} {path : ByteArray} {s : Settings} : load files path = .ok s
    ↔ ∃ text : String, files.readOctets path = .ok (octets text)
      ∧ codec.decode (octets text).toList = .ok s ∧ s.joinTimeoutMs ≠ 0 := by
  rw [← loaded_iff]
  constructor
  · intro h
    cases h with
    | ok hread hdecode hwait => exact ⟨_, Files.readText_iff.mp hread, hdecode, hwait⟩
  · rintro ⟨text, hread, hdecode, hwait⟩
    exact .ok (Files.readText_iff.mpr hread) hdecode hwait

/-- **They are not loaded** for one of the reasons that there are. -/
theorem load_error_iff {files : Files} {path : ByteArray} {e : SettingsError} :
    load files path = .error e ↔ Unloaded files path e := by
  rw [← loaded_iff]
  constructor
  · intro h
    cases h with
    | @unreadable f hread =>
      cases hoctets : files.readOctets path with
      | error f' =>
        rw [Files.readText_of_not_readOctets hoctets] at hread
        cases hread
        exact .unreadable hoctets
      | ok content =>
        rw [Files.readText_of_readOctets hoctets] at hread
        cases htext : Text.Utf8.decode? content with
        | some text =>
          rw [htext] at hread
          cases hread
        -- octets that can be read but are no text
        | none =>
          rw [htext] at hread
          cases hread
          refine .notText hoctets ?_
          rintro text rfl
          exact nomatch htext.symm.trans (Text.Utf8.decode?_toUTF8 text)
    | malformed hread hdecode => exact .malformed (Files.readText_iff.mp hread) hdecode
    | invalid hread hdecode hzero => exact .invalid (Files.readText_iff.mp hread) hdecode hzero
  · intro h
    cases h with
    | unreadable hread => exact .unreadable (Files.readText_of_not_readOctets hread)
    | @notText content hread hno =>
      refine .unreadable ?_
      rw [Files.readText_of_readOctets hread]
      cases htext : Text.Utf8.decode? content with
      | none => rfl
      | some text => exact (hno text (Text.Utf8.eq_of_decode? htext)).elim
    | malformed hread hdecode => exact .malformed (Files.readText_iff.mpr hread) hdecode
    | invalid hread hdecode hzero => exact .invalid (Files.readText_iff.mpr hread) hdecode hzero

/-- A number that is too large for a double. -/
def sampleNumber : Numeral where
  isNegative := false
  digits := [49]
  fraction := none
  exponent := some (101, none, [57, 57, 57])

/-- Members of an object: under a key that is not known half a character and a number out of range,
then extensions and a time to wait. -/
def sample : List Member :=
  [(plain "other", .list [.text [.code 100 56 48 48], .number sampleNumber]),
    (plain "sim", .object [(plain "extensions", .list [.text (plain "gui")])]),
    (plain "join_timeout_ms", .number ⟨false, [53], none, none⟩)]

/-- A file in which two fields are given, one of them in blanks. -/
def sampleText : String :=
  "\x7b\"other\":[\"\\ud800\",1e999],\"sim\":\x7b\"extensions\":[\"gui\"]\x7d,\"join_timeout_ms\":5\x7d"

/-- It spells an object. -/
theorem spelled_sample : Spelled (.item (.object sample)) (octets sampleText).toList := by
  have hdigits : ∀ d, Reader.isDigit d = true → Reader.IsDecimal [d] (Reader.valueAfter 0 [d]) := fun d hd =>
    ⟨List.forall_mem_singleton.mpr hd, rfl, d, [], rfl, fun _ => rfl⟩
  have hlarge : sampleNumber.IsValid :=
    { digits := hdigits 49 rfl
      fraction := nofun
      letter := by
        rintro _ ⟨⟩
        exact .inl rfl
      sign := by
        rintro _ ⟨⟩
        exact nofun
      exponent := by
        rintro _ ⟨⟩
        exact ⟨nofun, by simp [Reader.isDigit]⟩ }
  -- from the inside outwards: numbers and texts first, then lists, then the members
  have hother : Spelled (.items [.text [.code 100 56 48 48], .number sampleNumber]) _ :=
    .nextItem (.bare (.text (by decide +kernel))) (.lastItem (.bare (.number hlarge)))
  have hnames : Spelled (.items [.text (plain "gui")]) _ :=
    .lastItem (.bare (.text (by decide +kernel)))
  have hwait : Spelled (.value (.number ⟨false, [53], none, none⟩)) _ :=
    .number
      { digits := hdigits 53 rfl
        fraction := nofun
        letter := nofun
        sign := nofun
        exponent := nofun }
  have hsample : Spelled (.item (.object sample)) _ :=
    .bare (.object (.nextMember (.plain (by decide +kernel) (.bare (.list hother)))
      (.nextMember (.plain (by decide +kernel) (.bare (.object (.lastMember
        (.plain (by decide +kernel) (.bare (.list hnames)))))))
        (.lastMember (.plain (by decide +kernel) (.bare hwait))))))
  exact Eq.subst (by decide +kernel) hsample

/-- **Settings of which a part is given.**

A text gives the settings that its value says: of an object each known key once, in any order, with
what is missing by default and other keys with whatever values; of a list its values in order. It is
refused if the value is at fault, and only then.

A file gives settings if it is a text that does so, and the time to wait is not zero. -/
theorem of_part {bs : List UInt8} (h : Spelled (.item t) bs) (files : Files) (path : ByteArray) :
    (∀ (c : Settings) (part : Part) (ms : List Member), t = .object ms → c.Gives part ms →
      codec.decode bs = .ok (c.only part))
    ∧ (∀ s, codec.decode bs = .ok s ↔ Says t s)
    ∧ ((∃ f, codec.decode bs = .error f) ↔ Faulty t)
    ∧ (∀ s, load files path = .ok s ↔ ∃ text : String, files.readOctets path = .ok (octets text)
      ∧ codec.decode (octets text).toList = .ok s ∧ s.joinTimeoutMs ≠ 0)
    ∧ ∀ e, load files path = .error e ↔ Unloaded files path e := by
  refine ⟨fun c part ms ht hgives => ?_, decode_iff h, refused_iff h, fun _ => load_ok_iff,
    fun _ => load_error_iff⟩
  subst ht
  exact (decode_iff h _).mpr hgives.says

/-- Its settings are those two, and the default for the third. -/
theorem of_part_sample :
    Spelled (.item (.object sample)) (octets sampleText).toList
    ∧ codec.decode (octets sampleText).toList
      = .ok { joinTimeoutMs := 5, hookInterval := 1000, sim := ⟨["gui"]⟩ } := by
  refine ⟨spelled_sample, ?_⟩
  have hjoin : valuesOf "join_timeout_ms" sample = [.number ⟨false, [53], none, none⟩] := by
    simp [valuesOf, sample]
  have hhook : valuesOf "hook_interval" sample = [] := by
    simp [valuesOf, sample]
  have hsim : valuesOf "sim" sample
      = [.object [(plain "extensions", .list [.text (plain "gui")])]] := by
    simp [valuesOf, sample]
  have hextensions : valuesOf "extensions" [(plain "extensions", .list [.text (plain "gui")])]
      = [.list [.text (plain "gui")]] := by
    simp [valuesOf]
  have hnames : IsNames (.list [.text (plain "gui")]) ["gui"] := by
    simp [IsNames, Tree.items?, Tree.string?]
  have hgives : Gives { joinTimeoutMs := 5, sim := ⟨["gui"]⟩ } ⟨true, false, true, true⟩ sample :=
    { keys := by simp [Keyed, sample]
      joinTimeoutMs := ⟨_, hjoin, rfl⟩
      hookInterval := hhook
      sim := ⟨_, hsim, _, rfl, by simp [Keyed], _, hextensions, hnames⟩ }
  exact (of_part spelled_sample {} (octets "")).1 _ _ _ rfl hgives

/-- The settings of the host need not be an object: a list of none of them is not refused. -/
theorem sim_as_list :
    Spelled (.item (.object [(plain "sim", .list [])])) (octets "\x7b\"sim\": []\x7d").toList
    ∧ (∀ ms, Tree.list [] ≠ .object ms)
    ∧ codec.decode (octets "\x7b\"sim\": []\x7d").toList
      = .ok { joinTimeoutMs := 1000, hookInterval := 1000, sim := ⟨defaultNames⟩ } := by
  have hlist : Spelled (.item (.list [])) _ :=
    .item (w := [32]) (List.forall_mem_singleton.mpr rfl)
      (.noItems (w := []) (List.forall_mem_nil _)) (List.forall_mem_nil _ : Blanks [])
  have hobject : Spelled (.item (.object [(plain "sim", .list [])])) _ :=
    .bare (.object (.lastMember (.plain (by decide +kernel) hlist)))
  have hspelled : Spelled (.item (.object [(plain "sim", .list [])]))
      (octets "\x7b\"sim\": []\x7d").toList :=
    Eq.subst (by decide +kernel) hobject
  have hjoin : valuesOf "join_timeout_ms" [(plain "sim", .list [])] = [] := by
    simp [valuesOf]
  have hhook : valuesOf "hook_interval" [(plain "sim", .list [])] = [] := by
    simp [valuesOf]
  have hsim : valuesOf "sim" [(plain "sim", .list [])] = [.list []] := by
    simp [valuesOf]
  have hno : ∀ ms, Tree.list [] ≠ .object ms := by
    intro ms hobject
    cases hobject
  exact ⟨hspelled, hno, (decode_iff hspelled _).mpr (.object (by simp [Keyed]) (.of_nil hjoin)
    (.of_nil hhook) (.of_singleton hsim (.list (Nat.zero_le 1) rfl)))⟩

end Settings

end RobotSession
