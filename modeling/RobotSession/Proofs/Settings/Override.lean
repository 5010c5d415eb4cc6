import Mathlib.Data.List.Sort
import RobotSession.Proofs.Settings.Sources

/-!
# Lists of extensions

A value that is laid over the settings is a list of names with colons between them. A name is a
piece of the value without a colon in it that cannot be made longer; the names come in the order of
the places at which they begin, and as they are written there. Colons that separate nothing, in
front, at the end or next to each other, do no harm.

* `NameAt` — a name, and the place in a list of characters at which it begins.
* `NamesIn`, `NamesIn.unique` — all names of a list, and that there is one list of them.
* `Settings.joined` — names with colons between them.
* `Settings.override_names` — the extensions that are in force after a value was laid over them.
-/

namespace RobotSession

/-! ### Names and their places -/

/-- **A name at a place** of a list of characters. It has no colon in it, and next to it, on either
side, is a colon or nothing. -/
structure NameAt (cs : List Char) (place : Nat) (n : List Char) : Prop where
  some : n ≠ []
  plain : ':' ∉ n
  cut : ∃ before after, cs = before ++ n ++ after ∧ before.length = place
    ∧ (∀ c ∈ before.getLast?, c = ':') ∧ ∀ c ∈ after.head?, c = ':'

namespace NamesIn

/-- One name begins before another one. -/
def Before (a b : Nat × List Char) : Prop :=
  a.1 < b.1

instance : Std.Irrefl Before :=
  ⟨fun a => Nat.lt_irrefl a.1⟩

instance : Std.Antisymm Before :=
  ⟨fun _ _ hab hba => absurd hba (Nat.lt_asymm hab)⟩

end NamesIn

open NamesIn

/-- **The names of a list of characters**, in the order of their places, and each as it is written
there. -/
def NamesIn (cs : List Char) (names : List String) : Prop :=
  ∃ found : List (Nat × List Char), found.Pairwise Before
    ∧ (∀ place n, (place, n) ∈ found ↔ NameAt cs place n)
    ∧ names = found.map fun a => String.ofList a.2

/-- A list of characters has one list of names. -/
theorem NamesIn.unique {cs : List Char} {names names' : List String} (h : NamesIn cs names)
    (h' : NamesIn cs names') : names = names' := by
  obtain ⟨found, hsorted, hmem, rfl⟩ := h
  obtain ⟨found', hsorted', hmem', rfl⟩ := h'
  rw [hsorted.eq_of_mem_iff hsorted' fun a => (hmem a.1 a.2).trans (hmem' a.1 a.2).symm]

/-- No name is empty, and none has a colon in it. -/
theorem NamesIn.plain {cs : List Char} {names : List String} (h : NamesIn cs names) :
    ∀ n ∈ names, n ≠ "" ∧ ':' ∉ n.toList := by
  obtain ⟨found, -, hmem, rfl⟩ := h
  intro n hn
  obtain ⟨⟨place, m⟩, hfound, rfl⟩ := List.mem_map.mp hn
  have hat := (hmem place m).mp hfound
  refine ⟨fun hempty => hat.some ?_, ?_⟩
  · exact String.ofList_eq_empty_iff.mp hempty
  · rw [String.toList_ofList]
    exact hat.plain

section Places

variable {cs n m : List Char} {place : Nat}

/-- There is no name in nothing. -/
theorem not_nameAt_nil : ¬ NameAt [] place n := by
  rintro ⟨hsome, -, before, after, hcs, -⟩
  rw [List.append_assoc, List.nil_eq_append_iff, List.append_eq_nil_iff] at hcs
  exact hsome hcs.2.1

/-- A colon in front moves the names by one place. -/
theorem nameAt_colon :
    NameAt (':' :: cs) place n ↔ ∃ p, place = p + 1 ∧ NameAt cs p n := by
  constructor
  · rintro ⟨hsome, hplain, before, after, hcs, rfl, hbefore, hafter⟩
    cases before with
    | nil =>
      -- the name would begin with the colon
      obtain ⟨c, rest, rfl⟩ := List.exists_cons_of_ne_nil hsome
      obtain rfl : ':' = c := (List.cons.inj hcs).1
      exact absurd List.mem_cons_self hplain
    | cons c before =>
      refine ⟨before.length, rfl, hsome, hplain, before, after, (List.cons.inj hcs).2, rfl,
        fun d hd => hbefore d ?_, hafter⟩
      rw [List.getLast?_cons, Option.mem_def.mp hd]
      rfl
  · rintro ⟨p, rfl, hsome, hplain, before, after, rfl, rfl, hbefore, hafter⟩
    refine ⟨hsome, hplain, ':' :: before, after, rfl, rfl, fun c hc => ?_, hafter⟩
    rw [List.getLast?_cons, Option.mem_def, Option.some_inj] at hc
    cases hlast : before.getLast? with
    | none =>
      rw [hlast] at hc
      exact hc.symm
    | some d =>
      rw [hlast] at hc
      exact hc ▸ hbefore d hlast

/-- Two pieces without a colon at the front of one list are the same, if each ends at a colon or
with the list. -/
theorem eq_of_cut {rest after : List Char} (hn : ':' ∉ n) (hm : ':' ∉ m)
    (h : n ++ rest = m ++ after) (hrest : ∀ c ∈ rest.head?, c = ':')
    (hafter : ∀ c ∈ after.head?, c = ':') : m = n := by
  -- otherwise the longer one has the colon in it at which the other one ends
  rcases List.append_eq_append_iff.mp h with ⟨more, rfl, rfl⟩ | ⟨more, rfl, rfl⟩
  · cases more with
    | nil => exact List.append_nil n
    | cons c more =>
      obtain rfl := hrest c rfl
      exact absurd (List.mem_append_right n List.mem_cons_self) hm
  · cases more with
    | nil => exact (List.append_nil m).symm
    | cons c more =>
      obtain rfl := hafter c rfl
      exact absurd (List.mem_append_right m List.mem_cons_self) hn

/-- A name at the front comes first, and moves the others by its length. -/
theorem nameAt_append {rest : List Char} (hsome : n ≠ []) (hplain : ':' ∉ n)
    (hrest : ∀ c ∈ rest.head?, c = ':') :
    NameAt (n ++ rest) place m
      ↔ place = 0 ∧ m = n ∨ ∃ p, place = n.length + p ∧ NameAt rest p m := by
  constructor
  · rintro ⟨hsome', hplain', before, after, hcs, rfl, hbefore, hafter⟩
    by_cases hnone : before = []
    · subst hnone
      exact .inl ⟨rfl, eq_of_cut hplain hplain' hcs hrest hafter⟩
    · -- the colon before the other name does not belong to the first one
      have hcolon : ':' ∈ before := by
        have hlast := List.getLast?_eq_some_getLast hnone
        rw [← hbefore _ hlast]
        exact List.getLast_mem hnone
      rw [List.append_assoc] at hcs
      rcases List.append_eq_append_iff.mp hcs with ⟨more, rfl, rfl⟩ | ⟨more, rfl, -⟩
      · refine .inr ⟨more.length, List.length_append, hsome', hplain', more, after,
          (List.append_assoc ..).symm, rfl, fun c hc => hbefore c ?_, hafter⟩
        rw [List.getLast?_append, Option.mem_def.mp hc]
        rfl
      · exact absurd (List.mem_append_left _ hcolon) hplain
  · rintro (⟨rfl, rfl⟩ | ⟨p, rfl, hsome', hplain', before, after, rfl, rfl, hbefore, hafter⟩)
    · exact ⟨hsome, hplain, [], rest, rfl, rfl, nofun, hrest⟩
    · refine ⟨hsome', hplain', n ++ before, after, by simp only [List.append_assoc],
        List.length_append, fun c hc => ?_, hafter⟩
      cases before with
      | nil =>
        -- what follows the first name begins with a colon
        obtain ⟨d, more, rfl⟩ := List.exists_cons_of_ne_nil hsome'
        obtain rfl : d = ':' := hrest d rfl
        exact absurd List.mem_cons_self hplain'
      | cons d before =>
        refine hbefore c ?_
        rw [List.getLast?_append, List.getLast?_cons] at hc
        rw [List.getLast?_cons]
        exact hc

end Places

/-! ### All names -/

section Found

variable {found : List (Nat × List Char)}

/-- Names that begin so many places later. -/
def NamesIn.moved (d : Nat) (found : List (Nat × List Char)) : List (Nat × List Char) :=
  found.map fun a => (d + a.1, a.2)

/-- Names that are moved are those before, further on. -/
theorem mem_moved {d place : Nat} {n : List Char} :
    (place, n) ∈ moved d found ↔ ∃ p, place = d + p ∧ (p, n) ∈ found := by
  unfold moved
  rw [List.mem_map]
  constructor
  · rintro ⟨⟨p, m⟩, hmem, heq⟩
    cases heq
    exact ⟨p, rfl, hmem⟩
  · rintro ⟨p, rfl, hmem⟩
    exact ⟨(p, n), hmem, rfl⟩

/-- They stay in order. -/
theorem pairwise_moved (d : Nat) (h : found.Pairwise Before) :
    (moved d found).Pairwise Before :=
  List.pairwise_map.mpr (h.imp fun hab => Nat.add_lt_add_left hab d)

/-- They stay the same names. -/
theorem map_moved (d : Nat) (found : List (Nat × List Char)) :
    (moved d found).map (fun a => String.ofList a.2) = found.map fun a => String.ofList a.2 := by
  unfold moved
  rw [List.map_map]
  rfl

end Found

/-- A name comes before those of what follows it. -/
theorem namesIn_append {n rest : List Char} {names : List String} (hsome : n ≠ [])
    (hplain : ':' ∉ n) (hrest : ∀ c ∈ rest.head?, c = ':') (h : NamesIn rest names) :
    NamesIn (n ++ rest) (String.ofList n :: names) := by
  obtain ⟨found, hsorted, hmem, rfl⟩ := h
  -- the new name stands at the front, and every other place moves by its length
  refine ⟨(0, n) :: moved n.length found, ?_, fun place m => ?_, ?_⟩
  · refine List.pairwise_cons.mpr ⟨fun a ha => ?_, pairwise_moved _ hsorted⟩
    obtain ⟨p, hp, -⟩ := mem_moved.mp ha
    show 0 < a.1
    rw [hp]
    exact Nat.add_pos_left (List.length_pos_iff.mpr hsome) p
  · rw [List.mem_cons, Prod.mk.injEq, mem_moved, nameAt_append hsome hplain hrest]
    simp only [hmem]
  · rw [List.map_cons, map_moved]

/-- There are no names in nothing. -/
theorem namesIn_nil : NamesIn [] [] :=
  ⟨[], .nil, fun _ _ => iff_of_false List.not_mem_nil not_nameAt_nil, rfl⟩

/-- **The names of a list are found one after the other**, from colon to colon. -/
theorem Listed.namesIn {cs : List Char} {names : List String} (h : Listed cs names) :
    NamesIn cs names := by
  induction h with
  | nil => exact namesIn_nil
  -- a colon adds no name and moves every place by one
  | colon h ih =>
    obtain ⟨found, hsorted, hmem, rfl⟩ := ih
    refine ⟨moved 1 found, pairwise_moved 1 hsorted, fun place n => ?_, (map_moved 1 found).symm⟩
    rw [mem_moved, nameAt_colon]
    simp only [hmem, Nat.add_comm 1]
  | @last n hsome hcolon =>
    have hend : ∀ c ∈ ([] : List Char).head?, c = ':' := fun c hc =>
      absurd hc (Option.not_mem_none c)
    have halone := namesIn_append hsome hcolon hend namesIn_nil
    rwa [List.append_nil] at halone
  | name hsome hcolon h ih =>
    exact namesIn_append hsome hcolon (fun c hc => (Option.some.inj hc).symm) ih

/-! ### Names with colons between them -/

namespace Settings

/-- So many colons. -/
def colons (k : Nat) : List Char :=
  List.replicate k ':'

/-- Names after another one, each with a colon before it, and so many more. -/
def others (names : List (Nat × String)) : List Char :=
  names.flatMap fun a => colons (a.1 + 1) ++ a.2.toList

/-- **Names with colons between them**, at least one, and any number in front and at the end. -/
def joined (front : Nat) (first : String) (later : List (Nat × String)) (back : Nat) : String :=
  String.ofList (colons front ++ (first.toList ++ (others later ++ colons back)))

/-- Colons at the front make no name. -/
theorem namesOf_colons (k : Nat) (cs : List Char) : namesOf (colons k ++ cs) = namesOf cs := by
  induction k with
  | zero => rfl
  | succ k ih => exact (namesOf_colon _).trans ih

/-- Names that have been joined are found again. -/
theorem namesOf_joined {first : String} {later : List (Nat × String)} (back : Nat)
    (hnames : ∀ n ∈ first :: later.map Prod.snd, n ≠ "" ∧ ':' ∉ n.toList) :
    namesOf (first.toList ++ (others later ++ colons back)) = first :: later.map Prod.snd := by
  have hfirst := hnames first List.mem_cons_self
  have hsome : first.toList ≠ [] := by
    simpa using hfirst.1
  -- on the later names, the first of which is the first one of what follows
  induction later generalizing first with
  | nil =>
    cases back with
    | zero =>
      have hkept : first.toList.isEmpty = false := List.isEmpty_eq_false_iff.mpr hsome
      change namesOf (first.toList ++ []) = [first]
      rw [List.append_nil, namesOf_of_not_mem hfirst.2, hkept, if_neg Bool.false_ne_true,
        String.ofList_toList]
    | succ back =>
      have hback : namesOf (colons back) = [] := by
        rw [← List.append_nil (colons back), namesOf_colons]
        rfl
      change namesOf (first.toList ++ ':' :: colons back) = [first]
      rw [namesOf_append hsome hfirst.2, hback, String.ofList_toList]
  | cons a later ih =>
    obtain ⟨extra, n⟩ := a
    have hothers : others ((extra, n) :: later) ++ colons back
        = ':' :: (colons extra ++ (n.toList ++ (others later ++ colons back))) := by
      unfold others
      rw [List.flatMap_cons, List.append_assoc, List.append_assoc]
      rfl
    have hn := hnames n (List.mem_cons_of_mem _ List.mem_cons_self)
    have hlater := ih (fun m hm => hnames m (List.mem_cons_of_mem _ hm)) hn (by simpa using hn.1)
    rw [hothers, namesOf_append hsome hfirst.2, namesOf_colons, hlater, String.ofList_toList]
    rfl

/-- A variable that is set, and not empty, replaces the names. -/
theorem override_some {v : String} (s : Settings) (hsome : v ≠ "") :
    s.override (some v) = { s with sim := { extensions := namesOf v.toList } } := by
  have hkept : v.isEmpty = false := by
    simpa using hsome
  unfold override
  dsimp only
  rw [hkept, if_neg Bool.false_ne_true]
  rfl

/-- **A value that is laid over the settings** sets the extensions to its names, and nothing else.

Names that are joined by colons are found again as they are; of two values the later one counts; and
a value that is not set, or empty, changes nothing. -/
theorem override_names (s : Settings) :
    (∀ v, v ≠ "" → (∀ names, NamesIn v.toList names
          ↔ (s.override (some v)).sim.extensions = names)
        ∧ ∀ n ∈ (s.override (some v)).sim.extensions, n ≠ "" ∧ ':' ∉ n.toList)
    ∧ (∀ front first later back, (∀ n ∈ first :: later.map Prod.snd, n ≠ "" ∧ ':' ∉ n.toList) →
      (s.override (some (joined front first later back))).sim.extensions
        = first :: later.map Prod.snd)
    ∧ (∀ v w, v ≠ "" → w ≠ "" →
      (s.override (some v)).override (some w) = s.override (some w))
    ∧ s.override none = s ∧ s.override (some "") = s
    ∧ ∀ value, s.override value
      = { s with sim := { s.sim with extensions := (s.override value).sim.extensions } } := by
  -- what the splitting finds are the maximal segments, and those are unique
  have hnames : ∀ v, v ≠ "" → NamesIn v.toList (s.override (some v)).sim.extensions := by
    intro v hsome
    rw [override_some s hsome]
    exact (listed_namesOf v.toList).namesIn
  refine ⟨fun v hsome => ⟨fun names => ⟨(hnames v hsome).unique, ?_⟩, (hnames v hsome).plain⟩,
    fun front first later back hall => ?_, fun v w hv hw => ?_, rfl, rfl, fun value => ?_⟩
  · rintro rfl
    exact hnames v hsome
  · have hfirst := (hall first List.mem_cons_self).1
    have hsome : joined front first later back ≠ "" := by
      unfold joined
      simp [hfirst]
    rw [override_some s hsome]
    unfold joined
    rw [String.toList_ofList]
    exact (namesOf_colons front _).trans (namesOf_joined back hall)
  · rw [override_some s hv, override_some s hw, override_some _ hw]
  · cases value with
    | none => rfl
    | some v =>
      by_cases hsome : v = ""
      · subst hsome
        rfl
      · rw [override_some s hsome]

/-- Two extensions with colons all around them, laid over other ones. -/
theorem override_names_sample :
    joined 1 "halsim_xrp" [(1, "halsim_ws_client")] 2 = ":halsim_xrp::halsim_ws_client::"
    ∧ ((({} : Settings).override (some "gui:")).override
        (some ":halsim_xrp::halsim_ws_client::")).sim.extensions
      = ["halsim_xrp", "halsim_ws_client"]
    ∧ ∀ n ∈ ((({} : Settings)).override (some "gui:")).sim.extensions,
      n ≠ "" ∧ ':' ∉ n.toList := by
  obtain ⟨hnames, hjoined, htwice, -⟩ := override_names {}
  have hfound := hjoined 1 "halsim_xrp" [(1, "halsim_ws_client")] 2 (by decide)
  have hsample : joined 1 "halsim_xrp" [(1, "halsim_ws_client")] 2
      = ":halsim_xrp::halsim_ws_client::" := by
    decide
  rw [hsample] at hfound
  refine ⟨hsample, ?_, (hnames "gui:" (by decide)).2⟩
  -- the first override leaves no trace
  rw [htwice "gui:" _ (by decide) (by decide)]
  exact hfound

end Settings

end RobotSession
