import RobotSession.Proofs.Json.Reading

/-!
# Faithful codecs

A codec is faithful if every value is read back from its written form, wherever that form may
stand, and if the form is a text. Codecs that are made of faithful ones are faithful.

* `Codec.Faithful` — a codec is faithful.
* `Codec.Faithful.parsed`, `.whole`, `.boolean`, `.optional`, `.list`, `.enumeration` — the codecs.
* `Schema.Fills`, `Codec.Faithful.record` — records. While one is read, its fields fill a draft.
-/

namespace RobotSession.Json

open Reader

/-! ### Octets of texts -/

/-- Octets that are those of a text. -/
def IsText (bs : List UInt8) : Prop :=
  ∃ s : String, bs = s.toUTF8.toList

namespace IsText

variable {bs bs' : List UInt8}

/-- Texts one after the other are a text. -/
theorem append (h : IsText bs) (h' : IsText bs') : IsText (bs ++ bs') := by
  obtain ⟨s, rfl⟩ := h
  obtain ⟨s', rfl⟩ := h'
  exact ⟨s ++ s', (Text.octets_append s s').symm⟩

/-- Written characters are a text. -/
theorem ofChars (cs : List Char) : IsText (cs.flatMap String.utf8EncodeChar) :=
  ⟨String.ofList cs, (Text.octets_ofList cs).symm⟩

/-- Nothing is a text. -/
theorem nil : IsText [] :=
  ofChars []

/-- So are any number of texts, one after the other. -/
theorem flatMap {α : Type} {f : α → List UInt8} {as : List α} (h : ∀ a ∈ as, IsText (f a)) :
    IsText (as.flatMap f) := by
  induction as with
  | nil => exact nil
  | cons a as ih =>
    obtain ⟨ha, has⟩ := List.forall_mem_cons.mp h
    rw [List.flatMap_cons]
    exact ha.append (ih has)

/-- An octet of ASCII is a text. -/
theorem singleton {b : UInt8} (hb : b < 128) : IsText [b] := by
  have hbound : b.toNat < 128 := hb
  let c : Char := ⟨b.toUInt32, Or.inl (by rw [UInt8.toNat_toUInt32]; omega)⟩
  have hchar : String.utf8EncodeChar c = [b] := by
    unfold String.utf8EncodeChar
    rw [show c.val.toNat = b.toNat from UInt8.toNat_toUInt32 b]
    dsimp only
    rw [if_pos (by omega), UInt8.ofNat_toNat]
  have hchars := ofChars [c]
  rwa [List.flatMap_cons, hchar, List.flatMap_nil] at hchars

/-- So are any number of them. -/
theorem ascii (h : ∀ b ∈ bs, b < 128) : IsText bs := by
  induction bs with
  | nil => exact nil
  | cons b bs ih =>
    obtain ⟨hb, hbs⟩ := List.forall_mem_cons.mp h
    exact (singleton hb).append (ih hbs)

/-- Octets of ASCII can be told by looking at them. -/
theorem plain (h : bs.all (· < 128) = true) : IsText bs :=
  ascii fun b hmem => of_decide_eq_true (List.all_eq_true.mp h b hmem)

/-- A hexadecimal digit is an octet of ASCII. -/
theorem hexOctet_lt : ∀ n < 16, Codec.hexOctet n < 128 := by
  decide

/-- An octet that has been escaped is written in ASCII. -/
theorem escaped {b : UInt8} (hb : b < 128) : IsText (Codec.escaped b) := by
  have hbound : b.toNat < 128 := hb
  unfold Codec.escaped
  -- the seven short escapes are plain characters; then come the control characters as `\u00xx`, and
  -- what is written as it is
  iterate 7
    split
    · exact plain rfl
  split
  · rename_i hlow
    have hlow' : b.toNat < 32 := hlow
    refine ascii ?_
    simp only [List.forall_mem_cons, List.not_mem_nil, false_implies, implies_true, and_true]
    exact ⟨by decide, by decide, by decide, by decide, hexOctet_lt _ (by omega),
      hexOctet_lt _ (by omega)⟩
  · exact singleton hb

/-- What is written for the octets of a text is text: only octets that are characters of their own
are escaped. -/
theorem flatMap_escaped (s : String) : IsText (s.toUTF8.toList.flatMap Codec.escaped) := by
  rw [Text.octets_eq_flatMap, List.flatMap_assoc]
  refine flatMap fun c _ => ?_
  -- only a character of one octet can have an octet that is escaped
  by_cases hascii : c.val.toNat ≤ 0x7f
  · unfold String.utf8EncodeChar
    dsimp only
    rw [if_pos hascii, List.flatMap_singleton]
    refine escaped ?_
    rw [UInt8.lt_iff_toNat_lt, UInt8.toNat_ofNat']
    change _ < 128
    omega
  · have hplain : ∀ b ∈ String.utf8EncodeChar c, Codec.escaped b = [b] := by
      intro b hmem
      -- every octet of a longer character has its highest bit set
      have hlarge : 128 ≤ b.toNat := by
        unfold String.utf8EncodeChar at hmem
        dsimp only at hmem
        rw [if_neg hascii] at hmem
        repeat' split at hmem
        all_goals
          simp only [List.mem_cons, List.not_mem_nil, or_false] at hmem
          rcases hmem with rfl | rfl | rfl | rfl
          all_goals
            rw [UInt8.toNat_ofNat']
            omega
      unfold Codec.escaped
      iterate 7 rw [if_neg fun heq => absurd (heq ▸ hlarge) (by decide)]
      rw [if_neg]
      change ¬ b.toNat < 32
      omega
    have hone := ofChars [c]
    rw [List.flatMap_singleton] at hone
    rwa [List.flatMap_congr hplain, List.flatMap_singleton']

/-- **A string is written as a text**, whatever is in it. -/
theorem writeText (s : String) : IsText (Codec.writeText s) := by
  have hquote : IsText [34] := plain rfl
  exact (hquote.append (flatMap_escaped s)).append hquote

/-- A number is written in digits. -/
theorem writeNatural (n : Nat) : IsText (Codec.writeNatural n) := by
  refine ascii fun b hmem => ?_
  have hdigit := (isDecimal_writeNatural n).digits b hmem
  unfold isDigit at hdigit
  simp only [Bool.and_eq_true, decide_eq_true_eq, UInt8.le_iff_toNat_le,
    UInt8.toNat_ofNat] at hdigit
  change b.toNat < 128
  omega

/-- It may have a sign before its digits. -/
theorem writeInteger (i : Int) : IsText (Codec.writeInteger i) := by
  unfold Codec.writeInteger
  split
  · have hsign : IsText [45] := plain rfl
    exact hsign.append (writeNatural _)
  · exact writeNatural _

end IsText

/-! ### Parts and what separates them -/

namespace Codec

/-- Parts of a list or an object after the first. -/
def further (parts : List (List UInt8)) : List UInt8 :=
  parts.flatMap (44 :: ·)

/-- A part that is not the first comes after a comma. -/
theorem further_cons (part : List UInt8) (parts : List (List UInt8)) :
    further (part :: parts) = 44 :: (part ++ further parts) :=
  rfl

/-- The first part comes without one. -/
theorem commas_cons (part : List UInt8) (parts : List (List UInt8)) :
    commas (part :: parts) = part ++ further parts := by
  induction parts generalizing part with
  | nil =>
    unfold commas further
    simp
  | cons next parts ih =>
    have hnext : commas (part :: next :: parts) = part ++ 44 :: commas (next :: parts) := by
      unfold commas
      simp
    rw [hnext, ih next]
    rfl

/-- Parts that are texts make a text. -/
theorem isText_commas {parts : List (List UInt8)} (h : ∀ part ∈ parts, IsText part) :
    IsText (commas parts) := by
  have hcomma : IsText [44] := .plain rfl
  cases parts with
  | nil => exact .nil
  | cons part parts =>
    obtain ⟨hpart, hparts⟩ := List.forall_mem_cons.mp h
    rw [commas_cons]
    exact hpart.append (.flatMap fun part hmem => hcomma.append (hparts part hmem))

/-- Between the parts of a list or an object there is a comma. -/
theorem ends_further (parts : List (List UInt8)) {close : UInt8} (rest : List UInt8)
    (hclose : close = 93 ∨ close = 125) : Ends (further parts ++ close :: rest) := by
  intro b hmem
  cases parts with
  | nil =>
    obtain rfl := Option.some.inj hmem
    exact .inr hclose
  | cons part parts =>
    obtain rfl := Option.some.inj hmem
    exact .inl rfl

/-- Every part but the first has a comma. -/
theorem length_le_commas (parts : List (List UInt8)) :
    parts.length ≤ (commas parts).length + 1 := by
  -- each further part brings a comma, so even empty parts count; only the first may leave nothing
  -- behind
  have hfurther : ∀ parts : List (List UInt8), parts.length ≤ (further parts).length := by
    intro parts
    induction parts with
    | nil => exact Nat.le_refl _
    | cons part parts ih =>
      rw [further_cons, List.length_cons, List.length_cons, List.length_append]
      omega
  cases parts with
  | nil => exact Nat.zero_le _
  | cons part parts =>
    have hparts := hfurther parts
    rw [commas_cons, List.length_cons, List.length_append]
    omega

end Codec

namespace Reader

variable {α : Type} {b : UInt8} {rest : List UInt8} {p : Place}

/-- The first element comes at once. -/
theorem hasElement_first (hsolid : Cursor.isBlank b = false) (hnot : b ≠ 93) :
    hasElement true ⟨b :: rest, p⟩ = .ok true ⟨b :: rest, p⟩ := by
  unfold hasElement
  rw [bind_ok (peekSolid_cons hsolid)]
  dsimp only
  rw [if_neg hnot, if_pos rfl]
  rfl

/-- Any other one comes after a comma. -/
theorem hasElement_comma (hsolid : Cursor.isBlank b = false) (hnot : b ≠ 93) :
    hasElement false ⟨44 :: b :: rest, p⟩ = .ok true ⟨b :: rest, p.after 44⟩ := by
  unfold hasElement
  rw [bind_ok (peekSolid_cons rfl)]
  dsimp only
  rw [if_neg (by decide), if_neg (by decide), if_pos rfl, bind_ok skip_cons,
    bind_ok (peekSolid_cons hsolid)]
  dsimp only
  rw [if_neg hnot]
  rfl

/-- **What brackets enclose** is read, and then the closing one. -/
theorem takes_enclosed {opening closing_ : UInt8} {close : Reader Unit} {r : Reader α} {a : α}
    {bs : List UInt8}
    (h : ∀ rest p, r ⟨bs ++ closing_ :: rest, p⟩ = .ok a ⟨closing_ :: rest, p.afterAll bs⟩)
    (hclose : ∀ rest p, close ⟨closing_ :: rest, p⟩ = .ok () ⟨rest, p.after closing_⟩) :
    Takes (skip >>= fun _ => closing close r) (opening :: bs ++ [closing_]) a := by
  intro rest p
  rw [List.append_assoc, List.singleton_append, List.cons_append, bind_ok skip_cons]
  unfold closing
  rw [h]
  dsimp only
  rw [hclose, Place.afterAll_append]
  rfl

end Reader

/-! ### Codecs -/

namespace Codec

variable {α : Type} {c : Codec α}

/-- **A codec is faithful** if every value is read as it was written. -/
structure Faithful (c : Codec α) : Prop where
  /-- What is written starts with an octet that is no blank, and that does not end a list. -/
  starts : ∀ a, ∃ b bs, c.write a = b :: bs ∧ Cursor.isBlank b = false ∧ b ≠ 93
  reads : ∀ a, Reads c.read (c.write a) a
  isText : ∀ a, IsText (c.write a)

namespace Faithful

/-! ### Plain values -/

/-- A value in quotes is read as the value that its text is parsed to. -/
theorem reads_quoted (expected : String) {parse : String → Except Mismatch α} {s : String} {a : α}
    (hparse : parse s = .ok a) : Reads (quoted expected parse) (writeText s) a := by
  refine Reads.starting rfl rfl ?_
  intro rest p _
  rw [show (34 :: (s.toUTF8.toList.flatMap escaped).append [34]) ++ rest
    = 34 :: (s.toUTF8.toList.flatMap escaped ++ [34] ++ rest) from rfl,
    bind_ok skip_cons, bind_ok (takes_text s rest _), hparse]
  rfl

/-- **A value written as a text** is read if its text is parsed back to it. -/
theorem parsed {expected : String} {parse : String → Except Mismatch α} {shown : α → String}
    (h : ∀ a, parse (shown a) = .ok a) : (Codec.parsed expected parse shown).Faithful where
  starts a := ⟨34, _, rfl, rfl, by decide⟩
  reads a := reads_quoted expected (h a)
  isText a := .writeText _

/-- **A string** is read as it was written. -/
theorem text : Codec.text.Faithful :=
  parsed fun _ => rfl

/-- **A number within the bounds** of its type is read as it was written. -/
theorem whole {type : String} {accept : Int → Option α} {value : α → Int}
    (haccept : ∀ a, accept (value a) = some a)
    (hbounds : ∀ a, -0x8000000000000000 ≤ value a ∧ value a ≤ largest) :
    (Codec.whole type accept value).Faithful where
  starts a := by
    change ∃ b bs, writeInteger (value a) = _ ∧ _
    unfold writeInteger
    -- a negative number starts with the sign, any other with a digit
    split
    · exact ⟨45, _, rfl, rfl, by decide⟩
    · obtain ⟨d, ds, hds, hdigit⟩ := writeNatural_front (value a).natAbs
      refine ⟨d, ds, hds, (isBlank_of_isDigit hdigit).1, ?_⟩
      rintro rfl
      cases hdigit
  reads a := reads_whole (haccept a) (hbounds a).1 (hbounds a).2
  isText a := .writeInteger _

/-- **A truth value** is one of two words. -/
theorem boolean : Codec.boolean.Faithful where
  starts b := by
    cases b with
    | true => exact ⟨116, _, rfl, rfl, by decide⟩
    | false => exact ⟨102, _, rfl, rfl, by decide⟩
  reads b := by
    cases b with
    | true =>
      -- the first octet decides the word, and the rest of it is then taken whole
      refine Reads.starting rfl rfl (Takes.reads ?_)
      exact .skip (takes_word trueRest).returns
    | false =>
      refine Reads.starting rfl rfl (Takes.reads ?_)
      exact .skip (takes_word falseRest).returns
  isText b := by
    cases b with
    | true => exact .plain rfl
    | false => exact .plain rfl

/-! ### Values made of others -/

/-- A value that is not written like `null` may be missing. -/
theorem optional (hc : c.Faithful) (hnull : ∀ a, (c.write a).head? ≠ some 110) :
    (Codec.optional c).Faithful where
  starts
    | none => ⟨110, _, rfl, rfl, by decide⟩
    | some a => hc.starts a
  reads
    | none => fun rest p _ => by
      change (peekSolid >>= _) ⟨110 :: (nullRest ++ rest), p⟩ = _
      rw [bind_ok (peekSolid_cons rfl), if_pos rfl, bind_ok skip_cons, bind_ok (takes_word _ _ _)]
      rfl
    | some a => fun rest p hrest => by
      have hreads := hc.reads a rest p hrest
      obtain ⟨b, bs, hwrite, hsolid, -⟩ := hc.starts a
      -- what is written does not begin as null does
      have hnot : (c.write a).head? ≠ some 110 := hnull a
      change (peekSolid >>= _) ⟨c.write a ++ rest, p⟩ = .ok (some a) ⟨rest, p.afterAll (c.write a)⟩
      rw [hwrite] at hreads hnot ⊢
      rw [List.cons_append, bind_ok (peekSolid_cons hsolid),
        if_neg (show some b ≠ some 110 from hnot)]
      exact bind_ok hreads
  isText
    | none => show IsText nullOctets from .plain rfl
    | some a => hc.isText a

/-- Elements after the first are read as they were written. -/
theorem elements_further (hc : c.Faithful) {rest : List UInt8} (as : List α) :
    ∀ (fuel : Nat) (done : List α) (p : Place), as.length < fuel →
    Codec.elements c.read fuel false done ⟨further (as.map c.write) ++ 93 :: rest, p⟩
      = .ok (done.reverse ++ as) ⟨93 :: rest, p.afterAll (further (as.map c.write))⟩ := by
  induction as with
  | nil =>
    intro fuel done p hfuel
    obtain ⟨fuel, rfl⟩ := Nat.exists_eq_succ_of_ne_zero (Nat.ne_zero_of_lt hfuel)
    rw [List.append_nil]
    rfl
  | cons a as ih =>
    intro fuel done p hfuel
    obtain ⟨fuel, rfl⟩ := Nat.exists_eq_succ_of_ne_zero (Nat.ne_zero_of_lt hfuel)
    -- a comma or the bracket follows, so that the element ends where it was written to end
    have hreads := hc.reads a (further (as.map c.write) ++ 93 :: rest) (p.after 44)
      (ends_further _ _ (.inl rfl))
    obtain ⟨b, bs, hwrite, hsolid, hnot⟩ := hc.starts a
    rw [hwrite, List.cons_append] at hreads
    rw [List.map_cons, further_cons, List.cons_append, List.append_assoc, hwrite, List.cons_append]
    unfold Codec.elements
    rw [bind_ok (hasElement_comma hsolid hnot), if_pos rfl, bind_ok hreads,
      ih fuel _ _ (Nat.lt_of_succ_lt_succ hfuel), List.reverse_cons, List.append_assoc,
      List.singleton_append, Place.afterAll_cons p 44, Place.afterAll_append]

/-- Elements that have been written are read one after the other, up to the closing bracket. -/
theorem elements_written (hc : c.Faithful) {rest : List UInt8} {p : Place} (as : List α)
    {fuel : Nat} (hfuel : as.length < fuel) :
    Codec.elements c.read fuel true [] ⟨commas (as.map c.write) ++ 93 :: rest, p⟩
      = .ok as ⟨93 :: rest, p.afterAll (commas (as.map c.write))⟩ := by
  obtain ⟨fuel, rfl⟩ := Nat.exists_eq_succ_of_ne_zero (Nat.ne_zero_of_lt hfuel)
  cases as with
  | nil => rfl
  | cons a as =>
    -- the first element has no comma in front, all others are read alike
    have hreads := hc.reads a (further (as.map c.write) ++ 93 :: rest) p
      (ends_further _ _ (.inl rfl))
    obtain ⟨b, bs, hwrite, hsolid, hnot⟩ := hc.starts a
    rw [hwrite, List.cons_append] at hreads
    rw [List.map_cons, commas_cons, List.append_assoc, hwrite, List.cons_append]
    unfold Codec.elements
    rw [bind_ok (hasElement_first hsolid hnot), if_pos rfl, bind_ok hreads,
      elements_further hc as fuel _ _ (Nat.lt_of_succ_lt_succ hfuel), Place.afterAll_append]
    rfl

/-- **A list is read as it was written**, if its elements are. -/
theorem list (hc : c.Faithful) : (Codec.list c).Faithful where
  starts as := ⟨91, _, rfl, rfl, by decide⟩
  reads as := by
    refine Reads.starting rfl rfl (Takes.reads (takes_enclosed ?_ fun _ _ => rfl))
    intro rest p
    -- the reader's fuel is the number of octets left, and there are at least as many of them as
    -- elements
    have hlength := length_le_commas (as.map c.write)
    rw [List.length_map] at hlength
    rw [bind_ok left_eq]
    exact elements_written hc as (by rw [List.length_append, List.length_cons]; omega)
  isText as := by
    have hopening : IsText [91] := .plain rfl
    have hclosing : IsText [93] := .plain rfl
    refine (hopening.append (isText_commas fun part hmem => ?_)).append hclosing
    obtain ⟨a, -, rfl⟩ := List.mem_map.mp hmem
    exact hc.isText a

/-- An enumeration whose values are all known, by names of their own. -/
theorem enumeration {all : List α} {name : α → String}
    (h : ∀ a, Value.named all name (name a) = .ok a) :
    (Codec.enumeration all name).Faithful where
  starts a := ⟨34, _, rfl, rfl, by decide⟩
  reads a := by
    intro rest p hrest
    refine Eq.trans ?_ (reads_quoted "variant identifier" (h a) rest p hrest)
    change (peekSolid >>= _) ⟨34 :: ((name a).toUTF8.toList.flatMap escaped ++ [34] ++ rest), p⟩ = _
    rw [bind_ok (peekSolid_cons rfl)]
    rfl
  isText a := .writeText _

end Faithful
end Codec

/-! ### Records -/

namespace Schema

variable {δ α β : Type} {a : α}

/-- **Fields fill a draft**: each is read as it was written, and none of them has been read
before. -/
inductive Fills (a : α) : List (Field δ α) → δ → δ → Prop
  | nil {d : δ} : Fills a [] d d
  | cons {f : Field δ α} {fields : List (Field δ α)} {d d₁ d₂ : δ} (hset : f.isSet d = false)
      (hreads : Reads (f.read d) (f.write a) d₁) (htext : IsText (f.write a))
      (h : Fills a fields d₁ d₂) : Fills a (f :: fields) d d₂

/-- A field that has a value is read into its place in the draft. -/
theorem Fills.of {name : String} {c : Codec β} {draft : δ → Option β} {put : δ → β → δ}
    {value : α → β} {fields : List (Field δ α)} {d d₂ : δ} (hc : c.Faithful) (hset : draft d = none)
    (h : Fills a fields (put d (value a)) d₂) :
    Fills a (.of name c draft put value :: fields) d d₂ := by
  refine .cons ?_ ?_ (hc.isText (value a)) h
  · change (draft d).isSome = false
    rw [hset]
    rfl
  · intro rest p hrest
    exact bind_ok (hc.reads (value a) rest p hrest)

/-- How a field is written. -/
def written (a : α) (f : Field δ α) : List UInt8 :=
  Codec.writeText f.name ++ 58 :: f.write a

/-- A field is found by its name, which no other one has. -/
theorem find?_name {fields : List (Field δ α)} {f : Field δ α}
    (hnames : (fields.map (·.name)).Nodup) (hmem : f ∈ fields) :
    fields.find? (fun g => g.name = f.name) = some f := by
  induction fields with
  | nil => cases hmem
  | cons g fields ih =>
    rw [List.map_cons, List.nodup_cons] at hnames
    rcases List.mem_cons.mp hmem with rfl | htail
    · rw [List.find?_cons_of_pos]
      exact decide_eq_true rfl
    · -- the head is another field, since no name stands twice
      have hne : g.name ≠ f.name := by
        intro heq
        exact hnames.1 (heq ▸ List.mem_map.mpr ⟨f, htail, rfl⟩)
      rw [List.find?_cons_of_neg (by rw [decide_eq_false hne]; exact Bool.false_ne_true)]
      exact ih hnames.2 htail

/-- **A member** that comes next is read into the draft. -/
theorem members_step {r : Schema δ α} {f : Field δ α} {d d₁ : δ} {fuel : Nat} {first : Bool}
    {cs rest : List UInt8} {p p' : Place} (hnames : (r.fields.map (·.name)).Nodup)
    (hmem : f ∈ r.fields) (hset : f.isSet d = false) (hreads : Reads (f.read d) (f.write a) d₁)
    (hrest : Ends rest) (hkey : hasKey first ⟨cs, p⟩ = .ok true ⟨written a f ++ rest, p'⟩) :
    members r (fuel + 1) first d ⟨cs, p⟩
      = members r fuel false d₁ ⟨rest, p'.afterAll (written a f)⟩ := by
  -- a name and a colon come before the value
  have hwritten : written a f
      = 34 :: ((f.name.toUTF8.toList.flatMap Codec.escaped ++ [34]) ++ 58 :: f.write a) := by
    unfold written Codec.writeText
    simp only [List.append_assoc, List.cons_append, List.nil_append]
  rw [hwritten, List.cons_append, List.append_assoc, List.cons_append] at hkey
  conv_lhs => unfold members
  rw [bind_ok hkey, if_neg (by decide), bind_ok skip_cons, bind_ok (takes_text f.name _ _),
    find?_name hnames hmem]
  dsimp only
  rw [hset, if_neg (by decide), bind_ok (show colon _ = .ok () ⟨f.write a ++ rest, _⟩ from rfl),
    bind_ok (hreads rest _ hrest), hwritten, Place.afterAll_cons p',
    Place.afterAll_append _ _ (58 :: f.write a)]
  rfl

/-- **The members of an object** are read as they were written. -/
theorem members_further {r : Schema δ α} {fields : List (Field δ α)} {d d₂ : δ}
    (hnames : (r.fields.map (·.name)).Nodup) (hfills : Fills a fields d d₂)
    (hmem : ∀ f ∈ fields, f ∈ r.fields) {rest : List UInt8} : ∀ {fuel : Nat} {p : Place},
    fields.length < fuel →
    members r fuel false d
        ⟨Codec.further (fields.map (written a)) ++ 125 :: rest, p⟩
      = .ok d₂ ⟨125 :: rest, p.afterAll (Codec.further (fields.map (written a)))⟩ := by
  induction hfills with
  | nil =>
    intro fuel p hfuel
    obtain ⟨fuel, rfl⟩ := Nat.exists_eq_succ_of_ne_zero (Nat.ne_zero_of_lt hfuel)
    rfl
  | @cons f fields d d₁ d₂ hset hreads htext h ih =>
    intro fuel p hfuel
    obtain ⟨fuel, rfl⟩ := Nat.exists_eq_succ_of_ne_zero (Nat.ne_zero_of_lt hfuel)
    -- the field is found by its name, and it has not been set before
    obtain ⟨hf, hfields⟩ := List.forall_mem_cons.mp hmem
    rw [List.map_cons, Codec.further_cons, List.cons_append, List.append_assoc]
    rw [members_step hnames hf hset hreads (Codec.ends_further _ _ (.inr rfl)) rfl,
      ih hfields (Nat.lt_of_succ_lt_succ hfuel), Place.afterAll_cons p 44, Place.afterAll_append]

/-- **The members of a record** are read one after the other, each into its place, up to the closing
brace. -/
theorem members_written {r : Schema δ α} {fields : List (Field δ α)} {d d₂ : δ}
    (hnames : (r.fields.map (·.name)).Nodup) (hfills : Fills a fields d d₂)
    (hmem : ∀ f ∈ fields, f ∈ r.fields) {rest : List UInt8} {fuel : Nat} {p : Place}
    (hfuel : fields.length < fuel) :
    members r fuel true d ⟨Codec.commas (fields.map (written a)) ++ 125 :: rest, p⟩
      = .ok d₂ ⟨125 :: rest, p.afterAll (Codec.commas (fields.map (written a)))⟩ := by
  obtain ⟨fuel, rfl⟩ := Nat.exists_eq_succ_of_ne_zero (Nat.ne_zero_of_lt hfuel)
  -- one member is read, and the others as members after a comma; the fuel falls by one with each
  cases hfills with
  | nil => rfl
  | @cons f fields _ d₁ _ hset hreads htext h =>
    obtain ⟨hf, hfields⟩ := List.forall_mem_cons.mp hmem
    rw [List.map_cons, Codec.commas_cons, List.append_assoc,
      members_step hnames hf hset hreads (Codec.ends_further _ _ (.inr rfl)) rfl,
      members_further hnames h hfields (Nat.lt_of_succ_lt_succ hfuel), Place.afterAll_append]

/-- The fields of a record are written as texts. -/
theorem Fills.isText {fields : List (Field δ α)} {d d₂ : δ} (h : Fills a fields d d₂) :
    ∀ f ∈ fields, IsText (f.write a) := by
  induction h with
  | nil => exact fun f hmem => absurd hmem List.not_mem_nil
  | cons _ _ htext _ ih => exact List.forall_mem_cons.mpr ⟨htext, ih⟩

end Schema

/-- **A record is faithful** if its fields have names of their own and fill a draft that is
finished with the record. -/
theorem Codec.Faithful.record {δ α : Type} {r : Schema δ α}
    (hnames : (r.fields.map (·.name)).Nodup)
    (hfills : ∀ a, ∃ d, Schema.Fills a r.fields r.start d ∧ r.finish d = .ok a) :
    r.codec.Faithful where
  starts a := ⟨123, _, rfl, rfl, by decide⟩
  reads a := by
    obtain ⟨d, hd, hfinish⟩ := hfills a
    refine Reads.starting rfl rfl (Takes.reads (takes_enclosed ?_ fun _ _ => rfl))
    intro rest p
    have hlength := length_le_commas (r.fields.map (Schema.written a))
    rw [List.length_map] at hlength
    rw [bind_ok left_eq]
    refine (bind_ok (Schema.members_written hnames hd (fun _ hmem => hmem) ?_)).trans ?_
    · -- the fuel is the number of octets, of which each field takes one at least
      rw [List.length_append, List.length_cons]
      change r.fields.length < (commas (r.fields.map (Schema.written a))).length + _ + 1
      omega
    unfold Schema.close
    rw [hfinish]
    rfl
  isText a := by
    obtain ⟨d, hd, -⟩ := hfills a
    -- brackets and colons are text, and so are names and values
    have hopening : IsText [123] := .plain rfl
    have hclosing : IsText [125] := .plain rfl
    have hcolon : IsText [58] := .plain rfl
    refine (hopening.append (isText_commas fun part hmem => ?_)).append hclosing
    obtain ⟨f, hf, rfl⟩ := List.mem_map.mp hmem
    exact (IsText.writeText f.name).append (hcolon.append (hd.isText f hf))

end RobotSession.Json
