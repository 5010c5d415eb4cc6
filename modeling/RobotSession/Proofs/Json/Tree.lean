import RobotSession.Proofs.Json.Reading

/-!
# JSON texts as they may be spelled

A value may have blanks around it, the characters of a text may be escaped, the members of an object
may come in any order, and a key may come more than once. All of that is kept in a tree; only blanks
are left out. What a tree stands for is a matter of the type as which it is read.

* `Tree` — a value as it is spelled, without blanks.
* `Spelled` — octets that spell a value, or parts of one.
* `Part.textOf` — the text that parts of a text stand for, if they do stand for one.
* `Reader.Gives`, `Reader.Fails` — what a reader makes of octets, wherever they are.
-/

namespace RobotSession.Json

open Reader

/-! ### Trees -/

/-- **A part of a text**: an octet that stands for itself, or an escape. -/
inductive Part
  | octet (b : UInt8)
  /-- A letter after a backslash. -/
  | short (b : UInt8)
  /-- A number of four hexadecimal digits after a backslash and a `u`. -/
  | code (x y z w : UInt8)

/-- **A number** as it is spelled. -/
structure Numeral where
  isNegative : Bool
  digits : List UInt8
  fraction : Option (List UInt8)
  /-- The letter, the sign if there is one, and the digits. -/
  exponent : Option (UInt8 × Option UInt8 × List UInt8)

/-- **A JSON value** as it is spelled, without blanks. -/
inductive Tree
  | null
  | boolean (b : Bool)
  | number (n : Numeral)
  | text (parts : List Part)
  | list (items : List Tree)
  | object (members : List (List Part × Tree))

/-- A key with its value. -/
abbrev Member := List Part × Tree

namespace Part

/-- How a part is spelled. -/
def octets : Part → List UInt8
  | .octet b => [b]
  | .short b => [92, b]
  | .code x y z w => [92, 117, x, y, z, w]

/-- A quote, a backslash or a control character does not stand for itself, and there are only so
many escapes. -/
def IsValid : Part → Prop
  | .octet b => b ≠ 34 ∧ b ≠ 92 ∧ ¬ b < 32
  | .short b => (shortEscape? b).isSome = true
  | .code x y z w => ∀ d ∈ [x, y, z, w], (hexDigit? d).isSome = true

instance : DecidablePred IsValid
  | .octet b => inferInstanceAs (Decidable (b ≠ 34 ∧ b ≠ 92 ∧ ¬ b < 32))
  | .short b => inferInstanceAs (Decidable ((shortEscape? b).isSome = true))
  | .code x y z w => List.decidableBAll (fun d => (hexDigit? d).isSome = true) [x, y, z, w]

/-- The octets between the quotes of a text. -/
def body (parts : List Part) : List UInt8 :=
  parts.flatMap octets

/-- The number that four hexadecimal digits stand for. -/
def codeOf (x y z w : UInt8) : Nat :=
  ([x, y, z, w].map fun d => (hexDigit? d).getD 0).foldl (fun n d => n * 16 + d) 0

/-- A number that has to stand before, or after, another one. -/
def isLeading (n : Nat) : Bool :=
  0xD800 ≤ n && n ≤ 0xDBFF
def isTrailing (n : Nat) : Bool :=
  0xDC00 ≤ n && n ≤ 0xDFFF

/-- The octets that parts of a text stand for. Two numbers stand for one character if the first one
is a leading surrogate; then the second one has to be a trailing one, and there is no other place
for those. -/
def meant : List Part → Option (List UInt8)
  | [] => some []
  | .octet b :: parts => (meant parts).map (b :: ·)
  | .short b :: parts => (meant parts).map ((shortEscape? b).toList ++ ·)
  | .code x y z w :: parts =>
    let n := codeOf x y z w
    if isTrailing n then none
    else if !isLeading n then (meant parts).map (Text.Utf8.encodeExtended n ++ ·)
    else
      match parts with
      | .code x y z w :: parts =>
        let m := codeOf x y z w
        if isTrailing m then
          (meant parts).map
            (Text.Utf8.encodeExtended ((n - 0xD800) * 1024 + (m - 0xDC00) + 0x10000) ++ ·)
        else none
      | _ => none

/-- **The text that parts stand for**, if there is one. -/
def textOf (parts : List Part) : Option String :=
  (meant parts).bind fun bs => Text.Utf8.decode? bs.toByteArray

end Part

/-- A text that is spelled without escapes. -/
def plain (s : String) : List Part :=
  (Text.octets s).toList.map .octet

/-- Octets without escapes stand for themselves. -/
theorem meant_octets (bs : List UInt8) : Part.meant (bs.map .octet) = some bs := by
  -- an octet that stands for itself adds itself
  induction bs with
  | nil => rfl
  | cons b bs ih =>
    rw [List.map_cons]
    unfold Part.meant
    rw [ih]
    rfl

/-- Without escapes every text stands for itself. -/
@[simp]
theorem textOf_plain (s : String) : Part.textOf (plain s) = some s := by
  unfold Part.textOf plain
  -- the octets of a text are UTF-8, and stand for the text
  rw [meant_octets, Option.bind_some, Text.toByteArray_toList, Text.Utf8.decode?_toUTF8]

namespace Numeral

/-- A fraction, with the point before it. -/
def pointed : Option (List UInt8) → List UInt8
  | none => []
  | some ds => 46 :: ds

/-- An exponent, with the letter before it. -/
def scaled : Option (UInt8 × Option UInt8 × List UInt8) → List UInt8
  | none => []
  | some (letter, sign, ds) => letter :: (sign.toList ++ ds)

/-- What follows the digits. -/
def tail (n : Numeral) : List UInt8 :=
  pointed n.fraction ++ scaled n.exponent

/-- How a number is spelled. -/
def octets (n : Numeral) : List UInt8 :=
  (if n.isNegative then [45] else []) ++ n.digits ++ n.tail

/-- One digit at least. -/
def IsSome (ds : List UInt8) : Prop :=
  ds ≠ [] ∧ ∀ d ∈ ds, isDigit d = true

/-- A zero at the front is alone, and where digits are announced there are some. -/
structure IsValid (n : Numeral) : Prop where
  digits : IsDecimal n.digits (valueAfter 0 n.digits)
  fraction : ∀ ds ∈ n.fraction, IsSome ds
  letter : ∀ e ∈ n.exponent, e.1 = 101 ∨ e.1 = 69
  sign : ∀ e ∈ n.exponent, ∀ b ∈ e.2.1, b = 43 ∨ b = 45
  exponent : ∀ e ∈ n.exponent, IsSome e.2.2

end Numeral

/-! ### Spellings -/

/-- Octets that are nothing but blanks. -/
def Blanks (w : List UInt8) : Prop :=
  ∀ b ∈ w, Cursor.isBlank b = true

/-- What is spelled: a value, or parts of a list or an object with the blanks around them. -/
inductive Shape
  | value (t : Tree)
  | item (t : Tree)
  | items (ts : List Tree)
  | member (m : Member)
  | members (ms : List Member)

/-- **Octets that spell a value**, with blanks wherever they may be. -/
inductive Spelled : Shape → List UInt8 → Prop
  | null : Spelled (.value .null) [110, 117, 108, 108]
  | isTrue : Spelled (.value (.boolean true)) [116, 114, 117, 101]
  | isFalse : Spelled (.value (.boolean false)) [102, 97, 108, 115, 101]
  | number {n : Numeral} (h : n.IsValid) : Spelled (.value (.number n)) n.octets
  | text {parts : List Part} (h : ∀ part ∈ parts, part.IsValid) :
      Spelled (.value (.text parts)) (34 :: (Part.body parts ++ [34]))
  | noItems {w : List UInt8} (hw : Blanks w) : Spelled (.value (.list [])) (91 :: (w ++ [93]))
  | list {ts : List Tree} {bs : List UInt8} (h : Spelled (.items ts) bs) :
      Spelled (.value (.list ts)) (91 :: (bs ++ [93]))
  | noMembers {w : List UInt8} (hw : Blanks w) :
      Spelled (.value (.object [])) (123 :: (w ++ [125]))
  | object {ms : List Member} {bs : List UInt8} (h : Spelled (.members ms) bs) :
      Spelled (.value (.object ms)) (123 :: (bs ++ [125]))
  | item {t : Tree} {w bs w' : List UInt8} (hw : Blanks w) (h : Spelled (.value t) bs)
      (hw' : Blanks w') : Spelled (.item t) (w ++ (bs ++ w'))
  | lastItem {t : Tree} {bs : List UInt8} (h : Spelled (.item t) bs) : Spelled (.items [t]) bs
  | nextItem {t : Tree} {ts : List Tree} {bs bs' : List UInt8} (h : Spelled (.item t) bs)
      (hs : Spelled (.items ts) bs') : Spelled (.items (t :: ts)) (bs ++ 44 :: bs')
  | member {key : List Part} {t : Tree} {w w' bs : List UInt8} (hw : Blanks w)
      (hkey : ∀ part ∈ key, part.IsValid) (hw' : Blanks w') (h : Spelled (.item t) bs) :
      Spelled (.member (key, t)) (w ++ 34 :: (Part.body key ++ 34 :: (w' ++ 58 :: bs)))
  | lastMember {m : Member} {bs : List UInt8} (h : Spelled (.member m) bs) :
      Spelled (.members [m]) bs
  | nextMember {m : Member} {ms : List Member} {bs bs' : List UInt8}
      (h : Spelled (.member m) bs) (hs : Spelled (.members ms) bs') :
      Spelled (.members (m :: ms)) (bs ++ 44 :: bs')

/-- What a value begins with. -/
def Tree.Starts : Tree → UInt8 → Prop
  | .null, b => b = 110
  | .boolean truth, b => b = if truth then 116 else 102
  | .number _, b => b = 45 ∨ isDigit b = true
  | .text _, b => b = 34
  | .list _, b => b = 91
  | .object _, b => b = 123

/-- **A value is known by what it begins with.** -/
theorem Spelled.starts {t : Tree} {bs : List UInt8} (h : Spelled (.value t) bs) :
    ∃ b bs', bs = b :: bs' ∧ t.Starts b := by
  cases h with
  | @number n h =>
    obtain ⟨hdigits, -, d, ds, hds, -⟩ := h.digits
    unfold Numeral.octets
    cases n.isNegative with
    -- a number begins with its sign, or with its first digit
    | true => exact ⟨_, _, rfl, .inl rfl⟩
    | false =>
      rw [hds]
      exact ⟨_, _, rfl, .inr (hdigits d (hds ▸ List.mem_cons_self))⟩
  -- every other form begins with a letter, a quote, a bracket or a brace of its own
  | _ => exact ⟨_, _, rfl, rfl⟩

/-- What a value begins with is no blank, and nothing that may follow one. -/
theorem Tree.Starts.ne {t : Tree} {b : UInt8} (h : t.Starts b) :
    Cursor.isBlank b = false ∧ b ≠ 44 ∧ b ≠ 93 ∧ b ≠ 125 := by
  cases t with
  | boolean truth =>
    cases truth with
    | _ =>
      obtain rfl := h
      decide
  | number n =>
    -- a number begins with a minus or a digit
    rcases h with rfl | hdigit
    · decide
    · refine ⟨(isBlank_of_isDigit hdigit).1, ?_, ?_, ?_⟩
      all_goals
        rintro rfl
        cases hdigit
  | _ =>
    obtain rfl := h
    decide

/-- Texts, lists and objects are known by what they begin with. -/
theorem Tree.Starts.opening {t : Tree} {b : UInt8} (h : t.Starts b) :
    (b = 34 → ∃ parts, t = .text parts) ∧ (b = 91 → ∃ ts, t = .list ts)
      ∧ (b = 123 → ∃ ms, t = .object ms) := by
  cases t with
  | text parts =>
    obtain rfl := h
    exact ⟨fun _ => ⟨parts, rfl⟩, nofun, nofun⟩
  | list ts =>
    obtain rfl := h
    exact ⟨nofun, fun _ => ⟨ts, rfl⟩, nofun⟩
  | object ms =>
    obtain rfl := h
    exact ⟨nofun, nofun, fun _ => ⟨ms, rfl⟩⟩
  | null =>
    obtain rfl := h
    exact ⟨nofun, nofun, nofun⟩
  | boolean truth =>
    cases truth with
    | _ =>
      obtain rfl := h
      exact ⟨nofun, nofun, nofun⟩
  | number n =>
    rcases h with rfl | hdigit
    · exact ⟨nofun, nofun, nofun⟩
    · refine ⟨?_, ?_, ?_⟩
      -- a digit is no quote, bracket or brace
      all_goals
        rintro rfl
        cases hdigit

/-- What may follow a value. -/
def Follows (rest : List UInt8) : Prop :=
  ∀ b ∈ rest.head?, Cursor.isBlank b = true ∨ b = 44 ∨ b = 93 ∨ b = 125

namespace Follows

variable {w rest : List UInt8}

/-- Nothing may follow. -/
theorem nil : Follows [] := nofun

/-- A comma may follow. -/
theorem comma : Follows (44 :: rest) := by
  rintro b ⟨⟩
  exact .inr (.inl rfl)

/-- A bracket may. -/
theorem bracket : Follows (93 :: rest) := by
  rintro b ⟨⟩
  exact .inr (.inr (.inl rfl))

/-- A brace may. -/
theorem brace : Follows (125 :: rest) := by
  rintro b ⟨⟩
  exact .inr (.inr (.inr rfl))

/-- What ends a value may follow it. -/
theorem ofEnds (h : Ends rest) : Follows rest :=
  fun b hb => .inr (h b hb)

/-- Blanks may follow a value, too. -/
theorem blanks (hw : Blanks w) (h : Follows rest) : Follows (w ++ rest) := by
  cases w with
  | nil => exact h
  | cons b w =>
    rintro b' ⟨⟩
    exact .inl (hw b List.mem_cons_self)

/-- With none of them a number goes on. -/
theorem stops (h : Follows rest) :
    ∀ b ∈ rest.head?, isDigit b = false ∧ b ≠ 46 ∧ b ≠ 101 ∧ b ≠ 69 := by
  intro b hmem
  rcases h b hmem with hblank | rfl | rfl | rfl
  · -- each of the four blanks is told apart from a digit, a point and the letters of an exponent
    unfold Cursor.isBlank at hblank
    simp only [Bool.or_eq_true, beq_iff_eq] at hblank
    rcases hblank with ((rfl | rfl) | rfl) | rfl
    all_goals decide
  all_goals decide

end Follows

namespace Reader

variable {α β : Type} {r : Reader α} {f : α → Reader β} {a : α} {y : β} {b : UInt8}
  {bs bs' rest w : List UInt8}

/-! ### What a reader makes of octets -/

/-- A reader gives a value, and stops before what is left. -/
def Gives (r : Reader α) (bs : List UInt8) (a : α) (rest : List UInt8) : Prop :=
  ∀ p, ∃ p', r ⟨bs, p⟩ = .ok a ⟨rest, p'⟩

/-- A reader fails, wherever it is then. -/
def Fails (r : Reader α) (bs : List UInt8) : Prop :=
  ∀ p, ∃ e c, r ⟨bs, p⟩ = .error e c

/-- A value may be given at once. -/
theorem gives_pure (a : α) (bs : List UInt8) : (pure a : Reader α).Gives bs a bs :=
  fun p => ⟨p, rfl⟩

/-- One reader goes on where the other has stopped. -/
theorem Gives.bind (h : r.Gives bs a bs') (hf : (f a).Gives bs' y rest) :
    (r >>= f).Gives bs y rest := by
  intro p
  -- wherever the first reader stops, the second one goes on
  obtain ⟨p', hp⟩ := h p
  obtain ⟨p'', hp'⟩ := hf p'
  exact ⟨p'', (bind_ok hp).trans hp'⟩

/-- What comes after a reader fails. -/
theorem Gives.fails (h : r.Gives bs a bs') (hf : (f a).Fails bs') : (r >>= f).Fails bs := by
  intro p
  obtain ⟨p', hp⟩ := h p
  obtain ⟨e, c, hfail⟩ := hf p'
  exact ⟨e, c, (bind_ok hp).trans hfail⟩

/-- A reader that fails is not followed by another. -/
theorem Fails.bind (h : r.Fails bs) : (r >>= f).Fails bs := by
  intro p
  obtain ⟨e, c, hfail⟩ := h p
  refine ⟨e, c, ?_⟩
  change EStateM.bind r f _ = _
  unfold EStateM.bind
  rw [hfail]

/-- A fault that is told at this place is a failure. -/
theorem fails_failHere (fault : Fault) : (failHere fault : Reader α).Fails bs :=
  fun _ => ⟨_, _, rfl⟩

/-- So is one that is told at the next place. -/
theorem fails_failNext (fault : Fault) : (failNext fault : Reader α).Fails bs :=
  fun _ => ⟨_, _, rfl⟩

/-- So is a value of another type. -/
theorem fails_mismatch (m : Mismatch) : (mismatch m : Reader α).Fails bs :=
  fun _ => ⟨_, _, rfl⟩

/-- An octet is skipped. -/
theorem gives_skip : skip.Gives (b :: bs) () bs :=
  fun _ => ⟨_, rfl⟩

/-- An octet is taken. -/
theorem gives_next : next.Gives (b :: bs) (some b) bs :=
  fun _ => ⟨_, rfl⟩

/-- An octet is looked at, and not taken. -/
theorem gives_peek : peek.Gives bs bs.head? bs :=
  fun p => ⟨p, rfl⟩

/-- The octets that are left are counted, and none is taken. -/
theorem gives_left : left.Gives bs bs.length bs :=
  fun p => ⟨p, rfl⟩

/-- What is taken whatever follows is given here, too. -/
theorem Takes.gives (h : Takes r bs a) (rest : List UInt8) : r.Gives (bs ++ rest) a rest :=
  fun p => ⟨_, h rest p⟩

/-- A reader that gives a value has no error to be placed. -/
theorem Gives.placed (h : r.Gives bs a rest) : (placed r).Gives bs a rest := by
  intro p
  obtain ⟨p', hp⟩ := h p
  exact ⟨p', placed_ok hp⟩

/-- An error is placed, and stays an error. -/
theorem Fails.placed (h : r.Fails bs) : (placed r).Fails bs := by
  intro p
  obtain ⟨⟨fault, place⟩, c, hfail⟩ := h p
  unfold Reader.placed
  rw [hfail]
  -- an error keeps its place if it has one, and is placed here if not
  cases place with
  | none => exact ⟨_, _, rfl⟩
  | some place => exact ⟨_, _, rfl⟩

/-! ### Blanks -/

/-- Octets from the first one on that is no blank. -/
def solid (bs : List UInt8) : List UInt8 :=
  bs.dropWhile Cursor.isBlank

/-- Blanks at the front are dropped. -/
theorem solid_blanks (hw : Blanks w) (bs : List UInt8) : solid (w ++ bs) = solid bs := by
  unfold solid
  -- induction on the blanks, of which the first one is dropped
  induction w with
  | nil => rfl
  | cons b w ih =>
    obtain ⟨hb, hw⟩ := List.forall_mem_cons.mp hw
    rw [List.cons_append, List.dropWhile_cons, if_pos hb]
    exact ih hw

/-- Nothing is dropped before an octet that is no blank. -/
theorem solid_cons (hsolid : Cursor.isBlank b = false) : solid (b :: bs) = b :: bs := by
  unfold solid
  rw [List.dropWhile_cons, if_neg (by rw [hsolid]; exact Bool.false_ne_true)]

/-- What is left is not longer. -/
theorem length_solid (bs : List UInt8) : (solid bs).length ≤ bs.length :=
  -- what is left is a part of what there was
  (List.dropWhile_sublist _).length_le

/-- Where something is left, something has been there. -/
theorem length_pos_of_solid {b : UInt8} {bs y : List UInt8} (h : solid bs = b :: y) :
    0 < bs.length := by
  have hle := length_solid bs
  rw [h] at hle
  exact Nat.lt_of_lt_of_le (Nat.succ_pos _) hle

/-- **Blanks are skipped**, wherever they are. -/
theorem skipBlanks_eq (bs : List UInt8) : ∀ p, ∃ p', Cursor.skipBlanks bs p = ⟨solid bs, p'⟩ := by
  induction bs with
  | nil => exact fun p => ⟨p, rfl⟩
  | cons b bs ih =>
    intro p
    unfold Cursor.skipBlanks solid
    rw [List.dropWhile_cons]
    -- a blank is skipped and moves the place, anything else stays
    split
    · exact ih _
    · exact ⟨p, rfl⟩

/-- Blanks are skipped, and the octet after them is not taken. -/
theorem gives_peekSolid (bs : List UInt8) : peekSolid.Gives bs (solid bs).head? (solid bs) := by
  intro p
  obtain ⟨p', hp⟩ := skipBlanks_eq bs p
  refine ⟨p', ?_⟩
  -- the place does not matter for what is seen
  change peek (Cursor.skipBlanks bs p) = _
  rw [hp]
  rfl

end Reader

/-! ### What stands at the front -/

namespace Spelled

variable {t : Tree} {ts : List Tree} {m : Member} {ms : List Member} {bs x rest : List UInt8}

/-- A value without blanks around it. -/
theorem bare (h : Spelled (.value t) bs) : Spelled (.item t) bs := by
  -- no blanks are blanks, too
  have hnone : ∀ b ∈ ([] : List UInt8), Cursor.isBlank b = true := nofun
  have hitem := Spelled.item hnone h hnone
  rw [List.nil_append, List.append_nil] at hitem
  exact hitem

/-- A key without blanks around it, and without escapes. -/
theorem plain {name : String} (hname : ∀ part ∈ plain name, part.IsValid)
    (h : Spelled (.item t) bs) :
    Spelled (.member (plain name, t)) (34 :: (Part.body (Json.plain name) ++ 34 :: 58 :: bs)) := by
  have hnone : ∀ b ∈ ([] : List UInt8), Cursor.isBlank b = true := nofun
  exact Spelled.member hnone hname hnone h

/-- A value stands at the front, behind its blanks. -/
theorem front (h : Spelled (.value t) bs) (hsolid : solid x = bs ++ rest) :
    ∃ b y, solid x = b :: y ∧ t.Starts b := by
  obtain ⟨b, y, rfl, hb⟩ := h.starts
  exact ⟨b, y ++ rest, hsolid, hb⟩

/-- A value stands between its blanks. -/
theorem value (h : Spelled (.item t) bs) (hrest : Follows rest) (hsolid : solid x = solid (bs ++ rest)) :
    ∃ bs' y, Spelled (.value t) bs' ∧ Follows y ∧ solid x = bs' ++ y ∧ solid y = solid rest := by
  cases h with
  | @item _ w bs w' hw h hw' =>
    obtain ⟨b, z, hy, hb⟩ := h.starts
    -- the blanks behind the value belong to what follows it
    refine ⟨bs, w' ++ rest, h, hrest.blanks hw', ?_, solid_blanks hw' rest⟩
    -- the blanks before the value are dropped, and it begins with none
    rw [hsolid, List.append_assoc, solid_blanks hw, List.append_assoc, hy, List.cons_append,
      solid_cons hb.ne.1]

/-- So does a value that may have blanks around it. -/
theorem solid_item (h : Spelled (.item t) bs) (rest : List UInt8) :
    ∃ b y, solid (bs ++ rest) = b :: y ∧ t.Starts b := by
  cases h with
  | item hw h hw' =>
    obtain ⟨b, bs', rfl, hb⟩ := h.starts
    -- the blanks before the value are dropped
    rw [List.append_assoc, solid_blanks hw, List.append_assoc, List.cons_append, solid_cons hb.ne.1]
    exact ⟨_, _, rfl, hb⟩

/-- A value stands at the front of the values of a list. -/
theorem solid_items (h : Spelled (.items ts) bs) (rest : List UInt8) :
    ∃ b y, solid (bs ++ rest) = b :: y ∧ Cursor.isBlank b = false ∧ b ≠ 93 := by
  cases h with
  -- the first value is the last one, or a comma follows it
  | lastItem h =>
    obtain ⟨b, y, hfirst, hb⟩ := h.solid_item rest
    exact ⟨b, y, hfirst, hb.ne.1, hb.ne.2.2.1⟩
  | @nextItem _ _ bs bs' h hs =>
    rw [List.append_assoc]
    obtain ⟨b, y, hfirst, hb⟩ := h.solid_item (44 :: bs' ++ rest)
    exact ⟨b, y, hfirst, hb.ne.1, hb.ne.2.2.1⟩

/-- A quote stands at the front of a key. -/
theorem solid_member (h : Spelled (.member m) bs) (rest : List UInt8) :
    ∃ y, solid (bs ++ rest) = 34 :: y := by
  cases h with
  | member hw hkey hw' h =>
    -- the blanks before the key are dropped, and the key begins with a quote
    rw [List.append_assoc, solid_blanks hw, List.cons_append, solid_cons rfl]
    exact ⟨_, rfl⟩

/-- A quote stands at the front of the members of an object. -/
theorem solid_members (h : Spelled (.members ms) bs) (rest : List UInt8) :
    ∃ y, solid (bs ++ rest) = 34 :: y := by
  cases h with
  | lastMember h => exact h.solid_member rest
  | nextMember h hs =>
    rw [List.append_assoc]
    exact h.solid_member _

end Spelled
end RobotSession.Json
