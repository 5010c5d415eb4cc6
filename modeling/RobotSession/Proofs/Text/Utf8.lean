import Mathlib.Algebra.BigOperators.Group.List.Basic
import RobotSession.Files
import RobotSession.Text.Utf8

/-!
# Texts and their octets

The octets of a text are those of its characters, and every character is one piece of them. So a
text that is written as octets is read as the same text, by the strict reader and by the one that
reads everything.

* `Utf8.decode?_toUTF8`, `Utf8.lossy_toUTF8` — reading what was written.
* `octets_append`, `octets_ofList` — the octets of texts made of others.
* `Files.readText_iff` — the texts of files.
-/

namespace RobotSession.Text

/-- The octets of an array, one after the other, are its entries. -/
theorem toList_eq_data (b : ByteArray) : b.toList = b.data.toList := by
  -- the loop appends the octets from its position on
  have hloop : ∀ (i : Nat) (done : List UInt8),
      ByteArray.toList.loop b i done = done.reverse ++ b.data.toList.drop i := by
    intro i done
    fun_induction ByteArray.toList.loop b i done with
    | case1 i done hlt ih =>
      have hlt' : i < b.data.toList.length := hlt
      have hget : b.get! i = b.data.toList[i] := by
        change b.data[i]! = _
        rw [Array.getElem_toList]
        exact getElem!_pos b.data i hlt
      rw [ih, List.reverse_cons, List.append_assoc, List.singleton_append,
        List.drop_eq_getElem_cons hlt', hget]
    | case2 i done hge =>
      have hge' : b.data.toList.length ≤ i := Nat.le_of_not_lt hge
      rw [List.drop_eq_nil_of_le hge', List.append_nil]
  exact hloop 0 []

/-- Octets in a list are the same in an array. -/
@[simp]
theorem toList_toByteArray (bs : List UInt8) : bs.toByteArray.toList = bs := by
  rw [toList_eq_data, List.toList_data_toByteArray]

/-- So they are the other way round. -/
@[simp]
theorem toByteArray_toList (b : ByteArray) : b.toList.toByteArray = b := by
  rw [toList_eq_data]
  exact ByteArray.ext (Array.toList_inj.mp List.toList_data_toByteArray)

/-- The octets of two texts come one after the other. -/
theorem octets_append (s t : String) :
    (s ++ t).toUTF8.toList = s.toUTF8.toList ++ t.toUTF8.toList := by
  simp only [toList_eq_data, String.toUTF8_eq_toByteArray, String.toByteArray_append,
    ByteArray.toList_data_append]

/-- The octets of a text are those of its characters. -/
theorem octets_ofList (cs : List Char) :
    (String.ofList cs).toUTF8.toList = cs.flatMap String.utf8EncodeChar := by
  rw [String.toUTF8_eq_toByteArray, String.toByteArray_ofList, List.utf8Encode, toList_toByteArray]

/-- So they are for every text. -/
theorem octets_eq_flatMap (s : String) :
    s.toUTF8.toList = s.toList.flatMap String.utf8EncodeChar := by
  rw [← octets_ofList, String.ofList_toList]

namespace Utf8

/-- **A text is decoded as it was encoded.** -/
@[simp]
theorem decode?_toUTF8 (s : String) : decode? s.toUTF8 = some s := by
  unfold decode? String.fromUTF8?
  exact dif_pos s.isValidUTF8

/-- So it is where a failure would be told. -/
@[simp]
theorem decode_toUTF8 (s : String) : decode s.toUTF8 = .ok s := by
  have h := decode?_toUTF8 s
  unfold decode? at h
  unfold decode
  rw [h]

/-- What reads as a text is the octets of that text. -/
theorem eq_of_decode? {b : ByteArray} {s : String} (h : decode? b = some s) : b = s.toUTF8 := by
  unfold decode? String.fromUTF8? at h
  split at h
  · cases h
    rfl
  · cases h

/-- An octet that continues a character may follow the leading octet, unless the form would be
overlong, a surrogate or too large. -/
theorem allowsSecond_of {first second : UInt8}
    (hcontinues : 0x80 ≤ second.toNat ∧ second.toNat ≤ 0xBF)
    (hlow : first.toNat = 0xE0 → 0xA0 ≤ second.toNat)
    (hsurrogate : first.toNat = 0xED → second.toNat ≤ 0x9F)
    (hlow' : first.toNat = 0xF0 → 0x90 ≤ second.toNat)
    (hlarge : first.toNat = 0xF4 → second.toNat ≤ 0x8F) : allowsSecond first second = true := by
  simp only [allowsSecond, isContinuation, beq_iff_eq, ← UInt8.toNat_inj, UInt8.le_iff_toNat_le,
    UInt8.toNat_ofNat]
  -- four lead octets narrow the range of the second; for the others it is any continuation
  repeat' split
  all_goals
    simp only [Bool.and_eq_true, decide_eq_true_eq]
    omega

/-- **Every character is a piece.** -/
theorem piece_utf8EncodeChar (c : Char) (rest : List UInt8) :
    ∃ b bs, String.utf8EncodeChar c = b :: bs ∧ piece b (bs ++ rest) = .char c (bs.length + 1) := by
  have hvalid : c.val.toNat < 0xD800 ∨ 0xDFFF < c.val.toNat ∧ c.val.toNat < 0x110000 := c.valid
  obtain ⟨v, hv⟩ : ∃ v, c.val.toNat = v := ⟨_, rfl⟩
  have hchar : ∀ n, n = v → Char.ofNat n = c := by
    rintro n rfl
    rw [← hv]
    exact Char.ofNat_toNat c
  rw [hv] at hvalid
  unfold String.utf8EncodeChar
  dsimp only
  rw [hv]
  -- the leading octet says how many follow
  split
  · refine ⟨_, _, rfl, ?_⟩
    simp only [piece, UInt8.lt_iff_toNat_lt, UInt8.toNat_ofNat', UInt8.toNat_ofNat]
    rw [if_pos (by omega), hchar _ (by omega)]
    rfl
  · split
    · refine ⟨_, _, rfl, ?_⟩
      simp only [piece, isContinuation, payload, UInt8.lt_iff_toNat_lt, UInt8.le_iff_toNat_le,
        UInt8.toNat_ofNat', UInt8.toNat_ofNat, List.cons_append, Bool.and_eq_true,
        decide_eq_true_eq]
      rw [if_neg (by omega), if_neg (by omega), if_pos (by omega), if_pos (by omega),
        hchar _ (by omega)]
      rfl
    · split
      · refine ⟨_, _, rfl, ?_⟩
        have hsecond : allowsSecond (UInt8.ofNat (v / 4096 % 16 + 0xe0))
            (UInt8.ofNat (v / 64 % 64 + 0x80)) = true := by
          apply allowsSecond_of <;> simp only [UInt8.toNat_ofNat'] <;> omega
        simp only [piece, hsecond, isContinuation, payload, UInt8.lt_iff_toNat_lt,
          UInt8.le_iff_toNat_le, UInt8.toNat_ofNat', UInt8.toNat_ofNat, List.cons_append,
          Bool.and_eq_true, decide_eq_true_eq]
        rw [if_neg (by omega), if_neg (by omega), if_neg (by omega), if_pos (by omega),
          if_pos trivial, if_pos (by omega), hchar _ (by omega)]
        rfl
      · refine ⟨_, _, rfl, ?_⟩
        have hsecond : allowsSecond (UInt8.ofNat (v / 262144 % 8 + 0xf0))
            (UInt8.ofNat (v / 4096 % 64 + 0x80)) = true := by
          apply allowsSecond_of <;> simp only [UInt8.toNat_ofNat'] <;> omega
        simp only [piece, hsecond, isContinuation, payload, UInt8.lt_iff_toNat_lt,
          UInt8.le_iff_toNat_le, UInt8.toNat_ofNat', UInt8.toNat_ofNat, List.cons_append,
          Bool.and_eq_true, decide_eq_true_eq]
        rw [if_neg (by omega), if_neg (by omega), if_neg (by omega), if_neg (by omega),
          if_pos (by omega), if_pos trivial, if_pos (by omega), if_pos (by omega),
          hchar _ (by omega)]
        rfl

/-- The pieces of a text are its characters. -/
theorem pieces_utf8EncodeChar (cs : List Char) : ∀ fuel, cs.length ≤ fuel →
    (pieces fuel (cs.flatMap String.utf8EncodeChar)).map Piece.shown = cs := by
  induction cs with
  | nil =>
    intro fuel _
    cases fuel with
    | zero => rfl
    | succ fuel => rfl
  | cons c cs ih =>
    intro fuel hfuel
    obtain ⟨fuel, rfl⟩ := Nat.exists_eq_add_of_lt (Nat.zero_lt_of_lt hfuel)
    -- one character is one piece, which takes all its octets
    obtain ⟨b, bs, hencode, hpiece⟩ := piece_utf8EncodeChar c (cs.flatMap String.utf8EncodeChar)
    rw [List.flatMap_cons, hencode, List.cons_append]
    rw [Nat.zero_add] at hfuel ⊢
    unfold pieces
    dsimp only
    rw [hpiece, List.map_cons, show (Piece.char c (bs.length + 1)).size - 1 = bs.length from rfl,
      List.drop_left, ih fuel (Nat.le_of_succ_le_succ hfuel)]
    rfl

/-- **The octets of a text read as that text.** -/
theorem lossy_toUTF8 (s : String) : lossy s.toUTF8 = s := by
  unfold lossy split
  dsimp only
  rw [octets_eq_flatMap, pieces_utf8EncodeChar, String.ofList_toList]
  -- every character takes at least one octet
  rw [List.length_flatMap]
  have hone : ∀ n ∈ s.toList.map fun c => (String.utf8EncodeChar c).length, 1 ≤ n := by
    intro n hmem
    obtain ⟨c, -, rfl⟩ := List.mem_map.mp hmem
    exact List.length_pos_of_ne_nil String.utf8EncodeChar_ne_nil
  have hle := List.length_le_sum_of_one_le _ hone
  rwa [List.length_map] at hle

end Utf8
end RobotSession.Text

/-! ### Texts in files -/

namespace RobotSession.Files

variable {files : Files} {path content : ByteArray}

/-- Octets are those of a text, or they are not read as one. -/
theorem readText_of_readOctets (hread : files.readOctets path = .ok content) :
    files.readText path = match Text.Utf8.decode? content with
      | some text => .ok text
      | none => .error .notText := by
  unfold readText
  rw [hread]
  rfl

/-- A file that cannot be read cannot be read as a text. -/
theorem readText_of_not_readOctets {f : FileFault} (hread : files.readOctets path = .error f) :
    files.readText path = .error f := by
  unfold readText
  rw [hread]
  rfl

/-- **A file is read as a text whose octets it holds.** -/
theorem readText_iff {text : String} :
    files.readText path = .ok text ↔ files.readOctets path = .ok (Text.octets text) := by
  cases hread : files.readOctets path with
  | error f =>
    rw [readText_of_not_readOctets hread]
    exact ⟨nofun, nofun⟩
  | ok content =>
    rw [readText_of_readOctets hread, Except.ok.injEq]
    cases htext : Text.Utf8.decode? content with
    | none =>
      refine ⟨nofun, ?_⟩
      rintro rfl
      exact nomatch htext.symm.trans (Text.Utf8.decode?_toUTF8 text)
    -- decoding is undone by encoding, so the content has one text only
    | some text' =>
      obtain rfl := Text.Utf8.eq_of_decode? htext
      refine ⟨fun h => congrArg String.toUTF8 (Except.ok.inj h), ?_⟩
      intro h
      have hsame : some text' = some text :=
        (Text.Utf8.decode?_toUTF8 text').symm.trans ((congrArg Text.Utf8.decode? h).trans
          (Text.Utf8.decode?_toUTF8 text))
      exact congrArg Except.ok (Option.some.inj hsame)

end RobotSession.Files
