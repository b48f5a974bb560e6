/-
  Reroute.Proofs.Text.ByteOrder — the order of texts is that of their bytes.

  Texts are compared character by character.  The code of a smaller character is smaller at the
  first byte in which the two codes differ, and there is such a byte, since no code starts another
  one (`encodeChar_lessAt`).  So comparing the bytes of two texts decides as comparing their
  characters does (`lt_iff_bytesOf_lt`).
-/

namespace Reroute

/-- The bytes of a text. -/
def bytesOf (text : String) : List UInt8 :=
  text.toUTF8.data.toList

theorem bytesOf_eq (text : String) :
    bytesOf text = text.toList.flatMap String.utf8EncodeChar := by
  show text.toByteArray.data.toList = _
  rw [← String.utf8Encode_toList, List.utf8Encode, List.toList_data_toByteArray]

/-! ## §1. The codes of two characters. -/

/-- There is a place at which the lists differ, and the first one is smaller there. -/
inductive LessAt : List UInt8 → List UInt8 → Prop where
  | here {b b' : UInt8} (h : b < b') (rest rest' : List UInt8) : LessAt (b :: rest) (b' :: rest')
  | later (b : UInt8) {rest rest' : List UInt8} (h : LessAt rest rest') :
      LessAt (b :: rest) (b :: rest')

/-- The first bytes decide, or else the ones after them. -/
theorem lessAt_cons {x y : Nat} {rest rest' : List UInt8} (hle : x ≤ y) (hbyte : y < 256)
    (hrest : x = y → LessAt rest rest') :
    LessAt (UInt8.ofNat x :: rest) (UInt8.ofNat y :: rest') := by
  by_cases heq : x = y
  · subst heq
    exact .later _ (hrest rfl)
  · refine .here (UInt8.lt_iff_toNat_lt.2 ?_) _ _
    rw [UInt8.toNat_ofNat', UInt8.toNat_ofNat']
    omega

/-- **The code of a smaller character is smaller**, whatever follows the two codes. -/
theorem encodeChar_lessAt {c d : Char} (h : c < d) :
    LessAt (String.utf8EncodeChar c) (String.utf8EncodeChar d) := by
  have hlt : c.val.toNat < d.val.toNat := h
  have hmax : d.val.toNat < 0x110000 := by
    have hvalid := d.valid
    simp only [UInt32.isValidChar, Nat.isValidChar] at hvalid
    omega
  unfold String.utf8EncodeChar
  generalize c.val.toNat = n at hlt ⊢
  generalize d.val.toNat = m at hlt hmax ⊢
  -- a longer code starts with a greater byte; codes of one length are the digits of the two
  -- numbers to the base 64, the highest one first
  by_cases hone : m ≤ 127
  · have hn : n ≤ 127 := by omega
    simp only [hone, hn, if_true]
    exact lessAt_cons (by omega) (by omega) (by omega)
  by_cases htwo : m ≤ 2047
  · simp only [hone, htwo, if_false, if_true]
    split
    · exact lessAt_cons (by omega) (by omega) (by omega)
    · have hn : n ≤ 2047 := by omega
      simp only [hn, if_true]
      exact lessAt_cons (by omega) (by omega) fun _ =>
        lessAt_cons (by omega) (by omega) (by omega)
  by_cases hthree : m ≤ 65535
  · simp only [hone, htwo, hthree, if_false, if_true]
    split
    · exact lessAt_cons (by omega) (by omega) (by omega)
    · split
      · exact lessAt_cons (by omega) (by omega) (by omega)
      · have hn : n ≤ 65535 := by omega
        simp only [hn, if_true]
        exact lessAt_cons (by omega) (by omega) fun _ =>
          lessAt_cons (by omega) (by omega) fun _ =>
            lessAt_cons (by omega) (by omega) (by omega)
  · simp only [hone, htwo, hthree, if_false]
    split
    · exact lessAt_cons (by omega) (by omega) (by omega)
    · split
      · exact lessAt_cons (by omega) (by omega) (by omega)
      · split
        · exact lessAt_cons (by omega) (by omega) (by omega)
        · exact lessAt_cons (by omega) (by omega) fun _ =>
            lessAt_cons (by omega) (by omega) fun _ =>
              lessAt_cons (by omega) (by omega) fun _ =>
                lessAt_cons (by omega) (by omega) (by omega)

/-! ## §2. Texts. -/

theorem LessAt.append_lt {first second : List UInt8} (h : LessAt first second)
    (rest rest' : List UInt8) : first ++ rest < second ++ rest' := by
  induction h with
  | here h _ _ => exact List.cons_lt_cons_iff.2 (.inl h)
  | later b _ ih => exact List.cons_lt_cons_iff.2 (.inr ⟨rfl, ih⟩)

theorem encode_lt {text other : List Char} (h : text < other) :
    text.flatMap String.utf8EncodeChar < other.flatMap String.utf8EncodeChar := by
  induction text generalizing other with
  | nil =>
    cases other with
    | nil => exact absurd h (List.lt_irrefl [])
    | cons d other =>
      obtain ⟨b, rest, hcode⟩ := List.exists_cons_of_ne_nil String.utf8EncodeChar_ne_nil
      rw [List.flatMap_nil, List.flatMap_cons, hcode]
      exact List.nil_lt_cons b _
  | cons c text ih =>
    cases other with
    | nil => exact absurd h (List.not_lt_nil _)
    | cons d other =>
      rw [List.flatMap_cons, List.flatMap_cons]
      rcases List.cons_lt_cons_iff.1 h with hlt | ⟨rfl, hrest⟩
      · exact (encodeChar_lessAt hlt).append_lt _ _
      · exact List.append_left_lt (ih hrest)

/-- **Texts are in the order of their bytes.** -/
theorem lt_iff_bytesOf_lt {text other : String} : text < other ↔ bytesOf text < bytesOf other := by
  rw [bytesOf_eq, bytesOf_eq, String.lt_iff]
  constructor
  · exact encode_lt
  · intro h
    by_cases hlt : text.toList < other.toList
    · exact hlt
    · rcases List.le_iff_lt_or_eq.1 (List.not_lt.1 hlt) with hgt | heq
      · exact absurd h (List.lt_asymm (encode_lt hgt))
      · rw [heq] at h
        exact absurd h (List.lt_irrefl _)

theorem le_iff_bytesOf_le {text other : String} : text ≤ other ↔ bytesOf text ≤ bytesOf other := by
  rw [← String.not_lt, ← List.not_lt, lt_iff_bytesOf_lt]

theorem bytesOf_injective {text other : String} (h : bytesOf text = bytesOf other) :
    text = other := by
  by_cases hlt : text < other
  · exact absurd (h ▸ lt_iff_bytesOf_lt.1 hlt) (List.lt_irrefl _)
  · by_cases hgt : other < text
    · exact absurd (h ▸ lt_iff_bytesOf_lt.1 hgt) (List.lt_irrefl _)
    · exact String.le_antisymm hgt hlt

/-- Rows of texts are in the order of their bytes, text by text. -/
theorem lt_iff_map_bytesOf_lt {texts others : List String} :
    texts < others ↔ texts.map bytesOf < others.map bytesOf := by
  induction texts generalizing others with
  | nil => cases others <;> simp
  | cons text texts ih =>
    cases others with
    | nil => simp
    | cons other others =>
      rw [List.map_cons, List.map_cons, List.cons_lt_cons_iff, List.cons_lt_cons_iff, ih,
        lt_iff_bytesOf_lt]
      refine or_congr Iff.rfl (and_congr ⟨congrArg bytesOf, bytesOf_injective⟩ Iff.rfl)

end Reroute
