import TunnelBench.Text.Utf8

/-!
# ASCII text

Characters below 128 are bytes of their own. A text of such characters is written, and its
bytes are decoded, character by character.
-/
namespace TunnelBench

namespace Utf8

/-- A byte below 128 is a character by itself. -/
theorem lead_of_lt {byte : UInt8} (small : byte < 128) :
    lead byte = .single (Char.ofNat byte.toNat) := by
  have first : byte < 0x80 := small
  simp only [lead, if_pos first]

/-- Bytes below 128 are decoded one by one. -/
theorem segments_ascii {bytes : Bytes} (small : ∀ byte ∈ bytes, byte < 128) :
    segments bytes = bytes.map fun byte => .char (Char.ofNat byte.toNat) := by
  induction bytes with
  | nil => rw [segments, List.map_nil]
  | cons byte rest ih =>
    rw [List.forall_mem_cons] at small
    rw [segments, lead_of_lt small.1, List.map_cons, ih small.2]

/-- Characters are all there if every segment is one. -/
theorem mapM_char? (chars : List Char) :
    (chars.map Segment.char).mapM Segment.char? = some chars := by
  induction chars with
  | nil => rfl
  | cons char chars ih => simp [List.mapM_cons, ih, Segment.char?]

/-- Bytes below 128 are decoded as the text that has them as code points. -/
theorem decode?_ascii {bytes : Bytes} (small : ∀ byte ∈ bytes, byte < 128) :
    decode? bytes = some bytes.toAscii := by
  have parts := segments_ascii small
  have split : (bytes.map fun byte => Segment.char (Char.ofNat byte.toNat)) =
      (bytes.map fun byte => Char.ofNat byte.toNat).map Segment.char := by
    rw [List.map_map]
    rfl
  rw [decode?, parts, split, mapM_char?]
  rfl

end Utf8

/-- Letters and digits are below 128. -/
theorem lt_of_isAlphanum {char : Char} (plain : char.isAlphanum = true) : char.toNat < 128 := by
  have code : char.toNat = char.val.toNat := rfl
  delta Char.isAlphanum Char.isAlpha Char.isUpper Char.isLower Char.isDigit at plain
  simp only [Bool.or_eq_true, Bool.and_eq_true, decide_eq_true_eq, UInt32.le_iff_toNat_le,
    ge_iff_le, Char.reduceVal, UInt32.reduceToNat] at plain
  omega

/-- A character below 128 is one byte. -/
theorem utf8EncodeChar_ascii {char : Char} (small : char.toNat < 128) :
    String.utf8EncodeChar char = [char.toNat.toUInt8] := by
  have first : char.val.toNat ≤ 127 := Nat.le_of_lt_succ small
  rw [String.utf8EncodeChar]
  simp only [first, ↓reduceIte]
  rfl

/-- Every byte of a longer encoding has its highest bit set. -/
theorem le_of_mem_utf8EncodeChar {char : Char} (large : 128 ≤ char.toNat) :
    ∀ byte ∈ String.utf8EncodeChar char, 128 ≤ byte.toNat := by
  have marked : ∀ value, 128 ≤ value % 256 → 128 ≤ (UInt8.ofNat value).toNat := by
    intro value above
    rw [UInt8.toNat_ofNat']
    exact above
  have long : ¬char.val.toNat ≤ 127 := by
    change ¬char.toNat ≤ 127
    omega
  rw [String.utf8EncodeChar]
  simp only [if_neg long]
  split
  · simp only [List.mem_cons, List.not_mem_nil, or_false, forall_eq_or_imp, forall_eq]
    exact ⟨marked _ (by omega), marked _ (by omega)⟩
  · split
    · simp only [List.mem_cons, List.not_mem_nil, or_false, forall_eq_or_imp, forall_eq]
      exact ⟨marked _ (by omega), marked _ (by omega), marked _ (by omega)⟩
    · simp only [List.mem_cons, List.not_mem_nil, or_false, forall_eq_or_imp, forall_eq]
      exact ⟨marked _ (by omega), marked _ (by omega), marked _ (by omega), marked _ (by omega)⟩

/-- A byte below 128 in the encoding of a character is the whole encoding. -/
theorem toNat_of_mem_utf8EncodeChar {char : Char} {byte : UInt8}
    (member : byte ∈ String.utf8EncodeChar char) (small : byte < 128) :
    char.toNat = byte.toNat := by
  simp only [UInt8.lt_iff_toNat_lt, UInt8.reduceToNat] at small
  by_cases ascii : char.toNat < 128
  · rw [utf8EncodeChar_ascii ascii, List.mem_singleton] at member
    have code : char.toNat.toUInt8.toNat = char.toNat := by
      rw [Nat.toUInt8_eq, UInt8.toNat_ofNat']
      omega
    rw [member, code]
  · have large := le_of_mem_utf8EncodeChar (Nat.le_of_not_lt ascii) byte member
    omega

/-- A character below 128 that is missing in a text is no byte of its encoding. -/
theorem Bytes.not_mem_ofString_of_char {text : String} (char : Char) (small : char.toNat < 128)
    (missing : char ∉ text.toList) : char.toNat.toUInt8 ∉ Bytes.ofString text := by
  intro member
  rw [ofString, List.mem_flatMap] at member
  obtain ⟨other, present, encoded⟩ := member
  have code : char.toNat.toUInt8.toNat = char.toNat := by
    rw [Nat.toUInt8_eq, UInt8.toNat_ofNat']
    omega
  have below : char.toNat.toUInt8 < 128 := by
    rw [UInt8.lt_iff_toNat_lt, code]
    exact small
  have same := toNat_of_mem_utf8EncodeChar encoded below
  rw [code] at same
  rw [Char.toNat_inj.1 same] at present
  exact missing present

/-- A text of characters below 128 is written by their code points. -/
theorem Bytes.ofString_ascii {text : String} (small : ∀ char ∈ text.toList, char.toNat < 128) :
    Bytes.ofString text = text.toList.map fun char => char.toNat.toUInt8 := by
  unfold ofString
  generalize text.toList = chars at small ⊢
  induction chars with
  | nil => rfl
  | cons char chars ih =>
    rw [List.forall_mem_cons] at small
    rw [List.flatMap_cons, utf8EncodeChar_ascii small.1, ih small.2]
    rfl

/-- The small form of a letter is written as the small form of its bytes. -/
theorem map_lowerByte_utf8EncodeChar (char : Char) :
    (String.utf8EncodeChar char).map Bytes.lowerByte = String.utf8EncodeChar char.toLower := by
  by_cases ascii : char.toNat < 128
  · obtain ⟨code, below, rfl⟩ : ∃ code < 128, char = Char.ofNat code :=
      ⟨char.toNat, ascii, (Char.ofNat_toNat char).symm⟩
    revert code
    decide +kernel
  · have large := Nat.le_of_not_lt ascii
    have kept : char.toLower = char := by
      have code : char.toNat = char.val.toNat := rfl
      delta Char.toLower
      rw [dif_neg]
      simp only [ge_iff_le, UInt32.le_iff_toNat_le, Char.reduceVal, UInt32.reduceToNat]
      omega
    rw [kept]
    refine (List.map_congr_left fun byte member => ?_).trans (List.map_id _)
    have above := le_of_mem_utf8EncodeChar large byte member
    rw [Bytes.lowerByte, if_neg, id]
    simp only [UInt8.le_iff_toNat_le, UInt8.reduceToNat]
    omega

/-- Small letters may be put in a text or in its bytes. -/
theorem Bytes.lower_ofString (text : String) :
    (Bytes.ofString text).lower = Bytes.ofString text.toLower := by
  unfold lower ofString String.toLower
  rw [String.toList_map, List.map_flatMap, List.flatMap_map]
  simp only [map_lowerByte_utf8EncodeChar]

end TunnelBench
