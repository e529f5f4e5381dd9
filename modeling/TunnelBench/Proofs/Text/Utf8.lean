import TunnelBench.Proofs.Text.Ascii

/-!
# Decoding is exact

The encoding of a character is its first byte and the continuation bytes for the rest of its
bits, six bits each. A decoder that has seen the first bytes knows the upper bits, and the
range of the next byte keeps it to scalar values in their shortest form. So a byte string is
decoded as a text if and only if it is the encoding of that text.
-/
namespace TunnelBench.Utf8

/-- The number of values that a number of continuation bytes can have. -/
def room : Nat → Nat
  | 0 => 1
  | count + 1 => room count * 64

/-- The last bytes of the encoding of a code point. -/
def continuation : Nat → Nat → Bytes
  | 0, _ => []
  | count + 1, code => UInt8.ofNat (code / room count % 64 + 128) :: continuation count code

/-- A code point has the bits seen so far, and the next byte of its encoding is in range. -/
structure Unfinished.Admits (unfinished : Unfinished) (code : Nat) : Prop where
  bits : code / room (unfinished.later + 1) = unfinished.bits
  low : unfinished.low.toNat ≤ code / room unfinished.later % 64 + 128
  high : code / room unfinished.later % 64 + 128 ≤ unfinished.high.toNat

/-- The bytes seen so far begin the encoding of every code point that is still possible. -/
structure Unfinished.Sound (unfinished : Unfinished) : Prop where
  low : 0x80 ≤ unfinished.low.toNat
  high : unfinished.high.toNat ≤ 0xBF
  encodes : ∀ code, unfinished.Admits code → code.isValidChar ∧
    String.utf8EncodeChar (Char.ofNat code) =
      unfinished.seen ++ continuation (unfinished.later + 1) code

/-- The bytes of a segment. -/
def Segment.bytes : Segment → Bytes
  | .char value => String.utf8EncodeChar value
  | .broken bytes => bytes

/-- A valid code point is the code point of its character. -/
theorem toNat_ofNat_of_valid {code : Nat} (valid : code.isValidChar) :
    (Char.ofNat code).val.toNat = code := by
  rw [Char.ofNat, dif_pos valid]
  rfl

/-- Code points below 2048 have two bytes. -/
theorem encode_two {code : Nat} (low : 128 ≤ code) (high : code < 2048) :
    code.isValidChar ∧ String.utf8EncodeChar (Char.ofNat code) =
      UInt8.ofNat (code / 64 + 192) :: continuation 1 code := by
  have valid : code.isValidChar := .inl (by omega)
  refine ⟨valid, ?_⟩
  rw [String.utf8EncodeChar, toNat_ofNat_of_valid valid]
  have first : code / 64 % 32 = code / 64 := by omega
  have long : ¬code ≤ 127 := by omega
  have short : code ≤ 2047 := by omega
  simp only [long, short, ↓reduceIte, first, continuation, room, Nat.div_one]

/-- Scalar values below 65536 have at most three bytes. -/
theorem encode_three {code : Nat} (valid : code.isValidChar) (low : 2048 ≤ code)
    (high : code < 65536) : String.utf8EncodeChar (Char.ofNat code) =
      UInt8.ofNat (code / 4096 + 224) :: continuation 2 code := by
  rw [String.utf8EncodeChar, toNat_ofNat_of_valid valid]
  have first : code / 4096 % 16 = code / 4096 := by omega
  have long : ¬code ≤ 127 := by omega
  have longer : ¬code ≤ 2047 := by omega
  have short : code ≤ 65535 := by omega
  simp only [long, longer, short, ↓reduceIte, first, continuation, room, Nat.reduceMul, Nat.div_one]

/-- Scalar values from 65536 on have four bytes. -/
theorem encode_four {code : Nat} (valid : code.isValidChar) (low : 65536 ≤ code) :
    String.utf8EncodeChar (Char.ofNat code) =
      UInt8.ofNat (code / 262144 + 240) :: continuation 3 code := by
  rw [String.utf8EncodeChar, toNat_ofNat_of_valid valid]
  have bound : code < 0x110000 := valid.elim (by omega) And.right
  have first : code / 262144 % 8 = code / 262144 := by omega
  have long : ¬code ≤ 127 := by omega
  have longer : ¬code ≤ 2047 := by omega
  have longest : ¬code ≤ 65535 := by omega
  simp only [long, longer, longest, ↓reduceIte, first, continuation, room, Nat.reduceMul,
    Nat.div_one]

/-- A byte is given by its number. -/
theorem eq_ofNat (byte : UInt8) (number : Nat) (same : number = byte.toNat) :
    byte = UInt8.ofNat number := by
  rw [same, UInt8.ofNat_toNat]

/-- The first of two bytes. -/
theorem sound_two {byte : UInt8} (above : 194 ≤ byte.toNat) (below : byte.toNat < 224) :
    Unfinished.Sound ⟨[byte], byte.toNat - 0xC0, 0, 0x80, 0xBF⟩ where
  low := Nat.le_refl _
  high := Nat.le_refl _
  encodes := by
    rintro code ⟨bits, -, -⟩
    simp only [room, Nat.reduceMul] at bits
    rw [eq_ofNat byte (code / 64 + 192) (by omega)]
    exact encode_two (by omega) (by omega)

/-- The first of three bytes. -/
theorem sound_three {byte low high : UInt8} {upper : Nat} (number : byte.toNat = 224 + upper)
    (small : upper < 16) (lowTail : 0x80 ≤ low.toNat) (highTail : high.toNat ≤ 0xBF)
    (shortest : upper = 0 → 0xA0 ≤ low.toNat) (scalar : upper = 13 → high.toNat ≤ 0x9F) :
    Unfinished.Sound ⟨[byte], upper, 1, low, high⟩ where
  low := lowTail
  high := highTail
  encodes := by
    rintro code ⟨bits, above, below⟩
    simp only [room, Nat.reduceMul] at bits above below
    have valid : code.isValidChar := by
      by_cases surrogate : upper = 13
      · have bound := scalar surrogate
        exact .inl (by omega)
      · by_cases early : upper < 13
        · exact .inl (by omega)
        · exact .inr ⟨by omega, by omega⟩
    have least : 2048 ≤ code := by
      by_cases zero : upper = 0
      · have bound := shortest zero
        omega
      · omega
    rw [eq_ofNat byte (code / 4096 + 224) (by omega)]
    exact ⟨valid, encode_three valid least (by omega)⟩

/-- The first of four bytes. -/
theorem sound_four {byte low high : UInt8} {upper : Nat} (number : byte.toNat = 240 + upper)
    (small : upper ≤ 4) (lowTail : 0x80 ≤ low.toNat) (highTail : high.toNat ≤ 0xBF)
    (shortest : upper = 0 → 0x90 ≤ low.toNat) (scalar : upper = 4 → high.toNat ≤ 0x8F) :
    Unfinished.Sound ⟨[byte], upper, 2, low, high⟩ where
  low := lowTail
  high := highTail
  encodes := by
    rintro code ⟨bits, above, below⟩
    simp only [room, Nat.reduceMul] at bits above below
    have least : 65536 ≤ code := by
      by_cases zero : upper = 0
      · have bound := shortest zero
        omega
      · omega
    have most : code < 0x110000 := by
      by_cases four : upper = 4
      · have bound := scalar four
        omega
      · omega
    have valid : code.isValidChar := .inr ⟨by omega, most⟩
    rw [eq_ofNat byte (code / 262144 + 240) (by omega)]
    exact ⟨valid, encode_four valid least⟩

/-- The first of two bytes opens an encoding. -/
theorem lead_of_two (byte : UInt8) (above : 194 ≤ byte.toNat) (below : byte.toNat < 224) :
    lead byte = .opens ⟨[byte], byte.toNat - 0xC0, 0, 0x80, 0xBF⟩ := by
  simp only [lead, UInt8.lt_iff_toNat_lt, UInt8.reduceToNat]
  rw [if_neg (by omega), if_neg (by omega), if_pos (by omega)]

/-- The first of three bytes opens an encoding, and excludes overlong forms and surrogates. -/
theorem lead_of_three (byte : UInt8) (above : 224 ≤ byte.toNat) (below : byte.toNat < 240) :
    ∃ low high, lead byte = .opens ⟨[byte], byte.toNat - 0xE0, 1, low, high⟩ ∧
      (byte.toNat = 0xE0 ∧ low.toNat = 0xA0 ∨ byte.toNat ≠ 0xE0 ∧ low.toNat = 0x80) ∧
      (byte.toNat = 0xED ∧ high.toNat = 0x9F ∨ byte.toNat ≠ 0xED ∧ high.toNat = 0xBF) := by
  simp only [lead, UInt8.lt_iff_toNat_lt, beq_iff_eq, ← UInt8.toNat_inj, UInt8.reduceToNat]
  rw [if_neg (by omega), if_neg (by omega), if_neg (by omega)]
  by_cases first : byte.toNat = 224
  · rw [if_pos first, first]
    exact ⟨_, _, rfl, .inl ⟨rfl, rfl⟩, .inr ⟨by decide, rfl⟩⟩
  · rw [if_neg first]
    by_cases surrogate : byte.toNat = 237
    · rw [if_pos surrogate, surrogate]
      exact ⟨_, _, rfl, .inr ⟨by decide, rfl⟩, .inl ⟨rfl, rfl⟩⟩
    · rw [if_neg surrogate, if_pos (by omega)]
      exact ⟨_, _, rfl, .inr ⟨first, rfl⟩, .inr ⟨surrogate, rfl⟩⟩

/-- The first of four bytes opens an encoding, and excludes overlong forms and too large values. -/
theorem lead_of_four (byte : UInt8) (above : 240 ≤ byte.toNat) (below : byte.toNat ≤ 244) :
    ∃ low high, lead byte = .opens ⟨[byte], byte.toNat - 0xF0, 2, low, high⟩ ∧
      (byte.toNat = 0xF0 ∧ low.toNat = 0x90 ∨ byte.toNat ≠ 0xF0 ∧ low.toNat = 0x80) ∧
      (byte.toNat = 0xF4 ∧ high.toNat = 0x8F ∨ byte.toNat ≠ 0xF4 ∧ high.toNat = 0xBF) := by
  simp only [lead, UInt8.lt_iff_toNat_lt, beq_iff_eq, ← UInt8.toNat_inj, UInt8.reduceToNat]
  rw [if_neg (by omega), if_neg (by omega), if_neg (by omega), if_neg (by omega),
    if_neg (by omega), if_neg (by omega)]
  by_cases first : byte.toNat = 240
  · rw [if_pos first, first]
    exact ⟨_, _, rfl, .inl ⟨rfl, rfl⟩, .inr ⟨by decide, rfl⟩⟩
  · rw [if_neg first]
    by_cases last : byte.toNat = 244
    · rw [if_neg (by omega), if_pos last, last]
      exact ⟨_, _, rfl, .inr ⟨by decide, rfl⟩, .inl ⟨rfl, rfl⟩⟩
    · rw [if_pos (by omega)]
      exact ⟨_, _, rfl, .inr ⟨first, rfl⟩, .inr ⟨last, rfl⟩⟩

/-- Bytes of other kinds begin no encoding. -/
theorem lead_of_stray {byte : UInt8} (large : 128 ≤ byte.toNat)
    (outside : byte.toNat < 194 ∨ 244 < byte.toNat) : lead byte = .stray := by
  simp only [lead, UInt8.lt_iff_toNat_lt, beq_iff_eq, ← UInt8.toNat_inj, UInt8.reduceToNat]
  rw [if_neg (by omega)]
  by_cases early : byte.toNat < 194
  · rw [if_pos early]
  · rw [if_neg early, if_neg (by omega), if_neg (by omega), if_neg (by omega), if_neg (by omega),
      if_neg (by omega), if_neg (by omega), if_neg (by omega)]

/-- A byte from 128 on begins no encoding, or those of all characters that it admits. -/
theorem lead_of_large {byte : UInt8} (large : 128 ≤ byte.toNat) :
    lead byte = .stray ∨ ∃ unfinished, lead byte = .opens unfinished ∧ unfinished.Sound ∧
      unfinished.seen = [byte] := by
  by_cases outside : byte.toNat < 194 ∨ 244 < byte.toNat
  · exact .inl (lead_of_stray large outside)
  right
  by_cases two : byte.toNat < 224
  · exact ⟨_, lead_of_two byte (by omega) two, sound_two (by omega) two, rfl⟩
  by_cases three : byte.toNat < 240
  · obtain ⟨low, high, opens, lowest, highest⟩ := lead_of_three byte (by omega) three
    exact ⟨_, opens, sound_three (by omega) (by omega) (by omega) (by omega) (by omega) (by omega),
      rfl⟩
  · obtain ⟨low, high, opens, lowest, highest⟩ := lead_of_four byte (by omega) (by omega)
    exact ⟨_, opens, sound_four (by omega) (by omega) (by omega) (by omega) (by omega) (by omega),
      rfl⟩

/-- A byte that opens an encoding begins those of all characters that it admits. -/
theorem sound_of_lead {byte : UInt8} {unfinished : Unfinished}
    (opens : lead byte = .opens unfinished) : unfinished.Sound ∧ unfinished.seen = [byte] := by
  by_cases single : byte.toNat < 128
  · rw [lead_of_lt (UInt8.lt_iff_toNat_lt.2 single)] at opens
    contradiction
  · rcases lead_of_large (Nat.le_of_not_lt single) with stray | ⟨other, otherOpens, sound, seen⟩
    · rw [stray] at opens
      contradiction
    · rw [otherOpens, Lead.opens.injEq] at opens
      rw [← opens]
      exact ⟨sound, seen⟩

/-- A byte of the range turns the upper bits of a code point into more of them. -/
theorem Unfinished.Admits.of_next {unfinished : Unfinished} {byte : UInt8} {code : Nat}
    (sound : unfinished.Sound) (above : unfinished.low ≤ byte) (below : byte ≤ unfinished.high)
    (bits : code / room unfinished.later = unfinished.bits * 64 + (byte.toNat - 0x80)) :
    unfinished.Admits code ∧ byte = UInt8.ofNat (code / room unfinished.later % 64 + 128) := by
  have low := sound.low
  have high := sound.high
  rw [UInt8.le_iff_toNat_le] at above below
  refine ⟨⟨?_, by omega, by omega⟩, eq_ofNat _ _ (by omega)⟩
  rw [room, ← Nat.div_div_eq_div_mul]
  omega

/-- One more byte of an encoding is sound. -/
theorem Unfinished.Sound.next {seen : Bytes} {bits later : Nat} {low high byte : UInt8}
    (sound : Sound ⟨seen, bits, later + 1, low, high⟩) (above : low ≤ byte) (below : byte ≤ high) :
    Sound ⟨seen ++ [byte], bits * 64 + (byte.toNat - 0x80), later, 0x80, 0xBF⟩ where
  low := Nat.le_refl _
  high := Nat.le_refl _
  encodes := by
    rintro code ⟨more, -, -⟩
    obtain ⟨admits, next⟩ := Admits.of_next sound above below more
    obtain ⟨valid, encoding⟩ := sound.encodes code admits
    refine ⟨valid, ?_⟩
    rw [encoding, continuation, List.append_assoc, List.singleton_append]
    exact congrArg (fun first => seen ++ first :: continuation (later + 1) code) next.symm

/-- The last byte of an encoding makes its character. -/
theorem Unfinished.Sound.last {seen : Bytes} {bits : Nat} {low high byte : UInt8}
    (sound : Sound ⟨seen, bits, 0, low, high⟩) (above : low ≤ byte) (below : byte ≤ high) :
    String.utf8EncodeChar (Char.ofNat (bits * 64 + (byte.toNat - 0x80))) = seen ++ [byte] := by
  have upper : (bits * 64 + (byte.toNat - 0x80)) / room 0 = bits * 64 + (byte.toNat - 0x80) := by
    rw [room, Nat.div_one]
  obtain ⟨admits, next⟩ := Admits.of_next sound above below upper
  obtain ⟨-, encoding⟩ := sound.encodes _ admits
  rw [encoding, continuation, continuation]
  exact congrArg (fun first => seen ++ [first]) next.symm

/-- A byte that is a character by itself is the encoding of that character. -/
theorem encode_of_single {byte : UInt8} {value : Char} (single : lead byte = .single value) :
    String.utf8EncodeChar value = [byte] := by
  by_cases small : byte.toNat < 128
  · have bound : byte.toNat ≤ 127 := Nat.le_of_lt_succ small
    rw [lead_of_lt (UInt8.lt_iff_toNat_lt.2 small), Lead.single.injEq] at single
    rw [← single, String.utf8EncodeChar, toNat_ofNat_of_valid (.inl (by omega))]
    simp only [bound, ↓reduceIte, UInt8.ofNat_toNat]
  · rcases lead_of_large (Nat.le_of_not_lt small) with stray | ⟨unfinished, opens, -, -⟩
    · rw [stray] at single
      contradiction
    · rw [opens] at single
      contradiction

/-- Where the next byte does not continue an encoding, the bytes seen are broken. -/
theorem continued_of_outside {unfinished : Unfinished} {byte : UInt8} (rest : Bytes)
    (outside : ¬(unfinished.low ≤ byte ∧ byte ≤ unfinished.high)) :
    continued unfinished (byte :: rest) = .broken unfinished.seen :: segments (byte :: rest) := by
  rw [continued, if_neg outside, segments]

mutual

/-- The segments are all of the bytes. -/
theorem flatMap_segments (bytes : Bytes) : (segments bytes).flatMap Segment.bytes = bytes := by
  cases bytes with
  | nil => rw [segments, List.flatMap_nil]
  | cons byte rest =>
    rw [segments]
    cases first : lead byte with
    | single value =>
      rw [List.flatMap_cons, flatMap_segments rest, Segment.bytes, encode_of_single first]
      rfl
    | opens unfinished =>
      obtain ⟨sound, seen⟩ := sound_of_lead first
      rw [flatMap_continued sound rest, seen]
      rfl
    | stray =>
      rw [List.flatMap_cons, flatMap_segments rest]
      rfl
termination_by (bytes.length, 0)

/-- The segments from an open encoding on are all of its bytes. -/
theorem flatMap_continued {unfinished : Unfinished} (sound : unfinished.Sound) (bytes : Bytes) :
    (continued unfinished bytes).flatMap Segment.bytes = unfinished.seen ++ bytes := by
  cases bytes with
  | nil =>
    rw [continued]
    rfl
  | cons byte rest =>
    by_cases inside : unfinished.low ≤ byte ∧ byte ≤ unfinished.high
    · obtain ⟨seen, bits, later, low, high⟩ := unfinished
      rw [continued, if_pos inside]
      cases later with
      | zero =>
        show ((Segment.char _ :: segments rest).flatMap _) = _
        rw [List.flatMap_cons, flatMap_segments rest, Segment.bytes,
          sound.last inside.1 inside.2, List.append_assoc]
        rfl
      | succ later =>
        show ((continued _ rest).flatMap _) = _
        rw [flatMap_continued (sound.next inside.1 inside.2) rest, List.append_assoc]
        rfl
    · -- The byte is read again as a first byte: nothing is used up, but an encoding is given up.
      rw [continued_of_outside rest inside, List.flatMap_cons, flatMap_segments (byte :: rest)]
      rfl
termination_by (bytes.length, 1)

end

/-- Segments that are all characters are the segments of those characters. -/
theorem eq_map_of_mapM_char? {segments : List Segment} {chars : List Char}
    (all : segments.mapM Segment.char? = some chars) : segments = chars.map Segment.char := by
  induction segments generalizing chars with
  | nil =>
    obtain rfl : [] = chars := by simpa using all
    rfl
  | cons segment segments ih =>
    cases segment with
    | broken bytes => simp [List.mapM_cons, Segment.char?] at all
    | char value =>
      cases later : segments.mapM Segment.char? with
      | none => simp [List.mapM_cons, later] at all
      | some others =>
        simp only [List.mapM_cons, later, Segment.char?, bind, Option.bind, pure,
          Option.some.injEq] at all
        rw [← all, List.map_cons, ih later]

/-- A byte string that is decoded is the encoding of its text. -/
theorem eq_ofString_of_decode? {bytes : Bytes} {text : String}
    (decoded : decode? bytes = some text) : bytes = .ofString text := by
  unfold decode? at decoded
  cases all : (segments bytes).mapM Segment.char? with
  | none => simp [all] at decoded
  | some chars =>
    simp only [all, Option.map_some, Option.some.injEq] at decoded
    have whole := flatMap_segments bytes
    rw [eq_map_of_mapM_char? all, List.flatMap_map] at whole
    rw [← decoded, Bytes.ofString, String.toList_ofList, ← whole]
    rfl

/-- The first byte of a longer encoding admits the code point that it is the encoding of. -/
theorem exists_lead {code : Nat} (valid : code.isValidChar) (long : 128 ≤ code) :
    ∃ first unfinished, lead first = .opens unfinished ∧ unfinished.Admits code ∧
      String.utf8EncodeChar (Char.ofNat code) =
        first :: continuation (unfinished.later + 1) code := by
  have bound : code < 0x110000 := valid.elim (by omega) And.right
  have number : ∀ value < 256, (UInt8.ofNat value).toNat = value := fun value small =>
    Nat.mod_eq_of_lt small
  -- The lengths have their own first bytes, and in each the range of the next byte is as wide as
  -- the code points of that length.
  by_cases two : code < 2048
  · have same := number (code / 64 + 192) (by omega)
    refine ⟨_, _, lead_of_two (UInt8.ofNat (code / 64 + 192)) (by omega) (by omega), ?_,
      (encode_two long two).2⟩
    constructor
    · simp only [room, Nat.reduceMul]
      omega
    · simp
    · simp only [room, UInt8.reduceToNat]
      omega
  by_cases three : code < 65536
  · have same := number (code / 4096 + 224) (by omega)
    obtain ⟨low, high, opens, lowest, highest⟩ :=
      lead_of_three (UInt8.ofNat (code / 4096 + 224)) (by omega) (by omega)
    refine ⟨_, _, opens, ?_, encode_three valid (by omega) three⟩
    rw [same] at lowest highest
    constructor
    · simp only [room, Nat.reduceMul]
      omega
    · simp only [room, Nat.reduceMul]
      omega
    · have scalar : code < 0xD800 ∨ 0xDFFF < code := valid.imp id And.left
      simp only [room, Nat.reduceMul]
      omega
  · have same := number (code / 262144 + 240) (by omega)
    obtain ⟨low, high, opens, lowest, highest⟩ :=
      lead_of_four (UInt8.ofNat (code / 262144 + 240)) (by omega) (by omega)
    refine ⟨_, _, opens, ?_, encode_four valid (by omega)⟩
    rw [same] at lowest highest
    constructor
    · simp only [room, Nat.reduceMul]
      omega
    · simp only [room, Nat.reduceMul]
      omega
    · simp only [room, Nat.reduceMul]
      omega

/-- The next byte of the encoding of a code point is in range. -/
theorem Unfinished.Admits.next {unfinished : Unfinished} {code : Nat}
    (admits : unfinished.Admits code) :
    (UInt8.ofNat (code / room unfinished.later % 64 + 128)).toNat =
        code / room unfinished.later % 64 + 128 ∧
      unfinished.low ≤ UInt8.ofNat (code / room unfinished.later % 64 + 128) ∧
        UInt8.ofNat (code / room unfinished.later % 64 + 128) ≤ unfinished.high := by
  have number : (UInt8.ofNat (code / room unfinished.later % 64 + 128)).toNat =
      code / room unfinished.later % 64 + 128 := Nat.mod_eq_of_lt (by omega)
  rw [UInt8.le_iff_toNat_le, UInt8.le_iff_toNat_le, number]
  exact ⟨rfl, admits.low, admits.high⟩

/-- The last bytes of an encoding complete its character. -/
theorem continued_continuation {code : Nat} (rest : Bytes) {later bits : Nat} {seen : Bytes}
    {low high : UInt8} (admits : Unfinished.Admits ⟨seen, bits, later, low, high⟩ code) :
    continued ⟨seen, bits, later, low, high⟩ (continuation (later + 1) code ++ rest) =
      .char (Char.ofNat code) :: segments rest := by
  induction later generalizing seen bits low high with
  | zero =>
    obtain ⟨number, inside⟩ := admits.next
    rw [continuation, List.cons_append, continued, if_pos inside]
    have upper := admits.bits
    simp only [room, Nat.reduceMul, Nat.div_one] at number upper
    have whole : bits * 64 + ((UInt8.ofNat (code / room 0 % 64 + 128)).toNat - 0x80) = code := by
      rw [room, Nat.div_one, number]
      omega
    simp only [whole]
    rfl
  | succ later ih =>
    obtain ⟨number, inside⟩ := admits.next
    rw [continuation, List.cons_append, continued, if_pos inside]
    have upper : code / room (later + 1) / 64 = bits := by
      rw [Nat.div_div_eq_div_mul]
      exact admits.bits
    dsimp only at number
    refine ih ⟨?_, ?_, ?_⟩
    · simp only [number]
      omega
    · exact Nat.le_add_left _ _
    · simp only [UInt8.reduceToNat]
      omega

/-- A character is decoded from its encoding. -/
theorem segments_encode (char : Char) (rest : Bytes) :
    segments (String.utf8EncodeChar char ++ rest) = .char char :: segments rest := by
  have valid : char.toNat.isValidChar := char.valid
  by_cases small : char.toNat < 128
  · rw [utf8EncodeChar_ascii small, List.singleton_append, segments]
    have number : char.toNat.toUInt8.toNat = char.toNat := Nat.mod_eq_of_lt (by omega)
    rw [lead_of_lt (UInt8.lt_iff_toNat_lt.2 (by rw [number]; exact small)), number,
      Char.ofNat_toNat]
  · obtain ⟨first, ⟨seen, bits, later, low, high⟩, opens, admits, encoding⟩ :=
      exists_lead valid (Nat.le_of_not_lt small)
    rw [Char.ofNat_toNat] at encoding
    rw [encoding, List.cons_append, segments, opens]
    show continued _ _ = _
    rw [continued_continuation rest admits, Char.ofNat_toNat]

/-- The encoding of a text is cut into its characters. -/
theorem segments_ofString (text : String) :
    segments (.ofString text) = text.toList.map Segment.char := by
  unfold Bytes.ofString
  generalize text.toList = chars
  induction chars with
  | nil => rw [List.flatMap_nil, segments, List.map_nil]
  | cons char chars ih => rw [List.flatMap_cons, segments_encode, ih, List.map_cons]

/-- A text is decoded from its encoding, and nothing else is decoded as that text. -/
theorem decode?_eq_some {bytes : Bytes} {text : String} :
    decode? bytes = some text ↔ bytes = .ofString text := by
  constructor
  · exact eq_ofString_of_decode?
  · rintro rfl
    rw [decode?, segments_ofString, mapM_char?, Option.map_some, String.ofList_toList]

/-- Texts with the same encoding are the same. -/
theorem ofString_inj {left right : String} :
    Bytes.ofString left = Bytes.ofString right ↔ left = right := by
  constructor
  · intro same
    exact Option.some.inj ((decode?_eq_some.2 rfl).symm.trans (decode?_eq_some.2 same))
  · exact congrArg _

end TunnelBench.Utf8
