import Mathlib.Data.List.Basic
import TunnelBench.Proofs.Text.Utf8

/-!
# Lenient decoding

An ASCII byte ends whatever encoding is open before it, so a byte string may be cut there and
its parts decoded one by one. A text without the mark that stands for broken parts is decoded
from nothing but its encoding.
-/
namespace TunnelBench.Utf8

variable {byte : UInt8}

mutual

/-- A byte string may be cut in front of an ASCII byte. -/
theorem segments_append (ascii : byte < 0x80) (front rest : Bytes) :
    segments (front ++ byte :: rest) = segments front ++ segments (byte :: rest) := by
  cases front with
  | nil =>
    rw [segments, List.nil_append, List.nil_append]
  | cons first front =>
    rw [List.cons_append, segments, segments]
    cases opened : lead first with
    | single value =>
      show .char value :: segments _ = _
      rw [segments_append ascii front rest]
      rfl
    | opens unfinished => exact continued_append ascii (sound_of_lead opened).1 front rest
    | stray =>
      show .broken [first] :: segments _ = _
      rw [segments_append ascii front rest]
      rfl
termination_by (front.length, 0)

/-- An ASCII byte continues no encoding. -/
theorem continued_append (ascii : byte < 0x80) {unfinished : Unfinished} (sound : unfinished.Sound)
    (front rest : Bytes) :
    continued unfinished (front ++ byte :: rest) =
      continued unfinished front ++ segments (byte :: rest) := by
  cases front with
  | nil =>
    have outside : ¬(unfinished.low ≤ byte ∧ byte ≤ unfinished.high) := by
      have low := sound.low
      have small : byte.toNat < 0x80 := ascii
      rw [UInt8.le_iff_toNat_le]
      omega
    rw [List.nil_append, continued_of_outside rest outside, continued]
    rfl
  | cons first front =>
    by_cases inside : unfinished.low ≤ first ∧ first ≤ unfinished.high
    · obtain ⟨seen, bits, later, low, high⟩ := unfinished
      rw [List.cons_append, continued, continued, if_pos inside, if_pos inside]
      cases later with
      | zero =>
        show .char _ :: segments _ = _
        rw [segments_append ascii front rest]
        rfl
      | succ later => exact continued_append ascii (sound.next inside.1 inside.2) front rest
    · have again := segments_append ascii (first :: front) rest
      rw [List.cons_append] at again ⊢
      rw [continued_of_outside _ inside, continued_of_outside _ inside, again]
      rfl
termination_by (front.length, 1)

end

/-- The characters of a decoded byte string, with the mark for each broken part. -/
theorem toList_decodeLossy (bytes : Bytes) :
    (decodeLossy bytes).toList = (segments bytes).map fun segment => segment.char?.getD '\uFFFD' :=
  String.toList_ofList

/-- Parts behind an ASCII byte are decoded one by one. -/
theorem decodeLossy_marked (ascii : byte < 0x80) (front : Bytes) (parts : List Bytes) :
    (decodeLossy (front ++ parts.flatMap (byte :: ·))).toList = (decodeLossy front).toList ++
      parts.flatMap fun part => Char.ofNat byte.toNat :: (decodeLossy part).toList := by
  induction parts generalizing front with
  | nil => simp
  | cons part parts ih =>
    have later := ih part
    rw [toList_decodeLossy, toList_decodeLossy] at later
    rw [List.flatMap_cons, List.flatMap_cons, List.cons_append, toList_decodeLossy,
      segments_append ascii, segments, lead_of_lt ascii, List.map_append, toList_decodeLossy,
      toList_decodeLossy]
    show _ ++ Char.ofNat byte.toNat :: List.map _ (segments _) = _
    rw [later]
    rfl

/-- A text without the mark for broken parts is decoded from its encoding only. -/
theorem eq_ofString_of_decodeLossy {bytes : Bytes} {text : String}
    (decoded : decodeLossy bytes = text) (whole : '\uFFFD' ∉ text.toList) :
    bytes = .ofString text := by
  rw [← decoded, toList_decodeLossy] at whole
  have chars : ∀ segment ∈ segments bytes,
      segment.bytes = String.utf8EncodeChar (segment.char?.getD '\uFFFD') := by
    intro segment member
    cases segment with
    | char value => rfl
    | broken part => exact absurd (List.mem_map.2 ⟨_, member, rfl⟩) whole
  calc bytes
      = (segments bytes).flatMap Segment.bytes := (flatMap_segments bytes).symm
    _ = (segments bytes).flatMap fun segment =>
          String.utf8EncodeChar (segment.char?.getD '\uFFFD') := List.flatMap_congr chars
    _ = Bytes.ofString text := by
      rw [Bytes.ofString, ← decoded, toList_decodeLossy, List.flatMap_map]

end TunnelBench.Utf8
