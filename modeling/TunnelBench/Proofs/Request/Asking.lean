import TunnelBench.Proofs.Request.HeadRoundTrip
import TunnelBench.Proofs.Request.Peeking
import TunnelBench.Proofs.Text.Utf8

/-!
# Heads that ask for a target

A client may ask for any target of visible characters, by any method and in either version,
and with any header lines that can be read and whose framing can be judged. The target is
found as soon as the head has arrived, and nothing behind the head changes it.
-/
namespace TunnelBench

/-- A head that asks for a target. -/
structure Asking where
  method : Bytes
  target : String
  minor : Fin 2
  /-- The header lines, with the empty line that ends them. -/
  lines : Bytes
  /-- The headers that the lines hold. -/
  headers : List Header
  framing : Framing
  methodGiven : method ≠ []
  methodToken : ∀ byte ∈ method, RequestHead.isTokenByte byte = true
  targetGiven : target ≠ ""
  /-- The characters of URIs are visible ASCII characters. -/
  targetVisible : ∀ char ∈ target.toList, 33 ≤ char.toNat ∧ char.toNat ≤ 126
  read : RequestHead.headerLines RequestHead.headerLimit lines = .done headers []
  judged : Framing.ofHeaders headers = .ok framing

namespace Asking

/-- The head as it is sent. -/
def bytes (asking : Asking) : Bytes :=
  asking.method ++ [32] ++ (Bytes.ofString asking.target ++ [32] ++
    (Bytes.ofString "HTTP/1." ++ [Draft.minorDigit asking.minor] ++ (Bytes.lineEnd ++
      asking.lines)))

/-- The head as it is meant. -/
def head (asking : Asking) : RequestHead :=
  ⟨asking.method, asking.target, asking.minor, asking.headers, asking.framing⟩

/-- A visible character is one byte of a target. -/
theorem isTargetByte_of_visible {char : Char} (visible : 33 ≤ char.toNat ∧ char.toNat ≤ 126) :
    RequestHead.isTargetByte char.toNat.toUInt8 = true := by
  have checked : ∀ code < 127, 33 ≤ code → RequestHead.isTargetByte code.toUInt8 = true := by
    decide +kernel
  exact checked char.toNat (by omega) visible.1

/-- The target is read with the space behind it. -/
theorem reads_target (asking : Asking) :
    RequestHead.targetPart.Reads (Bytes.ofString asking.target ++ [32]) asking.target := by
  have small : ∀ char ∈ asking.target.toList, char.toNat < 128 := by
    intro char member
    have visible := asking.targetVisible char member
    omega
  have written := Bytes.ofString_ascii small
  apply RequestHead.reads_targetPart
  · rw [written, Ne, List.map_eq_nil_iff, String.toList_eq_nil_iff]
    exact asking.targetGiven
  · intro byte member
    rw [written] at member
    obtain ⟨char, present, rfl⟩ := List.mem_map.1 member
    exact isTargetByte_of_visible (asking.targetVisible char present)
  · exact Utf8.decode?_eq_some.2 rfl

/-- The header lines are read whatever follows them. -/
theorem reads_lines (asking : Asking) :
    (RequestHead.headerLines RequestHead.headerLimit).Reads asking.lines asking.headers := by
  obtain ⟨used, split, stands⟩ := (RequestHead.delimited_headerLines _).1 asking.read
  rw [List.append_nil] at split
  intro rest
  rw [split]
  exact stands rest

/-- The head is read as it is meant. -/
theorem reads_wholeHead (asking : Asking) :
    RequestHead.wholeHead.Reads asking.bytes asking.head :=
  RequestHead.reads_wholeHead_of_parts asking.methodGiven asking.methodToken asking.reads_target
    asking.minor asking.reads_lines asking.judged

/-- The head is found where it is all that has arrived. -/
theorem parse_bytes (asking : Asking) :
    RequestHead.parse asking.bytes = .done asking.head [] :=
  RequestHead.parse_eq_done.2 asking.reads_wholeHead.alone

end Asking

/-- A target is found once its head has arrived, whatever stands behind the head and whatever the
reads after it meet. -/
theorem Request.readTarget_of_front {start behind : Bytes} {head : RequestHead}
    (found : RequestHead.parse start = .done head [])
    (short : start.length ≤ RequestHead.sizeLimit) {pieces : Source} (full : pieces.Full)
    (arrived : pieces.content = start ++ behind) (after : Source) :
    (readTarget (pieces ++ after)).outcome = .ok head.target := by
  have within : RequestHead.DecidedInLimit pieces.content := by
    rw [arrived]
    exact RequestHead.decidedInLimit_append found short behind
  have whole : RequestHead.parse pieces.content = .done head behind := by
    rw [arrived, RequestHead.parse_append_of_done found behind, List.nil_append]
  have look : peeked.step () pieces.content = .finish head.target pieces.content :=
    peekStep_eq_finish.2 ⟨⟨head, behind, whole, rfl⟩, rfl⟩
  have ending := forward_peeked.read_ending () .empty full after
  have confirms : ∀ reason, (peeked.read () .empty (pieces ++ after)).outcome =
      .error (.malformed reason) → peeked.Confirms () (Buffer.empty.bytes ++ pieces.content)
        reason := fun reason _ => confirms_peeked within reason
  obtain ⟨waiting, left, reading, -, -⟩ :=
    ending.of_decode_ok forward_peeked confirms (Staged.decode_finish look)
  change (peeked.read () .empty (pieces ++ after)).outcome = _
  rw [reading]

end TunnelBench
