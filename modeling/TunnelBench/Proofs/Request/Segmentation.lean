import TunnelBench.Proofs.Request.Stages

/-!
# Requests and the pieces they arrive in

What a request is does not depend on how its bytes are cut into pieces on the way: two
deliveries of the same bytes are read as the same request, or refused for the same
reason. The one condition is that the head is decided within the limit on its size, since
a head that is longer is refused or not as its pieces happen to come.
-/
namespace TunnelBench.Request

/-- Two deliveries of the same bytes are read with the same result. -/
theorem outcome_eq_of_delivers {bytes : Bytes} (within : RequestHead.DecidedInLimit bytes)
    {left right : Source} (leftDelivers : left.Delivers bytes)
    (rightDelivers : right.Delivers bytes) : (read left).outcome = (read right).outcome := by
  have leftDecoded := read_outcome_eq_decode within leftDelivers
  have rightDecoded := read_outcome_eq_decode within rightDelivers
  rw [leftDecoded, rightDecoded]

/-- A request with a chunk that is itself a line end, and with a trailer. -/
def lineEndUpload : Bytes :=
  .ofString "POST / HTTP/1.1\r\nTransfer-Encoding: chunked\r\n\r\n2\r\n\r\n\r\n0\r\nA: b\r\n\r\n"

/-- A chunked request is the same in one piece and byte by byte. -/
theorem outcome_eq_lineEndUpload :
    RequestHead.DecidedInLimit lineEndUpload ∧
      Source.Delivers [.data lineEndUpload] lineEndUpload ∧
      Source.Delivers (lineEndUpload.map fun byte => .data [byte]) lineEndUpload ∧
      (read [.data lineEndUpload]).outcome =
        (read (lineEndUpload.map fun byte => .data [byte])).outcome := by
  have within : RequestHead.DecidedInLimit lineEndUpload :=
    RequestHead.decidedInLimit_of_length_le (by decide +kernel)
  have whole : Source.Delivers [.data lineEndUpload] lineEndUpload :=
    Source.delivers_whole (by decide +kernel)
  have bytewise := Source.delivers_bytewise lineEndUpload
  exact ⟨within, whole, bytewise, outcome_eq_of_delivers within whole bytewise⟩

end TunnelBench.Request
