import TunnelBench.Proofs.Request.Stages
import TunnelBench.Proofs.Stream.Reads

/-!
# Where requests end

A request shows its own end. No request that can be read is the start of a longer one, so
a client that stops early is always found to have done so. And once the last byte has
arrived, no further read is made: a client that then waits for the answer gets it, and
what it sends later stays for whoever reads next.
-/
namespace TunnelBench.Request

/-- The rooms of the reads that reading a request makes, in their order. -/
def rooms (source : Source) : List Nat := staged.rooms .start .empty source

/-- Reading a request leaves its source as the reads it makes leave it. -/
theorem source_read (source : Source) :
    (read source).source = (source.readEach (rooms source)).2 :=
  staged.source_read .start .empty source

/-- Bytes that make up a request when read alone are decoded as this request. -/
theorem decode_of_read_alone {alone : Source} {bytes : Bytes} (delivers : alone.Delivers bytes)
    {request : Request} (complete : read alone = ⟨.ok request, [], []⟩) :
    staged.decode .start bytes = (.ok request, []) := by
  have found : (read alone).outcome = .ok request := by rw [complete]
  rw [decode_of_read_ok delivers found, complete]
  rfl

/-- Bytes that are decoded as a request make it up when read alone, in whatever pieces. -/
theorem read_alone_of_decode {alone : Source} {bytes : Bytes} (delivers : alone.Delivers bytes)
    (within : RequestHead.DecidedInLimit bytes) {request : Request}
    (decoded : staged.decode .start bytes = (.ok request, [])) :
    read alone = ⟨.ok request, [], []⟩ := by
  obtain ⟨full, rfl⟩ := delivers
  obtain ⟨waiting, left, result, leftFull, nothing⟩ :=
    read_of_decode_ok full [] (.inl within) decoded
  obtain ⟨rfl, empty⟩ := List.append_eq_nil_iff.1 nothing
  rw [leftFull.eq_nil empty, List.append_nil] at result
  exact result

/-- A head that declares a length and as many bytes behind it are a request. -/
theorem decode_sized {start body : Bytes} {head : RequestHead}
    (found : RequestHead.parse start = .done head [])
    (declared : head.framing = .length body.length) :
    staged.decode .start (start ++ body) = (.ok ⟨head, some body⟩, []) := by
  have onward := RequestHead.parse_append_of_done found body
  have first : Stage.start.step (start ++ body) = .next (.sized head body.length) body := by
    simp only [Stage.step, onward, declared, List.nil_append]
  have block : Parser.block body.length body = .done body [] :=
    Parser.block_eq_done.2 ⟨(List.append_nil body).symm, rfl⟩
  have second : (Stage.sized head body.length).step body = .finish ⟨head, some body⟩ [] := by
    simp only [Stage.step, block]
  rw [Staged.decode_next first, Staged.decode_finish second]

/-- A request of which some last bytes are missing is incomplete. -/
theorem read_of_missing {part missing : Bytes}
    (within : RequestHead.DecidedInLimit (part ++ missing)) {request : Request}
    (decoded : staged.decode .start (part ++ missing) = (.ok request, [])) (given : missing ≠ [])
    {source : Source} (delivers : source.Delivers part) :
    (read source).outcome = .error .incompleteRequest := by
  obtain ⟨full, rfl⟩ := delivers
  have ending := forward_staged.read_ending .start .empty full []
  rw [List.append_nil] at ending
  exact ending.outcome_of_missing forward_staged
    (fun reason => confirms_of_decidedInLimit within reason) decoded given

/-- A request that has arrived is read, and all that stands behind it is left. -/
theorem read_of_arrived {pieces : Source} (full : pieces.Full) {bytes rest : Bytes}
    (arrived : pieces.content = bytes ++ rest)
    (within : RequestHead.DecidedInLimit (bytes ++ rest)) {request : Request}
    (decoded : staged.decode .start bytes = (.ok request, [])) (after : Source) :
    ∃ waiting left, read (pieces ++ after) = ⟨.ok request, waiting, left ++ after⟩ ∧
      pieces.content = bytes ++ waiting ++ left.content := by
  have onward := forward_staged.decode_append decoded rest
  rw [← arrived] at onward within
  obtain ⟨waiting, left, result, _, split⟩ := read_of_decode_ok full after (.inl within) onward
  refine ⟨waiting, left, result, ?_⟩
  rw [List.append_assoc, split, List.nil_append, arrived]

/-- Every read is made before the last byte of the request has arrived. -/
theorem received_lt_of_rooms {pieces after : Source} (full : pieces.Full) {bytes : Bytes}
    (arrived : bytes <+: pieces.content) {request : Request}
    (decoded : staged.decode .start bytes = (.ok request, [])) {earlier later : List Nat}
    {room : Nat} (made : rooms (pieces ++ after) = earlier ++ room :: later) :
    ((pieces ++ after).readEach earlier).1.length < bytes.length := by
  have received : bytes <+: Buffer.empty.bytes ++ pieces.content := arrived
  have bound := forward_staged.received_lt full decoded received made
  have nothing : Buffer.empty.bytes.length = 0 := rfl
  omega

/-- A request of which some last bytes are missing is incomplete, and a request that has arrived is
read without a read for what comes after it. -/
theorem read_self_delimiting {start body : Bytes} {head : RequestHead}
    (found : RequestHead.parse start = .done head [])
    (short : start.length ≤ RequestHead.sizeLimit) {alone : Source}
    (delivers : alone.Delivers (start ++ body)) {request : Request}
    (complete : read alone = ⟨.ok request, [], []⟩) :
    (∀ part missing source, start ++ body = part ++ missing → missing ≠ [] →
      source.Delivers part → (read source).outcome = .error .incompleteRequest) ∧
    ∀ pieces after : Source, pieces.Full → start ++ body <+: pieces.content →
      (∃ waiting left, read (pieces ++ after) = ⟨.ok request, waiting, left ++ after⟩ ∧
        pieces.content = start ++ body ++ waiting ++ left.content) ∧
      (read (pieces ++ after)).source = ((pieces ++ after).readEach (rooms (pieces ++ after))).2 ∧
      ∀ earlier room later, rooms (pieces ++ after) = earlier ++ room :: later →
        ((pieces ++ after).readEach earlier).1.length < (start ++ body).length := by
  have decoded := decode_of_read_alone delivers complete
  refine ⟨?_, ?_⟩
  · intro part missing source split given cut
    have within := RequestHead.decidedInLimit_append found short body
    rw [split] at decoded within
    exact read_of_missing within decoded given cut
  · intro pieces after full arrived
    refine ⟨?_, source_read _, ?_⟩
    · obtain ⟨rest, whole⟩ := arrived
      have within := RequestHead.decidedInLimit_append found short (body ++ rest)
      rw [← List.append_assoc] at within
      exact read_of_arrived full whole.symm within decoded after
    · intro earlier room later made
      exact received_lt_of_rooms full arrived decoded made

/-- The head of a request with a body of two bytes. -/
def greetingHead : Bytes := .ofString "POST / HTTP/1.1\r\nContent-Length: 2\r\n\r\n"

/-- A request with a body of two bytes. -/
def greeting : Request where
  head :=
    { method := .ofString "POST"
      target := "/"
      version := 1
      headers := [⟨.ofString "Content-Length", .ofString "2"⟩]
      framing := .length 2 }
  body := some (.ofString "hi")

/-- The greeting is incomplete without its last byte, and is read before a client falls silent. -/
theorem greeting_delimits_itself :
    RequestHead.parse greetingHead = .done greeting.head [] ∧
      greetingHead.length ≤ RequestHead.sizeLimit ∧
      Source.Delivers [.data (greetingHead ++ .ofString "hi")] (greetingHead ++ .ofString "hi") ∧
      read [.data (greetingHead ++ .ofString "hi")] = ⟨.ok greeting, [], []⟩ ∧
      (read [.data (greetingHead ++ .ofString "h")]).outcome = .error .incompleteRequest ∧
      ∃ waiting left, read [.data greetingHead, .data (.ofString "hi"), .fault .silent] =
        ⟨.ok greeting, waiting, left ++ [.fault .silent]⟩ := by
  have found : RequestHead.parse greetingHead = .done greeting.head [] := by decide +kernel
  have short : greetingHead.length ≤ RequestHead.sizeLimit := by decide +kernel
  have delivers : Source.Delivers [.data (greetingHead ++ .ofString "hi")]
      (greetingHead ++ .ofString "hi") := Source.delivers_whole (by decide +kernel)
  have complete : read [.data (greetingHead ++ .ofString "hi")] = ⟨.ok greeting, [], []⟩ :=
    read_alone_of_decode delivers (RequestHead.decidedInLimit_append found short _)
      (decode_sized found (by decide +kernel))
  have ends := read_self_delimiting found short delivers complete
  refine ⟨found, short, delivers, complete, ?_, ?_⟩
  · exact ends.1 _ (.ofString "i") _ (by decide +kernel) (by decide +kernel)
      (Source.delivers_whole (by decide +kernel))
  · obtain ⟨waiting, left, result, _⟩ :=
      (ends.2 [.data greetingHead, .data (.ofString "hi")] [.fault .silent]
        (Source.full_cons.2
          ⟨⟨_, rfl, by decide +kernel⟩, (Source.delivers_whole (by decide +kernel)).1⟩)
        (by decide +kernel)).1
    exact ⟨waiting, left, result⟩

end TunnelBench.Request
