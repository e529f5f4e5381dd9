import TunnelBench.Proofs.Request.Asking
import TunnelBench.Proofs.Request.HeadSeeking
import TunnelBench.Request.Decoder

/-!
# How long a head may be

The limit on the size of a head is a limit on the bytes that may be there while the head is
still open. It is looked at only then: a head that is whole is taken whatever its length. A
head longer than the limit is therefore refused exactly if some look finds more bytes than
the limit and not yet the whole head, which depends on how the bytes arrive. A reader's
block of memory settles the rest: up to one byte more than the limit no head is refused,
beyond twice the limit every head is, and between the two both happen.
-/
namespace TunnelBench

open RequestHead (parse sizeLimit overlong Heads)

namespace HeadDecoder

/-- A decoder finds heads of any length. -/
theorem decode_eq_some {bytes rest : Bytes} {head : RequestHead} :
    decode bytes = (.ok (some head), rest) ↔
      ∃ start, parse start = .done head [] ∧ bytes = start ++ rest := by
  have decoded : decode bytes = (.ok (some head), rest) ↔ parse bytes = .done head rest := by
    unfold decode
    cases parse bytes with
    | done found left => simp
    | failed reason => simp
    | more => simp
  rw [decoded]
  constructor
  · intro found
    obtain ⟨used, split, stands⟩ := RequestHead.exact_parse found
    have alone := stands []
    rw [List.append_nil] at alone
    exact ⟨used, alone, split⟩
  · rintro ⟨start, found, rfl⟩
    exact RequestHead.parse_append_of_done found rest

/-- Decoding a part of a stream finds the head at its front if the part holds the whole of it, and
minds the limit if not. -/
theorem decode_front {start part later : Bytes} {head : RequestHead}
    (found : parse start = .done head []) (begins : start <+: part ++ later) :
    decode part = if start.length ≤ part.length then (.ok (some head), part.drop start.length)
      else if sizeLimit < part.length then (.error overlong, part) else (.ok none, part) := by
  obtain ⟨enough, rest, rfl, whole⟩ | ⟨missing, undecided⟩ :=
    RequestHead.front_cases found begins
  · rw [if_pos enough, List.drop_left]
    exact decode_eq_some.2 ⟨start, found, rfl⟩
  · rw [if_neg (by omega)]
    by_cases long : sizeLimit < part.length
    · have refused := RequestHead.parse_eq_failed.2 (.inr ⟨undecided, long, rfl⟩)
      simp only [decode, refused, if_pos long]
      rfl
    · have asks := RequestHead.parse_eq_more.2 ⟨undecided, Nat.le_of_not_lt long⟩
      simp only [decode, asks, if_neg long]

end HeadDecoder

namespace Staged

variable {stage result : Type} {staged : Staged stage result} {first : stage}
  {has : result → RequestHead → Prop} {start : Bytes} {head : RequestHead}

/-- Looking for the head at the front of a source goes in one of three ways. -/
theorem SeeksHead.seeking_from_empty (seeks : staged.SeeksHead first has)
    (found : parse start = .done head []) {source : Source} (begins : start <+: source.content) :
    staged.Seeking first start .empty source :=
  seeks.seeking found (Buffer.collects_empty (by decide)) (by decide) begins

/-- Looks at bytes that start with a whole head keep it. -/
theorem SeeksHead.heads_of_arrived (seeks : staged.SeeksHead first has)
    (found : parse start = .done head []) {buffer : Buffer} {behind : Bytes}
    (arrived : buffer.bytes = start ++ behind) (source : Source) :
    Heads has head (staged.read first buffer source).outcome := by
  have whole : parse buffer.bytes = .done head behind := by
    rw [arrived]
    exact RequestHead.parse_append_of_done found behind
  exact seeks.done whole source

/-- A head is refused for its size exactly if a look finds it open past the limit. -/
theorem SeeksHead.refused_iff (seeks : staged.SeeksHead first has)
    (found : parse start = .done head []) {source : Source} (begins : start <+: source.content) :
    (staged.read first .empty source).outcome = .error overlong ↔
      staged.Pauses first .empty source sizeLimit start.length := by
  cases seeks.seeking_from_empty found begins with
  | refused pauses refusal => exact ⟨fun _ => pauses, fun _ => refusal⟩
  | found held left behind passes bounded arrived goesOn =>
    have spared := (seeks.heads_of_arrived found arrived left).spares
    rw [goesOn]
    exact ⟨fun refused => absurd refused spared, fun pauses => absurd pauses passes⟩
  | cut passes early failure broken failed =>
    refine ⟨fun refused => ?_, fun pauses => absurd pauses passes⟩
    rw [failed, Except.error.injEq] at refused
    rw [refused] at broken
    simp [overlong] at broken

/-- A message that is read has the head at the front of its source, and that head is no longer than
twice the limit. -/
theorem SeeksHead.bound_of_ok (seeks : staged.SeeksHead first has)
    (found : parse start = .done head []) {source : Source} (begins : start <+: source.content)
    {value : result} (accepted : (staged.read first .empty source).outcome = .ok value) :
    has value head ∧ start.length ≤ 2 * sizeLimit := by
  cases seeks.seeking_from_empty found begins with
  | refused pauses refusal => simp [refusal] at accepted
  | found held left behind passes bounded arrived goesOn =>
    rw [goesOn] at accepted
    rw [arrived, List.length_append] at bounded
    exact ⟨(seeks.heads_of_arrived found arrived left).keeps value accepted, by omega⟩
  | cut passes early failure broken failed => simp [failed] at accepted

/-- A source without a whole head at its front brings no message. -/
theorem SeeksHead.exists_head (seeks : staged.SeeksHead first has) (buffer : Buffer)
    (source : Source) {value : result}
    (accepted : (staged.read first buffer source).outcome = .ok value) :
    ∃ start head, parse start = .done head [] ∧ start <+: buffer.bytes ++ source.content := by
  cases parsed : parse buffer.bytes with
  | done head rest =>
    obtain ⟨used, split, stands⟩ := RequestHead.exact_parse parsed
    have alone := stands []
    rw [List.append_nil] at alone
    refine ⟨used, head, alone, ?_⟩
    rw [split, List.append_assoc]
    exact List.prefix_append used _
  | failed reason =>
    rw [read_failed (seeks.failed parsed)] at accepted
    contradiction
  | more =>
    have asks := seeks.more parsed
    match received : source.read (buffer.prepare 0).room with
    | (.error fault, rest) =>
      rw [read_fault asks received] at accepted
      contradiction
    | (.ok [], rest) =>
      rw [read_ended asks received] at accepted
      contradiction
    | (.ok (byte :: bytes), rest) =>
      rw [read_received asks received] at accepted
      obtain ⟨start, head, found, begins⟩ := seeks.exists_head _ rest accepted
      rw [Buffer.bytes_append, Buffer.bytes_prepare, List.append_assoc,
        ← Source.content_of_read_ok received] at begins
      exact ⟨start, head, found, begins⟩
termination_by source.weight
decreasing_by exact (Source.weight_read_ok_lt received (by simp)).2

/-- A message that is read is read behind a head at the front of its source. -/
theorem SeeksHead.exists_front (seeks : staged.SeeksHead first has) {source : Source}
    {value : result} (accepted : (staged.read first .empty source).outcome = .ok value) :
    ∃ start head, parse start = .done head [] ∧ start <+: source.content ∧ has value head ∧
      start.length ≤ 2 * sizeLimit := by
  obtain ⟨start, head, found, begins⟩ := seeks.exists_head _ source accepted
  have bound := seeks.bound_of_ok found begins accepted
  exact ⟨start, head, found, begins, bound⟩

/-- Where the whole head is delivered, a look finds it open past the limit or finds it whole. -/
theorem SeeksHead.refused_or_arrived (seeks : staged.SeeksHead first has)
    (found : parse start = .done head []) {pieces : Source} (full : pieces.Full)
    (begins : start <+: pieces.content) (after : Source) :
    (staged.read first .empty (pieces ++ after)).outcome = .error overlong ∨
      ∃ held left behind, held.bytes = start ++ behind ∧ start.length ≤ 2 * sizeLimit ∧
        staged.read first .empty (pieces ++ after) = staged.read first held left := by
  have inside : start <+: (pieces ++ after).content := by
    rw [Source.content, List.flatMap_append]
    exact begins.trans (List.prefix_append _ _)
  cases seeks.seeking_from_empty found inside with
  | refused pauses refusal => exact .inl refusal
  | found held left behind passes bounded arrived goesOn =>
    have length := congrArg List.length arrived
    rw [List.length_append] at length
    exact .inr ⟨held, left, behind, arrived, by omega, goesOn⟩
  | cut passes early failure broken failed => exact absurd begins (early pieces after full rfl)

/-- A head of at most twice the limit that comes in one piece is not refused for its size. -/
theorem SeeksHead.spares_piece (seeks : staged.SeeksHead first has)
    (found : parse start = .done head []) (fits : start.length ≤ 2 * sizeLimit) {buffer : Buffer}
    (brimming : buffer.Brimming) {held behind : Bytes}
    (arrives : buffer.bytes ++ held = start ++ behind) (after : Source) :
    (staged.read first buffer (.data held :: after)).outcome ≠ .error overlong := by
  have begins : start <+: buffer.bytes ++ held := by
    rw [arrives]
    exact List.prefix_append start behind
  obtain ⟨-, rest, whole, -⟩ | ⟨missing, undecided⟩ := RequestHead.front_cases found begins
  · exact (seeks.heads_of_arrived found whole _).spares
  have size : sizeLimit = Buffer.firstSize * 2 ^ 4 := by decide
  have short : buffer.bytes.length ≤ sizeLimit := by
    rw [size] at fits ⊢
    exact brimming.length_le (by omega)
  have asks := seeks.more (RequestHead.parse_eq_more.2 ⟨undecided, short⟩)
  have positive := buffer.room_prepare_pos 0
  have lengths := begins.length_le
  rw [List.length_append] at lengths
  obtain ⟨whole, received⟩ | ⟨much, received⟩ :=
    Source.read_piece (buffer.prepare 0).room held after
  · obtain ⟨byte, bytes, rfl⟩ := List.exists_cons_of_length_pos (show 0 < held.length by omega)
    have arrived : ((buffer.prepare 0).append (byte :: bytes)).bytes = start ++ behind := by
      rw [Buffer.bytes_append, Buffer.bytes_prepare, arrives]
    rw [read_received asks received]
    exact (seeks.heads_of_arrived found arrived after).spares
  · have taken : (held.take (buffer.prepare 0).room).length = (buffer.prepare 0).room := by
      rw [List.length_take]
      omega
    obtain ⟨byte, bytes, split⟩ := List.exists_cons_of_length_pos
      (show 0 < (held.take (buffer.prepare 0).room).length by omega)
    have rejoined : held = byte :: bytes ++ held.drop (buffer.prepare 0).room := by
      rw [← split, List.take_append_drop]
    have grown := brimming.append taken
    have onward : ((buffer.prepare 0).append (byte :: bytes)).bytes ++
        held.drop (buffer.prepare 0).room = start ++ behind := by
      rw [Buffer.bytes_append, Buffer.bytes_prepare, List.append_assoc, ← rejoined, arrives]
    rw [split] at received grown
    rw [read_received asks received]
    exact spares_piece seeks found fits grown onward after
termination_by held.length
decreasing_by
  rw [List.length_drop]
  omega

/-- How the head at the front of a source fares with the limit. -/
structure BoundsHead (staged : Staged stage result) (first : stage)
    (has : result → RequestHead → Prop) (start : Bytes) (head : RequestHead) (source : Source) :
    Prop where
  refused_iff : (staged.read first .empty source).outcome = .error overlong ↔
    staged.Pauses first .empty source sizeLimit start.length
  accepted : ∀ value, (staged.read first .empty source).outcome = .ok value →
    has value head ∧ start.length ≤ 2 * sizeLimit
  /-- No number of bytes lies between the limit and the one above it. -/
  never : start.length ≤ sizeLimit + 1 →
    (staged.read first .empty source).outcome ≠ .error overlong
  /-- The source neither fails nor ends before the whole head has arrived. -/
  always : ∀ pieces after, pieces.Full → source = pieces ++ after → start <+: pieces.content →
    2 * sizeLimit < start.length → (staged.read first .empty source).outcome = .error overlong
  atOnce : ∀ behind after, source = .data (start ++ behind) :: after →
    ((staged.read first .empty source).outcome = .error overlong ↔ 2 * sizeLimit < start.length)

/-- Whoever looks for a head first bounds it. -/
theorem SeeksHead.boundsHead (seeks : staged.SeeksHead first has)
    (found : parse start = .done head []) {source : Source} (begins : start <+: source.content) :
    staged.BoundsHead first has start head source := by
  have refused_iff := seeks.refused_iff found begins
  have always : ∀ pieces after, pieces.Full → source = pieces ++ after → start <+: pieces.content →
      2 * sizeLimit < start.length →
        (staged.read first .empty source).outcome = .error overlong := by
    rintro pieces after full rfl inside long
    obtain refusal | ⟨held, left, behind, arrived, bounded, goesOn⟩ :=
      seeks.refused_or_arrived found full inside after
    · exact refusal
    · omega
  refine ⟨refused_iff, fun value => seeks.bound_of_ok found begins, ?_, always, ?_⟩
  · intro short refused
    obtain ⟨earlier, later, made, above, below⟩ := refused_iff.1 refused
    omega
  · rintro behind after rfl
    constructor
    · intro refused
      have brimming := Buffer.brimming_empty
      by_cases fits : start.length ≤ 2 * sizeLimit
      · exact absurd refused (seeks.spares_piece found fits brimming rfl after)
      · omega
    · intro long
      have given : start ++ behind ≠ [] := by
        intro empty
        have length := congrArg List.length empty
        rw [List.length_append, List.length_nil] at length
        omega
      obtain ⟨full, content⟩ := Source.delivers_whole given
      refine always _ after full rfl ?_ long
      rw [content]
      exact List.prefix_append start behind

/-- Where the whole head is delivered and not refused, what follows a look at it is what is read. -/
theorem SeeksHead.ok_of_passes (seeks : staged.SeeksHead first has)
    (found : parse start = .done head []) {pieces : Source} (full : pieces.Full)
    (begins : start <+: pieces.content) (after : Source)
    (passes : (staged.read first .empty (pieces ++ after)).outcome ≠ .error overlong)
    {value : result} (ends : ∀ (held : Buffer) behind left, held.bytes = start ++ behind →
      (staged.read first held left).outcome = .ok value) :
    (staged.read first .empty (pieces ++ after)).outcome = .ok value := by
  obtain refusal | ⟨held, left, behind, arrived, -, goesOn⟩ :=
    seeks.refused_or_arrived found full begins after
  · exact absurd refusal passes
  · rw [goesOn]
    exact ends held behind left arrived

end Staged

namespace Request

variable {start : Bytes} {head : RequestHead}

/-- A target is read off a whole head. -/
theorem target_of_arrived (found : parse start = .done head []) (held : Buffer) (behind : Bytes)
    (left : Source) (arrived : held.bytes = start ++ behind) :
    (peeked.read () held left).outcome = .ok head.target := by
  have whole := RequestHead.parse_append_of_done found behind
  rw [← arrived] at whole
  have look : peeked.step () held.bytes = .finish head.target held.bytes :=
    peekStep_eq_finish.2 ⟨⟨head, _, whole, rfl⟩, rfl⟩
  rw [Staged.read_finish look]

/-- A request without a body is read off a whole head. -/
theorem request_of_arrived (found : parse start = .done head []) (bodiless : head.framing = .none)
    (held : Buffer) (behind : Bytes) (left : Source) (arrived : held.bytes = start ++ behind) :
    (staged.read .start held left).outcome = .ok ⟨head, none⟩ := by
  have whole := RequestHead.parse_append_of_done found behind
  rw [← arrived] at whole
  have look : staged.step .start held.bytes = .finish ⟨head, none⟩ behind := by
    change Stage.start.step held.bytes = _
    rw [Stage.step_start, whole, Progress.settle, Stage.behind, bodiless]
    rfl
  rw [Staged.read_finish look]

end Request

namespace RequestHead

/-- A whole head stands at the front of what a source brings. -/
structure AtFront (head : RequestHead) (start : Bytes) (source : Source) : Prop where
  found : parse start = .done head []
  begins : start <+: source.content

/-- The limit holds for heads that are still open. A decoder takes a whole head of any length; a
head that a reader takes is no longer than twice the limit. A head at the front of a stream is
refused for its size exactly if it is looked at while more bytes than the limit have arrived and the
head is not whole: never up to one byte above the limit, always beyond twice the limit, and in
between as the bytes happen to arrive. -/
theorem limit_while_open (source : Source) :
    (∀ bytes rest head, HeadDecoder.decode bytes = (.ok (some head), rest) ↔
      ∃ start, parse start = .done head [] ∧ bytes = start ++ rest) ∧
    (∀ request, (Request.read source).outcome = .ok request →
      ∃ start, request.head.AtFront start source ∧ start.length ≤ 2 * sizeLimit) ∧
    (∀ target, (Request.readTarget source).outcome = .ok target →
      ∃ (start : Bytes) (head : RequestHead), head.AtFront start source ∧ head.target = target ∧
        start.length ≤ 2 * sizeLimit) ∧
    ∀ (start : Bytes) (head : RequestHead), head.AtFront start source →
      (∀ part, part <+: source.content → HeadDecoder.decode part =
        if start.length ≤ part.length then (.ok (some head), part.drop start.length)
        else if sizeLimit < part.length then (.error overlong, part) else (.ok none, part)) ∧
      Request.staged.BoundsHead .start (·.head = ·) start head source ∧
      Request.peeked.BoundsHead () (fun target head => head.target = target) start head source ∧
      ∀ pieces after, pieces.Full → source = pieces ++ after → start <+: pieces.content →
        ((Request.readTarget source).outcome ≠ .error overlong →
          (Request.readTarget source).outcome = .ok head.target) ∧
        (head.framing = .none → (Request.read source).outcome ≠ .error overlong →
          (Request.read source).outcome = .ok ⟨head, none⟩) := by
  refine ⟨fun bytes rest head => HeadDecoder.decode_eq_some, ?_, ?_, ?_⟩
  · intro request accepted
    obtain ⟨start, head, found, begins, same, bounded⟩ :=
      Request.seeksHead_staged.exists_front accepted
    rw [same]
    exact ⟨start, ⟨found, begins⟩, bounded⟩
  · intro target accepted
    obtain ⟨start, head, found, begins, same, bounded⟩ :=
      Request.seeksHead_peeked.exists_front accepted
    exact ⟨start, head, ⟨found, begins⟩, same, bounded⟩
  · rintro start head ⟨found, begins⟩
    refine ⟨?_, Request.seeksHead_staged.boundsHead found begins,
      Request.seeksHead_peeked.boundsHead found begins, ?_⟩
    · rintro part ⟨later, whole⟩
      rw [← whole] at begins
      exact HeadDecoder.decode_front found begins
    · rintro pieces after full rfl inside
      constructor
      · intro passes
        exact Request.seeksHead_peeked.ok_of_passes found full inside after passes
          (Request.target_of_arrived found)
      · intro bodiless passes
        exact Request.seeksHead_staged.ok_of_passes found full inside after passes
          (Request.request_of_arrived found bodiless)

end RequestHead

/-- A header with a value of some length. -/
def Header.long (size : Nat) : Header := ⟨.ofString "X", List.replicate size 97⟩

/-- The long header can be read back from its line. -/
theorem Header.plain_long (size : Nat) : (long size).Plain where
  named := show Bytes.ofString "X" ≠ [] by decide
  token := by
    have checked : (Bytes.ofString "X").all RequestHead.isTokenByte = true := by decide
    exact List.all_eq_true.1 checked
  visible := by
    intro byte member
    rw [List.eq_of_mem_replicate member]
    decide
  opens := by
    intro first
    have member := List.mem_of_head? first
    exact absurd (List.eq_of_mem_replicate member) (by decide)
  closes := by
    intro last
    have member := List.mem_of_getLast? last
    exact absurd (List.eq_of_mem_replicate member) (by decide)

/-- A head with the long header. -/
def Asking.long (size : Nat) : Asking where
  method := .ofString "GET"
  target := "/"
  minor := Fin.last 1
  lines := (Header.long size).line ++ Bytes.lineEnd
  headers := [Header.long size]
  framing := .none
  methodGiven := by decide
  methodToken := by
    have checked : (Bytes.ofString "GET").all RequestHead.isTokenByte = true := by decide
    exact List.all_eq_true.1 checked
  targetGiven := by decide
  targetVisible := by
    have checked : "/".toList.all (fun char => 33 ≤ char.toNat ∧ char.toNat ≤ 126) = true := by
      decide +kernel
    exact fun char member => of_decide_eq_true (List.all_eq_true.1 checked char member)
  read := by
    have plain : ∀ header ∈ [Header.long size], header.Plain :=
      List.forall_mem_singleton.2 (Header.plain_long size)
    have few : [Header.long size].length ≤ RequestHead.headerLimit := show 1 ≤ 64 by decide
    have reads := RequestHead.reads_headerLines plain few
    rw [List.flatMap_singleton] at reads
    exact reads.alone
  judged := rfl

/-- Without its value the long head has 23 bytes. -/
theorem Asking.length_long (size : Nat) : (long size).bytes.length = size + 23 := by
  have method : (Bytes.ofString "GET").length = 3 := by decide
  have target : (Bytes.ofString "/").length = 1 := by decide
  have version : (Bytes.ofString "HTTP/1.").length = 7 := by decide
  have name : (Bytes.ofString "X").length = 1 := by decide
  have mark : (Bytes.ofString ": ").length = 2 := by decide
  have lineEnd : Bytes.lineEnd.length = 2 := rfl
  simp only [bytes, long, Header.line, Header.long, List.length_append, List.length_replicate,
    List.length_singleton, method, target, version, name, mark, lineEnd]
  omega

namespace RequestHead

/-- A long head as the only piece of a source. -/
def longSource (size : Nat) : Source := [.data (Asking.long size).bytes]

/-- The long head stands at the front of its source. -/
theorem atFront_long (size : Nat) :
    (Asking.long size).head.AtFront (Asking.long size).bytes (longSource size) := by
  refine ⟨(Asking.long size).parse_bytes, ?_⟩
  rw [longSource, Source.content_cons]
  exact List.prefix_append _ _

/-- The source of a long head is a delivery of it. -/
theorem full_longSource (size : Nat) : (longSource size).Full := by
  refine (Source.delivers_whole ?_).1
  intro empty
  have length := congrArg List.length empty
  rw [Asking.length_long, List.length_nil] at length
  omega

/-- A head within the limit is taken, a head of 23 bytes more than twice the limit is refused by
both readers, and a decoder refuses it only while it is open. -/
theorem limit_while_open_of_long :
    (Request.read (longSource 0)).outcome = .ok ⟨(Asking.long 0).head, none⟩ ∧
      (Request.readTarget (longSource 0)).outcome = .ok "/" ∧
      (Request.read (longSource (2 * sizeLimit))).outcome = .error overlong ∧
      (Request.readTarget (longSource (2 * sizeLimit))).outcome = .error overlong ∧
      HeadDecoder.decode ((Asking.long (2 * sizeLimit)).bytes.take (sizeLimit + 1)) =
        (.error overlong, (Asking.long (2 * sizeLimit)).bytes.take (sizeLimit + 1)) ∧
      HeadDecoder.decode (Asking.long (2 * sizeLimit)).bytes =
        (.ok (some (Asking.long (2 * sizeLimit)).head), []) := by
  have length := Asking.length_long (2 * sizeLimit)
  have shortLength := Asking.length_long 0
  have limited : sizeLimit = 65536 := rfl
  obtain ⟨-, shortRead, shortPeeked, shortTaken⟩ :=
    (limit_while_open (longSource 0)).2.2.2 _ _ (atFront_long 0)
  obtain ⟨target, request⟩ := shortTaken (longSource 0) [] (full_longSource 0)
    (List.append_nil _).symm (atFront_long 0).begins
  obtain ⟨decoded, read, peeked, -⟩ :=
    (limit_while_open (longSource (2 * sizeLimit))).2.2.2 _ _ (atFront_long (2 * sizeLimit))
  have inside : ∀ size, (Asking.long (2 * sizeLimit)).bytes.take size <+:
      (longSource (2 * sizeLimit)).content := fun size =>
    (List.take_prefix size _).trans (atFront_long _).begins
  have shortSpared := shortRead.never (by omega)
  have shortPeekSpared := shortPeeked.never (by omega)
  refine ⟨request rfl shortSpared, target shortPeekSpared, ?_, ?_, ?_, ?_⟩
  · refine (read.atOnce [] [] ?_).2 (by omega)
    rw [List.append_nil, longSource]
  · refine (peeked.atOnce [] [] ?_).2 (by omega)
    rw [List.append_nil, longSource]
  · have taken : ((Asking.long (2 * sizeLimit)).bytes.take (sizeLimit + 1)).length =
        sizeLimit + 1 := by
      rw [List.length_take]
      omega
    rw [decoded _ (inside _), taken, if_neg (by omega), if_pos (by omega)]
  · rw [decoded _ (atFront_long _).begins, if_pos (Nat.le_refl _), List.drop_length]

/-- A head of 23 bytes more than the limit is taken by a decoder that has all of it, and by both
readers if it comes in one piece. -/
theorem overlong_head_taken :
    sizeLimit < (Asking.long sizeLimit).bytes.length ∧
      HeadDecoder.decode (Asking.long sizeLimit).bytes =
        (.ok (some (Asking.long sizeLimit).head), []) ∧
      (Request.read (longSource sizeLimit)).outcome = .ok ⟨(Asking.long sizeLimit).head, none⟩ ∧
      (Request.readTarget (longSource sizeLimit)).outcome = .ok "/" := by
  have length := Asking.length_long sizeLimit
  have limited : sizeLimit = 65536 := rfl
  have found := (Asking.long sizeLimit).parse_bytes
  have fits : (Asking.long sizeLimit).bytes.length ≤ 2 * sizeLimit := by omega
  have full := full_longSource sizeLimit
  have begins := (atFront_long sizeLimit).begins
  have whole : Buffer.empty.bytes ++ (Asking.long sizeLimit).bytes =
      (Asking.long sizeLimit).bytes ++ [] := by
    rw [List.append_nil]
    rfl
  have brimming := Buffer.brimming_empty
  have requestSpared := Request.seeksHead_staged.spares_piece found fits brimming whole []
  have targetSpared := Request.seeksHead_peeked.spares_piece found fits brimming whole []
  have decoded : ∃ start, parse start = .done (Asking.long sizeLimit).head [] ∧
      (Asking.long sizeLimit).bytes = start ++ [] := ⟨_, found, (List.append_nil _).symm⟩
  refine ⟨by omega, HeadDecoder.decode_eq_some.2 decoded, ?_, ?_⟩
  · exact Request.seeksHead_staged.ok_of_passes found full begins [] requestSpared
      (Request.request_of_arrived found rfl)
  · exact Request.seeksHead_peeked.ok_of_passes found full begins [] targetSpared
      (Request.target_of_arrived found)

end RequestHead
end TunnelBench
