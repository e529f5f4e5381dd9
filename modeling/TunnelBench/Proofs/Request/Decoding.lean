import Mathlib.Data.List.Induction
import TunnelBench.Proofs.Request.HeadDecision
import TunnelBench.Request.Decoder

/-!
# Decoding heads as they arrive

A decoder is used in steps: bytes are fed into its buffer, and heads are asked for. No byte
is lost or made up on the way, so which heads come out depends on the bytes alone and not on
when they are fed or asked for. A refusal stands whatever is fed later, unless it is the
refusal of a head that is still open past the limit on its size.
-/
namespace TunnelBench.HeadDecoder

/-- What a decoder gives when it is asked for a head. -/
abbrev Answer : Type := Except Failure (Option RequestHead)

/-- The head in an answer, if there is one. -/
def headIn : Answer → Option RequestHead
  | .ok found => found
  | .error _ => none

/-- A step in the use of a decoder. -/
inductive Use where
  /-- Bytes are put behind those in the buffer. -/
  | feed (bytes : Bytes)
  /-- A head is asked for. -/
  | decode
  /-- A head is asked for, and no more bytes will come. -/
  | decodeLast
  /-- The buffer is emptied. -/
  | reset
  deriving DecidableEq, Repr

/-- Whether a step asks for a head. -/
def Use.Asks (use : Use) : Prop := use = .decode ∨ use = .decodeLast

/-- What has become of a decoder since its buffer was last emptied. -/
structure Session where
  buffer : Bytes := []
  /-- All bytes fed. -/
  fed : Bytes := []
  /-- All answers, in order. -/
  answers : List Answer := []

namespace Session

/-- The heads that came out, in order. -/
def heads (session : Session) : List RequestHead := session.answers.filterMap headIn

/-- Notes an answer and the bytes that it leaves. -/
def note (session : Session) (decoded : Answer × Bytes) : Session :=
  { session with buffer := decoded.2, answers := session.answers ++ [decoded.1] }

/-- One step. -/
def step (session : Session) : Use → Session
  | .feed bytes => { session with buffer := session.buffer ++ bytes, fed := session.fed ++ bytes }
  | .decode => session.note (decode session.buffer)
  | .decodeLast => session.note (decodeLast session.buffer)
  | .reset => {}

/-- An answer with a head adds the head, and every other adds nothing. -/
theorem heads_note (session : Session) (decoded : Answer × Bytes) :
    (session.note decoded).heads = session.heads ++ (headIn decoded.1).toList := by
  unfold heads note
  rw [List.filterMap_append]
  cases found : headIn decoded.1 with
  | none => simp [found]
  | some head => simp [found]

end Session

/-- The steps of a use from the first one on. -/
def run (uses : List Use) : Session := uses.foldl Session.step {}

/-- The last step comes after all others. -/
theorem run_concat (uses : List Use) (last : Use) :
    run (uses ++ [last]) = (run uses).step last := by
  simp [run, List.foldl_append]

/-- A head that comes out is the one that the bytes begin with. -/
theorem parse_of_headIn {bytes : Bytes} {head : RequestHead}
    (found : headIn (decode bytes).1 = some head) :
    RequestHead.parse bytes = .done head (decode bytes).2 := by
  unfold decode at found ⊢
  cases parsed : RequestHead.parse bytes with
  | done other rest =>
    simp only [parsed, headIn, Option.some.injEq] at found
    rw [found]
  | failed reason => simp [parsed, headIn] at found
  | more => simp [parsed, headIn] at found

/-- Where no head comes out, all bytes stay. -/
theorem decode_of_headless {bytes : Bytes} (headless : headIn (decode bytes).1 = none) :
    (decode bytes).2 = bytes ∧ ∀ head rest, RequestHead.parse bytes ≠ .done head rest := by
  unfold decode at headless ⊢
  cases parsed : RequestHead.parse bytes with
  | done head rest =>
    simp only [parsed, headIn] at headless
    contradiction
  | failed reason => exact ⟨rfl, by simp⟩
  | more => exact ⟨rfl, by simp⟩

/-- Whether bytes are the start of a head, and at least one. -/
def Open (bytes : Bytes) : Prop := bytes ≠ [] ∧ (decode bytes).1 = .ok none

/-- At the end of the stream the start of a head is an error. -/
theorem decodeLast_of_open {bytes : Bytes} (undecided : Open bytes) :
    decodeLast bytes = (.error (.io .leftover), bytes) := by
  obtain ⟨given, undecided⟩ := undecided
  have kept : (decode bytes).2 = bytes := (decode_of_headless (by rw [undecided]; rfl)).1
  obtain ⟨byte, rest, rfl⟩ := List.exists_cons_of_ne_nil given
  have whole : decode (byte :: rest) = (.ok none, byte :: rest) := Prod.ext undecided kept
  unfold decodeLast
  rw [whole]

/-- In every other case the end of the stream makes no difference. -/
theorem decodeLast_of_not_open {bytes : Bytes} (decided : ¬Open bytes) :
    decodeLast bytes = decode bytes := by
  unfold decodeLast
  split
  · rename_i byte rest result
    have kept : (decode bytes).2 = bytes := (decode_of_headless (by rw [result]; rfl)).1
    have given : bytes ≠ [] := by
      rw [← kept, result]
      exact List.cons_ne_nil byte rest
    exact absurd ⟨given, by rw [result]⟩ decided
  · rfl

/-- Both ways of asking find the same heads. -/
theorem headIn_decodeLast (bytes : Bytes) :
    headIn (decodeLast bytes).1 = headIn (decode bytes).1 ∧
      (decodeLast bytes).2 = (decode bytes).2 := by
  by_cases undecided : Open bytes
  · have kept : (decode bytes).2 = bytes := (decode_of_headless (by rw [undecided.2]; rfl)).1
    rw [decodeLast_of_open undecided, undecided.2, kept]
    exact ⟨rfl, rfl⟩
  · rw [decodeLast_of_not_open undecided]
    exact ⟨rfl, rfl⟩

/-- Bytes that are heads one after the other, each as it is found alone. -/
inductive Spells : List RequestHead → Bytes → Prop
  | nil : Spells [] []
  | cons {head : RequestHead} {part bytes : Bytes} {heads : List RequestHead}
      (found : RequestHead.parse part = .done head []) (later : Spells heads bytes) :
      Spells (head :: heads) (part ++ bytes)

/-- One more head comes after all others. -/
theorem Spells.concat {heads : List RequestHead} {bytes part : Bytes} {head : RequestHead}
    (spells : Spells heads bytes) (found : RequestHead.parse part = .done head []) :
    Spells (heads ++ [head]) (bytes ++ part) := by
  induction spells with
  | nil =>
    have single := Spells.cons found .nil
    rw [List.append_nil] at single
    exact single
  | cons first _ ih =>
    rw [List.append_assoc]
    exact .cons first ih

/-- The heads at the front of some bytes are found there one after the other, so no other heads can
stand there before bytes that begin with none. -/
theorem Spells.unique {heads others : List RequestHead} {used otherUsed rest otherRest : Bytes}
    (spells : Spells heads used) (otherSpells : Spells others otherUsed)
    (ended : ∀ head behind, RequestHead.parse rest ≠ .done head behind)
    (otherEnded : ∀ head behind, RequestHead.parse otherRest ≠ .done head behind)
    (same : used ++ rest = otherUsed ++ otherRest) : heads = others ∧ rest = otherRest := by
  -- Both lists are read off the same bytes, so they run out of heads together.
  induction spells generalizing others otherUsed with
  | nil =>
    cases otherSpells with
    | nil => exact ⟨rfl, same⟩
    | @cons _ _ behind _ found _ =>
      rw [List.nil_append, List.append_assoc] at same
      have whole := RequestHead.parse_append_of_done found (behind ++ otherRest)
      rw [← same] at whole
      exact absurd whole (ended _ _)
  | @cons _ _ behind _ found _ ih =>
    rw [List.append_assoc] at same
    have whole := RequestHead.parse_append_of_done found (behind ++ rest)
    rw [same] at whole
    cases otherSpells with
    | nil => exact absurd whole (otherEnded _ _)
    | @cons _ _ otherBehind _ otherFound otherLater =>
      rw [List.append_assoc] at whole
      have otherWhole := RequestHead.parse_append_of_done otherFound (otherBehind ++ otherRest)
      -- The first head of both is the one that the parser finds, so the rests agree as well.
      rw [whole, List.nil_append, List.nil_append, Progress.done.injEq] at otherWhole
      obtain ⟨rfl, left⟩ := otherWhole
      obtain ⟨rfl, sameRest⟩ := ih otherLater left
      exact ⟨rfl, sameRest⟩

namespace Session

/-- Every byte fed is in one of the heads that came out, or still in the buffer. -/
def Accounts (session : Session) : Prop :=
  ∃ used, Spells session.heads used ∧ session.fed = used ++ session.buffer

/-- An answer takes the bytes of its head out of the buffer, and nothing else. -/
theorem Accounts.note {session : Session} (accounts : session.Accounts) {decoded : Answer × Bytes}
    (found : headIn decoded.1 = headIn (decode session.buffer).1)
    (left : decoded.2 = (decode session.buffer).2) : (session.note decoded).Accounts := by
  obtain ⟨used, spells, split⟩ := accounts
  cases given : headIn (decode session.buffer).1 with
  | none =>
    obtain ⟨kept, -⟩ := decode_of_headless given
    refine ⟨used, ?_, ?_⟩
    · rw [heads_note, found, given, Option.toList_none, List.append_nil]
      exact spells
    · show session.fed = used ++ decoded.2
      rw [split, left, kept]
  | some head =>
    obtain ⟨part, front, stands⟩ := RequestHead.exact_parse (parse_of_headIn given)
    have alone : RequestHead.parse part = .done head [] := by
      have whole := stands []
      rwa [List.append_nil] at whole
    refine ⟨used ++ part, ?_, ?_⟩
    · rw [heads_note, found, given]
      exact spells.concat alone
    · show session.fed = used ++ part ++ decoded.2
      rw [split, left, List.append_assoc, ← front]

/-- No step loses or makes up a byte. -/
theorem Accounts.step {session : Session} (accounts : session.Accounts) (use : Use) :
    (session.step use).Accounts := by
  cases use with
  | feed bytes =>
    obtain ⟨used, spells, split⟩ := accounts
    refine ⟨used, spells, ?_⟩
    show session.fed ++ bytes = used ++ (session.buffer ++ bytes)
    rw [split, List.append_assoc]
  | decode => exact accounts.note rfl rfl
  | decodeLast =>
    obtain ⟨found, left⟩ := headIn_decodeLast session.buffer
    exact accounts.note found left
  | reset => exact ⟨[], .nil, rfl⟩

end Session

/-- No byte is lost or made up on the way. -/
theorem accounts_run (uses : List Use) : (run uses).Accounts := by
  induction uses using List.reverseRecOn with
  | nil => exact ⟨[], .nil, rfl⟩
  | append_singleton uses last ih =>
    rw [run_concat]
    exact ih.step last

/-- Some steps end when heads are asked for until none comes out. -/
def Drains (uses : List Use) (last : Use) : Prop :=
  last.Asks ∧ ∃ answer, (run (uses ++ [last])).answers.getLast? = some answer ∧
    headIn answer = none

/-- Where the last answer has no head, the buffer begins with none. -/
theorem Drains.ended {uses : List Use} {last : Use} (drains : Drains uses last) :
    (run (uses ++ [last])).buffer = (run uses).buffer ∧
      ∀ head rest, RequestHead.parse (run uses).buffer ≠ .done head rest := by
  obtain ⟨asks, answer, final, headless⟩ := drains
  rw [run_concat] at final ⊢
  rcases asks with rfl | rfl
  · simp only [Session.step, Session.note, List.getLast?_concat, Option.some.injEq] at final
    rw [← final] at headless
    exact decode_of_headless headless
  · simp only [Session.step, Session.note, List.getLast?_concat, Option.some.injEq] at final
    obtain ⟨found, left⟩ := headIn_decodeLast (run uses).buffer
    rw [← final, found] at headless
    obtain ⟨kept, ended⟩ := decode_of_headless headless
    exact ⟨left.trans kept, ended⟩

/-- What has come out when no more does depends on the bytes fed alone. -/
theorem Drains.agree {uses others : List Use} {last otherLast : Use} (drains : Drains uses last)
    (otherDrains : Drains others otherLast)
    (same : (run (uses ++ [last])).fed = (run (others ++ [otherLast])).fed) :
    (run (uses ++ [last])).heads = (run (others ++ [otherLast])).heads ∧
      (run (uses ++ [last])).buffer = (run (others ++ [otherLast])).buffer := by
  obtain ⟨kept, ended⟩ := drains.ended
  obtain ⟨otherKept, otherEnded⟩ := otherDrains.ended
  obtain ⟨used, spells, split⟩ := accounts_run (uses ++ [last])
  obtain ⟨otherUsed, otherSpells, otherSplit⟩ := accounts_run (others ++ [otherLast])
  rw [← kept] at ended
  rw [← otherKept] at otherEnded
  exact spells.unique otherSpells ended otherEnded (by rw [← split, ← otherSplit, same])

/-- The last answer, where the end of the stream makes no difference to it. -/
theorem Drains.answer_of_decided {uses : List Use} {last : Use} (drains : Drains uses last)
    (decided : ¬Open (run uses).buffer) :
    (run (uses ++ [last])).answers.getLast? = some (decode (run uses).buffer).1 := by
  rw [run_concat]
  rcases drains.1 with rfl | rfl
  · simp only [Session.step, Session.note, List.getLast?_concat]
  · simp only [Session.step, Session.note, List.getLast?_concat, decodeLast_of_not_open decided]

/-- The same buffer gives the same last answer, unless it is asked for in two ways where these
differ. -/
theorem Drains.answer_eq {uses others : List Use} {last otherLast : Use} (drains : Drains uses last)
    (otherDrains : Drains others otherLast)
    (same : (run (uses ++ [last])).buffer = (run (others ++ [otherLast])).buffer)
    (alike : last = otherLast ∨ ¬Open (run (uses ++ [last])).buffer) :
    (run (uses ++ [last])).answers.getLast? = (run (others ++ [otherLast])).answers.getLast? := by
  have before : (run uses).buffer = (run others).buffer := by
    rw [← drains.ended.1, ← otherDrains.ended.1, same]
  rcases alike with rfl | decided
  · rw [run_concat, run_concat]
    rcases drains.1 with rfl | rfl
    · simp only [Session.step, Session.note, List.getLast?_concat, before]
    · simp only [Session.step, Session.note, List.getLast?_concat, before]
  · rw [drains.ended.1] at decided
    have otherDecided : ¬Open (run others).buffer := by rwa [← before]
    rw [drains.answer_of_decided decided, otherDrains.answer_of_decided otherDecided, before]

/-- A head that is still open past the limit on its size. -/
def Overlong (bytes : Bytes) : Prop :=
  RequestHead.wholeHead bytes = .more ∧ RequestHead.sizeLimit < bytes.length

/-- Bytes that start no head are refused in the same way whatever follows. -/
theorem decode_append_of_error {bytes : Bytes} {failure : Failure}
    (failed : (decode bytes).1 = .error failure) (bounded : ¬Overlong bytes) (later : Bytes) :
    decode (bytes ++ later) = (.error failure, bytes ++ later) := by
  unfold decode at failed
  cases parsed : RequestHead.parse bytes with
  | done head rest => simp [parsed] at failed
  | failed reason =>
    simp only [parsed, Except.error.injEq] at failed
    subst failed
    rcases RequestHead.parse_eq_failed.1 parsed with malformed | ⟨undecided, long, -⟩
    · have stands := RequestHead.steady_wholeHead.failed malformed later
      have refused := RequestHead.parse_eq_failed.2 (.inl stands)
      simp only [decode, refused]
    · exact absurd ⟨undecided, long⟩ bounded
  | more => simp [parsed] at failed

namespace Session

/-- A session whose buffer is refused, whatever is fed behind it. -/
def Stuck (failure : Failure) (session : Session) : Prop :=
  ∀ later, HeadDecoder.decode (session.buffer ++ later) = (.error failure, session.buffer ++ later)

/-- What a session adds to another one is one error again and again, and bytes that stay. -/
structure Repeats (failure : Failure) (session later : Session) : Prop where
  answers : ∃ fresh, later.answers = session.answers ++ fresh ∧
    ∀ answer ∈ fresh, answer = .error failure
  arrived : ∃ bytes, later.buffer = session.buffer ++ bytes ∧ later.fed = session.fed ++ bytes

/-- Asking a stuck session gives its error and leaves its buffer. -/
theorem Stuck.ask {failure : Failure} {session : Session} (stuck : session.Stuck failure) :
    HeadDecoder.decode session.buffer = (.error failure, session.buffer) ∧
      HeadDecoder.decodeLast session.buffer = (.error failure, session.buffer) := by
  have asked := stuck []
  rw [List.append_nil] at asked
  have decided : ¬Open session.buffer := by
    rintro ⟨-, undecided⟩
    rw [asked] at undecided
    contradiction
  exact ⟨asked, (decodeLast_of_not_open decided).trans asked⟩

/-- A stuck session stays stuck until its buffer is emptied. -/
theorem Stuck.step {failure : Failure} {session : Session} (stuck : session.Stuck failure)
    {use : Use} (goes : use ≠ .reset) :
    (session.step use).Stuck failure ∧ session.Repeats failure (session.step use) := by
  have noted : ∀ decoded : Answer × Bytes, decoded = (.error failure, session.buffer) →
      (session.note decoded).Stuck failure ∧ session.Repeats failure (session.note decoded) := by
    rintro _ rfl
    refine ⟨stuck, ⟨[.error failure], rfl, by simp⟩, [], ?_, ?_⟩
    · exact (List.append_nil _).symm
    · exact (List.append_nil _).symm
  obtain ⟨asked, askedLast⟩ := stuck.ask
  cases use with
  | feed bytes =>
    refine ⟨fun later => ?_, ⟨[], (List.append_nil _).symm, by simp⟩, bytes, rfl, rfl⟩
    have stands := stuck (bytes ++ later)
    rwa [← List.append_assoc] at stands
  | decode => exact noted _ asked
  | decodeLast => exact noted _ askedLast
  | reset => exact absurd rfl goes

/-- What two stretches of steps add one after the other. -/
theorem Repeats.trans {failure : Failure} {first second third : Session}
    (front : first.Repeats failure second) (back : second.Repeats failure third) :
    first.Repeats failure third := by
  obtain ⟨⟨fresh, answers, same⟩, ⟨bytes, buffer, fed⟩⟩ := front
  obtain ⟨⟨fresher, laterAnswers, laterSame⟩, ⟨laterBytes, laterBuffer, laterFed⟩⟩ := back
  refine ⟨⟨fresh ++ fresher, ?_, ?_⟩, bytes ++ laterBytes, ?_, ?_⟩
  · rw [laterAnswers, answers, List.append_assoc]
  · intro answer member
    rcases List.mem_append.1 member with early | late
    · exact same answer early
    · exact laterSame answer late
  · rw [laterBuffer, buffer, List.append_assoc]
  · rw [laterFed, fed, List.append_assoc]

/-- A stuck session gives its error again and again. -/
theorem Stuck.run {failure : Failure} {session : Session} (stuck : session.Stuck failure)
    {more : List Use} (goes : .reset ∉ more) :
    session.Repeats failure (more.foldl Session.step session) := by
  induction more generalizing session with
  | nil =>
    refine ⟨⟨[], (List.append_nil _).symm, by simp⟩, [], ?_, ?_⟩
    · exact (List.append_nil _).symm
    · exact (List.append_nil _).symm
  | cons use more ih =>
    rw [List.mem_cons, not_or] at goes
    obtain ⟨stays, repeated⟩ := stuck.step (Ne.symm goes.1)
    exact repeated.trans (ih stays goes.2)

end Session

/-- A decoder keeps account of every byte. An answer without a head leaves the buffer as it is; the
end of the stream matters only for the start of a head; once heads were asked for until none came
out, the heads, the bytes left and the last answer depend on the bytes fed alone; and a refusal
stands, unless it is that of an overlong head. -/
theorem decoder_accounts :
    (∀ uses, (run uses).Accounts) ∧
      (∀ bytes, (headIn (decode bytes).1 = none → (decode bytes).2 = bytes) ∧
        (headIn (decodeLast bytes).1 = none → (decodeLast bytes).2 = bytes)) ∧
      (∀ bytes, (Open bytes → decodeLast bytes = (.error (.io .leftover), bytes)) ∧
        (¬Open bytes → decodeLast bytes = decode bytes)) ∧
      (∀ uses others last otherLast, Drains uses last → Drains others otherLast →
        (run (uses ++ [last])).fed = (run (others ++ [otherLast])).fed →
          (run (uses ++ [last])).heads = (run (others ++ [otherLast])).heads ∧
            (run (uses ++ [last])).buffer = (run (others ++ [otherLast])).buffer ∧
            (last = otherLast ∨ ¬Open (run (uses ++ [last])).buffer →
              (run (uses ++ [last])).answers.getLast? =
                (run (others ++ [otherLast])).answers.getLast?)) ∧
      ∀ uses more failure, (decode (run uses).buffer).1 = .error failure →
        ¬Overlong (run uses).buffer → .reset ∉ more →
          (run uses).Repeats failure (run (uses ++ more)) := by
  refine ⟨accounts_run, fun bytes => ⟨?_, ?_⟩, fun bytes => ⟨?_, ?_⟩, ?_, ?_⟩
  · exact fun headless => (decode_of_headless headless).1
  · intro headless
    obtain ⟨found, left⟩ := headIn_decodeLast bytes
    rw [found] at headless
    exact left.trans (decode_of_headless headless).1
  · exact decodeLast_of_open
  · exact decodeLast_of_not_open
  · intro uses others last otherLast drains otherDrains same
    obtain ⟨heads, buffer⟩ := drains.agree otherDrains same
    exact ⟨heads, buffer, drains.answer_eq otherDrains buffer⟩
  · intro uses more failure failed bounded goes
    have stuck : (run uses).Stuck failure := decode_append_of_error failed bounded
    have onward : run (uses ++ more) = more.foldl Session.step (run uses) := by
      simp [run, List.foldl_append]
    rw [onward]
    exact stuck.run goes

/-- Two heads, the second after an empty line, and the start of a third one. -/
def pipelined : Bytes :=
  .ofString "GET /a HTTP/1.1\r\nHost: a\r\n\r\n\r\nPOST /b HTTP/1.0\nContent-Length: 1\n\nGET"

/-- The bytes come in two parts, cut in a line end, and heads are asked for all the time. -/
def cutUses : List Use :=
  [.feed (pipelined.take 16), .decode, .feed (pipelined.drop 16), .decode, .decode]

/-- The bytes come at once. -/
def wholeUses : List Use := [.feed pipelined, .decodeLast, .decode]

/-- A head is found and one with two lengths is refused. -/
def refusedUses : List Use :=
  [.feed (.ofString "GET / HTTP/1.1\n\nGET / HTTP/1.1\nContent-Length: 1\nContent-Length: 2\n\n"),
    .decode]

/-- The two uses find the same two heads, and the refused head stays refused. -/
theorem accounts_pipelined :
    (run refusedUses).Accounts ∧ (decode (.ofString "GET")).2 = .ofString "GET" ∧
      decodeLast (.ofString "GET") = (.error (.io .leftover), .ofString "GET") ∧
      decodeLast pipelined = decode pipelined ∧
      (run (cutUses ++ [.decode])).heads = (run (wholeUses ++ [.decode])).heads ∧
      (run (cutUses ++ [.decode])).answers.getLast? =
        (run (wholeUses ++ [.decode])).answers.getLast? ∧
      (run refusedUses).Repeats (.malformed .conflictingLengths)
        (run (refusedUses ++ [.feed pipelined, .decode, .decodeLast])) := by
  obtain ⟨accounts, kept, ended, agree, stands⟩ := decoder_accounts
  have undecided : Open (.ofString "GET") := ⟨by decide +kernel, by decide +kernel⟩
  have decided : ¬Open pipelined := fun undecided => by
    have found : headIn (decode pipelined).1 ≠ none := by decide +kernel
    rw [undecided.2] at found
    exact found rfl
  have cutDrains : Drains cutUses .decode := ⟨.inl rfl, .ok none, by decide +kernel, rfl⟩
  have wholeDrains : Drains wholeUses .decode := ⟨.inl rfl, .ok none, by decide +kernel, rfl⟩
  obtain ⟨heads, -, answer⟩ := agree cutUses wholeUses .decode .decode cutDrains wholeDrains
    (by decide +kernel)
  refine ⟨accounts _, (kept _).1 (by decide +kernel), (ended _).1 undecided, (ended _).2 decided,
    heads, answer (.inl rfl), stands _ _ _ (by decide +kernel) ?_ (by decide)⟩
  rintro ⟨-, long⟩
  revert long
  decide +kernel

end TunnelBench.HeadDecoder
