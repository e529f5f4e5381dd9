import TunnelBench.Proofs.Request.Asking
import TunnelBench.Proofs.Server.Outlook

/-!
# What a server of files answers

A handler that serves a library reads nothing: what it sends and logs depends on the path
alone. Behind a server the path is the request target cut before its query or fragment, so
the method, the version, the headers and all that follows the head make no difference.
-/
namespace TunnelBench

namespace Handler

/-- What a library answers does not depend on the source, which is left as it is. -/
theorem proxy_files_reads_nothing (library : Library) (descriptor : Descriptor) (sink : Sink)
    (events : List Event) :
    ∃ outcome later logged, ∀ source,
      Transfer.run ((Handler.files library).proxy descriptor) ⟨source, sink, events⟩ =
        (outcome, ⟨source, later, logged⟩) := by
  simp only [proxy, run_answerFrom_eq, Transfer.run_bind, Transfer.run_send, Transfer.run_flush]
  cases sink.writeAll .nothingWritten (answered library descriptor.path) with
  | mk outcome later =>
    cases outcome with
    | error failure =>
      exact ⟨.error failure, later, events ++ noted library descriptor, fun source => rfl⟩
    | ok done =>
      exact ⟨later.flush.1, later.flush.2, events ++ noted library descriptor, fun source => rfl⟩

/-- A sink that takes everything gets the whole answer. -/
theorem run_files_accepting (library : Library) (descriptor : Descriptor) {exchange : Exchange}
    (accepting : exchange.sink.Accepting) :
    ∃ later : Sink, later.written.toList =
        exchange.sink.written.toList ++ answered library descriptor.path ∧
      Transfer.run ((Handler.files library).proxy descriptor) exchange =
        (.ok (), { exchange with
          sink := later
          events := exchange.events ++ noted library descriptor }) := by
  obtain ⟨later, taken, laterAccepting, written⟩ :=
    accepting.writeAll .nothingWritten (answered library descriptor.path)
  refine ⟨{ later with flushed := true }, written, ?_⟩
  simp only [proxy, run_answerFrom_eq, Transfer.run_bind, Transfer.run_send, taken,
    Transfer.run_flush, laterAccepting.flush]

end Handler

namespace Connection

/-- There is one path in a target. -/
theorem IsPathOf.eq_pathOf {path target : String} (cut : IsPathOf path target) :
    path = pathOf target := by
  have plain : ∀ char ∈ path.toList, isPlain char = true := by
    intro char member
    have clean := cut.clean char member
    simp [isPlain, clean]
  have front : (pathOf target).toList = target.toList.takeWhile isPlain := String.toList_ofList
  apply String.toList_inj.1
  rw [front]
  obtain rfl | ⟨mark, later, marked, split⟩ := cut.cut
  · have whole : (path.toList ++ []).takeWhile isPlain = path.toList ++ [].takeWhile isPlain :=
      List.takeWhile_append_of_pos plain
    simpa using whole.symm
  · have stops : ¬isPlain mark = true := by
      rcases marked with rfl | rfl <;> decide
    rw [split, List.takeWhile_append_of_pos plain, List.takeWhile_cons_of_neg stops,
      List.append_nil]

/-- What a server of files gives a client that asks for a path. -/
structure Answers (library : Library) (path : String) (served : Served) : Prop where
  outcome : served.outcome = .ok ()
  /-- A path with a response gets it, and nothing is logged. -/
  hit : ∀ response, library.get? path = some response →
    served.sent = response ∧ served.events = []
  /-- Any other path gets the one answer without a body, and one warning that names the path. -/
  miss : library.get? path = none →
    served.sent = .ofString "HTTP/1.0 404 Not Found\r\nContent-Length: 0\r\n\r\n" ∧
      ∃ event, served.events = [event] ∧ event.severity = .warning ∧
        event.message = "Resource not found" ∧
        event.fields = [("descriptor", if path = "" then "http" else "http " ++ path)]

/-- What is served to a client that asks a server of files for a target. -/
theorem run_files {config : ServerConfig} (http : config.protocol = .http) (library : Library)
    {source : Source} {target : String}
    (found : (Request.readTarget source).outcome = .ok target) :
    run config (.files library) source =
      ⟨Handler.answered library (pathOf target),
        Handler.noted library (.http (pathOf target)), .ok ()⟩ := by
  have introduced := introduce_http_of_ok found
  rw [← http] at introduced
  rw [run_of_introduce_ok introduced]
  have accepting : (Exchange.mk (Source.replay (Request.readTarget source).waiting
      (Request.readTarget source).source) {} []).sink.Accepting := Sink.accepting_empty
  obtain ⟨later, written, result⟩ :=
    Handler.run_files_accepting library (.http (pathOf target)) accepting
  rw [result]
  simp only [written]
  rfl

/-- The text of a request for a path in messages. -/
theorem text_http (path : String) :
    (Descriptor.http path).text = if path = "" then "http" else "http " ++ path := by
  unfold Descriptor.text Descriptor.http
  by_cases empty : path = ""
  · subst empty
    rfl
  · have given : path.isEmpty = false := by
      rw [Bool.eq_false_iff, Ne, String.isEmpty_iff]
      exact empty
    simp only [given, if_neg empty]
    rfl

/-- What is served for a path is an answer for it. -/
theorem answers_of_path (library : Library) (path : String) :
    Answers library path
      ⟨Handler.answered library path, Handler.noted library (.http path), .ok ()⟩ where
  outcome := rfl
  hit response stored := by
    have asked : library.get? (Descriptor.http path).path = some response := stored
    simp only [Handler.answered, stored, Handler.noted, asked, Served.events]
    exact ⟨rfl, rfl⟩
  miss absent := by
    have asked : library.get? (Descriptor.http path).path = none := absent
    simp only [Handler.answered, absent, Handler.noted, asked, Served.events]
    refine ⟨rfl, .resourceMissing (.http path), rfl, rfl, rfl, ?_⟩
    rw [Event.fields, text_http]

/-- A server of files answers by the path of the request alone. Two clients that ask for the same
path are served the same; the handler reads nothing; a head that has arrived is answered whatever
comes behind it; and every path of visible characters can be asked for, with any query or
fragment behind it. -/
theorem served_by_path {config : ServerConfig} (http : config.protocol = .http)
    (library : Library) :
    (∀ source target path, (Request.readTarget source).outcome = .ok target →
        IsPathOf path target → Answers library path (run config (.files library) source)) ∧
      (∀ source target other otherTarget path, (Request.readTarget source).outcome = .ok target →
        (Request.readTarget other).outcome = .ok otherTarget → IsPathOf path target →
          IsPathOf path otherTarget →
            run config (.files library) source = run config (.files library) other) ∧
      (∀ descriptor sink events, ∃ outcome later logged, ∀ source,
        Transfer.run ((Handler.files library).proxy descriptor) ⟨source, sink, events⟩ =
          (outcome, ⟨source, later, logged⟩)) ∧
      (∀ start head behind path (pieces after : Source),
        RequestHead.parse start = .done head [] → start.length ≤ RequestHead.sizeLimit →
          IsPathOf path head.target → pieces.Delivers (start ++ behind) →
            Answers library path (run config (.files library) (pieces ++ after))) ∧
      ∀ (asking : Asking) key response behind (pieces after : Source),
        asking.bytes.length ≤ RequestHead.sizeLimit → IsPathOf key asking.target →
          library.get? key = some response → pieces.Delivers (asking.bytes ++ behind) →
            (run config (.files library) (pieces ++ after)).sent = response ∧
              (run config (.files library) (pieces ++ after)).events = [] := by
  have answered : ∀ source target path, (Request.readTarget source).outcome = .ok target →
      IsPathOf path target → Answers library path (run config (.files library) source) := by
    intro source target path found cut
    rw [run_files http library found, ← cut.eq_pathOf]
    exact answers_of_path library path
  -- A head that has arrived gives its target away before anything behind it is looked at.
  have fronted : ∀ start head behind path (pieces after : Source),
      RequestHead.parse start = .done head [] → start.length ≤ RequestHead.sizeLimit →
        IsPathOf path head.target → pieces.Delivers (start ++ behind) →
          Answers library path (run config (.files library) (pieces ++ after)) := by
    intro start head behind path pieces after parsed short cut delivers
    obtain ⟨full, arrived⟩ := delivers
    have found := Request.readTarget_of_front parsed short full arrived after
    exact answered _ _ path found cut
  refine ⟨answered, ?_, Handler.proxy_files_reads_nothing library, fronted, ?_⟩
  · intro source target other otherTarget path found otherFound cut otherCut
    rw [run_files http library found, run_files http library otherFound, ← cut.eq_pathOf,
      ← otherCut.eq_pathOf]
  · intro asking key response behind pieces after short cut stored delivers
    have answers := fronted asking.bytes asking.head behind key pieces after asking.parse_bytes
      short cut delivers
    exact answers.hit response stored

/-- A head that asks for a file, with a query, a framing that needs chunks and an escaped slash. -/
def queryAsking : Asking where
  method := .ofString "PATCH"
  target := "/t/a%2F?b#c"
  minor := Fin.last 1
  lines := .ofString "Transfer-Encoding: chunked\r\n\r\n"
  headers := [⟨.ofString "Transfer-Encoding", .ofString "chunked"⟩]
  framing := .chunked
  methodGiven := by decide +kernel
  methodToken := List.all_eq_true.1 (by decide +kernel)
  targetGiven := by decide +kernel
  targetVisible := by
    have checked : "/t/a%2F?b#c".toList.all
        (fun char => 33 ≤ char.toNat ∧ char.toNat ≤ 126) = true := by decide +kernel
    exact fun char member => of_decide_eq_true (List.all_eq_true.1 checked char member)
  read := by decide +kernel
  judged := rfl

/-- A library with one file. -/
def oneFile : Library := ⟨.ofString "/t", [("/t/a%2F", .ofString "A")]⟩

/-- The head arrives byte by byte, with the start of a malformed body behind it. -/
def queryPieces : Source := (queryAsking.bytes ++ .ofString "zz").map fun byte => .data [byte]

/-- The file is sent though the body is malformed and the stream then fails, and another library
refuses the same request. -/
theorem served_queryAsking :
    ({} : ServerConfig).protocol = .http ∧
      queryAsking.bytes.length ≤ RequestHead.sizeLimit ∧
      IsPathOf "/t/a%2F" queryAsking.target ∧
      oneFile.get? "/t/a%2F" = some (.ofString "A") ∧
      queryPieces.Delivers (queryAsking.bytes ++ .ofString "zz") ∧
      (Request.readTarget (queryPieces ++ [.fault .silent])).outcome = .ok queryAsking.target ∧
      (run {} (.files oneFile) (queryPieces ++ [.fault .silent])).sent = .ofString "A" ∧
      Answers ⟨[], []⟩ "/t/a%2F" (run {} (.files ⟨[], []⟩) (queryPieces ++ [.fault .silent])) := by
  have short : queryAsking.bytes.length ≤ RequestHead.sizeLimit := by decide +kernel
  have cut : IsPathOf "/t/a%2F" queryAsking.target := isPathOf_pathOf queryAsking.target
  have stored : oneFile.get? "/t/a%2F" = some (.ofString "A") := by decide +kernel
  have delivers : queryPieces.Delivers (queryAsking.bytes ++ .ofString "zz") :=
    Source.delivers_bytewise _
  have found := Request.readTarget_of_front queryAsking.parse_bytes short delivers.1 delivers.2
    [.fault .silent]
  have http : ({} : ServerConfig).protocol = .http := rfl
  obtain ⟨-, -, -, -, asked⟩ := served_by_path http oneFile
  have served := asked queryAsking "/t/a%2F" _ _ _ [.fault .silent] short cut stored delivers
  obtain ⟨answered, -⟩ := served_by_path http ⟨[], []⟩
  exact ⟨http, short, cut, stored, delivers, found, served.1, answered _ _ _ found cut⟩

end Connection
end TunnelBench
