import GatewayPing.Proofs.Session.Outcome
import GatewayPing.Proofs.Wire.Framing

/-! Streams survive the wire. A response brings a stream as the frames of its pongs, cut into chunks
in whatever way, and trailers that tell of a call that went well (`Response.Delivers`). A client to
which such a response comes gives exactly these pongs and then ends, and a session that is run over
the client reports them and completes. Main statement: `Client.stream_delivered`. -/
namespace GatewayPing

/-! The response. -/

/-- Headers that tell of a call that went well: the code of their status is zero, and what they say
with it, if anything, is a text. -/
structure Headers.TellOk (hs : Headers) : Prop where
  code : hs.first? statusHeader = some "0"
  message : ∃ message, Text.Utf8.decode (Text.Percent.decode (Text.Utf8.encode
    ((hs.first? messageHeader).getD ""))) = .ok message

/-- A code that comes without a message is enough. -/
theorem Headers.tellOk_of_silent {hs : Headers} (code : hs.first? statusHeader = some "0")
    (silent : hs.first? messageHeader = none) : hs.TellOk := by
  refine ⟨code, "", ?_⟩
  have empty : Text.Percent.decode (Text.Utf8.encode "") = Text.Utf8.encode "" :=
    Text.Percent.decode.eq_1
  rw [silent, Option.getD_none, empty, Text.Utf8.decode_encode]

theorem Headers.TellOk.status {hs : Headers} (fine : hs.TellOk) :
    ∃ message, Status.ofHeaders? hs = some ⟨.ok, message⟩ := by
  obtain ⟨message, readable⟩ := fine.message
  have zero : Code.ofText "0" = .ok := by decide
  refine ⟨message, ?_⟩
  simp only [Status.ofHeaders?, fine.code, Option.map_some, readable, zero]

/-- Trailers that tell of a call that went well end a body without a failure. -/
theorem Headers.TellOk.verdict {hs : Headers} (fine : hs.TellOk) (closing : Closing) :
    Body.verdict closing hs = none := by
  obtain ⟨message, told⟩ := fine.status
  cases closing with
  | settled => rfl
  | pending status => simp [Body.verdict, told]

/-- A response that brings a whole stream. Its status does not matter. -/
structure Response.Delivers (mode : Mode) (r : Response) (pongs : List StreamPong) : Prop where
  carries : r.Carries StreamPong.schema mode pongs
  plain : compression? r.headers.lowered = none
  /-- The headers do not say that the call failed. -/
  undecided : ∀ s ∈ Status.ofHeaders? r.headers.lowered, s.code = .ok
  trailers : ∃ hs, r.ending = .trailers hs ∧ hs.lowered.TellOk

namespace Response

variable {mode : Mode} {r : Response} {pongs : List StreamPong}

private theorem Delivers.opening (delivers : r.Delivers mode pongs) :
    ∃ closing, r.lowered.opening = .ok closing := by
  have plain : compression? r.lowered.headers = none := delivers.plain
  cases told : Status.ofHeaders? r.lowered.headers with
  | none => exact ⟨.pending r.lowered.status, by simp only [Response.opening, plain, told]⟩
  | some s =>
    have fine := delivers.undecided s told
    exact ⟨.settled, by simp only [Response.opening, plain, told, fine, ↓reduceIte]⟩

/-- A stream is read of a response as it was put into it. -/
theorem Delivers.stream (delivers : r.Delivers mode pongs) :
    r.lowered.stream mode = .ok ⟨r.headers.lowered, pongs.map .ok⟩ := by
  obtain ⟨closing, opened⟩ := delivers.opening
  obtain ⟨hs, ending, fine⟩ := delivers.trailers
  have carries : r.lowered.Carries StreamPong.schema mode pongs :=
    ⟨delivers.carries.frames, delivers.carries.short⟩
  have ended : r.lowered.ending = .trailers hs.lowered := by simp only [lowered, ending]
  have read := carries.read StreamPong.schema_lawful closing
  rw [ended, Body.conclude, fine.verdict closing] at read
  simp only [Response.stream, opened, read, Received.items, Option.toList_none, List.map_nil,
    List.append_nil]
  rfl

end Response

/-! The session. -/

namespace Trace

/-- What a stream brings all of whose pongs are there at once. -/
theorem ofReply_pongs (time : Nat) (pongs : List StreamPong) :
    ofReply (.after time (.ok (.ofItems (pongs.map .ok)))) =
      pongs.map (fun p => (time, .pong p)) ++ [(time, .ended .completed)] := by
  show ofItems false time ((pongs.map .ok).map fun item => (0, item)) = _
  induction pongs with
  | nil => rfl
  | cons p pongs ih => exact congrArg ((time, SessionEvent.pong p) :: ·) ih

end Trace

namespace Session

/-- A run that reports some pongs and completes, all at one time. -/
structure Run.Completes (run : Run) (s : Session) (pongs : List StreamPong) (time : Nat) :
    Prop where
  /-- The pongs are reported in their order, and after them only the end. -/
  trace : run.trace = pongs.map (fun p => (time, .pong p)) ++ [(time, .ended .completed)]
  final : run.final = { s with state := .done .completed, received := pongs.length }
  result : run.course.result? = some (time, run.final, .ok .completed)
  notices : run.course.notices = pongs.map StreamPong.told

variable {τ : Type} [Transport τ] {s : Session} {t : τ} {pongs : List StreamPong} {time : Nat}

theorem lastArrival_at_once (time : Nat) (pongs : List StreamPong) :
    Script.lastArrival time (pongs.map fun p => (0, p)) = time := by
  induction pongs with
  | nil => rfl
  | cons p pongs ih => exact ih

/-- A session whose call is answered by pongs that are all there at once. -/
theorem run_completes (idle : s.Idle) (live : s.cancelled = false)
    (answer : (Transport.stream t s.request s.headers).1 =
      .after time (.ok (.ofItems (pongs.map .ok)))) :
    ∃ run : Run, s.run t none = (.ok run, (Transport.stream t s.request s.headers).2) ∧
      run.Completes s pongs time := by
  have reply : Script.reply (.completed (pongs.map fun p => (0, p))) =
      .ok (.ofItems (pongs.map .ok)) := by
    simp [Script.reply, Script.item, Feed.ofItems, Function.comp_def]
  have scripted : (Transport.stream t s.request s.headers).1 =
      .after time (Script.reply (.completed (pongs.map fun p => (0, p)))) := by rw [answer, reply]
  have plays := plays_script idle live scripted
  refine ⟨⟨s.started, (s.trace t none).1⟩, ?_, ?_, ?_, ?_, ?_⟩
  · rw [run_idle idle.state, trace_transport idle.state live (by simp)]
  · simp only [trace_script idle.state live scripted, reply, Trace.ofReply_pongs]
  · simpa [Script.pongs, Script.verdict] using plays.final
  · simpa [Script.endTime, lastArrival_at_once, Script.verdict] using plays.result
  · simpa [Script.pongs, Script.verdict, Function.comp_def] using plays.notices

end Session

/-! The client. -/

namespace Client

variable {σ : Type} [Service σ] {c : Client σ} {path : String} {headers : Headers}
  {message : Bytes} {r : Response} {delay : Nat} {service : σ}

/-- A response comes to a request: the service is ready, the headers are in order, and the response
is there in time. -/
structure Answered (c : Client σ) (path : String) (headers : Headers) (message : Bytes)
    (r : Response) (delay : Nat) (service : σ) : Prop where
  ready : Service.fault c.service = none
  answer : ∃ collected, Metadata.collect [] headers = .ok collected ∧
    Service.call c.service (request path collected message) = (.after delay (.ok r), service)
  inTime : ∀ limit ∈ c.timeout, delay ≤ limit

theorem Answered.exchange (answered : c.Answered path headers message r delay service) :
    c.exchange path headers message = (.after delay (.ok r.lowered), { c with service }) := by
  obtain ⟨collected, valid, answer⟩ := answered.answer
  have taken : (Eventual.after delay (.ok r) : Eventual (Except Status Response)).within c.timeout
      (.error .tooLate) = .after delay (.ok r) := by
    cases limit : c.timeout with
    | none => rfl
    | some t => exact if_pos (answered.inTime t limit)
  simp only [Client.exchange, answered.ready, valid, answer, taken]
  rfl

/-- A stream survives the wire, in each encoding and however its frames are cut into chunks: the
client gives exactly the pongs that were sent, in their order, and then ends; and a session that is
run over the client reports exactly these pongs and completes. -/
theorem stream_delivered {ping : StreamPing} {pongs : List StreamPong}
    (delivers : r.Delivers c.mode pongs)
    (answered : c.Answered streamingPath headers (StreamPing.schema.encode c.mode ping) r delay
      service) :
    c.stream ping headers =
        (.after delay (.ok ⟨r.headers.lowered, pongs.map .ok⟩), { c with service }) ∧
      ∀ s : Session, s.Idle → s.cancelled = false → s.request = ping → s.headers = headers →
        ∃ run : Session.Run, s.run c none = (.ok run, { c with service }) ∧
          run.Completes s pongs delay := by
  have streamed : c.stream ping headers =
      (.after delay (.ok ⟨r.headers.lowered, pongs.map .ok⟩), { c with service }) := by
    rw [stream, answered.exchange]
    simp only [Eventual.map, Except.bind, delivers.stream]
  refine ⟨streamed, ?_⟩
  rintro s idle live rfl rfl
  have answer : Transport.stream c s.request s.headers =
      (.after delay (.ok (.ofItems (pongs.map .ok))), { c with service }) := by
    simp only [Transport.stream, streamed]
    rfl
  obtain ⟨run, ran, completes⟩ := Session.run_completes (t := c) idle live (congrArg (·.1) answer)
  rw [answer] at ran
  exact ⟨run, ran, completes⟩

/-- Two pongs whose frames are cut in the first length, and again in the text that follows. -/
theorem stream_delivered_cut :
    let pongs : List StreamPong := [⟨1700, "svc-a"⟩, ⟨-1, "say \"b\""⟩]
    let body := pongs.flatMap fun p => Frame.wrap (StreamPong.schema.encode .text p)
    let chunks := [body.take 3, [], (body.drop 3).take 9, (body.drop 3).drop 9]
    let r : Response := ⟨200, [("Server", "gateway")], chunks, .trailers [("grpc-status", "0")]⟩
    let service : Playback := ⟨none, [.response r]⟩
    let c : Client Playback := ⟨service, .text, some 100⟩
    let s := Session.create 2 1700 .default ⟨0⟩
    r.Delivers .text pongs ∧
      c.Answered streamingPath s.headers (StreamPing.schema.encode .text s.request) r 0 service ∧
      ∃ run : Session.Run, s.run c none = (.ok run, c) ∧ run.Completes s pongs 0 := by
  intro pongs body chunks r service c s
  have frames : chunks.flatten = body := by
    simp only [chunks, List.flatten_cons, List.flatten_nil, List.nil_append, List.append_nil,
      List.take_append_drop]
  have delivers : r.Delivers .text pongs :=
    { carries := ⟨frames, by decide⟩
      plain := by decide
      undecided := by decide
      trailers := ⟨_, rfl, Headers.tellOk_of_silent (by decide) (by decide)⟩ }
  have answered : c.Answered streamingPath s.headers (StreamPing.schema.encode .text s.request) r 0
      service := ⟨rfl, ⟨_, rfl, rfl⟩, by decide⟩
  exact ⟨delivers, answered, (stream_delivered delivers answered).2 s
    (Session.create_idle 2 1700 .default ⟨0⟩) rfl rfl rfl⟩

end Client
end GatewayPing
