import GatewayPing.Dispatcher
import GatewayPing.Proofs.Wire.Completion
import GatewayPing.Proofs.Wire.Statuses

/-! Statuses reach the user as they were told. A response may tell of a failed call in its headers or
in its trailers, and may have brought messages before. Whichever it is, and whichever kind of call
it was, the code and the message come out unchanged: in the result, in the one notification about
the failure, and in the final state of a session. Main statement: `Dispatcher.status_verbatim`. -/
namespace GatewayPing

/-! Responses. -/

namespace Response

variable {α : Type} {schema : Schema α} {mode : Mode} {r : Response} {messages : List α} {s : Status}

/-- A response whose headers tell of a status. -/
structure ToldAhead (r : Response) (s : Status) : Prop where
  plain : compression? r.headers.lowered = none
  told : r.headers.lowered.Tell s

/-- A response that brings messages, and whose trailers tell of a status. The headers say nothing
about it. -/
structure ToldAfter (schema : Schema α) (mode : Mode) (r : Response) (messages : List α)
    (s : Status) : Prop where
  plain : compression? r.headers.lowered = none
  silent : r.headers.lowered.first? statusHeader = none
  frames : Frame.Holds (schema.decode mode) r.chunks.flatten messages []
  trailers : ∃ hs, r.ending = .trailers hs ∧ hs.lowered.Tell s

private theorem ToldAhead.opening (ahead : r.ToldAhead s) (failed : s.code ≠ .ok) :
    r.lowered.opening = .error s := by
  have plain : compression? r.lowered.headers = none := ahead.plain
  have told : Status.ofHeaders? r.lowered.headers = some s := ahead.told.status
  simp only [Response.opening, plain, told, failed, ↓reduceIte]

private theorem ToldAfter.opening (after : r.ToldAfter schema mode messages s) :
    r.lowered.opening = .ok (.pending r.lowered.status) :=
  opening_pending after.plain after.silent

/-- The messages are read, and then the status. -/
theorem ToldAfter.read (after : r.ToldAfter schema mode messages s) (failed : s.code ≠ .ok) :
    ∃ hs, r.lowered.read (schema.decode mode) (.pending r.lowered.status) =
      ⟨messages, some s, hs⟩ := by
  obtain ⟨hs, ending, told⟩ := after.trailers
  have ended : r.lowered.ending = .trailers hs.lowered := by simp only [lowered, ending]
  have frames : Frame.Holds (schema.decode mode) r.lowered.chunks.flatten messages [] :=
    after.frames
  refine ⟨hs.lowered, ?_⟩
  rw [read_holds frames, ended, Body.conclude, Body.verdict, told.status]
  simp only [failed, ↓reduceIte]

/-- A single call fails with the status even if its answer was there already. -/
theorem single_told (failed : s.code ≠ .ok)
    (told : r.ToldAhead s ∨ ∃ pongs, r.ToldAfter Pong.schema mode pongs s) :
    r.lowered.single mode = .error (.status s) := by
  rcases told with ahead | ⟨pongs, after⟩
  · simp only [single, ahead.opening failed]
  · obtain ⟨hs, read⟩ := after.read failed
    simp only [single, after.opening, read]

theorem ToldAhead.stream (ahead : r.ToldAhead s) (failed : s.code ≠ .ok) :
    r.lowered.stream mode = .error (.status s) := by
  simp only [Response.stream, ahead.opening failed]

private theorem ToldAfter.stream {pongs : List StreamPong}
    (after : r.ToldAfter StreamPong.schema mode pongs s) (failed : s.code ≠ .ok) :
    r.lowered.stream mode = .ok ⟨r.headers.lowered, pongs.map .ok ++ [.error s]⟩ := by
  obtain ⟨hs, read⟩ := after.read failed
  simp only [Response.stream, after.opening, read, Received.items, Option.toList_some,
    List.map_cons, List.map_nil]
  rfl

end Response

/-! What the user sees. -/

/-- An operation that ends with a failure, of which the user is told and of nothing else. -/
structure Course.FailsWith {α : Type} (course : Course (Except OperationError α)) (f : Failure)
    (time : Nat) : Prop where
  notices : course.notices = [f.told]
  result : course.result? = some (time, .error (.failed f))

/-- A run that reports some pongs in their order and ends with a failure. -/
structure Session.Run.FailsWith (run : Run) (s : Session) (pongs : List StreamPong) (f : Failure)
    (time : Nat) : Prop where
  notices : run.course.notices = pongs.map StreamPong.told ++ [f.told]
  result : run.course.result? = some (time, run.final, .error (.failed f))
  final : run.final = { s with state := .done (.failed f.reported), received := pongs.length }

namespace Session

variable {τ : Type} [Transport τ] {s : Session} {t : τ} {time : Nat} {status : Status}

/-- A session whose call is turned down. -/
theorem run_rejected (idle : s.Idle) (live : s.cancelled = false)
    (answer : (Transport.stream t s.request s.headers).1 = .after time (.error (.status status))) :
    (⟨s.started, (s.trace t none).1⟩ : Run).FailsWith s [] (.rejected status) time := by
  have plays : (⟨s.started, (s.trace t none).1⟩ : Run).Plays s (.rejected status) time :=
    plays_script idle live answer
  exact ⟨plays.notices, plays.result, plays.final⟩

/-- A session whose stream breaks off after some pongs that are all there at once. -/
theorem run_broken (idle : s.Idle) (live : s.cancelled = false) {pongs : List StreamPong}
    (answer : (Transport.stream t s.request s.headers).1 =
      .after time (.ok (.ofItems (pongs.map .ok ++ [.error status])))) :
    (⟨s.started, (s.trace t none).1⟩ : Run).FailsWith s pongs (.broken status) time := by
  let script : Script := .broken (pongs.map (0, ·)) 0 status ⟨[], false⟩
  have reply : script.reply = .ok (.ofItems (pongs.map .ok ++ [.error status])) := by
    simp [script, Script.reply, Script.item, Feed.ofItems, Function.comp_def]
  have plays : (⟨s.started, (s.trace t none).1⟩ : Run).Plays s script time :=
    plays_script idle live (by rw [answer, reply])
  constructor
  case notices =>
    have notices := plays.notices
    rw [show script.pongs = pongs.map (0, ·) from rfl, List.map_map] at notices
    exact notices
  case result =>
    have result := plays.result
    rw [show script.endTime time = time from lastArrival_at_once time pongs] at result
    exact result
  case final =>
    have final := plays.final
    rw [show script.pongs = pongs.map (0, ·) from rfl, List.length_map] at final
    exact final

end Session

namespace Client

variable {σ : Type} [Service σ] {c : Client σ} {method : Method} {ping : Ping} {hs : Headers}
  {r : Response} {delay : Nat} {service : σ}

/-- What a single call brings is what its response holds. -/
theorem Answered.single
    (answered : c.Answered method.path hs (Ping.schema.encode c.mode ping) r delay service) :
    Transport.unary c method ping hs =
      (.after delay ((r.lowered.single c.mode).map (·.body)), { c with service }) := by
  simp only [Transport.unary, unary, answered.exchange]
  rfl

end Client

namespace Dispatcher

variable {σ : Type} [Service σ] {d : Dispatcher (Client σ)} {mode : Mode} {r : Response}
  {delay : Nat} {service : σ} {s : Status}

/-- What becomes of a status that a response tells of, by the kind of the call to which the response
comes. -/
structure Verbatim (d : Dispatcher (Client σ)) (mode : Mode) (r : Response) (delay : Nat)
    (service : σ) (s : Status) : Prop where
  /-- A single call is rejected, and no pong is reported, even if one arrived. -/
  single : ∀ (method : Method) (raw : String) (t : Int64), Input.timestamp? raw = some t →
    (d.transports.select mode).Answered method.path d.config.unaryHeaders
      (Ping.schema.encode (d.transports.select mode).mode ⟨t⟩) r delay service →
    (r.ToldAhead s ∨
      ∃ pongs, r.ToldAfter Pong.schema (d.transports.select mode).mode pongs s) →
    (d.unary method raw mode).1.FailsWith (.rejected s) delay
  /-- A stream is rejected if the headers tell of the status. -/
  rejected : ∀ session : Session, session.Idle → session.cancelled = false →
    (d.transports.select mode).Answered streamingPath session.headers
      (StreamPing.schema.encode (d.transports.select mode).mode session.request) r delay service →
    r.ToldAhead s →
    ∃ run, d.runSession session mode none =
        (.ok run, d.update mode { d.transports.select mode with service }) ∧
      run.FailsWith session [] (.rejected s) delay
  /-- If the trailers do, all pongs before them are reported, and then the stream is broken. -/
  broken : ∀ session : Session, session.Idle → session.cancelled = false →
    (d.transports.select mode).Answered streamingPath session.headers
      (StreamPing.schema.encode (d.transports.select mode).mode session.request) r delay service →
    ∀ pongs, r.ToldAfter StreamPong.schema (d.transports.select mode).mode pongs s →
    ∃ run, d.runSession session mode none =
        (.ok run, d.update mode { d.transports.select mode with service }) ∧
      run.FailsWith session pongs (.broken s) delay

/-- Code and message of a failure are passed on as they are, by whichever way they come. -/
theorem status_verbatim (d : Dispatcher (Client σ)) (mode : Mode) (r : Response) (delay : Nat)
    (service : σ) (failed : s.code ≠ .ok) : d.Verbatim mode r delay service s where
  single method raw t typed answered told := by
    have called := answered.single
    rw [Response.single_told failed told] at called
    simp only [unary, typed, called]
    exact ⟨congrArg ([·]) (Failure.told_eq (.rejected s)), rfl⟩
  rejected session idle live answered ahead := by
    have called := answered.streamed
    rw [ahead.stream failed] at called
    refine ⟨_, ?_, Session.run_rejected idle live (congrArg (·.1) called)⟩
    rw [runSession_idle idle.state, Session.trace_transport idle.state live (by simp), called]
  broken session idle live answered pongs after := by
    have called := answered.streamed
    rw [after.stream failed] at called
    refine ⟨_, ?_, Session.run_broken idle live (congrArg (·.1) called)⟩
    rw [runSession_idle idle.state, Session.trace_transport idle.state live (by simp), called]

/-- A pong, and then a status with a message that has to be escaped. -/
theorem status_verbatim_not_found :
    let s : Status := ⟨.notFound, "naïve, 100% \"sure\""⟩
    let p : StreamPong := ⟨1700, "svc-a"⟩
    let r := Gateway.delivery [] [StreamPong.schema.encode .text p] s
    let service : Playback := ⟨none, [.response r]⟩
    let d : Dispatcher (Client Playback) := ⟨⟨⟨service, .text, none⟩, ⟨service, .binary, none⟩⟩,
      .default⟩
    let session := Session.create 3 1700 .default ⟨0⟩
    s.code ≠ .ok ∧ r.ToldAfter StreamPong.schema .text [p] s ∧
      ∃ run, d.runSession session .text none = (.ok run, d) ∧
        run.FailsWith session [p] (.broken s) 0 := by
  intro s p r service d session
  have failed : s.code ≠ .ok := by decide
  have decoded : StreamPong.schema.decode .text (StreamPong.schema.encode .text p) = .ok p :=
    Schema.decode_encode_of_short StreamPong.schema_lawful (by decide)
  have frames : Frame.Holds (StreamPong.schema.decode .text) r.chunks.flatten [p] [] :=
    .message (by decide) decoded (.rest [])
  have told : (Gateway.statusHeaders s).lowered.Tell s :=
    s.statusHeaders_lowered.symm ▸ s.statusHeaders_tell
  have after : r.ToldAfter StreamPong.schema .text [p] s :=
    ⟨by decide, by decide, frames, _, rfl, told⟩
  have answered : (d.transports.select .text).Answered streamingPath session.headers
      (StreamPing.schema.encode .text session.request) r 0 service :=
    ⟨rfl, ⟨_, rfl, rfl⟩, by simp [d, TransportPair.select]⟩
  exact ⟨failed, after, (status_verbatim d .text r 0 service failed).broken session
    (Session.create_idle 3 1700 .default ⟨0⟩) rfl answered [p] after⟩

end Dispatcher
end GatewayPing
