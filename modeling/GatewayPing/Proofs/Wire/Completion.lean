import GatewayPing.Proofs.Session.Cancellation
import GatewayPing.Proofs.Wire.Delivery
import GatewayPing.Proofs.Wire.Leftovers

/-! What it means that a session completes. The body of the response then begins with the frames of
the pongs that were reported, and the response told that the call went well. The body need not
consist of these frames alone: less than a frame may be left of it, and then a stream that was cut
off inside a frame completes. Main statement: `Client.completed_pongs`. -/
namespace GatewayPing

/-! Responses. -/

private theorem Code.ofText_ok {text : String} (fine : Code.ofText text = .ok) : text = "0" := by
  have zero : ∀ n ∈ ([0, 1, 2, 3, 4, 5, 6, 7, 8, 9, 10, 11, 12, 13, 14, 15, 16] : List Nat),
      Code.ofNumber n = .ok → n = 0 := by decide
  unfold Code.ofText at fine
  split at fine
  · rename_i n found
    have same : toString n = text := by simpa using List.find?_some found
    obtain rfl := zero n (List.mem_of_find?_eq_some found) fine
    exact same.symm
  · cases fine

/-- Headers tell that a call went well if their status says so. -/
theorem Headers.tellOk_of_status {hs : Headers} {s : Status} (told : Status.ofHeaders? hs = some s)
    (fine : s.code = .ok) : hs.TellOk := by
  obtain ⟨code, found, same⟩ := Option.map_eq_some_iff.mp told
  split at same
  · rename_i message readable
    cases same
    obtain rfl := Code.ofText_ok fine
    exact ⟨found, message, readable⟩
  · cases same
    cases fine

/-- Where the outcome is open the trailers have to tell that the call went well. -/
theorem Body.tellOk_of_verdict {status : Nat} {hs : Headers}
    (fine : verdict (.pending status) hs = none) : hs.TellOk := by
  cases told : Status.ofHeaders? hs with
  | none => simp [verdict, told] at fine
  | some s => exact Headers.tellOk_of_status told (by simpa [verdict, told] using fine)

namespace Response

variable {r : Response} {closing : Closing} {rest : Bytes}

/-- A response that closes as if all went well, with some bytes left of its body. -/
inductive Closed (r : Response) : Bytes → Prop where
  /-- The status may come in the trailers, -/
  | trailers {hs : Headers} {rest : Bytes} (silent : r.headers.lowered.first? statusHeader = none)
      (ending : r.ending = .trailers hs) (fine : hs.lowered.TellOk) : Closed r rest
  /-- or already in the headers, whatever the trailers say then. -/
  | settled {hs : Headers} {rest : Bytes} (fine : r.headers.lowered.TellOk)
      (ending : r.ending = .trailers hs) : Closed r rest
  /-- Without trailers nothing may be left, -/
  | bare (fine : r.headers.lowered.TellOk) (ending : r.ending = .bare) : Closed r []
  /-- except the start of a frame whose message never comes. -/
  | bareStart {n : Nat} (fine : r.headers.lowered.TellOk) (ending : r.ending = .bare)
      (accepted : n ≤ Frame.maxLength) (waits : 0 < n) : Closed r (0 :: Frame.lengthBytes n)

/-- The body of a response is read if it is not compressed and the headers do not tell of a failure.
Whether they tell that the call went well decides who has to. -/
theorem opening_ok (opened : r.opening = .ok closing) :
    compression? r.headers = none ∧
      (closing = .settled ∧ r.headers.TellOk ∨
        closing = .pending r.status ∧ r.headers.first? statusHeader = none) := by
  unfold opening at opened
  split at opened
  · cases opened
  · rename_i plain
    refine ⟨plain, ?_⟩
    split at opened
    · rename_i silent
      cases opened
      exact .inr ⟨rfl, Option.map_eq_none_iff.mp silent⟩
    · rename_i s told
      split at opened
      · rename_i fine
        cases opened
        exact .inl ⟨rfl, Headers.tellOk_of_status told fine⟩
      · cases opened

private theorem opening_settled (plain : compression? r.headers = none) (fine : r.headers.TellOk) :
    r.opening = .ok .settled := by
  obtain ⟨message, told⟩ := fine.status
  simp only [opening, plain, told, ↓reduceIte]

theorem opening_pending (plain : compression? r.headers = none)
    (silent : r.headers.first? statusHeader = none) : r.opening = .ok (.pending r.status) := by
  have untold : Status.ofHeaders? r.headers = none := Option.map_eq_none_iff.mpr silent
  simp only [opening, plain, untold]

private theorem closed_of_closes (opened : r.lowered.opening = .ok closing)
    (closes : Body.Closes closing r.lowered.ending rest) : r.Closed rest := by
  obtain ⟨-, ⟨rfl, fine⟩ | ⟨rfl, silent⟩⟩ := opening_ok opened
  · cases ending : r.ending <;> simp only [lowered, ending] at closes
    · cases closes with
      | bare told => exact .bare fine ending
      | bareStart told accepted waits => exact .bareStart fine ending accepted waits
    · exact .settled fine ending
    · cases closes
  · cases ending : r.ending <;> simp only [lowered, ending] at closes
    · cases closes with
      | bare told => cases told
      | bareStart told accepted waits => cases told
    · cases closes with
      | trailers told => exact .trailers silent ending (Body.tellOk_of_verdict told)
    · cases closes

private theorem Closed.closes (closed : r.Closed rest)
    (plain : compression? r.headers.lowered = none) : ∃ closing, r.lowered.opening = .ok closing ∧
      Body.Closes closing r.lowered.ending rest := by
  cases closed with
  | trailers silent ending fine =>
    refine ⟨_, opening_pending plain silent, ?_⟩
    simp only [lowered, ending]
    exact .trailers (fine.verdict _)
  | settled fine ending =>
    refine ⟨_, opening_settled plain fine, ?_⟩
    simp only [lowered, ending]
    exact .trailers rfl
  | bare fine ending =>
    refine ⟨_, opening_settled plain fine, ?_⟩
    simp only [lowered, ending]
    exact .bare rfl
  | bareStart fine ending accepted waits =>
    refine ⟨_, opening_settled plain fine, ?_⟩
    simp only [lowered, ending]
    exact .bareStart rfl accepted waits

/-- A response that brings pongs as if all went well, with some bytes left of its body. -/
structure Brings (mode : Mode) (r : Response) (pongs : List StreamPong) (rest : Bytes) : Prop where
  plain : compression? r.headers.lowered = none
  frames : Frame.Holds (StreamPong.schema.decode mode) r.chunks.flatten pongs rest
  unfinished : Frame.Unfinished rest
  closed : r.Closed rest

/-- A response of which a stream of pongs is read, without a failure, brings them. -/
theorem brings_of_stream {mode : Mode} {metadata : Headers} {pongs : List StreamPong}
    (streamed : r.lowered.stream mode = .ok ⟨metadata, pongs.map .ok⟩) :
    ∃ rest, r.Brings mode pongs rest := by
  unfold stream at streamed
  split at streamed
  · cases streamed
  · rename_i closing opened
    obtain ⟨fine, same⟩ := Received.of_items (congrArg Answer.body (Except.ok.inj streamed))
    rw [read, Body.readFrom_flatten] at fine same
    obtain ⟨messages, rest, reads, read⟩ := Body.readFrom_reads fine
    obtain rfl : messages = pongs := read.symm.trans same
    exact ⟨rest, (opening_ok opened).1, reads.frames, reads.unfinished,
      closed_of_closes opened reads.closes⟩

private theorem Brings.stream {mode : Mode} {pongs : List StreamPong}
    (brings : r.Brings mode pongs rest) :
    r.lowered.stream mode = .ok ⟨r.headers.lowered, pongs.map .ok⟩ := by
  obtain ⟨closing, opened, closes⟩ := brings.closed.closes brings.plain
  obtain ⟨hs, whole⟩ := Body.Reads.readFrom ⟨brings.frames, brings.unfinished, closes⟩ []
  have read : r.lowered.read (StreamPong.schema.decode mode) closing = ⟨pongs, none, hs⟩ := by
    rw [Response.read, Body.readFrom_flatten]
    exact whole
  simp only [Response.stream, opened, read, Received.items, Option.toList_none, List.map_nil,
    List.append_nil]
  rfl

end Response

/-! Runs. -/

namespace Trace

variable {start time : Nat} {trace : Trace} {cancelAt : Option Moment}

/-- Of a trace that completes nothing was cut off. -/
theorem Orderly.cancelledWhen_completed (orderly : Orderly start trace)
    (completed : (trace.cancelledWhen cancelAt).ending? = some (time, .completed)) :
    trace.cancelledWhen cancelAt = trace := by
  cases cancelAt with
  | none => rfl
  | some m =>
    by_cases ended : ∃ time e, trace.ending? = some (time, e) ∧ m.follows time = true
    · obtain ⟨time, e, ends, early⟩ := ended
      exact orderly.cancelledAt_of_ended ends early
    · have cut : (cancelledAt m trace).ending? = some (m.time, .cancelled) :=
        orderly.cancelledAt_ending? fun time e ends =>
          Bool.eq_false_iff.mpr fun early => ended ⟨time, e, ends, early⟩
      cases cut.symm.trans completed

/-- A stream that completes brings nothing but pongs. -/
theorem ofItems_completed {items : List (Except Status StreamPong)}
    (completed : (ofItems false start (items.map fun item => (0, item))).ending? =
      some (time, .completed)) : ∃ pongs : List StreamPong, items = pongs.map .ok := by
  induction items generalizing start with
  | nil => exact ⟨[], rfl⟩
  | cons item items ih =>
    cases item with
    | error s => cases completed
    | ok p =>
      obtain ⟨pongs, rfl⟩ := ih completed
      exact ⟨p :: pongs, rfl⟩

end Trace

namespace Session

variable {τ : Type} [Transport τ] {s : Session} {t u : τ} {run : Run} {cancelAt : Option Moment}
  {time : Nat} {final : Session}

/-- A run that completes is that of a session that nobody told to stop by then, and nothing that its
call brings is missing. -/
theorem run_completed (idle : s.state = .idle) (ran : s.run t cancelAt = (.ok run, u))
    (completed : run.course.result? = some (time, final, .ok .completed)) :
    s.cancelled = false ∧ run = ⟨s.started, (s.trace t none).1⟩ ∧
      (Trace.ofReply (Transport.stream t s.request s.headers).1).ending? =
        some (time, .completed) := by
  rw [run_idle idle] at ran
  cases ran
  have orderly : (s.trace t cancelAt).1.Orderly 0 := trace_orderly idle
  obtain ⟨⟨finish, e⟩, ends, same⟩ := Option.map_eq_some_iff.mp
    ((course_result? s.started Prod.mk orderly).symm.trans completed)
  cases live : s.cancelled with
  | true =>
    rw [trace_stopped idle live] at ends
    cases ends
    cases same
  | false =>
    have whole := Trace.ofReply_orderly (Transport.stream t s.request s.headers).1
    cases e <;> cases same
    rw [trace_running idle live] at ends ⊢
    have uncut := whole.cancelledWhen_completed ends
    rw [uncut] at ends ⊢
    exact ⟨rfl, by rw [trace_running idle live]; rfl, ends⟩

end Session

namespace Client

variable {σ : Type} [Service σ] {c c' : Client σ} {r : Response} {delay : Nat} {service : σ}
  {s : Session} {run : Session.Run} {cancelAt : Option Moment} {time : Nat} {final : Session}

/-- What the call of a session brings is what its response holds. -/
theorem Answered.streamed
    (answered : c.Answered streamingPath s.headers (StreamPing.schema.encode c.mode s.request) r
      delay service) :
    Transport.stream c s.request s.headers =
      (.after delay ((r.lowered.stream c.mode).map fun answer => .ofItems answer.body),
        { c with service }) := by
  simp only [Transport.stream, stream, answered.exchange]
  rfl

/-- A response that brings pongs as if all went well completes a session that is run over it, however
much of a frame is left. -/
theorem brings_completes {pongs : List StreamPong} {rest : Bytes} (idle : s.Idle)
    (live : s.cancelled = false) (brings : r.Brings c.mode pongs rest)
    (answered : c.Answered streamingPath s.headers (StreamPing.schema.encode c.mode s.request) r
      delay service) :
    ∃ run : Session.Run, s.run c none = (.ok run, { c with service }) ∧
      run.Completes s pongs delay := by
  have streamed : Transport.stream c s.request s.headers =
      (.after delay (.ok (.ofItems (pongs.map .ok))), { c with service }) := by
    rw [answered.streamed, brings.stream]
    rfl
  obtain ⟨run, ran, completes⟩ := Session.run_completes idle live (congrArg (·.1) streamed)
  rw [streamed] at ran
  exact ⟨run, ran, completes⟩

/-- What a session that completes says of the response: its body begins with the frames of the pongs
that were reported, and it closed as if all went well. What is left is less than a frame. -/
theorem completed_pongs (idle : s.Idle)
    (answered : c.Answered streamingPath s.headers (StreamPing.schema.encode c.mode s.request) r
      delay service)
    (ran : s.run c cancelAt = (.ok run, c'))
    (completed : run.course.result? = some (time, final, .ok .completed)) :
    ∃ pongs rest, r.Brings c.mode pongs rest ∧
      run.course.notices = pongs.map StreamPong.told ∧ final.received = pongs.length := by
  obtain ⟨live, rfl, ends⟩ := Session.run_completed idle.state ran completed
  have streamed := congrArg (·.1) answered.streamed
  cases opened : r.lowered.stream c.mode with
  | error e =>
    rw [streamed, opened] at ends
    cases ends
  | ok answer =>
    rw [streamed, opened] at ends
    obtain ⟨metadata, items⟩ := answer
    obtain ⟨pongs, rfl⟩ := Trace.ofItems_completed ends
    obtain ⟨rest, brings⟩ := Response.brings_of_stream opened
    rw [opened] at streamed
    obtain ⟨run, ran, completes⟩ := Session.run_completes idle live streamed
    rw [Session.run_idle idle.state] at ran
    injection ran with same
    cases same
    refine ⟨pongs, rest, brings, completes.notices, ?_⟩
    cases completed.symm.trans completes.result
    rw [completes.final]

/-- A pong, and the start of a frame whose message never comes. -/
theorem completed_pongs_one :
    let p : StreamPong := ⟨1700, "svc-a"⟩
    let body := Frame.wrap (StreamPong.schema.encode .text p) ++ 0 :: Frame.lengthBytes 9
    let r : Response := ⟨200, [("Grpc-Status", "0")], [body], .bare⟩
    let c : Client Playback := ⟨⟨none, [.response r]⟩, .text, none⟩
    let s := Session.create 3 1700 .default ⟨0⟩
    ∃ run, s.run c none = (.ok run, c) ∧
      run.course.result? = some (0, run.final, .ok .completed) ∧
      ∃ pongs rest, r.Brings .text pongs rest ∧
        run.course.notices = pongs.map StreamPong.told ∧ run.final.received = pongs.length := by
  intro p body r c s
  have idle : s.Idle := Session.create_idle 3 1700 .default ⟨0⟩
  have decoded : StreamPong.schema.decode .text (StreamPong.schema.encode .text p) = .ok p :=
    Schema.decode_encode_of_short StreamPong.schema_lawful (by decide)
  have frames : Frame.Holds (StreamPong.schema.decode .text) body [p] (0 :: Frame.lengthBytes 9) :=
    .message (by decide) decoded (.rest _)
  have fine : r.headers.lowered.TellOk := Headers.tellOk_of_silent (by decide) (by decide)
  have brings : r.Brings .text [p] (0 :: Frame.lengthBytes 9) :=
    { plain := by decide
      frames := by simpa [r] using frames
      unfinished := .message (s := []) (by decide) (by decide)
      closed := .bareStart fine rfl (by decide) (by decide) }
  have answered : c.Answered streamingPath s.headers (StreamPing.schema.encode .text s.request) r
      0 ⟨none, [.response r]⟩ := ⟨rfl, ⟨_, rfl, rfl⟩, by simp [c]⟩
  obtain ⟨run, ran, completes⟩ := brings_completes idle rfl brings answered
  exact ⟨run, ran, completes.result, completed_pongs idle answered ran completes.result⟩

/-- A session completes although the only frame of the body is cut off inside its message. -/
theorem completed_inside_frame :
    let r : Response := ⟨200, [], [[0, 0, 0, 0, 2], [8]], .trailers [("grpc-status", "0")]⟩
    let c : Client Playback := ⟨⟨none, [.response r]⟩, .binary, none⟩
    let s := Session.create 3 5 .default ⟨0⟩
    (∃ run, s.run c none = (.ok run, c) ∧
      run.course.result? = some (0, run.final, .ok .completed)) ∧
      ¬ ∃ pongs, Frame.Holds (StreamPong.schema.decode .binary) r.chunks.flatten pongs [] := by
  intro r c s
  have unfinished : Frame.Unfinished r.chunks.flatten :=
    .message (n := 2) (s := [8]) (by decide) (by decide)
  have brings : r.Brings .binary [] r.chunks.flatten :=
    { plain := by decide
      frames := .rest _
      unfinished
      closed := .trailers (by decide) rfl (Headers.tellOk_of_silent (by decide) (by decide)) }
  have answered : c.Answered streamingPath s.headers (StreamPing.schema.encode .binary s.request) r
      0 ⟨none, [.response r]⟩ := ⟨rfl, ⟨_, rfl, rfl⟩, by simp [c]⟩
  obtain ⟨run, ran, completes⟩ :=
    brings_completes (Session.create_idle 3 5 .default ⟨0⟩) rfl brings answered
  refine ⟨⟨run, ran, completes.result⟩, ?_⟩
  rintro ⟨pongs, whole⟩
  cases (unfinished.holds whole).2

end Client
end GatewayPing
