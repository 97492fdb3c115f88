import GatewayPing.Proofs.Concurrent.Alone
import GatewayPing.Proofs.Input.Handling
import GatewayPing.Proofs.Wire.Delivery
import GatewayPing.Proofs.Wire.Metadata
import GatewayPing.Proofs.Wire.Modes
import GatewayPing.Proofs.Wire.Statuses

/-! Streams from the input field to the gateway and back. The number of pongs that a line asks for is
limited three times: by the configuration, by what a request can carry, and by the gateway, which
breaks a stream off that asks for more than it delivers. Main statement:
`Dispatcher.stream_limited`. -/
namespace GatewayPing

open Input (Sentence)

/-! What is asked for. -/

namespace Session

/-- The number of pongs that is asked for where a count is typed. -/
def askedFor (config : Config) (count : Nat) : Nat :=
  min count (min config.maxStreamMessages.toNat (2 ^ 31 - 1))

theorem toInt_ofNat_min (n : Nat) :
    (Int32.ofNat (min n (2 ^ 31 - 1))).toInt = min n (2 ^ 31 - 1) :=
  Int32.toInt_ofNat_of_lt (Nat.lt_of_le_of_lt (Nat.min_le_right _ _) (by decide))

theorem session_messageCount (config : Config) (id : RequestId) (count v : Nat) :
    (Sentence.session config id count v).request.messageCount.toInt = askedFor config count := by
  rw [Sentence.session, askedFor, ← Nat.min_assoc]
  exact toInt_ofNat_min _

theorem session_timestamp (config : Config) (id : RequestId) (count : Nat) {v : Nat}
    (fits : v ≤ 2 ^ 63 - 1) :
    (Sentence.session config id count v).request.timestamp.toInt = v :=
  (Input.eq_ofNat_iff fits).mp rfl

end Session

/-! What is sent and read. -/

namespace Gateway

variable {g : Gateway} {ping : StreamPing} {count : Nat}

/-- How a stream ends in which so many pongs are asked for. -/
def closing (count : Nat) : Status :=
  if mostPongs < count then ⟨.resourceExhausted, "stream limit reached"⟩ else fine

private theorem closing_few (few : count ≤ 5) : closing count = fine := if_neg (Nat.not_lt.mpr few)

private theorem closing_many (many : ¬ count ≤ 5) :
    closing count = ⟨.resourceExhausted, "stream limit reached"⟩ := if_pos (Nat.not_le.mp many)

/-- The pongs of a stream in which so many are asked for. -/
def pongs (timestamp : Int64) (count : Nat) : List StreamPong :=
  (List.range (min count mostPongs)).map (pong timestamp)

private theorem pongs_short (timestamp : Int64) (count : Nat) (mode : Mode) :
    ∀ p ∈ pongs timestamp count, (StreamPong.schema.encode mode p).length ≤ Frame.maxLength := by
  intro p member
  obtain ⟨index, inside, rfl⟩ := List.mem_map.mp member
  have below := List.mem_range.mp inside
  exact StreamPong.short (pong_named _ index (by omega)) mode

/-- A stream that identifies itself is not refused. -/
theorem stream_identified {id : RequestId} {wire : Headers}
    (identified : Metadata.Identified id wire) (asked : ping.messageCount.toInt = count)
    (verb path : String) :
    g.stream ⟨verb, path, wire, Frame.wrap (StreamPing.schema.encode g.mode ping)⟩ =
      delivery [] ((pongs ping.timestamp count).map (StreamPong.schema.encode g.mode))
        (closing count) := by
  unfold stream
  rw [received_request StreamPing.schema_lawful (ping.short g.mode), identified.plain]
  simp only [identified.first?, Option.any_some, id.text_identifies, asked, Int.toNat_natCast]
  rfl

end Gateway

/-- What a stream brings that ends with a status: a status that is not fine is an element of its
own. -/
def Script.ofStatus (pongs : List StreamPong) (s : Status) : Script :=
  if s.code = .ok then .completed (pongs.map (0, ·))
  else .broken (pongs.map (0, ·)) 0 s ⟨[], false⟩

private theorem Script.ofStatus_pongs (pongs : List StreamPong) (s : Status) :
    (ofStatus pongs s).pongs = pongs.map (0, ·) := by
  unfold ofStatus
  split <;> rfl

private theorem Script.ofStatus_endTime (pongs : List StreamPong) (s : Status) (time : Nat) :
    (ofStatus pongs s).endTime time = time := by
  unfold ofStatus
  split <;> exact Session.lastArrival_at_once time pongs

namespace Gateway

/-- What a stream of a gateway brings in which so many pongs are asked for. -/
def script (timestamp : Int64) (count : Nat) : Script :=
  .ofStatus (pongs timestamp count) (closing count)

variable {timestamp : Int64} {count v : Nat}

/-- Whatever is asked for, at most five pongs are brought. -/
theorem script_notices (stamped : timestamp.toInt = v) :
    (script timestamp count).pongs.map (fun p => p.2.told) =
      (List.range (min count 5)).map
        fun i => ⟨.success, s!"Resp: {v} - ServiceExtra: streaming ping => {i}"⟩ := by
  have joined : " - " ++ "ServiceExtra: streaming ping => " =
      " - ServiceExtra: streaming ping => " := by decide
  have number : toString (v : Int) = toString v := rfl
  rw [script, Script.ofStatus_pongs, pongs, List.map_map, List.map_map]
  refine List.map_congr_left fun i _ => ?_
  simp only [Function.comp_apply, StreamPong.told, Notification.good, pong, stamped,
    number, ← joined, String.append_assoc]
  rfl

/-- More than five pongs cannot be had: the stream breaks off. -/
theorem script_verdict : (script timestamp count).verdict =
    if count ≤ 5 then ⟨.ok .completed, .completed, []⟩
    else
      let s : Status := ⟨.resourceExhausted, "stream limit reached"⟩
      ⟨.error (.failed (.broken s)), .failed s,
        [⟨.danger, "Error code: 8 \"stream limit reached\""⟩]⟩ := by
  have worded : (Failure.broken ⟨.resourceExhausted, "stream limit reached"⟩).told =
      ⟨.danger, "Error code: 8 \"stream limit reached\""⟩ := by decide
  unfold script
  by_cases few : count ≤ 5
  · rw [closing_few few, if_pos few]
    rfl
  · rw [closing_many few, if_neg few, ← worded]
    rfl

private theorem script_received (few : count ≤ 5) :
    (script timestamp count).pongs.length = count := by
  rw [script, Script.ofStatus_pongs, pongs, List.length_map, List.length_map, List.length_range]
  exact Nat.min_eq_left few

end Gateway

namespace Response

variable {mode : Mode} {pongs : List StreamPong}

/-- Of a delivery its pongs are read, and then its status. -/
theorem delivery_stream
    (short : ∀ p ∈ pongs, (StreamPong.schema.encode mode p).length ≤ Frame.maxLength) (s : Status) :
    (((Gateway.delivery [] (pongs.map (StreamPong.schema.encode mode)) s).lowered.stream mode).map
      fun answer => Feed.ofItems answer.body) = (Script.ofStatus pongs s).reply := by
  let r := (Gateway.delivery [] (pongs.map (StreamPong.schema.encode mode)) s).lowered
  have carries : r.Carries StreamPong.schema mode pongs := by
    have written := @Gateway.delivery_carries _ StreamPong.schema mode [] pongs s short
    exact ⟨written.frames, written.short⟩
  have opened : r.opening = .ok (.pending Response.fine) := rfl
  have ending : r.ending = .trailers (Gateway.statusHeaders s) :=
    congrArg BodyEnd.trailers s.statusHeaders_lowered
  have read := carries.read StreamPong.schema_lawful (.pending Response.fine)
  rw [ending, Body.conclude, Body.verdict, s.ofHeaders?_statusHeaders] at read
  show (r.stream mode).map _ = _
  by_cases fine : s.code = .ok
  · simp only [fine, ↓reduceIte] at read
    simp [Response.stream, opened, read, Received.items, Except.map, Script.ofStatus, fine,
      Script.reply, Script.item, Feed.ofItems, Function.comp_def]
  · simp only [fine, ↓reduceIte] at read
    simp [Response.stream, opened, read, Received.items, Except.map, Script.ofStatus, fine,
      Script.reply, Script.item, Feed.ofItems, Function.comp_def]

end Response
namespace Client

/-- The client and its gateway speak the same encoding. -/
def Matched (c : Client (Observed Gateway)) : Prop := c.service.inner.mode = c.mode

/-- A gateway receives one request for a stream that identifies itself, and answers it by a delivery.
The other headers do not matter as long as they are proper. -/
theorem stream_gateway {c : Client (Observed Gateway)} (matched : c.Matched) {hs : Headers}
    (proper : ∀ h ∈ hs, Metadata.Proper h) (id : RequestId) {ping : StreamPing} {count : Nat}
    (asked : ping.messageCount.toInt = count) :
    ∃ wire, Metadata.Identified id wire ∧
      Transport.stream c ping (hs ++ [(Gateway.identityHeader, id.text)]) =
        (.now (Gateway.script ping.timestamp count).reply,
          { c with service := ⟨c.service.inner, c.service.requests ++
              [⟨"POST", streamingPath, wire,
                Frame.wrap (StreamPing.schema.encode c.mode ping)⟩]⟩ }) := by
  obtain ⟨all, collected, identified⟩ := Metadata.collect_identified proper id
  refine ⟨Metadata.onWire all, identified, ?_⟩
  have delivered := Response.delivery_stream
    (Gateway.pongs_short ping.timestamp count c.mode) (Gateway.closing count)
  have answered := @Gateway.stream_identified c.service.inner ping count id _ identified asked
    "POST" streamingPath
  rw [show c.service.inner.mode = c.mode from matched] at answered
  simp only [Transport.stream, Client.stream, exchange_gateway c streamingPath _ collected, request,
    Gateway.respond_stream, answered, Gateway.script, ← delivered]
  rfl

end Client

/-! What comes of it. -/

/-- What is seen of a line that asks for a stream: what the script of its call has. -/
theorem Input.Sentence.course_script {τ : Type} [Transport τ] {d : Dispatcher τ} {id : RequestId}
    {mode : Mode} {n v : Nat} {script : Script} {time : Nat}
    (answer : (Transport.stream (d.transports.select mode) (session d.config id n v).request
      (session d.config id n v).headers).1 = .after time script.reply) :
    ((stream n v).course d id mode).notices =
        script.pongs.map (fun p => p.2.told) ++ script.verdict.complaints ∧
      ((stream n v).course d id mode).result? = some (script.endTime time,
        script.verdict.result.map (.streamed script.pongs.length)) := by
  let s := session d.config id n v
  have plays := Session.plays_script (s := s) (t := d.transports.select mode)
    (session_idle d.config id n v) rfl answer
  have drawn : (stream n v).course d id mode =
      (⟨s.started, (s.trace (d.transports.select mode) none).1⟩ : Session.Run).course.map
        fun r => r.2.map (.streamed r.1.received) := by
    rw [Session.trace_script rfl rfl answer, Session.Run.course, Course.map_course]
    simp only [Input.Sentence.course, answer]
    exact (course_streamed s (session_idle d.config id n v) _).symm
  rw [drawn, Course.notices_map, Course.result?_map, plays.notices, plays.result, plays.final]
  exact ⟨rfl, rfl⟩

namespace Dispatcher

/-- What comes of a line that asks for a stream of `k` pongs. The timestamp of the line is `v`. -/
structure StreamsUpTo (d : Dispatcher (Client (Observed Gateway))) (id : RequestId) (raw : String)
    (mode : Mode) (v k : Nat) : Prop where
  /-- The first five pongs are reported in their order. If more were asked for, that is bad news,
  once. -/
  notices : (d.handle id raw mode).1.notices =
    (List.range (min k 5)).map
        (fun i => ⟨.success, s!"Resp: {v} - ServiceExtra: streaming ping => {i}"⟩) ++
      if k ≤ 5 then [] else [⟨.danger, "Error code: 8 \"stream limit reached\""⟩]
  result : (d.handle id raw mode).1.result? = some (0,
    if k ≤ 5 then .ok (.streamed k .completed)
    else .error (.failed (.broken ⟨.resourceExhausted, "stream limit reached"⟩)))
  /-- One request reaches the gateway of the mode. It carries one identifier, that of the session,
  and asks for `k` pongs. -/
  request : ∃ r ping,
    ((d.handle id raw mode).2.transports.select mode).service.requests =
      (d.transports.select mode).service.requests ++ [r] ∧
    r.path = streamingPath ∧
    r.headers.filter (·.1 == "x-request-id") = [("x-request-id", id.text)] ∧
    Gateway.received StreamPing.schema (d.transports.select mode).mode r = .ok ping ∧
    ping.timestamp.toInt = v ∧ ping.messageCount.toInt = k
  /-- Nothing reaches the other. -/
  apart : ∀ m, m ≠ mode → (d.handle id raw mode).2.transports.select m = d.transports.select m

/-- A line that asks for a stream gets what the three limits leave of it: those of the configuration,
of the request and of the gateway. Headers of the configuration that go by the name of the
identifier do not get in the way. -/
theorem stream_limited {d : Dispatcher (Client (Observed Gateway))}
    (matched : ∀ m, (d.transports.select m).Matched)
    (proper : ∀ h ∈ d.config.streamingHeaders, Metadata.Proper h) {raw : String} {n v : Nat}
    (said : Input.Says raw.toList (.stream n v)) (id : RequestId) (mode : Mode) :
    d.StreamsUpTo id raw mode v
      (min n (min d.config.maxStreamMessages.toNat (2 ^ 31 - 1))) := by
  obtain ⟨numbers, positive, fits⟩ := Input.says_stream_iff.mp said
  show d.StreamsUpTo id raw mode v (Session.askedFor d.config n)
  let s := Sentence.session d.config id n v
  have asked : s.request.messageCount.toInt = Session.askedFor d.config n :=
    Session.session_messageCount d.config id n v
  have stamped : s.request.timestamp.toInt = v := Session.session_timestamp d.config id n fits
  obtain ⟨wire, identified, called⟩ := Client.stream_gateway (matched mode) proper id asked
  have handled : d.handle id raw mode = _ := handle_numbers numbers positive fits
  obtain ⟨notices, result⟩ := Sentence.course_script (congrArg (·.1) called)
  rw [show s.headers = d.config.streamingHeaders ++ [(Gateway.identityHeader, id.text)] from rfl,
    called] at handled
  let message := Frame.wrap (StreamPing.schema.encode (d.transports.select mode).mode s.request)
  have received := Gateway.received_request StreamPing.schema_lawful
    (s.request.short (d.transports.select mode).mode) "POST" streamingPath wire
  rw [identified.plain] at received
  constructor
  case notices =>
    rw [handled, notices, Gateway.script_notices stamped, Gateway.script_verdict]
    by_cases few : Session.askedFor d.config n ≤ 5
    · simp only [few, ↓reduceIte]
    · simp only [few, ↓reduceIte]
  case result =>
    rw [handled, result, Gateway.script_verdict, Gateway.script, Script.ofStatus_endTime]
    by_cases few : Session.askedFor d.config n ≤ 5
    · simp only [few, ↓reduceIte]
      rw [← Gateway.script, Gateway.script_received few]
      rfl
    · simp only [few, ↓reduceIte]
      rfl
  case request =>
    refine ⟨⟨"POST", streamingPath, wire, message⟩, s.request, ?_, rfl, identified.once, received,
      stamped, asked⟩
    rw [handled, select_update_same]
  case apart =>
    intro m other
    rw [handled, update, TransportPair.select_update, if_neg (Ne.symm other)]

/-- A line that asks for seven pongs, under a configuration with a blank identifier of its own. -/
theorem stream_limited_seven :
    let config := { Config.default with streamingHeaders := [("X-Request-Id", " ")] }
    let d : Dispatcher (Client (Observed Gateway)) :=
      ⟨⟨Client.meeting .text none, Client.meeting .binary none⟩, config⟩
    (∀ m, (d.transports.select m).Matched) ∧
      (∀ h ∈ d.config.streamingHeaders, Metadata.Proper h) ∧
      Input.Says "7 1700".toList (.stream 7 1700) ∧
      d.StreamsUpTo ⟨0⟩ "7 1700" .text 1700 7 := by
  intro config d
  have matched : ∀ m, (d.transports.select m).Matched := by
    intro m
    cases m <;> rfl
  have proper : ∀ h ∈ d.config.streamingHeaders, Metadata.Proper h := by
    intro h member
    obtain rfl := List.mem_singleton.mp member
    exact ⟨by decide, by decide, by decide⟩
  have space : Text.Blanks " ".toList := by simp [Text.Blanks, Text.isBlank]
  have numbers : Input.HoldsNumbers "7 1700".toList 7 1700 :=
    ⟨[], "7".toList, " ".toList, "1700".toList, [], by decide, List.forall_mem_nil _,
      ⟨by decide, by simp, by decide⟩, space, by decide, ⟨by decide, by simp, by decide⟩,
      List.forall_mem_nil _⟩
  have said : Input.Says "7 1700".toList (.stream 7 1700) :=
    .stream numbers (by decide) (by decide)
  exact ⟨matched, proper, said, stream_limited matched proper said ⟨0⟩ .text⟩

end Dispatcher
end GatewayPing
