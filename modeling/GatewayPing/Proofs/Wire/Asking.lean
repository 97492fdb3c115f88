import GatewayPing.Proofs.Wire.Limits
import GatewayPing.Proofs.Wire.Requests

/-! What a stream asks for. A count may be typed with any number of digits, while a request carries
signed 32-bit integers; between the two a count is limited twice by 32 unsigned bits, by the
configuration, and by the request. None of these steps overflows: a session asks for the least of
the limits, a transport is handed exactly that, and it is what the other side reads. Main statement:
`Dispatcher.newSession_opens`. -/
namespace GatewayPing

open Input (HoldsNumbers Sentence)

namespace Client

variable {σ : Type} [Service σ] {c : Client (Observed σ)} {hs collected : Headers}

/-- A service that is ready receives one request for a stream. -/
theorem stream_requests (ready : Service.fault c.service = none)
    (valid : Metadata.collect [] hs = .ok collected) (ping : StreamPing) :
    (Transport.stream c ping hs).2.service.requests = c.service.requests ++
      [request streamingPath collected (StreamPing.schema.encode c.mode ping)] := by
  simp only [Transport.stream, stream, exchange, ready, valid]
  rfl

end Client

namespace Session

variable {s : Session} {config : Config} {n m v : Nat}

private theorem session_messageInterval (config : Config) (id : RequestId) (count v : Nat) :
    (Sentence.session config id count v).request.messageInterval.toInt =
      min config.messageInterval.toNat (2 ^ 31 - 1) := toInt_ofNat_min _

/-- Who types more does not ask for less. -/
theorem askedFor_mono (config : Config) (more : n ≤ m) : askedFor config n ≤ askedFor config m := by
  unfold askedFor
  omega

private theorem askedFor_beyond (beyond : config.maxStreamMessages.toNat ≤ n) :
    askedFor config n = min config.maxStreamMessages.toNat (2 ^ 31 - 1) := by
  unfold askedFor
  omega

/-- Two counts for which the same is asked for make the same session. -/
theorem session_congr (config : Config) (id : RequestId) (v : Nat)
    (same : askedFor config n = askedFor config m) :
    Sentence.session config id n v = Sentence.session config id m v := by
  have counts : (Sentence.session config id n v).request.messageCount =
      (Sentence.session config id m v).request.messageCount := by
    rw [← Int32.toInt_inj, session_messageCount, session_messageCount, same]
  simp only [Sentence.session] at counts ⊢
  rw [counts]

/-- A session asks for so many pongs of a timestamp, whoever runs it. -/
structure AsksFor (s : Session) (config : Config) (n v : Nat) : Prop where
  messageCount : s.request.messageCount.toInt =
    min n (min config.maxStreamMessages.toNat (2 ^ 31 - 1))
  messageInterval : s.request.messageInterval.toInt =
    min config.messageInterval.toNat (2 ^ 31 - 1)
  timestamp : s.request.timestamp.toInt = v
  natural : 0 ≤ s.request.messageCount.toInt ∧ 0 ≤ s.request.messageInterval.toInt ∧
    0 ≤ s.request.timestamp.toInt
  /-- This request is handed to the transport of the mode, and nothing else to any transport. -/
  handed : ∀ {τ : Type} [Transport τ] (d : Dispatcher τ) (mode : Mode) (cancelAt : Option Moment),
    (∀ k ∈ cancelAt, k.follows 0 = true) →
      ∀ other, (d.recorded.runSession s mode cancelAt).2.callsOf other =
        callsIn other [(mode, .stream s.request s.headers)]
  /-- A service that is ready receives it, and reads it in the encoding in which it was written,
  provided that the headers can be sent and do not say that the body is compressed. -/
  received : ∀ {σ : Type} [Service σ] (d : Dispatcher (Client (Observed σ))) (mode : Mode),
    Service.fault (d.transports.select mode).service = none →
    (∀ h ∈ config.streamingHeaders,
      Metadata.Valid h ∧ Headers.lower h.1 ≠ encodingHeader) →
    ∃ r, ((d.runSession s mode none).2.transports.select mode).service.requests =
        (d.transports.select mode).service.requests ++ [r] ∧
      r.path = streamingPath ∧
      Gateway.received StreamPing.schema (d.transports.select mode).mode r = .ok s.request

private theorem session_handed (config : Config) (id : RequestId) (n v : Nat) {τ : Type}
    [Transport τ] (d : Dispatcher τ) (mode : Mode) {cancelAt : Option Moment}
    (running : ∀ k ∈ cancelAt, k.follows 0 = true) (other : Mode) :
    let s := Sentence.session config id n v
    (d.recorded.runSession s mode cancelAt).2.callsOf other =
      callsIn other [(mode, .stream s.request s.headers)] := by
  intro s
  rw [Dispatcher.runSession_idle rfl, trace_transport rfl rfl running, Dispatcher.recorded_stream]
  exact Dispatcher.callsOf_first _ _ other

private theorem session_received (id : RequestId) (n v : Nat) {σ : Type} [Service σ]
    (d : Dispatcher (Client (Observed σ))) (mode : Mode)
    (ready : Service.fault (d.transports.select mode).service = none)
    (sendable : ∀ h ∈ config.streamingHeaders,
      Metadata.Valid h ∧ Headers.lower h.1 ≠ encodingHeader) :
    let s := Sentence.session config id n v
    ∃ r, ((d.runSession s mode none).2.transports.select mode).service.requests =
        (d.transports.select mode).service.requests ++ [r] ∧
      r.path = streamingPath ∧
      Gateway.received StreamPing.schema (d.transports.select mode).mode r = .ok s.request := by
  intro s
  have key : Metadata.isKey Gateway.identityHeader = true := by decide
  have apart : Headers.lower Gateway.identityHeader ≠ encodingHeader := by decide
  have each : ∀ h ∈ s.headers, Metadata.Valid h ∧ Headers.lower h.1 ≠ encodingHeader := by
    intro h member
    rcases List.mem_append.mp member with configured | last
    · exact sendable h configured
    · obtain rfl := List.mem_singleton.mp last
      exact ⟨⟨key, id.text_isValue⟩, apart⟩
  obtain ⟨all, collected, plain⟩ := Metadata.collect_plain (fun h member => (each h member).1)
    fun h member => (each h member).2
  refine ⟨Client.request streamingPath all
    (StreamPing.schema.encode (d.transports.select mode).mode s.request), ?_, rfl, ?_⟩
  · rw [Dispatcher.runSession_idle rfl, trace_transport rfl rfl (by simp),
      Dispatcher.select_update_same, Client.stream_requests ready collected]
  · have read := Gateway.received_request StreamPing.schema_lawful
      (s.request.short (d.transports.select mode).mode) "POST" streamingPath (Metadata.onWire all)
    rwa [plain] at read

private theorem session_asksFor (config : Config) (id : RequestId) (n : Nat)
    (fits : v ≤ 2 ^ 63 - 1) : (Sentence.session config id n v).AsksFor config n v where
  messageCount := session_messageCount config id n v
  messageInterval := session_messageInterval config id n v
  timestamp := session_timestamp config id n fits
  natural := by
    rw [session_messageCount, session_messageInterval, session_timestamp config id n fits]
    omega
  handed d mode _ running := session_handed config id n v d mode running
  received d mode := session_received id n v d mode

end Session

namespace Dispatcher

variable {τ : Type} {d : Dispatcher τ} {id : RequestId} {raw : String} {n v : Nat}

/-- What becomes of a line with a count `n` and a timestamp `v`. -/
structure Opens (d : Dispatcher τ) (id : RequestId) (raw : String) (n v : Nat) : Prop where
  /-- Only a count of zero is turned away. -/
  refused : d.newSession id raw = .error (.invalidInput raw .stream) ↔ n = 0
  opened : n ≠ 0 → ∃ s, d.newSession id raw = .ok s ∧ s.AsksFor d.config n v
  /-- A line with a greater count asks for no less. -/
  monotone : ∀ (other : String) (m w : Nat), HoldsNumbers other.toList m w →
    w ≤ 2 ^ 63 - 1 → n ≤ m →
      ∀ s t, d.newSession id raw = .ok s → d.newSession id other = .ok t →
        s.request.messageCount.toInt ≤ t.request.messageCount.toInt
  /-- All counts beyond the maximum are the same. -/
  saturated : ∀ (other : String) (m : Nat), HoldsNumbers other.toList m v → n ≠ 0 → m ≠ 0 →
    d.config.maxStreamMessages.toNat ≤ n → d.config.maxStreamMessages.toNat ≤ m →
      d.newSession id raw = d.newSession id other

private theorem newSession_zero (numbers : HoldsNumbers raw.toList 0 v) :
    d.newSession id raw = .error (.invalidInput raw .stream) := by
  cases read : Input.stream? raw with
  | none => rw [newSession, read]
  | some s =>
    obtain ⟨n, w, said, -⟩ := Input.stream?_eq_some.mp read
    obtain ⟨same, positive, -⟩ := Input.says_stream_iff.mp said
    rw [(same.unique numbers).1] at positive
    cases positive

private theorem newSession_numbers (numbers : HoldsNumbers raw.toList n v) (nonzero : n ≠ 0)
    (fits : v ≤ 2 ^ 63 - 1) :
    d.newSession id raw = .ok (Sentence.session d.config id n v) := by
  have read := Input.stream?_eq_some.mpr
    ⟨n, v, .stream numbers (Nat.pos_of_ne_zero nonzero) fits, rfl⟩
  rw [newSession, read]
  exact congrArg Except.ok (Sentence.create_session d.config id n v)

/-- A session that is opened is that of the numbers of its line. -/
theorem eq_session_of_newSession {s : Session} (numbers : HoldsNumbers raw.toList n v)
    (fits : v ≤ 2 ^ 63 - 1) (made : d.newSession id raw = .ok s) :
    s = Sentence.session d.config id n v := by
  by_cases zero : n = 0
  · subst zero
    rw [newSession_zero numbers] at made
    cases made
  · rw [newSession_numbers numbers zero fits] at made
    exact (Except.ok.inj made).symm

/-- A count that is typed is limited, and never overflows. -/
theorem newSession_opens (d : Dispatcher τ) (id : RequestId)
    (numbers : HoldsNumbers raw.toList n v) (fits : v ≤ 2 ^ 63 - 1) :
    d.Opens id raw n v where
  refused := by
    constructor
    · intro refused
      refine Decidable.byContradiction fun nonzero => ?_
      rw [newSession_numbers numbers nonzero fits] at refused
      cases refused
    · rintro rfl
      exact newSession_zero numbers
  opened nonzero :=
    ⟨_, newSession_numbers numbers nonzero fits, Session.session_asksFor d.config id n fits⟩
  monotone := by
    intro other m w others fitting more s t made madeOther
    rw [eq_session_of_newSession numbers fits made,
      eq_session_of_newSession others fitting madeOther,
      Session.session_messageCount, Session.session_messageCount]
    exact Int.ofNat_le.mpr (Session.askedFor_mono d.config more)
  saturated := by
    intro other m others nonzero nonzero' beyond beyond'
    rw [newSession_numbers numbers nonzero fits, newSession_numbers others nonzero' fits,
      Session.session_congr d.config id v
        ((Session.askedFor_beyond beyond).trans (Session.askedFor_beyond beyond').symm)]

/-- A count beyond 32 bits that begins with zeros, and the greatest timestamp. The gateways are ready
for the session that is opened, and its headers can be sent. -/
theorem newSession_opens_beyond :
    let d : Dispatcher (Client (Observed Gateway)) :=
      ⟨⟨Client.meeting .text none, Client.meeting .binary none⟩, .default⟩
    HoldsNumbers "0004294967296 9223372036854775807".toList 4294967296 9223372036854775807 ∧
      9223372036854775807 ≤ 2 ^ 63 - 1 ∧
      d.Opens ⟨0⟩ "0004294967296 9223372036854775807" 4294967296 9223372036854775807 ∧
      (∀ mode, Service.fault (d.transports.select mode).service = none) ∧
      ∀ h ∈ d.config.streamingHeaders, Metadata.Valid h ∧ Headers.lower h.1 ≠ encodingHeader := by
  intro d
  have space : Text.Blanks " ".toList := by simp [Text.Blanks, Text.isBlank]
  have numbers : HoldsNumbers "0004294967296 9223372036854775807".toList 4294967296
      9223372036854775807 :=
    ⟨[], "0004294967296".toList, " ".toList, "9223372036854775807".toList, [], by decide,
      List.forall_mem_nil _, ⟨by decide, by simp, by decide⟩, space, by decide,
      ⟨by decide, by simp, by decide⟩, List.forall_mem_nil _⟩
  have fits : 9223372036854775807 ≤ 2 ^ 63 - 1 := by decide
  refine ⟨numbers, fits, newSession_opens d ⟨0⟩ numbers fits, fun _ => rfl, ?_⟩
  intro h member
  obtain rfl := List.mem_singleton.mp member
  exact ⟨⟨by decide, by decide⟩, by decide⟩

end Dispatcher
end GatewayPing
