import GatewayPing.Program
import GatewayPing.Proofs.Flow.Orders
import GatewayPing.Proofs.Input.Handling

/-! Sending one input. A program that sends its input looks at the shape of it before the dispatcher
does, and chooses the method of a single call. Apart from that method it does what the dispatcher
does with a line: it is the dispatcher on transports that send every single call to the chosen
method (`Rerouted`). Main statement: `Program.send_agrees`. -/
namespace GatewayPing

/-- A transport whose single calls all go to one method. -/
structure Rerouted (τ : Type) where
  inner : τ
  method : Method

instance {τ : Type} [Transport τ] : Transport (Rerouted τ) where
  mode r := Transport.mode r.inner
  unary r _ ping headers :=
    let (reply, inner) := Transport.unary r.inner r.method ping headers
    (reply, { r with inner })
  stream r ping headers :=
    let (reply, inner) := Transport.stream r.inner ping headers
    (reply, { r with inner })

/-- The call that goes to a method in place of the one it was made for. -/
def Call.via (method : Method) : Call → Call
  | .unary _ ping headers => .unary method ping headers
  | .stream ping headers => .stream ping headers

namespace Dispatcher

variable {τ : Type}

/-- A dispatcher whose single calls all go to one method. -/
def rerouted (method : Method) (d : Dispatcher τ) : Dispatcher (Rerouted τ) where
  transports := ⟨⟨d.transports.text, method⟩, ⟨d.transports.binary, method⟩⟩
  config := d.config

/-- The dispatcher that is behind it. -/
def direct (d : Dispatcher (Rerouted τ)) : Dispatcher τ where
  transports := ⟨d.transports.text.inner, d.transports.binary.inner⟩
  config := d.config

variable {d : Dispatcher τ} {method : Method} {mode : Mode} {id : RequestId} {raw : String}

@[simp] theorem direct_rerouted : (d.rerouted method).direct = d := rfl

@[simp] theorem direct_update (e : Dispatcher (Rerouted τ)) (mode : Mode) (t : Rerouted τ) :
    (e.update mode t).direct = e.direct.update mode t.inner := by
  cases mode <;> rfl

private theorem rerouted_select (d : Dispatcher τ) (method : Method) (mode : Mode) :
    (d.rerouted method).transports.select mode = ⟨d.transports.select mode, method⟩ := by
  cases mode <;> rfl

variable [Transport τ]

/-- A single call of any method goes to the chosen one. -/
theorem unary_rerouted (other : Method) :
    d.unary method raw mode =
      (((d.rerouted method).unary other raw mode).1,
        ((d.rerouted method).unary other raw mode).2.direct) := by
  unfold unary
  cases Input.timestamp? raw with
  | none => rfl
  | some timestamp =>
    simp only [rerouted_select, direct_update]
    rfl

/-- A stream that an input asks for is started at once, and the answer decides what comes of it. -/
theorem stream_made {α : Type} {s : Session} (made : d.newSession id raw = .ok s)
    (result : Session → Ending → α) :
    d.stream id raw mode result =
      (s.started.course (fun s ending => ending.map (result s))
          (Trace.ofReply (Transport.stream (d.transports.select mode) s.request s.headers).1),
        d.update mode (Transport.stream (d.transports.select mode) s.request s.headers).2) := by
  obtain ⟨idle, live⟩ : s.state = .idle ∧ s.cancelled = false := by
    unfold newSession at made
    split at made
    · cases made
    · cases made
      exact ⟨rfl, rfl⟩
  simp only [stream, made, runSession_idle idle]
  rw [Session.trace_running idle live, Session.trace_transport idle live (by simp)]
  rfl

private theorem stream_rerouted {α : Type} (result : Session → Ending → α) :
    d.stream id raw mode result =
      (((d.rerouted method).stream id raw mode result).1,
        ((d.rerouted method).stream id raw mode result).2.direct) := by
  cases made : d.newSession id raw with
  | error e =>
    have made' : (d.rerouted method).newSession id raw = .error e := made
    simp only [stream, made, made', direct_rerouted]
  | ok s =>
    have made' : (d.rerouted method).newSession id raw = .ok s := made
    simp only [stream_made made, stream_made made', rerouted_select, direct_update]
    rfl

end Dispatcher

namespace Program

variable {τ : Type} [Transport τ] {d : Dispatcher τ} {id : RequestId} {input : String} {mode : Mode}
  {method : Method}

/-- Sending an input agrees with handling it as a line. -/
structure Agrees (d : Dispatcher τ) (id : RequestId) (input : String) (mode : Mode)
    (method : Method) : Prop where
  /-- It is the same where the usual method answers as the chosen one does. -/
  rerouted : send d id input mode method =
    (((d.rerouted method).handle id input mode).1,
      ((d.rerouted method).handle id input mode).2.direct)
  /-- The same calls are made, of the chosen method. -/
  calls : ∀ m, (send d.recorded id input mode method).2.callsOf m =
    ((d.recorded.handle id input mode).2.callsOf m).map (Call.via method)
  timestamp : ∀ t, Input.timestamp? input = some t → ∀ m,
    (send d.recorded id input mode method).2.callsOf m =
      callsIn m [(mode, .unary method ⟨t⟩ d.config.unaryHeaders)]
  /-- Where the same answer comes of both methods, all that is told and the result are the same. -/
  answered : (∀ t, Input.timestamp? input = some t →
      (Transport.unary (d.transports.select mode) method ⟨t⟩ d.config.unaryHeaders).1 =
        (Transport.unary (d.transports.select mode) .aPing ⟨t⟩ d.config.unaryHeaders).1) →
    (send d id input mode method).1 = (d.handle id input mode).1
  /-- With the usual method nothing tells the two apart. -/
  usual : send d id input mode .aPing = d.handle id input mode
  /-- Nor does anything if the input is no timestamp. -/
  other : Input.timestamp? input = none → send d id input mode method = d.handle id input mode
  /-- The method is no matter to an input that is shaped as a stream. -/
  streaming : ∀ text, Input.ofText input = .streaming text →
    ∀ method', send d id input mode method = send d id input mode method'

private theorem send_usual : send d id input mode .aPing = d.handle id input mode := by
  unfold send Dispatcher.handle Dispatcher.ping
  cases Input.ofText input <;> rfl

private theorem send_rerouted :
    send d id input mode method = (((d.rerouted method).handle id input mode).1,
      ((d.rerouted method).handle id input mode).2.direct) := by
  unfold send Dispatcher.handle
  cases Input.ofText input with
  | empty => rfl
  | unary text =>
    have same : d.unary method text mode = _ := Dispatcher.unary_rerouted .aPing
    simp only [Dispatcher.ping, same]
  | streaming text => exact Dispatcher.stream_rerouted _

/-- An input that is no timestamp is refused, or it is not for a single call. -/
theorem send_other (unread : Input.timestamp? input = none) :
    send d id input mode method = d.handle id input mode := by
  rcases Input.readers_of_shape input with ⟨shape, -⟩ | ⟨text, shape, same, -⟩ | ⟨text, shape, -⟩
  · simp only [send, shape]
  · simp only [send, Dispatcher.handle, Dispatcher.ping, Dispatcher.unary, shape, same, unread]
  · simp only [send, shape]

/-- A timestamp is sent by one call, and its answer decides what comes of it. -/
theorem send_timestamp {t : Int64} (read : Input.timestamp? input = some t) :
    send d id input mode method =
      ((Dispatcher.unaryCourse d.config.responseDelay.toNat
          (Transport.unary (d.transports.select mode) method ⟨t⟩ d.config.unaryHeaders).1).map
            (·.map .pong),
        d.update mode
          (Transport.unary (d.transports.select mode) method ⟨t⟩ d.config.unaryHeaders).2) := by
  have again := (Input.timestamp?_trim input).trans read
  simp only [send, Input.ofText_of_timestamp? read, Dispatcher.unary, again]

private theorem send_timestamp_calls {t : Int64} (read : Input.timestamp? input = some t)
    (m : Mode) : (send d.recorded id input mode method).2.callsOf m =
      callsIn m [(mode, .unary method ⟨t⟩ d.config.unaryHeaders)] := by
  rw [send_timestamp read, Dispatcher.recorded_unary]
  exact Dispatcher.callsOf_first _ _ m

/-- An input that is no timestamp makes no call whose method could be chosen. -/
theorem handle_calls_via (unread : Input.timestamp? input = none) (m : Mode) :
    ((d.recorded.handle id input mode).2.callsOf m).map (Call.via method) =
      (d.recorded.handle id input mode).2.callsOf m := by
  obtain ⟨s, said, -, handles⟩ := (d.handle_obeys id input mode).handled
  rw [handles.calls]
  cases s with
  | timestamp v =>
    have read := Input.timestamp?_eq_some.mpr ⟨v, said, rfl⟩
    cases unread.symm.trans read
  | stream count v => cases m <;> cases mode <;> rfl
  | _ => rfl

private theorem send_calls (m : Mode) :
    (send d.recorded id input mode method).2.callsOf m =
      ((d.recorded.handle id input mode).2.callsOf m).map (Call.via method) := by
  cases read : Input.timestamp? input with
  | none => rw [send_other read, handle_calls_via read]
  | some t =>
    rw [← send_usual, send_timestamp_calls read, send_timestamp_calls read]
    cases m <;> cases mode <;> rfl

/-- A program that sends an input does what the dispatcher does with a line, but for the method of a
single call. -/
theorem send_agrees (d : Dispatcher τ) (id : RequestId) (input : String) (mode : Mode)
    (method : Method) : Agrees d id input mode method where
  rerouted := send_rerouted
  calls := send_calls
  timestamp _ read := send_timestamp_calls read
  answered same := by
    cases read : Input.timestamp? input with
    | none => rw [send_other read]
    | some t => rw [← send_usual, send_timestamp read, send_timestamp read, same t read]
  usual := send_usual
  other := send_other
  streaming _ shape _ := by simp only [send, shape]

/-- A timestamp goes to the method that was chosen; two numbers are a stream for any method. -/
theorem send_agrees_post :
    let t : Rehearsal := ⟨.text, [(5, .failure ⟨.notFound, "no such method"⟩)], []⟩
    let d : Dispatcher Rehearsal := ⟨⟨t, { t with mode := .binary }⟩, .default⟩
    (send d.recorded ⟨7⟩ " 5" .binary .aPost).2.callsOf .binary =
        [.unary .aPost ⟨5⟩ d.config.unaryHeaders] ∧
      (send d.recorded ⟨7⟩ " 5" .binary .aPost).2.callsOf .text = [] ∧
      send d ⟨7⟩ "3 5" .text .aPost = d.handle ⟨7⟩ "3 5" .text := by
  intro t d
  have single := (send_agrees d ⟨7⟩ " 5" .binary .aPost).timestamp 5 (by decide)
  exact ⟨single .binary, single .text,
    (send_agrees d ⟨7⟩ "3 5" .text .aPost).other (by decide)⟩

end Program
end GatewayPing
