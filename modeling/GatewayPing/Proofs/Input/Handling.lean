import GatewayPing.Proofs.Concurrent.Calls
import GatewayPing.Proofs.Input.Grammar
import GatewayPing.Proofs.Session.Polling
import GatewayPing.Proofs.Wording

/-! Handling a line of input. What a dispatcher does with a line is what the line says by the
grammar: a timestamp is sent by a single call, a count and a timestamp by a stream, each in the
mode of the line; a blank line is ignored, and an unreadable one is refused. Main statement:
`Dispatcher.handle_obeys`. -/
namespace GatewayPing

open Input (Sentence Says)

namespace Input.Sentence

variable {τ : Type}

/-- The session of a line that says a count and a timestamp. It asks for as many pongs as the
configuration allows and a request can say, and its identifier goes after the configured headers. -/
def session (config : Config) (id : RequestId) (count v : Nat) : Session where
  request :=
    { timestamp := .ofNat v
      messageCount := .ofNat (min count (min config.maxStreamMessages.toNat (2 ^ 31 - 1)))
      messageInterval := .ofNat (min config.messageInterval.toNat (2 ^ 31 - 1)) }
  headers := config.streamingHeaders ++ [("x-request-id", id.text)]
  state := .idle
  received := 0
  cancelled := false

/-- The call that a sentence asks for. -/
def call? (config : Config) (id : RequestId) : Sentence → Option Call
  | .timestamp v => some (.unary .aPing ⟨.ofNat v⟩ config.unaryHeaders)
  | .stream count v =>
    let s := session config id count v
    some (.stream s.request s.headers)
  | _ => none

/-- What is wrong with a text that is not readable. -/
def fault (text : List Char) : Expected := if text.any Text.isBlank then .stream else .timestamp

/-- A failure at a time. The user is told, and it is the result. -/
def failing (time : Nat) (f : Failure) : Course (Except OperationError Outcome) :=
  [(time, .notice f.told), (time, .finished (.error (.failed f)))]

/-- What comes of a single call, by its answer: a pong is told after a delay, a failure at once. -/
def answered (delay : Nat) :
    Eventual (Except CallError Pong) → Course (Except OperationError Outcome)
  | .never => []
  | .after time (.ok p) =>
    [(time + delay, .notice p.told), (time + delay, .finished (.ok (.pong p)))]
  | .after time (.error (.request e)) => failing time (.unsent e)
  | .after time (.error (.status s)) => failing time (.rejected s)

/-- What comes of a stream from a time on, by its elements, when so many pongs were received before:
each pong is told when it comes, and a failure is the end. -/
def streaming (staysOpen : Bool) (time received : Nat) :
    List (Nat × Except Status StreamPong) → Course (Except OperationError Outcome)
  | [] => if staysOpen then [] else [(time, .finished (.ok (.streamed received .completed)))]
  | (delay, .ok p) :: items =>
    (time + delay, .notice p.told) :: streaming staysOpen (time + delay) (received + 1) items
  | (delay, .error s) :: _ => failing (time + delay) (.broken s)

/-- What comes of the call of a stream, by its answer. -/
def streamed : Eventual (Except CallError Feed) → Course (Except OperationError Outcome)
  | .never => []
  | .after time (.ok feed) => streaming feed.staysOpen time 0 feed.items
  | .after time (.error (.request e)) => failing time (.unsent e)
  | .after time (.error (.status s)) => failing time (.rejected s)

/-- What comes of a sentence. Where a call is made, its answer decides. -/
def course [Transport τ] (d : Dispatcher τ) (id : RequestId) (mode : Mode) :
    Sentence → Course (Except OperationError Outcome)
  | .blank => [(0, .finished (.ok .ignored))]
  | .timestamp v =>
    let reply := Transport.unary (d.transports.select mode) .aPing ⟨.ofNat v⟩ d.config.unaryHeaders
    answered d.config.responseDelay.toNat reply.1
  | .stream count v =>
    let s := session d.config id count v
    let reply := Transport.stream (d.transports.select mode) s.request s.headers
    streamed reply.1
  | .unreadable text =>
    [(0, .notice (fault text).told),
      (0, .finished (.error (.invalidInput (String.ofList text) (fault text))))]

/-! The dispatcher makes of a line what the sentence says. -/

private theorem toNat_min (a b : UInt32) : (min a b).toNat = min a.toNat b.toNat := by
  change (if a ≤ b then a else b).toNat = _
  split
  · rename_i le
    rw [Nat.min_eq_left (UInt32.le_iff_toNat_le.mp le)]
  · rename_i gt
    rw [UInt32.le_iff_toNat_le] at gt
    rw [Nat.min_eq_right (by omega)]

theorem session_idle (config : Config) (id : RequestId) (count v : Nat) :
    (session config id count v).Idle := ⟨rfl, rfl⟩

/-- A count that does not fit 32 bits is limited like any other. -/
theorem create_session (config : Config) (id : RequestId) (count v : Nat) :
    Session.create (.ofNat (min count (2 ^ 32 - 1))) (.ofNat v) config id =
      session config id count v := by
  have limited : config.maxStreamMessages.toNat < 4294967296 := UInt32.toNat_lt _
  have typed : (UInt32.ofNat (min count (2 ^ 32 - 1))).toNat = min count 4294967295 :=
    UInt32.toNat_ofNat_of_lt (Nat.lt_of_le_of_lt (Nat.min_le_right _ _) (by decide))
  have least : min (min (UInt32.ofNat (min count (2 ^ 32 - 1))) config.maxStreamMessages).toNat
      Session.maxRequestValue = min count (min config.maxStreamMessages.toNat (2 ^ 31 - 1)) := by
    rw [toNat_min, typed, Session.maxRequestValue]
    omega
  rw [Session.create, Session.clamped, least]
  rfl

/-- A failure of a single call is reported at once. -/
theorem unaryCourse_answered (delay : Nat) (reply : Eventual (Except CallError Pong)) :
    (Dispatcher.unaryCourse delay reply).map (·.map Outcome.pong) = answered delay reply := by
  match reply with
  | .never => rfl
  | .after _ (.ok _) => rfl
  | .after _ (.error (.request e)) =>
    rw [answered, failing, ← Failure.told_eq]
    rfl
  | .after _ (.error (.status s)) =>
    rw [answered, failing, ← Failure.told_eq]
    rfl

/-- How many pongs a session has received and what it came to. -/
def outcome (s : Session) (ending : Except OperationError Ending) :
    Except OperationError Outcome :=
  ending.map (.streamed s.received)

private theorem course_streaming (s : Session) (staysOpen : Bool) (time : Nat)
    (items : List (Nat × Except Status StreamPong)) :
    s.course outcome (Trace.ofItems staysOpen time items) =
      streaming staysOpen time s.received items := by
  induction items generalizing s time with
  | nil => cases staysOpen <;> rfl
  | cons item items ih =>
    obtain ⟨delay, answer⟩ := item
    cases answer with
    | ok p => exact congrArg (_ :: ·) (ih (s.apply (.pong p)) (time + delay))
    | error e =>
      rw [streaming, failing, ← Failure.told_eq]
      rfl

theorem course_streamed (s : Session) (idle : s.Idle) (reply : Eventual (Except CallError Feed)) :
    s.started.course outcome (Trace.ofReply reply) = streamed reply := by
  match reply with
  | .never => rfl
  | .after _ (.ok feed) =>
    rw [Trace.ofReply, course_streaming, streamed, ← idle.received]
    rfl
  | .after _ (.error (.request e)) =>
    rw [streamed, failing, ← Failure.told_eq]
    rfl
  | .after _ (.error (.status s)) =>
    rw [streamed, failing, ← Failure.told_eq]
    rfl

end Input.Sentence

namespace Dispatcher

variable {τ : Type} [Transport τ]

/-- What is done with a line: `s` is what it says. -/
structure Handles (d : Dispatcher τ) (id : RequestId) (raw : String) (mode : Mode) (s : Sentence) :
    Prop where
  /-- The calls that reach the transport of a mode: the one that is asked for, if any, where the
  mode is that of the line, and otherwise none. -/
  calls : ∀ m, (d.recorded.handle id raw mode).2.callsOf m =
    callsIn m ((s.call? d.config id).toList.map (mode, ·))
  course : (d.recorded.handle id raw mode).1 = s.course d id mode

variable {d : Dispatcher τ} {id : RequestId} {raw : String} {mode : Mode}

/-- A line that comes to nothing but an answer makes no call. -/
theorem Handles.of_quiet {s : Sentence} (quiet : s.call? d.config id = none)
    (handled : d.recorded.handle id raw mode = (s.course d id mode, d.recorded)) :
    d.Handles id raw mode s where
  calls m := by
    rw [handled, quiet]
    exact d.recorded_callsOf m
  course := by rw [handled]

theorem recorded_unary (method : Method) (ping : Ping) (headers : Headers) :
    Transport.unary (d.recorded.transports.select mode) method ping headers =
      ((Transport.unary (d.transports.select mode) method ping headers).1,
        ⟨(Transport.unary (d.transports.select mode) method ping headers).2,
          [.unary method ping headers]⟩) := by
  rw [recorded_select]
  rfl

theorem recorded_stream (ping : StreamPing) (headers : Headers) :
    Transport.stream (d.recorded.transports.select mode) ping headers =
      ((Transport.stream (d.transports.select mode) ping headers).1,
        ⟨(Transport.stream (d.transports.select mode) ping headers).2,
          [.stream ping headers]⟩) := by
  rw [recorded_select]
  rfl

omit [Transport τ] in
/-- The first call of a dispatcher is the only one in its logs. -/
theorem callsOf_first (call : Call) (t : τ) (m : Mode) :
    (d.recorded.update mode ⟨t, [call]⟩).callsOf m = callsIn m [(mode, call)] := by
  have logged : [call] = d.recorded.callsOf mode ++ (some call).toList := by
    rw [recorded_callsOf]
    rfl
  have grown : (d.recorded.update mode ⟨t, [call]⟩).callsOf m =
      d.recorded.callsOf m ++ callsIn m [(mode, call)] :=
    callsOf_update d.recorded (some call) logged m
  rw [grown, recorded_callsOf]
  rfl

private theorem handle_blank (blanks : Text.Blanks raw.toList) :
    d.Handles id raw mode .blank := by
  refine .of_quiet rfl ?_
  rw [handle, Input.ofText_blank blanks]
  rfl

private theorem handle_timestamp {v : Nat} (number : Input.HoldsNumber raw.toList v)
    (fits : v ≤ 2 ^ 63 - 1) : d.Handles id raw mode (.timestamp v) := by
  have read := Input.timestamp?_eq_some.mpr ⟨v, .timestamp number fits, rfl⟩
  rw [← Input.timestamp?_trim] at read
  have handled : d.recorded.handle id raw mode =
      (Sentence.course d id mode (.timestamp v), d.recorded.update mode
        (Transport.unary (d.recorded.transports.select mode) .aPing ⟨.ofNat v⟩
          d.config.unaryHeaders).2) := by
    simp only [handle, Input.ofText_of_number number, ping, unary, read, recorded_unary,
      Sentence.unaryCourse_answered]
    rfl
  refine ⟨fun m => ?_, by rw [handled]⟩
  rw [handled, recorded_unary]
  exact callsOf_first _ _ m

/-- A line that asks for a stream starts one, and nothing but the answer decides what comes of it. -/
theorem handle_numbers {n v : Nat} (numbers : Input.HoldsNumbers raw.toList n v) (positive : 1 ≤ n)
    (fits : v ≤ 2 ^ 63 - 1) :
    d.handle id raw mode =
      (Sentence.course d id mode (.stream n v), d.update mode
        (Transport.stream (d.transports.select mode) (Sentence.session d.config id n v).request
          (Sentence.session d.config id n v).headers).2) := by
  have read := Input.stream?_eq_some.mpr ⟨n, v, .stream numbers positive fits, rfl⟩
  rw [← Input.stream?_trim] at read
  let s := Sentence.session d.config id n v
  have idle : s.Idle := Sentence.session_idle d.config id n v
  have made : d.newSession id (String.ofList (Text.trim raw.toList)) = .ok s := by
    rw [newSession, read]
    exact congrArg Except.ok (Sentence.create_session d.config id n v)
  simp only [handle, Input.ofText_of_numbers numbers, stream, made, runSession_idle idle.state]
  rw [Session.trace_running idle.state rfl, Session.trace_transport idle.state rfl (by simp)]
  exact Prod.ext (Sentence.course_streamed s idle _) rfl

private theorem handle_stream {n v : Nat} (numbers : Input.HoldsNumbers raw.toList n v)
    (positive : 1 ≤ n) (fits : v ≤ 2 ^ 63 - 1) :
    d.Handles id raw mode (.stream n v) := by
  have handled := @handle_numbers _ _ d.recorded id raw mode n v numbers positive fits
  refine ⟨fun m => ?_, ?_⟩
  · rw [handled, recorded_stream]
    exact callsOf_first _ _ m
  · rw [handled]
    simp only [Sentence.course, recorded_stream]
    rfl

private theorem handle_unreadable {text : List Char} (said : Says raw.toList (.unreadable text)) :
    d.Handles id raw mode (.unreadable text) := by
  have noTimestamp := (Input.timestamp?_trim raw).trans (Input.timestamp?_of_unreadable said)
  have noStream := (Input.stream?_trim raw).trans (Input.stream?_of_unreadable said)
  refine .of_quiet rfl ?_
  cases said with
  | unreadable trimmed marked _ _ =>
    obtain rfl := Text.trim_of_trimmed trimmed
    rw [handle, Input.ofText_marked marked]
    cases parted : (Text.trim raw.toList).any Text.isBlank with
    | true =>
      simp only [↓reduceIte, stream, newSession, noStream, Sentence.course, Sentence.fault, parted,
        ← Expected.told_eq]
      rfl
    | false =>
      simp only [Bool.false_eq_true, ↓reduceIte, ping, unary, noTimestamp, Sentence.course,
        Sentence.fault, parted, ← Expected.told_eq]
      rfl

/-- A line is what it says to the dispatcher and to the readers of timestamps and of streams. -/
structure Obeys (d : Dispatcher τ) (id : RequestId) (raw : String) (mode : Mode) : Prop where
  /-- A line says one thing only, and that is done. -/
  handled : ∃ s, Says raw.toList s ∧ (∀ t, Says raw.toList t → t = s) ∧ d.Handles id raw mode s
  /-- Each reader accepts exactly the lines of its kind. -/
  timestamps : ∀ t, Input.timestamp? raw = some t ↔
    ∃ v, Says raw.toList (.timestamp v) ∧ t.toInt = v
  streams : ∀ s, Input.stream? raw = some s ↔
    ∃ n v, Says raw.toList (.stream n v) ∧ s.count.toNat = min n (2 ^ 32 - 1) ∧
      s.timestamp.toInt = v
  apart : Input.timestamp? raw = none ∨ Input.stream? raw = none
  /-- Each reader accepts lines of its own shape only. -/
  word : ∀ t, Input.timestamp? raw = some t →
    Input.ofText raw = .unary (String.ofList (Text.trim raw.toList))
  words : ∀ s, Input.stream? raw = some s →
    Input.ofText raw = .streaming (String.ofList (Text.trim raw.toList))

/-- There is one grammar for lines of input: that by which they are handled, and by which timestamps
and streams are read. -/
theorem handle_obeys (d : Dispatcher τ) (id : RequestId) (raw : String) (mode : Mode) :
    d.Obeys id raw mode := by
  refine ⟨?_, fun _ => Input.timestamp?_iff, fun _ => Input.stream?_iff, Input.readers_apart raw,
    fun _ => Input.ofText_of_timestamp?, fun _ => Input.ofText_of_stream?⟩
  obtain ⟨s, said⟩ := Input.exists_sentence raw.toList
  refine ⟨s, said, fun t other => other.unique said, ?_⟩
  cases said with
  | blank blanks => exact handle_blank blanks
  | timestamp number fits => exact handle_timestamp number fits
  | stream numbers positive fits => exact handle_stream numbers positive fits
  | unreadable trimmed marked single double =>
    exact handle_unreadable (.unreadable trimmed marked single double)

end Dispatcher
end GatewayPing
