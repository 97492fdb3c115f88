import GatewayPing.Proofs.Json.Objects
import GatewayPing.Proofs.Wire.Limits
import GatewayPing.Proofs.Wire.Verbatim

/-! Calls to a gateway of the other encoding. A request in one encoding is never one in the other,
whatever it holds: the keys of a message in binary form look like no JSON, and the JSON of a message
looks like a group in which a value is far too long. So the gateway refuses every call, and the user
is told of a failure and never of a pong. Main statement: `Dispatcher.mismatch_failsClosed`. -/
namespace GatewayPing

namespace Protobuf

/-- A group is not passed over if the length of a value in it exceeds what is left. -/
theorem skipGroups_underflow {s inner rest : Bytes} {number n length : Nat}
    (keyed : takeKey s = .ok (⟨n, .delimited⟩, inner))
    (announced : takeVarint inner = .ok (length, rest)) (short : rest.length < length) :
    skipGroups [number] s = .error .underflow := by
  have refused : skipScalar .delimited inner = .error .underflow := by
    simp only [skipScalar, takeDelimited, announced, takeBytes, short, ↓reduceIte]
    rfl
  have shallow : ¬ maxDepth ≤ ([] : List Nat).length + 1 := by decide
  rw [skipGroups]
  split
  all_goals rename_i same; cases keyed.symm.trans same
  rw [if_neg nofun, if_neg shallow, if_neg nofun]
  split
  all_goals rename_i same; cases refused.symm.trans same
  rfl

end Protobuf

namespace Schema

variable {σ : Type} {schema : Schema σ}

/-- The byte that is the key of a field with a small number. -/
def keyByte (f : FieldSpec σ) : UInt8 := (f.number * 8 + f.kind.wire.toNat).toUInt8

/-- A message in binary form is empty or begins with the key of a field. -/
theorem toBinary_head {m : σ} {fields : List (FieldSpec σ)}
    (small : ∀ f ∈ fields, f.number * 8 + f.kind.wire.toNat < 128) :
    ∀ b ∈ (fields.flatMap fun f => fieldBinary f m).head?, ∃ f ∈ fields, b = keyByte f := by
  induction fields with
  | nil => nofun
  | cons f fields ih =>
    intro b first
    rw [List.flatMap_cons] at first
    by_cases missing : f.kind.isDefault (f.get m) = true
    · rw [fieldBinary, if_pos missing, List.nil_append] at first
      obtain ⟨g, inside, same⟩ :=
        ih (fun g member => small g (List.mem_cons_of_mem _ member)) b first
      exact ⟨g, List.mem_cons_of_mem _ inside, same⟩
    · have key : (Protobuf.Key.mk f.number f.kind.wire).write = [keyByte f] := by
        rw [Protobuf.Key.write, Protobuf.varint]
        exact if_pos (small f List.mem_cons_self)
      rw [fieldBinary, if_neg missing, key] at first
      cases first
      exact ⟨f, List.mem_cons_self, rfl⟩

/-- No key of a field looks like the start of a message in JSON, so that a message in binary form is
refused. -/
theorem ofJson_toBinary (small : ∀ f ∈ schema.fields, f.number * 8 + f.kind.wire.toNat < 128)
    (bare : ∀ f ∈ schema.fields, Json.isBlank (keyByte f) = false ∧
      keyByte f ≠ byte '[' ∧ keyByte f ≠ byte '\x7b') (m : σ) :
    ∃ e, schema.ofJson (schema.toBinary m) = .error e := by
  have head : ∀ b ∈ (schema.toBinary m).head?, ∃ f ∈ schema.fields, b = keyByte f :=
    toBinary_head small
  refine Json.record_refuses _ _ _ ?_
  intro b first
  cases written : schema.toBinary m with
  | nil =>
    rw [written] at first
    cases first
  | cons c s =>
    rw [written] at head first
    obtain ⟨f, known, rfl⟩ := head c rfl
    obtain ⟨solid, brackets⟩ := bare f known
    rw [Json.skipBlank_cons solid] at first
    cases first
    exact brackets

/-- The brace of an object is the key of a group, the quote of its first name is that of a text in
it, and the first letter of the name is the length of the text. -/
theorem ofBinary_object (unknown : ∀ f ∈ schema.fields, f.number ≠ 15) {s : Bytes}
    (short : s.length < 116) :
    schema.ofBinary (byte '\x7b' :: byte '"' :: byte 't' :: s) = .error ⟨none, .underflow⟩ := by
  have group : Protobuf.takeKey (byte '\x7b' :: byte '"' :: byte 't' :: s) =
      .ok (⟨15, .startGroup⟩, byte '"' :: byte 't' :: s) := rfl
  have text : Protobuf.takeKey (byte '"' :: byte 't' :: s) =
      .ok (⟨4, .delimited⟩, byte 't' :: s) := rfl
  have length : Protobuf.takeVarint (byte 't' :: s) = .ok (116, s) := rfl
  have missing : schema.fields.find? (·.number == 15) = none := by simpa using unknown
  have skipped : Protobuf.skipField ⟨15, .startGroup⟩ (byte '"' :: byte 't' :: s) =
      .error .underflow := Protobuf.skipGroups_underflow text length short
  rw [ofBinary, readFields_keyed group]
  simp only [takeField, missing, skipped]

private theorem ofBinary_toJson (unknown : ∀ f ∈ schema.fields, f.number ≠ 15) {m : σ} {s : Bytes}
    (begins : schema.toJson m = byte '\x7b' :: byte '"' :: byte 't' :: s)
    (short : (schema.toJson m).length < 119) :
    ∃ e, schema.ofBinary (schema.toJson m) = .error e := by
  rw [begins] at short ⊢
  simp only [List.length_cons] at short
  exact ⟨_, ofBinary_object unknown (by omega)⟩

end Schema

/-! The requests. Both begin with a name that begins with a letter whose code is 116. -/

private theorem Ping.toJson_length_le (m : Ping) : (schema.toJson m).length ≤ 34 := by
  have name : (Json.writeString "timestamp").length = 11 := by decide
  have timestamp : (Kind.int64.json m.timestamp).length ≤ 20 := Kind.int64.json_length_le m.timestamp
  simp only [Schema.toJson, schema, Json.writeObject, Json.writeMember, Json.separated, List.map_cons,
    List.map_nil, List.length_append, List.length_cons, List.length_nil, name]
  omega

private theorem StreamPing.toJson_length_le (m : StreamPing) : (schema.toJson m).length ≤ 109 := by
  have names : (Json.writeString "timestamp").length = 11 ∧
      (Json.writeString "messageCount").length = 14 ∧
      (Json.writeString "messageInterval").length = 17 := by decide
  have timestamp : (Kind.int64.json m.timestamp).length ≤ 20 := Kind.int64.json_length_le m.timestamp
  have count : (Kind.int32.json m.messageCount).length ≤ 20 :=
    Kind.int32.json_length_le m.messageCount
  have interval : (Kind.int32.json m.messageInterval).length ≤ 20 :=
    Kind.int32.json_length_le m.messageInterval
  simp only [Schema.toJson, schema, Json.writeObject, Json.writeMember, Json.separated, List.map_cons,
    List.map_nil, List.length_append, List.length_cons, List.length_nil, names]
  omega

/-- Messages in one encoding are no messages in the other. -/
structure Schema.Apart {σ : Type} (schema : Schema σ) : Prop where
  binary : ∀ m, ∃ e, schema.ofJson (schema.toBinary m) = .error e
  text : ∀ m, ∃ e, schema.ofBinary (schema.toJson m) = .error e

private theorem Ping.schema_apart : Ping.schema.Apart where
  binary := Schema.ofJson_toBinary (by decide) (by decide)
  text m := Schema.ofBinary_toJson (by decide) rfl
    (Nat.lt_of_le_of_lt m.toJson_length_le (by decide))

private theorem StreamPing.schema_apart : StreamPing.schema.Apart where
  binary := Schema.ofJson_toBinary (by decide) (by decide)
  text m := Schema.ofBinary_toJson (by decide) rfl
    (Nat.lt_of_le_of_lt m.toJson_length_le (by decide))

private theorem Schema.Apart.decode {σ : Type} {schema : Schema σ} (apart : schema.Apart)
    {mode other : Mode} (different : other ≠ mode) (m : σ) :
    ∃ e, schema.decode other (schema.encode mode m) = .error e := by
  cases mode with
  | text =>
    cases other with
    | text => exact absurd rfl different
    | binary =>
      obtain ⟨e, refused⟩ := apart.text m
      exact ⟨.binary e, congrArg (Except.mapError DecodeError.binary) refused⟩
  | binary =>
    cases other with
    | text =>
      obtain ⟨e, refused⟩ := apart.binary m
      exact ⟨.json e, congrArg (Except.mapError DecodeError.json) refused⟩
    | binary => exact absurd rfl different

/-! The gateway. -/

namespace Gateway

variable {α : Type} {schema : Schema α} {mode : Mode} {headers : Headers}

/-- A request whose message cannot be read. -/
theorem received_undecodable {payload : Bytes} {e : DecodeError}
    (short : payload.length ≤ Frame.maxLength) (refused : schema.decode mode payload = .error e)
    (plain : compression? headers = none) (verb path : String) :
    received schema mode ⟨verb, path, headers, Frame.wrap payload⟩ = .error e.status := by
  have next : (⟨Frame.wrap payload, none⟩ : Frame.Reader).next = .message payload ⟨[], none⟩ := by
    have framed := Frame.Reader.next_wrap short []
    rwa [List.append_nil] at framed
  have read : Response.read ⟨Response.fine, [], [Frame.wrap payload], .bare⟩ (schema.decode mode)
      .settled = ⟨[], some e.status, []⟩ := by
    rw [Response.read, Body.readFrom_flatten]
    simp only [Frame.Reader.feed, List.flatten_cons, List.flatten_nil, List.append_nil,
      List.nil_append]
    rw [Body.readFrom_message next, refused]
    rfl
  simp only [received, plain, read]

/-- A refusal tells of its status in its headers. -/
theorem refusal_toldAhead (s : Status) : (refusal s).ToldAhead s := by
  have kind : Headers.lower contentType.1 = contentType.1 := by decide
  have lowered : (refusal s).headers.lowered = contentType :: statusHeaders s := by
    show (Headers.lower contentType.1, contentType.2) :: (statusHeaders s).lowered = _
    rw [s.statusHeaders_lowered, kind]
  have other (name : String) (apart : (contentType.1 == name) = false) :
      Headers.first? (contentType :: statusHeaders s) name = (statusHeaders s).first? name := by
    simp only [Headers.first?, List.find?_cons, apart]
  have told := s.statusHeaders_tell
  refine ⟨?_, ?_, ?_⟩
  · have silent : (statusHeaders s).first? encodingHeader = none := by
      have code : (statusHeader == encodingHeader) = false := by decide
      have message : (messageHeader == encodingHeader) = false := by decide
      unfold statusHeaders
      split <;> simp only [Headers.first?, List.find?_cons, code, message, List.find?_nil,
        Option.map_none]
    rw [lowered, compression?, other _ (by decide), silent]
  · rw [lowered, other _ (by decide)]
    exact told.code
  · rw [lowered, other _ (by decide)]
    exact told.message

end Gateway

/-! The client. -/

namespace Client

variable {c : Client (Observed Gateway)} {hs : Headers}

private theorem collect_proper (proper : ∀ h ∈ hs, Metadata.Proper h) :
    ∃ all, Metadata.collect [] hs = .ok all ∧ compression? (Metadata.onWire all) = none :=
  Metadata.collect_plain (fun h member => ⟨(proper h member).key, (proper h member).value⟩)
    fun h member => Metadata.ne_encodingHeader (proper h member).foreign

/-- A single call to a gateway of the other encoding. -/
theorem unary_mismatch (mismatched : ¬ c.Matched) (proper : ∀ h ∈ hs, Metadata.Proper h)
    (method : Method) (ping : Ping) :
    ∃ message, (c.unary method ping hs).1 = .now (.error (.status ⟨.internal, message⟩)) := by
  obtain ⟨all, collected, plain⟩ := collect_proper proper
  obtain ⟨e, refused⟩ := Ping.schema_apart.decode mismatched ping
  obtain ⟨name, -, echoes⟩ := Gateway.respond_method method
  have unread := Gateway.received_undecodable (ping.short c.mode) refused plain "POST" method.path
  have failed : e.status.code ≠ .ok := nofun
  refine ⟨e.statusMessage, ?_⟩
  simp only [unary, exchange_gateway c _ _ collected, request, echoes, Gateway.echo, unread]
  exact congrArg Eventual.now
    (Response.single_told failed (.inl (Gateway.refusal_toldAhead e.status)))

/-- A stream that a gateway of the other encoding is asked for. -/
theorem stream_mismatch (mismatched : ¬ c.Matched) (proper : ∀ h ∈ hs, Metadata.Proper h)
    (ping : StreamPing) :
    ∃ message, (c.stream ping hs).1 = .now (.error (.status ⟨.internal, message⟩)) := by
  obtain ⟨all, collected, plain⟩ := collect_proper proper
  obtain ⟨e, refused⟩ := StreamPing.schema_apart.decode mismatched ping
  have unread := Gateway.received_undecodable (ping.short c.mode) refused plain "POST" streamingPath
  have failed : e.status.code ≠ .ok := nofun
  refine ⟨e.statusMessage, ?_⟩
  simp only [stream, exchange_gateway c _ _ collected, request, Gateway.respond_stream,
    Gateway.stream, unread]
  exact congrArg Eventual.now ((Gateway.refusal_toldAhead e.status).stream failed)

end Client

/-! What the user sees. -/

/-- What the user is told of a call that the gateway could not read. -/
theorem Failure.told_internal (message : String) :
    (Failure.rejected ⟨.internal, message⟩).told =
      ⟨.danger, s!"Error code: 13 \"{message}\""⟩ := by
  have words : "Error code: " ++ toString 13 ++ " \"" = "Error code: 13 \"" := by decide
  show (⟨.danger, "Error code: " ++ toString 13 ++ " \"" ++ message ++ "\""⟩ : Notification) = _
  rw [words]
  rfl

/-- The session of a line has proper headers if the configuration has. -/
theorem Session.create_proper {config : Config}
    (proper : ∀ h ∈ config.streamingHeaders, Metadata.Proper h) (count : UInt32)
    (timestamp : Int64) (id : RequestId) :
    ∀ h ∈ (create count timestamp config id).headers, Metadata.Proper h := by
  have key : Metadata.isKey Gateway.identityHeader = true := by decide
  have foreign : ¬ "grpc-".toList <+: (Headers.lower Gateway.identityHeader).toList := by decide
  intro h member
  rcases List.mem_append.mp member with configured | last
  · exact proper h configured
  · obtain rfl := List.mem_singleton.mp last
    exact ⟨key, id.text_isValue, foreign⟩

namespace Dispatcher

variable {d : Dispatcher (Client (Observed Gateway))} {mode : Mode}

/-- What comes of calls in a mode whose gateway speaks the other encoding. -/
structure FailsClosed (d : Dispatcher (Client (Observed Gateway))) (mode : Mode) : Prop where
  unary : ∀ (method : Method) (ping : Ping) (hs : Headers), (∀ h ∈ hs, Metadata.Proper h) →
    ∃ message, ((d.transports.select mode).unary method ping hs).1 =
      .now (.error (.status ⟨.internal, message⟩))
  stream : ∀ (ping : StreamPing) (hs : Headers), (∀ h ∈ hs, Metadata.Proper h) →
    ∃ message, ((d.transports.select mode).stream ping hs).1 =
      .now (.error (.status ⟨.internal, message⟩))
  /-- An operation that makes a single call reports this failure and nothing else. -/
  single : ∀ op : Operation, op.mode = mode → ∀ method ping, op.plan d = .single method ping →
    (∀ h ∈ d.config.unaryHeaders, Metadata.Proper h) →
    ∃ message,
      (op.alone d).1.notices = [⟨.danger, s!"Error code: 13 \"{message}\""⟩] ∧
      (op.alone d).1.result? =
        some (0, op.ofPong (.error (.failed (.rejected ⟨.internal, message⟩))))
  /-- So does an operation that runs a session. -/
  session : ∀ op : Operation, op.mode = mode → ∀ s, op.plan d = .stream s →
    s.Idle → s.cancelled = false → (∀ h ∈ s.headers, Metadata.Proper h) →
    ∃ message,
      (op.alone d).1.notices = [⟨.danger, s!"Error code: 13 \"{message}\""⟩] ∧
      (op.alone d).1.result? =
        some (0, op.ofRun { s with state := .done (.failed ⟨.internal, message⟩), received := 0 }
          (.error (.failed (.rejected ⟨.internal, message⟩))))

private theorem single_mismatch {op : Operation} {method : Method} {ping : Ping}
    (mismatched : ¬ (d.transports.select op.mode).Matched) (planned : op.plan d = .single method ping)
    (proper : ∀ h ∈ d.config.unaryHeaders, Metadata.Proper h) :
    ∃ message,
      (op.alone d).1.notices = [⟨.danger, s!"Error code: 13 \"{message}\""⟩] ∧
      (op.alone d).1.result? =
        some (0, op.ofPong (.error (.failed (.rejected ⟨.internal, message⟩)))) := by
  obtain ⟨message, called⟩ := Client.unary_mismatch mismatched proper method ping
  have answer : (Transport.unary (d.transports.select op.mode) method ping
      d.config.unaryHeaders).1 = .now (.error (.status ⟨.internal, message⟩)) := by
    simp only [Transport.unary, called]
    rfl
  have course : (op.alone d).1 = (unaryCourse d.config.responseDelay.toNat
      (.now (.error (.status ⟨.internal, message⟩)))).map op.ofPong := by
    simp only [op.alone_plan d, planned, Operation.Plan.course, Operation.callCourse, answer]
  refine ⟨message, ?_, ?_⟩
  · rw [course, Course.notices_map, ← Failure.told_internal, ← Failure.told_eq]
    rfl
  · rw [course, Course.result?_map]
    rfl

private theorem session_mismatch {op : Operation} {s : Session}
    (mismatched : ¬ (d.transports.select op.mode).Matched) (planned : op.plan d = .stream s)
    (idle : s.Idle) (live : s.cancelled = false) (proper : ∀ h ∈ s.headers, Metadata.Proper h) :
    ∃ message,
      (op.alone d).1.notices = [⟨.danger, s!"Error code: 13 \"{message}\""⟩] ∧
      (op.alone d).1.result? =
        some (0, op.ofRun { s with state := .done (.failed ⟨.internal, message⟩), received := 0 }
          (.error (.failed (.rejected ⟨.internal, message⟩)))) := by
  obtain ⟨message, called⟩ := Client.stream_mismatch mismatched proper s.request
  have answer : (Transport.stream (d.transports.select op.mode) s.request s.headers).1 =
      .after 0 (.error (.status ⟨.internal, message⟩)) := by
    simp only [Transport.stream, called]
    rfl
  have fails := Session.run_rejected idle live answer
  let run : Session.Run := ⟨s.started, (s.trace (d.transports.select op.mode) none).1⟩
  have course : (op.alone d).1 = run.course.map fun r => op.ofRun r.1 r.2 := by
    rw [Session.Run.course, Course.map_course]
    simp only [op.alone_plan d, planned, Operation.Plan.course, Operation.runCourse,
      runSession_idle idle.state, run]
  refine ⟨message, ?_, ?_⟩
  · rw [course, Course.notices_map, fails.notices, Failure.told_internal]
    rfl
  · rw [course, Course.result?_map, fails.result, fails.final]
    rfl

/-- A gateway of the other encoding refuses every call, and every operation reports that as one
failure. -/
theorem mismatch_failsClosed (d : Dispatcher (Client (Observed Gateway)))
    (mismatched : ¬ (d.transports.select mode).Matched) : d.FailsClosed mode where
  unary method ping _ proper := Client.unary_mismatch mismatched proper method ping
  stream ping _ proper := Client.stream_mismatch mismatched proper ping
  single := by
    rintro op rfl method ping planned proper
    exact single_mismatch mismatched planned proper
  session := by
    rintro op rfl s planned idle live proper
    exact session_mismatch mismatched planned idle live proper

/-- A client in binary mode asks a gateway in text mode for a stream, all of whose numbers are zero:
nothing is left of the request in binary form. -/
theorem mismatch_failsClosed_zero :
    let d : Dispatcher (Client (Observed Gateway)) :=
      ⟨⟨Client.meeting .text none, ⟨⟨⟨.text⟩, []⟩, .binary, none⟩⟩,
        { Config.default with messageInterval := 0 }⟩
    let s := Session.create 0 0 d.config ⟨0⟩
    ¬ (d.transports.select .binary).Matched ∧ d.FailsClosed .binary ∧
      (Operation.runStream s .binary).plan d = .stream s ∧ s.Idle ∧ s.cancelled = false ∧
      ∀ h ∈ s.headers, Metadata.Proper h := by
  intro d s
  have mismatched : ¬ (d.transports.select .binary).Matched := nofun
  have configured : ∀ h ∈ d.config.streamingHeaders, Metadata.Proper h := by
    intro h member
    obtain rfl := List.mem_singleton.mp member
    exact ⟨by decide, by decide, by decide⟩
  exact ⟨mismatched, mismatch_failsClosed d mismatched, rfl, Session.create_idle _ _ _ _, rfl,
    Session.create_proper configured _ _ _⟩

end Dispatcher
end GatewayPing
