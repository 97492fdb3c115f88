import GatewayPing.Proofs.Wire.Framing
import GatewayPing.Streaming

/-! Streams that are handed out are well shaped: pongs, then a failure at most, and then the end,
whatever the response is and however its reader would go on after a failure
(`Response.download_drained`). How the body of a response is cut into chunks makes no difference, to
streams and to single answers. Main statement: `Client.recut_alike`. -/
namespace GatewayPing

/-! Guarded streams. -/

namespace Guarded

variable {σ α : Type} [Source σ α] {g g' : Guarded σ} {item : Except Status α}
  {items : List (Except Status α)}

private theorem take_end (last : g.next = none) (n : Nat) : g.take (n + 1) = ([], none) := by
  simp only [take, last]

private theorem take_item (found : g.next = some (item, g')) (n : Nat) :
    g.take (n + 1) = (item :: (g'.take n).1, (g'.take n).2) := by
  simp only [take, found]

/-- A stream that gives some elements, one at a time, and then is over. -/
structure Gives (g : Guarded σ) (items : List (Except Status α)) : Prop where
  taken : ∀ n, (g.take n).1 = items.take n
  ends : ∀ n, (g.take n).2 = none ↔ items.length < n

private theorem Gives.nil (last : g.next = none) : g.Gives [] := by
  constructor
  · rintro (_ | n)
    · rfl
    · rw [take_end last]
      rfl
  · rintro (_ | n)
    · simp [take]
    · simp [take_end last]

private theorem Gives.cons (found : g.next = some (item, g')) (rest : g'.Gives items) :
    g.Gives (item :: items) := by
  constructor
  · rintro (_ | n)
    · rfl
    · rw [take_item found, rest.taken]
      rfl
  · rintro (_ | n)
    · simp [take]
    · rw [take_item found, rest.ends]
      simp

end Guarded

/-! The body of a response. -/

namespace Received

variable {α : Type}

/-- What was read of a body, after messages that were read before. -/
def after (messages : List α) (r : Received α) : Received α :=
  { r with messages := messages ++ r.messages }

private theorem items_after (messages : List α) (r : Received α) :
    (r.after messages).items = messages.map .ok ++ r.items := by
  simp only [items, after, List.map_append, List.append_assoc]

end Received

namespace Body

variable {α : Type} {decode : Bytes → Except DecodeError α} {closing : Closing}

/-- How a body ends does not depend on its messages. -/
theorem conclude_after (reader : Frame.Reader) (ending : BodyEnd) (first messages : List α) :
    conclude closing reader ending (first ++ messages) =
      (conclude closing reader ending messages).after first := by
  cases ending with
  | bare =>
    unfold conclude
    dsimp only
    split <;> rfl
  | trailers hs => rfl
  | failed reason => rfl

/-- What is read of a body does not depend on what was read before. -/
theorem readFrom_append (read before : List α) (b : Body) :
    readFrom decode closing (read ++ before) b =
      (readFrom decode closing read b).after before.reverse := by
  fun_induction readFrom decode closing read b with
  | case1 read b fault found =>
    rw [readFrom_broken found, List.reverse_append]
    rfl
  | case2 read b bytes reader found e undecoded =>
    rw [readFrom_message found, undecoded, List.reverse_append]
    rfl
  | case3 read b bytes reader found m decoded ih =>
    rw [readFrom_message found, decoded]
    exact ih
  | case4 read b reader found arrived =>
    rw [readFrom_over found arrived, List.reverse_append, conclude_after]
  | case5 read b reader found chunk chunks whole ih =>
    rw [readFrom_hungry found whole]
    exact ih

/-- The elements of a body are those that it gives when it is asked for them one by one. -/
theorem readFrom_seek (ending : BodyEnd) (reader : Frame.Reader) (chunks : List Bytes) :
    (readFrom decode closing [] ⟨reader, chunks, ending⟩).items =
      match seek decode closing ending reader chunks with
      | .message m b => .ok m :: (readFrom decode closing [] b).items
      | .ended _ => []
      | .failed s => [.error s] := by
  fun_induction seek decode closing ending reader chunks with
  | case1 reader chunks fault found =>
    rw [readFrom_broken found]
    rfl
  | case2 reader chunks bytes reader' found e undecoded =>
    rw [readFrom_message found, undecoded]
    rfl
  | case3 reader chunks bytes reader' found m decoded =>
    -- The message that is found is read before all others.
    rw [readFrom_message found, decoded]
    exact (congrArg _ (readFrom_append [] [m] _)).trans (Received.items_after _ _)
  | case4 reader reader' found chunk chunks ih =>
    rw [readFrom_hungry found rfl]
    exact ih
  | case5 reader reader' found whole fine =>
    rw [readFrom_over found rfl, Received.items, conclude_messages]
    simpa [whole] using fine
  | case6 reader reader' found whole s failed =>
    rw [readFrom_over found rfl, Received.items, conclude_messages]
    simpa [whole] using failed

end Body

namespace Download

variable {α ρ : Type} [Source ρ α]

/-- A download that is guarded gives the elements of its body, whatever is left of it after a
failure. -/
theorem gives (decode : Bytes → Except DecodeError α) (closing : Closing) (beyond : Status → ρ)
    (b : Body) :
    (⟨some ⟨decode, closing, beyond, .reading b⟩⟩ : Guarded (Download α ρ)).Gives
      (Body.readFrom decode closing [] b).items := by
  -- The induction is on the elements: a message is the first of them.
  generalize same : (Body.readFrom decode closing [] b).items = items
  have step : (Body.readFrom decode closing [] b).items = _ :=
    Body.readFrom_seek b.ending b.reader b.chunks
  induction items generalizing b with
  | nil =>
    refine .nil ?_
    rw [same] at step
    cases sought : Body.seek decode closing b.ending b.reader b.chunks with
    | message m b' => simp [sought] at step
    | failed s => simp [sought] at step
    | ended trailers =>
      simp [Guarded.next, Source.message, message, sought, Source.trailers, Download.trailers]
  | cons item items ih =>
    rw [same] at step
    cases sought : Body.seek decode closing b.ending b.reader b.chunks with
    | message m b' =>
      simp only [sought, List.cons.injEq] at step
      obtain ⟨rfl, rest⟩ := step
      refine .cons ?_ (ih b' rest.symm (Body.readFrom_seek ..))
      simp [Guarded.next, Source.message, message, sought]
    | failed s =>
      simp only [sought, List.cons.injEq] at step
      obtain ⟨rfl, rfl⟩ := step
      have gone : (⟨none⟩ : Guarded (Download α ρ)).Gives [] := .nil rfl
      refine .cons ?_ gone
      simp [Guarded.next, Source.message, message, sought]
    | ended trailers => simp [sought] at step

end Download

/-! Answers that come eventually. -/

/-- Values that are there at the same time and are related. -/
inductive Eventual.Related {α β : Type} (R : α → β → Prop) : Eventual α → Eventual β → Prop where
  | never : Related R .never .never
  | after (delay : Nat) {a : α} {b : β} (related : R a b) :
      Related R (.after delay a) (.after delay b)

namespace Eventual.Related

variable {α β γ δ : Type} {R : α → β → Prop} {S : γ → δ → Prop} {a : Eventual α} {b : Eventual β}

private theorem map (related : Related R a b) {f : α → γ} {g : β → δ}
    (kept : ∀ x y, R x y → S (f x) (g y)) : Related S (a.map f) (b.map g) := by
  cases related with
  | never => exact .never
  | after delay related => exact .after delay (kept _ _ related)

private theorem map_eq (related : Related R a b) {f : α → γ} {g : β → γ}
    (same : ∀ x y, R x y → f x = g y) : a.map f = b.map g := by
  cases related with
  | never => rfl
  | after delay related => exact congrArg (Eventual.after delay) (same _ _ related)

private theorem within (related : Related R a b) (limit : Option Nat) {x : α} {y : β}
    (late : R x y) : Related R (a.within limit x) (b.within limit y) := by
  cases limit with
  | none => exact related
  | some t =>
    cases related with
    | never => exact .after t late
    | after delay related =>
      unfold Eventual.within
      dsimp only
      split
      · exact .after delay related
      · exact .after t late

end Eventual.Related

/-! Responses. -/

namespace Response

/-- Responses that differ at most in how their bodies are cut into chunks. -/
structure Recut (r r' : Response) : Prop where
  status : r.status = r'.status
  headers : r.headers = r'.headers
  bytes : r.chunks.flatten = r'.chunks.flatten
  ending : r.ending = r'.ending

/-- Answers that differ at most in how the body of a response is cut. -/
inductive Recuts {ε : Type} : Except ε Response → Except ε Response → Prop where
  | failure (e : ε) : Recuts (.error e) (.error e)
  | response {r r' : Response} (recut : r.Recut r') : Recuts (.ok r) (.ok r')

namespace Recut

variable {r r' : Response}

private theorem lowered (recut : r.Recut r') : r.lowered.Recut r'.lowered where
  status := recut.status
  headers := by simp only [Response.lowered, recut.headers]
  bytes := recut.bytes
  ending := by simp only [Response.lowered, recut.ending]

private theorem opening (recut : r.Recut r') : r.opening = r'.opening := by
  simp only [Response.opening, recut.headers, recut.status]

private theorem single (recut : r.Recut r') (mode : Mode) : r.single mode = r'.single mode := by
  simp only [Response.single, recut.opening, recut.headers, read_congr recut.bytes recut.ending]

private theorem stream (recut : r.Recut r') (mode : Mode) : r.stream mode = r'.stream mode := by
  simp only [Response.stream, recut.opening, recut.headers, read_congr recut.bytes recut.ending]

end Recut

/-- A stream that is handed out, and all that it gives: pongs, and after them a failure at most. -/
inductive Drained {ρ : Type} [Source ρ StreamPong] : DownloadResult ρ → StreamResult → Prop where
  | failed (e : CallError) : Drained (.error e) (.error e)
  | streamed (metadata : Headers) {g : Guarded (Download StreamPong ρ)} (pongs : List StreamPong)
      (failure : Option Status) (gives : g.Gives (pongs.map .ok ++ failure.toList.map .error)) :
      Drained (.ok ⟨metadata, g⟩) (.ok ⟨metadata, pongs.map .ok ++ failure.toList.map .error⟩)

theorem download_drained {ρ : Type} [Source ρ StreamPong] (r : Response) (mode : Mode)
    (beyond : Status → ρ) : Drained (r.download mode beyond) (r.stream mode) := by
  unfold download stream
  cases r.opening with
  | error s => exact .failed (.status s)
  | ok closing => exact .streamed r.headers _ _ (Download.gives ..)

end Response

/-! Clients. -/

namespace Client

open Response (Drained Recuts)

variable {σ σ' ρ ρ' : Type} [Service σ] [Service σ'] [Source ρ StreamPong] [Source ρ' StreamPong]
  {c : Client σ} {c' : Client σ'}

/-- Clients of which the one gets the same responses as the other, only cut differently. -/
structure Recut (c : Client σ) (c' : Client σ') : Prop where
  mode : c.mode = c'.mode
  timeout : c.timeout = c'.timeout
  fault : Service.fault c.service = Service.fault c'.service
  answers : ∀ r : Request,
    (Service.call c.service r).1.Related Recuts (Service.call c'.service r).1

private theorem Recut.exchange (recut : c.Recut c') (path : String) (headers : Headers)
    (message : Bytes) :
    (c.exchange path headers message).1.Related Recuts (c'.exchange path headers message).1 := by
  simp only [Client.exchange, recut.fault]
  cases Service.fault c'.service with
  | some reason => exact .after 0 (.failure _)
  | none =>
    cases Metadata.collect [] headers with
    | error e => exact .after 0 (.failure _)
    | ok collected =>
      have inTime := (recut.answers (request path collected message)).within c.timeout
        (.failure .tooLate)
      rw [recut.timeout] at inTime ⊢
      refine inTime.map fun x y cut => ?_
      cases cut with
      | failure s => exact .failure _
      | response cut => exact .response cut.lowered

/-- The stream that a client hands out gives what the client says of it. -/
theorem download_drained (beyond : Status → ρ) (c : Client σ) (ping : StreamPing)
    (headers : Headers) :
    (c.download beyond ping headers).1.Related Drained (c.stream ping headers).1 := by
  simp only [download, stream]
  cases (c.exchange streamingPath headers (StreamPing.schema.encode c.mode ping)).1 with
  | never => exact .never
  | after delay reply =>
    cases reply with
    | error e => exact .after delay (.failed e)
    | ok r => exact .after delay (r.download_drained c.mode beyond)

/-- A call comes to the same however the bodies of responses are cut. A stream gives pongs, then a
failure at most, and is over; what the reader of its body would do after a failure does not matter. -/
theorem recut_alike (recut : c.Recut c') (beyond : Status → ρ) (beyond' : Status → ρ') :
    (∀ method ping headers,
      (c.unary method ping headers).1 = (c'.unary method ping headers).1) ∧
    ∀ ping headers, ∃ result : Eventual StreamResult,
      (c.stream ping headers).1 = result ∧ (c'.stream ping headers).1 = result ∧
      (c.download beyond ping headers).1.Related Drained result ∧
      (c'.download beyond' ping headers).1.Related Drained result := by
  constructor
  · intro method ping headers
    simp only [unary, recut.mode]
    refine (recut.exchange method.path headers _).map_eq fun x y cut => ?_
    cases cut with
    | failure e => rfl
    | response cut => exact cut.single c'.mode
  · intro ping headers
    have same : (c.stream ping headers).1 = (c'.stream ping headers).1 := by
      simp only [stream, recut.mode]
      refine (recut.exchange streamingPath headers _).map_eq fun x y cut => ?_
      cases cut with
      | failure e => rfl
      | response cut => exact cut.stream c'.mode
    exact ⟨_, same, rfl, same ▸ c.download_drained beyond ping headers,
      c'.download_drained beyond' ping headers⟩

/-- A source that gives what was laid down beforehand. -/
structure Rehearsed (α : Type) where
  answers : List (Except Status (Option α))

instance {α : Type} : Source (Rehearsed α) α where
  message s :=
    let (answer, answers) := takeTurn (.ok none) s.answers
    (answer, ⟨answers⟩)
  trailers s := (.ok [], s)

/-- A pong and something that is no frame, cut inside the pong or before the fault. The reader would
give pongs for ever after the fault, or break off again and again. -/
theorem recut_alike_fault :
    let playing (chunks : List Bytes) : Client Playback :=
      ⟨⟨none, [.response ⟨200, [], chunks, .trailers [("grpc-status", "0")]⟩]⟩, .binary, some 100⟩
    let c := playing [[0, 0, 0], [0, 2, 8], [5, 2, 0], [0, 0, 0]]
    let c' := playing [[0, 0, 0, 0, 2, 8, 5], [], [2, 0, 0, 0, 0]]
    let pongs : Status → Rehearsed StreamPong := fun _ => ⟨[.ok (some ⟨5, "svc-a"⟩)]⟩
    let faults : Status → Rehearsed StreamPong := fun s => ⟨[.error s]⟩
    let ping : StreamPing := ⟨5, 1, 0⟩
    c.Recut c' ∧ (c.unary .aPing ⟨5⟩ []).1 = (c'.unary .aPing ⟨5⟩ []).1 ∧
      ∃ result : Eventual StreamResult,
        (c.stream ping []).1 = result ∧ (c'.stream ping []).1 = result ∧
        (c.download pongs ping []).1.Related Drained result ∧
        (c'.download faults ping []).1.Related Drained result := by
  intro playing c c' pongs faults ping
  have recut : c.Recut c' :=
    { mode := rfl
      timeout := rfl
      fault := rfl
      answers := fun _ => .after 0 (.response ⟨rfl, rfl, rfl, rfl⟩) }
  have alike := recut_alike recut pongs faults
  exact ⟨recut, alike.1 .aPing ⟨5⟩ [], alike.2 ping []⟩

end Client
end GatewayPing
