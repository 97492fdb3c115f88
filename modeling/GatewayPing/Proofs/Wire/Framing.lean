import GatewayPing.Body
import GatewayPing.Proofs.Message.Lossless

/-! How frames are read. A reader that is fed more gives what it gave before (`Reader.next_feed`),
so that a body says the same however it is cut into chunks (`Response.read_congr`). A message in its
frame is read as it was written (`Reader.next_wrap`). Together: a body that consists of the frames
of some messages holds these messages and no others, and whether the call went well is up to what
follows the body (`Response.read_holds`, `Response.Carries.read`). -/
namespace GatewayPing

namespace Frame

variable {s more rest : Bytes} {n : Nat}

/-- Bytes that are frames of messages, and the bytes that are left after them. -/
inductive Holds {α : Type} (decode : Bytes → Except DecodeError α) : Bytes → List α → Bytes → Prop
    where
  | rest (s : Bytes) : Holds decode s [] s
  | message {payload s rest : Bytes} {m : α} {messages : List α}
      (accepted : payload.length ≤ maxLength) (decoded : decode payload = .ok m)
      (more : Holds decode s messages rest) : Holds decode (wrap payload ++ s) (m :: messages) rest

/-! The start of a frame. -/

/-- A length of four bytes is read as it was written. -/
theorem lengthOf_lengthBytes (small : n < 4294967296) :
    lengthOf (n / 16777216).toUInt8 (n / 65536).toUInt8 (n / 256).toUInt8 n.toUInt8 = n := by
  have low (m : Nat) : m.toUInt8.toNat = m % 256 := UInt8.toNat_ofNat'
  simp only [lengthOf, low]
  omega

/-- The start of a frame that is not too long says how long its message is. -/
theorem checkHeader_lengthBytes (short : n ≤ maxLength) :
    checkHeader 0 (lengthOf (n / 16777216).toUInt8 (n / 65536).toUInt8 (n / 256).toUInt8
      n.toUInt8) = .ok n := by
  have small : n < 4294967296 := Nat.lt_of_le_of_lt short (by decide)
  rw [lengthOf_lengthBytes small]
  simp [checkHeader, Nat.not_lt.mpr short]

/-- What follows the bytes that were asked for stays behind them. -/
theorem splitExactly_more {taken first : Bytes}
    (split : splitExactly taken n s = some (first, rest)) :
    splitExactly taken n (s ++ more) = some (first, rest ++ more) := by
  fun_induction splitExactly taken n s with
  | case1 taken s =>
    cases split
    rw [splitExactly]
  | case2 taken n b s ih => exact ih split
  | case3 => cases split

private theorem splitExactly_append (taken first rest : Bytes) :
    splitExactly taken first.length (first ++ rest) = some (taken.reverse ++ first, rest) := by
  induction first generalizing taken with
  | nil => rw [List.append_nil, List.length_nil, List.nil_append, splitExactly]
  | cons b first ih =>
    have later := ih (b :: taken)
    rwa [List.reverse_cons, List.append_assoc] at later

namespace Reader

variable {r r' : Reader} {message : Bytes}

/-! A reader that is fed more. -/

@[simp] theorem feed_nil (r : Reader) : r.feed [] = r := by simp [feed]

@[simp] theorem feed_feed (r : Reader) (s more : Bytes) :
    (r.feed s).feed more = r.feed (s ++ more) := by simp [feed]

/-- The start of a frame that is in use stays in use. -/
theorem start_due (due : r.due = some n) : r.start = .ok r := by
  obtain ⟨buffer, _⟩ := r
  obtain rfl := due
  rfl

theorem start_whole (flag a b c d : UInt8) (rest : Bytes) :
    (⟨flag :: a :: b :: c :: d :: rest, none⟩ : Reader).start =
      (checkHeader flag (lengthOf a b c d)).map fun n => ⟨rest, some n⟩ := by
  simp only [start]
  cases checkHeader flag (lengthOf a b c d) <;> rfl

/-- To use the start of a frame, a reader either finds all of it, or leaves everything as it is. -/
theorem start_cases (r : Reader) :
    r.start = .ok r ∨
      ∃ flag a b c d rest, r = ⟨flag :: a :: b :: c :: d :: rest, none⟩ ∧
        r.start = (checkHeader flag (lengthOf a b c d)).map fun n => ⟨rest, some n⟩ := by
  unfold start
  split
  · rename_i flag a b c d rest due whole
    have same : r = ⟨flag :: a :: b :: c :: d :: rest, none⟩ := by rw [← due, ← whole]
    refine .inr ⟨flag, a, b, c, d, rest, same, ?_⟩
    cases checkHeader flag (lengthOf a b c d) <;> rfl
  · exact .inl rfl

/-- A fault in the start of a frame is there whatever comes later. -/
theorem start_feed_error {fault : Fault} (broken : r.start = .error fault) :
    (r.feed more).start = .error fault := by
  rcases r.start_cases with same | ⟨flag, a, b, c, d, rest, rfl, started⟩
  · cases same.symm.trans broken
  · rw [started] at broken
    cases checked : checkHeader flag (lengthOf a b c d) with
    | error e =>
      rw [checked] at broken
      cases broken
      simp [feed, start, checked]
    | ok n =>
      rw [checked] at broken
      cases broken

/-- Whether the start of a frame is used before or after more has come makes no difference. -/
theorem start_feed_ok (started : r.start = .ok r') (more : Bytes) :
    (r.feed more).start = (r'.feed more).start := by
  rcases r.start_cases with same | ⟨flag, a, b, c, d, rest, rfl, whole⟩
  · cases same.symm.trans started
    rfl
  · rw [whole] at started
    cases checked : checkHeader flag (lengthOf a b c d) with
    | error e =>
      rw [checked] at started
      cases started
    | ok n =>
      rw [checked] at started
      cases started
      simp [feed, start, checked]

/-- What a reader gives follows from how it starts. -/
theorem next_congr (same : r.start = r'.start) : r.next = r'.next := by
  unfold next
  rw [same]

private theorem next_message {r'' : Reader} (started : r.start = .ok r')
    (finished : r'.finish = some (message, r'')) : r.next = .message message r'' := by
  rw [next, started]
  simp only [finished]

theorem next_hungry (started : r.start = .ok r') (waits : r'.finish = none) :
    r.next = .hungry r' := by
  rw [next, started]
  simp only [waits]

/-- Only a message that is due can be there. -/
theorem due_of_finish {found : Bytes × Reader} (finished : r.finish = some found) :
    ∃ n, r.due = some n := by
  cases due : r.due with
  | none => simp [finish, due] at finished
  | some n => exact ⟨n, rfl⟩

private theorem finish_feed (finished : r.finish = some (message, r')) :
    (r.feed more).finish = some (message, r'.feed more) := by
  obtain ⟨n, due⟩ := due_of_finish finished
  cases split : splitExactly [] n r.buffer with
  | none => simp [finish, due, split] at finished
  | some parts =>
    simp only [finish, due, split] at finished
    cases finished
    simp only [finish, feed, due, splitExactly_more split]

/-- What a reader gives once it is fed more, if this is what it gives before: the same, and it goes
on with more. A hungry reader may find what it lacks. -/
def Next.fed (more : Bytes) : Next → Next
  | .message bytes r => .message bytes (r.feed more)
  | .hungry r => (r.feed more).next
  | .broken fault => .broken fault

/-- Nothing that a reader gives is changed by what comes later. -/
theorem next_feed (r : Reader) (more : Bytes) : (r.feed more).next = r.next.fed more := by
  cases started : r.start with
  | error fault =>
    rw [next, next, start_feed_error started, started]
    rfl
  | ok r' =>
    have same := next_congr (start_feed_ok started more)
    cases finished : r'.finish with
    | none =>
      rw [next_hungry started finished]
      exact same
    | some found =>
      obtain ⟨message, r''⟩ := found
      obtain ⟨n, due⟩ := due_of_finish finished
      have inUse : (r'.feed more).start = .ok (r'.feed more) := start_due due
      rw [same, next_message started finished, next_message inUse (finish_feed finished)]
      rfl

private theorem next_feed_message (given : r.next = .message message r') (more : Bytes) :
    (r.feed more).next = .message message (r'.feed more) := by
  rw [next_feed, given]
  rfl

/-- A message in its frame is read as it was written. -/
theorem next_wrap (short : message.length ≤ maxLength) (rest : Bytes) :
    (⟨wrap message ++ rest, none⟩ : Reader).next = .message message ⟨rest, none⟩ := by
  have header := checkHeader_lengthBytes short
  have started : (⟨wrap message ++ rest, none⟩ : Reader).start =
      .ok ⟨message ++ rest, some message.length⟩ := by
    rw [wrap, lengthBytes]
    simp only [List.cons_append, List.nil_append]
    rw [start_whole, header]
    rfl
  refine next_message started ?_
  simp only [finish, splitExactly_append, List.reverse_nil, List.nil_append]

/-- A reader to which nothing has come is hungry. -/
theorem next_empty : ({} : Reader).next = .hungry {} := rfl

end Reader
end Frame

namespace Body

variable {α : Type} {decode : Bytes → Except DecodeError α} {closing : Closing} {read : List α}
  {b : Body}

theorem conclude_messages (reader : Frame.Reader) (ending : BodyEnd) (messages : List α) :
    (conclude closing reader ending messages).messages = messages := by
  cases ending with
  | bare =>
    unfold conclude
    dsimp only
    split <;> rfl
  | trailers hs => rfl
  | failed reason => rfl

/-! One step of reading a body. -/

theorem readFrom_broken {fault : Frame.Fault} (found : b.reader.next = .broken fault) :
    readFrom decode closing read b = ⟨read.reverse, some (fault.status closing), []⟩ := by
  rw [readFrom]
  split
  all_goals rename_i same; cases found.symm.trans same
  rfl

theorem readFrom_message {bytes : Bytes} {reader : Frame.Reader}
    (found : b.reader.next = .message bytes reader) :
    readFrom decode closing read b =
      match decode bytes with
      | .error e => ⟨read.reverse, some e.status, []⟩
      | .ok m => readFrom decode closing (m :: read) { b with reader } := by
  rw [readFrom]
  split
  all_goals rename_i same; cases found.symm.trans same
  rfl

theorem readFrom_over {reader : Frame.Reader} (found : b.reader.next = .hungry reader)
    (arrived : b.chunks = []) :
    readFrom decode closing read b = conclude closing reader b.ending read.reverse := by
  rw [readFrom]
  split
  all_goals rename_i same; cases found.symm.trans same
  split
  all_goals rename_i same; cases arrived.symm.trans same
  rfl

theorem readFrom_hungry {reader : Frame.Reader} {chunk : Bytes} {chunks : List Bytes}
    (found : b.reader.next = .hungry reader) (whole : b.chunks = chunk :: chunks) :
    readFrom decode closing read b =
      readFrom decode closing read { b with reader := reader.feed chunk, chunks } := by
  rw [readFrom]
  split
  all_goals rename_i same; cases found.symm.trans same
  split
  all_goals rename_i same; cases whole.symm.trans same
  rfl

/-- What is read of a body that has arrived follows from what its reader has to give. -/
theorem readFrom_congr {r r' : Frame.Reader} (same : r.next = r'.next) (ending : BodyEnd) :
    readFrom decode closing read ⟨r, [], ending⟩ =
      readFrom decode closing read ⟨r', [], ending⟩ := by
  cases found : r.next with
  | broken fault =>
    rw [readFrom_broken found, readFrom_broken (b := ⟨r', [], ending⟩) (same.symm.trans found)]
  | message bytes reader =>
    rw [readFrom_message found, readFrom_message (b := ⟨r', [], ending⟩) (same.symm.trans found)]
  | hungry reader =>
    rw [readFrom_over found rfl, readFrom_over (b := ⟨r', [], ending⟩) (same.symm.trans found) rfl]

/-- How a body is cut makes no difference: it says what it says once all of it has arrived. -/
theorem readFrom_flatten (b : Body) :
    readFrom decode closing read b =
      readFrom decode closing read ⟨b.reader.feed b.chunks.flatten, [], b.ending⟩ := by
  fun_induction readFrom decode closing read b with
  | case1 read b fault found =>
    refine (readFrom_broken ?_).symm
    simp only [Frame.Reader.next_feed, found, Frame.Reader.Next.fed]
  | case2 read b bytes reader found e undecoded =>
    have fed := Frame.Reader.next_feed_message found b.chunks.flatten
    rw [readFrom_message (b := ⟨b.reader.feed b.chunks.flatten, [], b.ending⟩) fed, undecoded]
  | case3 read b bytes reader found m decoded ih =>
    have fed := Frame.Reader.next_feed_message found b.chunks.flatten
    rw [readFrom_message (b := ⟨b.reader.feed b.chunks.flatten, [], b.ending⟩) fed, decoded]
    exact ih
  | case4 read b reader found arrived =>
    rw [arrived, List.flatten_nil, Frame.Reader.feed_nil]
    exact (readFrom_over (b := ⟨b.reader, [], b.ending⟩) found rfl).symm
  | case5 read b reader found chunk chunks whole ih =>
    rw [ih, Frame.Reader.feed_feed, whole, List.flatten_cons]
    refine readFrom_congr ?_ b.ending
    simp only [Frame.Reader.next_feed b.reader, found, Frame.Reader.Next.fed]

/-- The frames at the front of a body are read one after the other. -/
theorem readFrom_holds {s rest : Bytes} {messages : List α}
    (frames : Frame.Holds decode s messages rest) (ending : BodyEnd) :
    readFrom decode closing read ⟨⟨s, none⟩, [], ending⟩ =
      readFrom decode closing (messages.reverse ++ read) ⟨⟨rest, none⟩, [], ending⟩ := by
  induction frames generalizing read with
  | rest s => rfl
  | @message payload s rest m messages accepted decoded more ih =>
    rw [readFrom_message (Frame.Reader.next_wrap accepted s), decoded, List.reverse_cons,
      List.append_assoc]
    exact ih

end Body

namespace Response

variable {α : Type} {schema : Schema α} {mode : Mode} {r : Response} {messages : List α}

/-- Of two bodies that differ only in how they are cut the same is read. -/
theorem read_congr {r' : Response} (chunks : r.chunks.flatten = r'.chunks.flatten)
    (ending : r.ending = r'.ending) (decode : Bytes → Except DecodeError α) (closing : Closing) :
    r.read decode closing = r'.read decode closing := by
  unfold read
  rw [Body.readFrom_flatten, Body.readFrom_flatten ⟨{}, r'.chunks, r'.ending⟩]
  simp only [chunks, ending]

/-- A body that consists of the frames of some messages, cut in any way. None of the messages is too
long to be accepted. -/
structure Carries (schema : Schema α) (mode : Mode) (r : Response) (messages : List α) : Prop where
  frames : r.chunks.flatten = messages.flatMap fun m => Frame.wrap (schema.encode mode m)
  short : ∀ m ∈ messages, (schema.encode mode m).length ≤ Frame.maxLength

/-- What is read of a body that consists of frames. The rest is up to what follows the body. -/
theorem read_holds {decode : Bytes → Except DecodeError α}
    (frames : Frame.Holds decode r.chunks.flatten messages []) (closing : Closing) :
    r.read decode closing = Body.conclude closing {} r.ending messages := by
  have closed : Body.readFrom decode closing (messages.reverse ++ []) ⟨{}, [], r.ending⟩ =
      Body.conclude closing {} r.ending messages := by
    rw [Body.readFrom_over Frame.Reader.next_empty rfl, List.append_nil, List.reverse_reverse]
  rw [Response.read, Body.readFrom_flatten]
  exact (Body.readFrom_holds frames r.ending).trans closed

private theorem Carries.holds (lawful : schema.Lawful) (carries : r.Carries schema mode messages) :
    Frame.Holds (schema.decode mode) r.chunks.flatten messages [] := by
  obtain ⟨frames, short⟩ := carries
  rw [frames]
  clear frames
  induction messages with
  | nil => exact .rest []
  | cons m messages ih =>
    have fits := short m List.mem_cons_self
    have decoded : schema.decode mode (schema.encode mode m) = .ok m :=
      Schema.decode_encode_of_short lawful (Nat.le_trans fits (by decide))
    exact .message fits decoded (ih fun m' member => short m' (List.mem_cons_of_mem _ member))

/-- Of the frames of some messages exactly these messages are read. -/
theorem Carries.read (lawful : schema.Lawful) (carries : r.Carries schema mode messages)
    (closing : Closing) :
    r.read (schema.decode mode) closing = Body.conclude closing {} r.ending messages :=
  read_holds (carries.holds lawful) closing

end Response
end GatewayPing
