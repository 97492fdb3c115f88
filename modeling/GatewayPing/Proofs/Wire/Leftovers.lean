import GatewayPing.Proofs.Wire.Framing

/-! What is left of a body. Of a body that is read without a failure the frames at its front were
read, and what is left is less than a frame (`Frame.Unfinished`). Nobody looks at that where trailers
follow; where none do, nothing can be left but the start of a frame that was in use already. The
other way round, a body of this kind is read without a failure (`Body.readFrom_reads`,
`Body.Reads.readFrom`). -/
namespace GatewayPing

namespace Frame

variable {s rest : Bytes} {n : Nat}

/-- Less than a frame: not all of the start, or not all of the message that the start announces. -/
inductive Unfinished : Bytes → Prop where
  | start {s : Bytes} (short : s.length < 5) : Unfinished s
  | message {n : Nat} {s : Bytes} (accepted : n ≤ maxLength) (short : s.length < n) :
      Unfinished (0 :: lengthBytes n ++ s)

/-- Four bytes are those of the length that they denote. -/
theorem lengthBytes_lengthOf (a b c d : UInt8) : lengthBytes (lengthOf a b c d) = [a, b, c, d] := by
  have := a.toNat_lt
  have := b.toNat_lt
  have := c.toNat_lt
  have := d.toNat_lt
  have low (m : Nat) : m.toUInt8.toNat = m % 256 := UInt8.toNat_ofNat'
  simp only [lengthBytes, lengthOf, List.cons.injEq, ← UInt8.toNat_inj, low, and_true]
  omega

private theorem splitExactly_short {taken : Bytes} (short : s.length < n) :
    splitExactly taken n s = none := by
  fun_induction splitExactly taken n s with
  | case1 => cases short
  | case2 taken n b s ih => exact ih (Nat.lt_of_succ_lt_succ short)
  | case3 => rfl

private theorem checkHeader_ok {flag : UInt8} {length : Nat}
    (checked : checkHeader flag length = .ok n) : flag = 0 ∧ n = length ∧ length ≤ maxLength := by
  unfold checkHeader at checked
  grind

namespace Reader

/-- A reader that has less than the start of a frame needs more. -/
theorem next_start (short : s.length < 5) : (⟨s, none⟩ : Reader).next = .hungry ⟨s, none⟩ := by
  match s with
  | [] => rfl
  | [_] => rfl
  | [_, _] => rfl
  | [_, _, _] => rfl
  | [_, _, _, _] => rfl
  | _ :: _ :: _ :: _ :: _ :: s => exact absurd short (Nat.not_lt.mpr (Nat.le_add_left 5 s.length))

/-- So does one that has the start of a frame and not all of its message. -/
theorem next_due (accepted : n ≤ maxLength) (short : s.length < n) :
    (⟨0 :: lengthBytes n ++ s, none⟩ : Reader).next = .hungry ⟨s, some n⟩ := by
  have started : (⟨0 :: lengthBytes n ++ s, none⟩ : Reader).start = .ok ⟨s, some n⟩ := by
    rw [lengthBytes]
    simp only [List.cons_append, List.nil_append]
    rw [start_whole, checkHeader_lengthBytes accepted]
    rfl
  exact next_hungry started (by simp only [finish, splitExactly_short short])

/-- What a reader can give that is at the beginning of a frame, by what has arrived. -/
inductive Gives : Bytes → Next → Prop where
  | message {payload rest : Bytes} (accepted : payload.length ≤ maxLength) :
      Gives (wrap payload ++ rest) (.message payload ⟨rest, none⟩)
  | start {s : Bytes} (short : s.length < 5) : Gives s (.hungry ⟨s, none⟩)
  | due {n : Nat} {s : Bytes} (accepted : n ≤ maxLength) (short : s.length < n) :
      Gives (0 :: lengthBytes n ++ s) (.hungry ⟨s, some n⟩)
  | broken {s : Bytes} (fault : Fault) : Gives s (.broken fault)

/-- What follows the start of a frame is all of its message or not. -/
theorem next_gives_started (accepted : n ≤ maxLength) (s : Bytes) :
    Gives (0 :: lengthBytes n ++ s) (⟨0 :: lengthBytes n ++ s, none⟩ : Reader).next := by
  rcases Nat.lt_or_ge s.length n with short | whole
  · rw [next_due accepted short]
    exact .due accepted short
  · have length : (s.take n).length = n := List.length_take_of_le whole
    have framed : 0 :: lengthBytes n ++ s = wrap (s.take n) ++ s.drop n := by
      rw [wrap, length, List.append_assoc, List.take_append_drop]
    rw [framed, next_wrap (length.symm ▸ accepted)]
    exact .message (length.symm ▸ accepted)

private theorem next_gives (s : Bytes) : Gives s (⟨s, none⟩ : Reader).next := by
  rcases Nat.lt_or_ge s.length 5 with short | long
  · rw [next_start short]
    exact .start short
  · match s, long with
    | flag :: a :: b :: c :: d :: s, _ =>
      cases checked : checkHeader flag (lengthOf a b c d) with
      | error fault =>
        have started : (⟨flag :: a :: b :: c :: d :: s, none⟩ : Reader).start = .error fault := by
          rw [start_whole, checked]
          rfl
        rw [next, started]
        exact .broken fault
      | ok n =>
        obtain ⟨rfl, rfl, accepted⟩ := checkHeader_ok checked
        have gives := next_gives_started accepted s
        rwa [lengthBytes_lengthOf] at gives

end Reader

/-- Less than a frame does not begin with a frame. -/
theorem Unfinished.ne_wrap (unfinished : Unfinished s) {payload : Bytes}
    (accepted : payload.length ≤ maxLength) (rest : Bytes) : s ≠ wrap payload ++ rest := by
  intro whole
  have found : (⟨s, none⟩ : Reader).next = .message payload ⟨rest, none⟩ :=
    whole ▸ Reader.next_wrap accepted rest
  cases unfinished with
  | start short => cases found.symm.trans (Reader.next_start short)
  | message accepted short => cases found.symm.trans (Reader.next_due accepted short)

/-- Less than a frame holds no messages: all of it is left. -/
theorem Unfinished.holds {α : Type} {decode : Bytes → Except DecodeError α} {messages : List α}
    (unfinished : Unfinished s) (holds : Holds decode s messages rest) :
    messages = [] ∧ rest = s := by
  generalize same : s = whole at holds
  cases holds with
  | rest => exact ⟨rfl, rfl⟩
  | message accepted decoded more => exact absurd same (unfinished.ne_wrap accepted _)

end Frame

/-! Bodies. -/

namespace Body

variable {α : Type} {decode : Bytes → Except DecodeError α} {closing : Closing} {ending : BodyEnd}

/-- A body that can end without a failure, and what can be left of it. -/
inductive Closes (closing : Closing) : BodyEnd → Bytes → Prop where
  /-- Nobody looks at what is left where trailers follow. -/
  | trailers {hs : Headers} {rest : Bytes} (fine : verdict closing hs = none) :
      Closes closing (.trailers hs) rest
  | bare (fine : verdict closing [] = none) : Closes closing .bare []
  /-- The start of a frame that is in use is not left. -/
  | bareStart {n : Nat} (fine : verdict closing [] = none) (accepted : n ≤ Frame.maxLength)
      (waits : 0 < n) : Closes closing .bare (0 :: Frame.lengthBytes n)

/-- What a body holds if it is read without a failure. -/
structure Reads (decode : Bytes → Except DecodeError α) (closing : Closing) (ending : BodyEnd)
    (s : Bytes) (messages : List α) (rest : Bytes) : Prop where
  frames : Frame.Holds decode s messages rest
  unfinished : Frame.Unfinished rest
  closes : Closes closing ending rest

/-- A body ends without a failure by its trailers, or because nothing is left of it. -/
theorem conclude_fine {reader : Frame.Reader} {read : List α}
    (fine : (conclude closing reader ending read).failure = none) :
    (∃ hs, ending = .trailers hs ∧ verdict closing hs = none) ∨
      ending = .bare ∧ reader.buffer = [] ∧ verdict closing [] = none := by
  cases ending with
  | failed reason => cases fine
  | trailers hs => exact .inl ⟨hs, rfl, fine⟩
  | bare =>
    unfold conclude at fine
    dsimp only at fine
    split at fine
    · rename_i empty
      exact .inr ⟨rfl, List.isEmpty_iff.mp empty, fine⟩
    · cases fine

/-- A body that is read without a failure consists of the frames of its messages and of what may be
left. -/
theorem readFrom_reads {s : Bytes} {read : List α}
    (fine : (readFrom decode closing read ⟨⟨s, none⟩, [], ending⟩).failure = none) :
    ∃ messages rest, Reads decode closing ending s messages rest ∧
      (readFrom decode closing read ⟨⟨s, none⟩, [], ending⟩).messages =
        read.reverse ++ messages := by
  -- The induction is on the bytes that are left: a message makes them fewer.
  induction size : s.length using Nat.strongRecOn generalizing s read with
  | ind length ih =>
    have gives := Frame.Reader.next_gives s
    generalize found : (⟨s, none⟩ : Frame.Reader).next = next at gives
    cases gives with
    | broken fault =>
      rw [readFrom_broken found] at fine
      cases fine
    | start short =>
      rw [readFrom_over found rfl] at fine ⊢
      refine ⟨[], s, ⟨.rest s, .start short, ?_⟩, ?_⟩
      · rcases conclude_fine fine with ⟨hs, rfl, told⟩ | ⟨rfl, rfl, told⟩
        · exact .trailers told
        · exact .bare told
      · rw [conclude_messages, List.append_nil]
    | @due n left accepted short =>
      rw [readFrom_over found rfl] at fine ⊢
      refine ⟨[], _, ⟨.rest _, .message accepted short, ?_⟩, ?_⟩
      · rcases conclude_fine fine with ⟨hs, rfl, told⟩ | ⟨rfl, rfl, told⟩
        · exact .trailers told
        · exact .bareStart told accepted short
      · rw [conclude_messages, List.append_nil]
    | @message payload left accepted =>
      rw [readFrom_message found] at fine ⊢
      cases decoded : decode payload with
      | error e =>
        rw [decoded] at fine
        cases fine
      | ok m =>
        rw [decoded] at fine
        have fewer : left.length < length := by
          rw [← size, List.length_append]
          exact Nat.lt_add_of_pos_left (Nat.succ_pos _)
        obtain ⟨messages, rest, reads, more⟩ := ih left.length fewer fine rfl
        refine ⟨m :: messages, rest, ⟨.message accepted decoded reads.frames, reads.unfinished,
          reads.closes⟩, ?_⟩
        rw [List.reverse_cons, List.append_assoc] at more
        exact more

/-- What is less than a frame, and may be left, ends a body without a failure. -/
theorem readFrom_rest {s : Bytes} (unfinished : Frame.Unfinished s)
    (closes : Closes closing ending s) (read : List α) :
    ∃ hs, readFrom decode closing read ⟨⟨s, none⟩, [], ending⟩ = ⟨read.reverse, none, hs⟩ := by
  have whole {reader : Frame.Reader} (found : (⟨s, none⟩ : Frame.Reader).next = .hungry reader) :
      readFrom decode closing read ⟨⟨s, none⟩, [], ending⟩ =
        conclude closing reader ending read.reverse := readFrom_over found rfl
  cases closes with
  | bare fine =>
    refine ⟨[], ?_⟩
    rw [whole Frame.Reader.next_empty, conclude, fine]
    rfl
  | @bareStart n fine accepted waits =>
    have found := Frame.Reader.next_due (s := []) accepted waits
    rw [List.append_nil] at found
    refine ⟨[], ?_⟩
    rw [whole found, conclude, fine]
    rfl
  | @trailers hs _ fine =>
    refine ⟨hs, ?_⟩
    cases unfinished with
    | start short => rw [whole (Frame.Reader.next_start short), conclude, fine]
    | message accepted short => rw [whole (Frame.Reader.next_due accepted short), conclude, fine]

/-- The messages of a body are read, if nothing else is in it than they and what may be left. -/
theorem Reads.readFrom {s rest : Bytes} {messages : List α}
    (reads : Reads decode closing ending s messages rest) (read : List α) :
    ∃ hs, Body.readFrom decode closing read ⟨⟨s, none⟩, [], ending⟩ =
      ⟨read.reverse ++ messages, none, hs⟩ := by
  obtain ⟨hs, ended⟩ := readFrom_rest reads.unfinished reads.closes (messages.reverse ++ read)
  refine ⟨hs, ?_⟩
  rw [readFrom_holds reads.frames, ended, List.reverse_append, List.reverse_reverse]

end Body

/-- Only messages are among the elements of what was read without a failure. -/
theorem Received.of_items {α : Type} {r : Received α} {messages : List α}
    (items : r.items = messages.map .ok) : r.failure = none ∧ r.messages = messages := by
  unfold Received.items at items
  cases failed : r.failure with
  | none =>
    rw [failed, Option.toList_none, List.map_nil, List.append_nil] at items
    exact ⟨rfl, (List.map_inj_right fun a b same => Except.ok.inj same).mp items⟩
  | some s =>
    have member : (.error s : Except Status α) ∈ messages.map .ok := by
      rw [← items, failed]
      simp
    simp at member

end GatewayPing
