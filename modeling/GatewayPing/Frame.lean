import GatewayPing.Bytes

/-! Frames. On the wire every message is preceded by a byte that says whether it is compressed and
by its length in four bytes, the highest first. A reader is fed the chunks of a body as they
arrive and gives back the messages; where the chunks are cut makes no difference. -/
namespace GatewayPing

namespace Frame

/-- The length of a message in four bytes. -/
def lengthBytes (n : Nat) : Bytes :=
  [(n / 16777216).toUInt8, (n / 65536).toUInt8, (n / 256).toUInt8, n.toUInt8]

/-- A message in its frame. Messages are never compressed. -/
def wrap (message : Bytes) : Bytes := 0 :: lengthBytes message.length ++ message

/-- The length that four bytes denote. -/
def lengthOf (a b c d : UInt8) : Nat :=
  a.toNat * 16777216 + b.toNat * 65536 + c.toNat * 256 + d.toNat

/-- The greatest length of a message that is accepted. -/
def maxLength : Nat := 4194304

/-- Why bytes are no frame. -/
inductive Fault where
  /-- The message is compressed. -/
  | compressed
  /-- The first byte means nothing. -/
  | invalidFlag (flag : UInt8)
  /-- The message is too long. -/
  | tooLong (length : Nat)
  deriving DecidableEq, Repr

/-- What a frame says before its message. -/
def checkHeader (flag : UInt8) (length : Nat) : Except Fault Nat :=
  if flag == 1 then .error .compressed
  else if flag != 0 then .error (.invalidFlag flag)
  else if maxLength < length then .error (.tooLong length)
  else .ok length

/-- The first bytes of a sequence, if there are as many, after those already taken, given latest
first. -/
def splitExactly (taken : Bytes) : Nat → Bytes → Option (Bytes × Bytes)
  | 0, s => some (taken.reverse, s)
  | n + 1, b :: s => splitExactly (b :: taken) n s
  | _ + 1, [] => none

/-- A reader of frames: the bytes that have arrived and not been used, and the length of the message
that is due when the start of its frame has been used already. -/
structure Reader where
  buffer : Bytes := []
  due : Option Nat := none
  deriving DecidableEq, Repr

namespace Reader

/-- Adds a chunk to what has arrived. -/
def feed (r : Reader) (chunk : Bytes) : Reader := { r with buffer := r.buffer ++ chunk }

/-- Uses the start of a frame, if it has arrived and is not in use already. -/
def start (r : Reader) : Except Fault Reader :=
  match r.due, r.buffer with
  | none, flag :: a :: b :: c :: d :: rest =>
    match checkHeader flag (lengthOf a b c d) with
    | .error e => .error e
    | .ok n => .ok ⟨rest, some n⟩
  | _, _ => .ok r

/-- The message that is due, if all of it has arrived. -/
def finish (r : Reader) : Option (Bytes × Reader) :=
  match r.due with
  | none => none
  | some n =>
    match splitExactly [] n r.buffer with
    | none => none
    | some (message, rest) => some (message, ⟨rest, none⟩)

/-- What a reader has to give. -/
inductive Next where
  /-- A message, and the reader after it. -/
  | message (bytes : Bytes) (r : Reader)
  /-- Nothing before another chunk arrives. -/
  | hungry (r : Reader)
  | broken (fault : Fault)

/-- Takes the next message. -/
def next (r : Reader) : Next :=
  match r.start with
  | .error e => .broken e
  | .ok r =>
    match r.finish with
    | some (message, r) => .message message r
    | none => .hungry r

/-- How much there is to do: the start of a frame that is in use counts as one. -/
def weight (r : Reader) : Nat := r.buffer.length + if r.due.isSome then 1 else 0

private theorem start_weight_le {r r' : Reader} (started : r.start = .ok r') :
    r'.weight ≤ r.weight := by
  unfold start at started
  unfold weight
  grind

private theorem splitExactly_length {taken s first rest : Bytes} {n : Nat}
    (split : splitExactly taken n s = some (first, rest)) : rest.length ≤ s.length := by
  fun_induction splitExactly taken n s with
  | case1 => cases split; exact Nat.le_refl _
  | case2 taken n b s ih => exact Nat.le_succ_of_le (ih split)
  | case3 => cases split

private theorem finish_weight_lt {r r' : Reader} {message : Bytes}
    (finished : r.finish = some (message, r')) : r'.weight < r.weight := by
  unfold finish at finished
  split at finished
  · cases finished
  · split at finished
    · cases finished
    · rename_i due _ _ _ split
      cases finished
      have := splitExactly_length split
      simp only [weight, due, Option.isSome_some, Option.isSome_none, if_true, Bool.false_eq_true,
        if_false]
      omega

theorem next_message_weight_lt {r r' : Reader} {message : Bytes}
    (found : r.next = .message message r') : r'.weight < r.weight := by
  unfold next at found
  split at found
  · cases found
  · rename_i started
    split at found
    · rename_i finished
      cases found
      exact Nat.lt_of_lt_of_le (finish_weight_lt finished) (start_weight_le started)
    · cases found

theorem next_hungry_weight_le {r r' : Reader} (found : r.next = .hungry r') :
    r'.weight ≤ r.weight := by
  unfold next at found
  split at found
  · cases found
  · rename_i started
    split at found
    · cases found
    · cases found
      exact start_weight_le started

@[simp] theorem feed_weight (r : Reader) (chunk : Bytes) :
    (r.feed chunk).weight = r.weight + chunk.length := by
  unfold feed weight
  rw [List.length_append]
  exact Nat.add_right_comm ..

end Reader
end Frame
end GatewayPing
