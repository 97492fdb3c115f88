import GatewayPing.Proofs.Concurrent.Alone
import GatewayPing.Proofs.Concurrent.Calls
import GatewayPing.Proofs.Concurrent.Delay
import GatewayPing.Proofs.Concurrent.Settling

/-! Operations that run side by side do not get in each other's way. At any time, what an operation
has done and what it would still do alone make up what it does alone, counted from when it began
(`Board.Progress`). Whatever happens preserves that: a poll that is due moves one step from what is
to come to what was done, a poll that is not due does nothing, the clock never passes anything that
is due, and an operation that begins has everything before it. So in the end each operation has done
what it does alone, in the same times (`Board.independent_after`). -/
namespace GatewayPing

namespace Concurrent

variable {ε : Type}

theorem ofTask_append (task : Nat) (first second : List (Entry ε)) :
    ofTask task (first ++ second) = ofTask task first ++ ofTask task second := by
  simp only [ofTask, merged, List.filter_append, List.map_append]

theorem ofTask_same (time task : Nat) (events : List ε) :
    ofTask task (events.map (⟨time, task, ·⟩)) = events.map (time, ·) := by
  rw [ofTask, List.filter_eq_self.mpr (by simp)]
  simp [merged, Function.comp_def]

theorem ofTask_other {time task other : Nat} (different : task ≠ other) (events : List ε) :
    ofTask other (events.map (⟨time, task, ·⟩)) = [] := by
  simp [ofTask, merged, List.filter_map, Function.comp_def, different]

/-- A log grows by entries of its own operations. -/
theorem task_lt_append {n time task : Nat} {log : List (Entry ε)} (events : List ε)
    (logged : ∀ entry ∈ log, entry.task < n) (inside : task < n) :
    ∀ entry ∈ log ++ events.map (⟨time, task, ·⟩), entry.task < n := by
  intro entry member
  rcases List.mem_append.mp member with old | new
  · exact logged entry old
  · obtain ⟨event, -, rfl⟩ := List.mem_map.mp new
    exact inside

/-- What was written down does not belong to an operation that begins. -/
theorem ofTask_ahead {n : Nat} {log : List (Entry ε)} (logged : ∀ entry ∈ log, entry.task < n) :
    ofTask n log = [] := by
  rw [ofTask, List.filter_eq_nil_iff.mpr]
  · rfl
  · intro entry member
    simpa using Nat.ne_of_lt (logged entry member)

/-- A list that is put together from others: each keeps its order, nothing is lost and nothing
comes in. Every element is marked with the list that it comes from. -/
def Interleaves {α : Type} (parts : List (List α)) (whole : List α) : Prop :=
  ∃ marked : List (Nat × α),
    marked.map (·.2) = whole ∧ (∀ entry ∈ marked, entry.1 < parts.length) ∧
      ∀ i part, parts[i]? = some part → (marked.filter (·.1 == i)).map (·.2) = part

/-- The notifications of a log, marked with the operation that they come from. -/
def notices {α : Type} (log : List (Entry (Happening α))) : List (Nat × Notification) :=
  log.filterMap fun
    | ⟨_, task, .notice n⟩ => some (task, n)
    | ⟨_, _, .finished _⟩ => none

section
variable {α : Type}

private theorem notices_merged (log : List (Entry (Happening α))) :
    (notices log).map (·.2) = Course.notices (merged log) := by
  induction log with
  | nil => rfl
  | cons entry log ih =>
    obtain ⟨time, task, event⟩ := entry
    cases event with
    | notice n => exact congrArg (n :: ·) ih
    | finished result => exact ih

private theorem notices_filter (i : Nat) (log : List (Entry (Happening α))) :
    (notices log).filter (·.1 == i) = notices (log.filter (·.task == i)) := by
  induction log with
  | nil => rfl
  | cons entry log ih =>
    obtain ⟨time, task, event⟩ := entry
    cases event with
    | finished result =>
      by_cases same : task = i
      · simpa [notices, same] using ih
      · simpa [notices, same] using ih
    | notice n =>
      by_cases same : task = i
      · simpa [notices, same] using ih
      · simpa [notices, same] using ih

/-- What the user is told by one operation. -/
theorem notices_ofTask (i : Nat) (log : List (Entry (Happening α))) :
    ((notices log).filter (·.1 == i)).map (·.2) = Course.notices (ofTask i log) := by
  rw [notices_filter, notices_merged]
  rfl

private theorem mem_notices {log : List (Entry (Happening α))} {marked : Nat × Notification}
    (member : marked ∈ notices log) : ∃ entry ∈ log, entry.task = marked.1 := by
  obtain ⟨⟨time, task, event⟩, inside, told⟩ := List.mem_filterMap.mp member
  cases event with
  | finished result => cases told
  | notice n =>
    cases told
    exact ⟨_, inside, rfl⟩

end

end Concurrent

open Concurrent (Entry Interleaves ofTask ofTask_ahead ofTask_append ofTask_same ofTask_other
  task_lt_append)

namespace Board

variable {τ : Type} [Transport τ] {base : Dispatcher τ} {b : Board τ}

/-- What can happen next where an operation may begin at any time. -/
inductive Act where
  | begin (op : Operation)
  | move (m : Move)
  deriving DecidableEq, Repr

def act (b : Board τ) : Act → Board τ
  | .begin op => b.spawn op
  | .move m => b.move m

/-- Operations after acts. -/
def acted (b : Board τ) (acts : List Act) : Board τ := acts.foldl act b

/-- The operations that begin by acts, each with the time at which it does. -/
def begun (b : Board τ) : List Act → List (Nat × Operation)
  | [] => []
  | .begin op :: acts => (b.clock, op) :: begun (b.spawn op) acts
  | .move m :: acts => begun (b.move m) acts

/-- How far an operation has come that began at a time: it waits for what `t` waits for, so much
later. What it has done and what it would still do alone make up what it does alone. -/
structure Progress (base : Dispatcher τ) (b : Board τ) (i : Nat) (start : Nat) (op : Operation)
    (t : Task) : Prop where
  task : b.tasks[i]? = some (t.delayed start)
  begun : start ≤ b.clock
  /-- Nothing is overdue. -/
  punctual : ∀ due, t.due? = some due → b.clock ≤ start + due
  course : ((⟨op, .fresh⟩ : Task).solo base).course.delayed start =
    ofTask i b.log ++ (t.solo base).course.delayed start
  calls : ((⟨op, .fresh⟩ : Task).solo base).calls.delayed start =
    ofTask i b.calls ++ (t.solo base).calls.delayed start
  final : ((⟨op, .fresh⟩ : Task).solo base).task = (t.solo base).task

namespace Progress

variable {i start : Nat} {op : Operation} {t : Task}

private theorem spawn (progress : b.Progress base i start op t) (other : Operation) :
    (b.spawn other).Progress base i start op t := by
  refine { progress with task := ?_ }
  have inside : i < b.tasks.length := (List.getElem?_eq_some_iff.mp progress.task).1
  exact (List.getElem?_append_left inside).trans progress.task

/-- An operation that begins has everything before it. -/
theorem begin (op : Operation) (logged : ∀ entry ∈ b.log, entry.task < b.tasks.length)
    (called : ∀ entry ∈ b.calls, entry.task < b.tasks.length) :
    (b.spawn op).Progress base b.tasks.length b.clock op ⟨op, .fresh⟩ where
  task := List.getElem?_concat_length
  begun := Nat.le_refl b.clock
  punctual due _ := Nat.le_add_right b.clock due
  course := by
    rw [Board.spawn, ofTask_ahead logged]
    rfl
  calls := by
    rw [Board.spawn, ofTask_ahead called]
    rfl
  final := rfl

/-- The clock passes nothing that is due. -/
theorem wait (progress : b.Progress base i start op t) (time : Nat) :
    (b.wait time).Progress base i start op t := by
  unfold Board.wait
  split
  · rename_i quiet
    refine { progress with begun := ?_, punctual := ?_ }
    · exact Nat.le_trans progress.begun (Nat.le_max_left b.clock time)
    · intro due pending
      obtain ⟨limit, waits, ahead⟩ := Task.due?_delayed start pending
      have allowed : time ≤ limit := by
        simpa [waits] using List.all_eq_true.mp quiet _ (List.mem_of_getElem? progress.task)
      exact Nat.max_le.mpr ⟨progress.punctual due pending, Nat.le_trans allowed ahead⟩
  · exact progress

/-- A poll writes down nothing that belongs to another operation. -/
theorem poll_other (progress : b.Progress base i start op t) {j : Nat} (other : j ≠ i) :
    (b.poll j).Progress base i start op t := by
  simp only [Board.poll]
  split
  · exact progress
  · refine ⟨?_, progress.begun, progress.punctual, ?_, ?_, progress.final⟩
    · exact (List.getElem?_set_ne other).trans progress.task
    · simpa only [ofTask_append, ofTask_other other, List.append_nil] using progress.course
    · simpa only [ofTask_append, ofTask_other other, List.append_nil] using progress.calls

end Progress

omit [Transport τ] in
/-- Waiting changes nothing but the clock. -/
theorem wait_eq (b : Board τ) (time : Nat) : ∃ clock, b.wait time = { b with clock } := by
  unfold Board.wait
  split
  · exact ⟨_, rfl⟩
  · exact ⟨b.clock, rfl⟩

/-- A poll at which nothing comes of an operation changes nothing. -/
theorem poll_still {i : Nat} {t : Task} (found : b.tasks[i]? = some t)
    (still : t.poll b.clock b.dispatcher = { task := t, dispatcher := b.dispatcher }) :
    b.poll i = b := by
  obtain ⟨inside, same⟩ := List.getElem?_eq_some_iff.mp found
  have kept : b.tasks.set i t = b.tasks := same ▸ List.set_getElem_self inside
  simp [poll, found, still, kept]

namespace Progress

variable {i start : Nat} {op : Operation} {t : Task}

/-- A poll of an operation. -/
theorem poll_self (progress : b.Progress base i start op t) (steady : base.Steady)
    (reached : base.Reached b.dispatcher) :
    ∃ t', (b.poll i).Progress base i start op t' := by
  obtain ⟨now, clock⟩ := Nat.exists_eq_add_of_le progress.begun
  have polled : (t.delayed start).poll b.clock b.dispatcher =
      (t.poll now b.dispatcher).delayed start := by
    rw [clock, Task.poll_delayed]
  by_cases pending : t.due? = some now
  -- What comes of the poll was still to come before, and it has been done now.
  · have next := Task.solo_poll steady reached pending
    have inside : i < b.tasks.length := (List.getElem?_eq_some_iff.mp progress.task).1
    refine ⟨(t.poll now b.dispatcher).task, ?_⟩
    simp only [Board.poll, progress.task, polled]
    refine ⟨List.getElem?_set_self inside, progress.begun, ?_, ?_, ?_,
      progress.final.trans next.task⟩
    · intro due later
      rw [clock]
      exact Nat.add_le_add_left (Task.le_due_poll b.dispatcher pending later) start
    · rw [progress.course, next.course, Task.Turn.before, Timeline.delayed_append,
        Timeline.delayed_now, ← clock, ofTask_append, ofTask_same, List.append_assoc]
      rfl
    · rw [progress.calls, next.calls, Task.Turn.before, Timeline.delayed_append,
        Timeline.delayed_now, ← clock, ofTask_append, ofTask_same, List.append_assoc]
      rfl
  · have undue : ∀ due, t.due? = some due → now < due := by
      intro due later
      have ahead := progress.punctual due later
      have apart : due ≠ now := fun same => pending (same ▸ later)
      omega
    rw [Task.poll_undue _ undue] at polled
    exact ⟨t, (poll_still progress.task polled).symm ▸ progress⟩

end Progress

/-- Operations that began at their times and run side by side are on their way to what they do
alone. -/
structure Tracks (base : Dispatcher τ) (ops : List (Nat × Operation)) (b : Board τ) : Prop where
  dispatcher : base.Reached b.dispatcher
  length : b.tasks.length = ops.length
  each : ∀ i start op, ops[i]? = some (start, op) → ∃ t, b.Progress base i start op t
  logged : ∀ entry ∈ b.log, entry.task < ops.length
  called : ∀ entry ∈ b.calls, entry.task < ops.length

variable {ops : List (Nat × Operation)}

private theorem start_tracks (base : Dispatcher τ) (ops : List Operation) :
    (start base ops).Tracks base (ops.map (0, ·)) where
  dispatcher := .refl base
  length := by simp [start]
  each := by
    intro i time op given
    rw [List.getElem?_map, Option.map_eq_some_iff] at given
    obtain ⟨_, given, same⟩ := given
    cases same
    refine ⟨⟨op, .fresh⟩, ?_, Nat.le_refl 0, fun due _ => Nat.zero_le _, rfl, rfl, rfl⟩
    simp only [start, List.getElem?_map, given, Option.map_some]
    rfl
  logged := by simp [start]
  called := by simp [start]

private theorem Tracks.spawn (tracks : b.Tracks base ops) (op : Operation) :
    (b.spawn op).Tracks base (ops ++ [(b.clock, op)]) where
  dispatcher := tracks.dispatcher
  length := by simp [Board.spawn, tracks.length]
  each := by
    intro i start other given
    rcases Nat.lt_trichotomy i ops.length with before | rfl | beyond
    · rw [List.getElem?_append_left before] at given
      obtain ⟨t, progress⟩ := tracks.each i start other given
      exact ⟨t, progress.spawn op⟩
    · rw [List.getElem?_concat_length] at given
      cases given
      rw [← tracks.length]
      exact ⟨_, .begin op (tracks.length ▸ tracks.logged) (tracks.length ▸ tracks.called)⟩
    · rw [List.getElem?_eq_none (by simpa using Nat.succ_le_of_lt beyond)] at given
      cases given
  logged entry member := by simpa using Nat.lt_succ_of_lt (tracks.logged entry member)
  called entry member := by simpa using Nat.lt_succ_of_lt (tracks.called entry member)

private theorem Tracks.poll (tracks : b.Tracks base ops) (steady : base.Steady) (i : Nat) :
    (b.poll i).Tracks base ops where
  dispatcher := by
    simp only [Board.poll]
    split
    · exact tracks.dispatcher
    · exact Task.poll_reached tracks.dispatcher _ b.clock
  length := by
    simp only [Board.poll]
    split
    · exact tracks.length
    · simpa using tracks.length
  each := by
    intro j start op given
    obtain ⟨t, progress⟩ := tracks.each j start op given
    by_cases same : i = j
    · exact same ▸ progress.poll_self steady tracks.dispatcher
    · exact ⟨t, progress.poll_other same⟩
  logged := by
    simp only [Board.poll]
    split
    · exact tracks.logged
    · rename_i found
      have inside := (List.getElem?_eq_some_iff.mp found).1
      exact task_lt_append _ tracks.logged (tracks.length ▸ inside)
  called := by
    simp only [Board.poll]
    split
    · exact tracks.called
    · rename_i found
      have inside := (List.getElem?_eq_some_iff.mp found).1
      exact task_lt_append _ tracks.called (tracks.length ▸ inside)

private theorem Tracks.wait (tracks : b.Tracks base ops) (time : Nat) :
    (b.wait time).Tracks base ops := by
  have each : ∀ i start op, ops[i]? = some (start, op) →
      ∃ t, (b.wait time).Progress base i start op t := by
    intro i start op given
    obtain ⟨t, progress⟩ := tracks.each i start op given
    exact ⟨t, progress.wait time⟩
  obtain ⟨clock, same⟩ := b.wait_eq time
  rw [same] at each ⊢
  exact { tracks with each }

private theorem Tracks.move (tracks : b.Tracks base ops) (steady : base.Steady) (m : Move) :
    (b.move m).Tracks base ops := by
  cases m with
  | poll i => exact tracks.poll steady i
  | wait time => exact tracks.wait time

private theorem Tracks.acted (tracks : b.Tracks base ops) (steady : base.Steady) (acts : List Act) :
    (b.acted acts).Tracks base (ops ++ b.begun acts) := by
  induction acts generalizing b ops with
  | nil => exact (List.append_nil ops).symm ▸ tracks
  | cons a acts ih =>
    cases a with
    | begin op =>
      have rest := ih (tracks.spawn op)
      rw [List.append_assoc] at rest
      exact rest
    | move m => exact ih (tracks.move steady m)

/-- In the end an operation has done what it does alone. -/
theorem Tracks.of_settled (tracks : b.Tracks base ops) (settled : b.Settled) {i start : Nat}
    {op : Operation} (given : ops[i]? = some (start, op)) :
    ((⟨op, .fresh⟩ : Task).solo base).course.delayed start = ofTask i b.log ∧
      ((⟨op, .fresh⟩ : Task).solo base).calls.delayed start = ofTask i b.calls ∧
      b.tasks[i]? = some (((⟨op, .fresh⟩ : Task).solo base).task.delayed start) := by
  obtain ⟨t, progress⟩ := tracks.each i start op given
  have quiet : t.due? = none := by
    rw [Option.eq_none_iff_forall_ne_some]
    intro due pending
    obtain ⟨limit, waits, -⟩ := Task.due?_delayed start pending
    cases (settled _ (List.mem_of_getElem? progress.task)).symm.trans waits
  have rest := Task.solo_settled (d := base) quiet
  refine ⟨?_, ?_, ?_⟩
  · rw [progress.course, rest]
    exact List.append_nil _
  · rw [progress.calls, rest]
    exact List.append_nil _
  · rw [progress.final, rest]
    exact progress.task

/-- Operations that begin at their times and run side by side, on a dispatcher whose transports write
down their calls, and what each of them does alone. -/
structure Independent (d : Dispatcher τ) (ops : List (Nat × Operation)) (b : Board (Recorded τ)) :
    Prop where
  /-- At any time an operation has done the beginning of what it does alone, counted from when it
  began, and is not late with the rest. -/
  begun : ∀ i start op, ops[i]? = some (start, op) →
    ∃ rest, (op.alone d.recorded).1.delayed start = ofTask i b.log ++ rest ∧
      ∀ event ∈ rest, b.clock ≤ event.1
  /-- In the end it has done all of it, with the same results, in the same times. -/
  course : b.Settled → ∀ i start op, ops[i]? = some (start, op) →
    ofTask i b.log = (op.alone d.recorded).1.delayed start
  /-- The calls that were made for it are those that it makes alone. -/
  calls : b.Settled → ∀ i start op, ops[i]? = some (start, op) → ∀ mode,
    callsIn mode ((ofTask i b.calls).map (·.2)) = (op.alone d.recorded).2.callsOf mode
  /-- The session that it ran is left as it is alone. -/
  session : b.Settled → ∀ (i start : Nat) s mode,
    ops[i]? = some (start, Operation.runStream s mode) →
      b.tasks[i]?.bind Task.session? = some (d.recorded.sessionAfter s mode)
  /-- The user is told what each of them tells alone. -/
  sink : b.Settled →
    Interleaves (ops.map fun op => (op.2.alone d.recorded).1.notices) b.sink
  /-- All calls that reach the transports were made for one of them. -/
  owned : ∀ entry ∈ b.calls, entry.task < ops.length
  reached : ∀ mode, b.dispatcher.callsOf mode = callsIn mode (b.calls.map (·.event))

section
variable {b : Board (Recorded τ)} {mode : Mode}

/-- The logs of the transports are the calls that operations made. -/
theorem move_calls (logged : b.dispatcher.callsOf mode = callsIn mode (b.calls.map (·.event)))
    (m : Move) :
    (b.move m).dispatcher.callsOf mode = callsIn mode ((b.move m).calls.map (·.event)) := by
  cases m with
  | wait time =>
    obtain ⟨clock, same⟩ := b.wait_eq time
    rw [Board.move, same]
    exact logged
  | poll i =>
    simp only [Board.move, Board.poll]
    split
    · exact logged
    · simp [Task.poll_calls, logged, callsIn_append, Function.comp_def]

theorem after_calls (logged : b.dispatcher.callsOf mode = callsIn mode (b.calls.map (·.event)))
    (moves : List Move) :
    (b.after moves).dispatcher.callsOf mode =
      callsIn mode ((b.after moves).calls.map (·.event)) := by
  induction moves generalizing b with
  | nil => exact logged
  | cons m moves ih => exact ih (move_calls logged m)

private theorem acted_calls
    (logged : b.dispatcher.callsOf mode = callsIn mode (b.calls.map (·.event))) (acts : List Act) :
    (b.acted acts).dispatcher.callsOf mode =
      callsIn mode ((b.acted acts).calls.map (·.event)) := by
  induction acts generalizing b with
  | nil => exact logged
  | cons a acts ih =>
    cases a with
    | begin op => exact ih logged
    | move m => exact ih (move_calls logged m)

end

variable {d : Dispatcher τ} {c : Board (Recorded τ)}

private theorem Tracks.begun (tracks : c.Tracks d.recorded ops) {i start : Nat} {op : Operation}
    (given : ops[i]? = some (start, op)) :
    ∃ rest, (op.alone d.recorded).1.delayed start = ofTask i c.log ++ rest ∧
      ∀ event ∈ rest, c.clock ≤ event.1 := by
  obtain ⟨t, progress⟩ := tracks.each i start op given
  refine ⟨_, (Task.solo_alone op d.recorded).1 ▸ progress.course, ?_⟩
  intro event member
  obtain ⟨event, later, rfl⟩ := List.mem_map.mp member
  cases pending : t.due? with
  | none => simp [Task.solo_settled pending] at later
  | some due =>
    have ahead := progress.punctual due pending
    have following := Task.due_le_solo pending event later
    simp only
    omega

private theorem Tracks.sink (tracks : c.Tracks d.recorded ops) (settled : c.Settled) :
    Interleaves (ops.map fun op => (op.2.alone d.recorded).1.notices) c.sink := by
  refine ⟨Concurrent.notices c.log, Concurrent.notices_merged c.log, ?_, ?_⟩
  · intro marked member
    obtain ⟨entry, inside, same⟩ := Concurrent.mem_notices member
    simpa [same] using tracks.logged entry inside
  · intro i part found
    obtain ⟨start, op, given, rfl⟩ : ∃ start op, ops[i]? = some (start, op) ∧
        (op.alone d.recorded).1.notices = part := by
      simpa using found
    obtain ⟨course, -, -⟩ := tracks.of_settled settled given
    rw [Concurrent.notices_ofTask, ← course, Course.notices_delayed,
      (Task.solo_alone op d.recorded).1]

theorem recorded_steady (steady : d.Steady) : d.recorded.Steady := by
  intro mode
  rw [Dispatcher.recorded_select]
  exact (steady mode).recorded []

/-- Operations do not get in each other's way, whatever is polled and in which order, and whenever
they begin; and they can always be brought to their end. -/
theorem independent_after (steady : d.Steady) (ops : List Operation) (acts : List Act) :
    let b := (start d.recorded ops).acted acts
    b.Independent d (ops.map (0, ·) ++ (start d.recorded ops).begun acts) ∧
      ∃ more, (b.after more).Settled := by
  intro b
  have tracks : b.Tracks d.recorded (ops.map (0, ·) ++ (start d.recorded ops).begun acts) :=
    (start_tracks d.recorded ops).acted (recorded_steady steady) acts
  refine ⟨⟨?_, ?_, ?_, ?_, tracks.sink, tracks.called, ?_⟩, ?_⟩
  · intro i start op given
    exact tracks.begun given
  · intro settled i start op given
    obtain ⟨course, -, -⟩ := tracks.of_settled settled given
    rw [← course, (Task.solo_alone op d.recorded).1]
  · intro settled i start op given mode
    obtain ⟨-, calls, -⟩ := tracks.of_settled settled given
    rw [← calls, Timeline.delayed_map_snd, ← (Task.solo_alone op d.recorded).2, Task.solo_calls,
      d.recorded_callsOf]
    rfl
  · intro settled i start s mode given
    obtain ⟨-, -, found⟩ := tracks.of_settled settled given
    rw [found, Option.bind_some, Task.session?_delayed, Task.solo_session]
  · intro mode
    exact acted_calls (d.recorded_callsOf mode) acts
  · obtain ⟨more, same⟩ := run_moves .ascending 0 b
    exact ⟨more, same ▸ run_settled _ _ _⟩

/-- A single call and a line that asks for a stream, and a session that is run later, on transports
that answer all calls alike; the stream that stays open never comes to its end. -/
theorem independent_after_three :
    let t : Rehearsal :=
      ⟨.text, [(10, .pong none "svc-a")], [(20, .feed ⟨[(5, .ok ⟨7, "svc-b"⟩)], true⟩)]⟩
    let u : Rehearsal :=
      ⟨.binary, [(0, .notReady "down")], [(3, .failure ⟨.internal, "gone"⟩)]⟩
    let d : Dispatcher Rehearsal := ⟨⟨t, u⟩, .default⟩
    let session : Operation := .runStream (.create 3 1700 .default ⟨2⟩) .text
    let first : List Operation := [.ping "1700" .text, .submit ⟨1⟩ "2 1700" .binary]
    let acts : List Act := [.move (.poll 1), .move (.poll 0), .move (.poll 1), .move (.poll 1),
      .move (.wait 3), .begin session, .move (.poll 2), .move (.poll 1)]
    let b := (start d.recorded first).acted acts
    b.Independent d (first.map (0, ·) ++ [(3, session)]) ∧ ∃ more, (b.after more).Settled := by
  intro t u d session first acts
  refine independent_after ?_ first acts
  intro mode
  cases mode with
  | text => exact Transport.steady_of_fixed (fun _ _ _ => rfl) fun _ _ => rfl
  | binary => exact Transport.steady_of_fixed (fun _ _ _ => rfl) fun _ _ => rfl

end Board
end GatewayPing
