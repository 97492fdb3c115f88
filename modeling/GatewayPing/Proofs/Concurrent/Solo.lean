import GatewayPing.Proofs.Concurrent.Polling
import GatewayPing.Proofs.Concurrent.Steady
import GatewayPing.Proofs.Session.Polling

/-! Operations beside which nothing else goes on. Such an operation is polled whenever it can go on
(`Task.solo`). What is still to come of it depends only on what it waits for, not on what became of
the transports (`Task.solo_same`). -/
namespace GatewayPing

open Operation (Result)

namespace Task

/-- All that comes of an operation. -/
structure Solo (τ : Type) where
  course : Course Result
  calls : Timeline (Mode × Call)
  /-- What the operation waits for in the end. -/
  task : Task
  dispatcher : Dispatcher τ

/-- What comes of an operation from a poll on: what comes of the poll, and the rest. -/
def Turn.before {τ : Type} (turn : Turn τ) (time : Nat) (rest : Solo τ) : Solo τ where
  course := turn.events.map (time, ·) ++ rest.course
  calls := turn.call.toList.map (time, ·) ++ rest.calls
  task := rest.task
  dispatcher := rest.dispatcher

namespace Solo

variable {τ : Type} {d : Dispatcher τ} {op : Operation} {s : Session} {time : Nat} {t : τ}
  {turn : Turn τ} {rest : Solo τ}

/-- Operations of which the same comes. -/
structure Alike (a b : Solo τ) : Prop where
  course : a.course = b.course
  calls : a.calls = b.calls
  task : a.task = b.task

theorem Alike.before {other : Solo τ} {a b : Turn τ} (alike : a.Alike b)
    (later : rest.Alike other) : (a.before time rest).Alike (b.before time other) := by
  refine ⟨?_, ?_, later.task⟩
  · simp only [Turn.before, alike.events, later.course]
  · simp only [Turn.before, alike.call, later.calls]

/-- What comes of an operation is what comes of the run of its session. -/
structure Follows (all : Solo τ) (d : Dispatcher τ) (op : Operation) (s : Session)
    (driven : Trace × τ) : Prop where
  course : all.course = s.course op.ofRun driven.1
  dispatcher : all.dispatcher = d.update op.mode driven.2
  session : all.task.session? = some (s.after driven.1)

/-- A poll at which nothing is seen. -/
theorem Follows.before_silent {driven : Trace × τ}
    (follows : rest.Follows (d.update op.mode t) op s driven) (silent : turn.events = []) :
    (turn.before time rest).Follows d op s driven := by
  refine ⟨?_, ?_, follows.session⟩
  · simp only [Turn.before, silent, List.map_nil, List.nil_append, follows.course]
  · rw [← Dispatcher.update_update d op.mode t, ← follows.dispatcher]
    rfl

/-- A poll at which a pong comes. -/
theorem Follows.before_pong {p : StreamPong} {trace : Trace} {u : τ}
    (follows : rest.Follows (d.update op.mode t) op (s.apply (.pong p)) (trace, u))
    (told : turn.events = [.notice (.ofStreamPong p)]) :
    (turn.before time rest).Follows d op s ((time, .pong p) :: trace, u) := by
  refine ⟨?_, ?_, follows.session⟩
  · simp only [Turn.before, told, follows.course]
    rfl
  · rw [← Dispatcher.update_update d op.mode t, ← follows.dispatcher]
    rfl

end Solo

variable {τ : Type} [Transport τ]

/-- Polls an operation whenever it can go on, until it cannot any more. -/
def solo (d : Dispatcher τ) (task : Task) : Solo τ :=
  match _ : task.due? with
  | none => ⟨[], [], task, d⟩
  | some time =>
    (task.poll time d).before time (solo (task.poll time d).dispatcher (task.poll time d).task)
termination_by task.rank
decreasing_by exact task.poll_rank d (by assumption) (Nat.le_refl _)

variable {task : Task} {d e : Dispatcher τ} {op : Operation} {time : Nat}

theorem solo_settled (settled : task.due? = none) : task.solo d = ⟨[], [], task, d⟩ := by
  rw [solo]
  split
  · rfl
  · rename_i pending
    cases settled.symm.trans pending

theorem solo_step {turn : Turn τ} (pending : task.due? = some time)
    (polled : task.poll time d = turn) :
    task.solo d = turn.before time (turn.task.solo turn.dispatcher) := by
  subst polled
  rw [solo]
  split
  · rename_i settled
    cases settled.symm.trans pending
  · rename_i same
    cases same.symm.trans pending
    rfl

/-- A poll at which nothing is seen and no call is made leaves no mark. -/
theorem solo_silent {next : Task} (pending : task.due? = some time)
    (polled : task.poll time d = { task := next, dispatcher := e }) :
    task.solo d = next.solo e :=
  solo_step pending polled

/-- A poll that ends an operation is the last. -/
theorem solo_finish {notices : List Notification} {result : Result}
    (pending : task.due? = some time)
    (last : task.poll time d = task.finish d notices result) :
    task.solo d = ⟨Course.ending time notices result, [], ⟨task.op, .finished⟩, d⟩ := by
  rw [solo_step pending last, solo_settled rfl]
  simp [finish, Turn.before, Course.ending, Function.comp_def]

/-- What is still to come of an operation is not seen before the operation can go on. -/
theorem due_le_solo (pending : task.due? = some time) :
    ∀ event ∈ (task.solo d).course, time ≤ event.1 := by
  induction d, task using solo.induct generalizing time with
  | case1 d task settled => cases settled.symm.trans pending
  | case2 d task due pendingNow ih =>
    obtain rfl : due = time := Option.some.inj (pendingNow.symm.trans pending)
    rw [solo_step pending rfl]
    intro event seen
    rcases List.mem_append.mp seen with now | later
    · obtain ⟨happening, -, rfl⟩ := List.mem_map.mp now
      exact Nat.le_refl due
    · cases next : (task.poll due d).task.due? with
      | none => simp only [solo_settled next, List.not_mem_nil] at later
      | some following => exact Nat.le_trans (le_due_poll d pending next) (ih next event later)

/-- What comes of an operation does not depend on what others have done. -/
theorem solo_same {base : Dispatcher τ} (steady : base.Steady) (first : base.Reached d)
    (second : base.Reached e) : (task.solo d).Alike (task.solo e) := by
  induction d, task using solo.induct generalizing e with
  | case1 d task settled =>
    rw [solo_settled settled, solo_settled settled]
    exact ⟨rfl, rfl, rfl⟩
  | case2 d task due pending ih =>
    have alike : (task.poll due d).Alike (task.poll due e) := poll_same steady first second
    have rest := ih (poll_reached first task due) (poll_reached second task due)
    rw [solo_step pending rfl, solo_step (d := e) pending rfl, ← alike.task]
    exact .before alike rest

/-- What comes of an operation is what comes of its next poll and the rest, even if others have used
the dispatcher. -/
theorem solo_poll {base : Dispatcher τ} (steady : base.Steady) (reached : base.Reached d)
    (pending : task.due? = some time) :
    (task.solo base).Alike
      ((task.poll time d).before time ((task.poll time d).task.solo base)) := by
  have alike : (task.poll time base).Alike (task.poll time d) :=
    poll_same steady (.refl base) reached
  rw [solo_step pending rfl, ← alike.task]
  exact .before alike (solo_same steady (poll_reached (.refl base) task time) (.refl base))

/-- What comes of an operation whose session runs is what comes of the run. -/
theorem solo_running {now : Nat} {r : Ongoing} (waits : r.stage.waits = true)
    (ahead : ∀ due, r.due? = some due → now ≤ due) :
    ((⟨op, .running r⟩ : Task).solo d).Follows d op r.session
      (r.drive none now (d.transports.select op.mode)) := by
  -- The induction is on the polls of the operation; the run has its own polls at the same times.
  generalize same : (⟨op, .running r⟩ : Task) = task
  induction d, task using solo.induct generalizing r now with
  | case1 d task settled =>
    subst same
    have quiet : r.due? = none := settled
    rw [solo_settled settled, Ongoing.drive_none (by simp [Ongoing.nextPoll?, quiet])]
    exact ⟨rfl, (Dispatcher.update_select d op.mode).symm, rfl⟩
  | case2 d task due pending ih =>
    subst same
    have next : r.nextPoll? none now = some (due, r) :=
      Ongoing.nextPoll?_of_due pending (ahead due pending) (by simp)
    rw [Ongoing.drive_step next rfl, solo_step pending (poll_running d pending)]
    rw [poll_running d pending] at ih
    have polled := Ongoing.poll_polled due r (d.transports.select op.mode)
    have following (later : Nat)
        (due? : (r.poll due (d.transports.select op.mode)).run.due? = some later) : due ≤ later :=
      Ongoing.le_due_poll _ pending due?
    simp only [proceed] at ih ⊢
    generalize r.poll due (d.transports.select op.mode) = turn at *
    have rest (waits : turn.run.stage.waits = true) := ih waits following rfl
    simp only [Dispatcher.select_update_same] at rest
    cases polled with
    | waiting undue => exact absurd (undue due pending) (Nat.lt_irrefl due)
    | started idle => cases waits
    | refused busy => cases waits
    | called live => exact (rest rfl).before_silent rfl
    | accepted live passed => exact (rest rfl).before_silent rfl
    | received live passed => exact (rest rfl).before_pong rfl
    | @ended s stage e waits =>
      rw [solo_settled (by exact Ongoing.due?_done), Ongoing.finish, Ongoing.drive_done]
      refine ⟨?_, rfl, rfl⟩
      simp [Turn.before, seen, Session.course, Course.ending, Function.comp_def]

end Task
end GatewayPing
