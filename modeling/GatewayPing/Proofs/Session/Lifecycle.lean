import GatewayPing.Dispatcher

/-! The life of a session. Runs of it are begun, polled and dropped at any point, on any transports,
and it is told to stop at any time. Whatever is done to it and in whatever order (`Deed`), it only
moves forward, its counter is the number of the good news that it brought, and it makes one call in
its whole life at most (`lifecycle`).

A run that was dropped leaves the session half-way. There is no second chance for it: the guard at
the first poll of a run turns away any session that is not idle. -/
namespace GatewayPing

namespace Phase

/-- A step in the life of a session. -/
inductive Step : Phase → Phase → Prop where
  | started : Step .idle .streaming
  | ended (e : Ending) : Step .streaming (.done e)

/-- Any number of steps. -/
inductive Leads : Phase → Phase → Prop where
  | stay (p : Phase) : Leads p p
  | go {p q r : Phase} (before : Leads p q) (step : Step q r) : Leads p r

private theorem Leads.trans {p q r : Phase} (first : p.Leads q) (second : q.Leads r) :
    p.Leads r := by
  induction second with
  | stay => exact first
  | go before step ih => exact .go ih step

/-- The end of a session is final. -/
theorem Leads.of_done {e : Ending} {p : Phase} (leads : Leads (.done e) p) : p = .done e := by
  induction leads with
  | stay => rfl
  | go before step ih =>
    rw [ih] at step
    cases step

end Phase

namespace Session

/-- Sessions as they are made: by the library, or by a dispatcher from an input. -/
inductive Created : Session → Prop where
  | new (count : UInt32) (timestamp : Int64) (config : Config) (id : RequestId) :
      Created (.create count timestamp config id)
  | opened {τ : Type} {d : Dispatcher τ} {id : RequestId} {raw : String} {s : Session}
      (made : d.newSession id raw = .ok s) : Created s

theorem Created.idle {s : Session} (created : s.Created) : s.Idle := by
  cases created with
  | new count timestamp config id => exact create_idle count timestamp config id
  | @opened τ d id raw s made =>
    unfold Dispatcher.newSession at made
    split at made
    · cases made
    · cases made
      exact create_idle _ _ _ _

end Session

/-- A session and all that has come of it: the run of it that goes on, if there is one, what the
user was told, and the calls that reached any transport. -/
structure Life where
  session : Session
  stage? : Option Stage
  notices : List Notification
  calls : List Call

/-- What can be done to a session. Every poll has a transport of its own, which may be in any
state: others use it too. -/
inductive Deed (τ : Type) where
  /-- Begins a run. One that goes on is dropped. -/
  | run
  | poll (now : Nat) (t : τ)
  /-- Drops the run. -/
  | drop
  | cancel

namespace Life

variable {τ : Type} [Transport τ]

/-- The life of a session that was just made. -/
def new (s : Session) : Life := ⟨s, none, [], []⟩

/-- A life after a deed. -/
def does (l : Life) : Deed τ → Life
  | .run => { l with stage? := some .fresh }
  | .drop => { l with stage? := none }
  | .cancel => { l with session := l.session.cancel }
  | .poll now t =>
    match l.stage? with
    | none => l
    | some stage =>
      let turn := (⟨l.session, stage⟩ : Ongoing).poll now (⟨t, l.calls⟩ : Recorded τ)
      { session := turn.run.session
        stage? := some turn.run.stage
        notices := l.notices ++ turn.event.toList.flatMap SessionEvent.notices
        calls := turn.transport.calls }

/-- A life after deeds. -/
def after (l : Life) (deeds : List (Deed τ)) : Life := deeds.foldl does l

/-- What holds at any time of the life of a session. -/
structure Lawful (origin : Session) (l : Life) : Prop where
  request : l.session.request = origin.request
  headers : l.session.headers = origin.headers
  /-- The session counts the good news. -/
  received : l.session.received = l.notices.countP (·.severity == .success)
  idle : l.session.state = .idle → l.session.received = 0
  once : l.calls.length ≤ 1

/-- What the laws rest on: only a session that streams is waited for, and the call has not been made
while the session is idle or about to make it. -/
structure Sound (origin : Session) (l : Life) : Prop extends Lawful origin l where
  waits : ∀ stage ∈ l.stage?, stage.waits = true → l.session.state = .streaming
  unused : l.session.state = .idle → l.calls = []
  opening : l.stage? = some .opening → l.calls = []

/-- What a single deed can change. -/
structure Moves (l next : Life) : Prop where
  phase : next.session.state = l.session.state ∨ l.session.state.Step next.session.state
  received : l.session.received ≤ next.session.received
  cancelled : l.session.cancelled = true → next.session.cancelled = true

private theorem Moves.refl (l : Life) : l.Moves l := ⟨.inl rfl, Nat.le_refl _, id⟩

/-- How a life goes on. -/
structure Continues (l later : Life) : Prop where
  phase : l.session.state.Leads later.session.state
  received : l.session.received ≤ later.session.received
  cancelled : l.session.cancelled = true → later.session.cancelled = true

private theorem Continues.refl (l : Life) : l.Continues l := ⟨.stay _, Nat.le_refl _, id⟩

private theorem Continues.trans {l later last : Life} (first : l.Continues later)
    (second : later.Continues last) : l.Continues last :=
  ⟨first.phase.trans second.phase, Nat.le_trans first.received second.received,
    second.cancelled ∘ first.cancelled⟩

private theorem Moves.continues {l next : Life} (moves : l.Moves next) : l.Continues next := by
  refine ⟨?_, moves.received, moves.cancelled⟩
  rcases moves.phase with same | step
  · exact same ▸ .stay _
  · exact .go (.stay _) step

private theorem new_sound {s : Session} (idle : s.Idle) : (new s).Sound s where
  request := rfl
  headers := rfl
  received := idle.received
  idle := fun _ => idle.received
  once := Nat.zero_le 1
  waits := by simp [new]
  unused := fun _ => rfl
  opening := fun _ => rfl

variable {origin : Session} {l : Life}

private theorem does_poll {stage : Stage} (now : Nat) (t : τ) (going : l.stage? = some stage) :
    ∃ turn : Ongoing.Turn (Recorded τ),
      Ongoing.Polled now (⟨t, l.calls⟩ : Recorded τ) ⟨l.session, stage⟩ turn ∧
      l.does (.poll now t) =
        { session := turn.run.session
          stage? := some turn.run.stage
          notices := l.notices ++ turn.event.toList.flatMap SessionEvent.notices
          calls := turn.transport.calls } := by
  refine ⟨_, Ongoing.poll_polled now ⟨l.session, stage⟩ _, ?_⟩
  simp only [does, going]

/-- The end of a run is no good news. -/
private theorem countP_ended (e : RunEnd) : e.notices.countP (·.severity == .success) = 0 := by
  cases e <;> rfl

/-- What a poll preserves. -/
theorem Sound.poll (sound : l.Sound origin) (now : Nat) (t : τ) :
    (l.does (.poll now t)).Sound origin := by
  cases going : l.stage? with
  | none =>
    have same : l.does (.poll now t) = l := by simp only [does, going]
    exact same.symm ▸ sound
  | some stage =>
    obtain ⟨turn, polled, result⟩ := does_poll now t going
    rw [result]
    obtain ⟨s, stage?, notices, calls⟩ := l
    obtain rfl : stage? = some stage := going
    cases polled with
    | waiting undue => simpa using sound
    | started idle =>
      exact { sound with
        received := by simpa [Session.started] using sound.received
        idle := by rintro ⟨⟩
        waits := fun _ _ _ => rfl
        unused := by rintro ⟨⟩
        opening := fun _ => sound.unused idle }
    | refused busy =>
      exact { sound with
        received := by simpa using sound.received
        waits := by simp [Stage.waits]
        opening := by simp }
    | called live =>
      have streams := sound.waits _ rfl rfl
      -- This run has not made its call yet, and by the invariant no run before it has.
      have first : calls = [] := sound.opening rfl
      subst first
      exact { sound with
        received := by simpa [Ongoing.call] using sound.received
        once := by simp [Ongoing.call, Transport.stream]
        waits := fun _ _ _ => streams
        unused := fun idle => by cases streams.symm.trans idle
        opening := by simp [Ongoing.call] }
    | accepted live passed =>
      exact { sound with
        received := by simpa using sound.received
        waits := fun _ _ _ => sound.waits _ rfl rfl
        opening := by simp }
    | @received s since delay p items staysOpen live passed =>
      have streams := sound.waits _ rfl rfl
      have counted := sound.received
      exact { sound with
        received := by
          simp only [Option.toList_some, List.flatMap_cons, List.flatMap_nil, List.append_nil,
            SessionEvent.notices, List.countP_append, List.countP_singleton, ← counted]
          rfl
        idle := fun idle => by cases streams.symm.trans idle
        waits := fun _ _ _ => streams
        opening := by simp }
    | @ended s stage e waits =>
      have counted := sound.received
      exact { sound with
        received := by
          simp only [Ongoing.finish, Option.toList_some, List.flatMap_cons, List.flatMap_nil,
            List.append_nil, SessionEvent.notices, List.countP_append, countP_ended, ← counted]
          rfl
        idle := by rintro ⟨⟩
        waits := by simp [Ongoing.finish, Stage.waits]
        unused := by rintro ⟨⟩
        opening := by simp [Ongoing.finish] }

/-- A deed moves a life on. -/
theorem Sound.poll_moves (sound : l.Sound origin) (now : Nat) (t : τ) :
    l.Moves (l.does (.poll now t)) := by
  cases going : l.stage? with
  | none =>
    have same : l.does (.poll now t) = l := by simp only [does, going]
    exact same.symm ▸ .refl l
  | some stage =>
    obtain ⟨turn, polled, result⟩ := does_poll now t going
    rw [result]
    obtain ⟨s, stage?, notices, calls⟩ := l
    obtain rfl : stage? = some stage := going
    cases polled with
    | started idle => exact ⟨.inr (idle ▸ .started), Nat.le_refl _, id⟩
    | received live passed => exact ⟨.inl rfl, Nat.le_succ _, id⟩
    | ended e waits =>
      have streams := sound.waits _ rfl waits
      refine ⟨.inr (streams ▸ .ended e.sessionEnd), Nat.le_refl _, ?_⟩
      intro told
      simp [Ongoing.finish, Session.apply, show s.cancelled = true from told]
    | _ => exact ⟨.inl rfl, Nat.le_refl _, id⟩

private theorem Sound.does (sound : l.Sound origin) (deed : Deed τ) :
    (l.does deed).Sound origin := by
  cases deed with
  | poll now t => exact sound.poll now t
  | run =>
    exact { sound with
      waits := by simp [Life.does, Stage.waits]
      opening := by simp [Life.does] }
  | drop => exact { sound with waits := by simp [Life.does], opening := by simp [Life.does] }
  | cancel => exact { sound with }

private theorem Sound.moves (sound : l.Sound origin) (deed : Deed τ) : l.Moves (l.does deed) := by
  cases deed with
  | poll now t => exact sound.poll_moves now t
  | cancel => exact ⟨.inl rfl, Nat.le_refl _, fun _ => rfl⟩
  | _ => exact ⟨.inl rfl, Nat.le_refl _, id⟩

/-- What holds of a life holds after any deeds. -/
theorem Sound.after (sound : l.Sound origin) (deeds : List (Deed τ)) :
    (l.after deeds).Sound origin := by
  induction deeds generalizing l with
  | nil => exact sound
  | cons deed deeds ih => exact ih (sound.does deed)

private theorem Sound.continues (sound : l.Sound origin) (deeds : List (Deed τ)) :
    l.Continues (l.after deeds) := by
  induction deeds generalizing l with
  | nil => exact .refl l
  | cons deed deeds ih => exact (sound.moves deed).continues.trans (ih (sound.does deed))

/-- What becomes of a run of a session that is not idle, however it is run: it is turned away, and
nothing else changes. -/
structure Refuses (τ : Type) [Transport τ] (l : Life) : Prop where
  poll : ∀ (now : Nat) (t : τ), (l.does (.run : Deed τ)).does (.poll now t) =
    { l with stage? := some (.done (.error .alreadyStarted)) }
  run : ∀ (t : τ) (cancelAt : Option Moment),
    l.session.run t cancelAt = (.error .alreadyStarted, t)
  dispatched : ∀ (d : Dispatcher τ) (mode : Mode) (cancelAt : Option Moment),
    d.runSession l.session mode cancelAt = (.error .alreadyStarted, d)

private theorem refuses_of_busy (busy : l.session.state ≠ .idle) : l.Refuses τ where
  poll now t := by simp [does, Ongoing.poll, busy]
  run t cancelAt := Session.run_busy busy t cancelAt
  dispatched d mode cancelAt := Dispatcher.runSession_busy busy d mode cancelAt

/-- The law of the life of a session, whatever is done to it. -/
theorem lifecycle {s : Session} (created : s.Created) (deeds : List (Deed τ)) :
    let l := (new s).after deeds
    l.Lawful s ∧
      (∀ deed : Deed τ, l.Moves (l.does deed)) ∧
      (∀ more : List (Deed τ), l.Continues (l.after more)) ∧
      (∀ e, l.session.state = .done e →
        ∀ more : List (Deed τ), (l.after more).session.state = .done e) ∧
      (l.session.state ≠ .idle → l.Refuses τ) := by
  intro l
  have sound : l.Sound s := (new_sound created.idle).after deeds
  refine ⟨sound.toLawful, sound.moves, sound.continues, ?_, refuses_of_busy⟩
  intro e done more
  exact (done ▸ (sound.continues more).phase).of_done

/-- A session whose run is dropped before its call is answered, and that is run once more. -/
theorem lifecycle_dropped_run :
    let t : Rehearsal := ⟨.text, [], [(20, .feed ⟨[], true⟩)]⟩
    let l := (new (.create 3 1700 .default ⟨0⟩)).after
      [.run, .poll 0 t, .poll 0 t, .drop, .run, .poll 30 t]
    l.Lawful (.create 3 1700 .default ⟨0⟩) ∧
      (∀ deed : Deed Rehearsal, l.Moves (l.does deed)) ∧
      (∀ more : List (Deed Rehearsal), l.Continues (l.after more)) ∧
      (∀ e, l.session.state = .done e →
        ∀ more : List (Deed Rehearsal), (l.after more).session.state = .done e) ∧
      (l.session.state ≠ .idle → l.Refuses Rehearsal) :=
  lifecycle (.new 3 1700 .default ⟨0⟩) _

end Life
end GatewayPing
