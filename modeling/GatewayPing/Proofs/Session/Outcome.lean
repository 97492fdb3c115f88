import GatewayPing.Proofs.Session.Polling

/-! How a run ends, by what its call brings. A call that comes to an end does so in one of four ways
(`Script`): it cannot be made, it is rejected, or it is answered by a stream that ends or breaks
off. Each has one verdict: result, final state and notifications agree (`run_outcome`). -/
namespace GatewayPing

/-- What a call that comes to an end brings. Pongs have the delay since the one before. -/
inductive Script where
  | unsent (e : RequestError)
  | rejected (s : Status)
  | completed (pongs : Timeline StreamPong)
  /-- After a failure there may be anything. -/
  | broken (pongs : Timeline StreamPong) (delay : Nat) (s : Status) (rest : Feed)
  deriving Repr

/-- What is expected of a run. -/
structure Verdict where
  result : Except OperationError Ending
  ending : Ending
  complaints : List Notification
  deriving Repr

/-- The verdict on a failure. Code and message are the same in the state and in what the user is
told. -/
def Verdict.failure (f : Failure) : Verdict :=
  ⟨.error (.failed f), .failed f.reported, [f.told]⟩

private theorem Verdict.failure_eq (f : Failure) :
    failure f = ⟨(RunEnd.failed f).result, (RunEnd.failed f).sessionEnd,
      (RunEnd.failed f).notices⟩ := by
  rw [failure, ← f.reported_eq, ← f.told_eq]
  rfl

namespace Script

/-- A pong as an element of a stream. -/
def item (p : Nat × StreamPong) : Nat × Except Status StreamPong := (p.1, .ok p.2)

/-- The answer to the call. -/
def reply : Script → Except CallError Feed
  | .unsent e => .error (.request e)
  | .rejected s => .error (.status s)
  | .completed pongs => .ok ⟨pongs.map item, false⟩
  | .broken pongs delay s rest =>
    .ok ⟨pongs.map item ++ (delay, .error s) :: rest.items, rest.staysOpen⟩

/-- The pongs before the end. -/
def pongs : Script → Timeline StreamPong
  | .unsent _ => []
  | .rejected _ => []
  | .completed pongs => pongs
  | .broken pongs _ _ _ => pongs

/-- When the last of some pongs comes. -/
def lastArrival (start : Nat) (pongs : Timeline StreamPong) : Nat :=
  pongs.foldl (fun time p => time + p.1) start

/-- When the end comes, for a call that is answered at a time. -/
def endTime (answered : Nat) : Script → Nat
  | .unsent _ => answered
  | .rejected _ => answered
  | .completed pongs => lastArrival answered pongs
  | .broken pongs delay _ _ => lastArrival answered pongs + delay

/-- What a run comes to. Only a failure is complained about, and then once. -/
def verdict : Script → Verdict
  | .unsent e => .failure (.unsent e)
  | .rejected s => .failure (.rejected s)
  | .completed _ => ⟨.ok .completed, .completed, []⟩
  | .broken _ _ s _ => .failure (.broken s)

end Script

namespace Trace

private theorem ofItems_pongs (staysOpen : Bool) (start : Nat) (pongs : Timeline StreamPong)
    (rest : List (Nat × Except Status StreamPong)) :
    (ofItems staysOpen start (pongs.map Script.item ++ rest)).pongs.map (·.2) =
      pongs.map (·.2) ++
        (ofItems staysOpen (Script.lastArrival start pongs) rest).pongs.map (·.2) := by
  induction pongs generalizing start with
  | nil => rfl
  | cons p pongs ih =>
    exact congrArg (p.2 :: ·) (ih (start + p.1))

private theorem ofItems_ending? (staysOpen : Bool) (start : Nat) (pongs : Timeline StreamPong)
    (rest : List (Nat × Except Status StreamPong)) :
    (ofItems staysOpen start (pongs.map Script.item ++ rest)).ending? =
      (ofItems staysOpen (Script.lastArrival start pongs) rest).ending? := by
  induction pongs generalizing start with
  | nil => rfl
  | cons p pongs ih => exact ih (start + p.1)

end Trace

namespace Script

/-- The elements of a stream are pongs up to the first failure, if there is one. -/
theorem items_split (items : List (Nat × Except Status StreamPong)) :
    ∃ pongs : Timeline StreamPong, items = pongs.map item ∨
      ∃ delay s rest, items = pongs.map item ++ (delay, .error s) :: rest := by
  induction items with
  | nil => exact ⟨[], .inl rfl⟩
  | cons head items ih =>
    obtain ⟨delay, element⟩ := head
    cases element with
    | error s => exact ⟨[], .inr ⟨delay, s, items, rfl⟩⟩
    | ok p =>
      obtain ⟨pongs, rfl | ⟨later, s, rest, rfl⟩⟩ := ih
      · exact ⟨(delay, p) :: pongs, .inl rfl⟩
      · exact ⟨(delay, p) :: pongs, .inr ⟨later, s, rest, rfl⟩⟩

/-- Every stream that ends or brings a failure is the stream of a script. -/
theorem exists_of_feed (feed : Feed)
    (finishes : feed.staysOpen = false ∨ ∃ delay s, (delay, .error s) ∈ feed.items) :
    ∃ script : Script, script.reply = .ok feed := by
  obtain ⟨items, staysOpen⟩ := feed
  obtain ⟨pongs, rfl | ⟨delay, s, rest, rfl⟩⟩ := items_split items
  · rcases finishes with closed | ⟨delay, s, failure⟩
    · obtain rfl : staysOpen = false := closed
      exact ⟨.completed pongs, rfl⟩
    · simp [item] at failure
  · exact ⟨.broken pongs delay s ⟨rest, staysOpen⟩, rfl⟩

/-- The end of the run. -/
def runEnd : Script → RunEnd
  | .unsent e => .failed (.unsent e)
  | .rejected s => .failed (.rejected s)
  | .completed _ => .completed
  | .broken _ _ s _ => .failed (.broken s)

/-- The verdict is that of the end of the run. -/
theorem verdict_eq (script : Script) :
    script.verdict =
      ⟨script.runEnd.result, script.runEnd.sessionEnd, script.runEnd.notices⟩ := by
  cases script with
  | completed pongs => rfl
  | _ => exact Verdict.failure_eq _

private theorem runEnd_ne_cancelled (script : Script) : (script.runEnd == .cancelled) = false := by
  cases script <;> rfl

/-- All complaints are bad news, and there is one if and only if the run fails. -/
theorem countP_complaints (script : Script) :
    script.verdict.complaints.countP (·.severity == .danger) =
      if script.verdict.result.isOk then 0 else 1 := by
  cases script <;> rfl

end Script

namespace Trace

variable {answered : Nat}

private theorem ofReply_script_pongs (script : Script) :
    (ofReply (.after answered script.reply)).pongs.map (·.2) = script.pongs.map (·.2) := by
  cases script with
  | unsent e => rfl
  | rejected s => rfl
  | completed pongs =>
    have all := ofItems_pongs false answered pongs []
    simpa [ofReply, Script.reply, Script.pongs, ofItems] using all
  | broken pongs delay s rest =>
    have all := ofItems_pongs rest.staysOpen answered pongs ((delay, .error s) :: rest.items)
    simpa [ofReply, Script.reply, Script.pongs, ofItems] using all

private theorem ofReply_script_ending? (script : Script) :
    (ofReply (.after answered script.reply)).ending? =
      some (script.endTime answered, script.runEnd) := by
  cases script with
  | unsent e => rfl
  | rejected s => rfl
  | completed pongs =>
    have last := ofItems_ending? false answered pongs []
    simpa [ofReply, Script.reply, Script.endTime, Script.runEnd, ofItems] using last
  | broken pongs delay s rest => exact ofItems_ending? _ _ _ _

end Trace

namespace Session

/-- A run does what its script says: `run` is what the session `s` came to, whose call was answered
at the time `answered`. -/
structure Run.Plays (run : Run) (s : Session) (script : Script) (answered : Nat) : Prop where
  /-- The state is the end that the script has, and all pongs before it were counted. -/
  final : run.final =
    { s with state := .done script.verdict.ending, received := script.pongs.length }
  result : run.course.result? =
    some (script.endTime answered, run.final, script.verdict.result)
  /-- The user is told of the pongs in their order, and then of the failure, if any. -/
  notices : run.course.notices =
    script.pongs.map (fun p => p.2.told) ++ script.verdict.complaints
  /-- There is bad news if and only if the run fails, and then once. -/
  alarms : run.course.notices.countP (·.severity == .danger) =
    if script.verdict.result.isOk then 0 else 1

variable {τ : Type} [Transport τ] {s : Session} {t : τ} {answered : Nat} {script : Script}

/-- The trace of a run that nobody stops. -/
theorem trace_script (idle : s.state = .idle) (live : s.cancelled = false)
    (answer : (Transport.stream t s.request s.headers).1 = .after answered script.reply) :
    (s.trace t none).1 = Trace.ofReply (.after answered script.reply) := by
  rw [trace_running idle live, answer]
  rfl

theorem plays_script (idle : s.Idle) (live : s.cancelled = false)
    (answer : (Transport.stream t s.request s.headers).1 = .after answered script.reply) :
    (⟨s.started, (s.trace t none).1⟩ : Run).Plays s script answered := by
  rw [trace_script idle.state live answer]
  have orderly := Trace.ofReply_orderly (.after answered script.reply)
  have final : (⟨s.started, Trace.ofReply (.after answered script.reply)⟩ : Run).final =
      { s with state := .done script.verdict.ending, received := script.pongs.length } := by
    have counted := congrArg List.length (@Trace.ofReply_script_pongs answered script)
    simp only [List.length_map] at counted
    simp [Run.final, after_eq _ orderly, Trace.ofReply_script_ending?, counted, started,
      idle.received, script.verdict_eq, script.runEnd_ne_cancelled]
  have notices : (⟨s.started, Trace.ofReply (.after answered script.reply)⟩ : Run).course.notices =
      script.pongs.map (fun p => p.2.told) ++ script.verdict.complaints := by
    have told := congrArg (List.map StreamPong.told)
      (@Trace.ofReply_script_pongs answered script)
    simp only [List.map_map, Function.comp_def] at told
    simp [Run.course, course_notices _ _ orderly, Trace.ofReply_script_ending?, told,
      script.verdict_eq]
  refine ⟨final, ?_, notices, ?_⟩
  · simp [Run.course, course_result? _ _ orderly, Trace.ofReply_script_ending?, Run.final,
      script.verdict_eq]
  · have good (p : Nat × StreamPong) : p.2.told.severity = .success := rfl
    rw [notices, List.countP_append, script.countP_complaints]
    simp [List.countP_map, Function.comp_def, good]

/-- How a run ends: an idle session that nobody stops runs to the end that its script has, with one
call. Result, state, counter and notifications agree. -/
theorem run_outcome (idle : s.Idle) (live : s.cancelled = false)
    (answer : (Transport.stream t s.request s.headers).1 = .after answered script.reply) :
    ∃ run : Run,
      s.run t none = (.ok run, (Transport.stream t s.request s.headers).2) ∧
      run.Plays s script answered := by
  refine ⟨_, ?_, plays_script idle live answer⟩
  rw [run_idle idle.state, trace_transport idle.state live (by simp)]

/-- A stream that breaks off after its first pong. What would come after that is lost. -/
theorem run_outcome_broken_off :
    let s := create 3 1700 .default ⟨0⟩
    let t : Rehearsal := ⟨.text, [], [(20, .feed ⟨[(5, .ok ⟨1700, "svc-a"⟩),
      (8, .error ⟨.internal, "gone"⟩), (1, .ok ⟨1700, "svc-b"⟩)], true⟩)]⟩
    ∃ run : Run,
      s.run t none = (.ok run, (Transport.stream t s.request s.headers).2) ∧
      run.Plays s (.broken [(5, ⟨1700, "svc-a"⟩)] 8 ⟨.internal, "gone"⟩
        ⟨[(1, .ok ⟨1700, "svc-b"⟩)], true⟩) 20 :=
  run_outcome (create_idle 3 1700 .default ⟨0⟩) rfl rfl

end Session
end GatewayPing
