import GatewayPing.Proofs.Concurrent.Solo

/-! The calls that an operation makes, and the calls that reach the transports. With each poll the
logs of the transports grow by the call that the poll makes, if it makes one, in the mode of the
operation; nothing else gets into them. -/
namespace GatewayPing

/-- The calls that were made in a mode. -/
def callsIn (mode : Mode) (calls : List (Mode × Call)) : List Call :=
  (calls.filter (·.1 == mode)).map (·.2)

theorem callsIn_append (mode : Mode) (first second : List (Mode × Call)) :
    callsIn mode (first ++ second) = callsIn mode first ++ callsIn mode second := by
  simp only [callsIn, List.filter_append, List.map_append]

namespace Dispatcher

variable {τ : Type}

/-- A dispatcher whose transports write down the calls that reach them. -/
def recorded (d : Dispatcher τ) : Dispatcher (Recorded τ) where
  transports := ⟨⟨d.transports.text, []⟩, ⟨d.transports.binary, []⟩⟩
  config := d.config

theorem recorded_select (d : Dispatcher τ) (mode : Mode) :
    d.recorded.transports.select mode = ⟨d.transports.select mode, []⟩ := by
  cases mode <;> rfl

/-- The calls that reached the transport of a mode. -/
def callsOf (d : Dispatcher (Recorded τ)) (mode : Mode) : List Call :=
  (d.transports.select mode).calls

theorem recorded_callsOf (d : Dispatcher τ) (mode : Mode) : d.recorded.callsOf mode = [] := by
  rw [callsOf, recorded_select]

/-- What one transport writes down is written down for its mode. -/
theorem callsOf_update (d : Dispatcher (Recorded τ)) {used : Mode} {t : Recorded τ}
    (call : Option Call) (grown : t.calls = d.callsOf used ++ call.toList) (mode : Mode) :
    (d.update used t).callsOf mode =
      d.callsOf mode ++ callsIn mode (call.map (used, ·)).toList := by
  simp only [callsOf, update, TransportPair.select_update]
  by_cases same : used = mode
  · subst same
    cases call <;> simpa [callsIn, callsOf] using grown
  · cases call <;> simp [callsIn, same]

end Dispatcher

variable {τ : Type}

private theorem Task.answered_calls {task : Task} {now : Nat} {d : Dispatcher (Recorded τ)}
    (reply : Except CallError Pong) (mode : Mode) :
    (task.answered now d reply).dispatcher.callsOf mode =
      d.callsOf mode ++ callsIn mode (task.answered now d reply).call.toList := by
  cases reply <;> exact (List.append_nil _).symm

variable [Transport τ]

private theorem Ongoing.poll_calls (r : Ongoing) (now : Nat) (t : Recorded τ) :
    (r.poll now t).transport.calls = t.calls ++ (r.poll now t).call.toList := by
  have polled := poll_polled now r t
  generalize r.poll now t = turn at polled
  cases polled with
  | called live => rfl
  | _ => exact (List.append_nil _).symm

namespace Task

variable {task : Task} {now : Nat} {d : Dispatcher (Recorded τ)}

private theorem start_calls (plan : Operation.Plan) (mode : Mode) :
    (task.start now d plan).dispatcher.callsOf mode =
      d.callsOf mode ++ callsIn mode (task.start now d plan).call.toList := by
  cases plan with
  | nothing notices result => exact (List.append_nil _).symm
  | stream s => exact (List.append_nil _).symm
  | single method message => exact Dispatcher.callsOf_update d (some _) rfl mode

/-- The logs grow by the call that a poll makes. -/
theorem poll_calls (task : Task) (now : Nat) (d : Dispatcher (Recorded τ)) (mode : Mode) :
    (task.poll now d).dispatcher.callsOf mode =
      d.callsOf mode ++ callsIn mode (task.poll now d).call.toList := by
  unfold poll
  split
  · exact start_calls _ mode
  · split
    · exact answered_calls _ mode
    · exact (List.append_nil _).symm
  · exact (List.append_nil _).symm
  · split <;> exact (List.append_nil _).symm
  · exact (List.append_nil _).symm
  · exact Dispatcher.callsOf_update d _ (Ongoing.poll_calls _ now _) mode
  · exact (List.append_nil _).symm

/-- The logs grow by the calls that an operation makes. -/
theorem solo_calls (task : Task) (d : Dispatcher (Recorded τ)) (mode : Mode) :
    (task.solo d).dispatcher.callsOf mode =
      d.callsOf mode ++ callsIn mode ((task.solo d).calls.map (·.2)) := by
  induction d, task using solo.induct with
  | case1 d task settled =>
    rw [solo_settled settled]
    exact (List.append_nil _).symm
  | case2 d task due pending ih =>
    rw [solo_step pending rfl]
    simp only [Turn.before, ih, poll_calls, List.map_append, List.map_map, callsIn_append,
      List.append_assoc]
    simp [Function.comp_def]

end Task
end GatewayPing
