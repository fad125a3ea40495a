/-
# Operations

The things that may be done in a facility, as values, and what a sequence of them does.
The shared service takes the same operations one at a time; all it adds is a note of its own
after a rollback.
-/
import Garage.Facility

namespace Garage

/-- Something that may be done in a facility. -/
inductive Operation
  | addZone (zone : Zone)
  | submit (vehicle : String) (zone : ZoneId) (now : Instant)
  | occupy (id : RequestId)
  | cancel (id : RequestId)
  | release (id : RequestId)
  | rollback (k : Nat)
deriving DecidableEq, Repr

/-- What an operation answers when it succeeds. -/
inductive Answer
  | done
  /-- The id of a new request. -/
  | request (id : RequestId)
  /-- How many allocations were taken back. -/
  | count (n : Nat)
deriving DecidableEq, Repr

namespace Facility

/-- Does one operation. -/
def perform (s : Facility) : Operation → Outcome Facility (Except RequestError Answer)
  | .addZone z => ⟨.ok .done, s.addZone z, s.registry.addZoneEvents z⟩
  | .submit vehicle zone now =>
    let o := s.submit vehicle zone now
    ⟨o.answer.map .request, o.state, o.events⟩
  | .occupy id => let o := s.occupy id; ⟨o.answer.map fun _ => .done, o.state, o.events⟩
  | .cancel id => let o := s.cancel id; ⟨o.answer.map fun _ => .done, o.state, o.events⟩
  | .release id => let o := s.release id; ⟨o.answer.map fun _ => .done, o.state, o.events⟩
  | .rollback k => let o := s.rollback k; ⟨.ok (.count o.answer), o.state, o.events⟩

/-- The state after one operation. -/
def after (s : Facility) (op : Operation) : Facility := (s.perform op).state

/-- The state after a sequence of operations, whether they succeed or fail. -/
def run (s : Facility) (ops : List Operation) : Facility := ops.foldl after s

/-- Does one operation for a client of the shared service. -/
def serve (s : Facility) (op : Operation) : Outcome Facility (Except RequestError Answer) :=
  let o := s.perform op
  match op, o.answer with
  | .rollback k, .ok (.count n) => { o with events := o.events ++ [.serviceRollback n k] }
  | _, _ => o

@[simp] theorem run_nil (s : Facility) : s.run [] = s := rfl

@[simp] theorem run_cons (s : Facility) (op : Operation) (ops : List Operation) :
    s.run (op :: ops) = (s.after op).run ops := rfl

theorem run_append (s : Facility) (ops ops' : List Operation) :
    s.run (ops ++ ops') = (s.run ops).run ops' := by
  simp [run]

/-- The service changes nothing but the report. -/
theorem serve_state (s : Facility) (op : Operation) : (s.serve op).state = s.after op := by
  unfold serve after
  dsimp only
  split <;> rfl

theorem serve_answer (s : Facility) (op : Operation) :
    (s.serve op).answer = (s.perform op).answer := by
  unfold serve
  dsimp only
  split <;> rfl

end Facility

end Garage
