/-
# What a garage keeps on file

Of all that is done in a garage, two lists tell for good: the requests that were made and the
vehicles that came.  Operations change the stages and the slots of requests, but no operation takes
anything out of these lists or puts anything in between.

* `Facility.journal` are the requests that were made in a run, as the operations and their answers
  tell them; `requests_are_journal` says that they are the list of requests.
* `Operation.vehicle?` is the vehicle that comes with a submission, whether it gets a slot or not;
  `vehicles_are_first_visits` says that the list of vehicles has each one as it came first.
-/
import Mathlib.Data.List.Induction
import Garage.Proofs.Competition
import Garage.Proofs.Outcomes

namespace Garage

/-! ### The requests that were made -/

/-- The request as it was when it was made. -/
def Request.asked (r : Request) : Request := .new r.id r.vehicle r.zone r.time

namespace Operation

def isSubmission : Operation → Bool
  | .submit .. => true
  | .addZone _ | .occupy _ | .cancel _ | .release _ | .rollback _ => false

/-- The request that an operation made, as the operation and its answer tell it. -/
def made? : Operation → Except RequestError Answer → Option Request
  | .submit vehicle zone now, .ok (.request id) => some (.new id vehicle zone now)
  | _, _ => none

end Operation

namespace Facility

/-- The requests that were made in a run, as the operations and their answers tell them. -/
def journal (s : Facility) (ops : List Operation) : List Request :=
  (ops.zip (s.answers ops)).filterMap fun x => x.1.made? x.2

/-- How many submissions of a run succeed. -/
def accepted (s : Facility) (ops : List Operation) : Nat :=
  (ops.zip (s.answers ops)).countP fun x => x.1.isSubmission && x.2.isOk

lemma journal_cons (s : Facility) (op : Operation) (ops : List Operation) :
    s.journal (op :: ops) =
      (op.made? (s.perform op).answer).toList ++ (s.after op).journal ops := by
  rw [journal, answers, List.zip_cons_cons, List.filterMap_cons, journal]
  cases op.made? (s.perform op).answer <;> rfl

lemma accepted_cons (s : Facility) (op : Operation) (ops : List Operation) :
    s.accepted (op :: ops) = (s.after op).accepted ops +
      if op.isSubmission && (s.perform op).answer.isOk then 1 else 0 := by
  rw [accepted, answers, List.zip_cons_cons, List.countP_cons, accepted]

/-- An operation puts the request that it made behind the others. -/
theorem requests_asked_after (s : Facility) (op : Operation) :
    (s.after op).requests.map (·.asked) =
      s.requests.map (·.asked) ++ (op.made? (s.perform op).answer).toList := by
  cases op with
  | submit vehicle zone now =>
    rw [requests_submit, answer_perform_submit]
    cases s.registry.choose zone <;> simp [Operation.made?, Request.asked, Request.new]
  | addZone | occupy | cancel | release | rollback =>
    rcases map_requests_after (g := Request.asked) (fun _ _ _ => rfl) s _ with
      hsame | ⟨_, _, _, hop, -⟩
    · rw [hsame]
      simp [Operation.made?]
    · cases hop

theorem requests_asked_run (s : Facility) (ops : List Operation) :
    (s.run ops).requests.map (·.asked) = s.requests.map (·.asked) ++ s.journal ops := by
  induction ops generalizing s with
  | nil => exact (List.append_nil _).symm
  | cons op ops ih =>
    rw [run_cons, ih, requests_asked_after, journal_cons, List.append_assoc]

/-- A submission that succeeds makes one request, and nothing else makes any. -/
lemma length_made? (s : Facility) (op : Operation) :
    (op.made? (s.perform op).answer).toList.length =
      if op.isSubmission && (s.perform op).answer.isOk then 1 else 0 := by
  cases op with
  | submit vehicle zone now =>
    rw [answer_perform_submit]
    cases s.registry.choose zone <;> rfl
  | addZone | occupy | cancel | release | rollback => rfl

lemma length_requests_run (s : Facility) (ops : List Operation) :
    (s.run ops).requests.length = s.requests.length + s.accepted ops := by
  induction ops generalizing s with
  | nil => rfl
  | cons op ops ih =>
    have hone := congrArg List.length (requests_asked_after s op)
    rw [List.length_append, List.length_map, List.length_map, length_made?] at hone
    rw [run_cons, ih, accepted_cons, hone]
    omega

/-- The list of requests is the journal of the submissions that succeeded. -/
structure Journalled (zones : List Zone) (ops : List Operation) : Prop where
  /-- There is one request for each submission that succeeds, in order, with the id that was
  answered and with the vehicle, the zone and the time of the submission. -/
  requests_eq : ((ofZones zones).run ops).requests.map (·.asked) = (ofZones zones).journal ops
  length_eq : ((ofZones zones).run ops).requests.length = (ofZones zones).accepted ops
  /-- The id of a request is its place. -/
  id_eq : ∀ i r, ((ofZones zones).run ops).request? i = some r → r.id = i
  /-- The ids that are there are those below the number of submissions that succeeded. -/
  isSome_iff : ∀ i, (((ofZones zones).run ops).request? i).isSome ↔ i < (ofZones zones).accepted ops
  /-- Requests that are there stay where they are, and as they were when they were made. -/
  kept : ∀ ops₁ ops₂, ops = ops₁ ++ ops₂ →
    ((ofZones zones).run ops₁).requests.map (·.asked) <+:
      ((ofZones zones).run ops).requests.map (·.asked)

/-- **The requests are a journal.**  Whatever zones there are and whatever is done, the requests are
those of the submissions that succeeded, in order and numbered from zero, and each one says for good
who asked for which zone and when. -/
theorem requests_are_journal (zones : List Zone) (ops : List Operation) :
    Journalled zones ops := by
  have hlength : ((ofZones zones).run ops).requests.length = (ofZones zones).accepted ops := by
    rw [length_requests_run, requests_ofZones, List.length_nil, Nat.zero_add]
  constructor
  case requests_eq =>
    rw [requests_asked_run, requests_ofZones]
    rfl
  case length_eq => exact hlength
  case id_eq => exact (numbered_ofZones zones).run ops
  case isSome_iff =>
    intro i
    rw [← hlength, request?, isSome_getElem?]
  case kept =>
    intro ops₁ ops₂ hsplit
    rw [hsplit, run_append, requests_asked_run _ ops₂]
    exact List.prefix_append _ _

end Facility

/-! ### The vehicles that came -/

/-- The vehicle that comes with the operation.  It prefers the zone that it asks for. -/
def Operation.vehicle? : Operation → Option Vehicle
  | .submit vehicle zone _ => some ⟨vehicle, zone⟩
  | .addZone _ | .occupy _ | .cancel _ | .release _ | .rollback _ => none

/-- Puts a vehicle behind the others, unless there is one with its id. -/
def enroll (vehicles : List Vehicle) (v : Vehicle) : List Vehicle :=
  if v.id ∈ vehicles.map (·.id) then vehicles else vehicles ++ [v]

/-- The vehicles are those that came, each one once and as it came first. -/
structure FirstVisits (visits vehicles : List Vehicle) : Prop where
  /-- The ids are in the order in which they came first. -/
  ids_eq : vehicles.map (·.id) = (visits.map (·.id)).eraseDups
  nodup : (vehicles.map (·.id)).Nodup
  /-- A vehicle is as it came first. -/
  find?_eq : ∀ v ∈ vehicles, visits.find? (·.id == v.id) = some v

namespace FirstVisits

variable {visits vehicles : List Vehicle}

lemma nil : FirstVisits [] [] := ⟨rfl, List.nodup_nil, by simp⟩

lemma mem_ids_iff (hv : FirstVisits visits vehicles) {id : String} :
    id ∈ vehicles.map (·.id) ↔ id ∈ visits.map (·.id) := by
  rw [hv.ids_eq, List.mem_eraseDups]

/-- One more visit. -/
lemma concat (hv : FirstVisits visits vehicles) (v : Vehicle) :
    FirstVisits (visits ++ [v]) (enroll vehicles v) := by
  have hids : ((visits ++ [v]).map (·.id)).eraseDups = if v.id ∈ visits.map (·.id)
      then vehicles.map (·.id) else vehicles.map (·.id) ++ [v.id] := by
    rw [List.map_append, List.map_singleton, eraseDups_concat, hv.ids_eq]
  have hold : ∀ v' ∈ vehicles, (visits ++ [v]).find? (·.id == v'.id) = some v' := by
    intro v' hv'
    rw [List.find?_append, hv.find?_eq v' hv', Option.some_or]
  unfold enroll
  split
  case isTrue hmem =>
    rw [hv.mem_ids_iff] at hmem
    rw [if_pos hmem] at hids
    exact ⟨hids.symm, hv.nodup, hold⟩
  case isFalse hmem =>
    have hnew : v.id ∉ visits.map (·.id) := fun h => hmem (hv.mem_ids_iff.mpr h)
    rw [if_neg hnew] at hids
    constructor
    case ids_eq =>
      rw [hids, List.map_append, List.map_singleton]
    case nodup => exact (nodup_map_concat (·.id) vehicles v).mpr ⟨hmem, hv.nodup⟩
    case find?_eq =>
      intro v' hv'
      rcases List.mem_append.mp hv' with hv' | hv'
      · exact hold v' hv'
      · obtain rfl := List.mem_singleton.mp hv'
        -- The vehicle has not come before, so this visit is its first one.
        have hnone : visits.find? (·.id == v'.id) = none := by
          rw [List.find?_eq_none]
          intro u hu
          rw [beq_iff_eq]
          exact fun heq => hnew (heq ▸ List.mem_map_of_mem hu)
        simp [hnone]

lemma foldl_enroll (visits : List Vehicle) : FirstVisits visits (visits.foldl enroll []) := by
  induction visits using List.reverseRecOn with
  | nil => exact nil
  | append_singleton visits v ih =>
    rw [List.foldl_append]
    exact ih.concat v

end FirstVisits

lemma vehicles_prefix_enroll (vehicles : List Vehicle) (v : Vehicle) :
    vehicles <+: enroll vehicles v := by
  unfold enroll
  split
  · exact List.prefix_rfl
  · exact List.prefix_append _ _

namespace Facility

lemma vehicles_meet (s : Facility) (vehicle : String) (zone : ZoneId) :
    (s.meet vehicle zone).vehicles = enroll s.vehicles ⟨vehicle, zone⟩ := by
  have hknown : (s.vehicle? vehicle).isSome = true ↔ vehicle ∈ s.vehicles.map (·.id) := by
    simp [vehicle?]
  unfold meet enroll
  simp only [hknown]
  split <;> rfl

/-- A vehicle is enrolled when it comes for the first time, and nothing else changes the list. -/
theorem vehicles_after_eq (s : Facility) (op : Operation) :
    (s.after op).vehicles = op.vehicle?.toList.foldl enroll s.vehicles := by
  cases op with
  | submit vehicle zone now =>
    have hmet := s.vehicles_meet vehicle zone
    rcases after_submit s vehicle zone now with ⟨-, hafter⟩ | ⟨h, -, hafter⟩ <;> rw [hafter]
    · exact hmet
    · exact hmet
  | addZone z => rfl
  | occupy | cancel | release =>
    rw [vehicles_after rfl]
    rfl
  | rollback k => rfl

theorem vehicles_run_eq (s : Facility) (ops : List Operation) :
    (s.run ops).vehicles = (ops.filterMap (·.vehicle?)).foldl enroll s.vehicles := by
  induction ops generalizing s with
  | nil => rfl
  | cons op ops ih =>
    rw [run_cons, ih, vehicles_after_eq, ← List.foldl_append]
    congr 1
    cases hop : op.vehicle? <;> simp [hop]

lemma vehicles_ofZones (zones : List Zone) : (ofZones zones).vehicles = [] := by
  have hnone : (zones.map Operation.addZone).filterMap (·.vehicle?) = [] := by
    simp [Operation.vehicle?]
  rw [ofZones_eq_run, vehicles_run_eq, hnone]
  rfl

lemma vehicles_prefix_run (s : Facility) (ops : List Operation) :
    s.vehicles <+: (s.run ops).vehicles := by
  induction ops generalizing s with
  | nil => exact List.prefix_rfl
  | cons op ops ih =>
    refine List.IsPrefix.trans ?_ (ih (s.after op))
    rw [vehicles_after_eq]
    cases op.vehicle? with
    | none => exact List.prefix_rfl
    | some v => exact vehicles_prefix_enroll _ v

/-- The list of vehicles is what the submissions make it. -/
structure VehiclesListed (zones : List Zone) (ops : List Operation) : Prop where
  /-- The vehicles are those of all submissions, whether they succeed or not, each one once, in the
  order of their first submissions and with the zones that they asked for then. -/
  first_visits : FirstVisits (ops.filterMap (·.vehicle?)) ((ofZones zones).run ops).vehicles
  /-- Vehicles that are there stay where and as they are. -/
  kept : ∀ ops₁ ops₂, ops = ops₁ ++ ops₂ →
    ((ofZones zones).run ops₁).vehicles <+: ((ofZones zones).run ops).vehicles
  /-- Nothing but a submission changes the list. -/
  other : ∀ op, op.isSubmission = false →
    (((ofZones zones).run ops).after op).vehicles = ((ofZones zones).run ops).vehicles
  /-- A vehicle that has come before changes nothing, whichever zone it asks for now. -/
  again : ∀ vehicle zone now, vehicle ∈ ((ofZones zones).run ops).vehicles.map (·.id) →
    (((ofZones zones).run ops).after (.submit vehicle zone now)).vehicles =
      ((ofZones zones).run ops).vehicles

/-- **Vehicles are listed as they come.**  Whatever zones there are and whatever is done, each
vehicle that has come is listed once, at its first submission, with the zone that it asked for then,
be it that it got a slot or not. -/
theorem vehicles_are_first_visits (zones : List Zone) (ops : List Operation) :
    VehiclesListed zones ops := by
  constructor
  case first_visits =>
    rw [vehicles_run_eq, vehicles_ofZones]
    exact FirstVisits.foldl_enroll _
  case kept =>
    intro ops₁ ops₂ hsplit
    rw [hsplit, run_append]
    exact vehicles_prefix_run _ ops₂
  case other =>
    intro op hop
    rw [vehicles_after_eq]
    cases op with
    | submit => cases hop
    | addZone | occupy | cancel | release | rollback => rfl
  case again =>
    intro vehicle zone now hmem
    rw [vehicles_after_eq]
    exact if_pos hmem

/-- In a garage without zones the vehicles are listed all the same. -/
example :
    (empty.run [.submit "A" 1 ⟨0, 0⟩, .submit "B" 2 ⟨0, 0⟩, .submit "A" 3 ⟨0, 0⟩]).vehicles =
      [⟨"A", 1⟩, ⟨"B", 2⟩] := by
  decide

end Facility
end Garage
