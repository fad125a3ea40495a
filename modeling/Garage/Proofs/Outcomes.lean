/-
# What operations answer

Parking, cancelling and releasing are each refused in several ways: first if the request is not
there, then by a rule of the operation, then by the lifecycle.  What comes out of that is a matter
of the stage of the request, and `Stage.onOccupy`, `Stage.onCancel` and `Stage.onRelease` are the
whole table.  A submission may fail at several points after its slot is chosen, but it never does.

* `Facility.map_requests_after`: what an operation may change about requests that are there.
* `Facility.Numbered`: every request has its place as its id.  Faults name requests by their ids, so
  this is what the table rests on; the slots that are taken do not matter, nor how they came to be.
* `outcomes_exact`: every answer is known beforehand, and a fault means that nothing has happened.
-/
import Garage.Proofs.Independence

namespace Garage

namespace Stage

/-- The answer to parking the vehicle of a request in this stage. -/
def onOccupy (id : RequestId) : Stage → Except RequestError Unit
  | allocated => .ok ()
  | t => .error (.invalidMove id t occupied)

/-- The answer to cancelling a request in this stage. -/
def onCancel (id : RequestId) : Stage → Except RequestError Unit
  | requested | allocated => .ok ()
  | occupied => .error (.invalidMove id occupied cancelled)
  | t => .error (.alreadyFinal id t)

/-- The answer to releasing the slot of a request in this stage. -/
def onRelease (id : RequestId) : Stage → Except RequestError Unit
  | occupied => .ok ()
  | allocated => .error (.invalidMove id allocated released)
  | t => .error (.notReleasable id t)

end Stage

namespace Facility

variable {s : Facility} {id : RequestId} {r : Request} {op : Operation}

/-! ### What is written down about a request for good -/

/-- An operation appends a request or none; of the others it changes the stage and the slot only. -/
lemma map_requests_after {α : Type} {g : Request → α}
    (hg : ∀ r stage slot, g { r with stage, slot } = g r) (s : Facility) (op : Operation) :
    (s.after op).requests.map g = s.requests.map g ∨
    ∃ vehicle zone now, op = .submit vehicle zone now ∧ (s.registry.choose zone).isSome ∧
      (s.after op).requests.map g =
        s.requests.map g ++ [g (.new s.requests.length vehicle zone now)] := by
  have hvacate (s : Facility) (id : RequestId) (t : Stage) :
      (s.vacate id t).requests.map g = s.requests.map g :=
    map_modify_eq_map (fun r => hg r t none) s.requests id
  cases hop : op.subject? with
  | some id =>
    left
    rcases after_of_subject? hop s with hafter | hafter | ⟨t, hafter⟩ <;> rw [hafter]
    · exact map_modify_eq_map (fun r => hg r .occupied r.slot) s.requests id
    · exact hvacate s id t
  | none =>
    cases op with
    | addZone z => exact Or.inl rfl
    | submit vehicle zone now =>
      rw [requests_submit, List.map_append, List.map_map]
      cases hc : s.registry.choose zone with
      | none => exact Or.inl (List.append_nil _)
      | some h =>
        refine Or.inr ⟨vehicle, zone, now, rfl, Option.isSome_of_eq_some hc, ?_⟩
        exact congrArg (fun a => s.requests.map g ++ [a])
          (hg (.new s.requests.length vehicle zone now) .allocated (some h))
    | rollback k =>
      left
      rw [after_rollback]
      refine Function.Iterate.rec (fun s' : Facility => s'.requests.map g = s.requests.map g) rfl
        (fun s' hs' => ?_) k
      rw [← hs', takeBack]
      cases s'.history.newest? with
      | none => rfl
      | some e => exact hvacate s' e.request e.stage
    | occupy | cancel | release => cases hop

/-- Every request has its place as its id. -/
def Numbered (s : Facility) : Prop := ∀ i r, s.request? i = some r → r.id = i

namespace Numbered

lemma after (hs : s.Numbered) (op : Operation) : (s.after op).Numbered := by
  intro i r hr
  have hid : ((s.after op).requests.map (·.id))[i]? = some r.id := by
    rw [List.getElem?_map, ← request?, hr, Option.map_some]
  have hold {j : RequestId} (hj : (s.requests.map (·.id))[i]? = some j) : j = i := by
    rw [List.getElem?_map] at hj
    obtain ⟨r₀, hr₀, rfl⟩ := Option.map_eq_some_iff.mp hj
    exact hs i r₀ hr₀
  rcases map_requests_after (g := (·.id)) (fun _ _ _ => rfl) s op with
    hids | ⟨vehicle, zone, now, -, -, hids⟩ <;> rw [hids] at hid
  · exact hold hid
  · rw [List.getElem?_append, List.length_map] at hid
    split at hid
    · exact hold hid
    next hlt =>
      -- The new request stands behind the others, and its id is their number.
      rw [List.getElem?_singleton, Option.ite_none_right_eq_some, Option.some.injEq] at hid
      obtain ⟨hi, hid⟩ := hid
      rw [← hid]
      show s.requests.length = i
      omega

lemma run (hs : s.Numbered) (ops : List Operation) : (s.run ops).Numbered := by
  induction ops generalizing s with
  | nil => exact hs
  | cons op ops ih => exact ih (hs.after op)

end Numbered

lemma numbered_ofZones (zones : List Zone) : (ofZones zones).Numbered := by
  intro i r hr
  simp [request?, requests_ofZones] at hr

/-! ### Answers -/

lemma Numbered.answer_occupy (hs : s.Numbered) (hr : s.request? id = some r) :
    (s.occupy id).answer = r.stage.onOccupy id := by
  have hid := hs id r hr
  cases hstage : r.stage <;>
    simp [occupy, hr, Request.moveTo, hstage, Stage.canBecome, Stage.onOccupy, hid]

lemma Numbered.answer_cancel (hs : s.Numbered) (hr : s.request? id = some r) :
    (s.cancel id).answer = r.stage.onCancel id := by
  have hid := hs id r hr
  cases hstage : r.stage <;>
    simp [cancel, hr, answer_finish, Request.moveTo, hstage, Stage.isFinal, Stage.canBecome,
      Stage.onCancel, hid, Except.map]

lemma Numbered.answer_release (hs : s.Numbered) (hr : s.request? id = some r) :
    (s.release id).answer = r.stage.onRelease id := by
  have hid := hs id r hr
  cases hstage : r.stage <;>
    simp [release, hr, answer_finish, Request.moveTo, hstage, Stage.holdsSlot, Stage.canBecome,
      Stage.onRelease, hid, Except.map]

/-! ### Faults change nothing -/

lemma Numbered.after_of_answer_eq_error (hs : s.Numbered) (hop : op.subject? = some id)
    {e : RequestError} (he : (s.perform op).answer = .error e) : s.after op = s := by
  -- Whenever an operation does something, it answers that it is done.
  cases op with
  | occupy i =>
    rcases after_occupy s i with hafter | ⟨r, hr, hstage, -⟩
    · exact hafter
    · simp [perform, hs.answer_occupy hr, hstage, Stage.onOccupy, Except.map] at he
  | cancel i =>
    rcases after_cancel s i with hafter | ⟨r, hr, hstage | hstage, -⟩
    · exact hafter
    · simp [perform, hs.answer_cancel hr, hstage, Stage.onCancel, Except.map] at he
    · simp [perform, hs.answer_cancel hr, hstage, Stage.onCancel, Except.map] at he
  | release i =>
    rcases after_release s i with hafter | ⟨r, hr, hstage, -⟩
    · exact hafter
    · simp [perform, hs.answer_release hr, hstage, Stage.onRelease, Except.map] at he
  | addZone | submit | rollback => cases hop

/-- What a vehicle leaves behind that asks in vain. -/
lemma submit_state_of_answer_eq_error {vehicle : String} {zone : ZoneId} {now : Instant}
    {e : RequestError} (he : (s.submit vehicle zone now).answer = .error e) :
    (s.submit vehicle zone now).state = s.meet vehicle zone := by
  rw [answer_submit] at he
  rcases after_submit s vehicle zone now with ⟨-, hafter⟩ | ⟨h, hc, -⟩
  · exact hafter
  · simp [hc] at he

lemma meet_of_known {vehicle : String} (hv : ∃ v ∈ s.vehicles, v.id = vehicle) (zone : ZoneId) :
    s.meet vehicle zone = s := by
  have hsome : (s.vehicle? vehicle).isSome = true := by
    simpa [vehicle?] using hv
  rw [meet, if_pos hsome]

lemma meet_of_unknown {vehicle : String} (hv : ∀ v ∈ s.vehicles, v.id ≠ vehicle)
    (zone : ZoneId) :
    s.meet vehicle zone = { s with vehicles := s.vehicles ++ [⟨vehicle, zone⟩] } := by
  have hnone : ¬ (s.vehicle? vehicle).isSome = true := by
    simpa [vehicle?] using hv
  rw [meet, if_neg hnone]

/-- Every answer is known beforehand, and a fault means that nothing has happened. -/
structure OutcomesExact (s : Facility) : Prop where
  /-- A request that is not there is not found. -/
  absent : ∀ id, s.requests.length ≤ id →
    (s.occupy id).answer = .error (.notFound id) ∧
    (s.cancel id).answer = .error (.notFound id) ∧
    (s.release id).answer = .error (.notFound id)
  /-- Only the vehicle of an allocated request parks. -/
  occupy_answer : ∀ id r, s.request? id = some r → (s.occupy id).answer = r.stage.onOccupy id
  /-- A request is cancelled before its vehicle parks. -/
  cancel_answer : ∀ id r, s.request? id = some r → (s.cancel id).answer = r.stage.onCancel id
  /-- A vehicle leaves after it has parked. -/
  release_answer : ∀ id r, s.request? id = some r → (s.release id).answer = r.stage.onRelease id
  /-- A submission answers with the id of the new request, or else that there is no slot. -/
  submit_answer : ∀ vehicle zone now, (s.submit vehicle zone now).answer =
    if (s.registry.choose zone).isSome then .ok s.requests.length else .error (.noSlot zone)
  /-- An operation on a request that fails leaves the facility as it is. -/
  failed_state : ∀ op id, op.subject? = some id → ∀ e, (s.perform op).answer = .error e →
    s.after op = s
  /-- So does a submission that fails, if the vehicle is known. -/
  submit_failed_known : ∀ vehicle zone now e, (s.submit vehicle zone now).answer = .error e →
    (∃ v ∈ s.vehicles, v.id = vehicle) → (s.submit vehicle zone now).state = s
  /-- If the vehicle is not known, it is remembered with the zone that it asked for. -/
  submit_failed_unknown : ∀ vehicle zone now e, (s.submit vehicle zone now).answer = .error e →
    (∀ v ∈ s.vehicles, v.id ≠ vehicle) → (s.submit vehicle zone now).state =
      { s with vehicles := s.vehicles ++ [⟨vehicle, zone⟩] }

lemma Numbered.outcomesExact (hs : s.Numbered) : s.OutcomesExact where
  absent id hid := by
    have hr : s.request? id = none := List.getElem?_eq_none_iff.mpr hid
    simp [occupy, cancel, release, hr]
  occupy_answer _ _ := hs.answer_occupy
  cancel_answer _ _ := hs.answer_cancel
  release_answer _ _ := hs.answer_release
  submit_answer := s.answer_submit
  failed_state _ _ hop _ := hs.after_of_answer_eq_error hop
  submit_failed_known vehicle zone now e he hv := by
    rw [submit_state_of_answer_eq_error he, meet_of_known hv]
  submit_failed_unknown vehicle zone now e he hv := by
    rw [submit_state_of_answer_eq_error he, meet_of_unknown hv]

/-- **Answers are exact, and faults are harmless.**  Whatever has happened before, the stage of a
request decides what parking, cancelling and releasing answer, a submission fails for want of a slot
only, and what fails changes nothing but that a new vehicle is remembered. -/
theorem outcomes_exact (zones : List Zone) (ops : List Operation) :
    ((ofZones zones).run ops).OutcomesExact :=
  ((numbered_ofZones zones).run ops).outcomesExact

/-- After three visits, the vehicle that has parked may only leave, the one that has left may do
nothing, and the one whose slot was taken back has nothing to leave. -/
example :
    let s := (ofZones [twoSlots]).run threeVisits
    (s.cancel 0).answer = .error (.invalidMove 0 .occupied .cancelled) ∧
    (s.cancel 1).answer = .error (.alreadyFinal 1 .cancelled) ∧
    (s.release 2).answer = .error (.notReleasable 2 .requested) ∧
    (s.occupy 3).answer = .error (.notFound 3) := by
  decide

end Facility

end Garage
