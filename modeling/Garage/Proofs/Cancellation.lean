/-
# Cancelling or taking back

A request whose vehicle has not parked yet may be undone in two ways.  To cancel it strikes its
record out of the history, wherever it stands; a rollback takes the record off the end and forces
the request back to where it was only asked for, and it is still to be cancelled then.  Both ways
come to the same (`cancelling_agrees_with_rollback`): what has no slot is cancelled without giving
up a second one, and one cancellation does not shift what another one finds.
-/
import Garage.Proofs.Competition
import Garage.Proofs.Independence
import Garage.Proofs.Rollback

namespace Garage

lemma Operation.effect_cancel {r : Request} (hmove : r.stage.canBecome .cancelled = true)
    (id : RequestId) : (Operation.cancel id).effect r = r.restore .cancelled :=
  if_pos hmove

/-- Nothing is left to be cancelled a second time. -/
lemma Operation.effect_cancel_effect_cancel (id : RequestId) (r : Request) :
    (Operation.cancel id).effect ((Operation.cancel id).effect r) =
      (Operation.cancel id).effect r := by
  cases hstage : r.stage <;> simp [Operation.effect, hstage, Stage.canBecome, Request.restore]

namespace Facility

variable {s : Facility} {id : RequestId} {ids ids' : List RequestId} {r : Request} {m : Nat}

/-! ### Several cancellations -/

lemma isSome_subject?_cancel (ids : List RequestId) :
    ∀ op ∈ ids.map Operation.cancel, op.subject?.isSome := by
  intro op hop
  obtain ⟨i, -, rfl⟩ := List.mem_map.mp hop
  rfl

lemma request?_run_cancel (s : Facility) (ids : List RequestId) (i : RequestId) :
    (s.run (ids.map .cancel)).request? i =
      if i ∈ ids then (s.request? i).map (Operation.cancel i).effect else s.request? i := by
  induction ids generalizing s with
  | nil => simp
  | cons id ids ih =>
    rw [List.map_cons, run_cons, ih, request?_after rfl]
    by_cases hid : id = i
    · subst hid
      cases s.request? id <;> simp [Operation.effect_cancel_effect_cancel]
    · simp [hid, Ne.symm hid]

/-- Of cancellations of different requests, each one answers as if it were the only one. -/
lemma answers_cancel (hids : ids.Nodup) :
    s.answers (ids.map .cancel) = ids.map fun i => (s.perform (.cancel i)).answer := by
  induction ids generalizing s with
  | nil => rfl
  | cons id ids ih =>
    obtain ⟨hid, hids⟩ := List.nodup_cons.mp hids
    rw [List.map_cons, answers, ih hids, List.map_cons]
    congr 1
    apply List.map_congr_left
    intro i hi
    refine answer_perform_after (i := i) (j := id) rfl rfl ?_ s
    rintro rfl
    exact hid hi

lemma answer_cancel (hr : s.request? id = some r) (hmove : r.stage.canBecome .cancelled = true) :
    (s.perform (.cancel id)).answer = .ok .done := by
  have hfinal : r.stage.isFinal = false := by
    rcases Stage.canBecome_cancelled_iff.mp hmove with h | h <;> rw [h] <;> rfl
  simp [perform, cancel, hr, hfinal, answer_finish, Request.moveTo, hmove, Except.map]

/-- Different requests that may be cancelled are cancelled without a fault. -/
lemma answers_cancel_of_canBecome (hids : ids.Nodup)
    (hmove : ∀ i ∈ ids, ∃ r, s.request? i = some r ∧ r.stage.canBecome .cancelled = true) :
    s.answers (ids.map .cancel) = ids.map fun _ => .ok .done := by
  rw [answers_cancel hids]
  apply List.map_congr_left
  intro i hi
  obtain ⟨r, hr, hcan⟩ := hmove i hi
  exact answer_cancel hr hcan

/-! ### The two ways -/

/-- What is cancelled after its slot was taken back is as if it had been cancelled at once. -/
lemma Balanced.run_cancel_eq (hb : s.Balanced)
    (hm : ∀ i ∈ s.holders.take m, ∃ r, s.request? i = some r ∧ r.stage = .allocated)
    (hids : ids.Perm (s.holders.take m)) (hids' : ids'.Perm (s.holders.take m)) :
    s.run (ids.map .cancel) = (s.after (.rollback m)).run (ids'.map .cancel) := by
  have hfree (l : List RequestId) : ∀ op ∈ l.map Operation.cancel, op.AddsFree := fun op hop =>
    Operation.addsFree_of_subject? (isSome_subject?_cancel l op hop)
  have hb₁ : (s.run (ids.map .cancel)).Balanced := hb.run (hfree ids)
  have hback : (s.after (.rollback m)).Balanced := hb.after trivial
  have hb₂ : ((s.after (.rollback m)).run (ids'.map .cancel)).Balanced := hback.run (hfree ids')
  apply hb₁.eq_of_requests_eq hb₂
  case hplan =>
    rw [plan_run (isSome_subject?_cancel _), plan_run (isSome_subject?_cancel _),
      plan_rollback]
  case hvehicles =>
    rw [vehicles_run (isSome_subject?_cancel _), vehicles_run (isSome_subject?_cancel _),
      vehicles_rollback]
  case hrequests =>
    apply List.ext_getElem?
    intro i
    show (s.run _).request? i = ((s.after _).run _).request? i
    rw [request?_run_cancel, request?_run_cancel, hb.request?_after_rollback]
    simp only [hids.mem_iff, hids'.mem_iff]
    by_cases hi : i ∈ s.holders.take m
    · obtain ⟨r, hr, hstage⟩ := hm i hi
      have hmove : r.stage.canBecome .cancelled = true := by rw [hstage]; rfl
      rw [if_pos hi, if_pos hi, if_pos hi, hr, Option.map_some, Option.map_some, Option.map_some,
        Operation.effect_cancel hmove, Operation.effect_cancel rfl]
      rfl
    · rw [if_neg hi, if_neg hi, if_neg hi]

/-- **Cancelling agrees with taking back.**  When the `m` newest requests that hold a slot still
wait for their vehicles, then cancelling them, in any order, leads to the same facility as taking
`m` allocations back and cancelling the same requests afterwards, in any order.  Each cancellation
succeeds, either way. -/
theorem cancelling_agrees_with_rollback (hs : s.Reachable)
    (hm : ∀ i ∈ s.holders.take m, ∃ r, s.request? i = some r ∧ r.stage = .allocated)
    (hids : ids.Perm (s.holders.take m)) (hids' : ids'.Perm (s.holders.take m)) :
    s.run (ids.map .cancel) = (s.after (.rollback m)).run (ids'.map .cancel) ∧
    s.answers (ids.map .cancel) = ids.map (fun _ => .ok .done) ∧
    (s.after (.rollback m)).answers (ids'.map .cancel) = ids'.map fun _ => .ok .done := by
  have hb := hs.balanced
  have hnodup : (s.holders.take m).Nodup := s.holders_nodup.sublist (List.take_sublist _ _)
  refine ⟨hb.run_cancel_eq hm hids hids', ?_, ?_⟩
  · refine answers_cancel_of_canBecome (hids.nodup_iff.mpr hnodup) fun i hi => ?_
    obtain ⟨r, hr, hstage⟩ := hm i (hids.mem_iff.mp hi)
    exact ⟨r, hr, by rw [hstage]; rfl⟩
  · refine answers_cancel_of_canBecome (hids'.nodup_iff.mpr hnodup) fun i hi => ?_
    have hmem := hids'.mem_iff.mp hi
    obtain ⟨r, hr, -⟩ := hm i hmem
    refine ⟨r.restore .requested, ?_, rfl⟩
    rw [hb.request?_after_rollback, if_pos hmem, hr, Option.map_some]

/-- After the hand-over, the second and the third vehicle may go in either order. -/
theorem cancelling_agrees_with_rollback_handOver :
    let s := (ofZones [twoSlots]).run handOver
    s.holders.take 2 = [2, 1] ∧
    s.run [.cancel 1, .cancel 2] = (s.after (.rollback 2)).run [.cancel 2, .cancel 1] ∧
    s.answers [.cancel 1, .cancel 2] = [.ok .done, .ok .done] := by
  intro s
  have hholders : s.holders.take 2 = [2, 1] := by decide
  have hm : ∀ i ∈ s.holders.take 2, ∃ r, s.request? i = some r ∧ r.stage = .allocated := by
    rw [hholders, List.forall_mem_cons, List.forall_mem_singleton]
    exact ⟨⟨_, rfl, rfl⟩, ⟨_, rfl, rfl⟩⟩
  have hids : [1, 2].Perm (s.holders.take 2) := by decide
  have hids' : [2, 1].Perm (s.holders.take 2) := by decide
  obtain ⟨hrun, hanswers, -⟩ := cancelling_agrees_with_rollback reachable_handOver hm hids hids'
  exact ⟨hholders, hrun, hanswers⟩

end Facility

end Garage
