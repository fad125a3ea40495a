/-
# Operations on one request

To park, to cancel and to release are about one request, which they name by its id.  What they
make of it and what they answer is a matter of this request alone: `Operation.effect` gives the
one, and `answer_perform_congr` says the other.  Slots and records are touched as well, but these
follow from the requests (`Balanced.eq_of_requests_eq`).  So operations on different requests do
not get in each other's way (`different_requests_commute`), even though both of them write to the
same registry and strike records out of the same history.
-/
import Garage.Proofs.Reconstruction

namespace Garage

namespace Operation

/-- The request that the operation is about. -/
def subject? : Operation → Option RequestId
  | .occupy id | .cancel id | .release id => some id
  | .addZone _ | .submit .. | .rollback _ => none

/-- What the operation makes of the request that it is about. -/
def effect : Operation → Request → Request
  | .occupy _, r => if r.stage.canBecome .occupied then { r with stage := .occupied } else r
  | .cancel _, r => if r.stage.canBecome .cancelled then r.restore .cancelled else r
  | .release _, r => if r.stage.canBecome .released then r.restore .released else r
  | .addZone _, r | .submit .., r | .rollback _, r => r

lemma addsFree_of_subject? {op : Operation} (hop : op.subject?.isSome) : op.AddsFree := by
  cases op <;> trivial

end Operation

lemma set_eq_self {α : Type} {l : List α} {i : Nat} {a : α} (hi : l[i]? = some a) :
    l.set i a = l := by
  obtain ⟨hlt, rfl⟩ := List.getElem?_eq_some_iff.mp hi
  exact List.set_getElem_self hlt

namespace Facility

variable {s s' : Facility} {id i j : RequestId} {r : Request} {op f g : Operation}

/-! ### What becomes of the request -/

/-- Without the request nothing happens. -/
lemma after_of_request?_eq_none (hop : op.subject? = some id) (hr : s.request? id = none) :
    s.after op = s := by
  cases op with
  | occupy | cancel | release =>
    obtain rfl := Option.some.inj hop
    simp [after, perform, occupy, cancel, release, hr]
  | addZone | submit | rollback => cases hop

lemma requests_after_of_request? (hop : op.subject? = some id) (hr : s.request? id = some r) :
    (s.after op).requests = s.requests.set id (op.effect r) := by
  have hsame : s.requests.set id r = s.requests := set_eq_self hr
  -- The stage of the request decides which way the operation goes.
  cases op with
  | occupy =>
    obtain rfl := Option.some.inj hop
    cases hstage : r.stage <;> simp [after, perform, occupy, hr, Request.moveTo, hstage,
      Stage.canBecome, Operation.effect, hsame]
  | cancel =>
    obtain rfl := Option.some.inj hop
    cases hstage : r.stage <;> simp [after, perform, cancel, finish, hr, Request.moveTo, hstage,
      Stage.canBecome, Stage.isFinal, Operation.effect, Request.restore, hsame]
  | release =>
    obtain rfl := Option.some.inj hop
    cases hstage : r.stage <;> simp [after, perform, release, finish, hr, Request.moveTo, hstage,
      Stage.canBecome, Stage.holdsSlot, Operation.effect, Request.restore, hsame]
  | addZone | submit | rollback => cases hop

/-- An operation on one request changes this request and no other one. -/
theorem requests_after (hop : op.subject? = some id) (s : Facility) :
    (s.after op).requests = s.requests.modify id op.effect := by
  cases hr : s.request? id with
  | none =>
    rw [after_of_request?_eq_none hop hr, List.modify_eq_self (List.getElem?_eq_none_iff.mp hr)]
  | some r => rw [requests_after_of_request? hop hr, set_eq_modify _ hr]

lemma request?_after (hop : op.subject? = some id) (s : Facility) (i : RequestId) :
    (s.after op).request? i = if id = i then (s.request? i).map op.effect else s.request? i := by
  rw [request?, requests_after hop, List.getElem?_modify]
  split <;> simp [request?]

/-! ### The rest of the facility -/

/-- An operation on one request does nothing, parks its vehicle or makes it give its slot up. -/
lemma after_of_subject? (hop : op.subject? = some id) (s : Facility) :
    s.after op = s ∨ s.after op = s.park id ∨ ∃ t, s.after op = s.vacate id t := by
  cases op with
  | occupy =>
    obtain rfl := Option.some.inj hop
    exact (after_occupy s _).imp_right fun ⟨_, _, _, hafter⟩ => Or.inl hafter
  | cancel =>
    obtain rfl := Option.some.inj hop
    exact (after_cancel s _).imp_right fun ⟨_, _, _, hafter⟩ => Or.inr ⟨_, hafter⟩
  | release =>
    obtain rfl := Option.some.inj hop
    exact (after_release s _).imp_right fun ⟨_, _, _, hafter⟩ => Or.inr ⟨_, hafter⟩
  | addZone | submit | rollback => cases hop

lemma plan_after (hop : op.subject? = some id) (s : Facility) :
    (s.after op).registry.plan = s.registry.plan := by
  rcases after_of_subject? hop s with hafter | hafter | ⟨t, hafter⟩ <;> rw [hafter]
  · rfl
  · exact plan_vacate s id t

lemma vehicles_after (hop : op.subject? = some id) (s : Facility) :
    (s.after op).vehicles = s.vehicles := by
  rcases after_of_subject? hop s with hafter | hafter | ⟨t, hafter⟩ <;> rw [hafter] <;> rfl

/-- Runs of operations on requests stay within the plan. -/
lemma plan_run {ops : List Operation} (hops : ∀ op ∈ ops, op.subject?.isSome) (s : Facility) :
    (s.run ops).registry.plan = s.registry.plan := by
  induction ops generalizing s with
  | nil => rfl
  | cons op ops ih =>
    obtain ⟨hop, hops⟩ := List.forall_mem_cons.mp hops
    obtain ⟨id, hid⟩ := Option.isSome_iff_exists.mp hop
    rw [run_cons, ih hops, plan_after hid]

lemma vehicles_run {ops : List Operation} (hops : ∀ op ∈ ops, op.subject?.isSome)
    (s : Facility) : (s.run ops).vehicles = s.vehicles := by
  induction ops generalizing s with
  | nil => rfl
  | cons op ops ih =>
    obtain ⟨hop, hops⟩ := List.forall_mem_cons.mp hops
    obtain ⟨id, hid⟩ := Option.isSome_iff_exists.mp hop
    rw [run_cons, ih hops, vehicles_after hid]

/-! ### The answer -/

lemma answer_finish (s : Facility) (id : RequestId) (r : Request) (target : Stage)
    (done : Event) : (s.finish id r target done).answer = (r.moveTo target).map fun _ => () := by
  unfold finish
  cases r.moveTo target <;> rfl

/-- The answer depends on nothing but the request. -/
lemma answer_perform_congr (hop : op.subject? = some id) (hr : s.request? id = s'.request? id) :
    (s.perform op).answer = (s'.perform op).answer := by
  cases op with
  | occupy k =>
    obtain rfl := Option.some.inj hop
    simp only [perform, occupy, hr]
    cases s'.request? k with
    | none => rfl
    | some r =>
      dsimp only
      cases r.moveTo .occupied <;> rfl
  | cancel k =>
    obtain rfl := Option.some.inj hop
    simp only [perform, cancel, hr]
    cases s'.request? k with
    | none => rfl
    | some r => cases hfinal : r.stage.isFinal <;> simp [hfinal, answer_finish]
  | release k =>
    obtain rfl := Option.some.inj hop
    simp only [perform, release, hr]
    cases s'.request? k with
    | none => rfl
    | some r => cases hholds : r.stage.holdsSlot <;> simp [hholds, answer_finish]
  | addZone | submit | rollback => cases hop

/-! ### Two operations -/

/-- An operation on another request does not change the answer. -/
lemma answer_perform_after (hf : f.subject? = some i) (hg : g.subject? = some j) (hij : i ≠ j)
    (s : Facility) : ((s.after g).perform f).answer = (s.perform f).answer := by
  apply answer_perform_congr hf
  rw [request?_after hg, if_neg (Ne.symm hij)]

/-- Operations on different requests come to the same, whichever comes first. -/
lemma Balanced.after_comm (hb : s.Balanced) (hf : f.subject? = some i) (hg : g.subject? = some j)
    (hij : i ≠ j) : (s.after f).after g = (s.after g).after f := by
  have hffree := Operation.addsFree_of_subject? (Option.isSome_of_eq_some hf)
  have hgfree := Operation.addsFree_of_subject? (Option.isSome_of_eq_some hg)
  have hb₁ : ((s.after f).after g).Balanced := (hb.after hffree).after hgfree
  have hb₂ : ((s.after g).after f).Balanced := (hb.after hgfree).after hffree
  apply hb₁.eq_of_requests_eq hb₂
  · rw [plan_after hg, plan_after hf, plan_after hf, plan_after hg]
  · rw [vehicles_after hg, vehicles_after hf, vehicles_after hf, vehicles_after hg]
  · rw [requests_after hg, requests_after hf, requests_after hf, requests_after hg]
    exact List.modify_modify_ne _ _ _ hij

/-- **Operations on different requests commute.**  In every reachable facility, two operations
that park, cancel or release two different requests, which may be there or not, lead to the same
facility in either order, and each of them answers the same. -/
theorem different_requests_commute (hs : s.Reachable) (hf : f.subject? = some i)
    (hg : g.subject? = some j) (hij : i ≠ j) :
    (s.after f).after g = (s.after g).after f ∧
    ((s.after g).perform f).answer = (s.perform f).answer ∧
    ((s.after f).perform g).answer = (s.perform g).answer :=
  ⟨hs.balanced.after_comm hf hg hij, answer_perform_after hf hg hij s,
    answer_perform_after hg hf (Ne.symm hij) s⟩

/-- After the hand-over, two vehicles that have not parked may cancel in either order. -/
theorem different_requests_commute_handOver :
    let s := (ofZones [twoSlots]).run handOver
    (s.after (.cancel 1)).after (.cancel 2) = (s.after (.cancel 2)).after (.cancel 1) ∧
    ((s.after (.cancel 2)).perform (.cancel 1)).answer = .ok .done ∧
    ((s.after (.cancel 1)).perform (.cancel 2)).answer = .ok .done := by
  intro s
  obtain ⟨hstate, hf, hg⟩ := different_requests_commute (f := .cancel 1) (g := .cancel 2)
    reachable_handOver rfl rfl (by decide)
  exact ⟨hstate, hf, hg⟩

end Facility

end Garage
