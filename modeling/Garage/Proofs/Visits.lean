/-
# Vehicles that come, and one that leaves

Vehicles come one after another to a garage without requests, as long as there are slots, and then
the last one that got a slot parks and leaves.  What the garage is like in between is `Granted`: the
requests are those of the first vehicles, each with the slot that was given away at its turn.

* `granted_run_submit`: this is what submissions in a row come to.
* `Balanced.answer_visit`: a vehicle that got a slot may park, and then it may leave.
* `Granted.request?_lastVisit`, `Granted.slot?_lastVisit` and `Granted.countP_lastVisit`: the last
  vehicle leaves no trace but its request.
-/
import Garage.Proofs.Exhaustion
import Garage.Proofs.Occupancy
import Garage.Proofs.Outcomes

namespace Garage

/-- The request of a vehicle that got a slot. -/
def Submission.granted (m : Submission) (id : RequestId) (h : Handle) : Request :=
  ⟨id, m.vehicle, m.zone, m.now, .allocated, some h⟩

namespace Facility

variable {s : Facility} {subs : List Submission} {id : RequestId} {r : Request} {h : Handle}

/-! ### Vehicles that come in a row -/

/-- The vehicles that come first have the slots that are given away. -/
lemma requests_run_submit_eq (hfirst : s.registry.ServesFirst (subs.map (·.zone))) :
    (s.run (subs.map (·.operation))).requests = s.requests ++
      (subs.zip (s.registry.grants (subs.map (·.zone)))).mapIdx fun i (m, h) =>
        m.granted (s.requests.length + i) h := by
  induction subs generalizing s with
  | nil => exact (List.append_nil _).symm
  | cons m subs ih =>
    obtain ⟨hstop, hrest⟩ := hfirst
    have hregistry := s.registry_submit m
    have hrequests : (s.after m.operation).requests = _ :=
      s.requests_submit m.vehicle m.zone m.now
    rw [← hregistry] at hrest
    rw [List.map_cons, run_cons, ih hrest, hregistry, List.map_cons, hrequests]
    cases hc : s.registry.choose m.zone with
    | none =>
      -- No slot is given away any more.
      rw [Registry.grant_of_choose_eq_none hc, Registry.grants_cons_of_choose_eq_none hc, hstop hc]
      simp
    | some h =>
      rw [Registry.grant_of_choose hc, Registry.grants_cons_of_choose hc, List.zip_cons_cons,
        List.mapIdx_cons, List.append_assoc]
      simp [Submission.granted, Nat.add_assoc, Nat.add_comm 1]

/-- The first of the vehicles have got these slots, and there are no other requests. -/
structure Granted (s : Facility) (subs : List Submission) (slots : List Handle) : Prop where
  balanced : s.Balanced
  length_le : slots.length ≤ subs.length
  nodup : slots.Nodup
  length_requests : s.requests.length = slots.length
  request?_eq : ∀ i m h, subs[i]? = some m → slots[i]? = some h →
    s.request? i = some (m.granted i h)

/-- Vehicles that come to a garage without requests get the slots that are given away. -/
lemma granted_run_submit (hb : s.Balanced) (hd : s.registry.DistinctIds) (hnew : s.requests = [])
    (subs : List Submission) :
    (s.run (subs.map (·.operation))).Granted subs (s.registry.grants (subs.map (·.zone))) := by
  have hrequests := requests_run_submit_eq (hd.servesFirst (subs.map (·.zone)))
  have hle : (s.registry.grants (subs.map (·.zone))).length ≤ subs.length := by
    rw [hd.length_grants, List.length_map]
    exact Nat.min_le_left _ _
  rw [hnew, List.nil_append] at hrequests
  constructor
  case balanced =>
    refine hb.run fun op hop => ?_
    obtain ⟨m, -, rfl⟩ := List.mem_map.mp hop
    trivial
  case length_le => exact hle
  case nodup => exact s.registry.nodup_grants _
  case length_requests =>
    rw [hrequests, List.length_mapIdx, List.length_zip, Nat.min_eq_right hle]
  case request?_eq =>
    intro i m h hm hh
    have hzip : (subs.zip (s.registry.grants (subs.map (·.zone))))[i]? = some (m, h) :=
      List.getElem?_zip_eq_some.mpr ⟨hm, hh⟩
    rw [request?, hrequests, List.getElem?_mapIdx, hzip, Option.map_some, List.length_nil,
      Nat.zero_add]

/-! ### A visit -/

lemma after_occupy_eq (hr : s.request? id = some r) (hstage : r.stage = .allocated) :
    s.after (.occupy id) = s.park id ∧
      (s.park id).request? id = some { r with stage := .occupied } := by
  refine ⟨occupy_state hr (Stage.canBecome_occupied_iff.mpr hstage), ?_⟩
  rw [request?_park, if_pos rfl, hr, Option.map_some]

/-- An allocated request may be occupied, and then it may be released. -/
lemma Balanced.answer_visit (hb : s.Balanced) (hr : s.request? id = some r)
    (hstage : r.stage = .allocated) : (s.perform (.occupy id)).answer = .ok .done ∧
      ((s.after (.occupy id)).perform (.release id)).answer = .ok .done := by
  obtain ⟨hpark, hr'⟩ := after_occupy_eq hr hstage
  have hoccupy := Numbered.answer_occupy hb.id_eq hr
  have hrelease := Numbered.answer_release (hb.park hr hstage).id_eq hr'
  rw [hpark, perform, perform, hoccupy, hrelease, hstage]
  exact ⟨rfl, rfl⟩

lemma run_visit (hr : s.request? id = some r) (hstage : r.stage = .allocated) :
    s.run [.occupy id, .release id] = (s.park id).vacate id .released := by
  obtain ⟨hpark, hr'⟩ := after_occupy_eq hr hstage
  have hmove : Stage.canBecome .occupied .released = true := rfl
  rw [run_cons, run_cons, run_nil, hpark]
  exact release_state hr' hmove

/-- A visit leaves a request that is released. -/
lemma requests_visit (hr : s.request? id = some r) (hstage : r.stage = .allocated) :
    (s.run [.occupy id, .release id]).requests = s.requests.modify id (·.restore .released) := by
  rw [run_visit hr hstage, vacate, park, List.modify_modify_eq]
  rfl

/-- If all requests were alike before a visit, then the one that is released is the exception. -/
lemma countP_visit {P : Request → Bool} (hr : s.request? id = some r)
    (hstage : r.stage = .allocated) (hall : ∀ r ∈ s.requests, P r = true)
    (hreleased : P (r.restore .released) = false) :
    (s.run [.occupy id, .release id]).requests.countP P + 1 = s.requests.length := by
  obtain ⟨l₁, l₂, hreq, hmod⟩ := exists_split hr
  rw [hreq, List.forall_mem_append, List.forall_mem_cons] at hall
  rw [requests_visit hr hstage, hmod, hreq, List.countP_append,
    List.countP_cons_of_neg (by rw [hreleased]; exact Bool.false_ne_true),
    List.countP_eq_length.mpr hall.1, List.countP_eq_length.mpr hall.2.2, List.length_append,
    List.length_cons, Nat.add_assoc]

/-- After a visit the slot is free. -/
lemma Balanced.registry_visit (hb : s.Balanced) (hr : s.request? id = some r)
    (hstage : r.stage = .allocated) (hslot : r.slot = some h) :
    (s.run [.occupy id, .release id]).registry = s.registry.setAvailable h true := by
  have hfind : (s.park id).history.find? id = r.record? := hb.find?_history hr
  rw [run_visit hr hstage, Facility.vacate, hfind, Request.record?, hslot]
  rfl

/-! ### The last vehicle leaves -/

/-- Of `count` vehicles the last one parks and leaves. -/
def lastVisit : (count : Nat) → List Operation
  | 0 => []
  | last + 1 => [.occupy last, .release last]

namespace Granted

variable {slots : List Handle} {i : Nat} {m : Submission}

lemma exists_of_lt (hs : s.Granted subs slots) (hi : i < slots.length) :
    ∃ m h, subs[i]? = some m ∧ slots[i]? = some h ∧ s.request? i = some (m.granted i h) := by
  have hm := List.getElem?_eq_getElem (Nat.lt_of_lt_of_le hi hs.length_le)
  have hh := List.getElem?_eq_getElem hi
  exact ⟨_, _, hm, hh, hs.request?_eq i _ _ hm hh⟩

lemma stage_eq (hs : s.Granted subs slots) (hr : r ∈ s.requests) : r.stage = .allocated := by
  obtain ⟨i, hi⟩ := List.mem_iff_getElem?.mp hr
  have hlt := (List.getElem?_eq_some_iff.mp hi).1
  rw [hs.length_requests] at hlt
  obtain ⟨m, h, -, -, hreq⟩ := hs.exists_of_lt hlt
  rw [request?, hi] at hreq
  rw [Option.some.inj hreq]
  rfl

lemma length_lastVisit (hs : s.Granted subs slots) :
    (s.run (lastVisit slots.length)).requests.length = slots.length := by
  cases hlength : slots.length with
  | zero => rw [lastVisit, run_nil, hs.length_requests, hlength]
  | succ last =>
    obtain ⟨m, h, -, -, hlast⟩ := hs.exists_of_lt (i := last) (by omega)
    rw [lastVisit, requests_visit hlast rfl, List.length_modify, hs.length_requests, hlength]

/-- Only the last request is released. -/
lemma request?_lastVisit (hs : s.Granted subs slots) (hm : subs[i]? = some m)
    (hh : slots[i]? = some h) : (s.run (lastVisit slots.length)).request? i =
      some (if i + 1 = slots.length then (m.granted i h).restore .released
        else m.granted i h) := by
  have hi := hs.request?_eq i m h hm hh
  have hlt := (List.getElem?_eq_some_iff.mp hh).1
  cases hlength : slots.length with
  | zero => omega
  | succ last =>
    obtain ⟨m', h', -, -, hlast⟩ := hs.exists_of_lt (i := last) (by omega)
    rw [lastVisit, request?, requests_visit hlast rfl, List.getElem?_modify, ← request?, hi]
    by_cases heq : last = i
    · rw [if_pos (by rw [heq])]
      simp [heq]
    · rw [if_neg (by omega)]
      simp [heq]

/-- Only the last slot is free again. -/
lemma slot?_lastVisit (hs : s.Granted subs slots) (hh : slots[i]? = some h) :
    ∃ p, (s.run (lastVisit slots.length)).registry.slot? h = some p ∧
      p.available = decide (i + 1 = slots.length) := by
  have hlt := (List.getElem?_eq_some_iff.mp hh).1
  obtain ⟨m, h₀, -, hh₀, hr⟩ := hs.exists_of_lt hlt
  obtain rfl := Option.some.inj (hh₀.symm.trans hh)
  obtain ⟨p, hp, htaken⟩ :=
    hs.balanced.matched.slot_taken _ (List.mem_of_getElem? hr) h₀ rfl
  cases hlength : slots.length with
  | zero => omega
  | succ last =>
    obtain ⟨m', h', -, hh', hlast⟩ := hs.exists_of_lt (i := last) (by omega)
    rw [lastVisit, hs.balanced.registry_visit hlast rfl rfl, Registry.slot?_setAvailable, hp]
    by_cases heq : i = last
    · subst heq
      obtain rfl := Option.some.inj (hh.symm.trans hh')
      exact ⟨_, if_pos rfl, by simp⟩
    · have hne : h₀ ≠ h' := by
        rintro rfl
        exact heq ((List.getElem?_inj hlt hs.nodup).mp (hh.trans hh'.symm))
      exact ⟨p, if_neg hne, by simp [htaken, heq]⟩

/-- All requests but the last one are as they were. -/
lemma countP_lastVisit {P : Request → Bool} (hs : s.Granted subs slots)
    (hallocated : ∀ r, r.stage = .allocated → P r = true)
    (hreleased : ∀ r : Request, P (r.restore .released) = false) :
    (s.run (lastVisit slots.length)).requests.countP P = slots.length - 1 := by
  have hlen := hs.length_requests
  cases hlength : slots.length with
  | zero =>
    rw [hlength, List.length_eq_zero_iff] at hlen
    rw [lastVisit, run_nil, hlen]
    rfl
  | succ last =>
    obtain ⟨m, h, -, -, hlast⟩ := hs.exists_of_lt (i := last) (by omega)
    have hcount := countP_visit hlast rfl (fun r hr => hallocated r (hs.stage_eq hr)) (hreleased _)
    rw [hlen, hlength] at hcount
    exact Nat.succ.inj hcount

end Granted

end Facility

end Garage
