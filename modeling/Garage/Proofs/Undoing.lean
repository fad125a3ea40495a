/-
# Taking records back from any history

The history of a facility is in good order, but neither way of undoing it counts on that.  Here
a history may hold any records: several of one slot or of one request, and records that name what
is not there.  As records are taken back from the newest one on, the oldest has the last word:

* `rollback_restores_oldest`: when the `k` newest records are taken back, each slot and each
  request becomes what the oldest of them that names it says, and nothing else changes;
* `undo_exhausts_records`: when the records of one request are taken back one by one, they come
  from the newest to the oldest, and what is left is the history of the other requests.

A rollback restores slots and requests in turns, which may be taken for two folds over the same
records (`History.rollback_eq`).  Each fold overwrites what it finds under one key; `lookup_foldl`
says what is left under a key.
-/
import Garage.Proofs.Reconstruction

namespace Garage

/-- Erasing the first member with a property erases the first one that a filter for it keeps. -/
lemma filter_eraseP {α : Type} (P : α → Bool) (l : List α) :
    (l.eraseP P).filter P = (l.filter P).tail := by
  induction l with
  | nil => rfl
  | cons a l ih => cases hP : P a <;> simp [hP, ih]

lemma filter_not_eraseP {α : Type} (P : α → Bool) (l : List α) :
    (l.eraseP P).filter (!P ·) = l.filter (!P ·) := by
  induction l with
  | nil => rfl
  | cons a l ih => cases hP : P a <;> simp [hP, ih]

/-- The oldest record with a property, among records of which the newest comes first. -/
def oldest? (records : List Record) (P : Record → Bool) : Option Record :=
  records.reverse.find? P

lemma oldest?_cons (e : Record) (records : List Record) (P : Record → Bool) :
    oldest? (e :: records) P = (oldest? records P).or (if P e then some e else none) := by
  rw [oldest?, oldest?, List.reverse_cons, List.find?_append, List.find?_singleton]

lemma oldest?_eq_none_of_forall_ne {κ : Type} [DecidableEq κ] {records : List Record}
    {key : Record → κ} {c : κ} (hc : ∀ e ∈ records, key e ≠ c) :
    oldest? records (key · == c) = none := by
  rw [oldest?, List.find?_eq_none]
  intro e he
  simpa using hc e (List.mem_reverse.mp he)

/-- When each record overwrites what is found under its key, then under each key the oldest record
decides, as it comes last. -/
lemma lookup_foldl {σ κ β : Type} [DecidableEq κ] (look : σ → κ → Option β)
    {restore : Record → σ → σ} {key : Record → κ} {f : Record → β → β}
    (hlook : ∀ e s c, look (restore e s) c = if c = key e then (look s c).map (f e) else look s c)
    (hf : ∀ e e' b, f e (f e' b) = f e b) (s : σ) (records : List Record) (c : κ) :
    look (records.foldl (fun s e => restore e s) s) c = (look s c).map fun b =>
      (oldest? records (key · == c)).elim b fun e => f e b := by
  induction records generalizing s with
  | nil => simp [oldest?]
  | cons e records ih =>
    rw [List.foldl_cons, ih, hlook, oldest?_cons]
    by_cases hc : c = key e
    · subst hc
      cases oldest? records (key · == key e) <;> simp [Function.comp_def, hf]
    · simp [hc, Ne.symm hc]

/-! ### Restoring slots and requests -/

namespace Registry

variable {r : Registry} {records : List Record} {c : Handle} {p : Slot} {e : Record}

lemma slot?_restoreAll (r : Registry) (records : List Record) (c : Handle) :
    (r.restoreAll records).slot? c = (r.slot? c).map fun p =>
      (oldest? records (·.slot == c)).elim p fun e => p.withAvailable e.wasAvailable :=
  lookup_foldl slot? (fun e r c => r.slot?_setAvailable e.slot c e.wasAvailable)
    (fun _ _ _ => rfl) r records c

lemma slot?_restoreAll_of_oldest? (hp : r.slot? c = some p)
    (he : oldest? records (·.slot == c) = some e) :
    (r.restoreAll records).slot? c = some { p with available := e.wasAvailable } := by
  rw [slot?_restoreAll, hp, he]
  rfl

lemma slot?_restoreAll_of_forall_ne (hc : ∀ e ∈ records, e.slot ≠ c) :
    (r.restoreAll records).slot? c = r.slot? c := by
  rw [slot?_restoreAll, oldest?_eq_none_of_forall_ne hc]
  exact Option.map_id'

@[simp] lemma plan_restoreAll (r : Registry) (records : List Record) :
    (r.restoreAll records).plan = r.plan := by
  induction records generalizing r with
  | nil => rfl
  | cons e records ih => exact (ih (e.restoreSlot r)).trans (plan_setAvailable _ _ _)

end Registry

section Requests

variable {requests : List Request} {records : List Record} {i : RequestId} {q : Request}
  {e : Record}

lemma getElem?_restoreRequest (e : Record) (requests : List Request) (i : RequestId) :
    (e.restoreRequest requests)[i]? =
      if i = e.request then requests[i]?.map (·.restore e.stage) else requests[i]? := by
  rw [Record.restoreRequest, List.getElem?_modify]
  by_cases hi : i = e.request
  · simp [hi]
  · simp [hi, Ne.symm hi]

lemma getElem?_restoreRequests (requests : List Request) (records : List Record) (i : RequestId) :
    (restoreRequests requests records)[i]? = requests[i]?.map fun q =>
      (oldest? records (·.request == i)).elim q fun e => q.restore e.stage :=
  lookup_foldl (fun requests i => requests[i]?) getElem?_restoreRequest (fun _ _ _ => rfl)
    requests records i

lemma getElem?_restoreRequests_of_oldest? (hq : requests[i]? = some q)
    (he : oldest? records (·.request == i) = some e) :
    (restoreRequests requests records)[i]? = some { q with stage := e.stage, slot := none } := by
  rw [getElem?_restoreRequests, hq, he]
  rfl

lemma getElem?_restoreRequests_of_forall_ne (hi : ∀ e ∈ records, e.request ≠ i) :
    (restoreRequests requests records)[i]? = requests[i]? := by
  rw [getElem?_restoreRequests, oldest?_eq_none_of_forall_ne hi]
  exact Option.map_id'

lemma length_restoreRequests (requests : List Request) (records : List Record) :
    (restoreRequests requests records).length = requests.length := by
  induction records generalizing requests with
  | nil => rfl
  | cons e records ih => exact (ih (e.restoreRequest requests)).trans (List.length_modify _ _ _)

end Requests

namespace History

/-! ### Taking back the newest records -/

/-- What a rollback of `k` records answers and leaves behind of a history, a registry and a list of
requests that need not fit together. -/
structure RestoresOldest (h : History) (k : Nat) (r : Registry) (requests : List Request) :
    Prop where
  /-- The answer is `k`, or the number of all records if that is less. -/
  answer_eq : (h.rollback k r requests).answer = min k h.size
  /-- So many records are gone.  In the order in which they were made, the first ones stay. -/
  records_eq : (h.rollback k r requests).state.1.records.reverse =
    h.records.reverse.take (h.size - (h.rollback k r requests).answer)
  /-- A slot is free or not as the oldest record says that is taken back and names the slot,
  whether or not the requests of the records are there. -/
  slot_restored : ∀ c p e, r.slot? c = some p → oldest? (h.takeNewest k) (·.slot == c) = some e →
    (h.rollback k r requests).state.2.1.slot? c = some { p with available := e.wasAvailable }
  /-- A slot that none of them names stays as it is. -/
  slot_kept : ∀ c, (∀ e ∈ h.takeNewest k, e.slot ≠ c) →
    (h.rollback k r requests).state.2.1.slot? c = r.slot? c
  /-- The zones, areas and slots stay what and where they are. -/
  plan_kept : (h.rollback k r requests).state.2.1.plan = r.plan
  /-- A request has no slot and is in the stage that the oldest record says that is taken back and
  names the request, whether or not the slots of the records are there. -/
  request_restored : ∀ i q e, requests[i]? = some q →
    oldest? (h.takeNewest k) (·.request == i) = some e →
    (h.rollback k r requests).state.2.2[i]? = some { q with stage := e.stage, slot := none }
  /-- A request that none of them names stays as it is. -/
  request_kept : ∀ i, (∀ e ∈ h.takeNewest k, e.request ≠ i) →
    (h.rollback k r requests).state.2.2[i]? = requests[i]?
  /-- No request is added or lost. -/
  length_requests : (h.rollback k r requests).state.2.2.length = requests.length

/-- **The oldest record decides.**  Whatever records a history holds, taking back the `k` newest
ones, or all if there are fewer, gives to each slot and to each request that they name what the
oldest of them says, and changes nothing else. -/
theorem rollback_restores_oldest (h : History) (k : Nat) (r : Registry) (requests : List Request) :
    h.RestoresOldest k r requests where
  answer_eq := h.rollback_answer k r requests
  records_eq := by
    have hlen : h.size - min k h.size = h.size - k := by omega
    rw [h.rollback_answer, hlen, rollback_eq]
    exact List.reverse_drop
  slot_restored _ _ _ hp he := by
    rw [rollback_eq]
    exact Registry.slot?_restoreAll_of_oldest? hp he
  slot_kept _ hc := by
    rw [rollback_eq]
    exact Registry.slot?_restoreAll_of_forall_ne hc
  plan_kept := by
    rw [rollback_eq]
    exact r.plan_restoreAll _
  request_restored _ _ _ hq he := by
    rw [rollback_eq]
    exact getElem?_restoreRequests_of_oldest? hq he
  request_kept _ hi := by
    rw [rollback_eq]
    exact getElem?_restoreRequests_of_forall_ne hi
  length_requests := by
    rw [rollback_eq]
    exact length_restoreRequests requests _

/-- Two records name one slot and one request.  The newer one alone brings back what was before the
second allocation, both together what was before the first. -/
example :
    let h : History := ⟨[⟨⟨0, 0, 0⟩, true, 0, .requested⟩, ⟨⟨0, 0, 0⟩, false, 0, .occupied⟩]⟩
    let r : Registry := ⟨[(Zone.empty 1).addArea (Area.numbered 1 1 1)]⟩
    let requests := [Request.new 0 "A" 1 ⟨0, 0⟩]
    (h.rollback 1 r requests).state.2.1.availableSlots = 1 ∧
      (h.rollback 2 r requests).state.2.1.availableSlots = 0 ∧
      (h.rollback 2 r requests).state.2.2.map (·.stage) = [.occupied] := by
  decide

/-! ### Taking back the records of one request -/

/-- The records of a request, the newest first. -/
def recordsOf (h : History) (id : RequestId) : List Record := h.records.filter (·.request == id)

/-- The records of all other requests, the newest first. -/
def recordsOfOthers (h : History) (id : RequestId) : List Record :=
  h.records.filter (·.request != id)

/-- A history and a registry after the newest record of a request was taken back, if there was
one. -/
def undone (id : RequestId) (s : History × Registry) : History × Registry :=
  (s.1.undo id s.2).state

/-- What the next attempt answers after `n` attempts to take back a record of a request. -/
def undoAnswer (h : History) (id : RequestId) (r : Registry) (n : Nat) : Option Record :=
  let s := (undone id)^[n] (h, r)
  (s.1.undo id s.2).answer

/-- A history and a registry after as many attempts as the request has records. -/
def undoAll (h : History) (id : RequestId) (r : Registry) : History × Registry :=
  (undone id)^[(h.recordsOf id).length] (h, r)

variable {h : History} {id : RequestId} {r : Registry} {n : Nat}

/-- Erasing the newest record of a request leaves its older ones and those of the others. -/
lemma recordsOf_eraseRequest (h : History) (id : RequestId) :
    (h.eraseRequest id).recordsOf id = (h.recordsOf id).tail :=
  filter_eraseP _ _

lemma recordsOfOthers_eraseRequest (h : History) (id : RequestId) :
    (h.eraseRequest id).recordsOfOthers id = h.recordsOfOthers id :=
  filter_not_eraseP _ _

lemma find?_eq_head? (h : History) (id : RequestId) : h.find? id = (h.recordsOf id).head? :=
  List.head?_filter.symm

lemma undo_answer (h : History) (id : RequestId) (r : Registry) :
    (h.undo id r).answer = (h.recordsOf id).head? := by
  rw [← find?_eq_head?, undo]
  cases h.find? id <;> rfl

/-- One attempt takes back the newest record of the request, or none if there is none. -/
lemma undone_eq (h : History) (id : RequestId) (r : Registry) :
    undone id (h, r) = (h.eraseRequest id, r.restoreAll ((h.recordsOf id).take 1)) := by
  have hhead := find?_eq_head? h id
  rw [undone, undo]
  cases hrecords : h.recordsOf id with
  | nil =>
    rw [hrecords, List.head?_nil] at hhead
    rw [hhead, eraseRequest_of_find?_eq_none hhead]
    rfl
  | cons e rest =>
    rw [hrecords, List.head?_cons] at hhead
    rw [hhead]
    rfl

/-- After `n` attempts the slots of the `n` newest records of the request are restored. -/
lemma iterate_undone (h : History) (id : RequestId) (r : Registry) (n : Nat) :
    (undone id)^[n] (h, r) =
      ((eraseRequest · id)^[n] h, r.restoreAll ((h.recordsOf id).take n)) := by
  induction n generalizing h r with
  | zero => rfl
  | succ n ih =>
    rw [Function.iterate_succ_apply, undone_eq, ih, recordsOf_eraseRequest,
      Function.iterate_succ_apply]
    cases h.recordsOf id <;> simp [Registry.restoreAll]

lemma recordsOf_iterate (h : History) (id : RequestId) (n : Nat) :
    ((eraseRequest · id)^[n] h).recordsOf id = (h.recordsOf id).drop n := by
  induction n generalizing h with
  | zero => rfl
  | succ n ih => rw [Function.iterate_succ_apply, ih, recordsOf_eraseRequest, List.drop_tail]

lemma recordsOfOthers_iterate (h : History) (id : RequestId) (n : Nat) :
    ((eraseRequest · id)^[n] h).recordsOfOthers id = h.recordsOfOthers id := by
  induction n generalizing h with
  | zero => rfl
  | succ n ih => rw [Function.iterate_succ_apply, ih, recordsOfOthers_eraseRequest]

/-- When a request has no records, all records are those of others. -/
lemma records_eq_of_recordsOf_eq_nil (hnil : h.recordsOf id = []) :
    h.records = h.recordsOfOthers id := by
  rw [recordsOf, List.filter_eq_nil_iff] at hnil
  rw [recordsOfOthers, eq_comm, List.filter_eq_self]
  intro e he
  simpa using hnil e he

/-- After enough attempts, all records of the request are gone and all their slots restored. -/
lemma iterate_undone_of_le (hn : (h.recordsOf id).length ≤ n) :
    (undone id)^[n] (h, r) = (⟨h.recordsOfOthers id⟩, r.restoreAll (h.recordsOf id)) := by
  have hnil : ((eraseRequest · id)^[n] h).recordsOf id = [] := by
    rw [recordsOf_iterate, List.drop_eq_nil_of_le hn]
  have hrecords : ((eraseRequest · id)^[n] h).records = h.recordsOfOthers id := by
    rw [records_eq_of_recordsOf_eq_nil hnil, recordsOfOthers_iterate]
  rw [iterate_undone, List.take_of_length_le hn, ← hrecords]

lemma undoAll_eq (h : History) (id : RequestId) (r : Registry) :
    h.undoAll id r = (⟨h.recordsOfOthers id⟩, r.restoreAll (h.recordsOf id)) :=
  iterate_undone_of_le (Nat.le_refl _)

/-- What taking back the records of one request, over and over, answers and leaves behind of any
history and any registry.  The requests have no part in it. -/
structure ExhaustsRecords (h : History) (id : RequestId) (r : Registry) : Prop where
  /-- The answers are the records of the request from the newest to the oldest, each of them once,
  and nothing from then on. -/
  answers : ∀ n, h.undoAnswer id r n = (h.recordsOf id)[n]?
  /-- Once the records are taken back, nothing happens any more. -/
  stays : ∀ n, (h.recordsOf id).length ≤ n → (undone id)^[n] (h, r) = h.undoAll id r
  /-- The records of the others are left, in their order. -/
  records_eq : (h.undoAll id r).1.records = h.recordsOfOthers id
  /-- No record of the request is left. -/
  contains_eq_false : (h.undoAll id r).1.contains id = false
  /-- A slot is free or not as the oldest record of the request says that names the slot. -/
  slot_restored : ∀ c p e, r.slot? c = some p → oldest? (h.recordsOf id) (·.slot == c) = some e →
    (h.undoAll id r).2.slot? c = some { p with available := e.wasAvailable }
  /-- A slot that no record of the request names stays as it is. -/
  slot_kept : ∀ c, (∀ e ∈ h.recordsOf id, e.slot ≠ c) →
    (h.undoAll id r).2.slot? c = r.slot? c
  /-- The zones, areas and slots stay what and where they are. -/
  plan_kept : (h.undoAll id r).2.plan = r.plan

/-- **One request's records, from the newest to the oldest.**  Whatever records a history holds,
taking back those of one request, over and over, gives each of them once and restores just the
slots that they name; the records of other requests are not touched. -/
theorem undo_exhausts_records (h : History) (id : RequestId) (r : Registry) :
    h.ExhaustsRecords id r where
  answers n := by
    rw [undoAnswer, iterate_undone, undo_answer, recordsOf_iterate, List.head?_drop]
  stays n hn := by
    rw [iterate_undone_of_le hn, undoAll_eq]
  records_eq := by
    rw [undoAll_eq]
  contains_eq_false := by
    rw [undoAll_eq, contains, recordsOfOthers, List.any_eq_false]
    intro e he
    simpa using (List.mem_filter.mp he).2
  slot_restored c p e hp he := by
    rw [undoAll_eq]
    exact Registry.slot?_restoreAll_of_oldest? hp he
  slot_kept c hc := by
    rw [undoAll_eq]
    exact Registry.slot?_restoreAll_of_forall_ne hc
  plan_kept := by
    rw [undoAll_eq]
    exact r.plan_restoreAll _

end History

end Garage
