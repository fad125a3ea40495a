/-
# The books of a facility

Three places say which slots are in use: the flags of the registry, the requests and the history.
`Facility.Balanced` says that they agree: exactly the slots that requests hold are taken, none is
held twice, and the history is the list of what the requests hold, the newest first.  This is an
invariant.  The one change that touches all three places is `Facility.vacate`; the invariant turns
it into plain list surgery, as the record that is struck out is the record of the request that
gives its slot up (`Balanced.find?_history`, `Balanced.eraseRequest_history`).
-/
import Garage.Proofs.Steps

namespace Garage

/-! ### Lists that are changed at one place -/

lemma exists_split {α : Type} {l : List α} {i : Nat} {a : α} (hi : l[i]? = some a) :
    ∃ l₁ l₂, l = l₁ ++ a :: l₂ ∧ ∀ f, l.modify i f = l₁ ++ f a :: l₂ := by
  obtain ⟨hlt, rfl⟩ := List.getElem?_eq_some_iff.mp hi
  refine ⟨l.take i, l.drop (i + 1), ?_, fun f => List.modify_eq_take_cons_drop hlt⟩
  rw [List.getElem_cons_drop, List.take_append_drop]

lemma filterMap_modify {α β : Type} {f : α → α} {g : α → Option β} (hfg : ∀ a, g (f a) = g a)
    (l : List α) (i : Nat) : (l.modify i f).filterMap g = l.filterMap g := by
  have hmap (l : List α) : l.filterMap g = (l.map g).filterMap id := by
    rw [List.filterMap_map, Function.id_comp]
  rw [hmap, hmap, map_modify_eq_map hfg]

lemma mem_middle_and_ne_iff {α : Type} {l₁ l₂ : List α} {a b : α} (hl : (l₁ ++ a :: l₂).Nodup) :
    b ∈ l₁ ++ a :: l₂ ∧ b ≠ a ↔ b ∈ l₁ ++ l₂ := by
  have hnot : a ∉ l₁ ++ l₂ := (List.nodup_cons.mp (List.nodup_middle.mp hl)).1
  rw [List.perm_middle.mem_iff, List.mem_cons]
  constructor
  · rintro ⟨hb | hb, hne⟩
    · exact absurd hb hne
    · exact hb
  · intro hb
    refine ⟨Or.inr hb, ?_⟩
    rintro rfl
    exact hnot hb

lemma forall_mem_replace {α : Type} {P : α → Prop} {l₁ l₂ : List α} {a b : α}
    (hl : ∀ x ∈ l₁ ++ a :: l₂, P x) (hb : P b) : ∀ x ∈ l₁ ++ b :: l₂, P x := by
  rw [List.forall_mem_append, List.forall_mem_cons] at hl ⊢
  exact ⟨hl.1, hb, hl.2.2⟩

/-- The record of a request that holds a slot. -/
def Request.record? (r : Request) : Option Record :=
  r.slot.map fun h => ⟨h, true, r.id, .requested⟩

lemma Request.record?_eq_some_iff {r : Request} {e : Record} :
    r.record? = some e ↔ r.slot = some e.slot ∧ e.wasAvailable = true ∧ e.request = r.id ∧
      e.stage = .requested := by
  obtain ⟨h, wasAvailable, id, stage⟩ := e
  cases hslot : r.slot with
  | none => simp [record?, hslot]
  | some k => simp [record?, hslot, eq_comm]

namespace Facility

/-- The slots that requests hold, in the order of the requests. -/
def held (s : Facility) : List Handle := s.requests.filterMap (·.slot)

/-- The records of the slots that requests hold, the newest first. -/
def outstanding (s : Facility) : List Record := (s.requests.filterMap (·.record?)).reverse

/-- Registry, requests and history agree about the slots that are in use. -/
structure Balanced (s : Facility) : Prop where
  /-- A request's id is its place. -/
  id_eq : ∀ i r, s.request? i = some r → r.id = i
  /-- A request holds a slot in the stages that say so. -/
  holds : ∀ r ∈ s.requests, r.slot.isSome = r.stage.holdsSlot
  /-- No slot is held twice. -/
  nodup : s.held.Nodup
  /-- The slots that are held are the ones that are taken. -/
  mem_taken : ∀ h, h ∈ s.registry.taken ↔ h ∈ s.held
  /-- The history is the list of what is held. -/
  records_eq : s.history.records = s.outstanding

variable {s : Facility} {id : RequestId} {r : Request} {t : Stage} {h : Handle}

lemma balanced_empty : empty.Balanced where
  id_eq i r hr := by simp [empty, request?] at hr
  holds r hr := by simp [empty] at hr
  nodup := List.nodup_nil
  mem_taken h := by simp [empty, held, Registry.slot?, Registry.empty]
  records_eq := rfl

lemma held_park (s : Facility) (id : RequestId) : (s.park id).held = s.held := by
  unfold held park
  apply filterMap_modify
  intro r
  rfl

lemma outstanding_park (s : Facility) (id : RequestId) :
    (s.park id).outstanding = s.outstanding := by
  unfold outstanding park
  congr 1
  apply filterMap_modify
  intro r
  rfl

lemma held_split {l₁ l₂ : List Request} (hreq : s.requests = l₁ ++ r :: l₂) :
    s.held = l₁.filterMap (·.slot) ++ (r.slot.toList ++ l₂.filterMap (·.slot)) := by
  rw [held, hreq, List.filterMap_append, List.filterMap_cons]
  cases r.slot <;> rfl

namespace Balanced

/-- Changing requests but not their ids leaves every request at its place. -/
lemma id_eq_of_request? (hb : s.Balanced) {s' : Facility} {i j : RequestId} {f : Request → Request}
    (hs' : s'.request? j = if i = j then (s.request? j).map f else s.request? j)
    (hf : ∀ r, (f r).id = r.id) (hr : s'.request? j = some r) : r.id = j := by
  rw [hs'] at hr
  split at hr
  · obtain ⟨r₀, hr₀, rfl⟩ := Option.map_eq_some_iff.mp hr
    rw [hf, hb.id_eq j r₀ hr₀]
  · exact hb.id_eq j r hr

/-- Ids increase along the list of requests. -/
lemma ids_sorted (hb : s.Balanced) : s.requests.Pairwise fun r r' => r.id < r'.id := by
  rw [List.pairwise_iff_getElem]
  intro i j hi hj hij
  rw [hb.id_eq i _ (List.getElem?_eq_getElem hi), hb.id_eq j _ (List.getElem?_eq_getElem hj)]
  exact hij

lemma addZone (hb : s.Balanced) {z : Zone} (hz : z.AllFree) : (s.addZone z).Balanced where
  id_eq := hb.id_eq
  holds := hb.holds
  nodup := hb.nodup
  mem_taken h := by
    rw [addZone_registry, Registry.taken_addZone _ hz]
    exact hb.mem_taken h
  records_eq := hb.records_eq

lemma meet (hb : s.Balanced) (vehicle : String) (zone : ZoneId) :
    (s.meet vehicle zone).Balanced := by
  unfold Facility.meet
  split
  · exact hb
  · exact ⟨hb.id_eq, hb.holds, hb.nodup, hb.mem_taken, hb.records_eq⟩

lemma allocate (hb : s.Balanced) (vehicle : String) (zone : ZoneId) (now : Instant)
    (hh : h ∈ s.registry.free) :
    (s.allocate ⟨s.requests.length, vehicle, zone, now, .allocated, none⟩ h true
      .requested).Balanced := by
  -- The slot was free, so that no request held it.
  have hheld : h ∉ s.held := by
    rw [← hb.mem_taken]
    exact Registry.not_mem_taken_of_mem_free hh
  constructor
  case id_eq =>
    intro i r hr
    simp only [request?, Facility.allocate, List.getElem?_append] at hr
    split at hr
    · exact hb.id_eq i r hr
    next hlt =>
      rw [List.getElem?_singleton, Option.ite_none_right_eq_some, Option.some.injEq] at hr
      obtain ⟨hi, rfl⟩ := hr
      show s.requests.length = i
      omega
  case holds =>
    intro r hr
    rcases List.mem_append.mp hr with hr | hr
    · exact hb.holds r hr
    · rw [List.mem_singleton.mp hr]
      rfl
  case nodup =>
    have happend : ((s.allocate ⟨s.requests.length, vehicle, zone, now, .allocated, none⟩ h true
        .requested).held) = s.held ++ [h] := by
      simp [held, Facility.allocate]
    rw [happend, List.nodup_append]
    refine ⟨hb.nodup, List.nodup_singleton h, ?_⟩
    rintro k hk l hl rfl
    rw [List.mem_singleton.mp hl] at hk
    exact hheld hk
  case mem_taken =>
    intro k
    rw [Facility.allocate, Registry.mem_taken_setAvailable_false hh, hb.mem_taken]
    simp [held]
  case records_eq =>
    simp [Facility.allocate, outstanding, History.push, hb.records_eq, Request.record?]

lemma park (hb : s.Balanced) (hr : s.request? id = some r) (hstage : r.stage = .allocated) :
    (s.park id).Balanced := by
  obtain ⟨l₁, l₂, hreq, hmod⟩ := exists_split hr
  constructor
  case id_eq =>
    intro j r' hr'
    exact hb.id_eq_of_request? (s.request?_park id j) (fun _ => rfl) hr'
  case holds =>
    have hholds := hb.holds
    rw [hreq] at hholds
    rw [Facility.park, hmod]
    refine forall_mem_replace hholds ?_
    have hslot := hholds r (by simp)
    rw [hstage] at hslot
    exact hslot
  case nodup =>
    rw [held_park]
    exact hb.nodup
  case mem_taken =>
    rw [held_park]
    exact hb.mem_taken
  case records_eq =>
    rw [outstanding_park]
    exact hb.records_eq

/-! ### A request gives its slot up -/

/-- A record is the record of the request that it names. -/
lemma mem_records (hb : s.Balanced) {e : Record} (he : e ∈ s.history.records) :
    ∃ r, s.request? e.request = some r ∧ r.record? = some e := by
  rw [hb.records_eq] at he
  obtain ⟨r, hmem, hrecord⟩ := List.mem_filterMap.mp (List.mem_reverse.mp he)
  obtain ⟨i, hi⟩ := List.mem_iff_getElem?.mp hmem
  obtain ⟨-, -, hid, -⟩ := Request.record?_eq_some_iff.mp hrecord
  rw [hid, hb.id_eq i r hi]
  exact ⟨r, hi, hrecord⟩

/-- The records of the requests before and behind a request in the list are of other requests. -/
lemma request_ne (hb : s.Balanced) {l₁ l₂ : List Request} (hreq : s.requests = l₁ ++ r :: l₂) :
    (∀ e ∈ (l₁.filterMap (·.record?)).reverse, ¬ (e.request == r.id) = true) ∧
    (∀ e ∈ (l₂.filterMap (·.record?)).reverse, ¬ (e.request == r.id) = true) := by
  have hids := hb.ids_sorted
  rw [hreq, List.pairwise_append, List.pairwise_cons] at hids
  obtain ⟨-, ⟨hafter, -⟩, hbefore⟩ := hids
  have hrecord {r' : Request} {e : Record} (he : r'.record? = some e) : e.request = r'.id :=
    (Request.record?_eq_some_iff.mp he).2.2.1
  constructor
  · intro e he
    obtain ⟨r', hr', he⟩ := List.mem_filterMap.mp (List.mem_reverse.mp he)
    rw [beq_iff_eq, hrecord he]
    exact Nat.ne_of_lt (hbefore r' hr' r (by simp))
  · intro e he
    obtain ⟨r', hr', he⟩ := List.mem_filterMap.mp (List.mem_reverse.mp he)
    rw [beq_iff_eq, hrecord he]
    exact Nat.ne_of_gt (hafter r' hr')

/-- The history around the record of a request. -/
lemma records_split (hb : s.Balanced) {l₁ l₂ : List Request} (hreq : s.requests = l₁ ++ r :: l₂) :
    s.history.records = (l₂.filterMap (·.record?)).reverse ++
      (r.record?.toList ++ (l₁.filterMap (·.record?)).reverse) := by
  rw [hb.records_eq, outstanding, hreq, List.filterMap_append, List.filterMap_cons]
  cases r.record? <;> simp

/-- The newest record of a request is the record of the slot that it holds. -/
lemma find?_history (hb : s.Balanced) (hr : s.request? id = some r) :
    s.history.find? id = r.record? := by
  obtain ⟨l₁, l₂, hreq, -⟩ := exists_split hr
  obtain ⟨hbefore, hafter⟩ := hb.request_ne hreq
  rw [← hb.id_eq id r hr, History.find?, hb.records_split hreq, List.find?_append,
    List.find?_eq_none.mpr hafter, Option.none_or, List.find?_append,
    List.find?_eq_none.mpr hbefore, Option.or_none]
  cases hslot : r.slot <;> simp [Request.record?, hslot]

/-- The history without the record of a request. -/
lemma eraseRequest_history (hb : s.Balanced) {l₁ l₂ : List Request}
    (hreq : s.requests = l₁ ++ r :: l₂) (hr : s.request? id = some r) :
    (s.history.eraseRequest id).records =
      ((l₁ ++ l₂).filterMap (·.record?)).reverse := by
  obtain ⟨hbefore, hafter⟩ := hb.request_ne hreq
  -- The records in front are those of later requests, so the search passes them by.
  rw [← hb.id_eq id r hr, History.eraseRequest, hb.records_split hreq,
    List.eraseP_append_right _ hafter, List.filterMap_append, List.reverse_append]
  congr 1
  cases hslot : r.slot with
  | none => simpa [Request.record?, hslot] using List.eraseP_of_forall_not hbefore
  | some h => simp [Request.record?, hslot]

/-- A request that is not there gives nothing up. -/
lemma vacate_eq_self (hb : s.Balanced) (hr : s.request? id = none) (t : Stage) :
    s.vacate id t = s := by
  have hlen : s.requests.length ≤ id := List.getElem?_eq_none_iff.mp hr
  have hnone : ∀ e ∈ s.history.records, ¬ (e.request == id) = true := by
    intro e he
    obtain ⟨r, hr, -⟩ := hb.mem_records he
    rw [beq_iff_eq]
    exact Nat.ne_of_lt (Nat.lt_of_lt_of_le (List.getElem?_eq_some_iff.mp hr).1 hlen)
  have hfind : s.history.find? id = none := List.find?_eq_none.mpr hnone
  rw [Facility.vacate, hfind, History.eraseRequest_of_find?_eq_none hfind,
    List.modify_eq_self hlen]
  rfl

/-- The slots that are taken when a request has given its slot up: those of the other requests. -/
lemma mem_taken_vacate (hb : s.Balanced) {l₁ l₂ : List Request} (hreq : s.requests = l₁ ++ r :: l₂)
    (hr : s.request? id = some r) :
    h ∈ (s.vacate id t).registry.taken ↔ h ∈ (l₁ ++ l₂).filterMap (·.slot) := by
  have hsplit := held_split hreq
  have hnodup := hb.nodup
  rw [Facility.vacate, hb.find?_history hr, Request.record?, List.filterMap_append]
  cases hslot : r.slot with
  | none =>
    rw [hslot] at hsplit
    rw [Option.map_none, Option.elim_none, hb.mem_taken, hsplit]
    rfl
  | some k =>
    rw [hslot] at hsplit
    rw [hsplit] at hnodup
    rw [Option.map_some, Option.elim_some, Record.restoreSlot,
      Registry.mem_taken_setAvailable_true, hb.mem_taken, hsplit]
    exact mem_middle_and_ne_iff hnodup

lemma vacate (hb : s.Balanced) (id : RequestId) (ht : t.holdsSlot = false) :
    (s.vacate id t).Balanced := by
  cases hr : s.request? id with
  | none =>
    rw [hb.vacate_eq_self hr]
    exact hb
  | some r =>
  obtain ⟨l₁, l₂, hreq, hmod⟩ := exists_split hr
  have hrequests : (s.vacate id t).requests = l₁ ++ r.restore t :: l₂ := hmod _
  have hheld : (s.vacate id t).held = (l₁ ++ l₂).filterMap (·.slot) := by
    rw [held_split hrequests, List.filterMap_append]
    rfl
  constructor
  case id_eq =>
    intro j r' hr'
    exact hb.id_eq_of_request? (s.request?_vacate id j t) (fun _ => rfl) hr'
  case holds =>
    have hholds := hb.holds
    rw [hreq] at hholds
    rw [hrequests]
    exact forall_mem_replace hholds ht.symm
  case nodup =>
    -- Giving a slot up strikes it from the list of the slots that are held.
    have hsub : ((l₁ ++ l₂).filterMap (·.slot)).Sublist s.held := by
      rw [held_split hreq, List.filterMap_append]
      exact List.Sublist.append_left (List.sublist_append_right _ _) _
    rw [hheld]
    exact hb.nodup.sublist hsub
  case mem_taken =>
    intro k
    rw [hheld]
    exact hb.mem_taken_vacate hreq hr
  case records_eq =>
    show (s.history.eraseRequest id).records = _
    rw [hb.eraseRequest_history hreq hr, outstanding, hrequests]
    simp [Request.restore, Request.record?]

lemma takeBack (hb : s.Balanced) : s.takeBack.Balanced := by
  unfold Facility.takeBack
  cases hnew : s.history.newest? with
  | none => exact hb
  | some e =>
    obtain ⟨r, -, hrecord⟩ := hb.mem_records (List.mem_of_head? hnew)
    obtain ⟨-, -, -, hstage⟩ := Request.record?_eq_some_iff.mp hrecord
    exact hb.vacate e.request (by rw [hstage]; rfl)

/-- Every operation keeps the books balanced. -/
theorem after (hb : s.Balanced) {op : Operation} (hop : op.AddsFree) : (s.after op).Balanced := by
  cases op with
  | addZone z => exact hb.addZone hop
  | submit vehicle zone now =>
    rcases after_submit s vehicle zone now with ⟨-, hafter⟩ | ⟨h, hc, hafter⟩
    · rw [hafter]
      exact hb.meet vehicle zone
    · have hmet := (hb.meet vehicle zone).allocate (h := h) vehicle zone now
        (by rw [meet_registry]; exact Registry.mem_free_of_choose hc)
      rw [meet_requests] at hmet
      rw [hafter]
      exact hmet
  | occupy id =>
    rcases after_occupy s id with hafter | ⟨r, hr, hstage, hafter⟩ <;> rw [hafter]
    · exact hb
    · exact hb.park hr hstage
  | cancel id =>
    rcases after_cancel s id with hafter | ⟨r, -, -, hafter⟩ <;> rw [hafter]
    · exact hb
    · exact hb.vacate id rfl
  | release id =>
    rcases after_release s id with hafter | ⟨r, -, -, hafter⟩ <;> rw [hafter]
    · exact hb
    · exact hb.vacate id rfl
  | rollback k =>
    rw [after_rollback]
    exact Function.Iterate.rec Facility.Balanced hb (fun _ => takeBack) k

lemma run (hb : s.Balanced) {ops : List Operation} (hops : ∀ op ∈ ops, op.AddsFree) :
    (s.run ops).Balanced :=
  run_induction (fun _ _ hb hop => hb.after hop) hops hb

end Balanced

theorem Reachable.balanced (hs : s.Reachable) : s.Balanced :=
  hs.induction balanced_empty fun _ _ hb hop => hb.after hop

end Facility

end Garage
