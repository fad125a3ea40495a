/-
# The demonstration succeeds

The demonstration ends well with every layout that can be built.  All that it does is written to a
log, and it fails as soon as one of its steps does.  `Demo.Logs` says of a step that it succeeds,
with what value and with which lines of the log, whatever was logged before; such steps compose
(`Demo.Logs.bind`).

* `Demo.logs_seed`: the vehicles come, and the requests are numbered from zero on.
* `Demo.logs_served`: which garage there is in the end.
* `Demo.Opens.outcome`: what this garage is like.
* `demonstrate_completes` puts the two together.
-/
import Garage.Demo
import Garage.Proofs.Building
import Garage.Proofs.Summary
import Garage.Proofs.Visits

namespace Garage

/-! ### Slots of a layout -/

def ZoneLayout.totalSlots (z : ZoneLayout) : Nat := (z.areas.map (·.slots.toNat)).sum

def Layout.totalSlots (l : Layout) : Nat := (l.zones.map (·.totalSlots)).sum

lemma ZoneLayout.capacity_zone (z : ZoneLayout) : z.zone.capacity = z.totalSlots := by
  have harea (a : AreaLayout) : (a.build z.id).slots.length = a.slots.toNat :=
    Area.numbered_length a.id z.id a.slots
  rw [Zone.capacity, Zone.slots, zone, List.length_flatMap, List.map_map, totalSlots]
  exact congrArg List.sum (List.map_congr_left fun a _ => harea a)

namespace Demo

variable {α β : Type} {a : α} {b : β} {x : Logged α} {f : α → Logged β}
  {lines lines' : List LogLine}

/-! ### Work that is logged -/

/-- The work ends well with the value `a`, and it logs `lines` in the meantime. -/
def Logs (x : Logged α) (a : α) (lines : List LogLine) : Prop :=
  ∀ earlier, x.run.run earlier = (.ok a, earlier ++ lines)

lemma logs_pure (a : α) : Logs (pure a) a [] := by
  intro earlier
  rw [List.append_nil]
  rfl

lemma Logs.bind (hx : Logs x a lines) (hf : Logs (f a) b lines') :
    Logs (x >>= f) b (lines ++ lines') := by
  intro earlier
  have hx' := hx earlier
  have hf' := hf (earlier ++ lines)
  rw [List.append_assoc] at hf'
  rw [ExceptT.run_bind, StateT.run_bind, hx']
  exact hf'

lemma logs_log (lines : List LogLine) : Logs (log lines) () lines := fun _ => rfl

lemma logs_say (level : Level) (message : String) :
    Logs (say level message) () [⟨level, "parking_demo", message⟩] := logs_log _

variable {s : Facility}

lemma logs_serve (s : Facility) (op : Operation) :
    Logs (serve s op) ((s.perform op).answer, s.after op) ((s.serve op).events.map Event.line) := by
  rw [← s.serve_answer, ← s.serve_state, ← List.append_nil (List.map _ _)]
  exact (logs_log _).bind (logs_pure _)

lemma logs_serveOk {op : Operation} {answer : Answer} (h : (s.perform op).answer = .ok answer) :
    Logs (serveOk s op) (s.after op) ((s.serve op).events.map Event.line) := by
  have hserve := logs_serve s op
  rw [h] at hserve
  rw [← List.append_nil (List.map _ _)]
  exact hserve.bind (logs_pure _)

/-! ### Seeding -/

/-- What a vehicle asks for. -/
def submission (v : String × ZoneId) : Submission := ⟨v.1, v.2, ⟨0, 0⟩⟩

/-- The last id when `count` requests get the next ids from `first` on. -/
def lastSeeded (last : Option RequestId) (first count : Nat) : Option RequestId :=
  if count = 0 then last else some (first + (count - 1))

lemma lastSeeded_succ (last : Option RequestId) (first count : Nat) :
    lastSeeded last first (count + 1) = lastSeeded (some first) (first + 1) count := by
  cases count with
  | zero => rfl
  | succ count =>
    have hsum : first + (count + 1) = first + 1 + count := by omega
    exact congrArg some hsum

/-- All vehicles ask, and those that are served get the next ids. -/
lemma logs_seed (hd : s.registry.DistinctIds) (last : Option RequestId)
    (vs : List (String × ZoneId)) : ∃ lines, Logs (seed s last vs)
      (s.run ((vs.map submission).map (·.operation)),
        lastSeeded last s.requests.length (min vs.length s.registry.free.length)) lines := by
  induction vs generalizing s last with
  | nil =>
    rw [List.length_nil, Nat.zero_min]
    exact ⟨[], logs_pure _⟩
  | cons v vs ih =>
    obtain ⟨vehicle, zone⟩ := v
    have hserve := logs_serve s (.submit vehicle zone ⟨0, 0⟩)
    have hregistry : (s.after (.submit vehicle zone ⟨0, 0⟩)).registry = s.registry.grant zone :=
      s.registry_submit (submission (vehicle, zone))
    have hrequests := s.requests_submit vehicle zone ⟨0, 0⟩
    have hd' : (s.after (.submit vehicle zone ⟨0, 0⟩)).registry.DistinctIds := by
      rw [hregistry]
      exact hd.grant zone
    rw [s.answer_perform_submit] at hserve
    rw [seed, List.length_cons]
    cases hc : s.registry.choose zone with
    | none =>
      have hfree : s.registry.free = [] := hd.choose_eq_none_iff.mp hc
      rw [Registry.grant_of_choose_eq_none hc] at hregistry
      obtain ⟨lines, hlines⟩ := ih hd' last
      rw [hregistry, hfree, List.length_nil, Nat.min_zero] at hlines
      rw [hc] at hserve
      rw [hfree, List.length_nil, Nat.min_zero]
      exact ⟨_, hserve.bind ((logs_say _ _).bind hlines)⟩
    | some h =>
      have hlen := Registry.length_free_setAvailable_false (Registry.mem_free_of_choose hc)
      have hone : (s.after (.submit vehicle zone ⟨0, 0⟩)).requests.length =
          s.requests.length + 1 := by
        rw [hrequests, hc]
        simp
      rw [Registry.grant_of_choose hc] at hregistry
      obtain ⟨lines, hlines⟩ := ih hd' (some s.requests.length)
      rw [hregistry, hone] at hlines
      rw [hc] at hserve
      rw [← hlen, Nat.add_min_add_right, lastSeeded_succ]
      exact ⟨_, hserve.bind ((logs_say _ _).bind hlines)⟩

/-! ### The visit -/

/-- The vehicle of an allocated request may park and leave. -/
lemma logs_visit {id : RequestId} {r : Request} (hb : s.Balanced) (hr : s.request? id = some r)
    (hstage : r.stage = .allocated) :
    ∃ lines, Logs (visit s id) (s.run [.occupy id, .release id]) lines := by
  obtain ⟨hoccupy, hrelease⟩ := hb.answer_visit hr hstage
  exact ⟨_, (logs_serveOk hoccupy).bind ((logs_serveOk hrelease).bind
    ((logs_say _ _).bind (logs_pure _)))⟩

/-- The last vehicle that got a slot leaves, if there is one. -/
lemma logs_lastVisit {subs : List Submission} {slots : List Handle} (hs : s.Granted subs slots) :
    ∃ lines, Logs
      (match lastSeeded none 0 slots.length with
        | some id => visit s id
        | none => pure s)
      (s.run (Facility.lastVisit slots.length)) lines := by
  cases hlength : slots.length with
  | zero => exact ⟨_, logs_pure s⟩
  | succ last =>
    obtain ⟨m, h, -, -, hlast⟩ := hs.exists_of_lt (i := last) (by omega)
    have hid : lastSeeded none 0 (last + 1) = some last := congrArg some (Nat.zero_add last)
    rw [hid]
    exact logs_visit hs.balanced hlast rfl

/-! ### The opening -/

/-- The layout after which the garage is opened. -/
def layout (file : Option LayoutFile) : Except LoadError Layout :=
  file.elim (.ok .demo) LayoutFile.layout

lemma logs_chooseLayout {file : Option LayoutFile} {l : Layout} (h : layout file = .ok l) :
    ∃ lines, Logs (chooseLayout file) l lines := by
  cases file with
  | none =>
    obtain rfl := Except.ok.inj h
    exact ⟨_, (logs_say _ _).bind (logs_pure _)⟩
  | some file =>
    have hlayout : file.layout = .ok l := h
    rw [chooseLayout, hlayout]
    exact ⟨_, (logs_log _).bind ((logs_say _ _).bind (logs_pure _))⟩

lemma logs_opened {l : Layout} {zones : List Zone} (h : l.build = .ok zones) :
    ∃ lines, Logs (opened l) (Facility.ofZones zones) lines := by
  rw [opened, h]
  exact ⟨_, (logs_log _).bind ((logs_say _ _).bind (logs_pure _))⟩

/-- The garage that is opened after a layout. -/
structure Opens (l : Layout) (s : Facility) : Prop where
  distinctIds : s.registry.DistinctIds
  balanced : s.Balanced
  requests : s.requests = []
  zones : s.registry.zones = l.zones.map (·.zone)
  totalSlots : s.registry.totalSlots = l.totalSlots

lemma opens {l : Layout} {zones : List Zone} (h : l.build = .ok zones) :
    Opens l (Facility.ofZones zones) := by
  have hfacility : l.facility = .ok (Facility.ofZones zones) := by
    rw [Layout.facility, h]
    rfl
  obtain ⟨hs, hd⟩ := Layout.reachable_and_distinctIds_of_facility hfacility
  obtain ⟨-, rfl⟩ := Layout.build_eq_ok_iff.mp h
  refine ⟨hd, hs.balanced, Facility.requests_ofZones _, Facility.zones_ofZones _, ?_⟩
  rw [Registry.totalSlots_eq_sum, Facility.zones_ofZones, List.map_map, Layout.totalSlots]
  exact congrArg List.sum (List.map_congr_left fun z _ => z.capacity_zone)

/-! ### The garage in the end -/

/-- What the vehicles of the demonstration ask for. -/
def submissions : List Submission := vehicles.map submission

/-- What is done in a garage of which `count` vehicles get a slot. -/
def operations (count : Nat) : List Operation :=
  submissions.map (·.operation) ++ Facility.lastVisit count

/-- What the demonstration comes to with a layout.  `s₀` is the garage before the vehicles come,
`s` is the garage in the end, and `slots` are the slots that are given away meanwhile. -/
structure Outcome (l : Layout) (s₀ s : Facility) (slots : List Handle) : Prop where
  /-- Three vehicles get slots, or as many as there are slots. -/
  length_slots : slots.length = min 3 l.totalSlots
  /-- No slot is given away twice. -/
  nodup : slots.Nodup
  /-- The vehicles that come first are told ids from zero on, the others that there is no slot. -/
  answer_eq : ∀ i m, submissions[i]? = some m →
    (s₀.answers (submissions.map (·.operation)))[i]? =
      some (if i < l.totalSlots then .ok (.request i) else .error (.noSlot m.zone))
  length_requests : s.requests.length = slots.length
  /-- All vehicles but the last one that got a slot still have theirs. -/
  allocated : ∀ i m h, submissions[i]? = some m → slots[i]? = some h → i + 1 < slots.length →
    s.request? i = some ⟨i, m.vehicle, m.zone, m.now, .allocated, some h⟩ ∧
      ∃ p, s.registry.slot? h = some p ∧ p.available = false
  /-- The last vehicle that got a slot has left, and the slot is free again. -/
  released : ∀ i m h, submissions[i]? = some m → slots[i]? = some h → i + 1 = slots.length →
    s.request? i = some ⟨i, m.vehicle, m.zone, m.now, .released, none⟩ ∧
      ∃ p, s.registry.slot? h = some p ∧ p.available = true
  /-- A vehicle gets a slot in the zone that it asks for just if there is such a zone and a slot in
  it is free when it comes. -/
  home_iff : ∀ i m h, submissions[i]? = some m → slots[i]? = some h →
    (l.zones[h.zone]?.map (·.id) = some m.zone ↔
      ∃ z ∈ (s₀.run ((submissions.take i).map (·.operation))).registry.zones,
        z.id = m.zone ∧ ∃ p ∈ z.slots, p.available = true)
  /-- The summary lists the zones of the layout in order. -/
  zones : s.summary.zones.map (fun e => (e.zone, e.capacity)) =
    l.zones.map fun z => (z.id, z.totalSlots)
  totalSlots : s.summary.totalSlots = l.totalSlots
  /-- Only the last vehicle has given its slot up. -/
  occupiedSlots : s.summary.occupiedSlots = slots.length - 1
  activeRequests : s.summary.activeRequests = slots.length - 1
  size_history : s.history.size = slots.length - 1

/-- The operations bring in no zone. -/
lemma addsFree_operations (count : Nat) :
    (∀ op ∈ operations count, op.AddsFree) ∧ (operations count).filterMap (·.zone?) = [] := by
  cases count <;>
    simp [operations, submissions, vehicles, submission, Submission.operation,
      Facility.lastVisit, Operation.AddsFree, Operation.zone?]

namespace Opens

variable {l : Layout}

/-- As there are no requests yet, all slots are free. -/
lemma length_free (hs : Opens l s) : s.registry.free.length = l.totalSlots := by
  have htaken := hs.balanced.length_taken
  rw [hs.requests, List.countP_nil] at htaken
  rw [← hs.totalSlots, ← s.registry.length_free_add_length_taken, htaken, Nat.add_zero]

lemma length_grants (hs : Opens l s) :
    (s.registry.grants (submissions.map (·.zone))).length = min 3 l.totalSlots := by
  rw [hs.distinctIds.length_grants, hs.length_free]
  rfl

lemma granted (hs : Opens l s) : (s.run (submissions.map (·.operation))).Granted submissions
    (s.registry.grants (submissions.map (·.zone))) :=
  Facility.granted_run_submit hs.balanced hs.distinctIds hs.requests submissions

lemma outcome (hs : Opens l s) :
    Outcome l s (s.run (operations (min 3 l.totalSlots)))
      (s.registry.grants (submissions.map (·.zone))) := by
  obtain ⟨haddsFree, hzone⟩ := addsFree_operations (min 3 l.totalSlots)
  have hgranted := hs.granted
  have hlength := hs.length_grants
  have hplan := Facility.zones_plan_run s (operations (min 3 l.totalSlots))
  rw [hzone, List.map_nil, List.append_nil] at hplan
  have hb := hs.balanced.run haddsFree
  have hrun : s.run (operations (min 3 l.totalSlots)) =
      (s.run (submissions.map (·.operation))).run
        (Facility.lastVisit (s.registry.grants (submissions.map (·.zone))).length) := by
    rw [operations, Facility.run_append, hlength]
  have hholding := hgranted.countP_lastVisit (P := (·.stage.holdsSlot))
    (fun r hr => by rw [hr]; rfl) (fun r => rfl)
  rw [← hrun] at hholding
  constructor
  case length_slots => exact hlength
  case nodup => exact hgranted.nodup
  case answer_eq =>
    intro i m hm
    rw [Facility.getElem?_answers_submit hs.distinctIds hm, hs.length_free, hs.requests,
      List.length_nil, Nat.zero_add]
  case length_requests =>
    rw [hrun]
    exact hgranted.length_lastVisit
  case allocated =>
    intro i m h hm hh hlt
    have hne : i + 1 ≠ (s.registry.grants (submissions.map (·.zone))).length := Nat.ne_of_lt hlt
    obtain ⟨p, hp, hfree⟩ := hgranted.slot?_lastVisit hh
    rw [hrun, hgranted.request?_lastVisit hm hh, if_neg hne]
    rw [decide_eq_false hne] at hfree
    exact ⟨rfl, p, hp, hfree⟩
  case released =>
    intro i m h hm hh hlast
    obtain ⟨p, hp, hfree⟩ := hgranted.slot?_lastVisit hh
    rw [hrun, hgranted.request?_lastVisit hm hh, if_pos hlast]
    rw [decide_eq_true hlast] at hfree
    exact ⟨rfl, p, hp, hfree⟩
  case home_iff =>
    intro i m h hm hh
    rw [← Facility.home_iff_of_grants hs.distinctIds hm hh, hs.zones, List.getElem?_map,
      Option.map_map]
    rfl
  case zones =>
    rw [Facility.zones_summary, hplan, Registry.plan, hs.zones, List.map_map, List.map_map]
    exact List.map_congr_left fun z _ =>
      Prod.ext rfl (z.zone.capacity_plan.trans z.capacity_zone)
  case totalSlots =>
    rw [Facility.totalSlots_summary, ← Registry.totalSlots_plan, Registry.totalSlots_eq_sum, hplan,
      ← Registry.totalSlots_eq_sum, Registry.totalSlots_plan, hs.totalSlots]
  case occupiedSlots =>
    rw [Facility.occupiedSlots_summary, hb.length_taken, hholding]
  case activeRequests =>
    rw [hrun]
    exact hgranted.countP_lastVisit (fun r hr => by simp [Request.isActive, hr]) (fun r => rfl)
  case size_history =>
    rw [hb.size_history, hholding]

end Opens

/-! ### The whole demonstration -/

/-- The demonstration up to the report in the end.  The value is the garage that is reported on. -/
def served (file : Option LayoutFile) : Logged Facility := do
  say .info "Starting parking-demo..."
  let s ← opened (← chooseLayout file)
  let (s, last) ← seed s none vehicles
  match last with
  | some id => visit s id
  | none => pure s

lemma run_eq (file : Option LayoutFile) :
    run file = served file >>= fun s => log s.summary.lines := by
  rw [run, served]
  simp only [bind_assoc]
  -- Only the end is put together in another way.
  refine bind_congr fun _ => bind_congr fun _ => bind_congr fun _ => bind_congr fun seeded => ?_
  obtain ⟨s, last⟩ := seeded
  cases last <;> rfl

lemma logs_served {file : Option LayoutFile} {l : Layout} {zones : List Zone}
    (hfile : layout file = .ok l) (hbuild : l.build = .ok zones) :
    ∃ lines, Logs (served file)
      ((Facility.ofZones zones).run (operations (min 3 l.totalSlots))) lines := by
  have hs := opens hbuild
  obtain ⟨lines₁, hlayout⟩ := logs_chooseLayout hfile
  obtain ⟨lines₂, hopened⟩ := logs_opened hbuild
  obtain ⟨lines₃, hseed⟩ := logs_seed hs.distinctIds none vehicles
  obtain ⟨lines₄, hvisit⟩ := logs_lastVisit hs.granted
  rw [hs.requests, hs.length_free] at hseed
  rw [hs.length_grants, ← Facility.run_append] at hvisit
  exact ⟨_, (logs_say _ _).bind (hlayout.bind (hopened.bind (hseed.bind hvisit)))⟩

end Demo

/-- **The demonstration always completes.**  With every layout that can be built, vehicles get slots
as long as there are any, the last one that got one parks and leaves, and the occupancy of the
garage is reported as it is then. -/
theorem demonstrate_completes {file : Option LayoutFile} {l : Layout} {zones : List Zone}
    (hfile : Demo.layout file = .ok l) (hbuild : l.build = .ok zones) :
    let s := (Facility.ofZones zones).run (Demo.operations (min 3 l.totalSlots))
    (demonstrate file).result = .ok () ∧
      (∃ lines, Demo.Logs (Demo.served file) s lines ∧
        (demonstrate file).lines = lines ++ s.summary.lines) ∧
      ∃ slots, Demo.Outcome l (Facility.ofZones zones) s slots := by
  intro s
  obtain ⟨lines, hserved⟩ := Demo.logs_served hfile hbuild
  have hreport : demonstrate file = ⟨lines ++ s.summary.lines, .ok ()⟩ := by
    rw [demonstrate, Demo.run_eq, hserved.bind (Demo.logs_log _) []]
    rfl
  rw [hreport]
  exact ⟨rfl, ⟨lines, hserved, rfl⟩, _, (Demo.opens hbuild).outcome⟩

/-- The built-in layout has slots for all three vehicles. -/
theorem demonstrate_completes_demo :
    let zones := Layout.demo.zones.map (·.zone)
    let s := (Facility.ofZones zones).run (Demo.operations 3)
    (demonstrate none).result = .ok () ∧
      (∃ lines, Demo.Logs (Demo.served none) s lines ∧
        (demonstrate none).lines = lines ++ s.summary.lines) ∧
      (∃ slots, Demo.Outcome .demo (Facility.ofZones zones) s slots) ∧
      s.summary = ⟨[⟨1, 7, 2⟩, ⟨2, 6, 0⟩], 2⟩ := by
  intro zones s
  have hbuild : Layout.demo.build = .ok zones := by decide
  have hfile : Demo.layout none = .ok .demo := rfl
  obtain ⟨hresult, hlines, houtcome⟩ := demonstrate_completes hfile hbuild
  exact ⟨hresult, hlines, houtcome, by decide⟩

end Garage
