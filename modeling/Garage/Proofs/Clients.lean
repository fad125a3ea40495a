/-
# Clients of the shared service

Several clients share one facility.  The service takes their calls one at a time, so that what
happens is a sequence of turns: in a turn some client makes its next call and hears the answer.
Every client has an agenda of sessions.  In a session it asks for a slot; when it has got one, it
either cancels the request, or its vehicle parks and leaves later.  Nobody takes allocations back.

In between, slots pass from client to client, and the records of all clients lie mixed in one
history.  Still the clients do not get in each other's way (`clients_undisturbed`).  What carries
the proof is `Facility.Engaged`: the requests that hold a slot are just those that some client is
busy with, one client each, and every one of them is in the stage that its client takes it to be in.
-/
import Garage.Proofs.Outcomes
import Garage.Proofs.Rollback

namespace Garage

/-- What a client is about to do with a request that it has. -/
inductive Intent
  | cancel
  | park
  | leave
deriving DecidableEq, Repr

namespace Intent

/-- The stage in which the client takes its request to be. -/
def source : Intent → Stage
  | cancel | park => .allocated
  | leave => .occupied

/-- The stage to which the client brings its request. -/
def target : Intent → Stage
  | cancel => .cancelled
  | park => .occupied
  | leave => .released

/-- What the client does afterwards, unless its session is over. -/
def next? : Intent → Option Intent
  | park => some leave
  | cancel | leave => none

/-- The call that the client makes. -/
def call (id : RequestId) : Intent → Operation
  | cancel => .cancel id
  | park => .occupy id
  | leave => .release id

@[simp] lemma subject?_call (i : Intent) (id : RequestId) : (i.call id).subject? = some id := by
  cases i <;> rfl

lemma stage_effect_call {i : Intent} {r : Request} (hr : r.stage = i.source) (id : RequestId) :
    ((i.call id).effect r).stage = i.target := by
  cases i <;> simp [call, Operation.effect, hr, source, target, Stage.canBecome, Request.restore]

/-- After its last call the client leaves its request behind for good. -/
lemma isFinal_target {i : Intent} (hi : i.next? = none) : i.target.isFinal = true := by
  cases i with
  | cancel | leave => rfl
  | park => cases hi

lemma source_next {i j : Intent} (hi : i.next? = some j) : j.source = i.target := by
  cases i with
  | cancel | leave => cases hi
  | park =>
    obtain rfl := Option.some.inj hi
    rfl

lemma holdsSlot_source (i : Intent) : i.source.holdsSlot = true := by
  cases i <;> rfl

end Intent

/-- A request that a client is busy with. -/
structure Errand where
  request : RequestId
  intent : Intent
deriving DecidableEq, Repr

namespace Errand

def call (e : Errand) : Operation := e.intent.call e.request

/-- What the client is busy with after its call, unless its session is over. -/
def next? (e : Errand) : Option Errand := e.intent.next?.map (⟨e.request, ·⟩)

end Errand

/-- One visit of a vehicle. -/
structure Session where
  vehicle : String
  zone : ZoneId
  /-- Whether the vehicle parks.  Otherwise it cancels its request. -/
  parks : Bool
deriving DecidableEq, Repr

/-- What the client does first when it has got a slot. -/
def Session.intent (x : Session) : Intent := if x.parks then .park else .cancel

lemma Session.source_intent (x : Session) : x.intent.source = .allocated := by
  unfold intent
  split <;> rfl

/-- Somebody who uses the shared service. -/
structure Client where
  /-- The request that the client is busy with, if there is one. -/
  errand : Option Errand
  /-- The sessions that the client has not begun yet. -/
  agenda : List Session
deriving DecidableEq, Repr

namespace Client

/-- The next call of the client, if it is not done. -/
def call? (c : Client) (now : Instant) : Option Operation :=
  match c.errand, c.agenda with
  | some e, _ => some e.call
  | none, x :: _ => some (.submit x.vehicle x.zone now)
  | none, [] => none

/-- The client after it has heard the answer to its call.  A session in which there is no slot is
over; any other fault leaves the client where it is. -/
def hear : Client → Except RequestError Answer → Client
  | ⟨none, x :: rest⟩, .ok (.request id) => ⟨some ⟨id, x.intent⟩, rest⟩
  | ⟨none, _ :: rest⟩, _ => ⟨none, rest⟩
  | ⟨some e, rest⟩, .ok _ => ⟨e.next?, rest⟩
  | c, _ => c

/-- The client has nothing to do any more. -/
def IsDone (c : Client) : Prop := c.errand = none ∧ c.agenda = []

instance (c : Client) : Decidable c.IsDone :=
  inferInstanceAs (Decidable (c.errand = none ∧ c.agenda = []))

end Client

/-- Some client, told by its place, makes its next call at some time. -/
structure Turn where
  client : Nat
  now : Instant
deriving DecidableEq, Repr

/-- The shared facility with its clients. -/
structure Service where
  facility : Facility
  clients : List Client
deriving DecidableEq, Repr

namespace Service

/-- A new facility, and clients which have not begun yet. -/
def start (zones : List Zone) (agendas : List (List Session)) : Service :=
  ⟨.ofZones zones, agendas.map (⟨none, ·⟩)⟩

/-- What is called in a turn, and what is answered.  Nothing is called when the client is done. -/
def exchange? (w : Service) (t : Turn) : Option (Operation × Except RequestError Answer) := do
  let c ← w.clients[t.client]?
  let op ← c.call? t.now
  return (op, (w.facility.serve op).answer)

/-- The service after a turn. -/
def turn (w : Service) (t : Turn) : Service :=
  match w.exchange? t with
  | none => w
  | some (op, answer) =>
    ⟨(w.facility.serve op).state, w.clients.modify t.client (·.hear answer)⟩

/-- The service after a sequence of turns. -/
def run (w : Service) (turns : List Turn) : Service := turns.foldl turn w

/-- The number of sessions in which a slot was given and not yet given back. -/
def openSessions (w : Service) : Nat := w.clients.countP (·.errand.isSome)

/-- The requests that clients are busy with. -/
def errands (w : Service) : List Errand := w.clients.filterMap (·.errand)

end Service

/-! ### Requests that are in somebody's hands -/

namespace Facility

/-- The requests that hold a slot are in the hands of those who are busy with these errands, and
all others have come to their end. -/
structure Engaged (s : Facility) (errands : List Errand) : Prop where
  balanced : s.Balanced
  /-- No request is in two hands. -/
  nodup : (errands.map (·.request)).Nodup
  /-- A request is in the stage in which it is taken to be. -/
  stage : ∀ e ∈ errands, ∃ r, s.request? e.request = some r ∧ r.stage = e.intent.source
  /-- What is in nobody's hands is over. -/
  final : ∀ id r, s.request? id = some r → (∃ e ∈ errands, e.request = id) ∨ r.stage.isFinal = true

namespace Engaged

variable {s : Facility} {e : Errand} {es es' : List Errand}

lemma perm (hs : s.Engaged es) (hes : es.Perm es') : s.Engaged es' where
  balanced := hs.balanced
  nodup := (hes.map _).nodup_iff.mp hs.nodup
  stage e he := hs.stage e (hes.mem_iff.mpr he)
  final id r hr := by
    simp only [← hes.mem_iff]
    exact hs.final id r hr

/-- In the beginning there are no requests. -/
lemma ofZones {zones : List Zone} (hzones : ∀ z ∈ zones, z.AllFree) :
    (Facility.ofZones zones).Engaged [] where
  balanced := (reachable_ofZones hzones).balanced
  nodup := List.nodup_nil
  stage e he := by cases he
  final id r hr := by simp [request?, requests_ofZones] at hr

/-- A vehicle that finds no slot leaves everything as it is. -/
lemma submit_of_none (hs : s.Engaged es) {vehicle : String} {zone : ZoneId} {now : Instant}
    (hc : s.registry.choose zone = none) : (s.after (.submit vehicle zone now)).Engaged es := by
  have hrequest (id : RequestId) :
      (s.after (.submit vehicle zone now)).request? id = s.request? id := by
    rw [request?, requests_submit, hc, Option.toList_none, List.map_nil, List.append_nil, request?]
  refine ⟨hs.balanced.after trivial, hs.nodup, ?_, ?_⟩
  · intro e he
    rw [hrequest]
    exact hs.stage e he
  · intro id r hr
    rw [hrequest] at hr
    exact hs.final id r hr

/-- A vehicle that finds a slot has a new request in its hands. -/
lemma submit_of_some (hs : s.Engaged es) {vehicle : String} {zone : ZoneId} {now : Instant}
    {h : Handle} (hc : s.registry.choose zone = some h) {i : Intent} (hi : i.source = .allocated) :
    (s.after (.submit vehicle zone now)).Engaged (⟨s.requests.length, i⟩ :: es) := by
  have hlt {e : Errand} (he : e ∈ es) : e.request < s.requests.length := by
    obtain ⟨r, hr, -⟩ := hs.stage e he
    exact (List.getElem?_eq_some_iff.mp hr).1
  have hnew : (s.after (.submit vehicle zone now)).requests = s.requests ++
      [⟨s.requests.length, vehicle, zone, now, .allocated, some h⟩] := by
    rw [requests_submit, hc]
    rfl
  constructor
  case balanced => exact hs.balanced.after trivial
  case nodup =>
    rw [List.map_cons, List.nodup_cons]
    refine ⟨fun hmem => ?_, hs.nodup⟩
    obtain ⟨e, he, heq⟩ := List.mem_map.mp hmem
    exact absurd heq (Nat.ne_of_lt (hlt he))
  case stage =>
    rw [List.forall_mem_cons]
    refine ⟨⟨_, by rw [request?, hnew, List.getElem?_concat_length], hi.symm⟩, fun e he => ?_⟩
    rw [request?_submit _ _ _ (hlt he)]
    exact hs.stage e he
  case final =>
    intro id r hr
    by_cases hid : id < s.requests.length
    · rw [request?_submit _ _ _ hid] at hr
      rcases hs.final id r hr with ⟨e, he, heq⟩ | hfinal
      · exact Or.inl ⟨e, List.mem_cons_of_mem _ he, heq⟩
      · exact Or.inr hfinal
    · have hlen := (List.getElem?_eq_some_iff.mp hr).1
      rw [hnew, List.length_append, List.length_singleton] at hlen
      have heq : s.requests.length = id :=
        Nat.le_antisymm (Nat.le_of_not_lt hid) (Nat.le_of_lt_succ hlen)
      exact Or.inl ⟨_, List.mem_cons_self, heq⟩

/-- Who has a request in its hands is told that it is done. -/
lemma answer_call (hs : s.Engaged (e :: es)) : (s.perform e.call).answer = .ok .done := by
  obtain ⟨r, hr, hstage⟩ := hs.stage e List.mem_cons_self
  have hn : s.Numbered := hs.balanced.id_eq
  obtain ⟨id, i⟩ := e
  cases i with
  | cancel => simp [Errand.call, Intent.call, perform, hn.answer_cancel hr, hstage, Intent.source,
      Stage.onCancel, Except.map]
  | park => simp [Errand.call, Intent.call, perform, hn.answer_occupy hr, hstage, Intent.source,
      Stage.onOccupy, Except.map]
  | leave => simp [Errand.call, Intent.call, perform, hn.answer_release hr, hstage, Intent.source,
      Stage.onRelease, Except.map]

/-- The call changes no request but the one in the client's hands. -/
lemma call (hs : s.Engaged (e :: es)) : (s.after e.call).Engaged (e.next?.toList ++ es) := by
  have hsubject : e.call.subject? = some e.request := e.intent.subject?_call e.request
  have hb : (s.after e.call).Balanced :=
    hs.balanced.after (Operation.addsFree_of_subject? (Option.isSome_of_eq_some hsubject))
  have hnodup := hs.nodup
  rw [List.map_cons, List.nodup_cons] at hnodup
  have hown : ∃ r, (s.after e.call).request? e.request = some r ∧ r.stage = e.intent.target := by
    obtain ⟨r, hr, hstage⟩ := hs.stage e List.mem_cons_self
    refine ⟨e.call.effect r, ?_, Intent.stage_effect_call hstage e.request⟩
    rw [request?_after hsubject, if_pos rfl, hr, Option.map_some]
  have hother {id : RequestId} (hid : e.request ≠ id) :
      (s.after e.call).request? id = s.request? id := by
    rw [request?_after hsubject, if_neg hid]
  have hstage : ∀ e' ∈ es, ∃ r, (s.after e.call).request? e'.request = some r ∧
      r.stage = e'.intent.source := by
    intro e' he'
    have hne : e.request ≠ e'.request := fun heq => hnodup.1 (heq ▸ List.mem_map_of_mem he')
    rw [hother hne]
    exact hs.stage e' (List.mem_cons_of_mem _ he')
  have hfinal {id : RequestId} {r : Request} (hid : e.request ≠ id)
      (hr : (s.after e.call).request? id = some r) :
      (∃ e' ∈ es, e'.request = id) ∨ r.stage.isFinal = true := by
    rw [hother hid] at hr
    refine (hs.final id r hr).imp_left fun ⟨e', he', heq⟩ => ?_
    rcases List.mem_cons.mp he' with rfl | he'
    · exact absurd heq hid
    · exact ⟨e', he', heq⟩
  -- Either the client keeps its request in its hands or the request has come to its end.
  cases hnext : e.intent.next? with
  | none =>
    have hes : e.next?.toList ++ es = es := by simp [Errand.next?, hnext]
    rw [hes]
    refine ⟨hb, hnodup.2, hstage, fun id r hr => ?_⟩
    by_cases hid : e.request = id
    · subst hid
      obtain ⟨r', hr', htarget⟩ := hown
      obtain rfl := Option.some.inj (hr.symm.trans hr')
      right
      rw [htarget]
      exact Intent.isFinal_target hnext
    · exact hfinal hid hr
  | some j =>
    have hes : e.next?.toList ++ es = ⟨e.request, j⟩ :: es := by simp [Errand.next?, hnext]
    rw [hes]
    refine ⟨hb, hs.nodup, ?_, fun id r hr => ?_⟩
    · rw [List.forall_mem_cons]
      obtain ⟨r, hr, htarget⟩ := hown
      exact ⟨⟨r, hr, htarget.trans (Intent.source_next hnext).symm⟩, hstage⟩
    · by_cases hid : e.request = id
      · exact Or.inl ⟨_, List.mem_cons_self, hid⟩
      · exact (hfinal hid hr).imp_left fun ⟨e', he', heq⟩ =>
          ⟨e', List.mem_cons_of_mem _ he', heq⟩

/-- As many allocations are on record as requests are in somebody's hands. -/
lemma size_history (hs : s.Engaged es) : s.history.size = es.length := by
  have hperm : s.holders.Perm (es.map (·.request)) := by
    rw [List.perm_ext_iff_of_nodup s.holders_nodup hs.nodup]
    intro id
    rw [mem_holders, List.mem_map]
    constructor
    · rintro ⟨r, hr, hholds⟩
      rcases hs.final id r hr with he | hfinal
      · exact he
      · cases hstage : r.stage <;> simp [hstage, Stage.holdsSlot, Stage.isFinal] at hholds hfinal
    · rintro ⟨e, he, rfl⟩
      obtain ⟨r, hr, hstage⟩ := hs.stage e he
      exact ⟨r, hr, by rw [hstage]; exact e.intent.holdsSlot_source⟩
  rw [← hs.balanced.length_holders, hperm.length_eq, List.length_map]

end Engaged

end Facility

/-! ### Turns -/

namespace Service

variable {w : Service} {t : Turn} {c : Client} {op : Operation}
  {answer : Except RequestError Answer}

lemma exchange?_eq_some_iff : w.exchange? t = some (op, answer) ↔ ∃ c,
    w.clients[t.client]? = some c ∧ c.call? t.now = some op ∧
      (w.facility.perform op).answer = answer := by
  simp [exchange?, Option.bind_eq_some_iff, Facility.serve_answer]

/-- What one client changes in the requests that are in somebody's hands. -/
lemma errands_perm {i : Nat} (hc : w.clients[i]? = some c) : ∃ others,
    w.errands.Perm (c.errand.toList ++ others) ∧
    ∀ f : Client → Client, ((w.clients.modify i f).filterMap (·.errand)).Perm
      ((f c).errand.toList ++ others) := by
  obtain ⟨l₁, l₂, hclients, hmodify⟩ := exists_split hc
  have hperm (c : Client) : ((l₁ ++ c :: l₂).filterMap (·.errand)).Perm
      (c.errand.toList ++ (l₁.filterMap (·.errand) ++ l₂.filterMap (·.errand))) := by
    have hsplit : (l₁ ++ c :: l₂).filterMap (·.errand) =
        l₁.filterMap (·.errand) ++ (c.errand.toList ++ l₂.filterMap (·.errand)) := by
      rw [List.filterMap_append, List.filterMap_cons]
      cases c.errand <;> rfl
    rw [hsplit]
    exact List.perm_append_comm_assoc _ _ _
  refine ⟨l₁.filterMap (·.errand) ++ l₂.filterMap (·.errand), ?_, fun f => ?_⟩
  · rw [errands, hclients]
    exact hperm c
  · rw [hmodify]
    exact hperm (f c)

/-- The requests that hold a slot are in the hands of the clients. -/
def Settled (w : Service) : Prop := w.facility.Engaged w.errands

namespace Settled

lemma start {zones : List Zone} (hzones : ∀ z ∈ zones, z.AllFree)
    (agendas : List (List Session)) : (start zones agendas).Settled := by
  have hnone : (Service.start zones agendas).errands = [] := by
    simp [errands, Service.start]
  rw [Settled, hnone]
  exact Facility.Engaged.ofZones hzones

lemma turn (hw : w.Settled) (t : Turn) : (w.turn t).Settled := by
  cases hx : w.exchange? t with
  | none =>
    simp only [Service.turn, hx]
    exact hw
  | some x =>
    obtain ⟨op, answer⟩ := x
    have hturn : w.turn t = ⟨w.facility.after op, w.clients.modify t.client (·.hear answer)⟩ := by
      simp only [Service.turn, hx, Facility.serve_state]
    obtain ⟨⟨errand, agenda⟩, hc, hcall, rfl⟩ := exchange?_eq_some_iff.mp hx
    obtain ⟨others, hbefore, hafter⟩ := errands_perm hc
    have hs : w.facility.Engaged (errand.toList ++ others) := hw.perm hbefore
    rw [hturn]
    refine Facility.Engaged.perm ?_ (hafter _).symm
    -- The clients that wait keep what they have in their hands.
    cases errand with
    | some e =>
      obtain rfl := Option.some.inj hcall
      rw [hs.answer_call]
      exact hs.call
    | none =>
      cases agenda with
      | nil => cases hcall
      | cons x rest =>
        obtain rfl := Option.some.inj hcall
        rw [Facility.answer_perform_submit]
        cases hchoose : w.facility.registry.choose x.zone with
        | none => exact hs.submit_of_none hchoose
        | some h => exact hs.submit_of_some hchoose x.source_intent

lemma run (hw : w.Settled) (turns : List Turn) : (w.run turns).Settled := by
  induction turns generalizing w with
  | nil => exact hw
  | cons t turns ih => exact ih (hw.turn t)

/-- A call about a request succeeds: the request is in the hands of the client that calls. -/
lemma own_answer (hw : w.Settled) (hx : w.exchange? t = some (op, answer))
    (hop : op.subject?.isSome) : answer = .ok .done := by
  obtain ⟨⟨errand, agenda⟩, hc, hcall, rfl⟩ := exchange?_eq_some_iff.mp hx
  obtain ⟨others, hbefore, -⟩ := errands_perm hc
  cases errand with
  | some e =>
    obtain rfl := Option.some.inj hcall
    exact (hw.perm hbefore).answer_call
  | none =>
    cases agenda with
    | nil => cases hcall
    | cons x rest =>
      obtain rfl := Option.some.inj hcall
      cases hop

lemma size_history (hw : w.Settled) : w.facility.history.size = w.openSessions := by
  rw [Facility.Engaged.size_history hw, errands, List.length_filterMap_eq_countP, openSessions]

end Settled

/-- Nobody notices that there are others. -/
structure Undisturbed (w : Service) : Prop where
  /-- Who asks for a slot gets a new request, unless there is no slot. -/
  submit_answer : ∀ t vehicle zone now answer,
    w.exchange? t = some (.submit vehicle zone now, answer) →
    answer = .ok (.request w.facility.requests.length) ∨ answer = .error (.noSlot zone)
  /-- Who cancels, parks or leaves is told that it is done. -/
  own_answer : ∀ t op answer, w.exchange? t = some (op, answer) → op.subject?.isSome →
    answer = .ok .done
  /-- As many slots are taken as sessions are open. -/
  taken_eq : w.facility.registry.slots.countP (!·.available) = w.openSessions
  /-- So many allocations are on record, too. -/
  history_eq : w.facility.history.size = w.openSessions
  /-- When all clients are done, nothing is left of them but requests that are over. -/
  done : (∀ c ∈ w.clients, c.IsDone) →
    (∀ p ∈ w.facility.registry.slots, p.available = true) ∧ w.facility.history = .empty ∧
    ∀ r ∈ w.facility.requests, r.stage = .cancelled ∨ r.stage = .released

lemma Settled.undisturbed (hw : w.Settled) : w.Undisturbed := by
  have hb : w.facility.Balanced := hw.balanced
  have htaken : w.facility.registry.slots.countP (!·.available) = w.openSessions := by
    rw [← hb.size_taken, hw.size_history]
  constructor
  case submit_answer =>
    intro t vehicle zone now answer hx
    obtain ⟨c, -, -, rfl⟩ := exchange?_eq_some_iff.mp hx
    rw [Facility.answer_perform_submit]
    split
    · exact Or.inl rfl
    · exact Or.inr rfl
  case own_answer =>
    intro t op answer hx hop
    exact hw.own_answer hx hop
  case taken_eq => exact htaken
  case history_eq => exact hw.size_history
  case done =>
    intro hdone
    have hnone : w.errands = [] :=
      List.filterMap_eq_nil_iff.mpr fun c hc => (hdone c hc).1
    have hopen : w.openSessions = 0 := by
      rw [openSessions, ← List.length_filterMap_eq_countP]
      exact congrArg List.length hnone
    refine ⟨?_, ?_, ?_⟩
    · rw [hopen, List.countP_eq_zero] at htaken
      simpa using htaken
    · have hsize := hw.size_history
      rw [hopen, History.size, List.length_eq_zero_iff] at hsize
      exact congrArg History.mk hsize
    · intro r hr
      obtain ⟨id, hid⟩ := List.mem_iff_getElem?.mp hr
      rcases hw.final id r hid with ⟨e, he, -⟩ | hfinal
      · rw [hnone] at he
        cases he
      · cases hstage : r.stage <;> simp [hstage, Stage.isFinal] at hfinal ⊢

/-- **Clients do not disturb each other.**  Whatever clients do one after another in a garage that
was empty when they came, in whichever order they take their turns, each of them fares as if it were
alone, but for slots that are taken; and when all of them are done, the garage is empty again. -/
theorem clients_undisturbed {zones : List Zone} (hzones : ∀ z ∈ zones, z.AllFree)
    (agendas : List (List Session)) (turns : List Turn) :
    ((start zones agendas).run turns).Undisturbed :=
  ((Settled.start hzones agendas).run turns).undisturbed

/-- Three clients share two slots.  The third one comes in vain at first, then gets the slot that
the second one gives back, and parks there while the first one hands its own slot on to its next
vehicle. -/
theorem clients_undisturbed_threeClients :
    let w := start [Facility.twoSlots] [[⟨"A", 1, true⟩, ⟨"B", 1, false⟩], [⟨"C", 1, false⟩],
      [⟨"D", 9, true⟩, ⟨"E", 9, true⟩]]
    let turns : List Turn := [0, 1, 2, 0, 1, 2, 0, 0, 2, 0, 2].map (⟨·, ⟨0, 0⟩⟩)
    (w.run (turns.take 8)).Undisturbed ∧ (w.run turns).Undisturbed ∧
      (w.run (turns.take 2)).exchange? ⟨2, ⟨0, 0⟩⟩ =
        some (.submit "D" 9 ⟨0, 0⟩, .error (.noSlot 9)) ∧
      (w.run (turns.take 8)).facility.history.records.map (·.request) = [3, 2] ∧
      (∀ c ∈ (w.run turns).clients, c.IsDone) ∧
      (w.run turns).facility.requests.map (·.stage) =
        [.released, .cancelled, .released, .cancelled] := by
  intro w turns
  exact ⟨clients_undisturbed Facility.allFree_twoSlots _ _,
    clients_undisturbed Facility.allFree_twoSlots _ _, by decide, by decide, by decide, by decide⟩

end Service

end Garage
