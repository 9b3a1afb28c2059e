import SovdDemo.Cda.RecentPast
import SovdDemo.Demo.Ecu

/-!
# The demo as a whole

The stub CDA and the ECU, with the connections between them. The simulator of the ECU goes on
between and during the calls and polls of the stub CDA; requests and replies may be lost or late,
and connecting, sending and receiving may fail. Every call and every round of the poller has a
connection of its own.

## Main definitions

- `Attempt` — a call or a round of the poller, and what happens to it on the way
- `demo` — the two sides together
- `Attempt.answered` — an attempt in which nothing is lost or late

## Main results

- `refinesStubCda`, `refinesEcu` — the runs of the two sides
- `exists_served_of_outcome` — behind a reply that is received there is a request that was served
- `payload_outcome_of_prompt` — with prompt replies, a request receives the reply to it
-/

namespace SovdDemo.Demo

open Foundations Uds DtcSimulator Cda

/-- A call of an endpoint or a round of the poller, and what happens to it on the way. -/
structure Attempt where
  connect : Option PyException
  close : Option PyException
  /-- the fates of its requests, in their order -/
  fates : List (Fate Operation PyException)
  activity : Activity

/-- Either side at work. -/
inductive Event
  | simulate (op : Operation)
  | attempt (a : Attempt)

structure State where
  sim : DtcSimulator
  world : World

variable (F : Framework) (env : PyEnv) (catalog : Catalog)

namespace Attempt

variable (a : Attempt)

/-- The client can be created. -/
def connects (comp : Component) : Bool :=
  match (⟨a.connect, [], [], a.close⟩ : Link).connects env comp.doip with
  | .ok _ => true
  | .error _ => false

/-- The requests that are sent. A connection that does not come about leaves none. -/
def requests : List (List UInt8) :=
  match a.activity with
  | .poll _ =>
    match catalog.components.get pollComponent with
    | some comp => if a.connects env comp then polls.map Poll.request else []
    | none => []
  | .call componentId call =>
    match catalog.components.get componentId, call.number with
    | some comp, some n => if a.connects env comp then [call.request n] else []
    | _, _ => []

/-- The requests with their fates; a request without one is lost. -/
def transmissions : List (List UInt8 × Fate Operation PyException) :=
  (a.requests env catalog).zip a.fates

end Attempt

/-- What the client receives over the line. -/
def receivedOf : Except PyException (Option (List UInt8)) → Received
  | .ok payload => .reply payload
  | .error e => .raises e

namespace Attempt

variable (a : Attempt) (sim : DtcSimulator)

def line : List (Except PyException (Option (List UInt8))) × Line DtcSimulator (List UInt8) :=
  (⟨sim, []⟩ : Line DtcSimulator (List UInt8)).transmitAll (ecu F) (a.transmissions env catalog)

/-- What the DoIP client does in the attempt, when the ECU is in the state `sim`. -/
def link : Link where
  connect := a.connect
  sends := (a.transmissions env catalog).map fun x => x.2.send
  inbox := (a.line F env catalog sim).1.map receivedOf
  close := a.close

end Attempt

/-- What an event is to the ECU. -/
def Event.ecuEvents : Event → List (ServerEvent Operation (List UInt8))
  | .simulate op => [.act op]
  | .attempt a => eventsOf (a.transmissions env catalog)

/-- What an event is to the stub CDA. -/
def Event.cdaEvents (c : State) : Event → List Cda.Event
  | .simulate _ => []
  | .attempt a => [⟨a.link F env catalog c.sim, a.activity⟩]

/-- The two sides together. -/
def demo : System State Event where
  init c := c.sim = DtcSimulator.construct.init ∧ (stubCda env catalog).init c.world
  enabled _ _ := True
  step
    | c, .simulate op => { c with sim := c.sim.apply op }
    | c, .attempt a => {
        sim := (a.line F env catalog c.sim).2.server
        world := (stubCda env catalog).step c.world ⟨a.link F env catalog c.sim, a.activity⟩ }

instance (c : State) (e : Event) : Decidable ((demo F env catalog).enabled c e) :=
  inferInstanceAs (Decidable True)

/-- Both sides when they have just been started. -/
def State.start : State := ⟨DtcSimulator.construct.init, .receiving []⟩

/-- A request that is answered at once. -/
def atOnce : Fate Operation PyException := ⟨[], none, true, true, .next⟩

/-- A round of the poller, or a call, that is answered at once. -/
def Attempt.answered (activity : Activity) : Attempt :=
  ⟨none, none, List.replicate 4 atOnce, activity⟩

/-- The stub CDA runs on the connections it is given. -/
theorem refinesStubCda : RefinementMapping (demo F env catalog) (stubCda env catalog) State.world
    (fun c e => e.cdaEvents F env catalog c) where
  init h := h.2
  step := by
    rintro c (op | a) - -
    · exact .nil _
    · exact .single trivial

/-- The ECU serves the requests that reach it. -/
theorem refinesEcu : RefinementMapping (demo F env catalog) (ecuSystem F) State.sim
    (fun _ e => e.ecuEvents env catalog) where
  init h := h.1
  step := by
    rintro c (op | a) - -
    · exact .single trivial
    · have hrun := (ecu F).run_foldl (fun sim => sim = DtcSimulator.construct.init) c.sim
        (eventsOf (a.transmissions env catalog))
      rw [← Line.server_transmitAll (⟨c.sim, []⟩ : Line DtcSimulator (List UInt8))] at hrun
      exact hrun

theorem start_init : (demo F env catalog).init .start := ⟨rfl, rfl, rfl, rfl, rfl⟩

/-- What the ECU serves in a run, event by event. -/
theorem served_of_run {c₀ c : State} {es : List Event} (hinit : (demo F env catalog).init c₀)
    (hr : (demo F env catalog).Run c₀ es c) :
    (ecu F).served c₀.sim
        ((demo F env catalog).outputs (fun _ e => e.ecuEvents env catalog) c₀ es) =
      (demo F env catalog).outputs
        (fun c e => (ecu F).served c.sim (e.ecuEvents env catalog)) c₀ es := by
  have hserved : ∀ sim es, (ecu F).served sim es =
      (ecuSystem F).outputs (fun sim e => (ecu F).served sim [e]) sim es :=
    (ecu F).served_eq_outputs _
  rw [hserved, (refinesEcu F env catalog).outputs_outputs _ (.init hinit) hr]
  simp only [← hserved]

/-! What the stub CDA receives -/

section Received

variable {F}

/-- The sends and receives of a list of requests that are sent over a line. -/
def sendsOf (ps : List Poll) (fates : List (Fate Operation PyException)) :
    List (Option PyException) :=
  ((ps.map Poll.request).zip fates).map fun x => x.2.send

def inboxOf (line : Line DtcSimulator (List UInt8)) (ps : List Poll)
    (fates : List (Fate Operation PyException)) : List Received :=
  (line.transmitAll (ecu F) ((ps.map Poll.request).zip fates)).1.map receivedOf

/-- The first request takes what is received for it, the others what is left. -/
theorem exists_outcomes_cons (line : Line DtcSimulator (List UInt8)) (poll : Poll) (ps : List Poll)
    (fate : Fate Operation PyException) (fates : List (Fate Operation PyException)) :
    ∃ x, outcomes (poll :: ps) (sendsOf (poll :: ps) (fate :: fates))
        (inboxOf (F := F) line (poll :: ps) (fate :: fates)) =
      (poll, x) :: outcomes ps (sendsOf ps fates)
        (inboxOf (F := F) (line.transmit (ecu F) poll.request fate).2 ps fates) ∧
      x.payload = (delivered (line.transmit (ecu F) poll.request fate).1).head? := by
  have hinbox : inboxOf (F := F) line (poll :: ps) (fate :: fates) =
      (line.transmit (ecu F) poll.request fate).1.map receivedOf ++
        inboxOf (F := F) (line.transmit (ecu F) poll.request fate).2 ps fates :=
    List.map_append
  have hsends : sendsOf (poll :: ps) (fate :: fates) = fate.send :: sendsOf ps fates := rfl
  rw [hinbox, hsends, outcomes]
  cases hsend : fate.send with
  | some e =>
    have hnothing : (line.transmit (ecu F) poll.request fate).1 = [] := by
      rw [Line.transmit, hsend]
    rw [hnothing]
    exact ⟨.sendFailed e, rfl, rfl⟩
  | none =>
    obtain ⟨r, hr⟩ : ∃ r, (line.transmit (ecu F) poll.request fate).1 = [r] := by
      rw [Line.transmit, hsend]
      exact ⟨_, rfl⟩
    rw [hr]
    refine ⟨_, rfl, ?_⟩
    rcases r with e | _ | payload <;> rfl

/-- A request without a fate has no outcome. -/
theorem not_mem_outcomes_nil (ps : List Poll) {poll : Poll} {resp : List UInt8} :
    (poll, Exchange.reply resp) ∉ outcomes ps [] [] := by
  induction ps with
  | nil => exact List.not_mem_nil
  | cons p ps ih =>
    intro h
    rcases List.mem_cons.mp h with h | h
    · cases h
    · exact ih h

theorem payload_lookup_nil (ps : List Poll) (poll : Poll) :
    ((outcomes ps [] []).lookup poll).bind Exchange.payload = none := by
  refine Option.bind_eq_none_iff.mpr fun x hlookup => ?_
  cases hx : x.payload with
  | none => rfl
  | some resp =>
    obtain rfl := Exchange.payload_eq_some_iff.mp hx
    obtain ⟨before, after, hsplit, -⟩ := List.lookup_eq_some_iff.mp hlookup
    have hnot : (poll, Exchange.reply resp) ∉ outcomes ps [] [] := not_mem_outcomes_nil ps
    rw [hsplit] at hnot
    exact absurd (List.mem_append_right _ List.mem_cons_self) hnot

/-- A reply among the outcomes of a round has been delivered. -/
theorem mem_delivered_of_outcomes (ps : List Poll) (fates : List (Fate Operation PyException))
    (line : Line DtcSimulator (List UInt8)) {poll : Poll} {resp : List UInt8}
    (h : (poll, Exchange.reply resp) ∈
      outcomes ps (sendsOf ps fates) (inboxOf (F := F) line ps fates)) :
    resp ∈ delivered (line.transmitAll (ecu F) ((ps.map Poll.request).zip fates)).1 := by
  induction ps generalizing fates line with
  | nil => exact absurd h List.not_mem_nil
  | cons p ps ih =>
    cases fates with
    | nil => exact absurd h (not_mem_outcomes_nil (p :: ps))
    | cons fate fates =>
      obtain ⟨x, houtcomes, hx⟩ := exists_outcomes_cons (F := F) line p ps fate fates
      rw [houtcomes] at h
      show resp ∈ delivered ((line.transmit (ecu F) p.request fate).1 ++ _)
      rw [delivered_append]
      rcases List.mem_cons.mp h with h | h
      · rw [← (Prod.mk.inj h).2] at hx
        exact List.mem_append_left _ (List.mem_of_head? hx.symm)
      · exact List.mem_append_right _ (ih _ _ h)

/-- With prompt replies, a request among those of a round receives the reply to it, if this gets
back. -/
theorem payload_lookup_of_prompt {poll : Poll} {ps : List Poll} (hps : ps.Nodup)
    (hother : ∀ q ∈ ps, q.request = poll.request → q = poll)
    (fates : List (Fate Operation PyException)) (hprompt : ∀ fate ∈ fates, fate.Prompt)
    (sim : DtcSimulator) :
    (((outcomes ps (sendsOf ps fates) (inboxOf (F := F) ⟨sim, []⟩ ps fates)).lookup poll).bind
        Exchange.payload).toList =
      ((ecu F).returned sim ((ps.map Poll.request).zip fates)).filterMap fun x =>
        if x.1 = poll.request then (ecuServe F x.2 x.1).1 else none := by
  induction ps generalizing fates sim with
  | nil => rfl
  | cons p ps ih =>
    obtain ⟨hnew, hps⟩ := List.nodup_cons.mp hps
    obtain ⟨hfirst, hlater⟩ := List.forall_mem_cons.mp hother
    cases fates with
    | nil => exact congrArg Option.toList (payload_lookup_nil (p :: ps) poll)
    | cons fate fates =>
      obtain ⟨hp, hprompt⟩ := List.forall_mem_cons.mp hprompt
      obtain ⟨hline, hown⟩ := Line.transmit_of_prompt (V := ecu F) hp sim p.request
      obtain ⟨x, houtcomes, hx⟩ := exists_outcomes_cons (F := F) ⟨sim, []⟩ p ps fate fates
      have hcons : (ecu F).returned sim (((p :: ps).map Poll.request).zip (fate :: fates)) =
          (ecu F).returned sim [(p.request, fate)] ++
            (ecu F).returned ((fate.events p.request).foldl (ecu F).step sim)
              ((ps.map Poll.request).zip fates) := by
        rw [List.map_cons, List.zip_cons_cons, Server.returned, Server.returned, Server.returned,
          List.append_nil]
      rw [houtcomes, hline, hcons, List.filterMap_append]
      by_cases hpoll : poll = p
      · subst hpoll
        -- no later request is the same
        have hlast : poll.request ∉ ((ps.map Poll.request).zip fates).map Prod.fst := by
          intro hmem
          obtain ⟨⟨_, _⟩, hzip, rfl⟩ := List.mem_map.mp hmem
          obtain ⟨q, hq, hsame⟩ := List.mem_map.mp (List.of_mem_zip hzip).1
          exact hnew (hlater q hq hsame ▸ hq)
        rw [filterMap_returned_eq_nil hlast fun x => (ecuServe F x.2 x.1).1, List.append_nil,
          List.lookup_cons_self]
        show x.payload.toList = _
        rw [hx, hown, replies_events, Server.returned, Server.returned, List.append_nil,
          served_events]
        split
        · split
          · cases hr : (ecuServe F (fate.before.foldl DtcSimulator.apply sim) poll.request).1 <;>
              simp [ecu, hr]
          · rfl
        · rfl
      · have hbeq : (poll == p) = false := beq_eq_false_iff_ne.mpr hpoll
        have hfirst : poll.request ∉ [(p.request, fate)].map Prod.fst := fun hmem =>
          hpoll (hfirst (List.mem_singleton.mp hmem).symm).symm
        rw [filterMap_returned_eq_nil hfirst fun x => (ecuServe F x.2 x.1).1, List.nil_append,
          List.lookup_cons, hbeq]
        exact ih hps hlater fates hprompt _

/-- A round of the poller, as the requests it sends. -/
theorem transmissions_of_poll {env : PyEnv} {catalog : Catalog} {a : Attempt} {ts : Int}
    (ha : a.activity = .poll ts) {comp : Component}
    (hc : catalog.components.get pollComponent = some comp) (hconnects : a.connects env comp) :
    a.transmissions env catalog = (polls.map Poll.request).zip a.fates := by
  rw [Attempt.transmissions, Attempt.requests, ha, hc]
  dsimp only
  rw [if_pos hconnects]

variable (F) in
/-- A round with a connection has the outcomes of its requests, and one without sends nothing. -/
theorem outcome_cases (env : PyEnv) {catalog : Catalog} {a : Attempt} {ts : Int}
    (ha : a.activity = .poll ts) {comp : Component}
    (hc : catalog.components.get pollComponent = some comp) (sim : DtcSimulator) (poll : Poll) :
    a.transmissions env catalog = (polls.map Poll.request).zip a.fates ∧
        (a.link F env catalog sim).outcome env comp poll = ((outcomes polls
          (sendsOf polls a.fates) (inboxOf (F := F) ⟨sim, []⟩ polls a.fates)).lookup poll).getD
            .noReply ∨
      a.transmissions env catalog = [] ∧
        ∃ e, (a.link F env catalog sim).outcome env comp poll = .notConnected e := by
  have hsame : (⟨a.connect, [], [], a.close⟩ : Link).connects env comp.doip =
    (a.link F env catalog sim).connects env comp.doip := rfl
  rw [Link.outcome]
  cases hl : (a.link F env catalog sim).connects env comp.doip with
  | error e =>
    refine .inr ⟨?_, e, rfl⟩
    have hconnects : a.connects env comp = false := by
      rw [Attempt.connects, hsame, hl]
    rw [Attempt.transmissions, Attempt.requests, ha, hc]
    dsimp only
    rw [hconnects]
    rfl
  | ok _ =>
    have hconnects : a.connects env comp = true := by
      rw [Attempt.connects, hsame, hl]
    have htransmissions := transmissions_of_poll ha hc hconnects
    refine .inl ⟨htransmissions, ?_⟩
    dsimp only [Attempt.link, Attempt.line]
    rw [htransmissions]
    rfl

/-- A reply that a round receives is among the outcomes of its requests. -/
theorem mem_outcomes_of_outcome {env : PyEnv} {catalog : Catalog} {a : Attempt} {ts : Int}
    (ha : a.activity = .poll ts) {comp : Component}
    (hc : catalog.components.get pollComponent = some comp) {sim : DtcSimulator} {poll : Poll}
    {resp : List UInt8}
    (h : (a.link F env catalog sim).outcome env comp poll = .reply resp) :
    a.transmissions env catalog = (polls.map Poll.request).zip a.fates ∧
      (poll, Exchange.reply resp) ∈
        outcomes polls (sendsOf polls a.fates) (inboxOf (F := F) ⟨sim, []⟩ polls a.fates) := by
  obtain ⟨htransmissions, houtcome⟩ | ⟨-, e, houtcome⟩ :=
    outcome_cases F env ha hc sim poll
  · refine ⟨htransmissions, ?_⟩
    rw [houtcome] at h
    cases hlookup : (outcomes polls (sendsOf polls a.fates)
        (inboxOf (F := F) ⟨sim, []⟩ polls a.fates)).lookup poll with
    | none =>
      rw [hlookup] at h
      cases h
    | some x =>
      rw [hlookup] at h
      obtain rfl : x = .reply resp := h
      obtain ⟨before, after, hsplit, -⟩ := List.lookup_eq_some_iff.mp hlookup
      rw [hsplit]
      exact List.mem_append_right _ List.mem_cons_self
  · rw [houtcome] at h
    cases h

/-- Behind every reply that a round receives there is a request of it that was served. -/
theorem exists_served_of_outcome {env : PyEnv} {catalog : Catalog} {a : Attempt} {ts : Int}
    (ha : a.activity = .poll ts) {comp : Component}
    (hc : catalog.components.get pollComponent = some comp) {sim : DtcSimulator} {poll : Poll}
    {resp : List UInt8}
    (h : (a.link F env catalog sim).outcome env comp poll = .reply resp) :
    ∃ poll' ∈ polls, ∃ sim', (poll'.request, sim') ∈
        (ecu F).served sim (eventsOf (a.transmissions env catalog)) ∧
      (ecuServe F sim' poll'.request).1 = some resp := by
  obtain ⟨htransmissions, hmem⟩ := mem_outcomes_of_outcome ha hc h
  obtain ⟨⟨request, sim'⟩, hserved, hgiven⟩ :=
    Line.exists_served_of_delivered (mem_delivered_of_outcomes polls a.fates ⟨sim, []⟩ hmem)
  obtain ⟨⟨_, fate⟩, hzip, rfl⟩ := List.mem_map.mp (mem_of_mem_served hserved)
  obtain ⟨poll', hpoll', rfl⟩ := List.mem_map.mp (List.of_mem_zip hzip).1
  rw [htransmissions]
  exact ⟨poll', hpoll', sim', hserved, hgiven⟩

/-- The requests of a round differ from each other. -/
theorem request_injOn_polls : ∀ p ∈ polls, ∀ q ∈ polls, q.request = p.request → q = p := by
  decide

/-- With prompt replies, a request of a round receives the reply to it, if this gets back. -/
theorem payload_outcome_of_prompt {env : PyEnv} {catalog : Catalog} {a : Attempt} {ts : Int}
    (ha : a.activity = .poll ts) (hprompt : ∀ fate ∈ a.fates, fate.Prompt) {comp : Component}
    (hc : catalog.components.get pollComponent = some comp) (sim : DtcSimulator) {poll : Poll}
    (hp : poll ∈ polls) :
    ((a.link F env catalog sim).outcome env comp poll).payload.toList =
      ((ecu F).returned sim (a.transmissions env catalog)).filterMap fun x =>
        if x.1 = poll.request then (ecuServe F x.2 x.1).1 else none := by
  obtain ⟨htransmissions, houtcome⟩ | ⟨hnothing, e, houtcome⟩ :=
    outcome_cases F env ha hc sim poll
  · rw [htransmissions, houtcome, ← payload_lookup_of_prompt (by decide)
      (request_injOn_polls poll hp) a.fates hprompt]
    cases (outcomes polls (sendsOf polls a.fates)
      (inboxOf (F := F) ⟨sim, []⟩ polls a.fates)).lookup poll <;> rfl
  · rw [hnothing, houtcome]
    rfl

end Received

end SovdDemo.Demo
