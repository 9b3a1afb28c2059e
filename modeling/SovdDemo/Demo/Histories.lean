import SovdDemo.Cda.Dashboard
import SovdDemo.Demo.ClosedLoop

/-!
# The histories of the stub CDA and the ECU

A history of the poller is compared with what the ECU showed when it served the requests of the
polls. Requests that are lost leave gaps, and a late reply to one request may be received for
another one; a fault list is still told from the value of a sensor by its first byte, but the values
of two sensors are not told from each other.

## Main definitions

- `shown` — what the ECU shows when it serves a request of a poll
- `reported` — the part of it whose replies get back
- `Event.Prompt` — no reply of the event is late

## Main results

- `items_sublist` — a history holds what the ECU has shown, if this is so for every poll
- `faultsHistoryEndpoint_sublist_of_run` — the fault history, whatever is lost or late
- `items_eq_of_prompt` — it holds just what the ECU has reported, if no reply is late
- `histories_of_run` — all histories, if no reply is late
-/

namespace SovdDemo.Demo

open Foundations Uds DtcSimulator Cda

variable (F : Framework) (env : PyEnv) (catalog : Catalog)

/-- The time of a poll, with what `f` shows of each state that goes with `request`. -/
def showing {β : Type} (f : DtcSimulator → β) (request : List UInt8) (ts : Int)
    (served : List (List UInt8 × DtcSimulator)) : List (Int × β) :=
  served.filterMap fun x => if x.1 = request then some (ts, f x.2) else none

/-- What `f` shows of each state in which the ECU served `request`, with the time of the poll. -/
def shown {β : Type} (f : DtcSimulator → β) (request : List UInt8) (c : State) :
    Event → List (Int × β)
  | .simulate _ => []
  | .attempt a =>
    match a.activity with
    | .call _ _ => []
    | .poll ts =>
      showing f request ts ((ecu F).served c.sim (eventsOf (a.transmissions env catalog)))

/-- The same, if the reply to the request got back. -/
def reported {β : Type} (f : DtcSimulator → β) (request : List UInt8) (c : State) :
    Event → List (Int × β)
  | .simulate _ => []
  | .attempt a =>
    match a.activity with
    | .call _ _ => []
    | .poll ts => showing f request ts ((ecu F).returned c.sim (a.transmissions env catalog))

variable {F env catalog}

theorem showing_map {β γ : Type} (f : DtcSimulator → β) (g : β → γ) (request : List UInt8)
    (ts : Int) (served : List (List UInt8 × DtcSimulator)) :
    (showing f request ts served).map (fun x => (x.1, g x.2)) =
      showing (fun sim => g (f sim)) request ts served := by
  rw [showing, List.map_filterMap]
  apply List.filterMap_congr
  intro x _
  split <;> rfl

theorem mem_shown {β : Type} {f : DtcSimulator → β} {request : List UInt8} {c : State}
    {a : Attempt} {ts : Int} (ha : a.activity = .poll ts) {sim : DtcSimulator}
    (hserved : (request, sim) ∈ (ecu F).served c.sim (eventsOf (a.transmissions env catalog))) :
    (ts, f sim) ∈ shown F env catalog f request c (.attempt a) := by
  rw [shown, ha]
  exact List.mem_filterMap.mpr ⟨_, hserved, if_pos rfl⟩

theorem shown_map {β γ : Type} (f : DtcSimulator → β) (g : β → γ) (request : List UInt8) (c : State)
    (e : Event) : (shown F env catalog f request c e).map (fun x => (x.1, g x.2)) =
      shown F env catalog (fun sim => g (f sim)) request c e := by
  cases e with
  | simulate op => rfl
  | attempt a =>
    rw [shown, shown]
    cases a.activity with
    | call componentId call => rfl
    | poll ts => exact showing_map f g request ts _

theorem reported_map {β γ : Type} (f : DtcSimulator → β) (g : β → γ) (request : List UInt8)
    (c : State) (e : Event) : (reported F env catalog f request c e).map (fun x => (x.1, g x.2)) =
      reported F env catalog (fun sim => g (f sim)) request c e := by
  cases e with
  | simulate op => rfl
  | attempt a =>
    rw [reported, reported]
    cases a.activity with
    | call componentId call => rfl
    | poll ts => exact showing_map f g request ts _

theorem reported_sublist_shown {β : Type} (f : DtcSimulator → β) (request : List UInt8) (c : State)
    (e : Event) : (reported F env catalog f request c e).Sublist
      (shown F env catalog f request c e) := by
  cases e with
  | simulate op => exact .slnil
  | attempt a =>
    rw [reported, shown]
    cases a.activity with
    | call componentId call => exact .slnil
    | poll ts => exact (returned_sublist_served (ecu F) c.sim _).filterMap _

theorem outputs_reported_sublist {c₀ c : State} {es : List Event}
    (hr : (demo F env catalog).Run c₀ es c) {β : Type} (f : DtcSimulator → β)
    (request : List UInt8) :
    ((demo F env catalog).outputs (reported F env catalog f request) c₀ es).Sublist
      ((demo F env catalog).outputs (shown F env catalog f request) c₀ es) :=
  hr.outputs_sublist (I := fun _ => True) (P := fun _ => True) (fun _ _ _ _ => trivial)
    (fun c e _ _ _ => reported_sublist_shown f request c e) trivial fun _ _ => trivial

/-! One history -/

/-- What a poll adds to a history comes from a reply to its request. -/
theorem Series.exists_reply_of_addedBy {β : Type} {S : Series (pollDidCatalog catalog) β}
    {link : Link} {ts : Int} {x : β} (h : S.addedBy env ⟨link, .poll ts⟩ = some x) :
    ∃ comp resp, catalog.components.get pollComponent = some comp ∧
      link.outcome env comp S.poll = .reply resp ∧ S.entry ts resp = some x := by
  obtain ⟨⟨ts', outcome⟩, houtcome, hadded⟩ := Option.bind_eq_some_iff.mp h
  obtain ⟨comp, hcomp, hpair⟩ := Option.map_eq_some_iff.mp houtcome
  obtain ⟨rfl, rfl⟩ := Prod.mk.inj hpair
  obtain ⟨resp, hpayload, hentry⟩ := Option.bind_eq_some_iff.mp hadded
  refine ⟨comp, resp, hcomp, ?_, hentry⟩
  cases hx : link.outcome env comp S.poll with
  | reply payload =>
    rw [hx] at hpayload
    exact congrArg Exchange.reply (Option.some.inj hpayload)
  | notConnected e | sendFailed e | receiveFailed e | noReply =>
    rw [hx] at hpayload
    cases hpayload

/-- An attempt adds one element to a history at most. -/
theorem filterMap_cdaEvents {β : Type} (S : Series (pollDidCatalog catalog) β) (c : State)
    (a : Attempt) : ((Event.attempt a).cdaEvents F env catalog c).filterMap (S.addedBy env) =
      (S.addedBy env ⟨a.link F env catalog c.sim, a.activity⟩).toList := by
  show List.filterMap _ [_] = _
  cases hx : S.addedBy env ⟨a.link F env catalog c.sim, a.activity⟩ <;> simp [hx]

/-- A history holds what the ECU has shown, in the same order, if whatever a poll adds to it has
been shown in this poll. -/
theorem items_sublist {β : Type} (S : Series (pollDidCatalog catalog) β)
    {out : State → Event → List β} {P : Event → Prop}
    (hout : ∀ c a ts x, (demo F env catalog).Reachable c → P (.attempt a) →
      a.activity = .poll ts → S.addedBy env ⟨a.link F env catalog c.sim, .poll ts⟩ = some x →
        x ∈ out c (.attempt a))
    {c₀ c : State} {es : List Event} (hinit : (demo F env catalog).init c₀)
    (hempty : S.items c₀.world = []) (hr : (demo F env catalog).Run c₀ es c)
    (hes : ∀ e ∈ es, P e) :
    (S.items c.world).Sublist ((demo F env catalog).outputs out c₀ es) := by
  have hitems := S.items_run ((refinesStubCda F env catalog).run (.init hinit) hr)
  rw [hempty, List.nil_append, System.outputs_filterMap] at hitems
  rw [hitems]
  refine (List.drop_sublist _ _).trans (hr.outputs_sublist
    (I := (demo F env catalog).Reachable) (P := P) ?_ ?_ (.init hinit) hes)
  · exact fun _ _ hreach he => hreach.step he
  · rintro c (op | a) hreach - hP
    · exact List.nil_sublist _
    · rw [filterMap_cdaEvents]
      cases hactivity : a.activity with
      | call componentId call => exact List.nil_sublist _
      | poll ts =>
        cases hx : S.addedBy env ⟨a.link F env catalog c.sim, .poll ts⟩ with
        | none => exact List.nil_sublist _
        | some x => exact List.singleton_sublist.mpr (hout c a ts x hreach hP hactivity hx)

/-! The fault history -/

theorem reachable_of_served {c : State} (hc : (demo F env catalog).Reachable c) {a : Attempt}
    {request : List UInt8} {sim : DtcSimulator}
    (hserved : (request, sim) ∈ (ecu F).served c.sim (eventsOf (a.transmissions env catalog))) :
    (ecuSystem F).Reachable sim :=
  (ecu F).reachable_of_served ((refinesEcu F env catalog).reachable hc) hserved

/-- Every DID of the poller is that of a sensor. -/
theorem exists_sensor_of_mem_pollDids : ∀ didStr ∈ pollDids,
    ∃ sensor : SimulatedSensor, sensor.didStr = didStr := by
  intro didStr hd
  simp only [pollDids, List.mem_cons, List.not_mem_nil, or_false] at hd
  rcases hd with rfl | rfl | rfl
  exacts [⟨.engineTemp, rfl⟩, ⟨.batteryVoltage, rfl⟩, ⟨.vehicleSpeed, rfl⟩]

/-- The fault list is decoded to the fault memory. -/
theorem snapshotOf_reply (hF : F.Serves) {sim : DtcSimulator} (hr : (ecuSystem F).Reachable sim) :
    (ecuServe F sim Poll.faults.request).1.bind snapshotOf = some (storeSnapshot sim.dtcStore) := by
  have hnodup : sim.dtcStore.numbers.Nodup := by
    rw [numbers_of_ecu hr]
    decide
  rw [Poll.request, serve_faults hF, Option.bind_some, snapshotOf_faultList sim.dtcStore hnodup]

/-- Of the replies to the requests of a round, only a fault list is taken for one. -/
theorem snapshot_of_reply (hF : F.Serves) {sim : DtcSimulator} (hr : (ecuSystem F).Reachable sim)
    {poll : Poll} (hp : poll ∈ polls) {resp : List UInt8}
    (hreply : (ecuServe F sim poll.request).1 = some resp) {snapshot : Dict UInt8}
    (hs : snapshotOf resp = some snapshot) :
    poll = .faults ∧ snapshot = storeSnapshot sim.dtcStore := by
  cases poll with
  | did didStr =>
    obtain ⟨sensor, rfl⟩ := exists_sensor_of_mem_pollDids didStr (mem_polls_did hp)
    obtain ⟨high, low, hserve⟩ := serve_sensor hF (sensorsInvariant_of_ecu F hr) sensor
    rw [hserve] at hreply
    obtain rfl := Option.some.inj hreply
    -- the value of a sensor starts with another byte
    rw [snapshotOf, if_neg (fun h => absurd h.2 (by simp))] at hs
    cases hs
  | faults =>
    have hown := snapshotOf_reply hF hr
    rw [hreply, Option.bind_some, hs] at hown
    exact ⟨rfl, Option.some.inj hown⟩

/-- The fault history holds fault memories of the ECU, each as it was when the ECU served a request
of the poll whose time it bears. -/
theorem faultHistory_sublist (hF : F.Serves) {c₀ c : State} {es : List Event}
    (hinit : (demo F env catalog).init c₀) (hr : (demo F env catalog).Run c₀ es c) :
    c.world.faultHistory.items.Sublist ((demo F env catalog).outputs
      (shown F env catalog (fun sim => storeSnapshot sim.dtcStore) Poll.faults.request) c₀ es) := by
  refine items_sublist (faultSeries (pollDidCatalog catalog)) (P := fun _ => True) ?_ hinit
    hinit.2.2.1 hr fun _ _ => trivial
  rintro c a ts x hc - ha hadded
  obtain ⟨comp, resp, hcomp, houtcome, hentry⟩ := Series.exists_reply_of_addedBy hadded
  obtain ⟨poll, hpoll, sim, hserved, hreply⟩ := exists_served_of_outcome ha hcomp houtcome
  obtain ⟨snapshot, hsnapshot, rfl⟩ := Option.map_eq_some_iff.mp hentry
  obtain ⟨rfl, rfl⟩ :=
    snapshot_of_reply hF (reachable_of_served hc hserved) hpoll hreply hsnapshot
  exact mem_shown ha hserved

theorem length_storeSnapshot {N : Nat} (s : DiagnosticTroubleCodeStore N) :
    (storeSnapshot s).length = s.countByStatusMask 0xFF := by
  rw [storeSnapshot, List.length_map, s.countByStatusMask_eq]

/-- What the ECU counts in its fault memory, with the time of the poll. -/
def ecuCounts (x : Int × DiagnosticTroubleCodeStore 16) : FaultCounts where
  time := x.1
  activeFaults := x.2.countByStatusMask 0x01
  confirmedFaults := x.2.countByStatusMask 0x08
  totalFaults := x.2.countByStatusMask 0xFF

variable (F env catalog) in
/-- What the ECU counts when it serves a request for the faults. -/
def countsShown (c : State) (e : Event) : List FaultCounts :=
  (shown F env catalog DtcSimulator.dtcStore Poll.faults.request c e).map ecuCounts

variable (F env catalog) in
/-- The same, if the fault list got back. -/
def countsReported (c : State) (e : Event) : List FaultCounts :=
  (reported F env catalog DtcSimulator.dtcStore Poll.faults.request c e).map ecuCounts

/-- What the ECU has shown comes from states that it reaches. -/
theorem forall_mem_shown {β : Type} {f : DtcSimulator → β} {request : List UInt8} {Q : β → Prop}
    (hf : ∀ sim, (ecuSystem F).Reachable sim → Q (f sim)) {c₀ c : State} {es : List Event}
    (hinit : (demo F env catalog).init c₀) (hr : (demo F env catalog).Run c₀ es c) :
    ∀ x ∈ (demo F env catalog).outputs (shown F env catalog f request) c₀ es, Q x.2 := by
  refine hr.forall_mem_outputs (I := (demo F env catalog).Reachable)
    (fun _ _ hreach he => hreach.step he) ?_ (.init hinit)
  rintro c (op | a) hc - x hx
  · exact absurd hx List.not_mem_nil
  · rw [shown] at hx
    split at hx
    · exact absurd hx List.not_mem_nil
    · obtain ⟨⟨request', sim⟩, hserved, hx⟩ := List.mem_filterMap.mp hx
      split at hx
      · obtain rfl := Option.some.inj hx
        exact hf sim (reachable_of_served hc hserved)
      · cases hx

/-- The row of `faults_history_endpoint` for a snapshot. -/
def countsOf (snapshot : Snapshot) : FaultCounts where
  time := snapshot.1
  activeFaults := countSharing 0x01 snapshot.2
  confirmedFaults := countSharing 0x08 snapshot.2
  totalFaults := snapshot.2.length

theorem countsOf_storeSnapshot (x : Int × DiagnosticTroubleCodeStore 16) :
    countsOf (x.1, storeSnapshot x.2) = ecuCounts x := by
  rw [countsOf, countSharing_storeSnapshot, countSharing_storeSnapshot, length_storeSnapshot]
  rfl

theorem faultsHistoryEndpoint_eq (w : World) :
    faultsHistoryEndpoint w = w.faultHistory.items.map countsOf := rfl

/-- `faults_history_endpoint` returns counts of the ECU, each as it was when the ECU served a
request of the poll whose time it bears, in their order and none twice. Requests, replies and
connections may be lost, and replies may be received for other requests. -/
theorem faultsHistoryEndpoint_sublist_of_run (hF : F.Serves) {c₀ c : State} {es : List Event}
    (hinit : (demo F env catalog).init c₀) (hr : (demo F env catalog).Run c₀ es c) :
    (faultsHistoryEndpoint c.world).Sublist
      ((demo F env catalog).outputs (countsShown F env catalog) c₀ es) := by
  have hcounts : ∀ c e, (shown F env catalog (fun sim => storeSnapshot sim.dtcStore)
      Poll.faults.request c e).map countsOf = countsShown F env catalog c e := by
    intro c e
    rw [← shown_map DtcSimulator.dtcStore storeSnapshot, List.map_map, countsShown]
    exact List.map_congr_left fun x _ => countsOf_storeSnapshot x
  have hmap := (faultHistory_sublist hF hinit hr).map countsOf
  simp only [System.outputs_map, hcounts] at hmap
  rwa [faultsHistoryEndpoint_eq]

/-- The engine overheats. A poll then loses the request for its temperature; the reply for the
battery voltage is late and is received for the vehicle speed, that for the vehicle speed for the
faults, and the fault list is not received. The next poll is prompt. -/
def lossyThenPrompt : List Event :=
  [.simulate (.setEngineTemp 130), .simulate .step,
    .attempt ⟨none, none, [⟨[], none, false, false, .timesOut⟩, ⟨[], none, true, true, .timesOut⟩,
      atOnce, atOnce], .poll 1000⟩,
    .attempt (.answered (.poll 2000))]

theorem faultsHistoryEndpoint_lossyThenPrompt :
    (faultsHistoryEndpoint (lossyThenPrompt.foldl (demo .jobsOnly .blank shippedCatalog).step
      .start).world).Sublist
      ((demo .jobsOnly .blank shippedCatalog).outputs
        (countsShown .jobsOnly .blank shippedCatalog) .start lossyThenPrompt) :=
  faultsHistoryEndpoint_sublist_of_run Framework.serves_jobsOnly (start_init _ _ _)
    (.of_enabledAll ⟨trivial, trivial, trivial, trivial, trivial⟩)

/-! Prompt replies -/

/-- No reply of the event is late. -/
def Event.Prompt : Event → Prop
  | .simulate _ => True
  | .attempt a => ∀ fate ∈ a.fates, fate.Prompt

instance : (e : Event) → Decidable e.Prompt
  | .simulate _ => inferInstanceAs (Decidable True)
  | .attempt _ => inferInstanceAs (Decidable (∀ fate ∈ _, _))

/-- With prompt replies, a poll adds to a history what the ECU reports in it. -/
theorem addedBy_of_prompt {γ : Type} (S : Series (pollDidCatalog catalog) (Int × γ))
    (hp : S.poll ∈ polls) {f : DtcSimulator → γ}
    (hentry : ∀ sim, (ecuSystem F).Reachable sim → ∀ ts,
      (ecuServe F sim S.poll.request).1.bind (S.entry ts) = some (ts, f sim))
    {c : State} (hc : (demo F env catalog).Reachable c) {a : Attempt}
    (hprompt : ∀ fate ∈ a.fates, fate.Prompt) :
    (S.addedBy env ⟨a.link F env catalog c.sim, a.activity⟩).toList =
      reported F env catalog f S.poll.request c (.attempt a) := by
  rw [reported]
  cases ha : a.activity with
  | call componentId call => rfl
  | poll ts =>
    dsimp only
    cases hcomp : catalog.components.get pollComponent with
    | none =>
      have hnothing : a.transmissions env catalog = [] := by
        rw [Attempt.transmissions, Attempt.requests, ha, hcomp]
        rfl
      rw [hnothing, Series.addedBy, Event.outcome, hcomp]
      rfl
    | some comp =>
      have hadded : S.addedBy env ⟨a.link F env catalog c.sim, .poll ts⟩ =
          ((a.link F env catalog c.sim).outcome env comp S.poll).payload.bind (S.entry ts) := by
        simp only [Series.addedBy, Cda.Event.outcome, hcomp, Option.map_some, Option.bind_some]
      have hbind : ∀ o : Option (List UInt8),
          (o.bind (S.entry ts)).toList = o.toList.filterMap (S.entry ts) := by
        rintro (_ | resp)
        · rfl
        · cases hx : S.entry ts resp <;> simp [hx]
      rw [hadded, hbind, payload_outcome_of_prompt ha hprompt hcomp c.sim hp,
        List.filterMap_filterMap]
      refine List.filterMap_congr fun x hx => ?_
      split
      · rename_i hrequest
        have hserved : (x.1, x.2) ∈ (ecu F).served c.sim (eventsOf (a.transmissions env catalog)) :=
          (returned_sublist_served (ecu F) c.sim _).subset hx
        rw [hrequest]
        exact hentry x.2 (reachable_of_served hc hserved) ts
      · rfl

/-- With prompt replies, a history holds just what the ECU has reported, up to its length. -/
theorem items_eq_of_prompt {γ : Type} (S : Series (pollDidCatalog catalog) (Int × γ))
    (hp : S.poll ∈ polls) {f : DtcSimulator → γ}
    (hentry : ∀ sim, (ecuSystem F).Reachable sim → ∀ ts,
      (ecuServe F sim S.poll.request).1.bind (S.entry ts) = some (ts, f sim))
    {c₀ c : State} {es : List Event} (hinit : (demo F env catalog).init c₀)
    (hempty : S.items c₀.world = []) (hr : (demo F env catalog).Run c₀ es c)
    (hprompt : ∀ e ∈ es, e.Prompt) :
    S.items c.world = ((demo F env catalog).outputs
      (reported F env catalog f S.poll.request) c₀ es).rtake maxHistory := by
  have hitems := S.items_run ((refinesStubCda F env catalog).run (.init hinit) hr)
  rw [hempty, List.nil_append, System.outputs_filterMap] at hitems
  rw [hitems]
  refine congrArg (List.rtake · maxHistory) (hr.outputs_congr
    (I := (demo F env catalog).Reachable) (P := Event.Prompt) ?_ ?_ (.init hinit) hprompt)
  · exact fun _ _ hreach he => hreach.step he
  · rintro c (op | a) hreach - hprompt
    · rfl
    · rw [filterMap_cdaEvents]
      exact addedBy_of_prompt S hp hentry hreach hprompt

/-- The value of a sensor, as the stub CDA reads it. -/
def sensorValue (sensor : SimulatedSensor) (sim : DtcSimulator) : Int :=
  ((sensor.of sim).getCurrentValue.toNat : Int)

/-- The bounds between which the value of a sensor moves. -/
def sensorBounds : SimulatedSensor → Int × Int
  | .engineTemp => (70, 130)
  | .batteryVoltage => (100, 150)
  | .vehicleSpeed => (0, 220)

theorem sensorValue_bounds {sim : DtcSimulator} (hr : (ecuSystem F).Reachable sim)
    (sensor : SimulatedSensor) :
    (sensorBounds sensor).1 ≤ sensorValue sensor sim ∧
      sensorValue sensor sim ≤ (sensorBounds sensor).2 := by
  have hs := sensorsInvariant_of_ecu F hr
  cases sensor with
  | engineTemp => exact ⟨Int.ofNat_le.mpr hs.engineTemp.bounds.1,
      Int.ofNat_le.mpr hs.engineTemp.bounds.2⟩
  | batteryVoltage => exact ⟨Int.ofNat_le.mpr hs.batteryVoltage.bounds.1,
      Int.ofNat_le.mpr hs.batteryVoltage.bounds.2⟩
  | vehicleSpeed => exact ⟨Int.ofNat_le.mpr hs.vehicleSpeed.bounds.1,
      Int.ofNat_le.mpr hs.vehicleSpeed.bounds.2⟩

/-- The reply for a sensor is decoded to its value. -/
theorem sampleOf_reply (hF : F.Serves) {sim : DtcSimulator} (hr : (ecuSystem F).Reachable sim)
    {sensor : SimulatedSensor} (hformat : pollFormat catalog sensor.didStr = "int32") :
    (ecuServe F sim (Poll.did sensor.didStr).request).1.bind
        (sampleOf (pollDidCatalog catalog) sensor.didStr) = some (sensorValue sensor sim) := by
  have hs := sensorsInvariant_of_ecu F hr
  obtain ⟨high, low, hserve⟩ := serve_sensor hF hs sensor
  have hlen := (sensor.of sim).length_responseValue
  rw [hserve, Option.bind_some, sampleOf, if_pos ⟨by simp [hlen], rfl⟩]
  show sampleValue (pollFormat catalog sensor.didStr) (sensor.of sim).responseValue = _
  rw [hformat, sampleValue_responseValue (sensorInvariant_of hs sensor).2]
  rfl

/-- What the reply to its request adds to the fault history. -/
theorem faultSeries_entry (hF : F.Serves) {sim : DtcSimulator} (hr : (ecuSystem F).Reachable sim)
    (ts : Int) : (ecuServe F sim Poll.faults.request).1.bind
      ((faultSeries (pollDidCatalog catalog)).entry ts) =
        some (ts, storeSnapshot sim.dtcStore) := by
  have hentry := congrArg (Option.map (ts, ·)) (snapshotOf_reply hF hr)
  rwa [Option.map_bind] at hentry

/-- What the reply to its request adds to the series of a sensor. -/
theorem sensorSeries_entry (hF : F.Serves) {sim : DtcSimulator}
    (hr : (ecuSystem F).Reachable sim) {sensor : SimulatedSensor}
    (hformat : pollFormat catalog sensor.didStr = "int32") (hpolled : sensor.didStr ∈ pollDids)
    (ts : Int) : (ecuServe F sim (Poll.did sensor.didStr).request).1.bind
      ((sensorSeries (pollDidCatalog catalog) hpolled).entry ts) =
        some (ts, sensorValue sensor sim) := by
  have hentry := congrArg (Option.map (ts, ·)) (sampleOf_reply hF hr hformat)
  rwa [Option.map_bind] at hentry

/-- With prompt replies, `faults_history_endpoint` returns the counts that the ECU has reported. -/
theorem faultsHistoryEndpoint_of_prompt (hF : F.Serves) {c₀ c : State} {es : List Event}
    (hinit : (demo F env catalog).init c₀) (hr : (demo F env catalog).Run c₀ es c)
    (hprompt : ∀ e ∈ es, e.Prompt) :
    faultsHistoryEndpoint c.world = ((demo F env catalog).outputs
      (countsReported F env catalog) c₀ es).rtake maxHistory := by
  have hcounts : ∀ c e, (reported F env catalog (fun sim => storeSnapshot sim.dtcStore)
      Poll.faults.request c e).map countsOf = countsReported F env catalog c e := by
    intro c e
    rw [← reported_map DtcSimulator.dtcStore storeSnapshot, List.map_map, countsReported]
    exact List.map_congr_left fun x _ => countsOf_storeSnapshot x
  have hitems := items_eq_of_prompt (faultSeries (pollDidCatalog catalog))
    (List.mem_append_right _ List.mem_cons_self) (fun _ hreach ts => faultSeries_entry hF hreach ts)
    hinit hinit.2.2.1 hr hprompt
  have hmap := congrArg (List.map countsOf) hitems
  rw [map_rtake, System.outputs_map] at hmap
  simp only [faultSeries, hcounts] at hmap
  exact hmap

/-- With prompt replies, the series of a sensor has the values that the ECU has reported. -/
theorem samples_of_prompt (hF : F.Serves) (sensor : SimulatedSensor)
    (hformat : pollFormat catalog sensor.didStr = "int32") {c₀ c : State} {es : List Event}
    (hinit : (demo F env catalog).init c₀) (hr : (demo F env catalog).Run c₀ es c)
    (hprompt : ∀ e ∈ es, e.Prompt) :
    (c.world.samples (pollHex sensor.didStr)).items = ((demo F env catalog).outputs
      (reported F env catalog (sensorValue sensor) (Poll.did sensor.didStr).request) c₀
        es).rtake maxHistory := by
  have hpolled : sensor.didStr ∈ pollDids := (format_of_sensor sensor).2.2
  have hempty : (c₀.world.samples (pollHex sensor.didStr)).items = [] := by
    rw [World.samples, hinit.2.1]
    rfl
  exact items_eq_of_prompt (sensorSeries (pollDidCatalog catalog) hpolled)
    (List.mem_append_left _ (List.mem_map_of_mem hpolled))
    (fun _ hreach ts => sensorSeries_entry hF hreach hformat hpolled ts) hinit hempty hr hprompt

/-- If no reply is late, the histories hold just what the ECU has reported, the last 300 elements of
it: `faults_history_endpoint` returns the counts, and the series of a sensor has its values, between
the bounds of the sensor. Requests, replies and connections may be lost. -/
theorem histories_of_run (hF : F.Serves) {c₀ c : State} {es : List Event}
    (hinit : (demo F env catalog).init c₀) (hr : (demo F env catalog).Run c₀ es c)
    (hprompt : ∀ e ∈ es, e.Prompt) :
    faultsHistoryEndpoint c.world = ((demo F env catalog).outputs
        (countsReported F env catalog) c₀ es).rtake maxHistory ∧
      ∀ sensor : SimulatedSensor, pollFormat catalog sensor.didStr = "int32" →
        (c.world.samples (pollHex sensor.didStr)).items = ((demo F env catalog).outputs
          (reported F env catalog (sensorValue sensor) (Poll.did sensor.didStr).request) c₀
            es).rtake maxHistory ∧
        ∀ sample ∈ (c.world.samples (pollHex sensor.didStr)).items,
          (sensorBounds sensor).1 ≤ sample.2 ∧ sample.2 ≤ (sensorBounds sensor).2 := by
  refine ⟨faultsHistoryEndpoint_of_prompt hF hinit hr hprompt, fun sensor hformat => ?_⟩
  have hitems := samples_of_prompt hF sensor hformat hinit hr hprompt
  refine ⟨hitems, fun sample hsample => ?_⟩
  rw [hitems] at hsample
  have hmem := (outputs_reported_sublist hr _ _).subset (List.mem_of_mem_drop hsample)
  exact forall_mem_shown (Q := fun value => (sensorBounds sensor).1 ≤ value ∧
    value ≤ (sensorBounds sensor).2) (fun _ hreach => sensorValue_bounds hreach sensor) hinit
    hr sample hmem

/-- The engine overheats between two polls; the first loses the reply for the battery voltage. -/
def promptPolls : List Event :=
  [.attempt ⟨none, none, [atOnce, ⟨[], none, true, false, .timesOut⟩, atOnce, atOnce],
      .poll 1000⟩,
    .simulate (.setEngineTemp 130), .simulate .step, .attempt (.answered (.poll 2000))]

def polledPromptly : State :=
  promptPolls.foldl (demo .jobsOnly .blank shippedCatalog).step .start

theorem histories_polledPromptly :
    faultsHistoryEndpoint polledPromptly.world = ((demo .jobsOnly .blank shippedCatalog).outputs
        (countsReported .jobsOnly .blank shippedCatalog) .start promptPolls).rtake maxHistory ∧
      (polledPromptly.world.samples "0xCF10").items = ((demo .jobsOnly .blank
        shippedCatalog).outputs (reported .jobsOnly .blank shippedCatalog (sensorValue .engineTemp)
          (Poll.did "CF10").request) .start promptPolls).rtake maxHistory := by
  have hr : (demo .jobsOnly .blank shippedCatalog).Run .start promptPolls polledPromptly :=
    .of_enabledAll ⟨trivial, trivial, trivial, trivial, trivial⟩
  obtain ⟨hfaults, hsensors⟩ := histories_of_run Framework.serves_jobsOnly (start_init _ _ _) hr
    (by decide)
  exact ⟨hfaults, (hsensors .engineTemp (by decide)).1⟩

end SovdDemo.Demo
