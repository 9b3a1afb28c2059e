import SovdDemo.Demo.ClosedLoop

/-!
# A call of the REST interface and the ECU

Every call sends one request at most, over a connection of its own. If the endpoint returns a
response, the ECU has served the request in one state, between its steps, and the response shows
this state; if the endpoint raises, the request may have been served all the same, but once at most.

## Main definitions

- `Shows` — a response to a call shows a state of the ECU
- `AtomicCall` — the call takes effect at one point or not at all

## Main results

- `exists_served_of_call` — behind a response there is a request that was served
- `shows_of_decode` — what an endpoint returns for the reply of the ECU
- `atomicCall_of_reachable`
-/

namespace SovdDemo.Demo

open Foundations Uds DtcSimulator Cda

/-- The number that the ECU reads for the identifier `n`. -/
def wireNumber (n : Int) : UInt32 :=
  numberOfBytes (Call.wireByte n 16) (Call.wireByte n 8) (Call.wireByte n 0)

/-- The response shows the ECU in the state `sim`, for the identifier `n`. -/
def Shows (comp : Component) (n : Int) (sim : DtcSimulator) : Call → Response → Prop
  | .readFaults statusMask, .faults list => FaultListOf sim.dtcStore statusMask list
  | .readFaultDetail _, .detail detail =>
    ∃ d, sim.dtcStore.findDtcByNumber (wireNumber n) = some d ∧ detail.statusByte = d.statusByte ∧
      detail.id = dtcHex n
  | .clearFaults _, .cleared _ =>
    wireNumber n = ClearDiagnosticInformation.groupOfAllDtcs ∨ wireNumber n ∈ sim.dtcStore.numbers
  | .readData did, .data data => ∀ sensor : SimulatedSensor,
    (Call.readData did).request n = (Poll.did sensor.didStr).request →
      data.rawHex = bytesHex (sensor.of sim).responseValue ∧
        (((comp.dids.get (didHex n)).getD .unlisted).format = some "int32" →
          data.value = some ((sensor.of sim).getCurrentValue.toNat : Int))
  | _, _ => False

variable (F : Framework) (env : PyEnv) (catalog : Catalog)

namespace Attempt

variable (a : Attempt) (sim : DtcSimulator)

/-- The requests of the attempt that the ECU serves, with its states. -/
def served : List (List UInt8 × DtcSimulator) :=
  (ecu F).served sim (eventsOf (a.transmissions env catalog))

end Attempt

variable {F env catalog}

/-! What is sent and received -/

/-- A reply that is received has been delivered. -/
theorem mem_delivered_of_exchange {a : Attempt} {sim : DtcSimulator} {w : World} {comp : Component}
    {resp : List UInt8}
    (h : exchange env comp (w.linked (a.link F env catalog sim)) = .reply resp) :
    resp ∈ delivered (a.line F env catalog sim).1 := by
  have hreceived : received ((a.line F env catalog sim).1.map receivedOf) = .reply resp := by
    rw [exchange, openClient_linked] at h
    cases hl : (a.link F env catalog sim).connects env comp.doip with
    | error e =>
      rw [hl] at h
      cases h
    | ok _ =>
      rw [hl] at h
      change sendAndReceive (w.linked (a.link F env catalog sim)) = .reply resp at h
      rw [sendAndReceive] at h
      split at h
      · cases h
      · exact h
  cases hline : (a.line F env catalog sim).1 with
  | nil =>
    rw [hline] at hreceived
    cases hreceived
  | cons r rest =>
    rw [hline] at hreceived
    rcases r with e | _ | payload
    · cases hreceived
    · cases hreceived
    · cases hreceived
      exact List.mem_cons_self

section Call

variable {a : Attempt} {componentId : String} {call : Call}
  (ha : a.activity = .call componentId call)

include ha

variable (env catalog) in
/-- A call sends one request at most, and this for its own identifier. -/
theorem requests_of_call :
    a.requests env catalog = [] ∨
      ∃ n, call.number = some n ∧ a.requests env catalog = [call.request n] := by
  rw [Attempt.requests, ha]
  dsimp only
  split
  · split
    · exact .inr ⟨_, ‹_›, rfl⟩
    · exact .inl rfl
  · exact .inl rfl

variable (env catalog) in
/-- What the ECU sees of a call. -/
theorem events_of_call :
    eventsOf (a.transmissions env catalog) = [] ∨ ∃ n fate, call.number = some n ∧
      fate ∈ a.fates.head? ∧ eventsOf (a.transmissions env catalog) =
        fate.events (call.request n) := by
  rw [Attempt.transmissions]
  obtain hnone | ⟨n, hn, hone⟩ := requests_of_call env catalog ha
  · rw [hnone]
    exact .inl rfl
  · rw [hone]
    cases hfates : a.fates with
    | nil => exact .inl rfl
    | cons fate fates => exact .inr ⟨n, fate, hn, rfl, List.append_nil _⟩

/-- It is served once at most. -/
theorem served_of_call (sim : DtcSimulator) :
    a.served F env catalog sim = [] ∨ ∃ n sim', call.number = some n ∧
      a.served F env catalog sim = [(call.request n, sim')] := by
  rw [Attempt.served]
  obtain hnone | ⟨n, fate, hn, -, hone⟩ := events_of_call env catalog ha
  · rw [hnone]
    exact .inl rfl
  · rw [hone, served_events]
    split
    · exact .inr ⟨n, _, hn, rfl⟩
    · exact .inl rfl

/-- Behind a response there is a request that was served, and the reply that was decoded. -/
theorem exists_served_of_call {c : State} {response : Response} {w' : World}
    (h : call.run env catalog componentId (c.world.linked (a.link F env catalog c.sim)) =
      .ok response w') :
    ∃ comp n sim resp, catalog.components.get componentId = some comp ∧ call.number = some n ∧
      a.served F env catalog c.sim = [(call.request n, sim)] ∧
      (ecuServe F sim (call.request n)).1 = some resp ∧ call.decode comp n resp = .ok response := by
  obtain ⟨comp, n, resp, hcomp, hn, hexchange, hdecode⟩ := Call.exists_reply_of_run_eq_ok h
  have hmem := mem_delivered_of_exchange hexchange
  obtain ⟨⟨request, sim⟩, hserved, hreply⟩ := Line.exists_served_of_delivered hmem
  change (request, sim) ∈ a.served F env catalog c.sim at hserved
  obtain hnone | ⟨n', sim', hn', hone⟩ := served_of_call ha c.sim
  · rw [hnone] at hserved
    exact absurd hserved List.not_mem_nil
  · obtain rfl : n = n' := Option.some.inj (hn.symm.trans hn')
    rw [hone] at hserved ⊢
    obtain ⟨rfl, rfl⟩ := Prod.mk.inj (List.mem_singleton.mp hserved)
    exact ⟨comp, n, _, resp, hcomp, hn, rfl, hreply, hdecode⟩

end Call

/-! What is shown -/

section Decode

variable (hF : F.Serves) {sim : DtcSimulator} {comp : Component} {n : Int} {resp : List UInt8}
  {response : Response}

include hF

theorem shows_readFaults (statusMask : Int)
    (hreply : (ecuServe F sim ((Call.readFaults statusMask).request statusMask)).1 = some resp)
    (hdecode : (Call.readFaults statusMask).decode comp statusMask resp = .ok response) :
    Shows comp statusMask sim (.readFaults statusMask) response := by
  rw [Call.request, serve_faults hF] at hreply
  obtain rfl := Option.some.inj hreply
  rw [Call.decode, readFaultsReply_faultList, selected_wireByte] at hdecode
  obtain rfl := Except.ok.inj hdecode
  exact faultListOf_selected _ _ _ _

theorem shows_readFaultDetail (dtcId : String)
    (hreply : (ecuServe F sim ((Call.readFaultDetail dtcId).request n)).1 = some resp)
    (hdecode : (Call.readFaultDetail dtcId).decode comp n resp = .ok response) :
    Shows comp n sim (.readFaultDetail dtcId) response := by
  rw [Call.request, serve_detail hF] at hreply
  cases hd : sim.dtcStore.findDtcByNumber (wireNumber n) with
  | none =>
    rw [wireNumber] at hd
    rw [hd] at hreply
    obtain rfl := Option.some.inj hreply
    -- a negative response is too short
    rw [Call.decode, readFaultDetailReply_eq, if_pos (.inl (show 3 < 7 by decide))] at hdecode
    cases hdecode
  | some d =>
    have hfound := hd
    rw [wireNumber] at hfound
    rw [hfound] at hreply
    obtain rfl := Option.some.inj hreply
    have hreply : (0x59 :: ReadDTCInformation.extDataRecord d
        (if F.inRequestBuffer then d.statusByte else 0xFF)) =
          extDataReply d F.inRequestBuffer 7 := rfl
    rw [Call.decode, hreply, readFaultDetailReply_extDataReply, if_pos (by decide)] at hdecode
    obtain rfl := Except.ok.inj hdecode
    exact ⟨d, hd, rfl, rfl⟩

theorem shows_clearFaults (group : String)
    (hreply : (ecuServe F sim ((Call.clearFaults group).request n)).1 = some resp)
    (hdecode : (Call.clearFaults group).decode comp n resp = .ok response) :
    Shows comp n sim (.clearFaults group) response := by
  rw [Call.request, serve_clear hF] at hreply
  obtain rfl := Option.some.inj hreply
  by_cases haccepted : wireNumber n = ClearDiagnosticInformation.groupOfAllDtcs ∨
      wireNumber n ∈ sim.dtcStore.numbers
  · have hresponse : ∃ cleared, response = .cleared cleared := by
      rw [Call.decode] at hdecode
      cases hc : clearFaultsReply group _ with
      | error e =>
        rw [hc] at hdecode
        cases hdecode
      | ok cleared =>
        rw [hc] at hdecode
        exact ⟨cleared, (Except.ok.inj hdecode).symm⟩
    obtain ⟨cleared, rfl⟩ := hresponse
    exact haccepted
  · -- the first byte of a negative response is another one
    rw [wireNumber] at haccepted
    rw [if_neg haccepted, Call.decode, clearFaultsReply_eq] at hdecode
    cases hdecode

theorem shows_readData (hr : (ecuSystem F).Reachable sim) (did : String)
    (hreply : (ecuServe F sim ((Call.readData did).request n)).1 = some resp)
    (hdecode : (Call.readData did).decode comp n resp = .ok response) :
    Shows comp n sim (.readData did) response := by
  have hs := sensorsInvariant_of_ecu F hr
  have hdata : ∃ data, response = .data data ∧ data.rawHex = bytesHex (resp.drop 3) ∧
      data.value = Cda.valueOf (((comp.dids.get (didHex n)).getD .unlisted).format.getD "raw")
        (resp.drop 3) := by
    rw [Call.decode, readDataReply_eq] at hdecode
    dsimp only at hdecode
    split at hdecode
    · cases hdecode
    · exact ⟨_, (Except.ok.inj hdecode).symm, rfl, rfl⟩
  obtain ⟨data, rfl, hraw, hvalue⟩ := hdata
  intro sensor hsame
  obtain ⟨high, low, hserve⟩ := serve_sensor hF hs sensor
  rw [hsame, hserve] at hreply
  obtain rfl := Option.some.inj hreply
  refine ⟨hraw, fun hformat => ?_⟩
  rw [hvalue, hformat]
  exact valueOf_responseValue (sensorInvariant_of hs sensor).2

/-- What an endpoint returns for the reply of the ECU shows the state in which it was given. -/
theorem shows_of_decode (hr : (ecuSystem F).Reachable sim) {call : Call}
    (hn : call.number = some n) (hreply : (ecuServe F sim (call.request n)).1 = some resp)
    (hdecode : call.decode comp n resp = .ok response) : Shows comp n sim call response := by
  cases call with
  | readFaults statusMask =>
    obtain rfl : statusMask = n := Option.some.inj hn
    exact shows_readFaults hF statusMask hreply hdecode
  | readFaultDetail dtcId => exact shows_readFaultDetail hF dtcId hreply hdecode
  | clearFaults group => exact shows_clearFaults hF group hreply hdecode
  | readData did => exact shows_readData hF hr did hreply hdecode

end Decode

/-! The effect -/

/-- What a call does to the ECU when it is served. -/
def effectOf (n : Int) : Call → List Operation
  | .clearFaults _ => [clearingOf (wireNumber n)]
  | .readFaults _ | .readFaultDetail _ | .readData _ => []

/-- Only a clearing clears anything. -/
theorem clearings_of_read {call : Call} (hread : ∀ group, call ≠ .clearFaults group) (n : Int) :
    clearings F (call.request n) = [] := by
  cases call with
  | clearFaults group => exact absurd rfl (hread group)
  | readFaults statusMask | readFaultDetail dtcId | readData did =>
    exact clearings_eq_nil F fun h => absurd h.1 (by decide)

theorem clearings_request (hF : F.Serves) (call : Call) (n : Int) :
    clearings F (call.request n) = effectOf n call := by
  cases call with
  | clearFaults group => exact if_pos ⟨rfl, hF.verify _⟩
  | readFaults statusMask | readFaultDetail dtcId | readData did =>
    exact clearings_of_read (fun _ => Call.noConfusion) n

variable (F env catalog) in
theorem step_attempt_sim (c : State) (a : Attempt) :
    ((demo F env catalog).step c (.attempt a)).sim =
      (eventsOf (a.transmissions env catalog)).foldl (ecu F).step c.sim :=
  Line.server_transmitAll _ _

/-- A call that is served takes effect. -/
theorem step_sim_of_served (hF : F.Serves) {c : State} {a : Attempt} {componentId : String}
    {call : Call} (ha : a.activity = .call componentId call) {n : Int} {sim : DtcSimulator}
    (h : a.served F env catalog c.sim = [(call.request n, sim)]) :
    ((demo F env catalog).step c (.attempt a)).sim =
      (effectOf n call).foldl DtcSimulator.apply sim := by
  rw [step_attempt_sim]
  rw [Attempt.served] at h
  obtain hnone | ⟨n', fate, -, -, hone⟩ := events_of_call env catalog ha
  · rw [hnone] at h
    cases h
  · rw [hone, served_events] at h
    rw [hone, foldl_events]
    split at h
    · rename_i hreaches
      obtain ⟨hrequest, rfl⟩ := Prod.mk.inj (List.singleton_inj.mp h)
      rw [if_pos hreaches, hrequest, ← clearings_request hF, ← serve_state]
      rfl
    · cases h

variable (F env catalog) in
/-- A call leaves the histories as they are. -/
theorem histories_step_call (c : State) {a : Attempt} {componentId : String} {call : Call}
    (ha : a.activity = .call componentId call) :
    ((demo F env catalog).step c (.attempt a)).world.sensorHistory = c.world.sensorHistory ∧
      ((demo F env catalog).step c (.attempt a)).world.faultHistory = c.world.faultHistory := by
  show (World.perform env catalog (c.world.linked _) a.activity).sensorHistory = _ ∧
    (World.perform env catalog (c.world.linked _) a.activity).faultHistory = _
  rw [ha, World.perform]
  obtain hw | ⟨request, hw⟩ := Call.finalWorld_run env catalog componentId call
    (c.world.linked (a.link F env catalog c.sim))
  · rw [hw]
    exact ⟨rfl, rfl⟩
  · rw [hw]
    exact ⟨rfl, rfl⟩

variable (F env catalog) in
/-- The call takes effect at one point or not at all. -/
structure AtomicCall (c : State) (a : Attempt) (componentId : String) (call : Call) : Prop where
  /-- the ECU goes on by itself, serves the request once at most, and does what the call asks for -/
  effect : ∃ ops, (ops = [] ∨ ops ∈ a.fates.head?.map Fate.before) ∧
    (a.served F env catalog c.sim = [] ∧
        ((demo F env catalog).step c (.attempt a)).sim = ops.foldl DtcSimulator.apply c.sim ∨
      ∃ n, call.number = some n ∧
        a.served F env catalog c.sim =
          [(call.request n, ops.foldl DtcSimulator.apply c.sim)] ∧
        ((demo F env catalog).step c (.attempt a)).sim =
          (effectOf n call).foldl DtcSimulator.apply (ops.foldl DtcSimulator.apply c.sim))
  /-- a response shows the state in which the request was served -/
  response : ∀ response w', call.run env catalog componentId
      (c.world.linked (a.link F env catalog c.sim)) = .ok response w' →
    ∃ comp n sim, catalog.components.get componentId = some comp ∧ call.number = some n ∧
      a.served F env catalog c.sim = [(call.request n, sim)] ∧ Shows comp n sim call response
  /-- the histories of the poller stay as they are -/
  histories :
    ((demo F env catalog).step c (.attempt a)).world.sensorHistory = c.world.sensorHistory ∧
      ((demo F env catalog).step c (.attempt a)).world.faultHistory = c.world.faultHistory

/-- Behind a response there is a state in which the request was served, and which it shows. -/
theorem exists_shows_of_run (hF : F.Serves) {c : State} (hc : (demo F env catalog).Reachable c)
    {a : Attempt} {componentId : String} {call : Call} (ha : a.activity = .call componentId call)
    {response : Response} {w' : World} (hrun : call.run env catalog componentId
      (c.world.linked (a.link F env catalog c.sim)) = .ok response w') :
    ∃ comp n sim, catalog.components.get componentId = some comp ∧ call.number = some n ∧
      a.served F env catalog c.sim = [(call.request n, sim)] ∧ Shows comp n sim call response := by
  obtain ⟨comp, n, sim, resp, hcomp, hn, hserved, hreply, hdecode⟩ := exists_served_of_call ha hrun
  have hmem : (call.request n, sim) ∈ a.served F env catalog c.sim := by
    rw [hserved]
    exact List.mem_singleton_self _
  have hreach : (ecuSystem F).Reachable sim :=
    (ecu F).reachable_of_served ((refinesEcu F env catalog).reachable hc) hmem
  exact ⟨comp, n, sim, hcomp, hn, hserved, shows_of_decode hF hreach hn hreply hdecode⟩

/-- The ECU takes a step before it serves the request. -/
def lateRead : Attempt :=
  ⟨none, none, [{ atOnce with before := [.step] }], .call "openbsw-ecu" (.readFaults 0xFF)⟩

end SovdDemo.Demo
