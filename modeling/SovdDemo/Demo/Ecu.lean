import SovdDemo.Foundations.RequestReply
import SovdDemo.Uds.RequestDecision
import SovdDemo.Uds.UdsSystem
import SovdDemo.Cda.DetailRoundTrip
import SovdDemo.Cda.SensorValues

/-!
# The ECU, as a server

The jobs of the ECU answer the requests that the framework passes to them. A request for one of the
two DTC services or for a sensor goes to the job modelled here, and every other request to a job
that is not. Only `ClearDiagnosticInformation` changes anything.

## Main definitions

- `Framework` — what the framework adds to the jobs
- `ecuServe` — the reply to a request, and the simulator after it
- `ecu` — the simulator as a server
- `clearings` — what a request does to the simulator

## Main results

- `serve_faults`, `serve_detail`, `serve_clear`, `serve_sensor` — the replies to the requests of the
  stub CDA
- `refinesDtcSimulator` — requests do nothing to the simulator but clear DTCs
-/

namespace SovdDemo.Demo

open Foundations Uds DtcSimulator Cda

/-- What the framework adds to the jobs. -/
structure Framework where
  /-- `Service::verify` -/
  serviceVerify : List UInt8 → DiagReturnCode
  /-- a response is built in the buffer of its request -/
  inRequestBuffer : Bool
  /-- the room for a response -/
  capacity : Nat
  /-- the code of a negative response -/
  negativeCode : DiagReturnCode → UInt8
  /-- the replies of all other jobs -/
  otherJobs : List UInt8 → Option (List UInt8)

/-- In the default session the framework accepts the requests for the two DTC services, and a
response has room for a full store. -/
structure Framework.Serves (F : Framework) : Prop where
  verify : ∀ request, F.serviceVerify request = .ok
  room : 2 + 4 * 16 ≤ F.capacity

/-- A framework that builds its responses in the request buffer, refuses nothing and has no other
jobs. -/
def Framework.jobsOnly : Framework where
  serviceVerify _ := .ok
  inRequestBuffer := true
  capacity := 4095
  negativeCode _ := 0x31
  otherJobs _ := none

theorem Framework.serves_jobsOnly : Framework.jobsOnly.Serves := ⟨fun _ => rfl, by decide⟩

variable (F : Framework)

/-- The connection for a request after its service id. -/
def Framework.connection (request : List UInt8) : IncomingDiagConnection :=
  .incoming request F.inRequestBuffer F.capacity

/-- What goes out: the response of the job, or a negative response. -/
def Framework.reply (serviceId : UInt8) (code : DiagReturnCode) (c : IncomingDiagConnection) :
    Option (List UInt8) :=
  if code = .ok then c.sent.head? else some [0x7F, serviceId, F.negativeCode code]

/-- The sensor whose job implements the request. -/
def sensorFor (sim : DtcSimulator) (request : List UInt8) : Option ReadIdentifierSimulated :=
  [sim.engineTemp, sim.batteryVoltage, sim.vehicleSpeed].find? fun r =>
    r.implementedRequest = request

/-- The reply to a request, and the simulator after it. -/
def ecuServe (sim : DtcSimulator) : List UInt8 → Option (List UInt8) × DtcSimulator
  | [] => (F.otherJobs [], sim)
  | serviceId :: rest =>
    if serviceId = ReadDTCInformation.serviceId then
      match ReadDTCInformation.handle F.serviceVerify sim (F.connection rest) with
      | some (code, sim, c) => (F.reply serviceId code c, sim)
      | none => (none, sim)
    else if serviceId = ClearDiagnosticInformation.serviceId then
      match ClearDiagnosticInformation.handle F.serviceVerify sim (F.connection rest) with
      | some (code, sim, c) => (F.reply serviceId code c, sim)
      | none => (none, sim)
    else
      match sensorFor sim (serviceId :: rest) with
      | some r =>
        let (code, c) := r.process (F.connection [])
        (F.reply serviceId code c, sim)
      | none => (F.otherJobs (serviceId :: rest), sim)

/-- The simulator, and the jobs that serve requests. -/
def ecu : Server DtcSimulator Operation (List UInt8) (List UInt8) where
  act := DtcSimulator.apply
  serve := ecuServe F

/-! What a request does to the simulator -/

/-- What a group clears. -/
def clearingOf (group : UInt32) : Operation :=
  if group = ClearDiagnosticInformation.groupOfAllDtcs then .clearAll else .clearByNumber group

/-- What a request clears. -/
def clearings : List UInt8 → List Operation
  | [serviceId, high, middle, low] =>
    if serviceId = ClearDiagnosticInformation.serviceId ∧
        F.serviceVerify [high, middle, low] = .ok then
      [clearingOf (numberOfBytes high middle low)]
    else []
  | _ => []

theorem fst_clearByNumber_of_mem {N : Nat} {s : DiagnosticTroubleCodeStore N} {n : UInt32}
    (hn : n ∈ s.numbers) : (s.clearByNumber n).1 = true := by
  cases hf : s.findIndexByNumber n with
  | none =>
    obtain ⟨d, hd, rfl⟩ := List.mem_map.mp hn
    exact absurd rfl ((s.findIndexByNumber_eq_none_iff _).mp hf d hd)
  | some i => rw [DiagnosticTroubleCodeStore.clearByNumber, hf]

/-- The job clears what the group says, and a group that is not stored is refused. -/
theorem process_clear (sim : DtcSimulator) (high middle low : UInt8) (inRequestBuffer : Bool)
    (capacity : Nat) :
    ∃ code c, ClearDiagnosticInformation.process sim
        (.incoming [high, middle, low] inRequestBuffer capacity) =
          some (code, sim.apply (clearingOf (numberOfBytes high middle low)), c) ∧
      if numberOfBytes high middle low = ClearDiagnosticInformation.groupOfAllDtcs ∨
          numberOfBytes high middle low ∈ sim.dtcStore.numbers then
        code = .ok ∧ c.sent = [[0x54]]
      else code = .isoRequestOutOfRange := by
  have hread := IncomingDiagConnection.readRequest_incoming [high, middle, low] inRequestBuffer
    capacity
  have hprocess : ClearDiagnosticInformation.process sim
      (.incoming [high, middle, low] inRequestBuffer capacity) =
        if numberOfBytes high middle low = ClearDiagnosticInformation.groupOfAllDtcs then
          some (.ok, sim.clearAll, ClearDiagnosticInformation.respond
            (.incoming [high, middle, low] inRequestBuffer capacity))
        else match sim.clearByNumber (numberOfBytes high middle low) with
          | (true, sim) => some (.ok, sim, ClearDiagnosticInformation.respond
            (.incoming [high, middle, low] inRequestBuffer capacity))
          | (false, sim) => some (.isoRequestOutOfRange, sim,
            .incoming [high, middle, low] inRequestBuffer capacity) := by
    have hclear : IDtcProvider.clearByNumber sim (numberOfBytes high middle low) =
      sim.clearByNumber (numberOfBytes high middle low) := rfl
    rw [ClearDiagnosticInformation.process, hread, hread, hread]
    show (if numberOfBytes high middle low = ClearDiagnosticInformation.groupOfAllDtcs then _
      else _) = _
    split
    · rfl
    · rw [hclear]
      rcases sim.clearByNumber (numberOfBytes high middle low) with ⟨_ | _, _⟩ <;> rfl
  rw [hprocess]
  by_cases hall : numberOfBytes high middle low = ClearDiagnosticInformation.groupOfAllDtcs
  · rw [if_pos hall, clearingOf, if_pos hall]
    refine ⟨_, _, rfl, ?_⟩
    rw [if_pos (.inl hall)]
    exact ⟨rfl, rfl⟩
  · rw [if_neg hall, clearingOf, if_neg hall, DtcSimulator.clearByNumber]
    by_cases hmem : numberOfBytes high middle low ∈ sim.dtcStore.numbers
    · have hfound := fst_clearByNumber_of_mem hmem
      rw [hfound]
      refine ⟨_, _, rfl, ?_⟩
      rw [if_pos (.inr hmem)]
      exact ⟨rfl, rfl⟩
    · have hmissing := congrArg Prod.fst (sim.dtcStore.clearByNumber_of_not_mem hmem)
      rw [hmissing]
      refine ⟨_, _, rfl, ?_⟩
      rw [if_neg (not_or.mpr ⟨hall, hmem⟩)]

theorem verify_clear_eq_ok_iff (request : List UInt8) :
    ClearDiagnosticInformation.verify F.serviceVerify request = .ok ↔
      F.serviceVerify request = .ok ∧ request.length = 3 := by
  have hverify : ClearDiagnosticInformation.verify F.serviceVerify request =
      if F.serviceVerify request = .ok ∧ request.length ≠ 3 then .isoInvalidFormat
      else F.serviceVerify request := rfl
  rw [hverify]
  by_cases h : F.serviceVerify request = .ok ∧ request.length ≠ 3
  · rw [if_pos h]
    exact iff_of_false DiagReturnCode.noConfusion fun hc => h.2 hc.2
  · rw [if_neg h]
    exact ⟨fun hv => ⟨hv, by_contra fun hl => h ⟨hv, hl⟩⟩, And.left⟩

/-- A request to clear: what the job makes of it if it accepts it, and nothing otherwise. -/
theorem handle_clear_cases (sim : DtcSimulator) (rest : List UInt8) :
    (∃ high middle low, rest = [high, middle, low] ∧ F.serviceVerify rest = .ok ∧
      ClearDiagnosticInformation.handle F.serviceVerify sim (F.connection rest) =
        ClearDiagnosticInformation.process sim (F.connection rest)) ∨
    ¬ (F.serviceVerify rest = .ok ∧ rest.length = 3) ∧ ∃ code c, code ≠ .ok ∧
      ClearDiagnosticInformation.handle F.serviceVerify sim (F.connection rest) =
        some (code, sim, c) := by
  have hrequest : (F.connection rest).request = rest := rfl
  rw [ClearDiagnosticInformation.handle, hrequest]
  cases hv : ClearDiagnosticInformation.verify F.serviceVerify rest with
  | ok =>
    obtain ⟨haccepted, hlength⟩ := (verify_clear_eq_ok_iff F rest).mp hv
    obtain ⟨high, middle, low, rfl⟩ := List.length_eq_three.mp hlength
    exact .inl ⟨high, middle, low, rfl, haccepted, rfl⟩
  | isoInvalidFormat | isoSubfunctionNotSupported | isoRequestOutOfRange | other code =>
    refine .inr ⟨fun h => ?_, _, _, ?_, rfl⟩
    · rw [(verify_clear_eq_ok_iff F rest).mpr h] at hv
      cases hv
    · exact DiagReturnCode.noConfusion

theorem serve_clearService (sim : DtcSimulator) (rest : List UInt8) :
    ecuServe F sim (0x14 :: rest) =
      match ClearDiagnosticInformation.handle F.serviceVerify sim (F.connection rest) with
      | some (code, sim, c) => (F.reply 0x14 code c, sim)
      | none => (none, sim) := rfl

/-- A request to read: the simulator answers as its store does, and stays as it is. -/
theorem serve_readService (sim : DtcSimulator) (rest : List UInt8) :
    ecuServe F sim (0x19 :: rest) =
      match ReadDTCInformation.handle F.serviceVerify sim.dtcStore (F.connection rest) with
      | some (code, _, c) => (F.reply 0x19 code c, sim)
      | none => (none, sim) := by
  have hserve : ecuServe F sim (0x19 :: rest) =
      match ReadDTCInformation.handle F.serviceVerify sim (F.connection rest) with
      | some (code, sim, c) => (F.reply 0x19 code c, sim)
      | none => (none, sim) := rfl
  rw [hserve, ReadDTCInformation.handle_dtcStore]
  cases ReadDTCInformation.handle F.serviceVerify sim.dtcStore (F.connection rest) <;> rfl

theorem clearings_eq_nil {serviceId : UInt8} {rest : List UInt8}
    (h : ¬ (serviceId = 0x14 ∧ F.serviceVerify rest = .ok ∧ rest.length = 3)) :
    clearings F (serviceId :: rest) = [] := by
  rw [clearings.eq_def]
  split
  · rename_i heq
    obtain ⟨rfl, rfl⟩ := List.cons.inj heq
    rw [if_neg]
    exact fun hc => h ⟨hc.1, hc.2, rfl⟩
  · rfl

/-- The requests of a round of the poller clear nothing. -/
theorem clearings_poll (poll : Poll) : clearings F poll.request = [] := by
  cases poll with
  | did didStr | faults => exact clearings_eq_nil F fun h => absurd h.1 (by decide)

theorem ne_step_of_mem_clearings {request : List UInt8} {op : Operation}
    (h : op ∈ clearings F request) : op ≠ .step := by
  rw [clearings.eq_def] at h
  split at h
  · split at h
    · rw [List.mem_singleton.mp h, clearingOf]
      split <;> exact Operation.noConfusion
    · exact absurd h List.not_mem_nil
  · exact absurd h List.not_mem_nil

/-- A request does to the simulator what it clears. -/
theorem serve_state (sim : DtcSimulator) (request : List UInt8) :
    (ecuServe F sim request).2 = (clearings F request).foldl DtcSimulator.apply sim := by
  cases request with
  | nil => rfl
  | cons serviceId rest =>
    by_cases hclear : serviceId = ClearDiagnosticInformation.serviceId
    · subst hclear
      rw [show ClearDiagnosticInformation.serviceId = 0x14 from rfl, serve_clearService]
      obtain ⟨high, middle, low, rfl, haccepted, hhandle⟩ | ⟨hrefused, code, c, -, hhandle⟩ :=
        handle_clear_cases F sim rest
      · obtain ⟨code, c, hprocess, -⟩ :=
          process_clear sim high middle low F.inRequestBuffer F.capacity
        rw [hhandle, Framework.connection, hprocess, clearings, if_pos ⟨rfl, haccepted⟩]
        rfl
      · rw [hhandle, clearings_eq_nil F fun h => hrefused h.2]
        rfl
    · rw [clearings_eq_nil F fun h => hclear h.1]
      by_cases hread : serviceId = ReadDTCInformation.serviceId
      · subst hread
        rw [show ReadDTCInformation.serviceId = 0x19 from rfl, serve_readService]
        split <;> rfl
      · rw [ecuServe, if_neg hread, if_neg hclear]
        split <;> rfl

/-! The replies to the stub CDA -/

section Replies

variable {F} (hF : F.Serves) (sim : DtcSimulator)

include hF

/-- A fault list. -/
theorem serve_faults (mask : UInt8) :
    ecuServe F sim [0x19, 0x02, mask] = (some (0x59 :: faultList sim.dtcStore mask), sim) := by
  have hlength : (faultList sim.dtcStore mask).length ≤ F.capacity := by
    have hselected : (sim.dtcStore.selected mask).length ≤ 16 :=
      (List.length_filter_le _ _).trans sim.dtcStore.count_le
    have hroom := hF.room
    rw [length_faultList]
    omega
  have hhandle : ReadDTCInformation.handle F.serviceVerify sim.dtcStore
      (F.connection [0x02, mask]) =
        some (ReadDTCInformation.processReportDtcByStatusMask sim.dtcStore
          (F.connection [0x02, mask]) mask) :=
    (ReadDTCInformation.handle_of_le_length sim.dtcStore F.inRequestBuffer F.capacity
      (hF.verify _) (le_refl 2)).trans
        (ReadDTCInformation.process_reportDtcByStatusMask sim.dtcStore mask F.inRequestBuffer
          F.capacity)
  have hsent := ReadDTCInformation.sent_processReportDtcByStatusMask sim.dtcStore [0x02, mask]
    F.inRequestBuffer F.capacity mask
  rw [List.take_of_length_le hlength] at hsent
  rw [serve_readService, hhandle]
  show (((ReadDTCInformation.processReportDtcByStatusMask sim.dtcStore
    (F.connection [0x02, mask]) mask).2.2.sent).head?, sim) = _
  rw [Framework.connection, hsent]
  rfl

/-- The details of a DTC. -/
theorem serve_detail (high middle low : UInt8) :
    ecuServe F sim [0x19, 0x06, high, middle, low, 0xFF] =
      (match sim.dtcStore.findDtcByNumber (numberOfBytes high middle low) with
        | some d => some (0x59 :: ReadDTCInformation.extDataRecord d
            (if F.inRequestBuffer then d.statusByte else 0xFF))
        | none => some [0x7F, 0x19, F.negativeCode .isoRequestOutOfRange], sim) := by
  have hroom := hF.room
  have hhandle : ReadDTCInformation.handle F.serviceVerify sim.dtcStore
      (F.connection [0x06, high, middle, low, 0xFF]) =
        ReadDTCInformation.processReportDtcExtDataRecord sim.dtcStore
          (F.connection [0x06, high, middle, low, 0xFF]) :=
    (ReadDTCInformation.handle_of_le_length sim.dtcStore F.inRequestBuffer F.capacity
      (hF.verify [0x06, high, middle, low, 0xFF]) (Nat.le_add_left 2 3)).trans
        (ReadDTCInformation.process_reportDtcExtDataRecord sim.dtcStore high [middle, low, 0xFF]
          F.inRequestBuffer F.capacity)
  rw [serve_readService, hhandle, Framework.connection]
  cases hd : sim.dtcStore.findDtcByNumber (numberOfBytes high middle low) with
  | none =>
    rw [ReadDTCInformation.processReportDtcExtDataRecord_cons, hd]
    rfl
  | some d =>
    rw [ReadDTCInformation.processReportDtcExtDataRecord_eq sim.dtcStore 0x06 0xFF [] _ _ hd]
    have htake : (ReadDTCInformation.extDataRecord d
        (if F.inRequestBuffer then d.statusByte else 0xFF)).take F.capacity =
          ReadDTCInformation.extDataRecord d
            (if F.inRequestBuffer then d.statusByte else 0xFF) :=
      List.take_of_length_le (show 7 ≤ F.capacity by omega)
    show (some (0x59 :: (ReadDTCInformation.extDataRecord d _).take F.capacity), sim) = _
    rw [htake]

/-- A clearing: it is accepted when the group is that of all DTCs or stored. -/
theorem serve_clear (high middle low : UInt8) :
    ecuServe F sim [0x14, high, middle, low] =
      (some (if numberOfBytes high middle low = ClearDiagnosticInformation.groupOfAllDtcs ∨
          numberOfBytes high middle low ∈ sim.dtcStore.numbers then [0x54]
        else [0x7F, 0x14, F.negativeCode .isoRequestOutOfRange]),
        sim.apply (clearingOf (numberOfBytes high middle low))) := by
  obtain ⟨_, _, _, hrest, -, hhandle⟩ | ⟨hrefused, -⟩ :=
    handle_clear_cases F sim [high, middle, low]
  · obtain ⟨rfl, rfl, rfl⟩ : high = _ ∧ middle = _ ∧ low = _ := by simpa using hrest
    obtain ⟨code, c, hprocess, hcode⟩ :=
      process_clear sim high middle low F.inRequestBuffer F.capacity
    rw [serve_clearService, hhandle, Framework.connection, hprocess]
    dsimp only
    split at hcode
    · obtain ⟨rfl, hsent⟩ := hcode
      rw [Framework.reply, if_pos rfl, hsent, if_pos ‹_›]
      rfl
    · subst hcode
      rw [Framework.reply, if_neg DiagReturnCode.noConfusion, if_neg ‹_›]
  · exact absurd ⟨hF.verify _, rfl⟩ hrefused

/-- The value of a sensor, for the request that the poller sends. -/
theorem serve_sensor {sim : DtcSimulator} (hs : SensorsInvariant sim) (sensor : SimulatedSensor) :
    ∃ high low, ecuServe F sim (Poll.did sensor.didStr).request =
      (some (0x62 :: high :: low :: (sensor.of sim).responseValue), sim) := by
  have hroom := hF.room
  have hcap : 4 ≤ F.capacity := by omega
  have hfound : sensorFor sim (Poll.did sensor.didStr).request = some (sensor.of sim) := by
    have he := hs.engineTemp.implementedRequest
    have hb := hs.batteryVoltage.implementedRequest
    have hv := hs.vehicleSpeed.implementedRequest
    rw [sensorFor]
    cases sensor with
    | engineTemp =>
      rw [List.find?_cons_of_pos (by rw [he]; decide)]
      rfl
    | batteryVoltage =>
      rw [List.find?_cons_of_neg (by rw [he]; decide), List.find?_cons_of_pos (by rw [hb]; decide)]
      rfl
    | vehicleSpeed =>
      rw [List.find?_cons_of_neg (by rw [he]; decide), List.find?_cons_of_neg (by rw [hb]; decide),
        List.find?_cons_of_pos (by rw [hv]; decide)]
      rfl
  obtain ⟨high, low, hrequest⟩ := (sensorInvariant_of hs sensor).1
  obtain ⟨c, hprocess, -, hsent⟩ := (sensor.of sim).process_incoming hrequest [] F.inRequestBuffer
    hcap
  refine ⟨high, low, ?_⟩
  have hserve : ecuServe F sim (Poll.did sensor.didStr).request =
      match sensorFor sim (Poll.did sensor.didStr).request with
      | some r =>
        let (code, c) := r.process (F.connection [])
        (F.reply 0x22 code c, sim)
      | none => (F.otherJobs (Poll.did sensor.didStr).request, sim) := rfl
  rw [hserve, hfound]
  dsimp only
  rw [Framework.connection, hprocess]
  dsimp only
  rw [Framework.reply, if_pos rfl, hsent]
  rfl

end Replies

/-! Runs -/

/-- The ECU from the time its simulator has been initialised. -/
def ecuSystem : System DtcSimulator (ServerEvent Operation (List UInt8)) :=
  (ecu F).system fun sim => sim = DtcSimulator.construct.init

theorem dtcSimulator_run (sim : DtcSimulator) (ops : List Operation) :
    dtcSimulator.Run sim ops (ops.foldl DtcSimulator.apply sim) := by
  induction ops generalizing sim with
  | nil => exact .nil sim
  | cons op ops ih => exact .cons trivial (ih _)

/-- What the ECU sees, as operations of the simulator. -/
def simulatorOperations : ServerEvent Operation (List UInt8) → List Operation
  | .act op => [op]
  | .serve request => clearings F request

/-- Requests do nothing to the simulator but clear DTCs. -/
theorem refinesDtcSimulator : RefinementMapping (ecuSystem F) dtcSimulator (fun sim => sim)
    (fun _ => simulatorOperations F) where
  init h := h
  step := by
    rintro sim (op | request) - -
    · exact .single trivial
    · have hrun := dtcSimulator_run sim (clearings F request)
      rw [← serve_state] at hrun
      exact hrun

theorem sensorsInvariant_of_ecu {sim : DtcSimulator} (hr : (ecuSystem F).Reachable sim) :
    SensorsInvariant sim := by
  refine ((refinesDtcSimulator F).reachable hr).invariant (I := SensorsInvariant) ?_ ?_
  · rintro sim rfl
    exact sensorsInvariant_of_reachable (.init (.inr rfl))
  · intro sim op h _
    exact h.apply op

variable {F} in
/-- The numbers in the store are those `init` registers. -/
theorem numbers_of_ecu {sim : DtcSimulator} (hr : (ecuSystem F).Reachable sim) :
    sim.dtcStore.numbers = demoDtcs :=
  numbers_of_reachable ((refinesDtcSimulator F).reachable hr)

end SovdDemo.Demo
