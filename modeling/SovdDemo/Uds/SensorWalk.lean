import SovdDemo.Foundations.BigEndian
import SovdDemo.Uds.FaultList

/-!
# A simulated sensor over time

`step` adds two unsigned words as if they were signed, and clamps the sum on both sides; `setValue`
clamps in unsigned arithmetic. Between bounds that leave room for a step the two arithmetics agree:
nothing overflows, and the value stays between the bounds.

## Main definitions

- `ReadIdentifierSimulated.process` — the positive response with the current value
- `ReadIdentifierSimulated.InRange` — the value is between bounds that leave room for a step
- `sensor` — the runs of one sensor
- `constructedSimulator` — the runs of the simulator, from its construction on

## Main results

- `ReadIdentifierSimulated.newValue_eq` — a step is a clamped sum of numbers
- `sensorInvariant_of_reachable`, `sensorsInvariant_of_reachable` — the values stay in range along
  every run
- `ReadIdentifierSimulated.process_incoming` — what goes out for the current value
-/

namespace SovdDemo.Uds

open Foundations

/-- The framework puts the request of a job in front of its response, with the service id of a
positive response. -/
def IncomingDiagConnection.sendPositiveResponseOf (c : IncomingDiagConnection) (length : Nat)
    (implementedRequest : List UInt8) : IncomingDiagConnection :=
  match implementedRequest with
  | [] => { c with sent := c.sent ++ [c.response.take length] }
  | serviceId :: identifier =>
    { c with sent := c.sent ++ [(serviceId + 0x40) :: identifier ++ c.response.take length] }

namespace ReadIdentifierSimulated

variable (r : ReadIdentifierSimulated)

/-- The bytes of `etl::be_int32_t`. -/
def responseValue : List UInt8 := beBytes 4 r.currentValue.toNat

def process (connection : IncomingDiagConnection) : DiagReturnCode × IncomingDiagConnection :=
  let response := connection.releaseRequestGetResponse
  let response := response.appendAll r.responseValue
  (.ok, response.sendPositiveResponseOf response.getLength r.implementedRequest)

/-- The summand of a step. -/
def delta : Int := (((r.nextSeed >>> 16) &&& 0x7FFF) % 5).toNat - 2

/-- The current value is between the bounds, and another step beyond them is still an `int32_t`. -/
structure InRange : Prop where
  min_le : r.minValue.toNat ≤ r.currentValue.toNat
  le_max : r.currentValue.toNat ≤ r.maxValue.toNat
  max_le : r.maxValue.toNat ≤ 2 ^ 31 - 3

/-- A step of the random walk, with its signed arithmetic. -/
structure WalkStep : Prop where
  /-- the sum of the two `int32_t` is one -/
  noOverflow : -2 ^ 31 ≤ r.currentValue.toInt32.toInt + r.delta ∧
    r.currentValue.toInt32.toInt + r.delta < 2 ^ 31
  /-- the value moves by at most 2 -/
  moved : ((r.step.getCurrentValue.toNat : Int) - r.getCurrentValue.toNat).natAbs ≤ 2

variable {r}

theorem delta_bounds : -2 ≤ r.delta ∧ r.delta ≤ 2 := by
  have hlt : (((r.nextSeed >>> 16) &&& 0x7FFF) % 5).toNat < 5 := by
    rw [UInt32.toNat_mod]
    exact Nat.mod_lt _ (by decide)
  rw [delta]
  omega

/-- In range, the casts keep the values, and a step is a clamped sum. -/
theorem newValue_eq (h : r.InRange) :
    r.newValue = min (max (r.currentValue.toNat + r.delta) r.minValue.toNat) r.maxValue.toNat := by
  obtain ⟨hmin, hmax, hle⟩ := h
  have hcast : ∀ v : UInt32, v.toNat ≤ r.maxValue.toNat → v.toInt32.toInt = v.toNat := fun v hv =>
    toInt_toInt32 (by omega)
  have hsum : r.newValue =
      let newValue := r.currentValue.toInt32.toInt + r.delta
      let newValue := if newValue < r.minValue.toInt32.toInt then r.minValue.toInt32.toInt
        else newValue
      if newValue > r.maxValue.toInt32.toInt then r.maxValue.toInt32.toInt else newValue := rfl
  rw [hsum, hcast _ hmax, hcast _ (Nat.le_trans hmin hmax), hcast _ (Nat.le_refl _)]
  dsimp only
  split
  · split
    · omega
    · omega
  · split
    · omega
    · omega

theorem toNat_step (h : r.InRange) :
    (r.step.currentValue.toNat : Int) =
      min (max (r.currentValue.toNat + r.delta) r.minValue.toNat) r.maxValue.toNat := by
  have hle := h.max_le
  have hstep : r.step.currentValue = UInt32.ofInt r.newValue := rfl
  rw [hstep, toNat_ofInt, newValue_eq h]
  · rw [newValue_eq h]
    omega
  · rw [newValue_eq h]
    omega

theorem InRange.walkStep (h : r.InRange) : r.WalkStep := by
  have hdelta := r.delta_bounds
  have hle := h.max_le
  have hmax := h.le_max
  have hmin := h.min_le
  refine ⟨?_, ?_⟩
  · rw [toInt_toInt32 (by omega)]
    omega
  · rw [getCurrentValue, getCurrentValue, toNat_step h]
    omega

theorem InRange.step (h : r.InRange) : r.step.InRange := by
  have hle := h.max_le
  have hmax := h.le_max
  have hmin := h.min_le
  have hstep := toNat_step h
  refine ⟨?_, ?_, hle⟩
  · show r.minValue.toNat ≤ _
    omega
  · show _ ≤ r.maxValue.toNat
    omega

theorem toNat_setValue (r : ReadIdentifierSimulated) (value : UInt32) :
    (r.setValue value).currentValue.toNat =
      min (max value.toNat r.minValue.toNat) r.maxValue.toNat := by
  have hclamp : ∀ v : UInt32, (if v > r.maxValue then r.maxValue else v).toNat =
      min v.toNat r.maxValue.toNat := by
    intro v
    split
    · rename_i hv
      have hv := UInt32.lt_iff_toNat_lt.mp hv
      omega
    · rename_i hv
      have hv := mt UInt32.lt_iff_toNat_lt.mpr hv
      omega
  show (if (if value < r.minValue then r.minValue else value) > r.maxValue then r.maxValue
    else if value < r.minValue then r.minValue else value).toNat = _
  rw [hclamp]
  split
  · rename_i hv
    have hv := UInt32.lt_iff_toNat_lt.mp hv
    omega
  · rename_i hv
    have hv := mt UInt32.lt_iff_toNat_lt.mpr hv
    omega

theorem InRange.setValue (h : r.InRange) (value : UInt32) : (r.setValue value).InRange := by
  have hbounds := Nat.le_trans h.min_le h.le_max
  have hvalue := r.toNat_setValue value
  refine ⟨?_, ?_, h.max_le⟩
  · show r.minValue.toNat ≤ _
    omega
  · show _ ≤ r.maxValue.toNat
    omega

/-- The generator has no influence on the range. -/
theorem InRange.withSeed (h : r.InRange) (seed : UInt32) : { r with seed := seed }.InRange :=
  ⟨h.min_le, h.le_max, h.max_le⟩

end ReadIdentifierSimulated

/-! Runs -/

/-- What can happen to a sensor. -/
inductive SensorChange
  | step
  | setValue (value : UInt32)
  deriving DecidableEq, Repr

def ReadIdentifierSimulated.change (r : ReadIdentifierSimulated) :
    SensorChange → ReadIdentifierSimulated
  | .step => r.step
  | .setValue value => r.setValue value

/-- A sensor that has been constructed with these arguments. -/
def sensor (identifier : UInt16) (initialValue minValue maxValue : UInt32) :
    System ReadIdentifierSimulated SensorChange where
  init r := r = .construct identifier initialValue minValue maxValue
  enabled _ _ := True
  step := ReadIdentifierSimulated.change

/-- What a sensor has kept of its construction, and where its value is. -/
structure SensorInvariant (identifier : UInt16) (minValue maxValue : UInt32)
    (r : ReadIdentifierSimulated) : Prop where
  implementedRequest :
    r.implementedRequest = ([0x22, (identifier >>> 8).toUInt8, identifier.toUInt8] : List UInt8)
  minValue : r.minValue = minValue
  maxValue : r.maxValue = maxValue
  inRange : r.InRange

namespace SensorInvariant

variable {identifier : UInt16} {minValue maxValue : UInt32} {r : ReadIdentifierSimulated}

theorem construct {initialValue : UInt32} (hmin : minValue ≤ initialValue)
    (hmax : initialValue ≤ maxValue) (hroom : maxValue.toNat ≤ 2 ^ 31 - 3) :
    SensorInvariant identifier minValue maxValue
      (.construct identifier initialValue minValue maxValue) :=
  ⟨rfl, rfl, rfl, UInt32.le_iff_toNat_le.mp hmin, UInt32.le_iff_toNat_le.mp hmax, hroom⟩

theorem change (h : SensorInvariant identifier minValue maxValue r) (e : SensorChange) :
    SensorInvariant identifier minValue maxValue (r.change e) := by
  obtain ⟨hreq, hmin, hmax, hrange⟩ := h
  cases e with
  | step => exact ⟨hreq, hmin, hmax, hrange.step⟩
  | setValue value => exact ⟨hreq, hmin, hmax, hrange.setValue value⟩

/-- The value is between the two arguments. -/
theorem bounds (h : SensorInvariant identifier minValue maxValue r) :
    minValue.toNat ≤ r.getCurrentValue.toNat ∧ r.getCurrentValue.toNat ≤ maxValue.toNat := by
  obtain ⟨-, rfl, rfl, hrange⟩ := h
  exact ⟨hrange.min_le, hrange.le_max⟩

end SensorInvariant

/-- The value stays in range along every run. -/
theorem sensorInvariant_of_reachable {identifier : UInt16}
    {initialValue minValue maxValue : UInt32} (hmin : minValue ≤ initialValue)
    (hmax : initialValue ≤ maxValue) (hroom : maxValue.toNat ≤ 2 ^ 31 - 3)
    {r : ReadIdentifierSimulated}
    (hr : (sensor identifier initialValue minValue maxValue).Reachable r) :
    SensorInvariant identifier minValue maxValue r := by
  refine hr.invariant (I := SensorInvariant identifier minValue maxValue) ?_ ?_
  · rintro r rfl
    exact .construct hmin hmax hroom
  · intro r e h _
    exact h.change e

/-! The three sensors of the simulator -/

/-- The simulator from its construction on, before or after `init`. A toggle on an empty store
divides by zero in the source, so there is no such step. -/
def constructedSimulator : System DtcSimulator DtcSimulator.Operation where
  init sim := sim = DtcSimulator.construct ∨ sim = DtcSimulator.construct.init
  enabled sim op := op = .step → (sim.stepCounter + 1) % 4 = 0 → sim.dtcStore.getCount ≠ 0
  step := DtcSimulator.apply

instance (sim : DtcSimulator) (op : DtcSimulator.Operation) :
    Decidable (constructedSimulator.enabled sim op) :=
  inferInstanceAs (Decidable (_ → _ → _))

/-- The three sensors are where their constructor arguments allow. -/
structure SensorsInvariant (sim : DtcSimulator) : Prop where
  engineTemp : SensorInvariant DtcSimulator.didEngineTemp 70 130 sim.engineTemp
  batteryVoltage : SensorInvariant DtcSimulator.didBatteryVolt 100 150 sim.batteryVoltage
  vehicleSpeed : SensorInvariant DtcSimulator.didVehicleSpeed 0 220 sim.vehicleSpeed

theorem SensorsInvariant.apply {sim : DtcSimulator} (h : SensorsInvariant sim)
    (op : DtcSimulator.Operation) : SensorsInvariant (sim.apply op) := by
  obtain ⟨he, hb, hv⟩ := h
  cases op with
  | step => exact ⟨he.change .step, hb.change .step, hv.change .step⟩
  | setEngineTemp value => exact ⟨he.change (.setValue value), hb, hv⟩
  | setBatteryVoltage value => exact ⟨he, hb.change (.setValue value), hv⟩
  | setVehicleSpeed value => exact ⟨he, hb, hv.change (.setValue value)⟩
  | clearAll | clearByNumber dtcNumber => exact ⟨he, hb, hv⟩

theorem sensorsInvariant_of_reachable {sim : DtcSimulator}
    (hr : constructedSimulator.Reachable sim) : SensorsInvariant sim := by
  refine hr.invariant (I := SensorsInvariant) ?_ ?_
  · have hconstruct : SensorsInvariant DtcSimulator.construct :=
      ⟨.construct (by decide) (by decide) (by decide),
        .construct (by decide) (by decide) (by decide),
        .construct (by decide) (by decide) (by decide)⟩
    rintro sim (rfl | rfl)
    · exact hconstruct
    · exact ⟨hconstruct.engineTemp, hconstruct.batteryVoltage, hconstruct.vehicleSpeed⟩
  · intro sim op h _
    exact h.apply op

/-! The response -/

namespace ReadIdentifierSimulated

variable (r : ReadIdentifierSimulated)

@[simp] theorem length_responseValue : r.responseValue.length = 4 := length_beBytes 4 _

/-- The four bytes are the value, and the framework puts the service and the DID in front of
them. -/
theorem process_incoming {serviceId high low : UInt8}
    (hreq : r.implementedRequest = [serviceId, high, low]) (request : List UInt8)
    (inRequestBuffer : Bool) {capacity : Nat} (hcap : 4 ≤ capacity) :
    ∃ c, r.process (.incoming request inRequestBuffer capacity) = (.ok, c) ∧
      c.response = r.responseValue ∧
      c.sent = [(serviceId + 0x40) :: high :: low :: r.responseValue] := by
  have htake : r.responseValue.take capacity = r.responseValue :=
    List.take_of_length_le (by rw [length_responseValue]; exact hcap)
  have hresponse : (IncomingDiagConnection.incoming request inRequestBuffer
      capacity).releaseRequestGetResponse.appendAll r.responseValue =
      { IncomingDiagConnection.incoming request inRequestBuffer capacity with
        released := true
        response := r.responseValue } := by
    rw [IncomingDiagConnection.appendAll_eq]
    simp only [IncomingDiagConnection.releaseRequestGetResponse, IncomingDiagConnection.incoming,
      List.nil_append, List.length_nil, Nat.sub_zero, htake]
  refine ⟨_, rfl, ?_, ?_⟩
  · rw [hresponse, hreq]
    rfl
  · rw [hresponse, hreq]
    show [] ++ [(serviceId + 0x40) :: [high, low] ++
      r.responseValue.take r.responseValue.length] = _
    rw [List.take_length]
    rfl

end ReadIdentifierSimulated

end SovdDemo.Uds
