import SovdDemo.Cda.PollDecoding
import SovdDemo.Uds.SensorWalk

/-!
# What the stub CDA reads off a simulated sensor

The ECU writes the value of a sensor as four big-endian bytes, and the stub CDA reads them as a
signed number. The number is the value; whether it is in the range the catalog declares depends on
the unit each side has in mind.

## Main definitions

- `FaithfulWalk` — a sensor walks between its bounds, and its value is read back exactly
- `SimulatedSensor` — the three sensors with their DIDs
- `declaredRanges` — the `min` and `max` of `catalog.json`
- `InDeclaredRange` — what is decoded for a sensor is in its declared range

## Main results

- `decodes_reply` — both decoders give back the current value
- `faithfulWalk_of_reachable`
- `inDeclaredRange_iff_of_reachable` — the battery voltage is never in its declared range, the other
  two sensors always are
-/

namespace SovdDemo.Cda

open Foundations Uds

/-! The bytes of a value -/

/-- The four bytes of a value without a sign bit. -/
theorem signed_responseValue {r : ReadIdentifierSimulated} (h : r.InRange) :
    signed 32 (beNat (r.responseValue.take 4)) = r.getCurrentValue.toNat := by
  have hlt : r.currentValue.toNat < 2 ^ (32 - 1) := by
    have hle := h.le_max
    have hroom := h.max_le
    omega
  have htake : r.responseValue.take 4 = r.responseValue :=
    List.take_of_length_le (by rw [r.length_responseValue])
  rw [htake, ReadIdentifierSimulated.responseValue, beNat_beBytes, Nat.mod_eq_of_lt (by omega),
    signed_of_lt hlt]
  rfl

theorem valueOf_responseValue {r : ReadIdentifierSimulated} (h : r.InRange) :
    valueOf "int32" r.responseValue = some (r.getCurrentValue.toNat : Int) := by
  rw [valueOf, if_pos ⟨rfl, by rw [r.length_responseValue]⟩, signed_responseValue h]

theorem sampleValue_responseValue {r : ReadIdentifierSimulated} (h : r.InRange) :
    sampleValue "int32" r.responseValue = some (r.getCurrentValue.toNat : Int) := by
  rw [sampleValue, if_pos rfl, signed_responseValue h]

/-- A sensor that keeps to its bounds, moves by small steps and is reported exactly. -/
structure FaithfulWalk (minValue maxValue : UInt32) (r : ReadIdentifierSimulated) : Prop where
  bounded : minValue ≤ r.getCurrentValue ∧ r.getCurrentValue ≤ maxValue
  /-- whatever the state of the generator is -/
  walkStep : ∀ seed, { r with seed := seed }.WalkStep
  reported : ∀ request inRequestBuffer capacity, 4 ≤ capacity →
    ∃ c, r.process (.incoming request inRequestBuffer capacity) = (.ok, c) ∧
      c.response.length = 4 ∧
      decodeValue "int32" c.response = .ok (some (r.getCurrentValue.toNat : Int)) ∧
      pollValue "int32" c.response = .ok (some (r.getCurrentValue.toNat : Int))

theorem faithfulWalk_of_reachable {identifier : UInt16} {initialValue minValue maxValue : UInt32}
    (hmin : minValue ≤ initialValue) (hmax : initialValue ≤ maxValue)
    (hroom : maxValue.toNat ≤ 2 ^ 31 - 3) {r : ReadIdentifierSimulated}
    (hr : (sensor identifier initialValue minValue maxValue).Reachable r) :
    FaithfulWalk minValue maxValue r := by
  have hinv := sensorInvariant_of_reachable hmin hmax hroom hr
  obtain ⟨hlow, hhigh⟩ := hinv.bounds
  have h := hinv.inRange
  refine ⟨⟨UInt32.le_iff_toNat_le.mpr hlow, UInt32.le_iff_toNat_le.mpr hhigh⟩, ?_, ?_⟩
  · exact fun seed => (h.withSeed seed).walkStep
  · intro request inRequestBuffer capacity hcap
    obtain ⟨c, hrun, hresponse, -⟩ := r.process_incoming hinv.implementedRequest request
      inRequestBuffer hcap
    have hlen := r.length_responseValue
    refine ⟨c, hrun, ?_, ?_, ?_⟩
    · rw [hresponse, hlen]
    · rw [hresponse, decodeValue_eq, valueOf_responseValue h]
    · rw [hresponse, pollValue_eq _ (Nat.le_of_eq hlen.symm), sampleValue_responseValue h]

/-- A step of the engine temperature from its upper bound. -/
theorem faithfulWalk_engineTemp :
    FaithfulWalk 70 130 ((ReadIdentifierSimulated.construct DtcSimulator.didEngineTemp 90 70
      130).setValue 0xFFFFFFFF).step := by
  have hr : (sensor DtcSimulator.didEngineTemp 90 70 130).Reachable
      ((ReadIdentifierSimulated.construct DtcSimulator.didEngineTemp 90 70 130).setValue
        0xFFFFFFFF).step :=
    .step (e := SensorChange.step)
      (.step (e := SensorChange.setValue 0xFFFFFFFF) (.init rfl) trivial) trivial
  exact faithfulWalk_of_reachable (by decide) (by decide) (by decide) hr

/-! The ranges of the catalog -/

/-- The sensors of the simulator. -/
inductive SimulatedSensor
  | engineTemp
  | batteryVoltage
  | vehicleSpeed
  deriving DecidableEq, Repr

namespace SimulatedSensor

def of (sim : DtcSimulator) : SimulatedSensor → ReadIdentifierSimulated
  | .engineTemp => sim.engineTemp
  | .batteryVoltage => sim.batteryVoltage
  | .vehicleSpeed => sim.vehicleSpeed

/-- The DID of a sensor, as the poller spells it. -/
def didStr : SimulatedSensor → String
  | .engineTemp => "CF10"
  | .batteryVoltage => "CF11"
  | .vehicleSpeed => "CF12"

end SimulatedSensor

/-- The `min` and `max` of the DIDs of `openbswEcu`. -/
def declaredRanges : Dict (Int × Int) :=
  [("0xCF10", (60, 140)), ("0xCF11", (900, 1500)), ("0xCF12", (0, 220))]

/-- The number is in the range of its DID. -/
def InRangeOf (didHex : String) (value : Int) : Prop :=
  ∃ range ∈ declaredRanges.get didHex, range.1 ≤ value ∧ value ≤ range.2

instance (didHex : String) (value : Int) : Decidable (InRangeOf didHex value) :=
  inferInstanceAs (Decidable (∃ range ∈ _, _ ∧ _))

/-- `read_data`, for every spelling of the DID, returns this number for a reply, and a poll records
it. -/
structure Decodes (didStr : String) (resp : List UInt8) (value : Int) : Prop where
  read : ∀ env did w, intBase16 did = some (Poll.didNumber didStr) →
    exchange env openbswEcu w = .reply resp →
      ∃ data w', readData env shippedCatalog pollComponent did w = .ok data w' ∧
        data.value = some value
  poll : ∀ env (e : Event) ts w,
    e.outcome env shippedCatalog (.did didStr) = some (ts, .reply resp) →
      Records env shippedCatalog w e didStr ts (some value)

/-- What the stub CDA decodes from the reply for a sensor is in the range its catalog declares. -/
def InDeclaredRange (sim : DtcSimulator) (sensor : SimulatedSensor) : Prop :=
  ∀ request inRequestBuffer capacity c resp, 4 ≤ capacity →
    (sensor.of sim).process (.incoming request inRequestBuffer capacity) = (.ok, c) →
    resp ∈ c.sent →
      ∃ value, Decodes sensor.didStr resp value ∧ InRangeOf (pollHex sensor.didStr) value

/-- The catalog gives each sensor the format of the bytes it sends. -/
theorem format_of_sensor (sensor : SimulatedSensor) :
    ((openbswEcu.dids.get (pollHex sensor.didStr)).getD .unlisted).format.getD "raw" = "int32" ∧
      didHex (Poll.didNumber sensor.didStr) = pollHex sensor.didStr ∧
      sensor.didStr ∈ pollDids := by
  cases sensor <;> decide

/-- Both decoders give back the current value. -/
theorem decodes_reply {r : ReadIdentifierSimulated} (h : r.InRange) (sensor : SimulatedSensor)
    (high low : UInt8) :
    Decodes sensor.didStr (0x62 :: high :: low :: r.responseValue) r.getCurrentValue.toNat := by
  obtain ⟨hformat, hhex, hmem⟩ := format_of_sensor sensor
  have hlen := r.length_responseValue
  constructor
  · intro env did w hn hx
    have hshort : ¬ ((0x62 :: high :: low :: r.responseValue).length < 3 ∨
        (0x62 :: high :: low :: r.responseValue)[0]? ≠ some 0x62) := by simp
    have hc : shippedCatalog.components.get pollComponent = some openbswEcu := rfl
    have hrun := readData_of_reply hc hn hx rfl
    rw [readDataReply_eq, if_neg hshort, hhex, hformat] at hrun
    exact ⟨_, _, hrun, valueOf_responseValue h⟩
  · intro env e ts w ho
    have hsample : sampleOf (pollDidCatalog shippedCatalog) sensor.didStr
        (0x62 :: high :: low :: r.responseValue) = some (r.getCurrentValue.toNat : Int) := by
      rw [sampleOf, if_pos ⟨by simp [hlen], rfl⟩]
      show sampleValue (((openbswEcu.dids.get (pollHex sensor.didStr)).getD .unlisted).format.getD
        "raw") r.responseValue = _
      rw [hformat, sampleValue_responseValue h]
    rw [← hsample]
    exact records_sampleOf hmem ho w

/-- The bytes of the DID that a sensor of the simulator sends. -/
theorem sensorInvariant_of {sim : DtcSimulator} (h : SensorsInvariant sim)
    (sensor : SimulatedSensor) :
    (∃ high low, (sensor.of sim).implementedRequest = [0x22, high, low]) ∧
      (sensor.of sim).InRange := by
  cases sensor with
  | engineTemp => exact ⟨⟨_, _, h.engineTemp.implementedRequest⟩, h.engineTemp.inRange⟩
  | batteryVoltage =>
    exact ⟨⟨_, _, h.batteryVoltage.implementedRequest⟩, h.batteryVoltage.inRange⟩
  | vehicleSpeed => exact ⟨⟨_, _, h.vehicleSpeed.implementedRequest⟩, h.vehicleSpeed.inRange⟩

/-- A reply is decoded to one number only. -/
theorem Decodes.value_eq {sensor : SimulatedSensor} {resp : List UInt8} {x y : Int}
    (hx : Decodes sensor.didStr resp x) (hy : Decodes sensor.didStr resp y) : x = y := by
  let w := World.receiving [.reply (some resp)]
  have hreply : exchange .blank openbswEcu w = .reply resp := rfl
  have hn : intBase16 sensor.didStr = some (Poll.didNumber sensor.didStr) :=
    (intBase16_pollDids _ (format_of_sensor sensor).2.2).1
  obtain ⟨data, w', hrun, hdata⟩ := hx.read .blank sensor.didStr w hn hreply
  obtain ⟨data', w'', hrun', hdata'⟩ := hy.read .blank sensor.didStr w hn hreply
  rw [hrun] at hrun'
  obtain ⟨rfl, -⟩ : data = data' ∧ w' = w'' := by simpa using hrun'
  exact Option.some.inj (hdata.symm.trans hdata')

/-- What is decoded is the value, and so the value is to be in the declared range. -/
theorem inDeclaredRange_iff {sim : DtcSimulator} (h : SensorsInvariant sim)
    (sensor : SimulatedSensor) :
    InDeclaredRange sim sensor ↔
      InRangeOf (pollHex sensor.didStr) (sensor.of sim).getCurrentValue.toNat := by
  obtain ⟨⟨high, low, hreq⟩, hrange⟩ := sensorInvariant_of h sensor
  have hdecodes := decodes_reply hrange sensor high low
  constructor
  · intro hall
    obtain ⟨c, hrun, -, hsent⟩ := (sensor.of sim).process_incoming hreq [] false (le_refl 4)
    have hmem : 0x62 :: high :: low :: (sensor.of sim).responseValue ∈ c.sent := by
      rw [hsent]
      exact List.mem_singleton.mpr rfl
    obtain ⟨value, hvalue, hin⟩ := hall [] false 4 c _ (le_refl 4) hrun hmem
    rwa [hvalue.value_eq hdecodes] at hin
  · intro hin request inRequestBuffer capacity c resp hcap hrun hresp
    obtain ⟨c', hrun', -, hsent⟩ :=
      (sensor.of sim).process_incoming hreq request inRequestBuffer hcap
    rw [hrun] at hrun'
    obtain rfl : c = c' := (Prod.mk.inj hrun').2
    rw [hsent] at hresp
    obtain rfl := List.mem_singleton.mp hresp
    exact ⟨_, hdecodes, hin⟩

theorem inRangeOf_iff {didHex : String} {low high : Int}
    (h : declaredRanges.get didHex = some (low, high)) (value : Int) :
    InRangeOf didHex value ↔ low ≤ value ∧ value ≤ high := by
  simp [InRangeOf, h]

/-- A sensor whose bounds are in the declared range. -/
theorem inRangeOf_of_bounds {identifier : UInt16} {minValue maxValue : UInt32}
    {r : ReadIdentifierSimulated} (h : SensorInvariant identifier minValue maxValue r)
    {didHex : String} {low high : Int} (hrange : declaredRanges.get didHex = some (low, high))
    (hlow : low ≤ minValue.toNat) (hhigh : maxValue.toNat ≤ high) :
    InRangeOf didHex r.getCurrentValue.toNat := by
  obtain ⟨hmin, hmax⟩ := h.bounds
  refine (inRangeOf_iff hrange _).mpr ⟨?_, ?_⟩
  · exact Int.le_trans hlow (Int.ofNat_le.mpr hmin)
  · exact Int.le_trans (Int.ofNat_le.mpr hmax) hhigh

/-- In every state of a run the numbers of the engine temperature and of the vehicle speed are in
the declared ranges, and that of the battery voltage is not: the ECU counts in tenths of a volt, the
catalog in hundredths. -/
theorem inDeclaredRange_iff_of_reachable {sim : DtcSimulator}
    (hr : constructedSimulator.Reachable sim) (sensor : SimulatedSensor) :
    InDeclaredRange sim sensor ↔ sensor ≠ .batteryVoltage := by
  have h := sensorsInvariant_of_reachable hr
  rw [inDeclaredRange_iff h]
  cases sensor with
  | engineTemp =>
    have hrange : declaredRanges.get (pollHex "CF10") = some (60, 140) := rfl
    exact iff_of_true (inRangeOf_of_bounds h.engineTemp hrange (by decide) (by decide))
      SimulatedSensor.noConfusion
  | batteryVoltage =>
    refine iff_of_false ?_ fun hne => hne rfl
    intro hin
    have hrange : declaredRanges.get (pollHex "CF11") = some (900, 1500) := rfl
    have hlow := ((inRangeOf_iff hrange _).mp hin).1
    have hhigh := Int.ofNat_le.mpr h.batteryVoltage.bounds.2
    exact absurd (Int.le_trans hlow hhigh) (by decide)
  | vehicleSpeed =>
    have hrange : declaredRanges.get (pollHex "CF12") = some (0, 220) := rfl
    exact iff_of_true (inRangeOf_of_bounds h.vehicleSpeed hrange (by decide) (by decide))
      SimulatedSensor.noConfusion

/-- The sensors are set beyond their bounds, and walk on from there until a DTC is toggled. -/
def beyondBounds : List DtcSimulator.Operation :=
  [.setEngineTemp 200, .step, .setBatteryVoltage 0, .step, .setVehicleSpeed 250, .step, .step]

/-- The engine temperature is in its declared range then, and the battery voltage is not. -/
theorem inDeclaredRange_beyondBounds :
    InDeclaredRange (beyondBounds.foldl constructedSimulator.step DtcSimulator.construct.init)
        .engineTemp ∧
      ¬ InDeclaredRange (beyondBounds.foldl constructedSimulator.step DtcSimulator.construct.init)
        .batteryVoltage := by
  have hr : constructedSimulator.Reachable
      (beyondBounds.foldl constructedSimulator.step DtcSimulator.construct.init) :=
    ⟨_, beyondBounds, .inr rfl, .of_enabledAll (by decide)⟩
  exact ⟨(inDeclaredRange_iff_of_reachable hr .engineTemp).mpr SimulatedSensor.noConfusion,
    fun h => (inDeclaredRange_iff_of_reachable hr .batteryVoltage).mp h rfl⟩

/-- A battery that has just been constructed is at 12.8 V, and is decoded to 128. -/
theorem not_inDeclaredRange_construct :
    ¬ ∀ sim, constructedSimulator.Reachable sim → ∀ sensor, InDeclaredRange sim sensor := by
  intro hall
  have hr : constructedSimulator.Reachable .construct := .init (.inl rfl)
  have hin := (inDeclaredRange_iff (sensorsInvariant_of_reachable hr) .batteryVoltage).mp
    (hall _ hr .batteryVoltage)
  exact absurd hin (by decide)

end SovdDemo.Cda
