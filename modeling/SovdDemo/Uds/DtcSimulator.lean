import SovdDemo.Foundations.Transition
import SovdDemo.Uds.DiagnosticTroubleCode

/-!
# The DTC simulator

`ReadIdentifierSimulated` is a sensor that walks at random between two bounds; `DtcSimulator` owns
three of them and a store of five DTCs, whose status bits it toggles. `step` reaches the status
bytes through pointers; `getDtcByIndex_step` says what this does to each entry.

## Main definitions

- `ReadIdentifierSimulated` — a simulated sensor
- `DtcSimulator` — the store, the sensors, the step counter and the generator state
- `dtcSimulator` — the runs of the simulator after one `init`

## Main results

- `DtcSimulator.getDtcByIndex_step` — one step, seen from one DTC
- `DtcSimulator.numbers_apply`, `DtcSimulator.numbers_of_reachable` — no operation changes the list
  of DTC numbers
-/

namespace SovdDemo.Uds

open Foundations

/-- A sensor that takes a random walk between `minValue` and `maxValue`. -/
structure ReadIdentifierSimulated where
  implementedRequest : List UInt8
  currentValue : UInt32
  minValue : UInt32
  maxValue : UInt32
  seed : UInt32
  deriving DecidableEq, Repr

namespace ReadIdentifierSimulated

def construct (identifier : UInt16) (initialValue minValue maxValue : UInt32) :
    ReadIdentifierSimulated where
  implementedRequest := [0x22, (identifier >>> 8).toUInt8, identifier.toUInt8]
  currentValue := initialValue
  minValue := minValue
  maxValue := maxValue
  seed := identifier.toUInt32 * 7 + 13

variable (r : ReadIdentifierSimulated)

/-- The generator's next state. -/
def nextSeed : UInt32 := r.seed * 1103515245 + 12345

/-- The value a step moves to, before it is cast back; `int32_t` arithmetic is that of `Int`. -/
def newValue : Int :=
  let rnd := (r.nextSeed >>> 16) &&& 0x7FFF
  let delta : Int := (rnd % 5).toNat - 2
  let newValue := r.currentValue.toInt32.toInt + delta
  let newValue := if newValue < r.minValue.toInt32.toInt then r.minValue.toInt32.toInt else newValue
  if newValue > r.maxValue.toInt32.toInt then r.maxValue.toInt32.toInt else newValue

def step : ReadIdentifierSimulated :=
  { r with seed := r.nextSeed, currentValue := UInt32.ofInt r.newValue }

def getCurrentValue : UInt32 := r.currentValue

def setValue (value : UInt32) : ReadIdentifierSimulated :=
  let value := if value < r.minValue then r.minValue else value
  { r with currentValue := if value > r.maxValue then r.maxValue else value }

end ReadIdentifierSimulated

/-- `DtcSimulator`: at most 16 DTCs, three sensors, and the state of the toggle. -/
structure DtcSimulator where
  dtcStore : DiagnosticTroubleCodeStore 16
  engineTemp : ReadIdentifierSimulated
  batteryVoltage : ReadIdentifierSimulated
  vehicleSpeed : ReadIdentifierSimulated
  stepCounter : UInt32
  rngState : UInt32
  deriving DecidableEq, Repr

namespace DtcSimulator

def dtcEngineOvertemp : UInt32 := 0x010100
def dtcBatteryVoltageLow : UInt32 := 0x010200
def dtcCommunicationFault : UInt32 := 0x010300
def dtcSensorMalfunction : UInt32 := 0x010400
def dtcBrakeSystemFault : UInt32 := 0x010500

def didEngineTemp : UInt16 := 0xCF10
def didBatteryVolt : UInt16 := 0xCF11
def didVehicleSpeed : UInt16 := 0xCF12

def construct : DtcSimulator where
  dtcStore := .empty
  engineTemp := .construct didEngineTemp 90 70 130
  batteryVoltage := .construct didBatteryVolt 128 100 150
  vehicleSpeed := .construct didVehicleSpeed 60 0 220
  stepCounter := 0
  rngState := 42

variable (sim : DtcSimulator)

/-- Register the demo DTCs. -/
def init : DtcSimulator :=
  let store := (sim.dtcStore.addDtc dtcEngineOvertemp 0).2
  let store := (store.addDtc dtcBatteryVoltageLow 0).2
  let store := (store.addDtc dtcCommunicationFault 0).2
  let store := (store.addDtc dtcSensorMalfunction 0).2
  let store := (store.addDtc dtcBrakeSystemFault 0).2
  { sim with dtcStore := store }

end DtcSimulator

/-! What `step` writes through its pointers -/

namespace DiagnosticTroubleCode

variable (d : DiagnosticTroubleCode)

open StatusBit

/-- The toggle, on the DTC it picked. -/
def toggle (rnd : UInt32) : DiagnosticTroubleCode :=
  if d.getStatusByte &&& testFailed ≠ 0 then
    -- a fault that is withdrawn stays confirmed
    if rnd &&& 0x01 ≠ 0 then
      (d.clearStatusBit testFailed).clearStatusBit testFailedThisOperationCycle
    else d
  else if rnd &&& 0x02 ≠ 0 then
    (((d.setStatusBit testFailed).setStatusBit testFailedThisOperationCycle).setStatusBit
      confirmedDtc).setStatusBit testFailedSinceLastClear
  else d

/-- The two sensor links: a DTC fails while its sensor is out of range, and passes again once the
sensor is back by some margin. -/
def link (fails passes : Bool) : DiagnosticTroubleCode :=
  if fails then
    ((d.setStatusBit testFailed).setStatusBit confirmedDtc).setStatusBit testFailedSinceLastClear
  else if passes then d.clearStatusBit testFailed
  else d

def linkEngineTemp (engineTempValue : UInt32) : DiagnosticTroubleCode :=
  d.link (engineTempValue > 120) (engineTempValue < 100)

def linkBatteryVoltage (batteryValue : UInt32) : DiagnosticTroubleCode :=
  d.link (batteryValue < 110) (batteryValue > 120)

@[simp] theorem toggle_dtcNumber (rnd : UInt32) : (d.toggle rnd).dtcNumber = d.dtcNumber := by
  rw [toggle]
  split
  · split <;> rfl
  · split <;> rfl

@[simp] theorem link_dtcNumber (fails passes : Bool) :
    (d.link fails passes).dtcNumber = d.dtcNumber := by
  cases fails <;> cases passes <;> rfl

@[simp] theorem linkEngineTemp_dtcNumber (value : UInt32) :
    (d.linkEngineTemp value).dtcNumber = d.dtcNumber := d.link_dtcNumber _ _

@[simp] theorem linkBatteryVoltage_dtcNumber (value : UInt32) :
    (d.linkBatteryVoltage value).dtcNumber = d.dtcNumber := d.link_dtcNumber _ _

end DiagnosticTroubleCode

namespace DtcSimulator

variable (sim : DtcSimulator)

/-- Write through the pointer `findDtcByNumber` returns, unless it is null. -/
def updateByNumber (store : DiagnosticTroubleCodeStore 16) (dtcNumber : UInt32)
    (f : DiagnosticTroubleCode → DiagnosticTroubleCode) : DiagnosticTroubleCodeStore 16 :=
  match store.findIndexByNumber dtcNumber with
  | some index => store.updateDtc index f
  | none => store

/-- The next state of the generator, and the number drawn from it. -/
def nextRngState : UInt32 := sim.rngState * 1103515245 + 12345

def nextRnd : UInt32 := (sim.nextRngState >>> 16) &&& 0xFFFF

def step : DtcSimulator :=
  let sim := { sim with stepCounter := sim.stepCounter + 1 }
  let sim := { sim with
    engineTemp := sim.engineTemp.step,
    batteryVoltage := sim.batteryVoltage.step,
    vehicleSpeed := sim.vehicleSpeed.step }
  let rnd := sim.nextRnd
  let sim := { sim with rngState := sim.nextRngState }
  -- the source divides by zero on an empty store, which `init` rules out; otherwise `getDtcByIndex`
  -- does not return null
  let store :=
    if sim.stepCounter % 4 = 0 then
      sim.dtcStore.updateDtc (rnd.toNat % sim.dtcStore.getCount) (·.toggle rnd)
    else sim.dtcStore
  let store := updateByNumber store dtcEngineOvertemp
    (·.linkEngineTemp sim.engineTemp.getCurrentValue)
  let store := updateByNumber store dtcBatteryVoltageLow
    (·.linkBatteryVoltage sim.batteryVoltage.getCurrentValue)
  { sim with dtcStore := store }

def clearAll : DtcSimulator := { sim with dtcStore := sim.dtcStore.clearAll }

def clearByNumber (dtcNumber : UInt32) : Bool × DtcSimulator :=
  ((sim.dtcStore.clearByNumber dtcNumber).1,
    { sim with dtcStore := (sim.dtcStore.clearByNumber dtcNumber).2 })

/-- What can happen to an initialised simulator. -/
inductive Operation
  | step
  | setEngineTemp (value : UInt32)
  | setBatteryVoltage (value : UInt32)
  | setVehicleSpeed (value : UInt32)
  | clearAll
  | clearByNumber (dtcNumber : UInt32)
  deriving DecidableEq, Repr

def apply : Operation → DtcSimulator
  | .step => sim.step
  | .setEngineTemp value => { sim with engineTemp := sim.engineTemp.setValue value }
  | .setBatteryVoltage value => { sim with batteryVoltage := sim.batteryVoltage.setValue value }
  | .setVehicleSpeed value => { sim with vehicleSpeed := sim.vehicleSpeed.setValue value }
  | .clearAll => sim.clearAll
  | .clearByNumber dtcNumber => (sim.clearByNumber dtcNumber).2

end DtcSimulator

/-- The simulator after one `init`. -/
def dtcSimulator : System DtcSimulator DtcSimulator.Operation where
  init sim := sim = DtcSimulator.construct.init
  enabled _ _ := True
  step := DtcSimulator.apply

instance (sim : DtcSimulator) (op : DtcSimulator.Operation) :
    Decidable (dtcSimulator.enabled sim op) := inferInstanceAs (Decidable True)

/-! One step, seen from one DTC -/

namespace DtcSimulator

variable (sim : DtcSimulator)

/-- The DTC the toggle picks in the next step, if it runs. -/
def toggledIndex : Option Nat :=
  if (sim.stepCounter + 1) % 4 = 0 then some (sim.nextRnd.toNat % sim.dtcStore.getCount) else none

/-- What the next step does to the DTC at position `i`: the toggle first, then its sensor link. -/
def stepDtc (i : Nat) (d : DiagnosticTroubleCode) : DiagnosticTroubleCode :=
  let d := if sim.toggledIndex = some i then d.toggle sim.nextRnd else d
  let d :=
    if sim.dtcStore.findIndexByNumber dtcEngineOvertemp = some i then
      d.linkEngineTemp sim.engineTemp.step.getCurrentValue
    else d
  if sim.dtcStore.findIndexByNumber dtcBatteryVoltageLow = some i then
    d.linkBatteryVoltage sim.batteryVoltage.step.getCurrentValue
  else d

theorem numbers_updateByNumber (store : DiagnosticTroubleCodeStore 16) (dtcNumber : UInt32)
    {f : DiagnosticTroubleCode → DiagnosticTroubleCode} (hf : ∀ d, (f d).dtcNumber = d.dtcNumber) :
    (updateByNumber store dtcNumber f).numbers = store.numbers := by
  rw [updateByNumber]
  cases store.findIndexByNumber dtcNumber with
  | none => rfl
  | some index => exact store.numbers_updateDtc index hf

theorem getDtcByIndex_updateByNumber (store : DiagnosticTroubleCodeStore 16) (dtcNumber : UInt32)
    (f : DiagnosticTroubleCode → DiagnosticTroubleCode) (i : Nat) :
    (updateByNumber store dtcNumber f).getDtcByIndex i = (store.getDtcByIndex i).map fun d =>
      if store.findIndexByNumber dtcNumber = some i then f d else d := by
  rw [updateByNumber]
  cases store.findIndexByNumber dtcNumber with
  | none => simp
  | some index => simp [store.getDtcByIndex_updateDtc]

/-- The store after the toggle of a step. -/
def toggled : DiagnosticTroubleCodeStore 16 :=
  if (sim.stepCounter + 1) % 4 = 0 then
    sim.dtcStore.updateDtc (sim.nextRnd.toNat % sim.dtcStore.getCount) (·.toggle sim.nextRnd)
  else sim.dtcStore

theorem numbers_toggled : sim.toggled.numbers = sim.dtcStore.numbers := by
  rw [toggled]
  split
  · exact sim.dtcStore.numbers_updateDtc _ fun d => d.toggle_dtcNumber _
  · rfl

theorem getDtcByIndex_toggled (i : Nat) :
    sim.toggled.getDtcByIndex i = (sim.dtcStore.getDtcByIndex i).map fun d =>
      if sim.toggledIndex = some i then d.toggle sim.nextRnd else d := by
  rw [toggled, toggledIndex]
  split
  · simp [DiagnosticTroubleCodeStore.getDtcByIndex_updateDtc]
  · simp

theorem dtcStore_step : sim.step.dtcStore =
    updateByNumber
      (updateByNumber sim.toggled dtcEngineOvertemp
        (·.linkEngineTemp sim.engineTemp.step.getCurrentValue))
      dtcBatteryVoltageLow (·.linkBatteryVoltage sim.batteryVoltage.step.getCurrentValue) := rfl

theorem getDtcByIndex_step (i : Nat) :
    sim.step.dtcStore.getDtcByIndex i = (sim.dtcStore.getDtcByIndex i).map (sim.stepDtc i) := by
  -- no write changes a number, so both links look for their DTC among the same numbers as before
  have hengine := sim.toggled.findIndexByNumber_congr sim.numbers_toggled
  have hbattery := (updateByNumber sim.toggled dtcEngineOvertemp
    (·.linkEngineTemp sim.engineTemp.step.getCurrentValue)).findIndexByNumber_congr
      ((numbers_updateByNumber sim.toggled dtcEngineOvertemp fun d =>
        d.linkEngineTemp_dtcNumber _).trans sim.numbers_toggled)
  rw [dtcStore_step, getDtcByIndex_updateByNumber, getDtcByIndex_updateByNumber,
    getDtcByIndex_toggled, hbattery, hengine, Option.map_map, Option.map_map]
  rfl

theorem numbers_step : sim.step.dtcStore.numbers = sim.dtcStore.numbers := by
  rw [dtcStore_step, numbers_updateByNumber _ _ fun d => d.linkBatteryVoltage_dtcNumber _,
    numbers_updateByNumber _ _ fun d => d.linkEngineTemp_dtcNumber _, numbers_toggled]

/-- No operation changes the list of DTC numbers or its order. -/
theorem numbers_apply (op : Operation) :
    (sim.apply op).dtcStore.numbers = sim.dtcStore.numbers := by
  cases op with
  | step => exact sim.numbers_step
  | setEngineTemp value | setBatteryVoltage value | setVehicleSpeed value => rfl
  | clearAll => exact sim.dtcStore.numbers_clearAll
  | clearByNumber dtcNumber => exact sim.dtcStore.numbers_clearByNumber dtcNumber

/-- So a run reports on the five demo DTCs, each at its place. -/
theorem numbers_of_reachable {sim : DtcSimulator} (hr : dtcSimulator.Reachable sim) :
    sim.dtcStore.numbers = [dtcEngineOvertemp, dtcBatteryVoltageLow, dtcCommunicationFault,
      dtcSensorMalfunction, dtcBrakeSystemFault] := by
  refine hr.invariant (I := fun sim : DtcSimulator => sim.dtcStore.numbers = _) ?_ ?_
  · rintro sim rfl
    rfl
  · intro sim op hi _
    exact (sim.numbers_apply op).trans hi

/-- What an operation does to the DTC at position `i`. -/
def applyDtc (op : Operation) (i : Nat) (d : DiagnosticTroubleCode) : DiagnosticTroubleCode :=
  match op with
  | .step => sim.stepDtc i d
  | .setEngineTemp _ | .setBatteryVoltage _ | .setVehicleSpeed _ => d
  | .clearAll => d.clear
  | .clearByNumber dtcNumber =>
    if sim.dtcStore.findIndexByNumber dtcNumber = some i then d.clear else d

theorem getDtcByIndex_apply (op : Operation) (i : Nat) :
    (sim.apply op).dtcStore.getDtcByIndex i =
      (sim.dtcStore.getDtcByIndex i).map (sim.applyDtc op i) := by
  cases op with
  | step => exact sim.getDtcByIndex_step i
  | setEngineTemp value | setBatteryVoltage value | setVehicleSpeed value =>
    exact Option.map_id'.symm
  | clearAll => exact sim.dtcStore.getDtcByIndex_clearAll i
  | clearByNumber dtcNumber => exact sim.dtcStore.getDtcByIndex_clearByNumber dtcNumber i

end DtcSimulator

end SovdDemo.Uds
