import SovdDemo.Foundations.PyData
import SovdDemo.Foundations.PyInt

/-!
# What the stub CDA works with

`main.py` of the stub CDA turns REST calls into UDS requests. This module holds its data: the
diagnostic catalog, the response models, the exceptions, and the world the code runs in, that is the
DoIP client with what it will deliver, and the two histories of the poller.

Every outcome the DoIP client can have is data of the `World`: whether it can be created, which
sends raise, and what each `receive_diagnostic` delivers, in the order of the calls.

## Main definitions

- `Catalog`, `shippedCatalog` — `catalog.json`
- `FaultEntry`, `FaultDetail`, `DataValue` — the response models
- `PyException` — what a call can raise
- `World` — the DoIP client and the histories
- `Py` — code that changes the world and may raise; the changes survive an exception
-/

namespace SovdDemo.Cda

open Foundations

/-! The catalog -/

/-- An entry of `dtcs`; the keys may be missing. -/
structure DtcInfo where
  name : Option String
  description : Option String
  severity : Option String
  system : Option String
  deriving DecidableEq, Repr

/-- An entry of `dids`; the keys may be missing. -/
structure DidInfo where
  name : Option String
  description : Option String
  format : Option String
  unit : Option String
  deriving DecidableEq, Repr

/-- `{}`, which stands in for a DTC that is not in the catalog. -/
def DtcInfo.unlisted : DtcInfo := ⟨none, none, none, none⟩

/-- `{}`, which stands in for a DID that is not in the catalog. -/
def DidInfo.unlisted : DidInfo := ⟨none, none, none, none⟩

structure DoipConfig where
  host : String
  ecuLogicalAddress : String
  clientLogicalAddress : String
  protocolVersion : Int
  deriving DecidableEq, Repr

structure Component where
  doip : DoipConfig
  dtcs : Dict DtcInfo
  dids : Dict DidInfo
  deriving DecidableEq, Repr

structure Catalog where
  components : Dict Component
  deriving DecidableEq, Repr

/-- The one component of the shipped catalog. -/
def openbswEcu : Component where
  doip := {
    host := "192.168.0.201"
    ecuLogicalAddress := "0x002A"
    clientLogicalAddress := "0x0EF1"
    protocolVersion := 2 }
  dtcs := [
    ("0x010100", ⟨some "P0100",
      some "Engine Coolant Temperature Sensor Circuit - Over Temperature", some "high",
      some "Powertrain"⟩),
    ("0x010200", ⟨some "P0200", some "Battery Voltage Low", some "medium", some "Electrical"⟩),
    ("0x010300", ⟨some "P0300", some "CAN/Ethernet Communication Fault", some "high",
      some "Communication"⟩),
    ("0x010400", ⟨some "P0400", some "Sensor Malfunction - General", some "low", some "Sensors"⟩),
    ("0x010500", ⟨some "C0500", some "Brake System Fault", some "critical", some "Chassis"⟩)]
  dids := [
    ("0xCF01", ⟨some "StaticData", some "Static identifier data from memory", some "raw", none⟩),
    ("0xCF02", ⟨some "ADC_Value", some "Analog-to-digital converter potentiometer value",
      some "uint16", some "raw"⟩),
    ("0xCF03", ⟨some "WritableData", some "Writable data identifier", some "raw", none⟩),
    ("0xCF10", ⟨some "EngineTemp", some "Simulated engine coolant temperature", some "int32",
      some "°C"⟩),
    ("0xCF11", ⟨some "BatteryVoltage", some "Simulated battery voltage (x100)", some "int32",
      some "V/100"⟩),
    ("0xCF12", ⟨some "VehicleSpeed", some "Simulated vehicle speed", some "int32",
      some "km/h"⟩)]

/-- The shipped `catalog.json`. -/
def shippedCatalog : Catalog := ⟨[("openbsw-ecu", openbswEcu)]⟩

/-! The response models -/

structure FaultEntry where
  id : String
  dtcNumber : String
  name : String
  description : String
  severity : String
  system : String
  statusByte : UInt8
  status : Dict Bool
  deriving DecidableEq, Repr

structure FaultDetail extends FaultEntry where
  occurrenceCounter : Option UInt8
  deriving DecidableEq, Repr

/-- The values of all formats are integers, which a `float` holds exactly. -/
structure DataValue where
  did : String
  name : String
  description : String
  rawHex : String
  value : Option Int
  unit : Option String
  deriving DecidableEq, Repr

/-- What `read_faults` returns. -/
structure FaultList where
  availabilityMask : String
  count : Nat
  items : List FaultEntry
  deriving DecidableEq, Repr

/-- What `clear_faults` returns. -/
structure ClearedFaults where
  status : String
  message : String
  group : String
  deriving DecidableEq, Repr

def statusBits : Dict UInt8 :=
  [("testFailed", 0x01), ("testFailedThisOperationCycle", 0x02), ("pendingDTC", 0x04),
    ("confirmedDTC", 0x08), ("testNotCompletedSinceLastClear", 0x10),
    ("testFailedSinceLastClear", 0x20), ("testNotCompletedThisOperationCycle", 0x40),
    ("warningIndicatorRequested", 0x80)]

def decodeStatusByte (sb : UInt8) : Dict Bool :=
  statusBits.map fun (name, mask) => (name, decide (sb &&& mask ≠ 0))

/-! The world -/

inductive PyException
  | httpException (statusCode : Nat) (detail : String)
  | valueError (message : String)
  | indexError
  | structError
  /-- anything the DoIP client raises -/
  | doipError (message : String)
  deriving DecidableEq, Repr

/-- The texts of the interpreter and of the web framework: `str(e)` and `repr(s)`. -/
structure PyEnv where
  str : PyException → String
  repr : String → String

/-- An environment without texts, for runs on fixed inputs. -/
def PyEnv.blank : PyEnv := ⟨fun _ => "", id⟩

/-- What one `receive_diagnostic` does: it raises, or it delivers a payload or nothing. -/
inductive Received
  | raises (e : PyException)
  | reply (payload : Option (List UInt8))
  deriving DecidableEq, Repr

def maxHistory : Nat := 300

/-- A sample of a sensor: its timestamp and its value. -/
abbrev Sample := Int × Int

/-- A fault snapshot: its timestamp and the status byte of each DTC. -/
abbrev Snapshot := Int × Dict UInt8

structure World where
  /-- creating the client raises -/
  connect : Option PyException
  /-- the outcomes of the sends to come; a send beyond them succeeds -/
  sends : List (Option PyException)
  /-- the outcomes of the receives to come; a receive beyond them times out -/
  inbox : List Received
  /-- closing the client raises -/
  close : Option PyException
  /-- every request passed to `send_diagnostic` -/
  sent : List (List UInt8)
  sensorHistory : Dict (BoundedDeque Sample maxHistory)
  faultHistory : BoundedDeque Snapshot maxHistory
  /-- ghost: the key and the sample of every append to `sensorHistory`, and the reply it was decoded
  from -/
  sampleSources : List (String × Sample × List UInt8)
  /-- ghost: the same for `faultHistory` -/
  snapshotSources : List (Snapshot × List UInt8)
  deriving DecidableEq, Repr

/-- A world in which the client connects, and `inbox` is what arrives. -/
def World.receiving (inbox : List Received) : World where
  connect := none
  sends := []
  inbox := inbox
  close := none
  sent := []
  sensorHistory := []
  faultHistory := .empty
  sampleSources := []
  snapshotSources := []

/-- Code that changes the world and may raise. -/
abbrev Py := EStateM PyException World

namespace Py

variable {α β : Type} (w : World)

/-! How such code runs -/

@[simp] theorem pure_apply (a : α) : (pure a : Py α) w = .ok a w := rfl

@[simp] theorem throw_apply (e : PyException) : (throw e : Py α) w = .error e w := rfl

@[simp] theorem get_apply : (get : Py World) w = .ok w w := rfl

@[simp] theorem set_apply (w' : World) : (set w' : Py PUnit) w = .ok ⟨⟩ w' := rfl

@[simp] theorem bind_apply (m : Py α) (f : α → Py β) :
    (m >>= f) w = match m w with
      | .ok a w => f a w
      | .error e w => .error e w := by
  show EStateM.bind m f w = _
  rw [EStateM.bind]
  cases m w <;> rfl

@[simp] theorem map_apply (f : α → β) (m : Py α) :
    (f <$> m) w = match m w with
      | .ok a w => .ok (f a) w
      | .error e w => .error e w := by
  show EStateM.map f m w = _
  rw [EStateM.map]
  cases m w <;> rfl

@[simp] theorem ofExcept_ok (a : α) :
    (ofExcept (.ok a : Except PyException α) : Py α) w = .ok a w := rfl

@[simp] theorem ofExcept_error (e : PyException) :
    (ofExcept (.error e : Except PyException α) : Py α) w = .error e w := rfl

end Py

end SovdDemo.Cda
