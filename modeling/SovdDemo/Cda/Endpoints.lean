import SovdDemo.Cda.Transport

/-!
# The SOVD endpoints

`read_faults`, `read_fault_detail`, `clear_faults` and `read_data`. Each checks the component,
parses its identifier, sends one request in a `with` block, and decodes the reply after the block.
-/

namespace SovdDemo.Cda

open Foundations

/-- `struct.unpack(..)[0]`, which may raise. -/
def unpacked (value : Option Int) : Except PyException Int :=
  match value with
  | some n => .ok n
  | none => .error .structError

def unexpectedFormat : PyException := .httpException 502 "Unexpected response format"

def unexpectedClearResponse : PyException := .httpException 502 "Unexpected response to ClearDTC"

/-- `f"0x{dtc_num:06X}"`. -/
def dtcHex (dtcNum : Int) : String := "0x" ++ hexUpper 6 dtcNum

/-- `f"0x{did_num:04X}"`. -/
def didHex (didNum : Int) : String := "0x" ++ hexUpper 4 didNum

/-! Faults -/

/-- The entry of a DTC with its texts from the catalog. -/
def faultEntry (dtcCatalog : Dict DtcInfo) (dtcHex : String) (statusByte : UInt8) : FaultEntry :=
  let cat := (dtcCatalog.get dtcHex).getD .unlisted
  { id := dtcHex
    dtcNumber := dtcHex
    name := cat.name.getD s!"DTC_{dtcHex}"
    description := cat.description.getD "Unknown DTC"
    severity := cat.severity.getD "unknown"
    system := cat.system.getD "unknown"
    statusByte := statusByte
    status := decodeStatusByte statusByte }

@[simp] theorem faultEntry_id (dtcCatalog : Dict DtcInfo) (dtcHex : String) (statusByte : UInt8) :
    (faultEntry dtcCatalog dtcHex statusByte).id = dtcHex := rfl

/-- The loop over the four-byte records of a fault list: the number and the status of each. -/
def dtcRecords (dtcData : List UInt8) : Except PyException (List (Nat × UInt8)) :=
  (pyRange 0 (dtcData.length - 3) 4).mapM fun i => do
    let dtcHi ← index dtcData i
    let dtcMid ← index dtcData (i + 1)
    let dtcLo ← index dtcData (i + 2)
    let statusByte ← index dtcData (i + 3)
    return (dtcHi.toNat <<< 16 ||| dtcMid.toNat <<< 8 ||| dtcLo.toNat, statusByte)

def readFaultsReply (dtcCatalog : Dict DtcInfo) (resp : List UInt8) :
    Except PyException FaultList := do
  if resp.length < 3 ∨ resp[0]? ≠ some 0x59 then throw unexpectedFormat
  let availMask ← index resp 2
  let records ← dtcRecords (resp.drop 3)
  let faults := records.map fun (dtcNum, statusByte) =>
    faultEntry dtcCatalog (dtcHex dtcNum) statusByte
  return {
    availabilityMask := "0x" ++ hexUpper 2 availMask.toNat
    count := faults.length
    items := faults }

def readFaults (env : PyEnv) (catalog : Catalog) (componentId : String) (statusMask : Int) :
    Py FaultList := do
  let comp ← getComponentConfig catalog componentId
  let resp ← doipConnection env comp do
    sendUds (← toBytes [0x19, 0x02, Int.land statusMask 0xFF])
  ofExcept (readFaultsReply comp.dtcs resp)

def readFaultDetailReply (dtcCatalog : Dict DtcInfo) (dtcNum : Int) (resp : List UInt8) :
    Except PyException FaultDetail := do
  if resp.length < 7 ∨ resp[0]? ≠ some 0x59 then throw unexpectedFormat
  let statusByte ← index resp 5
  let occurrenceCounter ← if resp.length > 6 then some <$> index resp 6 else pure none
  return {
    toFaultEntry := faultEntry dtcCatalog (dtcHex dtcNum) statusByte
    occurrenceCounter := occurrenceCounter }

def readFaultDetail (env : PyEnv) (catalog : Catalog) (componentId dtcId : String) :
    Py FaultDetail := do
  let comp ← getComponentConfig catalog componentId
  match intBase16 dtcId with
  | none => throw (.httpException 400 s!"Invalid DTC ID: {dtcId}")
  | some dtcNum =>
    let resp ← doipConnection env comp do
      sendUds (← toBytes
        [0x19, 0x06, byteOf dtcNum 16, byteOf dtcNum 8, byteOf dtcNum 0, 0xFF])
    ofExcept (readFaultDetailReply comp.dtcs dtcNum resp)

def clearFaultsReply (group : String) (resp : List UInt8) : Except PyException ClearedFaults := do
  if (← index resp 0) ≠ 0x54 then throw unexpectedClearResponse
  return { status := "ok", message := "DTCs cleared successfully", group := group }

def clearFaults (env : PyEnv) (catalog : Catalog) (componentId group : String) :
    Py ClearedFaults := do
  let comp ← getComponentConfig catalog componentId
  match intBase16 group with
  | none => throw (.httpException 400 s!"Invalid group: {group}")
  | some groupNum =>
    let resp ← doipConnection env comp do
      sendUds (← toBytes [0x14, byteOf groupNum 16, byteOf groupNum 8, byteOf groupNum 0])
    ofExcept (clearFaultsReply group resp)

/-! Data -/

/-- The value of a DID in the format its catalog entry gives. -/
def decodeValue (fmt : String) (dataBytes : List UInt8) : Except PyException (Option Int) :=
  if fmt = "int32" ∧ 4 ≤ dataBytes.length then
    some <$> unpacked (unpackInt32 (dataBytes.take 4))
  else if fmt = "uint16" ∧ 2 ≤ dataBytes.length then
    some <$> unpacked (unpackUInt16 (dataBytes.take 2))
  else if fmt = "int16" ∧ 2 ≤ dataBytes.length then
    some <$> unpacked (unpackInt16 (dataBytes.take 2))
  else .ok none

def readDataReply (didCatalog : Dict DidInfo) (didNum : Int) (resp : List UInt8) :
    Except PyException DataValue := do
  if resp.length < 3 ∨ resp[0]? ≠ some 0x62 then throw unexpectedFormat
  let dataBytes := resp.drop 3
  let cat := (didCatalog.get (didHex didNum)).getD .unlisted
  let value ← decodeValue (cat.format.getD "raw") dataBytes
  return {
    did := didHex didNum
    name := cat.name.getD s!"DID_{didHex didNum}"
    description := cat.description.getD "Unknown DID"
    rawHex := bytesHex dataBytes
    value := value
    unit := cat.unit }

def readData (env : PyEnv) (catalog : Catalog) (componentId did : String) : Py DataValue := do
  let comp ← getComponentConfig catalog componentId
  match intBase16 did with
  | none => throw (.httpException 400 s!"Invalid DID: {did}")
  | some didNum =>
    let resp ← doipConnection env comp do
      sendUds (← toBytes [0x22, byteOf didNum 8, byteOf didNum 0])
    ofExcept (readDataReply comp.dids didNum resp)

end SovdDemo.Cda
