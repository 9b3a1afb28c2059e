import SovdDemo.Uds.DtcSimulator

/-!
# The DTC services of the ECU

`ReadDTCInformation` and `ClearDiagnosticInformation`, and what they use of the upstream framework.
A service reads its request through a pointer and builds its response by appending bytes; the
framework adds the service id and sends it. Reading beyond the request has no defined result in the
source, so it has none here either. Both services hold a reference to a provider that they may
change, and return the provider they leave behind.

Where the response is built is up to the framework. `IncomingDiagConnection.inRequestBuffer` tells
the two possibilities apart: a buffer of its own, or the buffer that holds the request.

## Main definitions

- `IncomingDiagConnection` — the request, the response and what has been sent
- `IDtcProvider` — what the services need of a DTC store
- `ReadDTCInformation.handle`, `ClearDiagnosticInformation.handle` — `verify` and then `process`
-/

namespace SovdDemo.Uds

/-- The return codes the two services use, and all others. -/
inductive DiagReturnCode
  | ok
  | isoInvalidFormat
  | isoSubfunctionNotSupported
  | isoRequestOutOfRange
  | other (code : UInt8)
  deriving DecidableEq, Repr

/-- A request after its service id, and the response to it. -/
structure IncomingDiagConnection where
  request : List UInt8
  /-- the response is built where the request is -/
  inRequestBuffer : Bool
  /-- the room for the response -/
  capacity : Nat
  /-- the request has been released -/
  released : Bool
  response : List UInt8
  sent : List (List UInt8)
  deriving DecidableEq, Repr

namespace IncomingDiagConnection

/-- A connection that has received `request`. -/
def incoming (request : List UInt8) (inRequestBuffer : Bool) (capacity : Nat) :
    IncomingDiagConnection where
  request := request
  inRequestBuffer := inRequestBuffer
  capacity := capacity
  released := false
  response := []
  sent := []

variable (c : IncomingDiagConnection)

def requestLength : Nat := c.request.length

/-- `request[i]`. A response in the same buffer overwrites the request from its start. -/
def readRequest (i : Nat) : Option UInt8 :=
  if c.released ∧ c.inRequestBuffer ∧ i < c.response.length then c.response[i]? else c.request[i]?

def releaseRequestGetResponse : IncomingDiagConnection := { c with released := true }

/-- Append one byte, if there is room for it. -/
def appendUint8 (byte : UInt8) : IncomingDiagConnection :=
  if c.response.length < c.capacity then { c with response := c.response ++ [byte] } else c

def getLength : Nat := c.response.length

/-- The framework puts the service id of a positive response in front. -/
def sendPositiveResponseInternal (length : Nat) (serviceId : UInt8) : IncomingDiagConnection :=
  { c with sent := c.sent ++ [(serviceId + 0x40) :: c.response.take length] }

end IncomingDiagConnection

/-- What the services need of a DTC store. -/
class IDtcProvider (σ : Type) where
  getStatusAvailabilityMask : σ → UInt8
  countByStatusMask : σ → UInt8 → Nat
  getDtcCount : σ → Nat
  getDtcByIndex : σ → Nat → Option DiagnosticTroubleCode
  findDtcByNumber : σ → UInt32 → Option DiagnosticTroubleCode
  clearAll : σ → σ
  clearByNumber : σ → UInt32 → Bool × σ

/-- The methods of the store that `DtcSimulator` forwards to. -/
instance (N : Nat) : IDtcProvider (DiagnosticTroubleCodeStore N) where
  getStatusAvailabilityMask _ := DiagnosticTroubleCodeStore.getStatusAvailabilityMask
  countByStatusMask s := s.countByStatusMask
  getDtcCount s := s.getCount
  getDtcByIndex s := s.getDtcByIndex
  findDtcByNumber s := s.findDtcByNumber
  clearAll s := s.clearAll
  clearByNumber s := s.clearByNumber

instance : IDtcProvider DtcSimulator where
  getStatusAvailabilityMask _ := DiagnosticTroubleCodeStore.getStatusAvailabilityMask
  countByStatusMask sim := sim.dtcStore.countByStatusMask
  getDtcCount sim := sim.dtcStore.getCount
  getDtcByIndex sim := sim.dtcStore.getDtcByIndex
  findDtcByNumber sim := sim.dtcStore.findDtcByNumber
  clearAll sim := sim.clearAll
  clearByNumber sim := sim.clearByNumber

/-- A 24-bit number from its three bytes. -/
def numberOfBytes (high middle low : UInt8) : UInt32 :=
  (high.toUInt32 <<< 16) ||| (middle.toUInt32 <<< 8) ||| low.toUInt32

variable {σ : Type} [IDtcProvider σ]

namespace ReadDTCInformation

open IDtcProvider

def serviceId : UInt8 := 0x19
def reportNumberOfDtcByStatusMask : UInt8 := 0x01
def reportDtcByStatusMask : UInt8 := 0x02
def reportDtcExtDataRecordByDtcNumber : UInt8 := 0x06
def dtcFormatIdentifier : UInt8 := 0x01

/-- `serviceVerify` is `Service::verify` of the framework. -/
def verify (serviceVerify : List UInt8 → DiagReturnCode) (request : List UInt8) : DiagReturnCode :=
  let result := serviceVerify request
  if result = .ok ∧ request.length < 2 then .isoInvalidFormat else result

def processReportNumberOfDtcByStatusMask (provider : σ) (connection : IncomingDiagConnection)
    (statusMask : UInt8) : DiagReturnCode × σ × IncomingDiagConnection :=
  let response := connection.releaseRequestGetResponse
  let availabilityMask := getStatusAvailabilityMask provider
  let effectiveMask := statusMask &&& availabilityMask
  let count := countByStatusMask provider effectiveMask
  let response := response.appendUint8 reportNumberOfDtcByStatusMask
  let response := response.appendUint8 availabilityMask
  let response := response.appendUint8 dtcFormatIdentifier
  let response := response.appendUint8 (UInt8.ofNat ((count >>> 8) &&& 0xFF))
  let response := response.appendUint8 (UInt8.ofNat (count &&& 0xFF))
  (.ok, provider, response.sendPositiveResponseInternal response.getLength serviceId)

/-- The four bytes of a DTC in the fault list. -/
def appendDtc (response : IncomingDiagConnection) (dtc : DiagnosticTroubleCode) :
    IncomingDiagConnection :=
  let response := response.appendUint8 dtc.getDtcHighByte
  let response := response.appendUint8 dtc.getDtcMiddleByte
  let response := response.appendUint8 dtc.getDtcLowByte
  response.appendUint8 dtc.getStatusByte

def processReportDtcByStatusMask (provider : σ) (connection : IncomingDiagConnection)
    (statusMask : UInt8) : DiagReturnCode × σ × IncomingDiagConnection :=
  let response := connection.releaseRequestGetResponse
  let availabilityMask := getStatusAvailabilityMask provider
  let effectiveMask := statusMask &&& availabilityMask
  let response := response.appendUint8 reportDtcByStatusMask
  let response := response.appendUint8 availabilityMask
  let response := (List.range (getDtcCount provider)).foldl
    (fun response i =>
      match getDtcByIndex provider i with
      | some dtc => if dtc.matchesStatusMask effectiveMask then appendDtc response dtc else response
      | none => response)
    response
  (.ok, provider, response.sendPositiveResponseInternal response.getLength serviceId)

/-- The extended data that goes with the number `dtcNumber`: 1 while the test fails, 0 otherwise. -/
def occurrenceCounter (dtc : DiagnosticTroubleCode) : UInt8 :=
  if dtc.getStatusByte &&& StatusBit.testFailed ≠ 0 then 0x01 else 0x00

def processReportDtcExtDataRecord (provider : σ) (connection : IncomingDiagConnection) :
    Option (DiagReturnCode × σ × IncomingDiagConnection) := do
  if connection.requestLength < 5 then
    return (.isoInvalidFormat, provider, connection)
  let dtcNumber := numberOfBytes (← connection.readRequest 1) (← connection.readRequest 2)
    (← connection.readRequest 3)
  match findDtcByNumber provider dtcNumber with
  | none => return (.isoRequestOutOfRange, provider, connection)
  | some dtc =>
    let response := connection.releaseRequestGetResponse
    let response := response.appendUint8 reportDtcExtDataRecordByDtcNumber
    let response := appendDtc response dtc
    -- `request[4]` is read after five bytes of the response have been written
    let response := response.appendUint8 (← response.readRequest 4)
    let response := response.appendUint8 (occurrenceCounter dtc)
    return (.ok, provider, response.sendPositiveResponseInternal response.getLength serviceId)

def process (provider : σ) (connection : IncomingDiagConnection) :
    Option (DiagReturnCode × σ × IncomingDiagConnection) := do
  let subFunction := (← connection.readRequest 0) &&& 0x7F
  if subFunction = reportNumberOfDtcByStatusMask then
    if connection.requestLength < 2 then
      return (.isoInvalidFormat, provider, connection)
    return processReportNumberOfDtcByStatusMask provider connection (← connection.readRequest 1)
  else if subFunction = reportDtcByStatusMask then
    if connection.requestLength < 2 then
      return (.isoInvalidFormat, provider, connection)
    return processReportDtcByStatusMask provider connection (← connection.readRequest 1)
  else if subFunction = reportDtcExtDataRecordByDtcNumber then
    processReportDtcExtDataRecord provider connection
  else
    return (.isoSubfunctionNotSupported, provider, connection)

/-- The framework runs `process` only when `verify` has accepted the request. -/
def handle (serviceVerify : List UInt8 → DiagReturnCode) (provider : σ)
    (connection : IncomingDiagConnection) :
    Option (DiagReturnCode × σ × IncomingDiagConnection) :=
  match verify serviceVerify connection.request with
  | .ok => process provider connection
  | code => some (code, provider, connection)

end ReadDTCInformation

namespace ClearDiagnosticInformation

open IDtcProvider

def serviceId : UInt8 := 0x14
def groupOfAllDtcs : UInt32 := 0xFFFFFF
def expectedRequestLength : Nat := 3

def verify (serviceVerify : List UInt8 → DiagReturnCode) (request : List UInt8) : DiagReturnCode :=
  let result := serviceVerify request
  if result = .ok ∧ request.length ≠ expectedRequestLength then .isoInvalidFormat else result

/-- An empty positive response. -/
def respond (connection : IncomingDiagConnection) : IncomingDiagConnection :=
  let response := connection.releaseRequestGetResponse
  response.sendPositiveResponseInternal response.getLength serviceId

def process (provider : σ) (connection : IncomingDiagConnection) :
    Option (DiagReturnCode × σ × IncomingDiagConnection) := do
  let groupOfDtc := numberOfBytes (← connection.readRequest 0) (← connection.readRequest 1)
    (← connection.readRequest 2)
  if groupOfDtc = groupOfAllDtcs then
    return (.ok, clearAll provider, respond connection)
  else
    match clearByNumber provider groupOfDtc with
    | (true, provider) => return (.ok, provider, respond connection)
    | (false, provider) => return (.isoRequestOutOfRange, provider, connection)

/-- The framework runs `process` only when `verify` has accepted the request. -/
def handle (serviceVerify : List UInt8 → DiagReturnCode) (provider : σ)
    (connection : IncomingDiagConnection) :
    Option (DiagReturnCode × σ × IncomingDiagConnection) :=
  match verify serviceVerify connection.request with
  | .ok => process provider connection
  | code => some (code, provider, connection)

end ClearDiagnosticInformation

end SovdDemo.Uds
