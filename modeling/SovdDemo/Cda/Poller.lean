import SovdDemo.Cda.Replies

/-!
# The background poller

`_poll_ecu_once` sends four requests over one connection and appends what it decodes to the
histories. Whatever fails in one request is swallowed, and the next request goes out on the same
connection.

## Main definitions

- `pollEcuOnce` — one round of the poller
- `Poll` — one request of a round
- `World.polled` — what a request leaves behind
- `deliveries` — which reply is received for which request

## Main results

- `faultSnap_eq_statusByNumber`, `pollValue_eq` — what is decoded from a reply
- `pollEcuOnce_eq` — a round is one request after the other
-/

namespace SovdDemo.Cda

open Foundations

def pollDids : List String := ["CF10", "CF11", "CF12"]

def pollComponent : String := "openbsw-ecu"

/-- `try: .. except Exception: log`. -/
def attempt (body : Py Unit) : Py Unit := fun w =>
  match body w with
  | .ok () w => .ok () w
  | .error _ w => .ok () w

/-! The histories -/

/-- Append a sample to the history of a DID, which is created when it is missing. -/
def World.recordSample (w : World) (didHex : String) (sample : Sample) (resp : List UInt8) :
    World :=
  { w with
    sensorHistory :=
      w.sensorHistory.set didHex (((w.sensorHistory.get didHex).getD .empty).append sample)
    sampleSources := w.sampleSources ++ [(didHex, sample, resp)] }

def World.recordSnapshot (w : World) (snapshot : Snapshot) (resp : List UInt8) : World :=
  { w with
    faultHistory := w.faultHistory.append snapshot
    snapshotSources := w.snapshotSources ++ [(snapshot, resp)] }

/-! The requests -/

/-- `f"0x{did_str.upper()}"`, for letters of ASCII. -/
def pollHex (didStr : String) : String := "0x" ++ String.ofList (didStr.toList.map Char.toUpper)

/-- The value of a sample. Unlike `read_data` the poller knows no `int16`. -/
def pollValue (fmt : String) (dataBytes : List UInt8) : Except PyException (Option Int) :=
  if fmt = "int32" ∧ 4 ≤ dataBytes.length then
    some <$> unpacked (unpackInt32 (dataBytes.take 4))
  else if fmt = "uint16" ∧ 2 ≤ dataBytes.length then
    some <$> unpacked (unpackUInt16 (dataBytes.take 2))
  else .ok none

/-- The body of the loop over the DIDs. -/
def pollDid (env : PyEnv) (didCatalog : Dict DidInfo) (ts : Int) (didStr : String) : Py Unit := do
  let didNum ← parseInt env didStr
  sendDiagnostic (← toBytes [0x22, byteOf didNum 8, byteOf didNum 0])
  match ← receiveDiagnostic with
  | none => pure ()
  | some resp =>
    if 7 ≤ resp.length ∧ resp[0]? = some 0x62 then
      let cat := (didCatalog.get (pollHex didStr)).getD .unlisted
      match ← ofExcept (pollValue (cat.format.getD "raw") (resp.drop 3)) with
      | some value => modify fun w => w.recordSample (pollHex didStr) (ts, value) resp
      | none => pure ()

/-- The loop that fills `fault_snap`. -/
def faultSnap (records : List (Nat × UInt8)) : Dict UInt8 :=
  records.foldl (fun snap (dtcNum, statusByte) => Dict.set snap (dtcHex dtcNum) statusByte) []

def pollFaults (ts : Int) : Py Unit := do
  sendDiagnostic (← toBytes [0x19, 0x02, 0xFF])
  match ← receiveDiagnostic with
  | none => pure ()
  | some resp =>
    if 3 ≤ resp.length ∧ resp[0]? = some 0x59 then
      let records ← ofExcept (dtcRecords (resp.drop 3))
      modify fun w => w.recordSnapshot (ts, faultSnap records) resp

/-- `_poll_ecu_once`, at the time `ts`. -/
def pollEcuOnce (env : PyEnv) (catalog : Catalog) (ts : Int) : Py Unit :=
  match catalog.components.get pollComponent with
  | none => pure ()
  | some comp => attempt do
    openClient env comp.doip
    -- each request has its own `try`, and all of them share the connection
    pollDids.forM fun didStr => attempt (pollDid env comp.dids ts didStr)
    attempt (pollFaults ts)
    closeClient

/-! One request of a round -/

inductive Poll
  | did (didStr : String)
  | faults
  deriving DecidableEq, Repr

/-- The requests of a round, in their order. -/
def polls : List Poll := pollDids.map .did ++ [.faults]

namespace Poll

/-- The integer a DID of the poller denotes. -/
def didNumber (didStr : String) : Int := (intBase16 didStr).getD 0

def request : Poll → List UInt8
  | .did didStr => [0x22, Call.wireByte (didNumber didStr) 8, Call.wireByte (didNumber didStr) 0]
  | .faults => [0x19, 0x02, 0xFF]

end Poll

/-- The value of at least four bytes. -/
def sampleValue (fmt : String) (dataBytes : List UInt8) : Option Int :=
  if fmt = "int32" then some (signed 32 (beNat (dataBytes.take 4)))
  else if fmt = "uint16" then some (beNat (dataBytes.take 2))
  else none

/-- The value the poller takes from a reply to a request for a DID. -/
def sampleOf (didCatalog : Dict DidInfo) (didStr : String) (resp : List UInt8) : Option Int :=
  if 7 ≤ resp.length ∧ resp[0]? = some 0x62 then
    sampleValue (((didCatalog.get (pollHex didStr)).getD .unlisted).format.getD "raw") (resp.drop 3)
  else none

/-- The status bytes of a fault list by their numbers: a number stands where it first occurs, with
the status byte of its last record. -/
def statusByNumber (records : List (Nat × UInt8)) : Dict UInt8 :=
  .ofAssignments (records.map fun (dtcNum, statusByte) => (dtcHex dtcNum, statusByte))

/-- The snapshot the poller takes from a reply to its request for the faults. -/
def snapshotOf (resp : List UInt8) : Option (Dict UInt8) :=
  if 3 ≤ resp.length ∧ resp[0]? = some 0x59 then some (statusByNumber (recordsOf (resp.drop 3)))
  else none

/-- What a reply to a request adds to the histories. -/
def World.recorded (w : World) (didCatalog : Dict DidInfo) (ts : Int) (poll : Poll)
    (resp : List UInt8) : World :=
  match poll with
  | .did didStr =>
    match sampleOf didCatalog didStr resp with
    | some value => w.recordSample (pollHex didStr) (ts, value) resp
    | none => w
  | .faults =>
    match snapshotOf resp with
    | some snapshot => w.recordSnapshot (ts, snapshot) resp
    | none => w

/-- What a request leaves behind. -/
def World.polled (w : World) (didCatalog : Dict DidInfo) (ts : Int) (poll : Poll) : World :=
  match sendAndReceive w with
  | .reply resp => (w.exchanged poll.request).recorded didCatalog ts poll resp
  | _ => w.exchanged poll.request

theorem sendReceive_eq (request : List UInt8) (w : World) :
    (do sendDiagnostic request; receiveDiagnostic : Py (Option (List UInt8))) w =
      match sendAndReceive w with
      | .reply resp => .ok (some resp) (w.exchanged request)
      | .noReply => .ok none (w.exchanged request)
      | .notConnected e | .sendFailed e | .receiveFailed e => .error e (w.exchanged request) := by
  rcases hs : w.sends.head? with _ | _ | e
  · rcases received_cases w.inbox with hr | ⟨e, hr⟩ | ⟨resp, hr⟩ <;>
      simp [sendDiagnostic_eq, receiveDiagnostic_eq, sendAndReceive, hs, hr, World.exchanged]
  · rcases received_cases w.inbox with hr | ⟨e, hr⟩ | ⟨resp, hr⟩ <;>
      simp [sendDiagnostic_eq, receiveDiagnostic_eq, sendAndReceive, hs, hr, World.exchanged]
  · simp [sendDiagnostic_eq, sendAndReceive, hs, World.exchanged]

theorem pollValue_eq (fmt : String) {dataBytes : List UInt8} (h : 4 ≤ dataBytes.length) :
    pollValue fmt dataBytes = .ok (sampleValue fmt dataBytes) := by
  have htwo : 2 ≤ dataBytes.length := by omega
  rw [pollValue, sampleValue]
  by_cases hint : fmt = "int32"
  · simp [hint, unpacked, unpackInt32, h]
  · by_cases huint : fmt = "uint16"
    · simp [huint, unpacked, unpackUInt16, htwo]
    · simp [hint, huint]

theorem faultSnap_eq_statusByNumber (records : List (Nat × UInt8)) :
    faultSnap records = statusByNumber records := by
  rw [statusByNumber, ← Dict.foldl_set_eq_ofAssignments, List.foldl_map, faultSnap]

/-- Every DID of the poller denotes an integer, and so does the key of its history. -/
theorem intBase16_pollDids : ∀ didStr ∈ pollDids,
    intBase16 didStr = some (Poll.didNumber didStr) ∧
      intBase16 (pollHex didStr) = some (Poll.didNumber didStr) := by
  decide

theorem attempt_pollDid_eq (env : PyEnv) (didCatalog : Dict DidInfo) (ts : Int) {didStr : String}
    (hd : didStr ∈ pollDids) (w : World) :
    attempt (pollDid env didCatalog ts didStr) w =
      .ok () (w.polled didCatalog ts (.did didStr)) := by
  obtain ⟨hn, -⟩ := intBase16_pollDids didStr hd
  let n := Poll.didNumber didStr
  have hbytes : toBytes [0x22, byteOf n 8, byteOf n 0] = pure (Poll.did didStr).request :=
    Call.toBytes_byteOf _ (by simp [Call.byteOf_mem_range])
  have hbody : pollDid env didCatalog ts didStr = (do
      let resp ← (do sendDiagnostic (Poll.did didStr).request; receiveDiagnostic)
      match resp with
      | none => pure ()
      | some resp =>
        if 7 ≤ resp.length ∧ resp[0]? = some 0x62 then
          let cat := (didCatalog.get (pollHex didStr)).getD .unlisted
          match ← ofExcept (pollValue (cat.format.getD "raw") (resp.drop 3)) with
          | some value => modify fun w => w.recordSample (pollHex didStr) (ts, value) resp
          | none => pure ()) := by
    simp only [pollDid, parseInt, hn, pure_bind, bind_assoc]
    rw [hbytes, pure_bind]
  rw [attempt, hbody, Py.bind_apply, sendReceive_eq, World.polled]
  cases hx : sendAndReceive w with
  | notConnected e => rfl
  | sendFailed e => rfl
  | receiveFailed e => rfl
  | noReply => rfl
  | reply resp =>
    dsimp only
    by_cases h : 7 ≤ resp.length ∧ resp[0]? = some 0x62
    · have hlen : 4 ≤ (resp.drop 3).length := by
        rw [List.length_drop]
        omega
      rw [if_pos h, pollValue_eq _ hlen, World.recorded, sampleOf, if_pos h]
      cases sampleValue (((didCatalog.get (pollHex didStr)).getD .unlisted).format.getD "raw")
        (resp.drop 3) <;> rfl
    · rw [if_neg h, World.recorded, sampleOf, if_neg h]
      rfl

theorem attempt_pollFaults_eq (didCatalog : Dict DidInfo) (ts : Int) (w : World) :
    attempt (pollFaults ts) w = .ok () (w.polled didCatalog ts .faults) := by
  have hbody : pollFaults ts = (do
      let resp ← (do sendDiagnostic Poll.faults.request; receiveDiagnostic)
      match resp with
      | none => pure ()
      | some resp =>
        if 3 ≤ resp.length ∧ resp[0]? = some 0x59 then
          let records ← ofExcept (dtcRecords (resp.drop 3))
          modify fun w => w.recordSnapshot (ts, faultSnap records) resp) := by
    simp only [bind_assoc]
    rfl
  rw [attempt, hbody, Py.bind_apply, sendReceive_eq, World.polled]
  cases hx : sendAndReceive w with
  | notConnected e => rfl
  | sendFailed e => rfl
  | receiveFailed e => rfl
  | noReply => rfl
  | reply resp =>
    dsimp only
    by_cases h : 3 ≤ resp.length ∧ resp[0]? = some 0x59
    · rw [if_pos h, dtcRecords_eq, World.recorded, snapshotOf, if_pos h,
        ← faultSnap_eq_statusByNumber]
      rfl
    · rw [if_neg h, World.recorded, snapshotOf, if_neg h]
      rfl

/-! Which reply is received for which request -/

/-- The replies a list of requests receives, given what sending and receiving will do. -/
def deliveries {α : Type} :
    List α → List (Option PyException) → List Received → List (α × List UInt8)
  | [], _, _ => []
  | a :: as, sends, inbox =>
    match sends.head? with
    -- the send raises, so the reply that would come next is left for the next request
    | some (some _) => deliveries as sends.tail inbox
    | _ =>
      match inbox.head? with
      | some (.reply (some resp)) => (a, resp) :: deliveries as sends.tail inbox.tail
      | _ => deliveries as sends.tail inbox.tail

theorem recorded_sends (w : World) (didCatalog : Dict DidInfo) (ts : Int) (poll : Poll)
    (resp : List UInt8) : (w.recorded didCatalog ts poll resp).sends = w.sends ∧
      (w.recorded didCatalog ts poll resp).inbox = w.inbox := by
  simp only [World.recorded]
  split <;> split <;> simp [World.recordSample, World.recordSnapshot]

theorem polled_sends (w : World) (didCatalog : Dict DidInfo) (ts : Int) (poll : Poll) :
    (w.polled didCatalog ts poll).sends = (w.exchanged poll.request).sends ∧
      (w.polled didCatalog ts poll).inbox = (w.exchanged poll.request).inbox := by
  rw [World.polled]
  split
  · exact recorded_sends _ didCatalog ts poll _
  · exact ⟨rfl, rfl⟩

/-- The first request takes the reply of `sendAndReceive`, the others what is left. -/
theorem deliveries_cons {α : Type} (a : α) (as : List α) (w : World) (request : List UInt8) :
    deliveries (a :: as) w.sends w.inbox =
      (match sendAndReceive w with
        | .reply resp => [(a, resp)]
        | _ => []) ++
      deliveries as (w.exchanged request).sends (w.exchanged request).inbox := by
  rw [deliveries]
  rcases hs : w.sends.head? with _ | _ | e
  · rcases hi : w.inbox with _ | ⟨_ | _ | _, rest⟩ <;>
      simp [sendAndReceive, received, World.exchanged, hs, hi]
  · rcases hi : w.inbox with _ | ⟨_ | _ | _, rest⟩ <;>
      simp [sendAndReceive, received, World.exchanged, hs, hi]
  · simp [sendAndReceive, World.exchanged, hs]

/-! A whole round -/

theorem forM_attempt_pollDid (env : PyEnv) (didCatalog : Dict DidInfo) (ts : Int)
    (didStrs : List String) (h : ∀ didStr ∈ didStrs, didStr ∈ pollDids) (w : World) :
    (didStrs.forM fun didStr => attempt (pollDid env didCatalog ts didStr)) w =
      .ok () ((didStrs.map Poll.did).foldl (fun w poll => w.polled didCatalog ts poll) w) := by
  induction didStrs generalizing w with
  | nil => rfl
  | cons didStr didStrs ih =>
    obtain ⟨hd, hds⟩ := List.forall_mem_cons.mp h
    show (attempt (pollDid env didCatalog ts didStr) >>= fun _ =>
      didStrs.forM fun didStr => attempt (pollDid env didCatalog ts didStr)) w = _
    rw [Py.bind_apply, attempt_pollDid_eq env didCatalog ts hd]
    exact ih hds _

/-- The requests of a round, one after the other. -/
def World.pollAll (w : World) (didCatalog : Dict DidInfo) (ts : Int) (ps : List Poll) : World :=
  ps.foldl (fun w poll => w.polled didCatalog ts poll) w

/-- A round is its four requests, if the component is known and the client can be created. -/
theorem pollEcuOnce_eq (env : PyEnv) (catalog : Catalog) (ts : Int) (w : World) :
    pollEcuOnce env catalog ts w = .ok () (match catalog.components.get pollComponent with
      | none => w
      | some comp =>
        match openClient env comp.doip w with
        | .error _ _ => w
        | .ok _ _ => w.pollAll comp.dids ts polls) := by
  rw [pollEcuOnce]
  cases hc : catalog.components.get pollComponent with
  | none => rfl
  | some comp =>
    dsimp only
    rw [attempt]
    rcases openClient_cases env comp.doip w with ho | ⟨e, ho⟩
    · have hclose : ∀ w : World, closeClient w = .ok () w ∨ ∃ e, closeClient w = .error e w := by
        intro w
        cases hw : w.close <;> simp [closeClient, hw]
      have hall : w.pollAll comp.dids ts polls =
          ((pollDids.map Poll.did).foldl (fun w poll => w.polled comp.dids ts poll) w).polled
            comp.dids ts .faults := by
        rw [World.pollAll, polls, List.foldl_append]
        rfl
      rw [Py.bind_apply, ho]
      dsimp only
      rw [Py.bind_apply, forM_attempt_pollDid env comp.dids ts pollDids (fun _ h => h)]
      dsimp only
      rw [Py.bind_apply, attempt_pollFaults_eq comp.dids ts, hall]
      dsimp only
      rcases hclose (((pollDids.map Poll.did).foldl (fun w poll => w.polled comp.dids ts poll)
        w).polled comp.dids ts .faults) with hcl | ⟨e, hcl⟩ <;> rw [hcl]
    · rw [Py.bind_apply, ho]

end SovdDemo.Cda
