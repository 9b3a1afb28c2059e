import SovdDemo.Cda.Endpoints

/-!
# One request and its outcome

Every endpoint sends one request. `exchange` says what happens to it, read off the world before the
call; `Exchange.chosen` is what `_send_uds` makes of it, and `Exchange.outcome` what comes out of
the `with` block around it.

## Main definitions

- `Exchange` — what can happen to a request
- `Call` — a call of one of the four endpoints, with its identifier
- `Call.run` — the endpoint itself

## Main results

- `doipConnection_sendUds` — how a `with` block ends, and what it leaves behind
- `Call.run_eq` — the same for an endpoint
- `Call.exists_reply_of_run_eq_ok` — behind every response there is a reply that was decoded
-/

namespace SovdDemo.Cda

open Foundations

/-- The code of a negative response. -/
def negativeResponseCode : List UInt8 → Option UInt8
  | sid :: _ :: nrc :: _ => if sid = 0x7F then some nrc else none
  | _ => none

/-- What can happen to a request. -/
inductive Exchange
  | notConnected (e : PyException)
  | sendFailed (e : PyException)
  | receiveFailed (e : PyException)
  | noReply
  | reply (payload : List UInt8)
  deriving DecidableEq, Repr

namespace Exchange

/-- What `_send_uds` makes of it. -/
def chosen : Exchange → Except PyException (List UInt8)
  | .notConnected e | .sendFailed e | .receiveFailed e => .error e
  | .noReply => .error noResponse
  | .reply payload =>
    match negativeResponseCode payload with
    | some nrc => .error (negativeResponse nrc)
    | none => .ok payload

/-- What comes out of the `with` block. -/
def outcome (env : PyEnv) (x : Exchange) : Except PyException (List UInt8) :=
  x.chosen.mapError (communicationError env)

theorem outcome_eq_ok_iff {env : PyEnv} {x : Exchange} {resp : List UInt8} :
    x.outcome env = .ok resp ↔ x = .reply resp ∧ negativeResponseCode resp = none := by
  cases x with
  | notConnected e => simp [outcome, chosen, Except.mapError]
  | sendFailed e => simp [outcome, chosen, Except.mapError]
  | receiveFailed e => simp [outcome, chosen, Except.mapError]
  | noReply => simp [outcome, chosen, Except.mapError]
  | reply payload =>
    cases hn : negativeResponseCode payload with
    | none =>
      simp only [outcome, chosen, hn, Except.mapError, Except.ok.injEq, reply.injEq]
      refine ⟨fun h => ⟨h, h ▸ hn⟩, fun h => h.1⟩
    | some nrc =>
      simp only [outcome, chosen, hn, Except.mapError, reduceCtorEq, reply.injEq, false_iff]
      rintro ⟨rfl, h⟩
      rw [hn] at h
      cases h

/-- The payload of a reply. -/
def payload : Exchange → Option (List UInt8)
  | .reply payload => some payload
  | _ => none

theorem payload_eq_some_iff {x : Exchange} {resp : List UInt8} :
    x.payload = some resp ↔ x = .reply resp := by
  cases x <;> simp [payload]

end Exchange

/-- What receiving delivers. -/
def received (inbox : List Received) : Exchange :=
  match inbox with
  | [] | .reply none :: _ => .noReply
  | .raises e :: _ => .receiveFailed e
  | .reply (some payload) :: _ => .reply payload

/-- Sending and receiving on an open connection. -/
def sendAndReceive (w : World) : Exchange :=
  match w.sends.head? with
  | some (some e) => .sendFailed e
  | _ => received w.inbox

/-- What happens to the request of a `with` block. -/
def exchange (env : PyEnv) (comp : Component) (w : World) : Exchange :=
  match openClient env comp.doip w with
  | .error e _ => .notConnected e
  | .ok _ _ => sendAndReceive w

/-- The world after a request has been sent and, unless that raises, a reply been waited for. -/
def World.exchanged (w : World) (request : List UInt8) : World :=
  { w with
    sent := w.sent ++ [request]
    sends := w.sends.tail
    inbox := match w.sends.head? with
      | some (some _) => w.inbox
      | _ => w.inbox.tail }

/-- The same, when the connection may not come about. -/
def World.afterCall (env : PyEnv) (comp : Component) (w : World) (request : List UInt8) : World :=
  match exchange env comp w with
  | .notConnected _ => w
  | _ => w.exchanged request

/-- A result in a world. -/
def resultIn {α : Type} (w : World) : Except PyException α → EStateM.Result PyException World α
  | .ok a => .ok a w
  | .error e => .error e w

/-- The world a call ends in. -/
def finalWorld {α : Type} : EStateM.Result PyException World α → World
  | .ok _ w => w
  | .error _ w => w

@[simp] theorem finalWorld_resultIn {α : Type} (w : World) (r : Except PyException α) :
    finalWorld (resultIn w r) = w := by
  cases r <;> rfl

theorem resultIn_eq_ok_iff {α : Type} {w w' : World} {r : Except PyException α} {a : α} :
    resultIn w r = .ok a w' ↔ r = .ok a ∧ w = w' := by
  cases r <;> simp [resultIn]

/-- Creating the client leaves the world alone. -/
theorem openClient_cases (env : PyEnv) (cfg : DoipConfig) (w : World) :
    openClient env cfg w = .ok () w ∨ ∃ e, openClient env cfg w = .error e w := by
  cases he : intBase16 cfg.ecuLogicalAddress with
  | none => exact .inr ⟨invalidLiteral env cfg.ecuLogicalAddress,
      by simp [openClient, parseInt, he]⟩
  | some a =>
    cases hc : intBase16 cfg.clientLogicalAddress with
    | none => exact .inr ⟨invalidLiteral env cfg.clientLogicalAddress,
      by simp [openClient, parseInt, he, hc]⟩
    | some b =>
      cases hw : w.connect with
      | none => exact .inl (by simp [openClient, parseInt, he, hc, hw])
      | some e => exact .inr ⟨e, by simp [openClient, parseInt, he, hc, hw]⟩

/-- So does closing it. -/
@[simp] theorem closeQuietly_eq (w : World) : closeQuietly w = w := by
  cases hw : w.close <;> simp [closeQuietly, closeClient, hw]

theorem sendDiagnostic_eq (request : List UInt8) (w : World) :
    sendDiagnostic request w =
      let w' := { w with sent := w.sent ++ [request], sends := w.sends.tail }
      match w.sends.head? with
      | some (some e) => .error e w'
      | _ => .ok () w' := by
  rcases hs : w.sends.head? with _ | _ | e <;> simp [sendDiagnostic, hs]

theorem receiveDiagnostic_eq (w : World) :
    receiveDiagnostic w =
      let w' := { w with inbox := w.inbox.tail }
      match received w.inbox with
      | .reply payload => .ok (some payload) w'
      | .noReply => .ok none w'
      | .receiveFailed e | .notConnected e | .sendFailed e => .error e w' := by
  rcases hi : w.inbox with _ | ⟨_ | _ | _, rest⟩ <;> simp [receiveDiagnostic, received, hi]
  rw [← hi]

theorem received_cases (inbox : List Received) :
    received inbox = .noReply ∨ (∃ e, received inbox = .receiveFailed e) ∨
      ∃ payload, received inbox = .reply payload := by
  rcases inbox with _ | ⟨_ | _ | _, rest⟩ <;> simp [received]

/-- The check raises for a negative response and for nothing else. -/
theorem checkNegativeResponse_eq (resp : List UInt8) :
    checkNegativeResponse resp = match negativeResponseCode resp with
      | some nrc => .error (negativeResponse nrc)
      | none => .ok () := by
  rcases resp with _ | ⟨sid, _ | ⟨b, _ | ⟨nrc, rest⟩⟩⟩
  · rfl
  · rfl
  · rfl
  · -- of three bytes, the first and the third can be read
    have hlen : 3 ≤ (sid :: b :: nrc :: rest).length := Nat.le_add_left 3 rest.length
    have hsid : index (sid :: b :: nrc :: rest) 0 = .ok sid := rfl
    have hnrc : index (sid :: b :: nrc :: rest) 2 = .ok nrc := rfl
    rw [checkNegativeResponse, if_pos hlen, hsid, hnrc, negativeResponseCode]
    by_cases h : sid = 0x7F
    · simp only [h, if_true]
      rfl
    · simp only [h, if_false]
      exact if_neg h

theorem sendUds_eq (request : List UInt8) (w : World) :
    sendUds request w = resultIn (w.exchanged request) (sendAndReceive w).chosen := by
  -- a send without a recorded outcome succeeds, just like one that is recorded to
  have hreceived : w.sends.head? = none ∨ w.sends.head? = some none →
      sendUds request w = resultIn (w.exchanged request) (received w.inbox).chosen := by
    intro hs
    rcases received_cases w.inbox with hr | ⟨e, hr⟩ | ⟨payload, hr⟩
    · rcases hs with hs | hs <;>
        simp [sendUds, sendDiagnostic_eq, receiveDiagnostic_eq, hs, hr, Exchange.chosen, resultIn,
          World.exchanged]
    · rcases hs with hs | hs <;>
        simp [sendUds, sendDiagnostic_eq, receiveDiagnostic_eq, hs, hr, Exchange.chosen, resultIn,
          World.exchanged]
    · cases hn : negativeResponseCode payload <;> rcases hs with hs | hs <;>
        simp [sendUds, sendDiagnostic_eq, receiveDiagnostic_eq, checkNegativeResponse_eq, hs, hr,
          hn, Exchange.chosen, resultIn, World.exchanged]
  rcases hs : w.sends.head? with _ | _ | e
  · rw [hreceived (.inl hs), sendAndReceive, hs]
  · rw [hreceived (.inr hs), sendAndReceive, hs]
  · simp [sendUds, sendDiagnostic_eq, sendAndReceive, hs, Exchange.chosen, resultIn,
      World.exchanged]

/-- Once connected, the exchange is one of the four kinds of `sendAndReceive`. -/
theorem sendAndReceive_ne_notConnected (w : World) (e : PyException) :
    sendAndReceive w ≠ .notConnected e := by
  rw [sendAndReceive]
  split
  · exact Exchange.noConfusion
  · obtain h | ⟨_, h⟩ | ⟨_, h⟩ := received_cases w.inbox <;> rw [h] <;> exact Exchange.noConfusion

theorem afterCall_of_open {env : PyEnv} {comp : Component} {w : World}
    (h : openClient env comp.doip w = .ok () w) (request : List UInt8) :
    w.afterCall env comp request = w.exchanged request := by
  unfold World.afterCall exchange
  rw [h]
  dsimp only
  split
  · rename_i e he
    exact absurd he (sendAndReceive_ne_notConnected w e)
  · rfl

theorem doipConnection_sendUds (env : PyEnv) (comp : Component) (request : List UInt8)
    (w : World) :
    doipConnection env comp (sendUds request) w =
      resultIn (w.afterCall env comp request) ((exchange env comp w).outcome env) := by
  rcases openClient_cases env comp.doip w with h | ⟨e, h⟩
  · rw [afterCall_of_open h]
    unfold doipConnection exchange
    rw [h]
    dsimp only
    rw [sendUds_eq]
    cases hx : (sendAndReceive w).chosen <;>
      simp [resultIn, Exchange.outcome, hx, Except.mapError]
  · unfold doipConnection World.afterCall exchange
    rw [h]
    rfl

/-! The four endpoints -/

/-- A call of an endpoint, with its identifier or mask. -/
inductive Call
  | readFaults (statusMask : Int)
  | readFaultDetail (dtcId : String)
  | clearFaults (group : String)
  | readData (did : String)
  deriving DecidableEq, Repr

/-- What an endpoint returns. -/
inductive Response
  | faults (list : FaultList)
  | detail (detail : FaultDetail)
  | cleared (cleared : ClearedFaults)
  | data (value : DataValue)
  deriving DecidableEq, Repr

namespace Call

def run (env : PyEnv) (catalog : Catalog) (componentId : String) : Call → Py Response
  | .readFaults statusMask => .faults <$> Cda.readFaults env catalog componentId statusMask
  | .readFaultDetail dtcId => .detail <$> Cda.readFaultDetail env catalog componentId dtcId
  | .clearFaults group => .cleared <$> Cda.clearFaults env catalog componentId group
  | .readData did => .data <$> Cda.readData env catalog componentId did

/-- The integer the identifier denotes in base 16; a mask is given as an integer. -/
def number : Call → Option Int
  | .readFaults statusMask => some statusMask
  | .readFaultDetail dtcId => intBase16 dtcId
  | .clearFaults group => intBase16 group
  | .readData did => intBase16 did

/-- The byte `(n >> shift) & 0xFF` of a request. -/
def wireByte (n : Int) (shift : Nat) : UInt8 := UInt8.ofNat (byteOf n shift).toNat

theorem wireByte_toNat (n : Int) (shift : Nat) :
    ((wireByte n shift).toNat : Int) = byteOf n shift := by
  have h₀ := byteOf_nonneg n shift
  have h := byteOf_lt n shift
  rw [wireByte, UInt8.toNat_ofNat', Nat.mod_eq_of_lt (by omega)]
  omega

/-- The request for the integer `n`. -/
def request (n : Int) : Call → List UInt8
  | .readFaults _ => [0x19, 0x02, wireByte n 0]
  | .readFaultDetail _ => [0x19, 0x06, wireByte n 16, wireByte n 8, wireByte n 0, 0xFF]
  | .clearFaults _ => [0x14, wireByte n 16, wireByte n 8, wireByte n 0]
  | .readData _ => [0x22, wireByte n 8, wireByte n 0]

/-- What the endpoint makes of a reply that is not negative. -/
def decode (comp : Component) (n : Int) : Call → List UInt8 → Except PyException Response
  | .readFaults _, resp => .faults <$> readFaultsReply comp.dtcs resp
  | .readFaultDetail _, resp => .detail <$> readFaultDetailReply comp.dtcs n resp
  | .clearFaults group, resp => .cleared <$> clearFaultsReply group resp
  | .readData _, resp => .data <$> readDataReply comp.dids n resp

variable {env : PyEnv} {catalog : Catalog} {componentId : String} {comp : Component}

theorem toBytes_byteOf (bytes : List Int) (h : ∀ n ∈ bytes, 0 ≤ n ∧ n < 256) :
    toBytes bytes = pure (bytes.map fun n => UInt8.ofNat n.toNat) := by
  have hb : bytesOfInts bytes = some (bytes.map fun n => UInt8.ofNat n.toNat) := by
    induction bytes with
    | nil => rfl
    | cons n ns ih =>
      obtain ⟨hn, hns⟩ := List.forall_mem_cons.mp h
      rw [bytesOfInts_cons hn.1 hn.2, ih hns]
      rfl
  rw [toBytes, hb]

/-- A `with` block with one request, and the decoding of the reply after it. -/
theorem exchangeThen_eq {α : Type} (env : PyEnv) (comp : Component) {bytes : List Int}
    (h : ∀ n ∈ bytes, 0 ≤ n ∧ n < 256) (decode : List UInt8 → Except PyException α) (w : World) :
    (do
      let resp ← doipConnection env comp do
        sendUds (← toBytes bytes)
      ofExcept (decode resp) : Py α) w =
      resultIn (w.afterCall env comp (bytes.map fun n => UInt8.ofNat n.toNat))
        ((exchange env comp w).outcome env >>= decode) := by
  -- the bytes of a request are always in range, so building it never raises
  have hbody : (do sendUds (← toBytes bytes) : Py (List UInt8)) =
      sendUds (bytes.map fun n => UInt8.ofNat n.toNat) := by
    rw [toBytes_byteOf bytes h]
    rfl
  rw [hbody, Py.bind_apply, doipConnection_sendUds]
  cases (exchange env comp w).outcome env with
  | error e => rfl
  | ok resp =>
    show (ofExcept (decode resp) : Py α) _ = resultIn _ (decode resp)
    cases decode resp <;> rfl

theorem map_of_eq_resultIn {α β : Type} {m : Py α} {w w' : World} {r : Except PyException α}
    (h : m w = resultIn w' r) (f : α → β) : (f <$> m) w = resultIn w' (f <$> r) := by
  rw [Py.map_apply, h]
  cases r <;> rfl

/-- An identifier that is not a number is refused before anything is sent. -/
theorem run_of_number_eq_none (hc : catalog.components.get componentId = some comp) {call : Call}
    (hn : call.number = none) :
    ∃ detail, ∀ w, call.run env catalog componentId w = .error (.httpException 400 detail) w := by
  cases call with
  | readFaults statusMask => cases hn
  | readFaultDetail dtcId =>
    have hn : intBase16 dtcId = none := hn
    exact ⟨_, fun w => by simp [run, Cda.readFaultDetail, getComponentConfig, hc, hn]; rfl⟩
  | clearFaults group =>
    have hn : intBase16 group = none := hn
    exact ⟨_, fun w => by simp [run, Cda.clearFaults, getComponentConfig, hc, hn]; rfl⟩
  | readData did =>
    have hn : intBase16 did = none := hn
    exact ⟨_, fun w => by simp [run, Cda.readData, getComponentConfig, hc, hn]; rfl⟩

/-- So is a component that is not in the catalog. -/
theorem run_of_unknown_component (hc : catalog.components.get componentId = none) (call : Call) :
    ∃ detail, ∀ w, call.run env catalog componentId w = .error (.httpException 404 detail) w := by
  cases call with
  | readFaults statusMask =>
    exact ⟨_, fun w => by simp [run, Cda.readFaults, getComponentConfig, hc]; rfl⟩
  | readFaultDetail dtcId =>
    exact ⟨_, fun w => by simp [run, Cda.readFaultDetail, getComponentConfig, hc]; rfl⟩
  | clearFaults group =>
    exact ⟨_, fun w => by simp [run, Cda.clearFaults, getComponentConfig, hc]; rfl⟩
  | readData did =>
    exact ⟨_, fun w => by simp [run, Cda.readData, getComponentConfig, hc]; rfl⟩

/-- A call is refused before anything is sent, or it is for a known component and names a number. -/
theorem run_cases (env : PyEnv) (catalog : Catalog) (componentId : String) (call : Call) :
    (∃ statusCode detail, ∀ w, call.run env catalog componentId w =
      .error (.httpException statusCode detail) w) ∨
    ∃ comp n, catalog.components.get componentId = some comp ∧ call.number = some n := by
  cases hc : catalog.components.get componentId with
  | none =>
    obtain ⟨detail, hrun⟩ : ∃ detail, ∀ w, call.run env catalog componentId w =
        .error (.httpException 404 detail) w := run_of_unknown_component hc call
    exact .inl ⟨404, detail, hrun⟩
  | some comp =>
    cases hn : call.number with
    | none =>
      obtain ⟨detail, hrun⟩ : ∃ detail, ∀ w, call.run env catalog componentId w =
          .error (.httpException 400 detail) w := run_of_number_eq_none hc hn
      exact .inl ⟨400, detail, hrun⟩
    | some n => exact .inr ⟨comp, n, rfl, rfl⟩

theorem byteOf_mem_range (n : Int) (shift : Nat) : 0 ≤ byteOf n shift ∧ byteOf n shift < 256 :=
  ⟨byteOf_nonneg n shift, byteOf_lt n shift⟩

/-! Every endpoint is one exchange and the decoding of its reply. -/

theorem readFaults_eq (hc : catalog.components.get componentId = some comp) (statusMask : Int)
    (w : World) :
    Cda.readFaults env catalog componentId statusMask w =
      resultIn (w.afterCall env comp ((readFaults statusMask).request statusMask))
        ((exchange env comp w).outcome env >>= readFaultsReply comp.dtcs) := by
  have hbytes : ∀ b ∈ [0x19, 0x02, byteOf statusMask 0], 0 ≤ b ∧ b < 256 := by
    simp [byteOf_mem_range]
  have hcall : Cda.readFaults env catalog componentId statusMask = (do
      let resp ← doipConnection env comp do
        sendUds (← toBytes [0x19, 0x02, byteOf statusMask 0])
      ofExcept (readFaultsReply comp.dtcs resp)) := by
    simp [Cda.readFaults, getComponentConfig, hc, byteOf]
  rw [hcall, exchangeThen_eq env comp hbytes]
  rfl

theorem readFaultDetail_eq (hc : catalog.components.get componentId = some comp) {dtcId : String}
    {n : Int} (hn : intBase16 dtcId = some n) (w : World) :
    Cda.readFaultDetail env catalog componentId dtcId w =
      resultIn (w.afterCall env comp ((readFaultDetail dtcId).request n))
        ((exchange env comp w).outcome env >>= readFaultDetailReply comp.dtcs n) := by
  have hbytes : ∀ b ∈ [0x19, 0x06, byteOf n 16, byteOf n 8, byteOf n 0, 0xFF],
      0 ≤ b ∧ b < 256 := by simp [byteOf_mem_range]
  have hcall : Cda.readFaultDetail env catalog componentId dtcId = (do
      let resp ← doipConnection env comp do
        sendUds (← toBytes [0x19, 0x06, byteOf n 16, byteOf n 8, byteOf n 0, 0xFF])
      ofExcept (readFaultDetailReply comp.dtcs n resp)) := by
    simp [Cda.readFaultDetail, getComponentConfig, hc, hn]
  rw [hcall, exchangeThen_eq env comp hbytes]
  rfl

theorem clearFaults_eq (hc : catalog.components.get componentId = some comp) {group : String}
    {n : Int} (hn : intBase16 group = some n) (w : World) :
    Cda.clearFaults env catalog componentId group w =
      resultIn (w.afterCall env comp ((clearFaults group).request n))
        ((exchange env comp w).outcome env >>= clearFaultsReply group) := by
  have hbytes : ∀ b ∈ [0x14, byteOf n 16, byteOf n 8, byteOf n 0], 0 ≤ b ∧ b < 256 := by
    simp [byteOf_mem_range]
  have hcall : Cda.clearFaults env catalog componentId group = (do
      let resp ← doipConnection env comp do
        sendUds (← toBytes [0x14, byteOf n 16, byteOf n 8, byteOf n 0])
      ofExcept (clearFaultsReply group resp)) := by
    simp [Cda.clearFaults, getComponentConfig, hc, hn]
  rw [hcall, exchangeThen_eq env comp hbytes]
  rfl

theorem readData_eq (hc : catalog.components.get componentId = some comp) {did : String}
    {n : Int} (hn : intBase16 did = some n) (w : World) :
    Cda.readData env catalog componentId did w =
      resultIn (w.afterCall env comp ((readData did).request n))
        ((exchange env comp w).outcome env >>= readDataReply comp.dids n) := by
  have hbytes : ∀ b ∈ [0x22, byteOf n 8, byteOf n 0], 0 ≤ b ∧ b < 256 := by
    simp [byteOf_mem_range]
  have hcall : Cda.readData env catalog componentId did = (do
      let resp ← doipConnection env comp do
        sendUds (← toBytes [0x22, byteOf n 8, byteOf n 0])
      ofExcept (readDataReply comp.dids n resp)) := by
    simp [Cda.readData, getComponentConfig, hc, hn]
  rw [hcall, exchangeThen_eq env comp hbytes]
  rfl

/-- The same for all four at once. -/
theorem run_eq (hc : catalog.components.get componentId = some comp) {call : Call} {n : Int}
    (hn : call.number = some n) (w : World) :
    call.run env catalog componentId w =
      resultIn (w.afterCall env comp (call.request n))
        ((exchange env comp w).outcome env >>= call.decode comp n) := by
  cases call with
  | readFaults statusMask =>
    obtain rfl : statusMask = n := Option.some.inj hn
    rw [run, map_of_eq_resultIn (readFaults_eq hc statusMask w), map_bind]
    rfl
  | readFaultDetail dtcId =>
    rw [run, map_of_eq_resultIn (readFaultDetail_eq hc hn w), map_bind]
    rfl
  | clearFaults group =>
    rw [run, map_of_eq_resultIn (clearFaults_eq hc hn w), map_bind]
    rfl
  | readData did =>
    rw [run, map_of_eq_resultIn (readData_eq hc hn w), map_bind]
    rfl

/-- A call leaves the world as it was, or as the exchange of one request leaves it. -/
theorem finalWorld_run (env : PyEnv) (catalog : Catalog) (componentId : String) (call : Call)
    (w : World) : finalWorld (call.run env catalog componentId w) = w ∨
      ∃ request, finalWorld (call.run env catalog componentId w) = w.exchanged request := by
  obtain ⟨statusCode, detail, hrun⟩ | ⟨comp, n, hc, hn⟩ := run_cases env catalog componentId call
  · rw [hrun]
    exact .inl rfl
  · rw [run_eq hc hn w, finalWorld_resultIn, World.afterCall]
    split
    · exact .inl rfl
    · exact .inr ⟨_, rfl⟩

/-- What stands behind a response: a known component, an identifier that is a number, and a reply
that was decoded. -/
theorem exists_reply_of_run_eq_ok {call : Call} {w w' : World} {response : Response}
    (h : call.run env catalog componentId w = .ok response w') :
    ∃ comp n resp, catalog.components.get componentId = some comp ∧ call.number = some n ∧
      exchange env comp w = .reply resp ∧ call.decode comp n resp = .ok response := by
  obtain ⟨statusCode, detail, hrun⟩ | ⟨comp, n, hc, hn⟩ := run_cases env catalog componentId call
  · rw [hrun] at h
    cases h
  · rw [run_eq hc hn w, resultIn_eq_ok_iff] at h
    obtain ⟨resp, hout, hdecode⟩ : ∃ resp, (exchange env comp w).outcome env = .ok resp ∧
        call.decode comp n resp = .ok response := by
      cases hout : (exchange env comp w).outcome env with
      | error e =>
        rw [hout] at h
        cases h.1
      | ok resp =>
        rw [hout] at h
        exact ⟨resp, rfl, h.1⟩
    exact ⟨comp, n, resp, hc, hn, (Exchange.outcome_eq_ok_iff.mp hout).1, hdecode⟩

end Call

end SovdDemo.Cda
