import SovdDemo.Cda.Replies

/-!
# Which error a client sees

`_send_uds` raises 504 when nothing arrives and 422 for a negative response. Both are raised in the
body of the `with` block, so the `except Exception` of the context manager catches them and raises
502 in their place. The endpoint's own 502, for a reply of another format, is raised behind the
block and stays.

## Main definitions

- `Exchange.chosenError` — the error `_send_uds` chooses
- `Call.HasFormat` — the format an endpoint expects of a reply
- `SeesChosenError` — the client sees the chosen error, and 502 only for what 502 is for

## Main results

- `Call.raises_communicationError` — what becomes of a chosen error
- `seesChosenError_iff` — the client sees the chosen error exactly when none is chosen
-/

namespace SovdDemo.Cda

open Foundations

namespace Exchange

/-- The error `_send_uds` chooses for what it has received. -/
def chosenError : Exchange → Option PyException
  | .notConnected _ | .sendFailed _ | .receiveFailed _ => none
  | .noReply => some noResponse
  | .reply payload => (negativeResponseCode payload).map negativeResponse

variable {x : Exchange} {env : PyEnv} {e : PyException}

theorem outcome_of_chosenError (h : x.chosenError = some e) :
    x.outcome env = .error (communicationError env e) := by
  cases x with
  | notConnected e => cases h
  | sendFailed e => cases h
  | receiveFailed e => cases h
  | noReply =>
    obtain rfl : noResponse = e := Option.some.inj h
    rfl
  | reply payload =>
    obtain ⟨nrc, hnrc, rfl⟩ := Option.map_eq_some_iff.mp h
    simp [outcome, chosen, hnrc, Except.mapError]

theorem chosenError_eq_none_iff :
    x.chosenError = none ↔ ¬ (x = .noReply ∨
      ∃ payload nrc, x = .reply payload ∧ negativeResponseCode payload = some nrc) := by
  cases x with
  | notConnected e => simp [chosenError]
  | sendFailed e => simp [chosenError]
  | receiveFailed e => simp [chosenError]
  | noReply => simp [chosenError]
  | reply payload => cases hn : negativeResponseCode payload <;> simp [chosenError, hn]

/-- Every error chosen has the status 504 or 422, never 502. -/
theorem chosenError_status (h : x.chosenError = some e) :
    ∃ statusCode detail, e = .httpException statusCode detail ∧
      (statusCode = 504 ∨ statusCode = 422) := by
  cases x with
  | notConnected e => cases h
  | sendFailed e => cases h
  | receiveFailed e => cases h
  | noReply =>
    obtain rfl : noResponse = e := Option.some.inj h
    exact ⟨_, _, rfl, .inl rfl⟩
  | reply payload =>
    obtain ⟨nrc, -, rfl⟩ := Option.map_eq_some_iff.mp h
    exact ⟨_, _, rfl, .inr rfl⟩

theorem chosenError_ne_communicationError (h : x.chosenError = some e) (e' : PyException) :
    e ≠ communicationError env e' := by
  obtain ⟨statusCode, detail, rfl, hs⟩ := chosenError_status h
  rintro hcontra
  obtain ⟨rfl, -⟩ := PyException.httpException.inj hcontra
  omega

end Exchange

namespace Call

/-- The format an endpoint expects of a reply. -/
def HasFormat : Call → List UInt8 → Prop
  | .readFaults _, resp => 3 ≤ resp.length ∧ resp[0]? = some 0x59
  | .readFaultDetail _, resp => 7 ≤ resp.length ∧ resp[0]? = some 0x59
  | .clearFaults _, resp => resp[0]? = some 0x54
  | .readData _, resp => 3 ≤ resp.length ∧ resp[0]? = some 0x62

instance : (call : Call) → (resp : List UInt8) → Decidable (call.HasFormat resp)
  | .readFaults _, _ => inferInstanceAs (Decidable (_ ∧ _))
  | .readFaultDetail _, _ => inferInstanceAs (Decidable (_ ∧ _))
  | .clearFaults _, _ => inferInstanceAs (Decidable (_ = _))
  | .readData _, _ => inferInstanceAs (Decidable (_ ∧ _))

/-- A reply of the expected format is not a negative one. -/
theorem HasFormat.negativeResponseCode {call : Call} {resp : List UInt8} (h : call.HasFormat resp) :
    negativeResponseCode resp = none := by
  apply Option.eq_none_iff_forall_ne_some.mpr
  intro nrc hnrc
  obtain ⟨-, hsid, -⟩ := negativeResponseCode_eq_some_iff.mp hnrc
  cases call with
  | readFaults statusMask => exact absurd (hsid.symm.trans h.2) (by decide)
  | readFaultDetail dtcId => exact absurd (hsid.symm.trans h.2) (by decide)
  | clearFaults group => exact absurd (hsid.symm.trans h) (by decide)
  | readData did => exact absurd (hsid.symm.trans h.2) (by decide)

/-- A decoder that checks a condition first. -/
theorem exists_map_ite_eq_ok_iff {α β : Type} {f : α → β} {c : Prop} [Decidable c]
    {e : PyException} {a : α} :
    (∃ b, f <$> (if c then .error e else .ok a : Except PyException α) = .ok b) ↔ ¬ c := by
  split <;> simp [Functor.map, Except.map, *]

/-- A reply of the expected format is decoded; no other is. -/
theorem exists_decode_eq_ok_iff {comp : Component} {n : Int} {call : Call} {resp : List UInt8} :
    (∃ response, call.decode comp n resp = .ok response) ↔ call.HasFormat resp := by
  cases call with
  | readFaults statusMask =>
    rw [decode, readFaultsReply_eq, exists_map_ite_eq_ok_iff, not_or, not_lt, not_not]
    rfl
  | readFaultDetail dtcId =>
    rw [decode, readFaultDetailReply_eq, exists_map_ite_eq_ok_iff, not_or, not_lt, not_not]
    rfl
  | clearFaults group =>
    rw [decode, clearFaultsReply_eq, HasFormat]
    cases resp with
    | nil => simp [Functor.map, Except.map]
    | cons sid rest => rw [exists_map_ite_eq_ok_iff, not_not, List.getElem?_cons_zero,
        Option.some_inj]
  | readData did =>
    rw [decode, readDataReply_eq, exists_map_ite_eq_ok_iff, not_or, not_lt, not_not]
    rfl

/-- The call raises `e`. -/
def Raises (env : PyEnv) (catalog : Catalog) (componentId : String) (call : Call) (w : World)
    (e : PyException) : Prop :=
  ∃ w', call.run env catalog componentId w = .error e w'

variable {env : PyEnv} {catalog : Catalog} {componentId : String} {comp : Component} {call : Call}
  {n : Int} {w : World} {e : PyException}

/-- A reply of the expected format makes a response. -/
theorem HasFormat.exists_run_eq_ok (hc : catalog.components.get componentId = some comp)
    (hn : call.number = some n) {resp : List UInt8} (hx : exchange env comp w = .reply resp)
    (h : call.HasFormat resp) :
    ∃ response w', call.run env catalog componentId w = .ok response w' := by
  obtain ⟨response, hdecode⟩ : ∃ response, call.decode comp n resp = .ok response :=
    exists_decode_eq_ok_iff.mpr h
  have hout : (exchange env comp w).outcome env = .ok resp :=
    Exchange.outcome_eq_ok_iff.mpr ⟨hx, h.negativeResponseCode⟩
  have hbind : ((exchange env comp w).outcome env >>= call.decode comp n) = .ok response := by
    rw [hout]
    exact hdecode
  exact ⟨response, _, by rw [run_eq hc hn w, hbind]; rfl⟩

theorem raises_iff (hc : catalog.components.get componentId = some comp)
    (hn : call.number = some n) :
    call.Raises env catalog componentId w e ↔
      ((exchange env comp w).outcome env >>= call.decode comp n) = .error e := by
  rw [Raises, run_eq hc hn w]
  cases (exchange env comp w).outcome env >>= call.decode comp n <;> simp [resultIn]

/-- A chosen error becomes a communication error, which carries its text. -/
theorem raises_communicationError (hc : catalog.components.get componentId = some comp)
    (hn : call.number = some n) (he : (exchange env comp w).chosenError = some e) :
    call.Raises env catalog componentId w (communicationError env e) := by
  rw [raises_iff hc hn, Exchange.outcome_of_chosenError he]
  rfl

theorem Raises.unique {e' : PyException} (h : call.Raises env catalog componentId w e)
    (h' : call.Raises env catalog componentId w e') : e = e' := by
  obtain ⟨w₁, h⟩ := h
  obtain ⟨w₂, h'⟩ := h'
  rw [h] at h'
  exact (EStateM.Result.error.inj h').1

end Call

/-- The client sees the error `_send_uds` chose, and 502 only when the exchange failed or the reply
has not the format the endpoint expects. -/
structure SeesChosenError (env : PyEnv) (catalog : Catalog) (componentId : String)
    (comp : Component) (call : Call) (w : World) : Prop where
  chosen : ∀ e, (exchange env comp w).chosenError = some e →
    call.Raises env catalog componentId w e
  noReply : exchange env comp w = .noReply →
    ∃ detail, call.Raises env catalog componentId w (.httpException 504 detail)
  negative : ∀ (resp : List UInt8) (nrc : UInt8), exchange env comp w = .reply resp →
    3 ≤ resp.length → resp[0]? = some 0x7F → resp[2]? = some nrc → nrc ≠ 0x78 →
    ∃ name : String, call.Raises env catalog componentId w
      (.httpException 422 s!"UDS negative response: NRC 0x{hexUpper 2 nrc.toNat} ({name})")
  communication : ∀ detail, call.Raises env catalog componentId w (.httpException 502 detail) →
    (∃ e, exchange env comp w = .notConnected e ∨ exchange env comp w = .sendFailed e ∨
      exchange env comp w = .receiveFailed e) ∨
    ∃ resp, exchange env comp w = .reply resp ∧ negativeResponseCode resp = none ∧
      ¬ call.HasFormat resp

variable {env : PyEnv} {catalog : Catalog} {componentId : String} {comp : Component} {call : Call}
  {n : Int}

/-- No error that `_send_uds` chooses reaches the client. -/
theorem chosenError_eq_none_of_sees (hc : catalog.components.get componentId = some comp)
    (hn : call.number = some n) {w : World}
    (h : SeesChosenError env catalog componentId comp call w) :
    (exchange env comp w).chosenError = none := by
  cases he : (exchange env comp w).chosenError with
  | none => rfl
  | some e =>
    have hseen := (h.chosen e he).unique (Call.raises_communicationError hc hn he)
    exact absurd hseen (Exchange.chosenError_ne_communicationError he e)

theorem seesChosenError_of_eq_none (hc : catalog.components.get componentId = some comp)
    (hn : call.number = some n) {w : World}
    (h : (exchange env comp w).chosenError = none) :
    SeesChosenError env catalog componentId comp call w where
  chosen e he := by
    rw [h] at he
    cases he
  noReply hx := by
    rw [hx] at h
    cases h
  negative resp nrc hx hlen hsid hnrc _ := by
    rw [hx, Exchange.chosenError, negativeResponseCode_eq_some_iff.mpr ⟨hlen, hsid, hnrc⟩] at h
    cases h
  communication detail hseen := by
    rw [Call.raises_iff hc hn] at hseen
    cases hx : exchange env comp w with
    | notConnected e => exact .inl ⟨e, .inl rfl⟩
    | sendFailed e => exact .inl ⟨e, .inr (.inl rfl)⟩
    | receiveFailed e => exact .inl ⟨e, .inr (.inr rfl)⟩
    | noReply =>
      rw [hx] at h
      cases h
    | reply resp =>
      rw [hx] at h hseen
      have hneg : negativeResponseCode resp = none := Option.map_eq_none_iff.mp h
      -- of a reply of the expected format the endpoint makes a response and raises nothing
      refine .inr ⟨resp, rfl, hneg, ?_⟩
      intro hformat
      obtain ⟨response, hok⟩ : ∃ response, call.decode comp n resp = .ok response :=
        Call.exists_decode_eq_ok_iff.mpr hformat
      have hout : (Exchange.reply resp).outcome env = .ok resp := by
        simp [Exchange.outcome, Exchange.chosen, hneg, Except.mapError]
      rw [hout] at hseen
      change call.decode comp n resp = _ at hseen
      rw [hok] at hseen
      cases hseen

/-- The client sees the error `_send_uds` chose exactly when there is none: when a reply arrives
that is not negative, or when the exchange itself fails. -/
theorem seesChosenError_iff (hc : catalog.components.get componentId = some comp)
    (hn : call.number = some n) (w : World) :
    SeesChosenError env catalog componentId comp call w ↔
      ¬ (exchange env comp w = .noReply ∨
        ∃ resp nrc, exchange env comp w = .reply resp ∧ negativeResponseCode resp = some nrc) := by
  rw [← Exchange.chosenError_eq_none_iff]
  exact ⟨chosenError_eq_none_of_sees hc hn, seesChosenError_of_eq_none hc hn⟩

/-- The reply of another service is answered with 502, and that is what 502 is for. -/
theorem seesChosenError_of_other_service :
    SeesChosenError .blank shippedCatalog "openbsw-ecu" openbswEcu (.readFaults 0xFF)
        (.receiving [.reply (some [0x6E, 0xF1, 0x90])]) ∧
      (Call.readFaults 0xFF).Raises .blank shippedCatalog "openbsw-ecu"
        (.receiving [.reply (some [0x6E, 0xF1, 0x90])]) unexpectedFormat := by
  refine ⟨(seesChosenError_iff rfl rfl _).mpr ?_, _, rfl⟩
  rintro (hx | ⟨resp, nrc, hx, hn⟩)
  · cases hx
  · cases hx
    cases hn

theorem not_seesChosenError_of_timeout :
    ¬ ∀ (env : PyEnv) (catalog : Catalog) (componentId : String) (comp : Component) (call : Call)
      (w : World), catalog.components.get componentId = some comp → call.number.isSome →
      SeesChosenError env catalog componentId comp call w := by
  intro hall
  have h := hall .blank shippedCatalog "openbsw-ecu" openbswEcu (.readFaults 0xFF)
    (.receiving [.reply none]) rfl rfl
  exact absurd (h.chosen noResponse rfl) (by
    rintro ⟨w', hw'⟩
    cases hw')

end SovdDemo.Cda
