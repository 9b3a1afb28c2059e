import SovdDemo.Cda.ErrorStatus

/-!
# Does a response-pending message change the result?

The ECU may announce that it needs more time with a negative response of code 0x78, any number of
times, before it sends its answer. `_send_uds` receives once: the announcement is taken for the
answer, and the answer is never received.

## Main definitions

- `pendings` — a number of announcements
- `Transparent` — the endpoint returns what it returns when the answer arrives at once
- `Receives` — a call gets as far as receiving

## Main results

- `resultOf_run_pendings` — what a call makes of a response-pending message
- `transparent_iff` — when the announcements make no difference
-/

namespace SovdDemo.Cda

open Foundations

/-- The service id of the request. -/
def Call.serviceId : Call → UInt8
  | .readFaults _ | .readFaultDetail _ => 0x19
  | .clearFaults _ => 0x14
  | .readData _ => 0x22

/-- `requestCorrectlyReceived-ResponsePending`. -/
def responsePending : UInt8 := 0x78

/-- `k` response-pending messages for a service. -/
def pendings (serviceId : UInt8) (k : Nat) : List Received :=
  List.replicate k (.reply (some [0x7F, serviceId, responsePending]))

def World.withInbox (w : World) (inbox : List Received) : World := { w with inbox := inbox }

/-- What a call returns or raises. -/
def resultOf {α : Type} : EStateM.Result PyException World α → Except PyException α
  | .ok a _ => .ok a
  | .error e _ => .error e

/-- With `k` response-pending messages before the reply `r`, the endpoint returns or raises what it
does when `r` arrives at once. -/
def Transparent (env : PyEnv) (catalog : Catalog) (componentId : String) (call : Call) (w : World)
    (k : Nat) (r : List UInt8) (rest : List Received) : Prop :=
  let reply : Received := .reply (some r)
  resultOf (call.run env catalog componentId
      (w.withInbox (pendings call.serviceId k ++ reply :: rest))) =
    resultOf (call.run env catalog componentId (w.withInbox (reply :: rest)))

/-- The component is known, the identifier is a number, the client can be created and the send does
not raise. -/
def Receives (env : PyEnv) (catalog : Catalog) (componentId : String) (call : Call) (w : World) :
    Prop :=
  ∃ comp n, catalog.components.get componentId = some comp ∧ call.number = some n ∧
    openClient env comp.doip w = .ok () w ∧ ∀ e, w.sends.head? ≠ some (some e)

/-! Where the inbox does not matter -/

/-- Creating the client looks at its addresses and at the outcome of connecting. -/
def opening (env : PyEnv) (cfg : DoipConfig) (connect : Option PyException) :
    Except PyException Unit :=
  match intBase16 cfg.ecuLogicalAddress with
  | none => .error (invalidLiteral env cfg.ecuLogicalAddress)
  | some _ =>
    match intBase16 cfg.clientLogicalAddress with
    | none => .error (invalidLiteral env cfg.clientLogicalAddress)
    | some _ =>
      match connect with
      | none => .ok ()
      | some e => .error e

theorem openClient_eq (env : PyEnv) (cfg : DoipConfig) (w : World) :
    openClient env cfg w = resultIn w (opening env cfg w.connect) := by
  cases he : intBase16 cfg.ecuLogicalAddress with
  | none => simp [openClient, parseInt, opening, he, resultIn]
  | some a =>
    cases hc : intBase16 cfg.clientLogicalAddress with
    | none => simp [openClient, parseInt, opening, he, hc, resultIn]
    | some b =>
      cases hw : w.connect <;> simp [openClient, parseInt, opening, he, hc, hw, resultIn]

variable {env : PyEnv} {catalog : Catalog} {componentId : String} {comp : Component} {call : Call}
  {n : Int} {w : World}

theorem openClient_eq_ok_iff {cfg : DoipConfig} (w : World) :
    openClient env cfg w = .ok () w ↔ opening env cfg w.connect = .ok () := by
  rw [openClient_eq, resultIn_eq_ok_iff]
  exact and_iff_left rfl

/-- A request that is sent is answered by what comes first. -/
theorem exchange_withInbox (ho : openClient env comp.doip w = .ok () w)
    (hs : ∀ e, w.sends.head? ≠ some (some e)) (inbox : List Received) :
    exchange env comp (w.withInbox inbox) = received inbox := by
  have ho' : openClient env comp.doip (w.withInbox inbox) = .ok () (w.withInbox inbox) :=
    (openClient_eq_ok_iff _).mpr ((openClient_eq_ok_iff w).mp ho)
  rw [exchange, ho']
  show sendAndReceive (w.withInbox inbox) = _
  rw [sendAndReceive]
  split
  · rename_i e he
    exact absurd he (hs e)
  · rfl

/-- Otherwise the exchange fails before anything is received. -/
theorem exchange_withInbox_of_fails
    (hf : openClient env comp.doip w = .ok () w → ∃ e, w.sends.head? = some (some e))
    (inbox inbox' : List Received) :
    exchange env comp (w.withInbox inbox) = exchange env comp (w.withInbox inbox') := by
  have hopen : ∀ inbox, openClient env comp.doip (w.withInbox inbox) =
      resultIn (w.withInbox inbox) (opening env comp.doip w.connect) := fun inbox =>
    openClient_eq env comp.doip (w.withInbox inbox)
  rw [exchange, exchange, hopen, hopen]
  cases ho : opening env comp.doip w.connect with
  | error e => rfl
  | ok u =>
    obtain ⟨e, he⟩ := hf ((openClient_eq_ok_iff w).mpr ho)
    show sendAndReceive (w.withInbox inbox) = sendAndReceive (w.withInbox inbox')
    have hhead : ∀ inbox, (w.withInbox inbox).sends.head? = some (some e) := fun _ => he
    rw [sendAndReceive, sendAndReceive, hhead, hhead]

/-! What a call returns -/

theorem resultOf_resultIn {α : Type} (w : World) (r : Except PyException α) :
    resultOf (resultIn w r) = r := by
  cases r <;> rfl

theorem resultOf_run (hc : catalog.components.get componentId = some comp)
    (hn : call.number = some n) (w : World) :
    resultOf (call.run env catalog componentId w) =
      (exchange env comp w).outcome env >>= call.decode comp n := by
  rw [call.run_eq hc hn, resultOf_resultIn]

/-- A call that does not get as far as receiving does not look at the inbox. -/
theorem resultOf_run_of_not_receives (hr : ¬ Receives env catalog componentId call w)
    (inbox inbox' : List Received) :
    resultOf (call.run env catalog componentId (w.withInbox inbox)) =
      resultOf (call.run env catalog componentId (w.withInbox inbox')) := by
  obtain ⟨statusCode, detail, hrun⟩ | ⟨comp, n, hc, hn⟩ :=
    call.run_cases env catalog componentId
  · rw [hrun, hrun]
    rfl
  · have hf : openClient env comp.doip w = .ok () w → ∃ e, w.sends.head? = some (some e) := by
      intro ho
      by_contra hs
      exact hr ⟨comp, n, hc, hn, ho, fun e he => hs ⟨e, he⟩⟩
    rw [resultOf_run hc hn, resultOf_run hc hn, exchange_withInbox_of_fails hf inbox inbox']

/-- What a decoder raises. -/
theorem Call.decode_error {resp : List UInt8} {e : PyException}
    (h : call.decode comp n resp = .error e) :
    e = unexpectedFormat ∨ e = unexpectedClearResponse ∨ e = .indexError := by
  cases call with
  | readFaults statusMask =>
    rw [decode, readFaultsReply_eq] at h
    split at h
    · exact .inl (Except.error.inj h).symm
    · cases h
  | readFaultDetail dtcId =>
    rw [decode, readFaultDetailReply_eq] at h
    split at h
    · exact .inl (Except.error.inj h).symm
    · cases h
  | clearFaults group =>
    rw [decode, clearFaultsReply_eq] at h
    split at h
    · exact .inr (.inr (Except.error.inj h).symm)
    · split at h
      · exact .inr (.inl (Except.error.inj h).symm)
      · cases h
  | readData did =>
    rw [decode, readDataReply_eq] at h
    dsimp only at h
    split at h
    · exact .inl (Except.error.inj h).symm
    · cases h

/-- The text of a communication error. -/
theorem communicationError_eq (env : PyEnv) (e : PyException) :
    communicationError env e = .httpException 502 ("ECU communication error: " ++ env.str e) := by
  rfl

/-- A decoder raises no communication error. -/
theorem Call.decode_ne_communicationError (resp : List UInt8) (e : PyException) :
    call.decode comp n resp ≠ .error (communicationError env e) := by
  -- the texts already differ in their first letter
  have hletter : ("ECU communication error: " ++ env.str e).toList.head? = some 'E' := by
    rw [String.toList_append]
    rfl
  intro h
  obtain h | h | h := Call.decode_error h <;> rw [communicationError_eq] at h
  · have hdetail := (PyException.httpException.inj h).2
    rw [hdetail] at hletter
    exact absurd hletter (by decide)
  · have hdetail := (PyException.httpException.inj h).2
    rw [hdetail] at hletter
    exact absurd hletter (by decide)
  · cases h

theorem communicationError_inj {e e' : PyException} :
    communicationError env e = communicationError env e' ↔ env.str e = env.str e' := by
  rw [communicationError_eq, communicationError_eq, PyException.httpException.injEq,
    String.append_right_inj]
  exact and_iff_right rfl

/-- The result of a call that receives `payload` first. -/
theorem resultOf_run_of_receives (hc : catalog.components.get componentId = some comp)
    (hn : call.number = some n) (ho : openClient env comp.doip w = .ok () w)
    (hs : ∀ e, w.sends.head? ≠ some (some e)) (payload : List UInt8) (rest : List Received) :
    resultOf (call.run env catalog componentId
        (w.withInbox (.reply (some payload) :: rest))) =
      (Exchange.reply payload).outcome env >>= call.decode comp n := by
  rw [resultOf_run hc hn, exchange_withInbox ho hs]
  rfl

/-- A response-pending message is taken for a negative answer, whatever follows it. -/
theorem resultOf_run_pendings (hc : catalog.components.get componentId = some comp)
    (hn : call.number = some n) (ho : openClient env comp.doip w = .ok () w)
    (hs : ∀ e, w.sends.head? ≠ some (some e)) (k : Nat) (inbox : List Received) :
    resultOf (call.run env catalog componentId
        (w.withInbox (pendings call.serviceId (k + 1) ++ inbox))) =
      .error (communicationError env (negativeResponse responsePending)) := by
  rw [pendings, List.replicate_succ, List.cons_append, resultOf_run_of_receives hc hn ho hs]
  rfl

/-- The answer itself comes out as the error of a response-pending message only if it is a negative
response with the same text. -/
theorem outcome_eq_pendingError_iff (r : List UInt8) :
    (Exchange.reply r).outcome env >>= call.decode comp n =
        .error (communicationError env (negativeResponse responsePending)) ↔
      ∃ nrc, negativeResponseCode r = some nrc ∧
        env.str (negativeResponse nrc) = env.str (negativeResponse responsePending) := by
  cases hr : negativeResponseCode r with
  | none =>
    have hout : (Exchange.reply r).outcome env = .ok r := Exchange.outcome_eq_ok_iff.mpr ⟨rfl, hr⟩
    rw [hout]
    refine iff_of_false (Call.decode_ne_communicationError r _) ?_
    rintro ⟨nrc, hnrc, -⟩
    cases hnrc
  | some nrc =>
    have hchosen : (Exchange.reply r).chosenError = some (negativeResponse nrc) := by
      rw [Exchange.chosenError, hr]
      rfl
    rw [Exchange.outcome_of_chosenError hchosen]
    show Except.error (communicationError env (negativeResponse nrc)) = _ ↔ _
    rw [Except.error.injEq, communicationError_inj]
    constructor
    · intro h
      exact ⟨nrc, rfl, h⟩
    · rintro ⟨nrc', hnrc, h⟩
      cases hnrc
      exact h

/-- Response-pending messages make no difference exactly when there are none, when the call does not
get as far as receiving, or when the answer itself is a negative response with the text of one. -/
theorem transparent_iff (env : PyEnv) (catalog : Catalog) (componentId : String) (call : Call)
    (w : World) (k : Nat) (r : List UInt8) (rest : List Received) :
    Transparent env catalog componentId call w k r rest ↔
      k = 0 ∨ ¬ Receives env catalog componentId call w ∨
        ∃ nrc, negativeResponseCode r = some nrc ∧
          env.str (negativeResponse nrc) = env.str (negativeResponse responsePending) := by
  cases k with
  | zero => exact iff_of_true rfl (.inl rfl)
  | succ k =>
    by_cases hr : Receives env catalog componentId call w
    · obtain ⟨comp, n, hc, hn, ho, hs⟩ := hr
      have hreceives : Receives env catalog componentId call w := ⟨comp, n, hc, hn, ho, hs⟩
      rw [Transparent, resultOf_run_pendings hc hn ho hs, resultOf_run_of_receives hc hn ho hs,
        eq_comm, outcome_eq_pendingError_iff]
      constructor
      · intro h
        exact .inr (.inr h)
      · rintro (h | h | h)
        · cases h
        · exact absurd hreceives h
        · exact h
    · exact iff_of_true (resultOf_run_of_not_receives hr _ _) (.inr (.inl hr))

/-- The ECU needs more time once, and then confirms that it has cleared its faults. -/
theorem not_transparent_clearFaults :
    ¬ ∀ env catalog componentId call w k r rest,
      Transparent env catalog componentId call w k r rest := by
  intro hall
  have h := hall .blank shippedCatalog "openbsw-ecu" (.clearFaults "FFFFFF") (.receiving []) 1
    [0x54] []
  have hc : shippedCatalog.components.get "openbsw-ecu" = some openbswEcu := rfl
  have hn : (Call.clearFaults "FFFFFF").number = some 0xFFFFFF := by decide
  have ho : openClient .blank openbswEcu.doip (.receiving []) = .ok () (.receiving []) := rfl
  have hs : ∀ e, (World.receiving []).sends.head? ≠ some (some e) := by simp [World.receiving]
  rw [Transparent, resultOf_run_pendings hc hn ho hs, resultOf_run_of_receives hc hn ho hs] at h
  cases h

end SovdDemo.Cda
