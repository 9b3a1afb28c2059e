import SovdDemo.Cda.ErrorStatus
import SovdDemo.Foundations.BigEndian

/-!
# Are the reply parsers total?

Three of the four endpoints look at the length of a reply before they take it apart, and so they
return a response or raise an `HTTPException` whatever arrives. `clear_faults` reads the first byte
of a reply that may be empty.

The `with` block hides what goes wrong inside: a byte out of range in a request, or an index beyond
a short reply in `_send_uds`, would be shown as a communication error. Neither happens. Every
request is built and sent, and every reply that is not negative gets out of the block.

## Main definitions

- `Response.WellFormed` — what a client can rely on in a response
- `Answered` — a well-formed response or an `HTTPException`
- `Call.Total` — a call is answered, and nothing but the exchange fails in its `with` block
- `ClearedByEmptyReply` — an empty reply arrives for a request to clear faults

## Main results

- `Call.decode_cases` — what an endpoint makes of a reply of any length
- `answered_run_iff` — how a call ends
- `total_iff`
-/

namespace SovdDemo.Cda

open Foundations

/-- The flags of an entry are those of its status byte. -/
def FaultEntry.WellFormed (entry : FaultEntry) : Prop :=
  entry.id = entry.dtcNumber ∧ entry.status = decodeStatusByte entry.statusByte

/-- What a client can rely on: the count of a list, the flags of its entries, the counter of a
detail, the acknowledgement of a clear, and a value that fits into the bytes it was decoded
from. -/
def Response.WellFormed : Response → Prop
  | .faults l => l.count = l.items.length ∧ ∀ entry ∈ l.items, entry.WellFormed
  | .detail d => d.toFaultEntry.WellFormed ∧ d.occurrenceCounter.isSome
  | .cleared c => c.status = "ok"
  | .data d => ∀ value ∈ d.value, -2 ^ 31 ≤ value ∧ value < 2 ^ 31

/-- A call ends with a well-formed response or with an `HTTPException`. -/
def Answered : EStateM.Result PyException World Response → Prop
  | .ok response _ => response.WellFormed
  | .error e _ => ∃ statusCode detail, e = .httpException statusCode detail

/-- A call for a component ends as it should, and for the right reasons: only what the client raises
and a missing or negative reply become a communication error. -/
structure Call.Total (env : PyEnv) (catalog : Catalog) (componentId : String) (comp : Component)
    (call : Call) (w : World) : Prop where
  answered : Answered (call.run env catalog componentId w)
  /-- the bytes of the request are in range: it is built, and sent once the connection is open -/
  sent : ∀ n ∈ call.number, openClient env comp.doip w = .ok () w →
    (finalWorld (call.run env catalog componentId w)).sent = w.sent ++ [call.request n]
  /-- what comes of the call is what comes of the exchange of its request, and of the decoding -/
  outcome : ∀ n ∈ call.number, call.run env catalog componentId w =
    resultIn (w.afterCall env comp (call.request n))
      ((exchange env comp w).outcome env >>= call.decode comp n)

/-- An empty reply arrives for a group that is a number. -/
def ClearedByEmptyReply (env : PyEnv) (comp : Component) (w : World) (call : Call) : Prop :=
  ∃ group, call = .clearFaults group ∧ (intBase16 group).isSome ∧
    exchange env comp w = .reply []

/-! The decoders -/

theorem faultEntry_wellFormed (dtcCatalog : Dict DtcInfo) (dtcHex : String) (statusByte : UInt8) :
    (faultEntry dtcCatalog dtcHex statusByte).WellFormed := ⟨rfl, rfl⟩

/-- The bytes of a value bound it. -/
theorem valueOf_bounds {fmt : String} {dataBytes : List UInt8} {value : Int}
    (h : valueOf fmt dataBytes = some value) : -2 ^ 31 ≤ value ∧ value < 2 ^ 31 := by
  have hlen : ∀ k, k ≤ dataBytes.length → beNat (dataBytes.take k) < 256 ^ k := by
    intro k hk
    have hlt := beNat_lt (dataBytes.take k)
    rwa [List.length_take, Nat.min_eq_left hk] at hlt
  rw [valueOf] at h
  split at h
  · rename_i hfmt
    obtain rfl := Option.some.inj h
    exact signed_bounds 31 (hlen 4 hfmt.2)
  · split at h
    · rename_i hfmt
      obtain rfl := Option.some.inj h
      have hlt := hlen 2 hfmt.2
      omega
    · split at h
      · rename_i hfmt
        obtain rfl := Option.some.inj h
        have hbounds : -2 ^ 15 ≤ signed 16 (beNat (dataBytes.take 2)) ∧
            signed 16 (beNat (dataBytes.take 2)) < 2 ^ 15 := signed_bounds 15 (hlen 2 hfmt.2)
        omega
      · cases h

namespace Call

/-- What an endpoint makes of a reply: a response if it has the format, the end of the list if a
clear reads the first byte of nothing, and 502 otherwise. -/
theorem decode_cases (comp : Component) (n : Int) (call : Call) (resp : List UInt8) :
    (∃ response, call.decode comp n resp = .ok response ∧ response.WellFormed) ∨
    (∃ group, call = .clearFaults group ∧ resp = [] ∧
      call.decode comp n resp = .error .indexError) ∨
    ∃ detail, call.decode comp n resp = .error (.httpException 502 detail) := by
  cases call with
  | readFaults statusMask =>
    rw [decode, readFaultsReply_eq]
    split
    · exact .inr (.inr ⟨_, rfl⟩)
    · refine .inl ⟨_, rfl, rfl, ?_⟩
      intro entry hentry
      obtain ⟨record, -, rfl⟩ := List.mem_map.mp hentry
      exact faultEntry_wellFormed _ _ _
  | readFaultDetail dtcId =>
    rw [decode, readFaultDetailReply_eq]
    split
    · exact .inr (.inr ⟨_, rfl⟩)
    · exact .inl ⟨_, rfl, faultEntry_wellFormed _ _ _, rfl⟩
  | clearFaults group =>
    rw [decode, clearFaultsReply_eq]
    cases resp with
    | nil => exact .inr (.inl ⟨group, rfl, rfl, rfl⟩)
    | cons sid rest =>
      dsimp only
      split
      · exact .inr (.inr ⟨_, rfl⟩)
      · exact .inl ⟨_, rfl, rfl⟩
  | readData did =>
    rw [decode, readDataReply_eq]
    dsimp only
    split
    · exact .inr (.inr ⟨_, rfl⟩)
    · refine .inl ⟨_, rfl, ?_⟩
      intro value hvalue
      exact valueOf_bounds hvalue

end Call

/-! The endpoints -/

section Endpoint

variable {env : PyEnv} {catalog : Catalog} {componentId : String} {comp : Component}

theorem answered_resultIn_iff (w : World) (r : Except PyException Response) :
    Answered (resultIn w r) ↔ match r with
      | .ok response => response.WellFormed
      | .error e => ∃ statusCode detail, e = .httpException statusCode detail := by
  cases r <;> exact Iff.rfl

/-- What goes wrong before the decoding becomes a communication error. -/
theorem exists_communicationError {x : Exchange} {e : PyException}
    (h : x.outcome env = .error e) : ∃ e', e = communicationError env e' := by
  rw [Exchange.outcome] at h
  cases hx : x.chosen with
  | ok resp =>
    rw [hx] at h
    cases h
  | error e' =>
    rw [hx] at h
    exact ⟨e', (Except.error.inj h).symm⟩

/-- The decoding of a reply. -/
theorem answered_decode_iff (comp : Component) (n : Int) (call : Call) (resp : List UInt8)
    (w : World) : Answered (resultIn w (call.decode comp n resp)) ↔
      ¬ ∃ group, call = .clearFaults group ∧ resp = [] := by
  rw [answered_resultIn_iff]
  obtain ⟨response, hdecode, hformed⟩ | ⟨group, rfl, rfl, hdecode⟩ | ⟨detail, hdecode⟩ :=
    call.decode_cases comp n resp
  · rw [hdecode]
    refine iff_of_true hformed ?_
    rintro ⟨group, rfl, rfl⟩
    cases hdecode
  · rw [hdecode]
    refine iff_of_false ?_ fun hne => hne ⟨group, rfl, rfl⟩
    rintro ⟨statusCode, detail, he⟩
    cases he
  · rw [hdecode]
    refine iff_of_true ⟨_, _, rfl⟩ ?_
    rintro ⟨group, rfl, rfl⟩
    cases hdecode

/-- A call for a known component returns a well-formed response or raises an `HTTPException`, unless
an empty reply arrives for a request to clear faults. -/
theorem answered_run_iff (hc : catalog.components.get componentId = some comp) (call : Call)
    (w : World) :
    Answered (call.run env catalog componentId w) ↔ ¬ ClearedByEmptyReply env comp w call := by
  cases hn : call.number with
  | none =>
    obtain ⟨detail, hrun⟩ : ∃ detail, ∀ w, call.run env catalog componentId w =
        .error (.httpException 400 detail) w := Call.run_of_number_eq_none hc hn
    rw [hrun]
    refine iff_of_true ⟨400, detail, rfl⟩ ?_
    rintro ⟨group, rfl, hgroup, -⟩
    have hn : intBase16 group = none := hn
    rw [hn] at hgroup
    cases hgroup
  | some n =>
    rw [Call.run_eq hc hn w]
    cases hout : (exchange env comp w).outcome env with
    | error e =>
      obtain ⟨e', rfl⟩ := exists_communicationError hout
      refine iff_of_true ⟨_, _, rfl⟩ ?_
      rintro ⟨group, rfl, -, hx⟩
      rw [hx] at hout
      cases hout
    | ok resp =>
      have hx := (Exchange.outcome_eq_ok_iff.mp hout).1
      have hempty : ClearedByEmptyReply env comp w call ↔
          ∃ group, call = .clearFaults group ∧ resp = [] := by
        constructor
        · rintro ⟨group, rfl, -, hx'⟩
          exact ⟨group, rfl, Exchange.reply.inj (hx.symm.trans hx')⟩
        · rintro ⟨group, rfl, rfl⟩
          exact ⟨group, rfl, Option.isSome_iff_exists.mpr ⟨n, hn⟩, hx⟩
      rw [hempty]
      exact answered_decode_iff comp n call resp _

/-- For every reply, every identifier and every mask, a call for a known component sends its request
and returns a well-formed response or raises an `HTTPException`, unless an empty reply arrives for a
request to clear faults. -/
theorem total_iff (hc : catalog.components.get componentId = some comp) (call : Call) (w : World) :
    call.Total env catalog componentId comp w ↔ ¬ ClearedByEmptyReply env comp w call := by
  rw [← answered_run_iff hc call w]
  refine ⟨fun h => h.answered, fun h => ⟨h, ?_, ?_⟩⟩
  · intro n hn ho
    rw [Call.run_eq hc hn w, finalWorld_resultIn, afterCall_of_open ho]
    rfl
  · intro n hn
    exact Call.run_eq hc hn w

end Endpoint

/-- An empty reply to `read_faults`, whose mask is cut to a byte. -/
theorem total_empty_fault_list :
    (Call.readFaults 0x1FF).Total .blank shippedCatalog "openbsw-ecu" openbswEcu
      (.receiving [.reply (some [])]) := by
  refine (total_iff rfl _ _).mpr ?_
  rintro ⟨group, hcall, -⟩
  cases hcall

/-- The same reply to `clear_faults` is read at its first byte. -/
theorem not_total_empty_clear :
    ¬ ∀ (env : PyEnv) (catalog : Catalog) (componentId : String) (comp : Component) (call : Call)
      (w : World), catalog.components.get componentId = some comp →
      call.Total env catalog componentId comp w := by
  intro hall
  obtain ⟨statusCode, detail, he⟩ := (hall .blank shippedCatalog "openbsw-ecu" openbswEcu
    (.clearFaults "0xFFFFFF") (.receiving [.reply (some [])]) rfl).answered
  cases he

end SovdDemo.Cda
