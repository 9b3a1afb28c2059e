import SovdDemo.Cda.Replies

/-!
# Identifiers on their way to the ECU

Three endpoints read an identifier in base 16 and cut the bytes of the request out of the integer.
`int(s, 16)` takes signs and any magnitude, the bytes hold 16 or 24 bits, and nothing in between
checks that the integer fits.

## Main definitions

- `Call.sends` — the requests a call passes to the ECU
- `ReachesWire` — the identifier is refused, or the request denotes it

## Main results

- `beNat_identifierBytes` — the bytes denote the integer modulo a power of two
- `reachesWire_iff`, `identifiers_reachWire` — the identifier reaches the wire unchanged exactly
  when it fits
-/

namespace SovdDemo.Cda

open Foundations

namespace Call

/-- The width of the identifier in the request of an endpoint that takes one. -/
def identifierBits : Call → Option Nat
  | .readFaults _ => none
  | .readFaultDetail _ | .clearFaults _ => some 24
  | .readData _ => some 16

/-- The bytes of the identifier in a request. -/
def identifierBytes : Call → List UInt8 → List UInt8
  | .readFaults _, _ => []
  | .readFaultDetail _, request => (request.drop 2).take 3
  | .clearFaults _, request | .readData _, request => request.drop 1

/-- The requests a call passes to the ECU. -/
def sends (env : PyEnv) (catalog : Catalog) (componentId : String) (call : Call) (w : World) :
    List (List UInt8) :=
  (finalWorld (call.run env catalog componentId w)).sent.drop w.sent.length

/-- The response names the identifier `n`. -/
def Names (n : Int) : Response → Prop
  | .faults _ => False
  | .detail d => d.id = dtcHex n ∧ d.dtcNumber = dtcHex n
  | .cleared c => intBase16 c.group = some n
  | .data v => v.did = didHex n

variable {env : PyEnv} {catalog : Catalog} {componentId : String} {comp : Component} {call : Call}
  {n : Int} {k : Nat} {w : World}

/-- The bytes of the request denote the integer modulo `2 ^ k`. -/
theorem beNat_identifierBytes (hk : call.identifierBits = some k) (n : Int) :
    (beNat (call.identifierBytes (call.request n)) : Int) = n % 2 ^ k := by
  have hthree : (beNat [wireByte n 16, wireByte n 8, wireByte n 0] : Int) = n % 2 ^ 24 := by
    have hbytes := byteOf_three n
    simp only [beNat, List.foldl_cons, List.foldl_nil]
    push_cast
    rw [wireByte_toNat, wireByte_toNat, wireByte_toNat]
    omega
  have htwo : (beNat [wireByte n 8, wireByte n 0] : Int) = n % 2 ^ 16 := by
    have hbytes := byteOf_two n
    simp only [beNat, List.foldl_cons, List.foldl_nil]
    push_cast
    rw [wireByte_toNat, wireByte_toNat]
    omega
  cases call with
  | readFaults statusMask => cases hk
  | readFaultDetail dtcId =>
    obtain rfl : 24 = k := Option.some.inj hk
    exact hthree
  | clearFaults group =>
    obtain rfl : 24 = k := Option.some.inj hk
    exact hthree
  | readData did =>
    obtain rfl : 16 = k := Option.some.inj hk
    exact htwo

theorem sends_of_number_eq_none (hc : catalog.components.get componentId = some comp)
    (hn : call.number = none) : call.sends env catalog componentId w = [] := by
  obtain ⟨detail, hrun⟩ : ∃ detail, ∀ w, call.run env catalog componentId w =
      .error (.httpException 400 detail) w := run_of_number_eq_none hc hn
  rw [sends, hrun]
  exact List.drop_length

theorem sends_of_notConnected (hc : catalog.components.get componentId = some comp)
    (hn : call.number = some n) {e : PyException} (hx : exchange env comp w = .notConnected e) :
    call.sends env catalog componentId w = [] := by
  rw [sends, run_eq hc hn w, finalWorld_resultIn, World.afterCall, hx]
  exact List.drop_length

theorem sends_of_connected (hc : catalog.components.get componentId = some comp)
    (hn : call.number = some n) (hx : ∀ e, exchange env comp w ≠ .notConnected e) :
    call.sends env catalog componentId w = [call.request n] := by
  have hafter : w.afterCall env comp (call.request n) = w.exchanged (call.request n) := by
    rw [World.afterCall]
    split
    · rename_i e he
      exact absurd he (hx e)
    · rfl
  rw [sends, run_eq hc hn w, finalWorld_resultIn, hafter]
  exact List.drop_left

/-- A response names the integer that was asked for. -/
theorem names_of_decode (hk : call.identifierBits = some k) (hn : call.number = some n)
    {resp : List UInt8} {response : Response} (h : call.decode comp n resp = .ok response) :
    Names n response := by
  cases call with
  | readFaults statusMask => cases hk
  | readFaultDetail dtcId =>
    rw [decode, readFaultDetailReply_eq] at h
    split at h
    · cases h
    · cases h
      exact ⟨rfl, rfl⟩
  | clearFaults group =>
    rw [decode, clearFaultsReply_eq] at h
    rcases resp with _ | ⟨sid, rest⟩
    · cases h
    · dsimp only at h
      split at h
      · cases h
      · cases h
        exact hn
  | readData did =>
    rw [decode, readDataReply_eq] at h
    dsimp only at h
    split at h
    · cases h
    · cases h
      rfl

theorem names_of_run (hk : call.identifierBits = some k) (hn : call.number = some n)
    {response : Response} {w' : World}
    (h : call.run env catalog componentId w = .ok response w') : Names n response := by
  obtain ⟨comp, n', resp, -, hn', -, hdecode⟩ := exists_reply_of_run_eq_ok h
  obtain rfl : n = n' := Option.some.inj (hn.symm.trans hn')
  exact names_of_decode hk hn hdecode

end Call

/-- An identifier reaches the ECU unchanged: it is refused with 400 and nothing is sent, or every
request that is sent denotes it. So the response names what the ECU was asked for, and the group of
all DTCs is sent for that group only. -/
structure ReachesWire (env : PyEnv) (catalog : Catalog) (componentId : String) (call : Call)
    (w : World) : Prop where
  denotes : (∃ detail w', call.run env catalog componentId w =
        .error (.httpException 400 detail) w' ∧ call.sends env catalog componentId w = []) ∨
    ∀ request ∈ call.sends env catalog componentId w,
      call.number = some (beNat (call.identifierBytes request) : Int)
  names : ∀ request ∈ call.sends env catalog componentId w, ∀ response w',
    call.run env catalog componentId w = .ok response w' →
    Call.Names (beNat (call.identifierBytes request) : Int) response
  clearsAll : [0x14, 0xFF, 0xFF, 0xFF] ∈ call.sends env catalog componentId w →
    call.number = some 0xFFFFFF

section Identifiers

variable {env : PyEnv} {catalog : Catalog} {componentId : String} {comp : Component}

/-- Calls that send the same bytes were given the same integer. -/
theorem ReachesWire.number_unique {call call' : Call} {w w' : World} {request request' : List UInt8}
    (h : ReachesWire env catalog componentId call w)
    (h' : ReachesWire env catalog componentId call' w')
    (hm : request ∈ call.sends env catalog componentId w)
    (hm' : request' ∈ call'.sends env catalog componentId w')
    (hsame : call.identifierBytes request = call'.identifierBytes request') :
    call.number = call'.number := by
  have hnumber := h.denotes.resolve_left fun ⟨_, _, _, hnone⟩ => by simp [hnone] at hm
  have hnumber' := h'.denotes.resolve_left fun ⟨_, _, _, hnone⟩ => by simp [hnone] at hm'
  rw [hnumber request hm, hnumber' request' hm', hsame]

/-- An identifier reaches the wire unchanged exactly when it is no number, when there is no
connection to send it on, or when it fits into the bytes of the request. -/
theorem reachesWire_iff (hc : catalog.components.get componentId = some comp) {call : Call}
    {k : Nat} (hk : call.identifierBits = some k) (w : World) :
    ReachesWire env catalog componentId call w ↔
      call.number = none ∨ (∃ e, exchange env comp w = .notConnected e) ∨
        ∃ n, call.number = some n ∧ 0 ≤ n ∧ n < 2 ^ k := by
  have hsilent : call.sends env catalog componentId w = [] →
      ReachesWire env catalog componentId call w := fun hnone =>
    ⟨.inr (by simp [hnone]), by simp [hnone], by simp [hnone]⟩
  cases hn : call.number with
  | none => exact iff_of_true (hsilent (Call.sends_of_number_eq_none hc hn)) (.inl rfl)
  | some n =>
    by_cases hx : ∃ e, exchange env comp w = .notConnected e
    · obtain ⟨e, he⟩ := hx
      exact iff_of_true (hsilent (Call.sends_of_notConnected hc hn he)) (.inr (.inl ⟨e, he⟩))
    · have hsends := Call.sends_of_connected hc hn (not_exists.mp hx)
      have hbytes := Call.beNat_identifierBytes hk n
      constructor
      · -- the request denotes `n % 2 ^ k`, and is told to denote `n`
        intro h
        have hdenotes := h.denotes.resolve_left fun ⟨_, _, _, hnone⟩ => by simp [hnone] at hsends
        have hself := hdenotes (call.request n) (by simp [hsends])
        rw [hn, hbytes, Option.some_inj] at hself
        exact .inr (.inr ⟨n, rfl, (emod_two_pow_eq_self_iff n k).mp hself.symm⟩)
      · rintro (hnone | hnot | ⟨n', hn', hfits⟩)
        · cases hnone
        · exact absurd hnot hx
        · -- nothing is lost of an integer that fits
          obtain rfl := Option.some.inj hn'
          have hself := (emod_two_pow_eq_self_iff n k).mpr hfits
          rw [hself] at hbytes
          refine ⟨.inr ?_, ?_, ?_⟩
          · intro request hm
            rw [hsends, List.mem_singleton] at hm
            rw [hm, hbytes, hn]
          · intro request hm response w' hrun
            rw [hsends, List.mem_singleton] at hm
            rw [hm, hbytes]
            exact Call.names_of_run hk hn hrun
          · intro hm
            rw [hsends, List.mem_singleton] at hm
            cases call with
            | readFaults statusMask => cases hk
            | readFaultDetail dtcId => cases hm
            | clearFaults group =>
              rw [← hm] at hbytes
              rw [hn, ← hbytes]
              rfl
            | readData did => cases hm

/-- The same for every call, and what it means for two of them. -/
theorem identifiers_reachWire (hc : catalog.components.get componentId = some comp) {call : Call}
    {k : Nat} (hk : call.identifierBits = some k) (w : World) :
    (ReachesWire env catalog componentId call w ↔
      call.number = none ∨ (∃ e, exchange env comp w = .notConnected e) ∨
        ∃ n, call.number = some n ∧ 0 ≤ n ∧ n < 2 ^ k) ∧
    ∀ call' w', ReachesWire env catalog componentId call w →
      ReachesWire env catalog componentId call' w' →
      ∀ request ∈ call.sends env catalog componentId w,
        ∀ request' ∈ call'.sends env catalog componentId w',
          call.identifierBytes request = call'.identifierBytes request' →
            call.number = call'.number :=
  ⟨reachesWire_iff hc hk w, fun _ _ h h' _ hm _ hm' hsame => h.number_unique h' hm hm' hsame⟩

theorem reachesWire_of_group :
    ReachesWire .blank shippedCatalog "openbsw-ecu" (.clearFaults "0x010100")
      (.receiving [.reply (some [0x54])]) :=
  (identifiers_reachWire rfl rfl _).1.mpr (.inr (.inr ⟨0x010100, by decide, by decide, by decide⟩))

end Identifiers

theorem not_reachesWire_of_wide_group :
    ¬ ∀ (env : PyEnv) (catalog : Catalog) (componentId : String) (comp : Component) (call : Call)
      (w : World), catalog.components.get componentId = some comp → call.identifierBits.isSome →
      ReachesWire env catalog componentId call w := by
  intro hall
  have h := hall .blank shippedCatalog "openbsw-ecu" openbswEcu
    (.clearFaults "0x1FFFFFF") (.receiving [.reply (some [0x54])]) rfl rfl
  have hsent : [0x14, 0xFF, 0xFF, 0xFF] ∈ Call.sends .blank shippedCatalog
      "openbsw-ecu" (.clearFaults "0x1FFFFFF") (.receiving [.reply (some [0x54])]) := by
    decide
  exact absurd (h.clearsAll hsent) (by decide)

end SovdDemo.Cda
