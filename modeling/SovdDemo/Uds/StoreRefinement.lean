import SovdDemo.Foundations.KeyedList
import SovdDemo.Foundations.Transition
import SovdDemo.Uds.ClearMemory
import SovdDemo.Uds.DtcSimulator

/-!
# The store as a finite map

A store is meant to map DTC numbers to status bytes. `addDtc` appends without looking for the number
it is given, and masks the number to 24 bits: a number that is stored already gets a second entry
that no search finds, and a wider number is stored under another one. All other operations act on
the store as on a map.

## Main definitions

- `StoreOperation` — the operations on a store, and `FaultMap.apply` — what they should do to a map
- `TrackedStore` — a store beside the map it should represent
- `RefinesMap` — the store represents the map
- `Misadds` — the calls of `addDtc` that append an entry for a wide or a stored number

## Main results

- `refinesMap_step_iff` — one operation
- `refinesMap_of_reachable` — the store represents the map in every run without such a call
-/

namespace SovdDemo.Uds

open Foundations

/-- An operation on a store. A status is changed through the pointer `findDtcByNumber` returns. -/
inductive StoreOperation
  | addDtc (dtcNumber : UInt32) (initialStatus : UInt8)
  | changeStatus (dtcNumber : UInt32) (change : UInt8 → UInt8)
  | clearByNumber (dtcNumber : UInt32)
  | clearAll

/-- What the operation returns, and the store after it. -/
def DiagnosticTroubleCodeStore.apply {N : Nat} (s : DiagnosticTroubleCodeStore N) :
    StoreOperation → Bool × DiagnosticTroubleCodeStore N
  | .addDtc dtcNumber initialStatus => s.addDtc dtcNumber initialStatus
  | .changeStatus dtcNumber change =>
    match s.findIndexByNumber dtcNumber with
    | some index =>
      (true, s.updateDtc index fun d => d.setStatusByte (change d.getStatusByte))
    | none => (false, s)
  | .clearByNumber dtcNumber => s.clearByNumber dtcNumber
  | .clearAll => (true, s.clearAll)

/-- A map from DTC numbers to status bytes. -/
abbrev FaultMap := UInt32 → Option UInt8

/-- What the operation means for a map. A number is bound when its insertion is accepted, and a
reset leaves the two not-completed bits. -/
def FaultMap.apply (m : FaultMap) (accepted : Bool) : StoreOperation → FaultMap
  | .addDtc dtcNumber initialStatus =>
    if accepted then Function.update m dtcNumber (some initialStatus) else m
  | .changeStatus dtcNumber change =>
    Function.update m dtcNumber ((m dtcNumber).map change)
  | .clearByNumber dtcNumber => Function.update m dtcNumber ((m dtcNumber).map fun _ => 0x50)
  | .clearAll => fun n => (m n).map fun _ => 0x50

/-- A store beside the map it should represent, and the numbers whose insertion was accepted. -/
structure TrackedStore (N : Nat) where
  store : DiagnosticTroubleCodeStore N
  bindings : FaultMap
  added : List UInt32

namespace TrackedStore

variable {N : Nat}

def empty : TrackedStore N := ⟨.empty, fun _ => none, []⟩

def step (x : TrackedStore N) (op : StoreOperation) : TrackedStore N where
  store := (x.store.apply op).2
  bindings := x.bindings.apply (x.store.apply op).1 op
  added :=
    match op with
    | .addDtc dtcNumber _ =>
      if (x.store.apply op).1 then dtcNumber :: x.added else x.added
    | _ => x.added

end TrackedStore

/-- All sequences of operations on an empty store. -/
def trackedStore (N : Nat) : System (TrackedStore N) StoreOperation where
  init x := x = .empty
  enabled _ _ := True
  step := TrackedStore.step

instance (N : Nat) (x : TrackedStore N) (op : StoreOperation) :
    Decidable ((trackedStore N).enabled x op) := inferInstanceAs (Decidable True)

/-- The store represents the map: at most `N` numbers of 24 bits, each once; a search finds what the
map holds, and finds nothing just for the numbers that were never added. -/
structure RefinesMap {N : Nat} (x : TrackedStore N) : Prop where
  distinct : x.store.numbers.Nodup
  bounded : x.store.numbers.length ≤ N
  narrow : ∀ n ∈ x.store.numbers, n.toNat < 2 ^ 24
  find : ∀ n, (x.store.findDtcByNumber n).map DiagnosticTroubleCode.statusByte = x.bindings n
  null : ∀ n, x.store.findDtcByNumber n = none ↔ n ∉ x.added

/-- What a single operation promises: `addDtc` binds its number and no other, or changes nothing;
`clearByNumber` resets the entry of its number and no other. -/
def Conforms {N : Nat} (s : DiagnosticTroubleCodeStore N) : StoreOperation → Prop
  | .addDtc dtcNumber initialStatus =>
    let result := s.addDtc dtcNumber initialStatus
    (result.1 = true →
      (result.2.findDtcByNumber dtcNumber).map DiagnosticTroubleCode.statusByte =
          some initialStatus ∧
        ∀ n ≠ dtcNumber, result.2.findDtcByNumber n = s.findDtcByNumber n) ∧
    (result.1 = false → result.2 = s)
  | .clearByNumber dtcNumber => (s.clearByNumber dtcNumber).2.dtcs =
      s.dtcs.map fun d => if d.dtcNumber = dtcNumber then d.clear else d
  | .changeStatus _ _ | .clearAll => True

/-- `addDtc` has room for an entry, and is given a number that is stored or wider than 24 bits. -/
def Misadds {N : Nat} (s : DiagnosticTroubleCodeStore N) : StoreOperation → Prop
  | .addDtc dtcNumber _ =>
    s.getCount < N ∧ (2 ^ 24 ≤ dtcNumber.toNat ∨ dtcNumber ∈ s.numbers)
  | .changeStatus _ _ | .clearByNumber _ | .clearAll => False

instance {N : Nat} (s : DiagnosticTroubleCodeStore N) : ∀ op, Decidable (Misadds s op)
  | .addDtc _ _ => inferInstanceAs (Decidable (_ ∧ _))
  | .changeStatus _ _ | .clearByNumber _ | .clearAll => inferInstanceAs (Decidable False)

namespace DiagnosticTroubleCode

/-- A number of 24 bits is kept as it is. -/
theorem ofNumber_dtcNumber {n : UInt32} (hn : n.toNat < 2 ^ 24) (status : UInt8) :
    (ofNumber n status).dtcNumber = n := by
  refine UInt32.toNat_inj.mp ?_
  show (n &&& 0x00FFFFFF).toNat = _
  rw [UInt32.toNat_and]
  exact (Nat.and_two_pow_sub_one_eq_mod n.toNat 24).trans (Nat.mod_eq_of_lt hn)

end DiagnosticTroubleCode

namespace DiagnosticTroubleCodeStore

variable {N : Nat} (s : DiagnosticTroubleCodeStore N)

theorem lt_of_mem_numbers {n : UInt32} (hn : n ∈ s.numbers) : n.toNat < 2 ^ 24 := by
  obtain ⟨d, -, rfl⟩ := List.mem_map.mp hn
  exact d.dtcNumber_lt

theorem length_numbers_le : s.numbers.length ≤ N := by
  rw [numbers, List.length_map]
  exact s.count_le

theorem findDtcByNumber_eq_none_iff_notMem (n : UInt32) :
    s.findDtcByNumber n = none ↔ n ∉ s.numbers := by
  rw [findDtcByNumber_eq_none_iff, numbers, List.mem_map]
  constructor
  · rintro h ⟨d, hd, hn⟩
    exact h d hd hn
  · intro h d hd hn
    exact h ⟨d, hd, hn⟩

theorem map_findDtcByNumber (n : UInt32) :
    (s.findDtcByNumber n).map DiagnosticTroubleCode.statusByte =
      KeyedList.binding DiagnosticTroubleCode.dtcNumber DiagnosticTroubleCode.statusByte
        s.dtcs n := rfl

theorem addDtc_of_full (h : ¬ s.getCount < N) (n : UInt32) (status : UInt8) :
    s.addDtc n status = (false, s) := by
  have hfull : N ≤ s.dtcs.length := Nat.not_lt.mp h
  rw [addDtc, dif_pos hfull]

theorem addDtc_of_room (h : s.getCount < N) (n : UInt32) (status : UInt8) :
    (s.addDtc n status).1 = true ∧ (s.addDtc n status).2.dtcs = s.dtcs ++ [.ofNumber n status] := by
  have hroom : ¬ N ≤ s.dtcs.length := Nat.not_le.mpr h
  rw [addDtc, dif_neg hroom]
  exact ⟨rfl, rfl⟩

/-- A number of 24 bits is appended as it is. -/
theorem numbers_addDtc_of_room (h : s.getCount < N) {n : UInt32} (hlt : n.toNat < 2 ^ 24)
    (status : UInt8) : (s.addDtc n status).2.numbers = s.numbers ++ [n] := by
  rw [numbers, (s.addDtc_of_room h n status).2, List.map_append, List.map_singleton,
    DiagnosticTroubleCode.ofNumber_dtcNumber hlt]
  rfl

/-- The search for a number does not see an entry of another number. -/
theorem findDtcByNumber_eq_of_ne {t : DiagnosticTroubleCodeStore N} {d : DiagnosticTroubleCode}
    (ht : t.dtcs = s.dtcs ++ [d]) {n : UInt32} (hn : n ≠ d.dtcNumber) :
    t.findDtcByNumber n = s.findDtcByNumber n := by
  have hd : (d.getDtcNumber == n) = false := beq_eq_false_iff_ne.mpr (Ne.symm hn)
  rw [findDtcByNumber, ht, List.find?_append, List.find?_singleton, hd]
  exact Option.or_none

end DiagnosticTroubleCodeStore

/-! One operation -/

namespace RefinesMap

variable {N : Nat} {x : TrackedStore N}

/-- An operation that keeps the numbers has only the bindings to get right. -/
theorem of_numbers_eq (hi : RefinesMap x) {op : StoreOperation}
    (hn : (x.step op).store.numbers = x.store.numbers) (ha : (x.step op).added = x.added)
    (hf : ∀ n, ((x.step op).store.findDtcByNumber n).map DiagnosticTroubleCode.statusByte =
      (x.step op).bindings n) : RefinesMap (x.step op) := by
  refine ⟨hn ▸ hi.distinct, hn ▸ hi.bounded, hn ▸ hi.narrow, hf, ?_⟩
  intro n
  rw [ha, ← hi.null n, DiagnosticTroubleCodeStore.findDtcByNumber_eq_none_iff_notMem, hn,
    DiagnosticTroubleCodeStore.findDtcByNumber_eq_none_iff_notMem]

theorem bindings_eq (hi : RefinesMap x) :
    KeyedList.binding DiagnosticTroubleCode.dtcNumber DiagnosticTroubleCode.statusByte
      x.store.dtcs = x.bindings :=
  funext hi.find

/-- Writing through the pointer of a search changes one binding. -/
theorem bindings_updateDtc (hi : RefinesMap x) {n : UInt32} {index : Nat}
    (hf : x.store.findIndexByNumber n = some index)
    {write : DiagnosticTroubleCode → DiagnosticTroubleCode} (change : UInt8 → UInt8)
    (hkey : ∀ d, (write d).dtcNumber = d.dtcNumber)
    (hval : ∀ d, (write d).statusByte = change d.statusByte) (k : UInt32) :
    ((x.store.updateDtc index write).findDtcByNumber k).map DiagnosticTroubleCode.statusByte =
      Function.update x.bindings n ((x.bindings n).map change) k := by
  rw [DiagnosticTroubleCodeStore.map_findDtcByNumber, ← hi.bindings_eq]
  exact congrFun (KeyedList.binding_modify hkey hval hf) k

/-- A search without a result has nothing to change. -/
theorem bindings_of_not_found (hi : RefinesMap x) {n : UInt32}
    (hf : x.store.findIndexByNumber n = none) (change : UInt8 → UInt8) (k : UInt32) :
    (x.store.findDtcByNumber k).map DiagnosticTroubleCode.statusByte =
      Function.update x.bindings n ((x.bindings n).map change) k := by
  have hnone : x.bindings n = none := by
    rw [← hi.find n, DiagnosticTroubleCodeStore.findDtcByNumber_eq, hf]
    rfl
  rw [hnone, Option.map_none, ← hnone, Function.update_eq_self]
  exact hi.find k

theorem changeStatus (hi : RefinesMap x) (n : UInt32) (change : UInt8 → UInt8) :
    RefinesMap (x.step (.changeStatus n change)) := by
  cases hf : x.store.findIndexByNumber n with
  | none =>
    have hstore : (x.step (.changeStatus n change)).store = x.store := by
      simp only [TrackedStore.step, DiagnosticTroubleCodeStore.apply, hf]
    refine hi.of_numbers_eq (by rw [hstore]) rfl ?_
    intro k
    rw [hstore]
    exact hi.bindings_of_not_found hf change k
  | some index =>
    have hstore : (x.step (.changeStatus n change)).store =
        x.store.updateDtc index fun d => d.setStatusByte (change d.getStatusByte) := by
      simp only [TrackedStore.step, DiagnosticTroubleCodeStore.apply, hf]
    refine hi.of_numbers_eq ?_ rfl fun k => ?_
    · rw [hstore]
      exact x.store.numbers_updateDtc index fun _ => rfl
    · have hkey : ∀ d : DiagnosticTroubleCode,
          (d.setStatusByte (change d.getStatusByte)).dtcNumber = d.dtcNumber := fun _ => rfl
      rw [hstore]
      exact hi.bindings_updateDtc hf change hkey (fun _ => rfl) k

theorem clearByNumber (hi : RefinesMap x) (n : UInt32) :
    RefinesMap (x.step (.clearByNumber n)) := by
  refine hi.of_numbers_eq (x.store.numbers_clearByNumber n) rfl ?_
  intro k
  show ((x.store.clearByNumber n).2.findDtcByNumber k).map _ = _
  rw [DiagnosticTroubleCodeStore.clearByNumber]
  cases hf : x.store.findIndexByNumber n with
  | none => exact hi.bindings_of_not_found hf _ k
  | some index =>
    exact hi.bindings_updateDtc hf (fun _ => 0x50) (fun d => d.clear_dtcNumber)
      (fun d => d.clear_statusByte) k

theorem clearAll (hi : RefinesMap x) : RefinesMap (x.step .clearAll) := by
  refine hi.of_numbers_eq x.store.numbers_clearAll rfl ?_
  intro k
  show KeyedList.binding DiagnosticTroubleCode.dtcNumber DiagnosticTroubleCode.statusByte
    (x.store.dtcs.map DiagnosticTroubleCode.clear) k = (x.bindings k).map fun _ => 0x50
  rw [← hi.bindings_eq]
  exact KeyedList.binding_map (fun d => d.clear_dtcNumber) (fun d => d.clear_statusByte) k

/-- Without room `addDtc` does nothing. -/
theorem step_addDtc_of_full (h : ¬ x.store.getCount < N) (n : UInt32) (status : UInt8) :
    x.step (.addDtc n status) = x := by
  have hadd := x.store.addDtc_of_full h n status
  simp [TrackedStore.step, DiagnosticTroubleCodeStore.apply, FaultMap.apply, hadd]

theorem bindings_addDtc_of_room (h : x.store.getCount < N) (n : UInt32) (status : UInt8) :
    (x.step (.addDtc n status)).bindings = Function.update x.bindings n (some status) := by
  have hadd := (x.store.addDtc_of_room h n status).1
  simp [TrackedStore.step, DiagnosticTroubleCodeStore.apply, FaultMap.apply, hadd]

theorem added_addDtc_of_room (h : x.store.getCount < N) (n : UInt32) (status : UInt8) :
    (x.step (.addDtc n status)).added = n :: x.added := by
  have hadd := (x.store.addDtc_of_room h n status).1
  simp [TrackedStore.step, DiagnosticTroubleCodeStore.apply, hadd]

/-- A new number of 24 bits is inserted into the map. -/
theorem addDtc_of_room (hi : RefinesMap x) (h : x.store.getCount < N) {n : UInt32}
    (hlt : n.toNat < 2 ^ 24) (hn : n ∉ x.store.numbers) (status : UInt8) :
    RefinesMap (x.step (.addDtc n status)) := by
  have hd := DiagnosticTroubleCode.ofNumber_dtcNumber hlt status
  have hdtcs := (x.store.addDtc_of_room h n status).2
  have hnumbers : (x.step (.addDtc n status)).store.numbers = x.store.numbers ++ [n] :=
    x.store.numbers_addDtc_of_room h hlt status
  refine ⟨?_, DiagnosticTroubleCodeStore.length_numbers_le _, ?_, ?_, ?_⟩
  · -- the number is new
    rw [hnumbers]
    exact List.nodup_append.mpr ⟨hi.distinct, List.nodup_singleton n, fun a ha b hb hab =>
      hn (List.mem_singleton.mp hb ▸ hab ▸ ha)⟩
  · rw [hnumbers]
    intro k hk
    rcases List.mem_append.mp hk with hk | hk
    · exact hi.narrow k hk
    · exact List.mem_singleton.mp hk ▸ hlt
  · -- and the map binds it
    intro k
    have hfresh : (DiagnosticTroubleCode.ofNumber n status).dtcNumber ∉
        x.store.dtcs.map DiagnosticTroubleCode.dtcNumber := by
      rw [hd]
      exact hn
    rw [bindings_addDtc_of_room h, ← hi.bindings_eq]
    show KeyedList.binding DiagnosticTroubleCode.dtcNumber DiagnosticTroubleCode.statusByte
      (x.store.addDtc n status).2.dtcs k = _
    rw [hdtcs, KeyedList.binding_append hfresh, hd]
    rfl
  · intro k
    rw [added_addDtc_of_room h, DiagnosticTroubleCodeStore.findDtcByNumber_eq_none_iff_notMem,
      hnumbers, List.mem_append, List.mem_singleton, List.mem_cons, not_or, not_or,
      ← DiagnosticTroubleCodeStore.findDtcByNumber_eq_none_iff_notMem, hi.null k]
    exact and_comm

end RefinesMap

theorem conforms_addDtc_of_full {N : Nat} {s : DiagnosticTroubleCodeStore N} (h : ¬ s.getCount < N)
    (n : UInt32) (status : UInt8) : Conforms s (.addDtc n status) := by
  have hadd := s.addDtc_of_full h n status
  simp [Conforms, hadd]

theorem conforms_addDtc_of_room {N : Nat} {s : DiagnosticTroubleCodeStore N} (h : s.getCount < N)
    {n : UInt32} (hlt : n.toNat < 2 ^ 24) (hn : n ∉ s.numbers) (status : UInt8) :
    Conforms s (.addDtc n status) := by
  have hd := DiagnosticTroubleCode.ofNumber_dtcNumber hlt status
  obtain ⟨htrue, hdtcs⟩ := s.addDtc_of_room h n status
  refine ⟨fun _ => ⟨?_, fun k hk => s.findDtcByNumber_eq_of_ne hdtcs (hd.symm ▸ hk)⟩, ?_⟩
  · have hfresh : (DiagnosticTroubleCode.ofNumber n status).dtcNumber ∉
        s.dtcs.map DiagnosticTroubleCode.dtcNumber := by
      rw [hd]
      exact hn
    have hbind : KeyedList.binding DiagnosticTroubleCode.dtcNumber
        DiagnosticTroubleCode.statusByte (s.dtcs ++ [.ofNumber n status]) = _ :=
      KeyedList.binding_append hfresh
    rw [hd] at hbind
    rw [DiagnosticTroubleCodeStore.map_findDtcByNumber, hdtcs, hbind, Function.update_self]
    rfl
  · intro hf
    rw [htrue] at hf
    cases hf

theorem conforms_clearByNumber {N : Nat} {s : DiagnosticTroubleCodeStore N} (hs : s.numbers.Nodup)
    (n : UInt32) : Conforms s (.clearByNumber n) := by
  by_cases hn : n ∈ s.numbers
  · exact (s.clearByNumber_of_mem hs hn).2
  · have hnone := s.clearByNumber_of_not_mem hn
    show (s.clearByNumber n).2.dtcs = _
    rw [hnone]
    -- no entry has the number
    refine (List.map_congr_left fun d hd => ?_).trans (List.map_id _) |>.symm
    exact if_neg fun he => hn (List.mem_map.mpr ⟨d, hd, he⟩)

/-- A call that stores an entry for a wide or a stored number leaves the map behind. -/
theorem not_refinesMap_step {N : Nat} {x : TrackedStore N} {op : StoreOperation}
    (hbad : Misadds x.store op) : ¬ RefinesMap (x.step op) := by
  intro hi
  cases op with
  | addDtc n status =>
    obtain ⟨hroom, hwide | hstored⟩ := hbad
    · -- the number is counted as added, and no search for it succeeds
      have hnone : (x.step (.addDtc n status)).store.findDtcByNumber n = none := by
        rw [DiagnosticTroubleCodeStore.findDtcByNumber_eq_none_iff_notMem]
        intro hm
        exact Nat.not_le.mpr (DiagnosticTroubleCodeStore.lt_of_mem_numbers _ hm) hwide
      refine (hi.null n).mp hnone ?_
      rw [RefinesMap.added_addDtc_of_room hroom]
      exact List.mem_cons_self
    · -- the number is stored twice
      have hnumbers : (x.step (.addDtc n status)).store.numbers = x.store.numbers ++ [n] :=
        x.store.numbers_addDtc_of_room hroom (x.store.lt_of_mem_numbers hstored) status
      have hdistinct := hi.distinct
      rw [hnumbers] at hdistinct
      exact (List.nodup_append.mp hdistinct).2.2 n hstored n (List.mem_singleton_self n) rfl
  | changeStatus n change => exact hbad
  | clearByNumber n => exact hbad
  | clearAll => exact hbad

/-- An operation keeps the store a map, and does what it promises, exactly when it is not such a
call. -/
theorem refinesMap_step_iff {N : Nat} {x : TrackedStore N} (hi : RefinesMap x)
    (op : StoreOperation) :
    RefinesMap (x.step op) ∧ Conforms x.store op ↔ ¬ Misadds x.store op := by
  constructor
  · rintro ⟨hstep, -⟩ hbad
    exact not_refinesMap_step hbad hstep
  · intro hgood
    cases op with
    | addDtc n status =>
      by_cases hroom : x.store.getCount < N
      · obtain ⟨hlt, hn⟩ := not_or.mp fun h => hgood ⟨hroom, h⟩
        exact ⟨hi.addDtc_of_room hroom (Nat.not_le.mp hlt) hn status,
          conforms_addDtc_of_room hroom (Nat.not_le.mp hlt) hn status⟩
      · rw [RefinesMap.step_addDtc_of_full hroom]
        exact ⟨hi, conforms_addDtc_of_full hroom n status⟩
    | changeStatus n change => exact ⟨hi.changeStatus n change, trivial⟩
    | clearByNumber n => exact ⟨hi.clearByNumber n, conforms_clearByNumber hi.distinct n⟩
    | clearAll => exact ⟨hi.clearAll, trivial⟩

/-- In every run in which no call of `addDtc` stores an entry for a wide or a stored number, the
store represents the map; and the next operation keeps it so, and does what it promises, exactly
when it is no such call. -/
theorem refinesMap_of_reachable {N : Nat} {x : TrackedStore N}
    (hr : ((trackedStore N).restrict fun x op => ¬ Misadds x.store op).Reachable x) :
    RefinesMap x ∧ ∀ op,
      (RefinesMap (x.step op) ∧ Conforms x.store op ↔ ¬ Misadds x.store op) := by
  have hi : RefinesMap x := by
    refine hr.invariant (I := RefinesMap) ?_ ?_
    · rintro x rfl
      exact ⟨List.nodup_nil, Nat.zero_le N, fun n hn => absurd hn List.not_mem_nil, fun n => rfl,
        fun n => iff_of_true rfl List.not_mem_nil⟩
    · rintro x op hi ⟨-, hg⟩
      exact ((refinesMap_step_iff hi op).mpr hg).1
  exact ⟨hi, refinesMap_step_iff hi⟩

/-- What `init` asks of the store. -/
def initOperations : List StoreOperation :=
  [.addDtc DtcSimulator.dtcEngineOvertemp 0, .addDtc DtcSimulator.dtcBatteryVoltageLow 0,
    .addDtc DtcSimulator.dtcCommunicationFault 0, .addDtc DtcSimulator.dtcSensorMalfunction 0,
    .addDtc DtcSimulator.dtcBrakeSystemFault 0]

/-- The store of a simulator after `init`, with whatever it is compared to. -/
theorem dtcStore_init (sim : DtcSimulator) (m : FaultMap) (added : List UInt32) :
    (initOperations.foldl (trackedStore 16).step ⟨sim.dtcStore, m, added⟩).store =
      sim.init.dtcStore := rfl

/-- One `init` registers five DTCs. -/
theorem refinesMap_init :
    RefinesMap (initOperations.foldl (trackedStore 16).step .empty) :=
  (refinesMap_of_reachable (x := initOperations.foldl (trackedStore 16).step .empty)
    ⟨_, initOperations, rfl, .of_enabledAll (by decide)⟩).1

/-- A second `init` appends the same five numbers again. -/
theorem not_refinesMap_init_init :
    ¬ ∀ N x, (trackedStore N).Reachable x → RefinesMap x := by
  intro hall
  have hr : (trackedStore 16).Reachable
      ((initOperations ++ initOperations).foldl (trackedStore 16).step .empty) :=
    ⟨_, _, rfl, .of_enabledAll (by decide)⟩
  have hstore : ((initOperations ++ initOperations).foldl (trackedStore 16).step .empty).store =
      DtcSimulator.construct.init.init.dtcStore := by
    rw [List.foldl_append]
    exact dtcStore_init DtcSimulator.construct.init _ _
  have hdistinct := (hall 16 _ hr).distinct
  rw [hstore] at hdistinct
  exact absurd hdistinct (by decide)

end SovdDemo.Uds
