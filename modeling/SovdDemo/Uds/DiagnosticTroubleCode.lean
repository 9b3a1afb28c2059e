import SovdDemo.Foundations.ByteMask
import Mathlib.Data.List.Basic

/-!
# DTCs and their store

`DiagnosticTroubleCode` and `DiagnosticTroubleCodeStore<N>`. The number of a DTC fits 24 bits by
construction, and a store never holds more than `N` DTCs; both are fields of the structures. The
store keeps the first `_count` entries of its array in order, and a pointer into the array is the
position it points to.

## Main definitions

- `StatusBit` — the status bits of ISO 14229-1 Annex D
- `DiagnosticTroubleCode` — a 24-bit number with a status byte
- `DiagnosticTroubleCodeStore` — up to `N` DTCs, in the order they were added
-/

namespace SovdDemo.Uds

open Foundations

namespace StatusBit

def testFailed : UInt8 := 0x01
def testFailedThisOperationCycle : UInt8 := 0x02
def pendingDtc : UInt8 := 0x04
def confirmedDtc : UInt8 := 0x08
def testNotCompletedSinceLastClear : UInt8 := 0x10
def testFailedSinceLastClear : UInt8 := 0x20
def testNotCompletedThisOperationCyc : UInt8 := 0x40
def warningIndicatorRequested : UInt8 := 0x80

end StatusBit

/-- A DTC: its 3-byte number and its status byte. -/
structure DiagnosticTroubleCode where
  dtcNumber : UInt32
  statusByte : UInt8
  dtcNumber_lt : dtcNumber.toNat < 2 ^ 24
  deriving DecidableEq, Repr

theorem and_lt_of_lt_two_pow (n m : UInt32) {k : Nat} (hm : m.toNat < 2 ^ k) :
    (n &&& m).toNat < 2 ^ k := by
  rw [UInt32.toNat_and]
  exact Nat.and_lt_two_pow _ hm

namespace DiagnosticTroubleCode

/-- The constructor: only the lower 24 bits of the number are used. -/
def ofNumber (dtcNumber : UInt32) (initialStatus : UInt8) : DiagnosticTroubleCode where
  dtcNumber := dtcNumber &&& 0x00FFFFFF
  statusByte := initialStatus
  dtcNumber_lt := and_lt_of_lt_two_pow _ _ (by decide)

variable (d : DiagnosticTroubleCode)

def getDtcNumber : UInt32 := d.dtcNumber

def getDtcHighByte : UInt8 := ((d.dtcNumber >>> 16) &&& 0xFF).toUInt8

def getDtcMiddleByte : UInt8 := ((d.dtcNumber >>> 8) &&& 0xFF).toUInt8

def getDtcLowByte : UInt8 := (d.dtcNumber &&& 0xFF).toUInt8

def getStatusByte : UInt8 := d.statusByte

def setStatusByte (status : UInt8) : DiagnosticTroubleCode := { d with statusByte := status }

def setStatusBit (bit : UInt8) : DiagnosticTroubleCode := d.setStatusByte (d.statusByte ||| bit)

def clearStatusBit (bit : UInt8) : DiagnosticTroubleCode :=
  d.setStatusByte (d.statusByte &&& ~~~bit)

def matchesStatusMask (mask : UInt8) : Bool := (d.statusByte &&& mask) != 0

def clear : DiagnosticTroubleCode :=
  d.setStatusByte
    (StatusBit.testNotCompletedSinceLastClear ||| StatusBit.testNotCompletedThisOperationCyc)

def isActive : Bool := d.statusByte != 0

/-- Some bit of `mask` is set in the status byte. -/
def Has (mask : UInt8) : Prop := Overlaps d.statusByte mask

instance (mask : UInt8) : Decidable (d.Has mask) := inferInstanceAs (Decidable (Overlaps _ _))

@[simp] theorem clear_dtcNumber : d.clear.dtcNumber = d.dtcNumber := rfl

@[simp] theorem clear_statusByte : d.clear.statusByte = 0x50 := rfl

theorem has_setStatusBit (bit mask : UInt8) :
    (d.setStatusBit bit).Has mask ↔ d.Has mask ∨ Overlaps bit mask :=
  overlaps_or _ _ _

theorem has_clearStatusBit {bit mask : UInt8} (h : ¬ Overlaps bit mask) :
    (d.clearStatusBit bit).Has mask ↔ d.Has mask :=
  overlaps_andNot_of_not_overlaps _ h

/-- A bit that is set after clearing some was set before. -/
theorem has_of_has_clearStatusBit {bit mask : UInt8} (h : (d.clearStatusBit bit).Has mask) :
    d.Has mask :=
  Overlaps.of_andNot h

theorem not_has_clearStatusBit {bit mask : UInt8} (h : mask &&& ~~~bit = 0) :
    ¬ (d.clearStatusBit bit).Has mask :=
  not_overlaps_andNot _ h

theorem setStatusBit_setStatusBit (b c : UInt8) :
    (d.setStatusBit b).setStatusBit c = d.setStatusBit (b ||| c) := by
  simp [setStatusBit, setStatusByte, UInt8.or_assoc]

theorem clearStatusBit_clearStatusBit (b c : UInt8) :
    (d.clearStatusBit b).clearStatusBit c = d.clearStatusBit (b ||| c) := by
  simp [clearStatusBit, setStatusByte, andNot_andNot]

theorem has_or (m n : UInt8) : d.Has (m ||| n) ↔ d.Has m ∨ d.Has n := overlaps_or_right _ _ _

theorem has_clear (mask : UInt8) : d.clear.Has mask ↔ Overlaps 0x50 mask := Iff.rfl

theorem statusByte_ne_zero_of_has {mask : UInt8} (h : d.Has mask) : d.statusByte ≠ 0 := by
  intro hz
  rw [Has, hz] at h
  exact not_overlaps_zero_left _ h

end DiagnosticTroubleCode

/-- The DTCs that have been added, in a store with room for `N`. -/
structure DiagnosticTroubleCodeStore (N : Nat) where
  dtcs : List DiagnosticTroubleCode
  count_le : dtcs.length ≤ N
  deriving DecidableEq, Repr

namespace DiagnosticTroubleCodeStore

variable {N : Nat}

/-- The constructor. -/
def empty : DiagnosticTroubleCodeStore N := ⟨[], Nat.zero_le N⟩

variable (s : DiagnosticTroubleCodeStore N)

/-- All bits are supported. -/
def getStatusAvailabilityMask : UInt8 := 0xFF

def addDtc (dtcNumber : UInt32) (initialStatus : UInt8) : Bool × DiagnosticTroubleCodeStore N :=
  if h : N ≤ s.dtcs.length then (false, s)
  else
    (true, ⟨s.dtcs ++ [.ofNumber dtcNumber initialStatus], by
      rw [List.length_append, List.length_singleton]
      omega⟩)

def getDtcByIndex (index : Nat) : Option DiagnosticTroubleCode := s.dtcs[index]?

/-- The position of the entry `findDtcByNumber` points to. -/
def findIndexByNumber (dtcNumber : UInt32) : Option Nat :=
  s.dtcs.findIdx? fun d => d.getDtcNumber == dtcNumber

def findDtcByNumber (dtcNumber : UInt32) : Option DiagnosticTroubleCode :=
  s.dtcs.find? fun d => d.getDtcNumber == dtcNumber

def getCount : Nat := s.dtcs.length

def getCapacity : Nat := N

def countByStatusMask (mask : UInt8) : Nat := s.dtcs.countP fun d => d.matchesStatusMask mask

/-- Write through a pointer to the entry at `index`. -/
def updateDtc (index : Nat) (f : DiagnosticTroubleCode → DiagnosticTroubleCode) :
    DiagnosticTroubleCodeStore N :=
  ⟨s.dtcs.modify index f, by simpa using s.count_le⟩

def clearAll : DiagnosticTroubleCodeStore N :=
  ⟨s.dtcs.map DiagnosticTroubleCode.clear, by simpa using s.count_le⟩

def clearByNumber (dtcNumber : UInt32) : Bool × DiagnosticTroubleCodeStore N :=
  match s.findIndexByNumber dtcNumber with
  | some index => (true, s.updateDtc index DiagnosticTroubleCode.clear)
  | none => (false, s)

/-- The entry a non-null pointer points to. -/
theorem findDtcByNumber_eq (dtcNumber : UInt32) :
    s.findDtcByNumber dtcNumber = (s.findIndexByNumber dtcNumber).bind s.getDtcByIndex :=
  List.find?_eq_bind_findIdx?_getElem?

theorem findDtcByNumber_eq_none_iff (dtcNumber : UInt32) :
    s.findDtcByNumber dtcNumber = none ↔ ∀ d ∈ s.dtcs, d.dtcNumber ≠ dtcNumber := by
  simp [findDtcByNumber, DiagnosticTroubleCode.getDtcNumber]

theorem findIndexByNumber_eq_none_iff (dtcNumber : UInt32) :
    s.findIndexByNumber dtcNumber = none ↔ ∀ d ∈ s.dtcs, d.dtcNumber ≠ dtcNumber := by
  simp [findIndexByNumber, DiagnosticTroubleCode.getDtcNumber]

theorem getDtcByIndex_updateDtc (index : Nat) (f : DiagnosticTroubleCode → DiagnosticTroubleCode)
    (i : Nat) : (s.updateDtc index f).getDtcByIndex i =
      (s.getDtcByIndex i).map fun d => if index = i then f d else d := by
  unfold getDtcByIndex updateDtc
  rw [List.getElem?_modify]
  split <;> simp_all

theorem getDtcByIndex_clearAll (i : Nat) :
    s.clearAll.getDtcByIndex i = (s.getDtcByIndex i).map DiagnosticTroubleCode.clear := by
  simp [getDtcByIndex, clearAll]

theorem getDtcByIndex_clearByNumber (dtcNumber : UInt32) (i : Nat) :
    (s.clearByNumber dtcNumber).2.getDtcByIndex i =
      (s.getDtcByIndex i).map fun d =>
        if s.findIndexByNumber dtcNumber = some i then d.clear else d := by
  rw [clearByNumber]
  cases s.findIndexByNumber dtcNumber with
  | none => simp
  | some index => simp [getDtcByIndex_updateDtc]

theorem mem_iff (d : DiagnosticTroubleCode) :
    d ∈ s.dtcs ↔ ∃ i, s.getDtcByIndex i = some d :=
  List.mem_iff_getElem?

/-- An entry has one number, so two searches that end in it look for the same one. -/
theorem eq_of_findIndexByNumber {m n : UInt32} {i : Nat} (hm : s.findIndexByNumber m = some i)
    (hn : s.findIndexByNumber n = some i) : m = n := by
  obtain ⟨_, hm, -⟩ := List.findIdx?_eq_some_iff_getElem.mp hm
  obtain ⟨_, hn, -⟩ := List.findIdx?_eq_some_iff_getElem.mp hn
  exact (beq_iff_eq.mp hm).symm.trans (beq_iff_eq.mp hn)

/-! The numbers of the entries, in store order. Only `addDtc` changes them. -/

def numbers : List UInt32 := s.dtcs.map DiagnosticTroubleCode.dtcNumber

theorem findIndexByNumber_eq (dtcNumber : UInt32) :
    s.findIndexByNumber dtcNumber = s.numbers.findIdx? (· == dtcNumber) := by
  rw [numbers, List.findIdx?_map]
  rfl

theorem numbers_updateDtc (index : Nat) {f : DiagnosticTroubleCode → DiagnosticTroubleCode}
    (hf : ∀ d, (f d).dtcNumber = d.dtcNumber) : (s.updateDtc index f).numbers = s.numbers := by
  -- position by position: the entry at `index` keeps its number, the others are not touched
  ext i : 1
  simp only [numbers, updateDtc, List.getElem?_map, List.getElem?_modify]
  split
  · simp [Option.map_map, Function.comp_def, hf]
  · simp

theorem numbers_clearAll : s.clearAll.numbers = s.numbers := by
  simp [numbers, clearAll, Function.comp_def]

theorem numbers_clearByNumber (dtcNumber : UInt32) :
    (s.clearByNumber dtcNumber).2.numbers = s.numbers := by
  rw [clearByNumber]
  cases s.findIndexByNumber dtcNumber with
  | none => rfl
  | some index => exact s.numbers_updateDtc index fun _ => rfl

theorem findIndexByNumber_congr {N' : Nat} {t : DiagnosticTroubleCodeStore N'}
    (h : s.numbers = t.numbers) (dtcNumber : UInt32) :
    s.findIndexByNumber dtcNumber = t.findIndexByNumber dtcNumber := by
  rw [findIndexByNumber_eq, findIndexByNumber_eq, h]

end DiagnosticTroubleCodeStore

end SovdDemo.Uds
