import Mathlib.Algebra.Group.Nat.Defs
import Mathlib.Logic.Basic
import Mathlib.Tactic.Common

/-!
# Byte masks

A status byte is a set of flags, and a mask selects some of them. `Overlaps s m` says that some flag
selected by `m` is set in `s`; the lemmas push it through setting flags (`|||`) and clearing them
(`&&& ~~~`), so that facts about flags become propositional.
-/

namespace Foundations

/-- Some bit of the mask `m` is set in `s`. -/
def Overlaps (s m : UInt8) : Prop := s &&& m ≠ 0

instance (s m : UInt8) : Decidable (Overlaps s m) := inferInstanceAs (Decidable (_ ≠ _))

theorem overlaps_iff (s m : UInt8) :
    Overlaps s m ↔ ∃ i < 8, s.toBitVec.getLsbD i = true ∧ m.toBitVec.getLsbD i = true := by
  -- a byte is zero when none of its eight bits is set
  have hzero : s &&& m = 0 ↔ ∀ i < 8, (s &&& m).toBitVec.getLsbD i = false := by
    rw [← UInt8.toBitVec_inj]
    refine ⟨fun h i _ => by simp [h], fun h => BitVec.eq_of_getLsbD_eq ?_⟩
    intro i hi
    rw [h i hi]
    simp
  rw [Overlaps, ne_eq, hzero]
  simp [UInt8.toBitVec_and]

theorem overlaps_comm (s m : UInt8) : Overlaps s m ↔ Overlaps m s := by
  rw [Overlaps, Overlaps, UInt8.and_comm]

@[simp] theorem not_overlaps_zero_left (m : UInt8) : ¬ Overlaps 0 m := by
  simp [Overlaps]

/-- Every flag is selected by the full mask. -/
@[simp] theorem overlaps_full (s : UInt8) : Overlaps s 0xFF ↔ s ≠ 0 := by
  have h : s &&& 0xFF = s := by
    rw [show (0xFF : UInt8) = -1 from rfl, UInt8.and_neg_one]
  rw [Overlaps, h]

/-- Setting the flags of `t`. -/
theorem overlaps_or (s t m : UInt8) : Overlaps (s ||| t) m ↔ Overlaps s m ∨ Overlaps t m := by
  simp only [overlaps_iff, UInt8.toBitVec_or, BitVec.getLsbD_or, Bool.or_eq_true]
  constructor
  · rintro ⟨i, hi, hs | ht, hm⟩
    · exact .inl ⟨i, hi, hs, hm⟩
    · exact .inr ⟨i, hi, ht, hm⟩
  · rintro (⟨i, hi, hs, hm⟩ | ⟨i, hi, ht, hm⟩)
    · exact ⟨i, hi, .inl hs, hm⟩
    · exact ⟨i, hi, .inr ht, hm⟩

theorem overlaps_or_right (s m n : UInt8) :
    Overlaps s (m ||| n) ↔ Overlaps s m ∨ Overlaps s n := by
  rw [overlaps_comm, overlaps_or, overlaps_comm m, overlaps_comm n]

/-- Clearing the flags of `t` takes them out of the mask. -/
theorem overlaps_andNot (s t m : UInt8) :
    Overlaps (s &&& ~~~t) m ↔ Overlaps s (m &&& ~~~t) := by
  rw [Overlaps, Overlaps, UInt8.and_assoc, UInt8.and_comm (~~~t)]

/-- Cleared flags are gone. -/
theorem not_overlaps_andNot (s : UInt8) {t m : UInt8} (h : m &&& ~~~t = 0) :
    ¬ Overlaps (s &&& ~~~t) m := by
  rw [overlaps_andNot, h, overlaps_comm]
  exact not_overlaps_zero_left s

theorem andNot_andNot (s t u : UInt8) : s &&& ~~~t &&& ~~~u = s &&& ~~~(t ||| u) := by
  refine UInt8.toBitVec_inj.mp (BitVec.eq_of_getLsbD_eq fun i hi => ?_)
  simp [hi, Bool.and_assoc]

/-- Clearing the flags that have just been set. -/
theorem or_andNot (s t : UInt8) : (s ||| t) &&& ~~~t = s &&& ~~~t := by
  refine UInt8.toBitVec_inj.mp (BitVec.eq_of_getLsbD_eq fun i hi => ?_)
  simp [hi, Bool.and_or_distrib_right]

/-- Clearing flags that `m` does not select. -/
theorem overlaps_andNot_of_not_overlaps (s : UInt8) {t m : UInt8} (h : ¬ Overlaps t m) :
    Overlaps (s &&& ~~~t) m ↔ Overlaps s m := by
  rw [overlaps_iff] at h
  simp only [overlaps_iff, UInt8.toBitVec_and, UInt8.toBitVec_not, BitVec.getLsbD_and,
    BitVec.getLsbD_not, Bool.and_eq_true]
  refine exists_congr fun i => and_congr_right fun hi => ?_
  refine ⟨fun ⟨⟨hs, _⟩, hm⟩ => ⟨hs, hm⟩, fun ⟨hs, hm⟩ => ⟨⟨hs, ?_⟩, hm⟩⟩
  -- a bit of `s` that `m` selects is not one of `t`, and so it survives
  cases ht : t.toBitVec.getLsbD i
  · simp [hi]
  · exact absurd ⟨i, hi, ht, hm⟩ h

theorem Overlaps.of_and_right {s m n : UInt8} (h : Overlaps s (m &&& n)) : Overlaps s m := by
  intro hz
  rw [Overlaps, ← UInt8.and_assoc, hz, UInt8.zero_and] at h
  exact h rfl

/-- A flag that is left after clearing was there before. -/
theorem Overlaps.of_andNot {s t m : UInt8} (h : Overlaps (s &&& ~~~t) m) : Overlaps s m :=
  ((overlaps_andNot s t m).mp h).of_and_right

/-- Two bytes that share a single flag with a third overlap. -/
theorem Overlaps.of_bit {s m bit : UInt8} {k : Nat}
    (hbit : ∀ i < 8, bit.toBitVec.getLsbD i = true → i = k) (hs : Overlaps s bit)
    (hm : Overlaps m bit) : Overlaps s m := by
  obtain ⟨i, hi, hsi, hbi⟩ := (overlaps_iff s bit).mp hs
  obtain ⟨j, hj, hmj, hbj⟩ := (overlaps_iff m bit).mp hm
  obtain rfl : i = j := (hbit i hi hbi).trans (hbit j hj hbj).symm
  exact (overlaps_iff s m).mpr ⟨i, hi, hsi, hmj⟩

/-- The last byte of a number. -/
theorem land_0xFF (n : Nat) : n &&& 0xFF = n % 2 ^ 8 := Nat.and_two_pow_sub_one_eq_mod n 8

/-- A number put together from its bytes by shifts. -/
theorem or_three_bytes (high : Nat) {middle low : Nat} (hm : middle < 2 ^ 8) (hl : low < 2 ^ 8) :
    high <<< 16 ||| middle <<< 8 ||| low = high * 2 ^ 16 + middle * 2 ^ 8 + low := by
  -- each shift leaves room for the next byte, and so `|||` adds it
  have hhigh : high <<< 16 ||| middle <<< 8 = (high <<< 8 + middle) <<< 8 := by
    rw [Nat.shiftLeft_add_eq_or_of_lt hm, Nat.shiftLeft_or_distrib, ← Nat.shiftLeft_add]
  rw [hhigh, ← Nat.shiftLeft_add_eq_or_of_lt hl, Nat.shiftLeft_eq, Nat.shiftLeft_eq]
  omega

end Foundations
