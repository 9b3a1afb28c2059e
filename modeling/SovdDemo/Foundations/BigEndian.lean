import SovdDemo.Foundations.PyData

/-!
# Big-endian bytes

Writing a number as a fixed count of bytes, most significant first, and reading it back.

## Main definitions

- `beBytes` — the last bytes of a number

## Main results

- `beNat_beBytes` — reading gives the number back, as far as the bytes hold it
- `beNat_lt`, `signed_bounds` — what can be read
- `signed_of_lt`, `toInt_toInt32` — a number in the lower half keeps its value as two's complement
-/

namespace Foundations

/-- The last `k` bytes of `n`, most significant first. -/
def beBytes : Nat → Nat → List UInt8
  | 0, _ => []
  | k + 1, n => beBytes k (n / 256) ++ [UInt8.ofNat n]

@[simp] theorem length_beBytes (k n : Nat) : (beBytes k n).length = k := by
  induction k generalizing n with
  | zero => rfl
  | succ k ih => rw [beBytes, List.length_append, ih, List.length_singleton]

theorem beNat_concat (bytes : List UInt8) (b : UInt8) :
    beNat (bytes ++ [b]) = beNat bytes * 256 + b.toNat := List.foldl_concat ..

theorem beNat_beBytes (k n : Nat) : beNat (beBytes k n) = n % 256 ^ k := by
  induction k generalizing n with
  | zero => exact (Nat.mod_one n).symm
  | succ k ih =>
    have hsplit : n % 256 ^ (k + 1) = n % 256 + 256 * (n / 256 % 256 ^ k) := by
      rw [Nat.pow_succ', Nat.mod_mul]
    rw [beBytes, beNat_concat, ih, UInt8.toNat_ofNat', hsplit]
    omega

theorem beNat_lt (bytes : List UInt8) : beNat bytes < 256 ^ bytes.length := by
  induction bytes using List.reverseRecOn with
  | nil => exact Nat.one_pos
  | append_singleton bytes b ih =>
    have hb := b.toNat_lt
    rw [beNat_concat, List.length_append, List.length_singleton, Nat.pow_succ']
    omega

/-- A number of some bits is a signed number of as many. -/
theorem signed_bounds (bits : Nat) {n : Nat} (h : n < 2 ^ (bits + 1)) :
    -2 ^ bits ≤ signed (bits + 1) n ∧ signed (bits + 1) n < 2 ^ bits := by
  obtain ⟨half, hhalf⟩ : ∃ half : Nat, 2 ^ bits = half := ⟨_, rfl⟩
  have hint : (2 : Int) ^ bits = half := by
    rw [← hhalf]
    exact (Int.natCast_pow 2 bits).symm
  rw [Nat.pow_succ, hhalf] at h
  rw [signed, Nat.add_sub_cancel, Int.pow_succ, hint, hhalf]
  split
  · omega
  · omega

/-- A number without its sign bit is its own two's complement. -/
theorem signed_of_lt {bits n : Nat} (h : n < 2 ^ (bits - 1)) : signed bits n = n := if_pos h

/-- So is a machine word. -/
theorem toInt_toInt32 {v : UInt32} (h : v.toNat < 2 ^ 31) : v.toInt32.toInt = v.toNat := by
  have hlt : 2 * v.toBitVec.toNat < 2 ^ 32 := by
    show 2 * v.toNat < 2 ^ 32
    omega
  exact BitVec.toInt_eq_toNat_of_lt hlt

/-- An integer that fits into a machine word. -/
theorem toNat_ofInt {i : Int} (h₀ : 0 ≤ i) (h : i < 2 ^ 32) :
    ((UInt32.ofInt i).toNat : Int) = i := by
  rw [UInt32.ofInt, UInt32.toNat_ofNat']
  omega

end Foundations
