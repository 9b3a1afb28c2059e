import Mathlib.Algebra.BigOperators.Fin
import Mathlib.Algebra.BigOperators.Intervals
import Mathlib.Algebra.Ring.Parity
import Mathlib.Data.Int.ModEq
import Mathlib.Data.Fintype.EquivFin
import Mathlib.Data.Nat.Factorization.Basic
import Mathlib.Tactic.Ring
import Mathlib.Tactic.LinearCombination

/-!
# Linear congruential generators

A generator multiplies its state by `a`, adds `c`, and keeps the last `w` bits. When `a` is one more
than a multiple of four and `c` is odd, the last `k` bits of the state come back after every `2 ^ k`
steps and at no other time, for every `k` up to `w`. Everything is proved on the integers first: how
far the state has moved after `n` steps is divisible by the same powers of two as `n`.

## Main definitions

- `congruence` — a step on the integers
- `CongruentialGenerator` — a step on any type whose values are words of `w` bits

## Main results

- `two_pow_dvd_iterate_sub_iff` — the powers of two in what `n` steps add
- `CongruentialGenerator.iterate_eq_iff` — the period
- `CongruentialGenerator.exists_iterate_eq`, `CongruentialGenerator.exists_iterate_mul_eq` — every
  word comes up, also among every `2 ^ k`-th ones
- `CongruentialGenerator.sum_iterate` — a sum over a period is a sum over all words
-/

namespace Foundations

/-! A step on the integers -/

def congruence (a c x : ℤ) : ℤ := x * a + c

section Integers

variable {a c : ℤ}

theorem iterate_congruence_sub (n : ℕ) (x y : ℤ) :
    (congruence a c)^[n] y - (congruence a c)^[n] x = a ^ n * (y - x) := by
  induction n generalizing x y with
  | zero => simp
  | succ n ih =>
    rw [Function.iterate_succ_apply, Function.iterate_succ_apply, ih, pow_succ]
    simp only [congruence]
    ring

/-- The second half of the way is the first one, scaled. -/
theorem iterate_two_mul_sub (n : ℕ) (x : ℤ) :
    (congruence a c)^[2 * n] x - x = (a ^ n + 1) * ((congruence a c)^[n] x - x) := by
  have hdiff := iterate_congruence_sub (a := a) (c := c) n x ((congruence a c)^[n] x)
  rw [← Function.iterate_add_apply, ← two_mul] at hdiff
  linear_combination hdiff

theorem exists_odd_pow_add_one (ha : a % 4 = 1) (n : ℕ) : ∃ u, Odd u ∧ a ^ n + 1 = 2 * u := by
  have hmod : a ^ n % 4 = 1 := by
    have hpow : a ^ n ≡ 1 ^ n [ZMOD 4] := Int.ModEq.pow n ha
    rwa [one_pow] at hpow
  exact ⟨(a ^ n + 1) / 2, Int.odd_iff.mpr (by omega), by omega⟩

/-- Each doubling of the number of steps doubles the way, up to an odd factor. -/
theorem exists_odd_iterate_two_pow (ha : a % 4 = 1) (hc : c % 2 = 1) (k : ℕ) (x : ℤ) :
    ∃ u, Odd u ∧ (congruence a c)^[2 ^ k] x - x = 2 ^ k * u := by
  induction k with
  | zero =>
    refine ⟨x * (a - 1) + c, ?_, ?_⟩
    · have heven : Even (x * (a - 1)) := Even.mul_left (Int.even_iff.mpr (by omega)) x
      exact heven.add_odd (Int.odd_iff.mpr hc)
    · show x * a + c - x = _
      ring
  | succ k ih =>
    obtain ⟨u, hu, hx⟩ := ih
    obtain ⟨v, hv, ha'⟩ := exists_odd_pow_add_one ha (2 ^ k)
    refine ⟨v * u, hv.mul hu, ?_⟩
    rw [pow_succ', iterate_two_mul_sub, hx, ha']
    ring

theorem exists_iterate_two_pow_mul (ha : a % 4 = 1) (hc : c % 2 = 1) (k m : ℕ) (x : ℤ) :
    ∃ v : ℤ, v % 2 = m % 2 ∧ (congruence a c)^[2 ^ k * m] x - x = 2 ^ k * v := by
  induction m with
  | zero => exact ⟨0, rfl, by simp⟩
  | succ m ih =>
    obtain ⟨v, hv, hx⟩ := ih
    obtain ⟨u, hu, hy⟩ := exists_odd_iterate_two_pow ha hc k ((congruence a c)^[2 ^ k * m] x)
    have hu := Int.odd_iff.mp hu
    refine ⟨u + v, by omega, ?_⟩
    rw [Nat.mul_succ, Nat.add_comm, Function.iterate_add_apply]
    linear_combination hy + hx

/-- What `n` steps add is divisible by the same powers of two as `n`. -/
theorem two_pow_dvd_iterate_sub_iff (ha : a % 4 = 1) (hc : c % 2 = 1) (k n : ℕ) (x : ℤ) :
    2 ^ k ∣ (congruence a c)^[n] x - x ↔ 2 ^ k ∣ n := by
  constructor
  · intro h
    rcases eq_or_ne n 0 with rfl | hn
    · exact dvd_zero _
    · obtain ⟨j, m, hm, rfl⟩ := Nat.exists_eq_two_pow_mul_odd hn
      refine Dvd.dvd.mul_right (pow_dvd_pow 2 ?_) m
      by_contra hlt
      obtain ⟨v, hv, hx⟩ := exists_iterate_two_pow_mul ha hc j m x
      rw [hx, show k = j + (k - j - 1 + 1) by omega, pow_add] at h
      have htwo := Int.dvd_of_mul_dvd_mul_left (pow_ne_zero j two_ne_zero) h
      have hm := Nat.odd_iff.mp hm
      have hdvd : (2 : ℤ) ∣ v := (dvd_pow_self 2 (Nat.succ_ne_zero _)).trans htwo
      omega
  · rintro ⟨m, rfl⟩
    obtain ⟨v, -, hx⟩ := exists_iterate_two_pow_mul ha hc k m x
    exact ⟨v, hx⟩

end Integers

/-! Words of `w` bits -/

variable {α : Type*}

/-- `next` steps a generator whose states `val` reads as words of `w` bits. -/
structure CongruentialGenerator (w a c : ℕ) (val : α → ℕ) (next : α → α) : Prop where
  multiplier : a % 4 = 1
  increment : c % 2 = 1
  val_lt : ∀ s, val s < 2 ^ w
  val_injective : Function.Injective val
  val_next : ∀ s, val (next s) = (val s * a + c) % 2 ^ w

namespace CongruentialGenerator

variable {w a c : ℕ} {val : α → ℕ} {next : α → α}

theorem val_iterate_modEq (h : CongruentialGenerator w a c val next) (n : ℕ) (s : α) :
    (val (next^[n] s) : ℤ) ≡ (congruence a c)^[n] (val s) [ZMOD 2 ^ w] := by
  induction n with
  | zero => exact Int.ModEq.refl _
  | succ n ih =>
    rw [Function.iterate_succ_apply', Function.iterate_succ_apply', h.val_next, congruence]
    push_cast
    exact (Int.mod_modEq _ _).trans ((ih.mul_right a).add_right c)

/-- The last `k` bits come back after every `2 ^ k` steps, and at no other time. -/
theorem val_iterate_mod_iff (h : CongruentialGenerator w a c val next) {k : ℕ} (hk : k ≤ w) (n : ℕ)
    (s : α) : val (next^[n] s) % 2 ^ k = val s % 2 ^ k ↔ 2 ^ k ∣ n := by
  have ha : (a : ℤ) % 4 = 1 := by exact_mod_cast h.multiplier
  have hc : (c : ℤ) % 2 = 1 := by exact_mod_cast h.increment
  have hword : (val (next^[n] s) : ℤ) ≡ (congruence a c)^[n] (val s) [ZMOD 2 ^ k] :=
    (h.val_iterate_modEq n s).of_dvd (pow_dvd_pow 2 hk)
  rw [← two_pow_dvd_iterate_sub_iff ha hc k n (val s), ← Int.modEq_iff_dvd]
  constructor
  · intro hmod
    have hmod : (val (next^[n] s) : ℤ) ≡ val s [ZMOD 2 ^ k] := by exact_mod_cast hmod
    exact hmod.symm.trans hword
  · intro hmod
    have hmod := hword.trans hmod.symm
    exact_mod_cast hmod

/-- The period. -/
theorem iterate_eq_iff (h : CongruentialGenerator w a c val next) (n : ℕ) (s : α) :
    next^[n] s = s ↔ 2 ^ w ∣ n := by
  rw [← h.val_iterate_mod_iff (le_refl w), Nat.mod_eq_of_lt (h.val_lt _),
    Nat.mod_eq_of_lt (h.val_lt _), h.val_injective.eq_iff]

/-- The state after `n` steps, for each `n` below the period. -/
theorem orbit_bijective (h : CongruentialGenerator w a c val next) (s : α) :
    Function.Bijective fun n : Fin (2 ^ w) =>
      (⟨val (next^[n] s), h.val_lt _⟩ : Fin (2 ^ w)) := by
  apply Finite.injective_iff_bijective.mp
  -- two equal states are a whole number of periods apart
  have hle : ∀ m n : Fin (2 ^ w), m ≤ n → val (next^[m] s) = val (next^[n] s) → m = n := by
    intro m n hmn heq
    have hsplit : next^[n] s = next^[(n : ℕ) - m] (next^[m] s) := by
      rw [← Function.iterate_add_apply, Nat.sub_add_cancel hmn]
    rw [hsplit] at heq
    have hdvd := (h.iterate_eq_iff _ _).mp (h.val_injective heq).symm
    have hzero := Nat.eq_zero_of_dvd_of_lt hdvd (by omega)
    omega
  intro m n heq
  have heq : val (next^[m] s) = val (next^[n] s) := congrArg Fin.val heq
  rcases le_total m n with hmn | hnm
  · exact hle m n hmn heq
  · exact (hle n m hnm heq.symm).symm

/-- Every state is reached from every other one. -/
theorem exists_iterate_eq (h : CongruentialGenerator w a c val next) (s t : α) :
    ∃ n < 2 ^ w, next^[n] s = t := by
  obtain ⟨n, hn⟩ := (h.orbit_bijective s).surjective ⟨val t, h.val_lt t⟩
  exact ⟨n, n.isLt, h.val_injective (congrArg Fin.val hn)⟩

/-- It is reached at a multiple of `2 ^ k` steps if the last `k` bits are the same. -/
theorem exists_iterate_mul_eq (h : CongruentialGenerator w a c val next) {k : ℕ} (hk : k ≤ w)
    {s t : α} (hst : val t % 2 ^ k = val s % 2 ^ k) :
    ∃ n < 2 ^ w, 2 ^ k ∣ n ∧ next^[n] s = t := by
  obtain ⟨n, hn, rfl⟩ := h.exists_iterate_eq s t
  exact ⟨n, hn, (h.val_iterate_mod_iff hk n s).mp hst, rfl⟩

/-- A sum over a period is a sum over all words. -/
theorem sum_iterate {M : Type*} [AddCommMonoid M] (h : CongruentialGenerator w a c val next) (s : α)
    (f : ℕ → M) :
    ∑ n ∈ Finset.range (2 ^ w), f (val (next^[n] s)) = ∑ v ∈ Finset.range (2 ^ w), f v := by
  rw [Finset.sum_range, Finset.sum_range]
  exact (h.orbit_bijective s).sum_comp fun v : Fin (2 ^ w) => f v

end CongruentialGenerator

/-! Sums over parts of a word -/

section Sums

variable {M : Type*} [AddCommMonoid M]

theorem sum_range_mul_mod (f : ℕ → M) (m n : ℕ) :
    ∑ v ∈ Finset.range (m * n), f (v % n) = m • ∑ r ∈ Finset.range n, f r := by
  induction m with
  | zero => simp
  | succ m ih =>
    rw [Nat.succ_mul, Finset.sum_range_add, ih, succ_nsmul]
    congr 1
    apply Finset.sum_congr rfl
    intro r hr
    rw [Nat.mul_add_mod_of_lt (Finset.mem_range.mp hr)]

theorem sum_range_mul_div (f : ℕ → M) (m n : ℕ) :
    ∑ v ∈ Finset.range (m * n), f (v / n) = n • ∑ q ∈ Finset.range m, f q := by
  induction m with
  | zero => simp
  | succ m ih =>
    rw [Nat.succ_mul, Finset.sum_range_add, ih, Finset.sum_range_succ, nsmul_add]
    congr 1
    rw [← Finset.card_range n, ← Finset.sum_const, Finset.card_range]
    apply Finset.sum_congr rfl
    intro r hr
    have hr := Finset.mem_range.mp hr
    rw [Nat.mul_comm, Nat.mul_add_div (by omega), Nat.div_eq_of_lt hr, Nat.add_zero]

end Sums

end Foundations
