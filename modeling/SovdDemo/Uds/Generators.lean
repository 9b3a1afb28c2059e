import SovdDemo.Foundations.LinearCongruential
import SovdDemo.Uds.SensorWalk

/-!
# The generators of the simulation

The toggle and the three sensors each have a generator of their own, and all four take the same
step. Their states are therefore points of one cycle through all words of 32 bits: the sensors move
by one and the same sequence of summands, each at its own place in it, and over the whole cycle the
downward moves outnumber the upward ones.

## Main definitions

- `nextWord` — the step of every generator
- `Advanced` — what `n` steps of the simulator have done to the generators and the step counter
- `ReadIdentifierSimulated.timesMoved` — how often a sensor takes a summand in a period

## Main results

- `advanced_of_run` — whatever else happens in a run
- `generators_return_iff` — the period of the four generators
- `exists_lag` — two sensors move alike, up to a delay
- `moves_over_period` — how often each move occurs
-/

namespace SovdDemo.Uds

open Foundations

/-- One step of a generator. -/
def nextWord (s : UInt32) : UInt32 := s * 1103515245 + 12345

theorem nextWord_generator :
    CongruentialGenerator 32 1103515245 12345 UInt32.toNat nextWord where
  multiplier := rfl
  increment := rfl
  val_lt s := s.toNat_lt
  val_injective _ _ h := UInt32.toNat_inj.mp h
  val_next s := by
    rw [nextWord, UInt32.toNat_add, UInt32.toNat_mul, Nat.mod_add_mod]
    rfl

theorem ReadIdentifierSimulated.nextSeed_eq (r : ReadIdentifierSimulated) :
    r.nextSeed = nextWord r.seed := rfl

theorem DtcSimulator.nextRngState_eq (sim : DtcSimulator) :
    sim.nextRngState = nextWord sim.rngState := rfl

/-! Runs -/

/-- The generators of `sim'` and its step counter are those of `sim`, `n` steps on. -/
structure Advanced (n : Nat) (sim sim' : DtcSimulator) : Prop where
  rngState : sim'.rngState = nextWord^[n] sim.rngState
  engineTemp : sim'.engineTemp.seed = nextWord^[n] sim.engineTemp.seed
  batteryVoltage : sim'.batteryVoltage.seed = nextWord^[n] sim.batteryVoltage.seed
  vehicleSpeed : sim'.vehicleSpeed.seed = nextWord^[n] sim.vehicleSpeed.seed
  stepCounter : sim'.stepCounter = sim.stepCounter + UInt32.ofNat n

namespace Advanced

variable {m n : Nat} {sim sim' sim'' : DtcSimulator}

theorem refl (sim : DtcSimulator) : Advanced 0 sim sim :=
  ⟨rfl, rfl, rfl, rfl, (UInt32.add_zero _).symm⟩

theorem trans (h : Advanced m sim sim') (h' : Advanced n sim' sim'') :
    Advanced (m + n) sim sim'' := by
  obtain ⟨hr, he, hb, hv, hc⟩ := h
  obtain ⟨hr', he', hb', hv', hc'⟩ := h'
  rw [Nat.add_comm]
  refine ⟨?_, ?_, ?_, ?_, ?_⟩
  · rw [Function.iterate_add_apply, hr', hr]
  · rw [Function.iterate_add_apply, he', he]
  · rw [Function.iterate_add_apply, hb', hb]
  · rw [Function.iterate_add_apply, hv', hv]
  · rw [hc', hc, UInt32.add_assoc, ← UInt32.ofNat_add, Nat.add_comm]

/-- Only `step` touches the generators. -/
theorem apply (sim : DtcSimulator) (op : DtcSimulator.Operation) :
    Advanced ([op].count .step) sim (sim.apply op) := by
  cases op with
  | step => exact ⟨rfl, rfl, rfl, rfl, rfl⟩
  | setEngineTemp value | setBatteryVoltage value | setVehicleSpeed value | clearAll
  | clearByNumber dtcNumber => exact ⟨rfl, rfl, rfl, rfl, (UInt32.add_zero _).symm⟩

end Advanced

/-- Whatever else happens in a run, the generators are as far on as it has steps. -/
theorem advanced_of_run {sim sim' : DtcSimulator} {ops : List DtcSimulator.Operation}
    (h : dtcSimulator.Run sim ops sim') : Advanced (ops.count .step) sim sim' := by
  induction h with
  | nil sim => exact .refl sim
  | @cons sim sim' op ops _ _ ih =>
    have hcount : (op :: ops).count .step = [op].count .step + ops.count .step := by
      rw [← List.count_append, List.singleton_append]
    rw [hcount]
    exact (Advanced.apply sim op).trans ih

/-- Along a run, whatever else happens in it, each generator is back where it was exactly when the
number of steps is a multiple of `2 ^ 32`. -/
theorem generators_return_iff {sim sim' : DtcSimulator} {ops : List DtcSimulator.Operation}
    (h : dtcSimulator.Run sim ops sim') :
    (sim'.rngState = sim.rngState ↔ 2 ^ 32 ∣ ops.count .step) ∧
    (sim'.engineTemp.seed = sim.engineTemp.seed ↔ 2 ^ 32 ∣ ops.count .step) ∧
    (sim'.batteryVoltage.seed = sim.batteryVoltage.seed ↔ 2 ^ 32 ∣ ops.count .step) ∧
    (sim'.vehicleSpeed.seed = sim.vehicleSpeed.seed ↔ 2 ^ 32 ∣ ops.count .step) := by
  obtain ⟨hr, he, hb, hv, -⟩ := advanced_of_run h
  have hreturn := nextWord_generator.iterate_eq_iff (ops.count .step)
  rw [hr, he, hb, hv]
  exact ⟨hreturn _, hreturn _, hreturn _, hreturn _⟩

/-- Two steps with a clearing between them. -/
def clearedBetweenTwoSteps : List DtcSimulator.Operation := [.step, .clearAll, .step]

def afterTwoSteps : DtcSimulator :=
  clearedBetweenTwoSteps.foldl dtcSimulator.step DtcSimulator.construct.init

theorem generators_return_iff_twoSteps :
    (afterTwoSteps.rngState = DtcSimulator.construct.init.rngState ↔
      2 ^ 32 ∣ clearedBetweenTwoSteps.count .step) ∧
    (afterTwoSteps.engineTemp.seed = DtcSimulator.construct.init.engineTemp.seed ↔
      2 ^ 32 ∣ clearedBetweenTwoSteps.count .step) ∧
    (afterTwoSteps.batteryVoltage.seed = DtcSimulator.construct.init.batteryVoltage.seed ↔
      2 ^ 32 ∣ clearedBetweenTwoSteps.count .step) ∧
    (afterTwoSteps.vehicleSpeed.seed = DtcSimulator.construct.init.vehicleSpeed.seed ↔
      2 ^ 32 ∣ clearedBetweenTwoSteps.count .step) :=
  generators_return_iff (.of_enabledAll (by decide))

/-! The moves of the sensors -/

namespace ReadIdentifierSimulated

variable (r : ReadIdentifierSimulated)

theorem seed_foldl_change (es : List SensorChange) :
    (es.foldl change r).seed = nextWord^[es.count .step] r.seed := by
  induction es generalizing r with
  | nil => rfl
  | cons e es ih =>
    rw [List.foldl_cons, ih]
    cases e with
    | step =>
      rw [List.count_cons_self, Function.iterate_succ_apply]
      rfl
    | setValue value =>
      rw [List.count_cons_of_ne SensorChange.noConfusion]
      rfl

/-- The summand of the next step, as the generator's next state gives it. -/
theorem delta_eq : r.delta = ((nextWord r.seed).toNat / 2 ^ 16 % 2 ^ 15 % 5 : Nat) - 2 := by
  have hrnd : (((r.nextSeed >>> 16) &&& 0x7FFF) % 5).toNat =
      (nextWord r.seed).toNat / 2 ^ 16 % 2 ^ 15 % 5 := by
    rw [UInt32.toNat_mod, UInt32.toNat_and, UInt32.toNat_shiftRight, nextSeed_eq]
    show ((nextWord r.seed).toNat >>> 16 &&& (2 ^ 15 - 1)) % 5 = _
    rw [Nat.and_two_pow_sub_one_eq_mod, Nat.shiftRight_eq_div_pow]
  rw [delta, hrnd]

/-- Two sensors move alike, up to a delay: whatever values are set on the way, each takes the
summand that the other takes a fixed number of steps earlier. -/
theorem exists_lag (r r' : ReadIdentifierSimulated) :
    ∃ lag < 2 ^ 32, ∀ es es' : List SensorChange, es.count .step = es'.count .step + lag →
      (es.foldl change r).delta = (es'.foldl change r').delta := by
  obtain ⟨lag, hlag, hseed⟩ := nextWord_generator.exists_iterate_eq r.seed r'.seed
  refine ⟨lag, hlag, ?_⟩
  intro es es' hcount
  rw [delta_eq, delta_eq, seed_foldl_change, seed_foldl_change, hcount,
    Function.iterate_add_apply, hseed]

/-- How often the summand `d` occurs in `2 ^ 32` steps. -/
def timesMoved (d : Int) : Nat :=
  ((Finset.range (2 ^ 32)).filter fun n => (step^[n] r).delta = d).card

theorem seed_iterate_step (n : Nat) : (step^[n] r).seed = nextWord^[n] r.seed := by
  induction n with
  | zero => rfl
  | succ n ih =>
    rw [Function.iterate_succ_apply', Function.iterate_succ_apply', ← ih]
    rfl

/-- What the moves of a period add up to: the 15 bits that are drawn leave the three smallest
remainders modulo 5 once more often than the others. -/
theorem sum_delta {M : Type*} [AddCommMonoid M] (f : Int → M) :
    ∑ n ∈ Finset.range (2 ^ 32), f (step^[n] r).delta =
      2 ^ 17 • (6554 • (f (-2) + f (-1) + f 0) + 6553 • (f 1 + f 2)) := by
  have hperiod : ∑ n ∈ Finset.range (2 ^ 32), f (step^[n] r).delta =
      ∑ v ∈ Finset.range (2 ^ 16 * 2 ^ 16), f ((v / 2 ^ 16 % 2 ^ 15 % 5 : Nat) - 2) := by
    rw [show 2 ^ 16 * 2 ^ 16 = 2 ^ 32 from rfl,
      ← nextWord_generator.sum_iterate (nextWord r.seed)
        fun v => f ((v / 2 ^ 16 % 2 ^ 15 % 5 : Nat) - 2)]
    apply Finset.sum_congr rfl
    intro n _
    rw [delta_eq, seed_iterate_step, ← Function.iterate_succ_apply' nextWord,
      Function.iterate_succ_apply]
  have hdraws : ∑ x ∈ Finset.range (2 ^ 15), f ((x % 5 : Nat) - 2) =
      6554 • (f (-2) + f (-1) + f 0) + 6553 • (f 1 + f 2) := by
    rw [show 2 ^ 15 = 6553 * 5 + 3 from rfl, Finset.sum_range_add,
      sum_range_mul_mod (fun x => f ((x : Nat) - 2)) 6553 5]
    have hrest : ∑ x ∈ Finset.range 3, f (((6553 * 5 + x) % 5 : Nat) - 2) =
        f (-2) + f (-1) + f 0 := by
      simp [Finset.sum_range_succ]
    have hfive : ∑ x ∈ Finset.range 5, f ((x : Nat) - 2) =
        f (-2) + f (-1) + f 0 + (f 1 + f 2) := by
      simp [Finset.sum_range_succ, add_assoc]
    rw [hrest, hfive, nsmul_add, show 6554 = 6553 + 1 from rfl, add_nsmul, one_nsmul]
    exact add_right_comm _ _ _
  have hwords : ∑ q ∈ Finset.range (2 ^ 16), f ((q % 2 ^ 15 % 5 : Nat) - 2) =
      2 • ∑ x ∈ Finset.range (2 ^ 15), f ((x % 5 : Nat) - 2) := by
    rw [show 2 ^ 16 = 2 * 2 ^ 15 from rfl,
      sum_range_mul_mod (fun x => f ((x % 5 : Nat) - 2)) 2 (2 ^ 15)]
  rw [hperiod, sum_range_mul_div (fun q => f ((q % 2 ^ 15 % 5 : Nat) - 2)) (2 ^ 16) (2 ^ 16),
    hwords, hdraws, smul_smul, ← pow_succ]

/-- In a period, each downward move and the rest occur 859045888 times, and each upward move
131072 times less, so that the moves add up to -393216. -/
theorem moves_over_period :
    (∀ d : Int, r.timesMoved d = if d ∈ [-2, -1, 0] then 859045888
      else if d ∈ [1, 2] then 858914816 else 0) ∧
    ∑ n ∈ Finset.range (2 ^ 32), (step^[n] r).delta = -393216 := by
  refine ⟨?_, ?_⟩
  · intro d
    have hsum := r.sum_delta fun e => if e = d then 1 else 0
    rw [timesMoved, Finset.card_filter, hsum]
    simp only [smul_eq_mul, List.mem_cons, List.not_mem_nil, or_false]
    split_ifs <;> omega
  · have hsum := r.sum_delta fun e => e
    simpa using hsum

end ReadIdentifierSimulated

end SovdDemo.Uds
