import SovdDemo.Uds.Generators
import SovdDemo.Uds.StepEffect

/-!
# Faults come and go

The toggle looks at every fourth state of its generator only. The two bits that are left out do not
reach the drawn number, and the others still run through all their values, so every 16-bit number is
drawn for a toggle once in every `2 ^ 32` steps. A DTC without a sensor is therefore never stuck: in
any run with that many steps, whatever else happens in it, its fault is raised and withdrawn.

## Main definitions

- `DtcSimulator.Draws` — the next step toggles a DTC, and with which number
- `withoutSensor` — the DTCs that only the toggle writes
- `Failing`, `Passing` — the last test result of a DTC

## Main results

- `exists_draws_of_run` — every number is drawn for a toggle
- `comesAndGoes_of_run` — no DTC without a sensor is stuck
-/

namespace SovdDemo.Uds

open Foundations StatusBit DtcSimulator

namespace DtcSimulator

variable (sim : DtcSimulator)

/-- The next step toggles a DTC, and `rnd` decides which one and how. -/
structure Draws (rnd : UInt32) : Prop where
  toggles : (sim.stepCounter + 1) % 4 = 0
  drawn : sim.nextRnd = rnd

theorem Draws.toggledIndex {rnd : UInt32} (h : sim.Draws rnd) :
    sim.toggledIndex = some (rnd.toNat % sim.dtcStore.getCount) := by
  rw [DtcSimulator.toggledIndex, if_pos h.toggles, h.drawn]

end DtcSimulator

/-- The number drawn from a state of the generator. -/
theorem nextRnd_toNat (sim : DtcSimulator) :
    sim.nextRnd.toNat = (nextWord sim.rngState).toNat / 2 ^ 16 := by
  have hlt := (nextWord sim.rngState).toNat_lt
  have hrnd : sim.nextRnd.toNat = (nextWord sim.rngState).toNat >>> 16 &&& (2 ^ 16 - 1) := by
    rw [nextRnd, UInt32.toNat_and, UInt32.toNat_shiftRight, nextRngState_eq]
    rfl
  rw [hrnd, Nat.and_two_pow_sub_one_eq_mod, Nat.shiftRight_eq_div_pow]
  omega

/-- Some number of steps that brings the step counter to a multiple of four also brings the
generator to a state from which `rnd` is drawn. -/
theorem exists_steps (s counter rnd : UInt32) (hrnd : rnd.toNat < 2 ^ 16) :
    ∃ n < 2 ^ 32, (counter + UInt32.ofNat (n + 1)) % 4 = 0 ∧
      (nextWord^[n + 1] s).toNat / 2 ^ 16 = rnd.toNat := by
  -- the first time the counter is a multiple of four, and the state the generator is in then
  let first := (4 - counter.toNat % 4) % 4
  let target := rnd.toNat * 2 ^ 16 + (nextWord^[first] s).toNat % 4
  have htarget : (UInt32.ofNat target).toNat = target :=
    Nat.mod_eq_of_lt (show target < 2 ^ 32 by omega)
  obtain ⟨m, hm, hdvd, hstate⟩ := nextWord_generator.exists_iterate_mul_eq (k := 2) (by decide)
    (s := nextWord^[first] s) (t := UInt32.ofNat target) (by rw [htarget]; omega)
  rw [← Function.iterate_add_apply] at hstate
  have hdrawn : (nextWord^[m + first] s).toNat / 2 ^ 16 = rnd.toNat := by
    rw [hstate, htarget]
    omega
  have hcounter : ∀ n, n % 4 = first → (counter + UInt32.ofNat n) % 4 = 0 := by
    intro n hn
    apply UInt32.toNat_inj.mp
    rw [UInt32.toNat_mod, UInt32.toNat_add, UInt32.toNat_ofNat']
    show (counter.toNat + n % 2 ^ 32) % 2 ^ 32 % 4 = 0
    omega
  rcases Nat.eq_zero_or_pos (m + first) with hzero | hpos
  · -- the present state is drawn from again after a whole period
    refine ⟨2 ^ 32 - 1, by omega, hcounter _ (by omega), ?_⟩
    rw [hzero] at hdrawn
    have hperiod := (nextWord_generator.iterate_eq_iff (2 ^ 32) s).mpr (dvd_refl _)
    rw [show 2 ^ 32 - 1 + 1 = 2 ^ 32 from rfl, hperiod]
    exact hdrawn
  · refine ⟨m + first - 1, by omega, ?_, ?_⟩
    · rw [Nat.sub_add_cancel hpos]
      exact hcounter _ (by omega)
    · rw [Nat.sub_add_cancel hpos]
      exact hdrawn

/-- In every run with `2 ^ 32` steps, every 16-bit number is drawn for a toggle. -/
theorem exists_draws_of_run {sim sim' : DtcSimulator} {ops : List DtcSimulator.Operation}
    (h : dtcSimulator.Run sim ops sim') (hsteps : 2 ^ 32 ≤ ops.count .step) {rnd : UInt32}
    (hrnd : rnd.toNat < 2 ^ 16) :
    ∃ before after u, ops = before ++ .step :: after ∧ dtcSimulator.Run sim before u ∧
      u.Draws rnd := by
  obtain ⟨n, hn, hcounter, hdrawn⟩ := exists_steps sim.rngState sim.stepCounter rnd hrnd
  obtain ⟨before, after, u, rfl, hcount, hr⟩ := h.exists_of_count (lt_of_lt_of_le hn hsteps)
  have hu := advanced_of_run hr
  rw [hcount] at hu
  refine ⟨before, after, u, rfl, hr, ?_, ?_⟩
  · rw [hu.stepCounter, UInt32.add_assoc]
    rw [UInt32.ofNat_add] at hcounter
    exact hcounter
  · apply UInt32.toNat_inj.mp
    rw [nextRnd_toNat, hu.rngState, ← Function.iterate_succ_apply' nextWord]
    exact hdrawn

/-! The DTCs without a sensor -/

namespace DiagnosticTroubleCode

variable (d : DiagnosticTroubleCode) {rnd : UInt32}

/-- Bit 1 raises the fault, and bit 0 does not withdraw it. -/
theorem has_testFailed_toggle (hraise : rnd &&& 0x02 ≠ 0) (hkeep : rnd &&& 0x01 = 0) :
    (d.toggle rnd).Has testFailed := by
  obtain ⟨-, -, h⟩ | ⟨-, hw, -⟩ | ⟨hr, hw, h⟩ := d.toggle_cases rnd
  · rw [h]
    exact (d.has_setStatusBit _ _).mpr (.inr (by decide))
  · exact absurd hkeep hw
  · rw [h]
    by_contra hf
    exact hr ⟨hf, hraise⟩

/-- Bit 0 withdraws the fault, and bit 1 does not raise it. -/
theorem not_has_testFailed_toggle (hwithdraw : rnd &&& 0x01 ≠ 0) (hkeep : rnd &&& 0x02 = 0) :
    ¬ (d.toggle rnd).Has testFailed := by
  obtain ⟨-, hr, -⟩ | ⟨-, -, h⟩ | ⟨hr, hw, h⟩ := d.toggle_cases rnd
  · exact absurd hkeep hr
  · rw [h]
    exact d.not_has_clearStatusBit (by decide)
  · rw [h]
    exact fun hf => hw ⟨hf, hwithdraw⟩

end DiagnosticTroubleCode

/-- The DTCs that no sensor is linked to. -/
def withoutSensor : List UInt32 :=
  [dtcCommunicationFault, dtcSensorMalfunction, dtcBrakeSystemFault]

/-- The DTC `n` is stored, and its last test failed. -/
def Failing (n : UInt32) (sim : DtcSimulator) : Prop :=
  ∃ d ∈ sim.dtcStore.findDtcByNumber n, d.Has testFailed

/-- The DTC `n` is stored, and its last test passed. -/
def Passing (n : UInt32) (sim : DtcSimulator) : Prop :=
  ∃ d ∈ sim.dtcStore.findDtcByNumber n, ¬ d.Has testFailed

/-- A step that draws the position of a DTC without a sensor toggles it, and nothing else. -/
theorem findDtcByNumber_step_of_draws {sim : DtcSimulator} (hr : dtcSimulator.Reachable sim)
    {n : UInt32} (hn : n ∈ withoutSensor) {rnd : UInt32} (hdraws : sim.Draws rnd)
    (hpicked : sim.dtcStore.findIndexByNumber n = some (rnd.toNat % 5)) :
    ∃ d : DiagnosticTroubleCode,
      sim.step.dtcStore.findDtcByNumber n = some (d.toggle rnd) := by
  have hnumbers := numbers_of_reachable hr
  have hcount : sim.dtcStore.getCount = 5 := by
    have hlength := congrArg List.length hnumbers
    rwa [DiagnosticTroubleCodeStore.numbers, List.length_map] at hlength
  have hstored : n ∈ sim.dtcStore.numbers := by
    rw [hnumbers]
    exact List.mem_cons_of_mem _ (List.mem_cons_of_mem _ hn)
  obtain ⟨i, d, hi, hd⟩ := sim.exists_index_of_mem hstored
  have hother : sim.dtcStore.findIndexByNumber dtcEngineOvertemp ≠ some i ∧
      sim.dtcStore.findIndexByNumber dtcBatteryVoltageLow ≠ some i := by
    refine ⟨fun he => ?_, fun hb => ?_⟩
    · rw [sim.dtcStore.eq_of_findIndexByNumber hi he] at hn
      exact absurd hn (by decide)
    · rw [sim.dtcStore.eq_of_findIndexByNumber hi hb] at hn
      exact absurd hn (by decide)
  have htoggled : sim.toggledIndex = some i := by
    rw [hdraws.toggledIndex, hcount, ← hpicked, hi]
  refine ⟨d, ?_⟩
  rw [sim.findDtcByNumber_step, hi, Option.bind_some, hd, Option.map_some,
    sim.stepDtc_other d hother.1 hother.2, toggledDtc, if_pos htoggled, hdraws.drawn]

/-- For each DTC without a sensor, a number that raises its fault and one that withdraws it. -/
theorem exists_rnd {sim : DtcSimulator} (hr : dtcSimulator.Reachable sim) {n : UInt32}
    (hn : n ∈ withoutSensor) :
    (∃ rnd : UInt32, rnd.toNat < 2 ^ 16 ∧ rnd &&& 0x02 ≠ 0 ∧ rnd &&& 0x01 = 0 ∧
      sim.dtcStore.findIndexByNumber n = some (rnd.toNat % 5)) ∧
    ∃ rnd : UInt32, rnd.toNat < 2 ^ 16 ∧ rnd &&& 0x01 ≠ 0 ∧ rnd &&& 0x02 = 0 ∧
      sim.dtcStore.findIndexByNumber n = some (rnd.toNat % 5) := by
  rw [DiagnosticTroubleCodeStore.findIndexByNumber_eq, numbers_of_reachable hr]
  simp only [withoutSensor, List.mem_cons, List.not_mem_nil, or_false] at hn
  rcases hn with rfl | rfl | rfl
  · exact ⟨⟨2, by decide⟩, 17, by decide⟩
  · exact ⟨⟨18, by decide⟩, 13, by decide⟩
  · exact ⟨⟨14, by decide⟩, 9, by decide⟩

/-- No DTC without a sensor is stuck: in every run of `2 ^ 32` steps, from any reachable state and
with any other operations between the steps, its test fails at some time and passes at another. -/
theorem comesAndGoes_of_run {sim sim' : DtcSimulator} (hs : dtcSimulator.Reachable sim)
    {ops : List DtcSimulator.Operation} (h : dtcSimulator.Run sim ops sim')
    (hsteps : 2 ^ 32 ≤ ops.count .step) {n : UInt32} (hn : n ∈ withoutSensor) :
    dtcSimulator.Sometime (fun sim op => Failing n (sim.apply op)) sim ops ∧
      dtcSimulator.Sometime (fun sim op => Passing n (sim.apply op)) sim ops := by
  -- every state of the run has the same numbers, and so the same position for `n`
  have hindex : ∀ {before u}, dtcSimulator.Run sim before u →
      u.dtcStore.findIndexByNumber n = sim.dtcStore.findIndexByNumber n := by
    intro before u hu
    rw [DiagnosticTroubleCodeStore.findIndexByNumber_eq, numbers_of_reachable (hs.run hu),
      DiagnosticTroubleCodeStore.findIndexByNumber_eq, numbers_of_reachable hs]
  obtain ⟨⟨raising, hlt, hraise, hkeep, hpicked⟩, withdrawing, hlt', hwithdraw, hkeep', hpicked'⟩ :=
    exists_rnd hs hn
  constructor
  · obtain ⟨before, after, u, rfl, hu, hdraws⟩ := exists_draws_of_run h hsteps hlt
    obtain ⟨d, hd⟩ := findDtcByNumber_step_of_draws (hs.run hu) hn hdraws
      ((hindex hu).trans hpicked)
    exact hu.sometime_append ⟨_, hd, d.has_testFailed_toggle hraise hkeep⟩
  · obtain ⟨before, after, u, rfl, hu, hdraws⟩ := exists_draws_of_run h hsteps hlt'
    obtain ⟨d, hd⟩ := findDtcByNumber_step_of_draws (hs.run hu) hn hdraws
      ((hindex hu).trans hpicked')
    exact hu.sometime_append ⟨_, hd, d.not_has_testFailed_toggle hwithdraw hkeep'⟩

/-- `2 ^ 32` steps after `init`, without anything else. -/
theorem comesAndGoes_brakeSystemFault :
    dtcSimulator.Sometime (fun sim op => Failing dtcBrakeSystemFault (sim.apply op))
        DtcSimulator.construct.init (List.replicate (2 ^ 32) .step) ∧
      dtcSimulator.Sometime (fun sim op => Passing dtcBrakeSystemFault (sim.apply op))
        DtcSimulator.construct.init (List.replicate (2 ^ 32) .step) := by
  have hall : ∀ ops sim, dtcSimulator.EnabledAll sim ops := by
    intro ops
    induction ops with
    | nil => exact fun _ => trivial
    | cons op ops ih => exact fun sim => ⟨trivial, ih _⟩
  have hcount : 2 ^ 32 ≤ (List.replicate (2 ^ 32) DtcSimulator.Operation.step).count .step := by
    rw [List.count_replicate_self]
  exact comesAndGoes_of_run (.init rfl) (.of_enabledAll (hall _ _)) hcount (by decide)

end SovdDemo.Uds
