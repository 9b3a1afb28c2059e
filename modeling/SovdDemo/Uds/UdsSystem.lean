import SovdDemo.Foundations.RefinementMapping
import SovdDemo.Uds.DemoDtcs
import SovdDemo.Uds.SensorWalk
import SovdDemo.Uds.StoreRefinement

/-!
# The diagnostic system and its lifecycle

`UdsSystem` owns the simulator. Its lifecycle registers the diagnostic jobs, schedules `execute` and
takes both back again, and every time it comes up it initialises the simulator once more. `execute`
runs every 10 ms and steps the simulator when a counter of 32 bits is a multiple of 50; the counter
wraps around between two multiples, so one of its intervals is shorter than the others.

## Main definitions

- `UdsSystem` — the simulator, the registrations and the counter
- `udsSystem` — the lifecycle, with ticks and accesses to the simulator in any order
- `restartedSimulator` — the simulator with any number of initialisations
- `stepsDue` — how many steps belong to a number of ticks

## Main results

- `refinesRestartedSimulator` — the system runs the simulator, and never toggles in an empty store
- `stepsDue_of_run` — a run takes the steps that are due, and passes everything else on
- `registeredWhileUp_of_run` — what holds after any number of restarts
-/

namespace SovdDemo.Uds

open Foundations DtcSimulator

/-- The jobs of `UdsSystem`. -/
inductive DiagJob
  | readDataByIdentifier
  | read22Cf01
  | read22Cf02
  | writeDataByIdentifier
  | write2eCf03
  | routineControl
  | startRoutine
  | stopRoutine
  | requestRoutineResults
  | readDtcInformation
  | clearDiagnosticInformation
  | engineTemp
  | batteryVoltage
  | vehicleSpeed
  | testerPresent
  | diagnosticSessionControl
  | communicationControl
  deriving DecidableEq, Repr

/-- `DiagJobRoot` of the framework. -/
structure DiagJobRoot (ρ : Type) where
  empty : ρ
  addAbstractDiagJob : ρ → DiagJob → ρ
  removeAbstractDiagJob : ρ → DiagJob → ρ
  has : ρ → DiagJob → Prop

/-- A job is registered from the time it is added until it is removed. -/
structure DiagJobRoot.Lawful {ρ : Type} (J : DiagJobRoot ρ) : Prop where
  has_empty : ∀ k, ¬ J.has J.empty k
  has_add : ∀ r j k, J.has (J.addAbstractDiagJob r j) k ↔ J.has r k ∨ k = j
  has_remove : ∀ r j k, J.has (J.removeAbstractDiagJob r j) k ↔ J.has r k ∧ k ≠ j

/-- Where an `AsyncLifecycleComponent` is. -/
inductive Phase
  | down
  | initialised
  | running
  | shuttingDown
  deriving DecidableEq, Repr

structure UdsSystem (ρ : Type) where
  dtcSimulator : DtcSimulator
  jobRoot : ρ
  /-- the session control has the dispatcher -/
  hasDispatcher : Bool
  /-- the transport system has the dispatcher as one of its layers -/
  hasTransportLayer : Bool
  /-- `execute` is scheduled -/
  scheduled : Bool
  /-- the static counter of `execute` -/
  counter : UInt32
  /-- ghost: the last transition -/
  phase : Phase

namespace UdsSystem

variable {ρ : Type} (J : DiagJobRoot ρ) (u : UdsSystem ρ)

def construct : UdsSystem ρ where
  dtcSimulator := .construct
  jobRoot := J.empty
  hasDispatcher := false
  hasTransportLayer := false
  scheduled := false
  counter := 0
  phase := .down

/-- The jobs in the order in which they are added and removed. -/
def diagJobs : List DiagJob :=
  [.readDataByIdentifier, .read22Cf01, .read22Cf02,
    .writeDataByIdentifier, .write2eCf03,
    .routineControl, .startRoutine, .stopRoutine, .requestRoutineResults,
    .readDtcInformation,
    .clearDiagnosticInformation,
    .engineTemp, .batteryVoltage, .vehicleSpeed,
    .testerPresent, .diagnosticSessionControl, .communicationControl]

def addDiagJobs (jobRoot : ρ) : ρ := diagJobs.foldl J.addAbstractDiagJob jobRoot

def removeDiagJobs (jobRoot : ρ) : ρ := diagJobs.foldl J.removeAbstractDiagJob jobRoot

def init : UdsSystem ρ :=
  { u with
    hasDispatcher := true
    hasTransportLayer := true
    dtcSimulator := u.dtcSimulator.init
    jobRoot := addDiagJobs J u.jobRoot
    phase := .initialised }

def run : UdsSystem ρ := { u with scheduled := true, phase := .running }

def shutdown : UdsSystem ρ :=
  { u with
    jobRoot := removeDiagJobs J u.jobRoot
    hasDispatcher := false
    hasTransportLayer := false
    phase := .shuttingDown }

def shutdownComplete : UdsSystem ρ := { u with scheduled := false, phase := .down }

def execute : UdsSystem ρ :=
  let u := { u with counter := u.counter + 1 }
  if u.counter % 50 = 0 then { u with dtcSimulator := u.dtcSimulator.step } else u

/-- What can happen to the system; `access` is what jobs and others do to the simulator. -/
inductive Event
  | init
  | run
  | shutdown
  | shutdownComplete
  | execute
  | access (op : Operation)
  deriving DecidableEq, Repr

/-- The transitions come in their order, and only `execute` steps the simulator. -/
def enabled : Event → Prop
  | .init => u.phase = .down
  | .run => u.phase = .initialised
  | .shutdown => u.phase = .running
  | .shutdownComplete => u.phase = .shuttingDown
  | .execute => u.scheduled = true
  | .access op => op ≠ .step

instance : (e : Event) → Decidable (u.enabled e)
  | .init | .run | .shutdown | .shutdownComplete | .execute => inferInstanceAs (Decidable (_ = _))
  | .access _ => inferInstanceAs (Decidable (_ ≠ _))

def step : Event → UdsSystem ρ
  | .init => u.init J
  | .run => u.run
  | .shutdown => u.shutdown J
  | .shutdownComplete => u.shutdownComplete
  | .execute => u.execute
  | .access op => { u with dtcSimulator := u.dtcSimulator.apply op }

end UdsSystem

open UdsSystem

variable {ρ : Type} {J : DiagJobRoot ρ}

def udsSystem (J : DiagJobRoot ρ) : System (UdsSystem ρ) UdsSystem.Event where
  init u := u = .construct J
  enabled := UdsSystem.enabled
  step := UdsSystem.step J

instance (u : UdsSystem ρ) (e : UdsSystem.Event) : Decidable ((udsSystem J).enabled u e) :=
  inferInstanceAs (Decidable (u.enabled e))

/-! The simulator, as the system runs it -/

inductive SimulatorEvent
  | init
  | operation (op : Operation)
  deriving DecidableEq, Repr

/-- The simulator from its construction on. A toggle in an empty store divides by zero in the
source, so there is no such step. -/
def restartedSimulator : System DtcSimulator SimulatorEvent where
  init sim := sim = .construct
  enabled sim e := e = .operation .step → sim.dtcStore.getCount ≠ 0
  step
    | sim, .init => sim.init
    | sim, .operation op => sim.apply op

/-- What an event of the system does to the simulator. -/
def UdsSystem.simulatorEvents (u : UdsSystem ρ) : UdsSystem.Event → List SimulatorEvent
  | .init => [.init]
  | .run | .shutdown | .shutdownComplete => []
  | .execute => if (u.counter + 1) % 50 = 0 then [.operation .step] else []
  | .access op => [.operation op]

theorem UdsSystem.execute_eq (u : UdsSystem ρ) : u.execute =
    { u with
      counter := u.counter + 1
      dtcSimulator := if (u.counter + 1) % 50 = 0 then u.dtcSimulator.step
        else u.dtcSimulator } := by
  rw [execute]
  dsimp only
  split <;> rfl

/-! Restarts -/

/-- What there is no room for is left out for good. -/
theorem take_take_append (ns ms : List UInt32) :
    (ns.take 16 ++ ms).take 16 = (ns ++ ms).take 16 := by
  rcases Nat.le_total ns.length 16 with hle | hge
  · rw [List.take_of_length_le hle]
  · rw [List.take_append_of_le_length (by rw [List.length_take]; omega),
      List.take_append_of_le_length hge, List.take_take, Nat.min_self]

/-- Initialising appends the five DTCs, as far as there is room. -/
theorem numbers_init (sim : DtcSimulator) :
    sim.init.dtcStore.numbers = (sim.dtcStore.numbers ++ demoDtcs).take 16 := by
  have hadd : ∀ (store : DiagnosticTroubleCodeStore 16) (n : UInt32), n.toNat < 2 ^ 24 →
      (store.addDtc n 0).2.numbers = (store.numbers ++ [n]).take 16 := by
    intro store n hn
    have hle := store.length_numbers_le
    have hcount : store.getCount = store.numbers.length := (List.length_map _).symm
    by_cases hroom : store.getCount < 16
    · rw [store.numbers_addDtc_of_room hroom hn, List.take_of_length_le]
      rw [List.length_append, List.length_singleton]
      omega
    · rw [store.addDtc_of_full hroom, List.take_append_of_le_length (by omega),
        List.take_of_length_le hle]
  rw [DtcSimulator.init]
  dsimp only
  rw [hadd _ _ (by decide), hadd _ _ (by decide), hadd _ _ (by decide), hadd _ _ (by decide),
    hadd _ _ (by decide)]
  simp only [take_take_append, List.append_assoc, List.singleton_append]
  rfl

theorem forall_faultHistory_addDtc {store : DiagnosticTroubleCodeStore 16}
    (h : ∀ d ∈ store.dtcs, FaultHistory d) (n : UInt32) :
    ∀ d ∈ (store.addDtc n 0).2.dtcs, FaultHistory d := by
  by_cases hroom : store.getCount < 16
  · rw [(store.addDtc_of_room hroom n 0).2]
    intro d hd
    rcases List.mem_append.mp hd with hd | hd
    · exact h d hd
    · rw [List.mem_singleton.mp hd]
      exact faultHistory_of_statusByte_eq_zero rfl
  · rwa [store.addDtc_of_full hroom]

/-- However often the simulator is initialised, and whatever happens in between: the store holds the
five DTCs once for each time, as far as there is room, and every entry has a consistent history. -/
structure Restarted (inits : Nat) (sim : DtcSimulator) : Prop where
  numbers : sim.dtcStore.numbers = (List.replicate inits demoDtcs).flatten.take 16
  history : ∀ d ∈ sim.dtcStore.dtcs, FaultHistory d
  sensors : SensorsInvariant sim

namespace Restarted

variable {inits : Nat} {sim : DtcSimulator}

theorem construct : Restarted 0 DtcSimulator.construct := by
  refine ⟨rfl, ?_, sensorsInvariant_of_reachable (.init (.inl rfl))⟩
  intro d hd
  exact absurd hd List.not_mem_nil

theorem init (h : Restarted inits sim) : Restarted (inits + 1) sim.init where
  numbers := by
    rw [numbers_init, h.numbers, take_take_append, List.replicate_succ', List.flatten_append,
      List.flatten_singleton]
  history := by
    rw [DtcSimulator.init]
    dsimp only
    iterate 5 apply forall_faultHistory_addDtc
    exact h.history
  sensors := by
    obtain ⟨he, hb, hv⟩ := h.sensors
    rw [DtcSimulator.init]
    exact ⟨he, hb, hv⟩

theorem apply (h : Restarted inits sim) (op : Operation) : Restarted inits (sim.apply op) where
  numbers := (sim.numbers_apply op).trans h.numbers
  history := forall_faultHistory_apply h.history op
  sensors := h.sensors.apply op

/-- Once initialised, the store is not empty. -/
theorem getCount_ne_zero (h : Restarted inits sim) (hinits : inits ≠ 0) :
    sim.dtcStore.getCount ≠ 0 := by
  obtain ⟨k, rfl⟩ := Nat.exists_eq_succ_of_ne_zero hinits
  have hlength := congrArg List.length h.numbers
  rw [DiagnosticTroubleCodeStore.numbers, List.length_map, List.replicate_succ, List.flatten_cons,
    List.length_take, List.length_append] at hlength
  have hfive : demoDtcs.length = 5 := rfl
  show sim.dtcStore.dtcs.length ≠ 0
  omega

end Restarted

/-! The lifecycle -/

namespace UdsSystem

theorem mem_diagJobs (k : DiagJob) : k ∈ diagJobs := by
  cases k <;> decide

theorem has_foldl_add (hJ : J.Lawful) (js : List DiagJob) (r : ρ) (k : DiagJob) :
    J.has (js.foldl J.addAbstractDiagJob r) k ↔ J.has r k ∨ k ∈ js := by
  induction js generalizing r with
  | nil => simp
  | cons j js ih => rw [List.foldl_cons, ih, hJ.has_add, List.mem_cons, or_assoc]

theorem has_foldl_remove (hJ : J.Lawful) (js : List DiagJob) (r : ρ) (k : DiagJob) :
    J.has (js.foldl J.removeAbstractDiagJob r) k ↔ J.has r k ∧ k ∉ js := by
  induction js generalizing r with
  | nil => simp
  | cons j js ih => rw [List.foldl_cons, ih, hJ.has_remove, List.mem_cons, not_or, and_assoc]

/-- Requests are served between `init` and `shutdown`. -/
def Phase.isUp : Phase → Bool
  | .initialised | .running => true
  | .down | .shuttingDown => false

/-- Ticks come between `run` and the end of a shutdown. -/
def Phase.isTicking : Phase → Bool
  | .running | .shuttingDown => true
  | .down | .initialised => false

end UdsSystem

/-- All jobs and the dispatcher are registered while the system is up and none of them otherwise,
and ticks come only to a simulator that has been initialised. -/
structure RegisteredWhileUp (J : DiagJobRoot ρ) (u : UdsSystem ρ) : Prop where
  jobs : ∀ k, J.has u.jobRoot k ↔ Phase.isUp u.phase = true
  dispatcher : u.hasDispatcher = Phase.isUp u.phase
  transportLayer : u.hasTransportLayer = Phase.isUp u.phase
  scheduled : u.scheduled = Phase.isTicking u.phase

namespace RegisteredWhileUp

variable {u : UdsSystem ρ}

theorem construct (hJ : J.Lawful) : RegisteredWhileUp J (.construct J) where
  jobs k := iff_of_false (hJ.has_empty k) Bool.false_ne_true
  dispatcher := rfl
  transportLayer := rfl
  scheduled := rfl

theorem step (hJ : J.Lawful) (h : RegisteredWhileUp J u) {e : UdsSystem.Event}
    (he : u.enabled e) : RegisteredWhileUp J (u.step J e) := by
  cases e with
  | init =>
    have hphase : u.phase = .down := he
    have hscheduled : u.scheduled = false := by rw [h.scheduled, hphase]; rfl
    have hjobs : ∀ k, J.has (addDiagJobs J u.jobRoot) k := fun k =>
      (has_foldl_add hJ _ _ k).mpr (.inr (mem_diagJobs k))
    show RegisteredWhileUp J (u.init J)
    rw [UdsSystem.init]
    exact ⟨fun k => iff_of_true (hjobs k) rfl, rfl, rfl, hscheduled⟩
  | run =>
    have hphase : u.phase = .initialised := he
    obtain ⟨hjobs, hdispatcher, htransport, -⟩ := h
    rw [hphase] at hjobs hdispatcher htransport
    exact ⟨hjobs, hdispatcher, htransport, rfl⟩
  | shutdown =>
    have hphase : u.phase = .running := he
    have hscheduled : u.scheduled = true := by rw [h.scheduled, hphase]; rfl
    have hjobs : ∀ k, ¬ J.has (removeDiagJobs J u.jobRoot) k := fun k hk =>
      ((has_foldl_remove hJ _ _ k).mp hk).2 (mem_diagJobs k)
    exact ⟨fun k => iff_of_false (hjobs k) Bool.false_ne_true, rfl, rfl, hscheduled⟩
  | shutdownComplete =>
    have hphase : u.phase = .shuttingDown := he
    obtain ⟨hjobs, hdispatcher, htransport, -⟩ := h
    rw [hphase] at hjobs hdispatcher htransport
    exact ⟨hjobs, hdispatcher, htransport, rfl⟩
  | execute =>
    show RegisteredWhileUp J u.execute
    rw [execute_eq]
    exact ⟨h.jobs, h.dispatcher, h.transportLayer, h.scheduled⟩
  | access op => exact ⟨h.jobs, h.dispatcher, h.transportLayer, h.scheduled⟩

theorem of_reachable (hJ : J.Lawful) (hr : (udsSystem J).Reachable u) : RegisteredWhileUp J u := by
  refine hr.invariant (I := RegisteredWhileUp J) ?_ ?_
  · rintro u rfl
    exact construct hJ
  · intro u e h he
    exact h.step hJ he

end RegisteredWhileUp

/-! The simulator in the system -/

/-- A run of the simulator in which `init` occurs `inits` times. -/
theorem Restarted.of_run {sim sim' : DtcSimulator} {events : List SimulatorEvent}
    (h : restartedSimulator.Run sim events sim') {inits : Nat} (hs : Restarted inits sim) :
    Restarted (inits + events.count .init) sim' := by
  induction h generalizing inits with
  | nil sim => exact hs
  | @cons sim sim' e events _ _ ih =>
    cases e with
    | init =>
      rw [List.count_cons_self, Nat.add_comm _ 1, ← Nat.add_assoc]
      exact ih hs.init
    | operation op =>
      rw [List.count_cons_of_ne SimulatorEvent.noConfusion]
      exact ih (hs.apply op)

/-- The simulator has been initialised by the time the system leaves the phase `down`. -/
theorem restarted_of_reachable {u : UdsSystem ρ} (hr : (udsSystem J).Reachable u) :
    ∃ inits, Restarted inits u.dtcSimulator ∧ (u.phase ≠ .down → inits ≠ 0) := by
  refine hr.invariant (I := fun u : UdsSystem ρ =>
    ∃ inits, Restarted inits u.dtcSimulator ∧ (u.phase ≠ .down → inits ≠ 0)) ?_ ?_
  · rintro u rfl
    exact ⟨0, .construct, fun h => absurd rfl h⟩
  · rintro u e ⟨inits, hs, hinits⟩ he
    cases e with
    | init => exact ⟨inits + 1, hs.init, fun _ => Nat.succ_ne_zero inits⟩
    | run =>
      have hphase : u.phase = .initialised := he
      exact ⟨inits, hs, fun _ => hinits (by rw [hphase]; exact Phase.noConfusion)⟩
    | shutdown =>
      have hphase : u.phase = .running := he
      exact ⟨inits, hs, fun _ => hinits (by rw [hphase]; exact Phase.noConfusion)⟩
    | shutdownComplete => exact ⟨inits, hs, fun h => absurd rfl h⟩
    | execute =>
      show ∃ inits, Restarted inits u.execute.dtcSimulator ∧ (u.execute.phase ≠ .down → _)
      rw [execute_eq]
      refine ⟨inits, ?_, hinits⟩
      dsimp only
      split
      · exact hs.apply .step
      · exact hs
    | access op => exact ⟨inits, hs.apply op, hinits⟩

/-- A tick never finds an empty store. -/
theorem getCount_ne_zero_of_scheduled (hJ : J.Lawful) {u : UdsSystem ρ}
    (hr : (udsSystem J).Reachable u) (hu : u.scheduled = true) :
    u.dtcSimulator.dtcStore.getCount ≠ 0 := by
  obtain ⟨inits, hs, hinits⟩ := restarted_of_reachable hr
  apply hs.getCount_ne_zero
  apply hinits
  intro hphase
  rw [(RegisteredWhileUp.of_reachable hJ hr).scheduled, hphase] at hu
  exact Bool.false_ne_true hu

/-- The system runs the simulator, and there is no toggle that would divide by zero. -/
theorem refinesRestartedSimulator (hJ : J.Lawful) :
    RefinementMapping (udsSystem J) restartedSimulator UdsSystem.dtcSimulator
      UdsSystem.simulatorEvents where
  init := by
    rintro u rfl
    rfl
  step := by
    intro u e hr he
    cases e with
    | init => exact .single SimulatorEvent.noConfusion
    | run | shutdown | shutdownComplete => exact .nil _
    | execute =>
      show restartedSimulator.Run _ (if (u.counter + 1) % 50 = 0 then _ else _)
        u.execute.dtcSimulator
      rw [execute_eq]
      dsimp only
      split
      · exact .single fun _ => getCount_ne_zero_of_scheduled hJ hr he
      · exact .nil _
    | access op =>
      have hop : op ≠ .step := he
      exact .single fun h => absurd (SimulatorEvent.operation.inj h) hop

/-! The steps of a run -/

/-- How many steps belong to the first `n` ticks. In each round of the counter the multiples of 50
start at zero, and the last of them is 46 ticks before the next round. -/
def stepsDue (n : Nat) : Nat := n / 2 ^ 32 * 85899346 + n % 2 ^ 32 / 50

theorem stepsDue_succ (counter : UInt32) {n : Nat} (hn : n % 2 ^ 32 = counter.toNat) :
    stepsDue (n + 1) = stepsDue n + if (counter + 1) % 50 = 0 then 1 else 0 := by
  have hcounter : (counter + 1).toNat = (n + 1) % 2 ^ 32 := by
    rw [UInt32.toNat_add, ← hn]
    exact Nat.mod_add_mod n _ 1
  have hmultiple : (counter + 1) % 50 = 0 ↔ (n + 1) % 2 ^ 32 % 50 = 0 := by
    rw [← hcounter, ← UInt32.toNat_inj, UInt32.toNat_mod]
    rfl
  rw [if_congr hmultiple rfl rfl, stepsDue, stepsDue]
  split <;> omega

/-- What an event passes on to the simulator, ticks apart. -/
def UdsSystem.Event.passedOn : UdsSystem.Event → Option SimulatorEvent
  | .init => some .init
  | .run | .shutdown | .shutdownComplete | .execute => none
  | .access op => some (.operation op)

theorem count_step_of_run {u u' : UdsSystem ρ} {es : List UdsSystem.Event}
    (h : (udsSystem J).Run u es u') {n : Nat} (hn : n % 2 ^ 32 = u.counter.toNat) :
    stepsDue (n + es.count .execute) =
      stepsDue n + ((udsSystem J).outputs simulatorEvents u es).count (.operation .step) := by
  induction h generalizing n with
  | nil u => simp [System.outputs]
  | @cons u u' e es he _ ih =>
    show _ = stepsDue n + (u.simulatorEvents e ++
      (udsSystem J).outputs simulatorEvents (u.step J e) es).count (.operation .step)
    rw [List.count_append]
    -- a tick moves the counter on, and nothing else does
    have hother : e ≠ .execute → (u.step J e).counter = u.counter →
        (u.simulatorEvents e).count (.operation .step) = 0 →
        stepsDue (n + (e :: es).count .execute) = stepsDue n +
          ((u.simulatorEvents e).count (.operation .step) +
            ((udsSystem J).outputs simulatorEvents (u.step J e) es).count (.operation .step)) := by
      intro hne hcounter hnone
      rw [List.count_cons_of_ne hne, hnone, Nat.zero_add]
      exact ih (by rw [hn]; exact congrArg UInt32.toNat hcounter.symm)
    cases e with
    | init =>
      refine hother UdsSystem.Event.noConfusion ?_ rfl
      rw [UdsSystem.step, UdsSystem.init]
    | shutdown =>
      refine hother UdsSystem.Event.noConfusion ?_ rfl
      rw [UdsSystem.step, UdsSystem.shutdown]
    | run | shutdownComplete => exact hother UdsSystem.Event.noConfusion rfl rfl
    | access op =>
      have hop : op ≠ .step := he
      refine hother UdsSystem.Event.noConfusion rfl ?_
      exact List.count_eq_zero.mpr fun hm =>
        hop (SimulatorEvent.operation.inj (List.mem_singleton.mp hm)).symm
    | execute =>
      have hcounter : (u.step J .execute).counter = u.counter + 1 :=
        congrArg UdsSystem.counter u.execute_eq
      have hnext : (n + 1) % 2 ^ 32 = (u.step J .execute).counter.toNat := by
        rw [hcounter, UInt32.toNat_add, ← hn]
        exact (Nat.mod_add_mod n _ 1).symm
      have hcount : (u.simulatorEvents .execute).count (.operation .step) =
          if (u.counter + 1) % 50 = 0 then 1 else 0 := by
        rw [simulatorEvents]
        split <;> rfl
      rw [List.count_cons_self, ← Nat.add_assoc, Nat.add_right_comm, ih hnext,
        stepsDue_succ u.counter hn, hcount, Nat.add_assoc]
      rfl

theorem filter_outputs_of_run {u u' : UdsSystem ρ} {es : List UdsSystem.Event}
    (h : (udsSystem J).Run u es u') :
    ((udsSystem J).outputs simulatorEvents u es).filter (fun e => e ≠ .operation .step) =
      es.filterMap UdsSystem.Event.passedOn := by
  induction h with
  | nil u => rfl
  | @cons u u' e es he _ ih =>
    show (u.simulatorEvents e ++
      (udsSystem J).outputs simulatorEvents ((udsSystem J).step u e) es).filter _ = _
    rw [List.filter_append, ih, List.filterMap_cons]
    cases e with
    | init | run | shutdown | shutdownComplete => rfl
    | execute =>
      rw [simulatorEvents]
      split <;> rfl
    | access op =>
      have hop : SimulatorEvent.operation op ≠ .operation .step := fun h =>
        he (SimulatorEvent.operation.inj h)
      simp [simulatorEvents, Event.passedOn, hop]

/-- From any reachable state on, a run of the system is a run of the simulator. It has the steps
that are due after its ticks, wherever the counter stands, and it leaves out, adds or reorders
nothing else that is done to the simulator. -/
theorem stepsDue_of_run (hJ : J.Lawful) {u u' : UdsSystem ρ} (hr : (udsSystem J).Reachable u)
    {es : List UdsSystem.Event} (h : (udsSystem J).Run u es u') :
    ∃ events, restartedSimulator.Run u.dtcSimulator events u'.dtcSimulator ∧
      events.count (.operation .step) + stepsDue u.counter.toNat =
        stepsDue (u.counter.toNat + es.count .execute) ∧
      events.filter (fun e => e ≠ .operation .step) = es.filterMap UdsSystem.Event.passedOn := by
  refine ⟨_, (refinesRestartedSimulator hJ).run hr h, ?_, filter_outputs_of_run h⟩
  rw [count_step_of_run h (Nat.mod_eq_of_lt u.counter.toNat_lt), Nat.add_comm]

/-- In every run from the construction on, with any number of restarts: the jobs and the dispatcher
are registered exactly while the system is up, the store holds the five DTCs once for each `init`,
as far as there is room, their histories and the sensors are as they should be, and a tick never
finds an empty store. -/
theorem registeredWhileUp_of_run (hJ : J.Lawful) {es : List UdsSystem.Event} {u : UdsSystem ρ}
    (h : (udsSystem J).Run (.construct J) es u) :
    RegisteredWhileUp J u ∧ Restarted (es.count .init) u.dtcSimulator ∧
      (u.scheduled = true → u.dtcSimulator.dtcStore.getCount ≠ 0) := by
  have hr : (udsSystem J).Reachable u := ⟨_, es, rfl, h⟩
  have hs := Restarted.construct.of_run ((refinesRestartedSimulator hJ).run (.init rfl) h)
  have hcount : ((udsSystem J).outputs simulatorEvents (.construct J) es).count .init =
      es.count .init := by
    have hfilter : ((udsSystem J).outputs simulatorEvents (.construct J) es).count .init =
        (es.filterMap UdsSystem.Event.passedOn).count .init := by
      rw [← filter_outputs_of_run h, List.count_filter (by decide)]
    rw [hfilter, List.count, List.countP_filterMap, List.count]
    apply List.countP_congr
    intro e _
    cases e <;> simp [Event.passedOn]
  rw [hcount, Nat.zero_add] at hs
  exact ⟨.of_reachable hJ hr, hs, getCount_ne_zero_of_scheduled hJ hr⟩

/-- A job root that lists its jobs. -/
def listedJobs : DiagJobRoot (List DiagJob) where
  empty := []
  addAbstractDiagJob r j := j :: r
  removeAbstractDiagJob r j := r.filter fun k => k ≠ j
  has r k := k ∈ r

theorem listedJobs_lawful : listedJobs.Lawful where
  has_empty _ := List.not_mem_nil
  has_add _ _ _ := List.mem_cons.trans or_comm
  has_remove r j k := by simp [listedJobs, List.mem_filter]

/-- The system comes up, is shut down and comes up again. The fiftieth tick comes between `shutdown`
and its end. -/
def restartOnce : List UdsSystem.Event :=
  [.init, .run] ++ List.replicate 49 .execute ++
    [.access .clearAll, .shutdown, .execute, .shutdownComplete, .init]

theorem run_restartOnce : (udsSystem listedJobs).Run (.construct listedJobs) restartOnce
    (restartOnce.foldl (udsSystem listedJobs).step (.construct listedJobs)) :=
  .of_enabledAll (by decide)

theorem stepsDue_restartOnce :
    ∃ events, restartedSimulator.Run DtcSimulator.construct events
        (restartOnce.foldl (udsSystem listedJobs).step (.construct listedJobs)).dtcSimulator ∧
      events.count (.operation .step) = 1 ∧
      events.filter (fun e => e ≠ .operation .step) = [.init, .operation .clearAll, .init] := by
  obtain ⟨events, hrun, hcount, hrest⟩ :=
    stepsDue_of_run listedJobs_lawful (.init rfl) run_restartOnce
  have hdue : stepsDue (0 + restartOnce.count .execute) = 1 := by decide
  exact ⟨events, hrun, hcount.trans hdue, hrest.trans (by decide)⟩

theorem registeredWhileUp_restartOnce :
    RegisteredWhileUp listedJobs
        (restartOnce.foldl (udsSystem listedJobs).step (.construct listedJobs)) ∧
      Restarted 2
        (restartOnce.foldl (udsSystem listedJobs).step (.construct listedJobs)).dtcSimulator ∧
      ((restartOnce.foldl (udsSystem listedJobs).step (.construct listedJobs)).scheduled = true →
        (restartOnce.foldl (udsSystem listedJobs).step
          (.construct listedJobs)).dtcSimulator.dtcStore.getCount ≠ 0) :=
  registeredWhileUp_of_run listedJobs_lawful run_restartOnce

end SovdDemo.Uds
