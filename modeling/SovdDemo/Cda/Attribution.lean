import SovdDemo.Cda.Poller
import SovdDemo.Cda.ErrorStatus
import SovdDemo.Foundations.Transition

/-!
# Which request a reply is taken for

The stub CDA takes the next reply for the answer to its last request. It looks at the length and the
first byte; the DID, the DTC number and the sub-function that every reply repeats are not compared
with the request. A reply to another request is passed on as long as its service fits, and so is
every reply to a request whose identifier has lost its upper bits on the way.

## Main definitions

- `stubCda` — the poller and the endpoints, with the histories as their state
- `Poll.Echoed`, `Call.Echoed` — a reply repeats what its request asked for
- `SourcesEcho` — everything in the histories was decoded from a reply that does
- `Misattributes` — a reply that does not is received and passes the checks

## Main results

- `HistoryInvariant.of_reachable` — what recording a decoded reply keeps holds along every run
- `historiesDecoded_of_reachable` — the histories hold nothing but decoded replies
- `sourcesEcho_pollAll_iff` — a round of the poller
- `attribution_of_reachable` — replies are attributed correctly as long as no such reply arrives
-/

namespace SovdDemo.Cda

open Foundations

/-! What a reply repeats of its request -/

/-- The bytes 1 and 2 of a reply to `0x22` are the DID. No reply repeats an integer that does not
fit into them. -/
def EchoesDid (didNum : Int) (resp : List UInt8) : Prop :=
  3 ≤ resp.length ∧ (beNat ((resp.drop 1).take 2) : Int) = didNum

/-- The byte 1 of a reply to `0x19 0x06` is the sub-function, and the bytes 2 to 4 are the DTC. -/
def EchoesDtc (dtcNum : Int) (resp : List UInt8) : Prop :=
  5 ≤ resp.length ∧ resp[1]? = some 0x06 ∧ (beNat ((resp.drop 2).take 3) : Int) = dtcNum

/-- The byte 1 of a reply to `0x19 0x02` is the sub-function. -/
def EchoesMask (resp : List UInt8) : Prop := resp[1]? = some 0x02

instance (didNum : Int) (resp : List UInt8) : Decidable (EchoesDid didNum resp) :=
  inferInstanceAs (Decidable (_ ∧ _))

instance (dtcNum : Int) (resp : List UInt8) : Decidable (EchoesDtc dtcNum resp) :=
  inferInstanceAs (Decidable (_ ∧ _ ∧ _))

instance (resp : List UInt8) : Decidable (EchoesMask resp) := inferInstanceAs (Decidable (_ = _))

/-- The reply repeats what the poller asked for. -/
def Poll.Echoed : Poll → List UInt8 → Prop
  | .did didStr, resp => EchoesDid (didNumber didStr) resp
  | .faults, resp => EchoesMask resp

/-- The poller records something from the reply. -/
def Poll.Accepts (didCatalog : Dict DidInfo) : Poll → List UInt8 → Prop
  | .did didStr, resp => (sampleOf didCatalog didStr resp).isSome
  | .faults, resp => (snapshotOf resp).isSome

/-- The reply repeats what the endpoint asked for; a reply to `0x14` repeats nothing. -/
def Call.Echoed (n : Int) : Call → List UInt8 → Prop
  | .readFaults _, resp => EchoesMask resp
  | .readFaultDetail _, resp => EchoesDtc n resp
  | .clearFaults _, _ => True
  | .readData _, resp => EchoesDid n resp

instance : (poll : Poll) → (resp : List UInt8) → Decidable (poll.Echoed resp)
  | .did _, _ => inferInstanceAs (Decidable (EchoesDid _ _))
  | .faults, _ => inferInstanceAs (Decidable (EchoesMask _))

instance (didCatalog : Dict DidInfo) :
    (poll : Poll) → (resp : List UInt8) → Decidable (poll.Accepts didCatalog resp)
  | .did _, _ => inferInstanceAs (Decidable (_ = true))
  | .faults, _ => inferInstanceAs (Decidable (_ = true))

instance (n : Int) : (call : Call) → (resp : List UInt8) → Decidable (call.Echoed n resp)
  | .readFaults _, _ => inferInstanceAs (Decidable (EchoesMask _))
  | .readFaultDetail _, _ => inferInstanceAs (Decidable (EchoesDtc _ _))
  | .clearFaults _, _ => inferInstanceAs (Decidable True)
  | .readData _, _ => inferInstanceAs (Decidable (EchoesDid _ _))

/-! Runs -/

/-- What the DoIP client will do on a connection. -/
structure Link where
  connect : Option PyException
  sends : List (Option PyException)
  inbox : List Received
  close : Option PyException
  deriving DecidableEq, Repr

def World.linked (w : World) (link : Link) : World :=
  { w with connect := link.connect, sends := link.sends, inbox := link.inbox, close := link.close }

inductive Activity
  | poll (ts : Int)
  | call (componentId : String) (call : Call)
  deriving DecidableEq, Repr

structure Event where
  link : Link
  activity : Activity
  deriving DecidableEq, Repr

def World.perform (env : PyEnv) (catalog : Catalog) (w : World) : Activity → World
  | .poll ts => finalWorld (pollEcuOnce env catalog ts w)
  | .call componentId call => finalWorld (call.run env catalog componentId w)

/-- The poller and the endpoints, in any order, each with a connection of its own. -/
def stubCda (env : PyEnv) (catalog : Catalog) : System World Event where
  init w := w.sensorHistory = [] ∧ w.faultHistory.items = [] ∧ w.sampleSources = [] ∧
    w.snapshotSources = []
  enabled _ _ := True
  step w e := (w.linked e.link).perform env catalog e.activity

instance (env : PyEnv) (catalog : Catalog) (w : World) (e : Event) :
    Decidable ((stubCda env catalog).enabled w e) := inferInstanceAs (Decidable True)

theorem stubCda_step (env : PyEnv) (catalog : Catalog) (w : World) (link : Link)
    (activity : Activity) : (stubCda env catalog).step w ⟨link, activity⟩ =
      (w.linked link).perform env catalog activity := rfl

/-! What the histories hold -/

/-- The histories hold samples that were recorded, and every recorded sample was decoded from the
reply it is recorded with. -/
structure HistoriesDecoded (catalog : Catalog) (w : World) : Prop where
  samples : ∀ didHex ts value resp, (didHex, (ts, value), resp) ∈ w.sampleSources →
    ∃ comp didStr, catalog.components.get pollComponent = some comp ∧ didStr ∈ pollDids ∧
      didHex = pollHex didStr ∧ sampleOf comp.dids didStr resp = some value
  snapshots : ∀ ts snapshot resp, ((ts, snapshot), resp) ∈ w.snapshotSources →
    snapshotOf resp = some snapshot
  sensorHistory : ∀ didHex history, w.sensorHistory.get didHex = some history →
    ∀ sample ∈ history.items, ∃ resp, (didHex, sample, resp) ∈ w.sampleSources
  faultHistory : ∀ snapshot ∈ w.faultHistory.items, ∃ resp, (snapshot, resp) ∈ w.snapshotSources

/-- Everything that was ever recorded was decoded from a reply that repeats its request: for a
sample the DID of its history, for a snapshot the sub-function. -/
structure SourcesEcho (w : World) : Prop where
  samples : ∀ didHex sample resp, (didHex, sample, resp) ∈ w.sampleSources →
    ∃ didNum, intBase16 didHex = some didNum ∧ EchoesDid didNum resp
  snapshots : ∀ snapshot resp, (snapshot, resp) ∈ w.snapshotSources → EchoesMask resp

theorem SourcesEcho.congr {w w' : World} (h : SourcesEcho w)
    (hsamples : w'.sampleSources = w.sampleSources)
    (hsnapshots : w'.snapshotSources = w.snapshotSources) : SourcesEcho w' :=
  ⟨by rw [hsamples]; exact h.samples, by rw [hsnapshots]; exact h.snapshots⟩

theorem HistoriesDecoded.congr {catalog : Catalog} {w w' : World} (h : HistoriesDecoded catalog w)
    (hsamples : w'.sampleSources = w.sampleSources)
    (hsnapshots : w'.snapshotSources = w.snapshotSources)
    (hsensor : w'.sensorHistory = w.sensorHistory) (hfault : w'.faultHistory = w.faultHistory) :
    HistoriesDecoded catalog w' :=
  ⟨by rw [hsamples]; exact h.samples, by rw [hsnapshots]; exact h.snapshots,
    by rw [hsamples, hsensor]; exact h.sensorHistory,
    by rw [hsnapshots, hfault]; exact h.faultHistory⟩

theorem HistoriesDecoded.recordSample {catalog : Catalog} {comp : Component}
    (hc : catalog.components.get pollComponent = some comp) {w : World}
    (h : HistoriesDecoded catalog w) {didStr : String} (hd : didStr ∈ pollDids) {value : Int}
    {resp : List UInt8} (hv : sampleOf comp.dids didStr resp = some value) (ts : Int) :
    HistoriesDecoded catalog (w.recordSample (pollHex didStr) (ts, value) resp) where
  samples didHex ts' value' resp' hm := by
    rcases List.mem_append.mp hm with hm | hm
    · exact h.samples didHex ts' value' resp' hm
    · obtain ⟨rfl, ⟨rfl, rfl⟩, rfl⟩ : didHex = pollHex didStr ∧ (ts' = ts ∧ value' = value) ∧
          resp' = resp := by simpa using hm
      exact ⟨comp, didStr, hc, hd, rfl, hv⟩
  snapshots := h.snapshots
  sensorHistory didHex history hget sample hm := by
    -- the deque of this DID has one more sample; all others are as before
    change (w.sensorHistory.set _ _).get didHex = some history at hget
    show ∃ resp', _ ∈ w.sampleSources ++ _
    rw [Dict.get_set] at hget
    split at hget
    · rename_i hkey
      subst hkey
      obtain rfl := Option.some.inj hget
      rcases BoundedDeque.mem_append hm with hold | rfl
      · cases hw : w.sensorHistory.get (pollHex didStr) with
        | none =>
          rw [hw] at hold
          cases hold
        | some old =>
          rw [hw] at hold
          obtain ⟨resp', hr⟩ := h.sensorHistory _ old hw sample hold
          exact ⟨resp', List.mem_append_left _ hr⟩
      · exact ⟨resp, List.mem_append_right _ (List.mem_singleton.mpr rfl)⟩
    · obtain ⟨resp', hr⟩ := h.sensorHistory didHex history hget sample hm
      exact ⟨resp', List.mem_append_left _ hr⟩
  faultHistory := h.faultHistory

theorem HistoriesDecoded.recordSnapshot {catalog : Catalog} {w : World}
    (h : HistoriesDecoded catalog w) {snapshot : Dict UInt8} {resp : List UInt8}
    (hv : snapshotOf resp = some snapshot) (ts : Int) :
    HistoriesDecoded catalog (w.recordSnapshot (ts, snapshot) resp) where
  samples := by
    dsimp only [World.recordSnapshot]
    exact h.samples
  snapshots ts' snapshot' resp' hm := by
    dsimp only [World.recordSnapshot] at hm
    rcases List.mem_append.mp hm with hm | hm
    · exact h.snapshots ts' snapshot' resp' hm
    · obtain ⟨⟨rfl, rfl⟩, rfl⟩ : (ts' = ts ∧ snapshot' = snapshot) ∧ resp' = resp := by
        simpa using hm
      exact hv
  sensorHistory := by
    dsimp only [World.recordSnapshot]
    exact h.sensorHistory
  faultHistory snapshot' hm := by
    dsimp only [World.recordSnapshot] at hm ⊢
    rcases BoundedDeque.mem_append hm with hold | rfl
    · obtain ⟨resp', hr⟩ := h.faultHistory snapshot' hold
      exact ⟨resp', List.mem_append_left _ hr⟩
    · exact ⟨resp, List.mem_append_right _ (List.mem_singleton.mpr rfl)⟩

theorem sourcesEcho_recordSample_iff (w : World) (didHex : String) (sample : Sample)
    (resp : List UInt8) :
    SourcesEcho (w.recordSample didHex sample resp) ↔
      SourcesEcho w ∧ ∃ didNum, intBase16 didHex = some didNum ∧ EchoesDid didNum resp := by
  constructor
  · rintro ⟨hsamples, hsnapshots⟩
    dsimp only [World.recordSample] at hsamples hsnapshots
    refine ⟨⟨?_, hsnapshots⟩, ?_⟩
    · intro k s r hm
      exact hsamples k s r (List.mem_append_left _ hm)
    · exact hsamples _ _ _ (List.mem_append_right _ (List.mem_singleton.mpr rfl))
  · rintro ⟨h, hecho⟩
    constructor
    · intro k s r hm
      dsimp only [World.recordSample] at hm
      rcases List.mem_append.mp hm with hm | hm
      · exact h.samples k s r hm
      · obtain ⟨rfl, rfl, rfl⟩ : k = didHex ∧ s = sample ∧ r = resp := by simpa using hm
        exact hecho
    · dsimp only [World.recordSample]
      exact h.snapshots

theorem sourcesEcho_recordSnapshot_iff (w : World) (snapshot : Snapshot) (resp : List UInt8) :
    SourcesEcho (w.recordSnapshot snapshot resp) ↔ SourcesEcho w ∧ EchoesMask resp := by
  constructor
  · rintro ⟨hsamples, hsnapshots⟩
    dsimp only [World.recordSnapshot] at hsamples hsnapshots
    refine ⟨⟨hsamples, ?_⟩, ?_⟩
    · intro s r hm
      exact hsnapshots s r (List.mem_append_left _ hm)
    · exact hsnapshots _ _ (List.mem_append_right _ (List.mem_singleton.mpr rfl))
  · rintro ⟨h, hecho⟩
    constructor
    · dsimp only [World.recordSnapshot]
      exact h.samples
    · intro s r hm
      dsimp only [World.recordSnapshot] at hm
      rcases List.mem_append.mp hm with hm | hm
      · exact h.snapshots s r hm
      · obtain ⟨rfl, rfl⟩ : s = snapshot ∧ r = resp := by simpa using hm
        exact hecho

/-! One request of the poller, and a round -/

theorem mem_polls_did {didStr : String} (h : Poll.did didStr ∈ polls) : didStr ∈ pollDids := by
  simpa [polls] using h

/-- A property of the histories that recording a decoded reply keeps. -/
structure HistoryInvariant (catalog : Catalog) (I : World → Prop) : Prop where
  congr : ∀ {w w' : World}, I w → w'.sampleSources = w.sampleSources →
    w'.snapshotSources = w.snapshotSources → w'.sensorHistory = w.sensorHistory →
    w'.faultHistory = w.faultHistory → I w'
  recordSample : ∀ {w : World} {comp : Component} {didStr : String} {ts value : Int}
    {resp : List UInt8}, I w → catalog.components.get pollComponent = some comp →
    didStr ∈ pollDids → sampleOf comp.dids didStr resp = some value →
    I (w.recordSample (pollHex didStr) (ts, value) resp)
  recordSnapshot : ∀ {w : World} {ts : Int} {snapshot : Dict UInt8} {resp : List UInt8}, I w →
    snapshotOf resp = some snapshot → I (w.recordSnapshot (ts, snapshot) resp)

theorem historyInvariant_historiesDecoded (catalog : Catalog) :
    HistoryInvariant catalog (HistoriesDecoded catalog) where
  congr h hsamples hsnapshots hsensor hfault := h.congr hsamples hsnapshots hsensor hfault
  recordSample h hc hd hv := h.recordSample hc hd hv _
  recordSnapshot h hv := h.recordSnapshot hv _

namespace HistoryInvariant

variable {catalog : Catalog} {I : World → Prop} (hI : HistoryInvariant catalog I)

include hI

theorem polled {comp : Component} (hc : catalog.components.get pollComponent = some comp)
    {w : World} (h : I w) {poll : Poll} (hp : poll ∈ polls) (ts : Int) :
    I (w.polled comp.dids ts poll) := by
  have hexchanged : I (w.exchanged poll.request) := hI.congr h rfl rfl rfl rfl
  rw [World.polled]
  split
  · cases poll with
    | did didStr =>
      dsimp only [World.recorded]
      split
      · rename_i value hv
        exact hI.recordSample hexchanged hc (mem_polls_did hp) hv
      · exact hexchanged
    | faults =>
      dsimp only [World.recorded]
      split
      · rename_i snapshot hv
        exact hI.recordSnapshot hexchanged hv
      · exact hexchanged
  · exact hexchanged

theorem pollAll {comp : Component} (hc : catalog.components.get pollComponent = some comp)
    (ts : Int) (ps : List Poll) (hps : ∀ poll ∈ ps, poll ∈ polls) {w : World} (h : I w) :
    I (w.pollAll comp.dids ts ps) := by
  induction ps generalizing w with
  | nil => exact h
  | cons poll ps ih =>
    obtain ⟨hp, hps⟩ := List.forall_mem_cons.mp hps
    exact ih hps (hI.polled hc h hp ts)

/-- The poller records decoded replies, and the endpoints do not touch the histories. -/
theorem step {env : PyEnv} {w : World} (h : I w) (e : Event) :
    I ((stubCda env catalog).step w e) := by
  have hlinked : I (w.linked e.link) := hI.congr h rfl rfl rfl rfl
  obtain ⟨link, activity⟩ := e
  cases activity with
  | poll ts =>
    show I (finalWorld (pollEcuOnce env catalog ts (w.linked link)))
    rw [pollEcuOnce_eq]
    cases hc : catalog.components.get pollComponent with
    | none => exact hlinked
    | some comp =>
      dsimp only [finalWorld]
      split
      · exact hlinked
      · exact hI.pollAll hc ts polls (fun _ hp => hp) hlinked
  | call componentId call =>
    show I (finalWorld (call.run env catalog componentId (w.linked link)))
    obtain hw | ⟨request, hw⟩ := Call.finalWorld_run env catalog componentId call (w.linked link)
    · rwa [hw]
    · rw [hw]
      exact hI.congr hlinked rfl rfl rfl rfl

theorem of_reachable {env : PyEnv} (hinit : ∀ w, (stubCda env catalog).init w → I w) {w : World}
    (hr : (stubCda env catalog).Reachable w) : I w :=
  hr.invariant hinit fun _ e h _ => hI.step h e

end HistoryInvariant

/-- A recorded reply must repeat its request. -/
theorem sourcesEcho_recorded_iff (w : World) (didCatalog : Dict DidInfo) (ts : Int) {poll : Poll}
    (hp : poll ∈ polls) (resp : List UInt8) :
    SourcesEcho (w.recorded didCatalog ts poll resp) ↔
      SourcesEcho w ∧ (poll.Accepts didCatalog resp → poll.Echoed resp) := by
  cases poll with
  | did didStr =>
    have hn := (intBase16_pollDids didStr (mem_polls_did hp)).2
    cases hv : sampleOf didCatalog didStr resp with
    | none => simp [World.recorded, Poll.Accepts, hv]
    | some value =>
      simp [World.recorded, Poll.Accepts, Poll.Echoed, hv, sourcesEcho_recordSample_iff, hn]
  | faults =>
    cases hv : snapshotOf resp with
    | none => simp [World.recorded, Poll.Accepts, hv]
    | some snapshot =>
      simp [World.recorded, Poll.Accepts, Poll.Echoed, hv, sourcesEcho_recordSnapshot_iff]

theorem sourcesEcho_exchanged_iff (w : World) (request : List UInt8) :
    SourcesEcho (w.exchanged request) ↔ SourcesEcho w :=
  ⟨fun h => h.congr rfl rfl, fun h => h.congr rfl rfl⟩

theorem sourcesEcho_polled_iff (w : World) (didCatalog : Dict DidInfo) (ts : Int) {poll : Poll}
    (hp : poll ∈ polls) :
    SourcesEcho (w.polled didCatalog ts poll) ↔
      SourcesEcho w ∧ ∀ resp, sendAndReceive w = .reply resp →
        poll.Accepts didCatalog resp → poll.Echoed resp := by
  rw [World.polled]
  cases hx : sendAndReceive w with
  | reply resp => simp [sourcesEcho_recorded_iff _ _ _ hp, sourcesEcho_exchanged_iff]
  | notConnected e => simp [sourcesEcho_exchanged_iff]
  | sendFailed e => simp [sourcesEcho_exchanged_iff]
  | receiveFailed e => simp [sourcesEcho_exchanged_iff]
  | noReply => simp [sourcesEcho_exchanged_iff]

/-- A round attributes its replies correctly exactly when every reply that is recorded repeats the
request it is received for. -/
theorem sourcesEcho_pollAll_iff (didCatalog : Dict DidInfo) (ts : Int) (ps : List Poll)
    (hps : ∀ poll ∈ ps, poll ∈ polls) (w : World) :
    SourcesEcho (w.pollAll didCatalog ts ps) ↔
      SourcesEcho w ∧ ∀ x ∈ deliveries ps w.sends w.inbox,
        x.1.Accepts didCatalog x.2 → x.1.Echoed x.2 := by
  induction ps generalizing w with
  | nil => simp [World.pollAll, deliveries]
  | cons poll ps ih =>
    obtain ⟨hp, hps⟩ := List.forall_mem_cons.mp hps
    obtain ⟨hsends, hinbox⟩ := polled_sends w didCatalog ts poll
    -- the induction runs over the requests of the round, each with the inbox the last one has left
    have hrest := ih hps (w.polled didCatalog ts poll)
    rw [hsends, hinbox, sourcesEcho_polled_iff w didCatalog ts hp] at hrest
    show SourcesEcho ((w.polled didCatalog ts poll).pollAll didCatalog ts ps) ↔ _
    rw [hrest, deliveries_cons poll ps w poll.request, and_assoc]
    apply and_congr_right
    intro _
    rw [List.forall_mem_append]
    apply and_congr_left
    intro _
    cases sendAndReceive w <;> simp

/-! Whole runs -/

/-- Which reply a round of the poller receives for which request. -/
def roundDeliveries (env : PyEnv) (comp : Component) (w : World) : List (Poll × List UInt8) :=
  match openClient env comp.doip w with
  | .ok _ _ => deliveries polls w.sends w.inbox
  | .error _ _ => []

/-- A reply arrives that passes the checks of the code and does not repeat the request it is
received for. -/
def Misattributes (env : PyEnv) (catalog : Catalog) (w : World) : Activity → Prop
  | .poll _ => ∃ comp ∈ catalog.components.get pollComponent,
      ∃ x ∈ roundDeliveries env comp w, x.1.Accepts comp.dids x.2 ∧ ¬ x.1.Echoed x.2
  | .call componentId call => ∃ comp ∈ catalog.components.get componentId,
      ∃ n ∈ call.number, ∃ resp ∈ (exchange env comp w).payload,
        call.HasFormat resp ∧ ¬ call.Echoed n resp

instance (env : PyEnv) (catalog : Catalog) (w : World) :
    (activity : Activity) → Decidable (Misattributes env catalog w activity)
  | .poll _ => inferInstanceAs (Decidable (∃ comp ∈ _, ∃ x ∈ _, _ ∧ _))
  | .call _ _ => inferInstanceAs (Decidable (∃ comp ∈ _, ∃ n ∈ _, ∃ resp ∈ _, _ ∧ _))

/-- A step attributes its replies correctly: what it records and what it responds was decoded from a
reply that repeats the request. -/
structure Attributed (env : PyEnv) (catalog : Catalog) (w : World) (e : Event) : Prop where
  histories : SourcesEcho ((stubCda env catalog).step w e)
  responses : ∀ componentId call, e.activity = .call componentId call → ∀ response w',
    call.run env catalog componentId (w.linked e.link) = .ok response w' →
    ∃ comp n resp, catalog.components.get componentId = some comp ∧ call.number = some n ∧
      exchange env comp (w.linked e.link) = .reply resp ∧
      call.decode comp n resp = .ok response ∧ call.Echoed n resp

variable {env : PyEnv} {catalog : Catalog} {w : World}

theorem sourcesEcho_linked_iff (w : World) (link : Link) :
    SourcesEcho (w.linked link) ↔ SourcesEcho w :=
  ⟨fun h => h.congr rfl rfl, fun h => h.congr rfl rfl⟩

theorem sourcesEcho_poll_iff (env : PyEnv) (catalog : Catalog) (ts : Int) {w : World}
    (h : SourcesEcho w) :
    SourcesEcho (w.perform env catalog (.poll ts)) ↔ ¬ Misattributes env catalog w (.poll ts) := by
  rw [World.perform, Misattributes, pollEcuOnce_eq]
  cases hc : catalog.components.get pollComponent with
  | none => simpa [finalWorld] using h
  | some comp =>
    rcases openClient_cases env comp.doip w with ho | ⟨e, ho⟩
    · have hall := sourcesEcho_pollAll_iff comp.dids ts polls (fun _ hp => hp) w
      have hround : roundDeliveries env comp w = deliveries polls w.sends w.inbox := by
        rw [roundDeliveries, ho]
      rw [← hround] at hall
      simp only [finalWorld, ho, hall, h, true_and]
      simp
    · have hround : roundDeliveries env comp w = [] := by rw [roundDeliveries, ho]
      simpa [finalWorld, ho, hround] using h

/-- What an endpoint does never touches the histories. -/
theorem sourcesEcho_call (env : PyEnv) (catalog : Catalog) (componentId : String) (call : Call)
    {w : World} (h : SourcesEcho w) :
    SourcesEcho (w.perform env catalog (.call componentId call)) := by
  rw [World.perform]
  obtain hw | ⟨request, hw⟩ := Call.finalWorld_run env catalog componentId call w
  · rwa [hw]
  · rwa [hw, sourcesEcho_exchanged_iff]

theorem attributed_iff (h : SourcesEcho w) (e : Event) :
    Attributed env catalog w e ↔ ¬ Misattributes env catalog (w.linked e.link) e.activity := by
  have hlinked : SourcesEcho (w.linked e.link) := (sourcesEcho_linked_iff w e.link).mpr h
  obtain ⟨link, activity⟩ := e
  cases activity with
  | poll ts =>
    rw [← sourcesEcho_poll_iff env catalog ts hlinked]
    refine ⟨fun ha => ha.histories, fun hs => ⟨hs, ?_⟩⟩
    rintro componentId call hcall
    cases hcall
  | call componentId call =>
    constructor
    · -- a reply that passes the checks makes a response, whatever it repeats
      rintro ha ⟨comp, hc, n, hn, resp, hx, hformat, hecho⟩
      have hx : exchange env comp (w.linked link) = .reply resp :=
        Exchange.payload_eq_some_iff.mp hx
      obtain ⟨response, w', hrun⟩ := hformat.exists_run_eq_ok hc hn hx
      obtain ⟨comp', n', resp', hc', hn', hx', -, hecho'⟩ :=
        ha.responses componentId call rfl response w' hrun
      obtain rfl : comp = comp' := Option.some.inj ((Option.mem_def.mp hc).symm.trans hc')
      obtain rfl : n = n' := Option.some.inj ((Option.mem_def.mp hn).symm.trans hn')
      obtain rfl : resp = resp' := Exchange.reply.inj (hx.symm.trans hx')
      exact hecho hecho'
    · intro hm
      refine ⟨sourcesEcho_call env catalog componentId call hlinked, ?_⟩
      rintro componentId call ⟨rfl, rfl⟩ response w' hrun
      obtain ⟨comp, n, resp, hc, hn, hx, hdecode⟩ := Call.exists_reply_of_run_eq_ok hrun
      refine ⟨comp, n, resp, hc, hn, hx, hdecode, ?_⟩
      by_contra hecho
      exact hm ⟨comp, hc, n, hn, resp, Exchange.payload_eq_some_iff.mpr hx,
        Call.exists_decode_eq_ok_iff.mp ⟨response, hdecode⟩, hecho⟩

/-- The request for 0x1CF10 asks for CF10, whose reply is then returned for 0x1CF10. -/
example : Misattributes .blank shippedCatalog
    (.receiving [.reply (some [0x62, 0xCF, 0x10, 0, 0, 0, 90])])
    (.call "openbsw-ecu" (.readData "0x1CF10")) := by
  decide

/-- Whatever arrives, the histories hold samples and snapshots that were decoded from a reply. -/
theorem historiesDecoded_of_reachable (hr : (stubCda env catalog).Reachable w) :
    HistoriesDecoded catalog w := by
  refine (historyInvariant_historiesDecoded catalog).of_reachable ?_ hr
  rintro w ⟨hsensor, hfault, hsamples, hsnapshots⟩
  constructor
  · simp [hsamples]
  · simp [hsnapshots]
  · simp [hsensor, Dict.get]
  · simp [hfault]

/-- As long as no reply arrives that passes the checks without repeating its request, everything
that is recorded or responded was decoded from a reply that repeats it; and the next step keeps it
so exactly when no such reply arrives in it. -/
theorem attribution_of_reachable (env : PyEnv) (catalog : Catalog) {w : World}
    (hr : ((stubCda env catalog).restrict fun w e =>
      ¬ Misattributes env catalog (w.linked e.link) e.activity).Reachable w) :
    HistoriesDecoded catalog w ∧ SourcesEcho w ∧
    ∀ e, Attributed env catalog w e ↔
      ¬ Misattributes env catalog (w.linked e.link) e.activity := by
  have hi : SourcesEcho w := by
    refine hr.invariant (I := SourcesEcho) ?_ ?_
    · rintro w ⟨-, -, hsamples, hsnapshots⟩
      constructor
      · simp [hsamples]
      · simp [hsnapshots]
    · rintro w e h ⟨-, hg⟩
      exact ((attributed_iff h e).mpr hg).histories
  exact ⟨historiesDecoded_of_reachable hr.of_restrict, hi, attributed_iff hi⟩

/-- A connection that delivers `replies` and then times out. -/
def Link.delivering (replies : List (Option (List UInt8))) : Link where
  connect := none
  sends := []
  inbox := replies.map .reply
  close := none

/-- The replies to the three DIDs and to the faults, in their order. -/
def repliesInOrder : List (Option (List UInt8)) :=
  [some [0x62, 0xCF, 0x10, 0, 0, 0, 90], some [0x62, 0xCF, 0x11, 0, 0, 0, 128],
    some [0x62, 0xCF, 0x12, 0, 0, 0, 60], some [0x59, 0x02, 0xFF]]

theorem attribution_of_replies_in_order :
    SourcesEcho (([⟨.delivering repliesInOrder, .poll 1000⟩] : List Event).foldl
      (stubCda .blank shippedCatalog).step (.receiving [])) :=
  (attribution_of_reachable .blank shippedCatalog
    ⟨_, _, ⟨rfl, rfl, rfl, rfl⟩, .of_enabledAll (by decide)⟩).2.1

/-- The reply to the first DID is late, and so every reply is taken for the one before it. -/
theorem not_attribution_of_late_reply :
    ¬ ∀ (env : PyEnv) (catalog : Catalog) (w : World), (stubCda env catalog).Reachable w →
      SourcesEcho w := by
  intro hall
  let late : Link := .delivering (none :: repliesInOrder)
  have hr : (stubCda .blank shippedCatalog).Reachable
      ((stubCda .blank shippedCatalog).step (.receiving []) ⟨late, .poll 1000⟩) :=
    .step (.init ⟨rfl, rfl, rfl, rfl⟩) trivial
  have hlinked : SourcesEcho ((World.receiving []).linked late) :=
    ⟨fun _ _ _ hm => absurd hm List.not_mem_nil, fun _ _ hm => absurd hm List.not_mem_nil⟩
  -- the sample of 0xCF10 is recorded for 0xCF11
  have hm : Misattributes .blank shippedCatalog ((World.receiving []).linked late)
      (.poll 1000) := by
    decide
  have hs := hall _ _ _ hr
  rw [stubCda_step, sourcesEcho_poll_iff _ _ 1000 hlinked] at hs
  exact hs hm

end SovdDemo.Cda
