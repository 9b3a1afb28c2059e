import SovdDemo.Cda.Attribution

/-!
# What the histories of the poller hold

Each history belongs to one request of a round. Whatever happens to the other requests, it grows by
what the reply to its own request decodes to, and it forgets what is older than its last 300
elements.

## Main definitions

- `Link.outcome` — what happens to a request of a round over a connection
- `Series` — a history, its request, and what a reply adds to it
- `sensorSeries`, `faultSeries` — the histories of the poller
- `RecentPast` — the histories hold the end of what has been decoded for them

## Main results

- `Series.items_run` — a history after a run
- `exists_link_outcome` — every assignment of outcomes to the requests of a round can happen
- `recentPast_of_run`
-/

namespace SovdDemo.Cda

open Foundations

/-! The outcomes of a round -/

/-- What happens to each request of a list, given what sending and receiving will do. -/
def outcomes : List Poll → List (Option PyException) → List Received → List (Poll × Exchange)
  | [], _, _ => []
  | poll :: ps, sends, inbox =>
    match sends.head? with
    | some (some e) => (poll, .sendFailed e) :: outcomes ps sends.tail inbox
    | _ => (poll, received inbox) :: outcomes ps sends.tail inbox.tail

/-- The first request takes the outcome of `sendAndReceive`, the others what is left. -/
theorem outcomes_cons (poll : Poll) (ps : List Poll) (w : World) (request : List UInt8) :
    outcomes (poll :: ps) w.sends w.inbox =
      (poll, sendAndReceive w) ::
        outcomes ps (w.exchanged request).sends (w.exchanged request).inbox := by
  rw [outcomes]
  rcases hs : w.sends.head? with _ | _ | e <;> simp [sendAndReceive, World.exchanged, hs]

theorem lookup_outcomes_eq_none {poll : Poll} {ps : List Poll} (h : poll ∉ ps)
    (sends : List (Option PyException)) (inbox : List Received) :
    (outcomes ps sends inbox).lookup poll = none := by
  induction ps generalizing sends inbox with
  | nil => rfl
  | cons q ps ih =>
    obtain ⟨hne, hps⟩ := not_or.mp (mt List.mem_cons.mpr h)
    have hbeq : (poll == q) = false := beq_eq_false_iff_ne.mpr hne
    rw [outcomes]
    split
    · rw [List.lookup_cons, hbeq]
      exact ih hps _ _
    · rw [List.lookup_cons, hbeq]
      exact ih hps _ _

/-- Whether the client can be created. -/
def Link.connects (env : PyEnv) (cfg : DoipConfig) (link : Link) : Except PyException Unit :=
  match intBase16 cfg.ecuLogicalAddress, intBase16 cfg.clientLogicalAddress with
  | none, _ => .error (invalidLiteral env cfg.ecuLogicalAddress)
  | some _, none => .error (invalidLiteral env cfg.clientLogicalAddress)
  | some _, some _ =>
    match link.connect with
    | some e => .error e
    | none => .ok ()

theorem openClient_linked (env : PyEnv) (cfg : DoipConfig) (w : World) (link : Link) :
    openClient env cfg (w.linked link) = resultIn (w.linked link) (link.connects env cfg) := by
  rw [Link.connects]
  cases he : intBase16 cfg.ecuLogicalAddress with
  | none => simp [openClient, parseInt, he, resultIn]
  | some a =>
    cases hc : intBase16 cfg.clientLogicalAddress with
    | none => simp [openClient, parseInt, he, hc, resultIn]
    | some b =>
      have hconnect : (w.linked link).connect = link.connect := rfl
      cases hl : link.connect with
      | none => simp [openClient, parseInt, he, hc, hconnect, hl, resultIn]
      | some e => simp [openClient, parseInt, he, hc, hconnect, hl, resultIn]

/-- What happens to a request of a round. -/
def Link.outcome (env : PyEnv) (comp : Component) (link : Link) (poll : Poll) : Exchange :=
  match link.connects env comp.doip with
  | .error e => .notConnected e
  | .ok () => ((outcomes polls link.sends link.inbox).lookup poll).getD .noReply

/-! Every assignment of outcomes -/

/-- What sending has to do for the outcome. -/
def Exchange.toSend : Exchange → Option PyException
  | .sendFailed e => some e
  | _ => none

/-- What receiving has to do for the outcome, if it comes to that. -/
def Exchange.toReceived : Exchange → Option Received
  | .receiveFailed e => some (.raises e)
  | .noReply => some (.reply none)
  | .reply payload => some (.reply (some payload))
  | .notConnected _ | .sendFailed _ => none

theorem outcomes_of_assignment (outcome : Poll → Exchange)
    (hconnected : ∀ poll e, outcome poll ≠ .notConnected e) (ps : List Poll) :
    outcomes ps (ps.map fun poll => (outcome poll).toSend)
      (ps.filterMap fun poll => (outcome poll).toReceived) =
        ps.map fun poll => (poll, outcome poll) := by
  induction ps with
  | nil => rfl
  | cons poll ps ih =>
    rw [List.map_cons, List.filterMap_cons, List.map_cons]
    cases hx : outcome poll with
    | notConnected e => exact absurd hx (hconnected poll e)
    | sendFailed e | receiveFailed e => exact congrArg ((poll, _) :: ·) ih
    | noReply => exact congrArg ((poll, _) :: ·) ih
    | reply payload => exact congrArg ((poll, _) :: ·) ih

/-- Whatever is to happen to the four requests of a round, some connection does it. -/
theorem exists_link_outcome (env : PyEnv) {comp : Component}
    (hecu : (intBase16 comp.doip.ecuLogicalAddress).isSome)
    (hclient : (intBase16 comp.doip.clientLogicalAddress).isSome) (outcome : Poll → Exchange)
    (hconnected : ∀ poll e, outcome poll ≠ .notConnected e) :
    ∃ link : Link, ∀ poll ∈ polls, link.outcome env comp poll = outcome poll := by
  obtain ⟨a, ha⟩ := Option.isSome_iff_exists.mp hecu
  obtain ⟨b, hb⟩ := Option.isSome_iff_exists.mp hclient
  refine ⟨⟨none, polls.map fun poll => (outcome poll).toSend,
    polls.filterMap fun poll => (outcome poll).toReceived, none⟩, ?_⟩
  intro poll hp
  rw [Link.outcome, Link.connects, ha, hb]
  dsimp only
  rw [outcomes_of_assignment outcome hconnected, List.lookup_graph outcome hp]
  rfl

/-! One history -/

/-- A history, the request it belongs to, and what a reply to this request adds to it. -/
structure Series (didCatalog : Dict DidInfo) (β : Type) where
  poll : Poll
  items : World → List β
  entry : Int → List UInt8 → Option β
  /-- the history is part of the two histories -/
  items_congr : ∀ {w w' : World}, w'.sensorHistory = w.sensorHistory →
    w'.faultHistory = w.faultHistory → items w' = items w
  /-- it does not grow beyond its length -/
  rtake_items : ∀ w, (items w).rtake maxHistory = items w
  recorded_self : ∀ w ts resp, items (w.recorded didCatalog ts poll resp) =
    (items w ++ (entry ts resp).toList).rtake maxHistory
  recorded_other : ∀ w ts q resp, q ∈ polls → q ≠ poll →
    items (w.recorded didCatalog ts q resp) = items w

/-- The polled DIDs have histories of their own. -/
theorem pollHex_injOn : ∀ d ∈ pollDids, ∀ d' ∈ pollDids, pollHex d = pollHex d' → d = d' := by
  decide

/-- The history of a DID. -/
def World.samples (w : World) (didHex : String) : BoundedDeque Sample maxHistory :=
  (w.sensorHistory.get didHex).getD .empty

theorem samples_recordSample (w : World) (didHex didHex' : String) (sample : Sample)
    (resp : List UInt8) :
    (w.recordSample didHex sample resp).samples didHex' =
      if didHex' = didHex then (w.samples didHex).append sample else w.samples didHex' := by
  rw [World.samples, World.recordSample]
  dsimp only
  rw [Dict.get_set]
  split
  · rfl
  · rfl

theorem samples_recordSnapshot (w : World) (snapshot : Snapshot) (resp : List UInt8)
    (didHex : String) : (w.recordSnapshot snapshot resp).samples didHex = w.samples didHex := by
  simp only [World.samples, World.recordSnapshot]

def sensorSeries (didCatalog : Dict DidInfo) {didStr : String} (hd : didStr ∈ pollDids) :
    Series didCatalog Sample where
  poll := .did didStr
  items w := (w.samples (pollHex didStr)).items
  entry ts resp := (sampleOf didCatalog didStr resp).map fun value => (ts, value)
  items_congr hs _ := by rw [World.samples, World.samples, hs]
  rtake_items w := (w.samples (pollHex didStr)).rtake_items
  recorded_self w ts resp := by
    rw [World.recorded]
    cases sampleOf didCatalog didStr resp with
    | none =>
      rw [Option.map_none, Option.toList_none, List.append_nil]
      exact (w.samples (pollHex didStr)).rtake_items.symm
    | some value =>
      dsimp only
      rw [samples_recordSample, if_pos rfl]
      exact BoundedDeque.items_append _ _
  recorded_other w ts q resp hq hne := by
    cases q with
    | did d =>
      have hhex : pollHex didStr ≠ pollHex d := fun he =>
        hne (congrArg Poll.did (pollHex_injOn _ (mem_polls_did hq) _ hd he.symm))
      dsimp only [World.recorded]
      split
      · rw [samples_recordSample, if_neg hhex]
      · rfl
    | faults =>
      dsimp only [World.recorded]
      split
      · rw [samples_recordSnapshot]
      · rfl

def faultSeries (didCatalog : Dict DidInfo) : Series didCatalog Snapshot where
  poll := .faults
  items w := w.faultHistory.items
  entry ts resp := (snapshotOf resp).map fun snapshot => (ts, snapshot)
  items_congr _ hf := by rw [hf]
  rtake_items w := w.faultHistory.rtake_items
  recorded_self w ts resp := by
    rw [World.recorded]
    cases snapshotOf resp with
    | none =>
      rw [Option.map_none, Option.toList_none, List.append_nil]
      exact w.faultHistory.rtake_items.symm
    | some snapshot => exact BoundedDeque.items_append _ _
  recorded_other w ts q resp _ hne := by
    cases q with
    | did d =>
      dsimp only [World.recorded]
      split
      · rfl
      · rfl
    | faults => exact absurd rfl hne

namespace Series

variable {didCatalog : Dict DidInfo} {β : Type} (S : Series didCatalog β)

/-- What the outcome of its request adds to a history. -/
def added (ts : Int) (x : Exchange) : List β := (x.payload.bind (S.entry ts)).toList

theorem rtake_append_nil (w : World) : (S.items w ++ []).rtake maxHistory = S.items w := by
  rw [List.append_nil, S.rtake_items]

/-- The request of the history. -/
theorem items_polled_self (w : World) (ts : Int) :
    S.items (w.polled didCatalog ts S.poll) =
      (S.items w ++ S.added ts (sendAndReceive w)).rtake maxHistory := by
  have hexchanged : S.items (w.exchanged S.poll.request) = S.items w := S.items_congr rfl rfl
  have hnone := S.rtake_append_nil w
  rw [World.polled]
  cases sendAndReceive w with
  | reply resp =>
    dsimp only
    rw [S.recorded_self, hexchanged]
    rfl
  | notConnected e | sendFailed e | receiveFailed e => exact hexchanged.trans hnone.symm
  | noReply => exact hexchanged.trans hnone.symm

/-- Any other request of the round. -/
theorem items_polled_other (w : World) (ts : Int) {q : Poll} (hq : q ∈ polls) (hne : q ≠ S.poll) :
    S.items (w.polled didCatalog ts q) = S.items w := by
  have hexchanged : S.items (w.exchanged q.request) = S.items w := S.items_congr rfl rfl
  rw [World.polled]
  split
  · rw [S.recorded_other _ ts q _ hq hne, hexchanged]
  · exact hexchanged

/-- A round changes a history through its own request only. -/
theorem items_pollAll (ts : Int) {ps : List Poll} (hps : ∀ q ∈ ps, q ∈ polls) (hnodup : ps.Nodup)
    (w : World) :
    S.items (w.pollAll didCatalog ts ps) =
      (S.items w ++ S.added ts (((outcomes ps w.sends w.inbox).lookup S.poll).getD .noReply)).rtake
        maxHistory := by
  induction ps generalizing w with
  | nil => exact (S.rtake_append_nil w).symm
  | cons q ps ih =>
    obtain ⟨hq, hps⟩ := List.forall_mem_cons.mp hps
    obtain ⟨hnot, hnodup⟩ := List.nodup_cons.mp hnodup
    obtain ⟨hsends, hinbox⟩ := polled_sends w didCatalog ts q
    have hrest := ih hps hnodup (w.polled didCatalog ts q)
    rw [hsends, hinbox] at hrest
    show S.items ((w.polled didCatalog ts q).pollAll didCatalog ts ps) = _
    rw [hrest, outcomes_cons q ps w q.request, List.lookup_cons]
    by_cases hself : S.poll = q
    · -- the rest of the round has other requests
      subst hself
      have hrest : S.added ts ((none : Option Exchange).getD .noReply) = [] := rfl
      rw [lookup_outcomes_eq_none hnot, hrest, S.items_polled_self, beq_self_eq_true,
        List.append_nil, rtake_rtake]
      rfl
    · have hbeq : (S.poll == q) = false := beq_eq_false_iff_ne.mpr hself
      rw [hbeq, S.items_polled_other w ts hq (Ne.symm hself)]

end Series

/-! Runs -/

/-- The catalog entries of the polled DIDs. -/
def pollDidCatalog (catalog : Catalog) : Dict DidInfo :=
  ((catalog.components.get pollComponent).map Component.dids).getD []

/-- The timestamp of a poll, and what happens to one of its requests. -/
def Event.outcome (env : PyEnv) (catalog : Catalog) (poll : Poll) (e : Event) :
    Option (Int × Exchange) :=
  match e.activity with
  | .poll ts => (catalog.components.get pollComponent).map fun comp =>
      (ts, e.link.outcome env comp poll)
  | .call _ _ => none

/-- A round over the connection `link`. -/
theorem perform_poll (env : PyEnv) (catalog : Catalog) (ts : Int) (w : World) (link : Link) :
    (w.linked link).perform env catalog (.poll ts) =
      match catalog.components.get pollComponent with
      | none => w.linked link
      | some comp =>
        match link.connects env comp.doip with
        | .error _ => w.linked link
        | .ok _ => (w.linked link).pollAll comp.dids ts polls := by
  rw [World.perform, pollEcuOnce_eq, finalWorld]
  cases catalog.components.get pollComponent with
  | none => rfl
  | some comp =>
    dsimp only
    rw [openClient_linked]
    cases link.connects env comp.doip <;> rfl

namespace Series

variable {env : PyEnv} {catalog : Catalog} {β : Type} (S : Series (pollDidCatalog catalog) β)

/-- What an event adds to a history. -/
def addedBy (env : PyEnv) (e : Event) : Option β :=
  (e.outcome env catalog S.poll).bind fun x => x.2.payload.bind (S.entry x.1)

/-- The endpoints leave the histories alone. -/
theorem items_perform_call (w : World) (componentId : String) (call : Call) :
    S.items (w.perform env catalog (.call componentId call)) = S.items w := by
  rw [World.perform]
  obtain hw | ⟨request, hw⟩ := Call.finalWorld_run env catalog componentId call w
  · rw [hw]
  · rw [hw]
    exact S.items_congr rfl rfl

/-- A poll appends what the outcome of the request decodes to. -/
theorem items_perform_poll (w : World) (link : Link) (ts : Int) :
    S.items ((w.linked link).perform env catalog (.poll ts)) =
      (S.items w ++ (S.addedBy env ⟨link, .poll ts⟩).toList).rtake maxHistory := by
  have hlinked : S.items (w.linked link) = S.items w := S.items_congr rfl rfl
  have hnone := S.rtake_append_nil w
  have hround := perform_poll env catalog ts w link
  cases hc : catalog.components.get pollComponent with
  | none =>
    have hadded : S.addedBy env ⟨link, .poll ts⟩ = none := by
      simp only [addedBy, Event.outcome, hc, Option.map_none, Option.bind_none]
    rw [hc] at hround
    rw [hround, hadded]
    exact hlinked.trans hnone.symm
  | some comp =>
    have hdids : pollDidCatalog catalog = comp.dids := by
      rw [pollDidCatalog, hc]
      rfl
    have hadded : S.addedBy env ⟨link, .poll ts⟩ =
        (link.outcome env comp S.poll).payload.bind (S.entry ts) := by
      simp only [addedBy, Event.outcome, hc, Option.map_some, Option.bind_some]
    rw [hc] at hround
    dsimp only at hround
    rw [hround, hadded, Link.outcome, ← hdids]
    cases link.connects env comp.doip with
    | error e => exact hlinked.trans hnone.symm
    | ok _ =>
      dsimp only
      rw [S.items_pollAll ts (fun _ hq => hq) (by decide), hlinked]
      rfl

theorem items_step (w : World) (e : Event) :
    S.items ((stubCda env catalog).step w e) =
      (S.items w ++ (S.addedBy env e).toList).rtake maxHistory := by
  obtain ⟨link, activity⟩ := e
  rw [stubCda_step]
  cases activity with
  | poll ts => exact S.items_perform_poll w link ts
  | call componentId call =>
    have hlinked : S.items (w.linked link) = S.items w := S.items_congr rfl rfl
    rw [S.items_perform_call, hlinked]
    exact (S.rtake_append_nil w).symm

/-- A run appends what the outcomes of the request decode to, one poll after the other. -/
theorem items_run {w w' : World} {es : List Event} (hr : (stubCda env catalog).Run w es w') :
    S.items w' = (S.items w ++ es.filterMap (S.addedBy env)).rtake maxHistory := by
  induction hr with
  | nil w => rw [List.filterMap_nil, List.append_nil, S.rtake_items]
  | @cons w w' e es _ _ ih =>
    have hadded : (e :: es).filterMap (S.addedBy env) =
        (S.addedBy env e).toList ++ es.filterMap (S.addedBy env) := by
      rw [List.filterMap_cons]
      cases S.addedBy env e <;> rfl
    rw [ih, S.items_step, rtake_rtake_append, hadded, List.append_assoc]

end Series

/-- The sample in the outcome of a request for a DID. -/
def decodeSample (didCatalog : Dict DidInfo) (didStr : String) (x : Int × Exchange) :
    Option Sample :=
  x.2.payload.bind fun resp => (sampleOf didCatalog didStr resp).map fun value => (x.1, value)

/-- The snapshot in the outcome of a request for the faults. -/
def decodeSnapshot (x : Int × Exchange) : Option Snapshot :=
  x.2.payload.bind fun resp => (snapshotOf resp).map fun snapshot => (x.1, snapshot)

/-- What the polls of a run decode from the outcomes of one request, poll by poll. -/
def decoded {β : Type} (env : PyEnv) (catalog : Catalog) (poll : Poll)
    (decode : Int × Exchange → Option β) (es : List Event) : List β :=
  es.filterMap fun e => (e.outcome env catalog poll).bind decode

/-- The histories hold the last 300 elements of what has been decoded for them, oldest first; all
elements of one poll carry its timestamp. -/
structure RecentPast (env : PyEnv) (catalog : Catalog) (es : List Event) (w : World) : Prop where
  sensors : ∀ didStr ∈ pollDids, (w.samples (pollHex didStr)).items =
    (decoded env catalog (.did didStr) (decodeSample (pollDidCatalog catalog) didStr) es).rtake
      maxHistory
  faults : w.faultHistory.items =
    (decoded env catalog .faults decodeSnapshot es).rtake maxHistory

/-- What is decoded from a request depends on its own outcomes only. -/
theorem decoded_congr {β : Type} {env : PyEnv} {catalog : Catalog} {poll : Poll}
    {es es' : List Event}
    (h : es'.map (Event.outcome env catalog poll) = es.map (Event.outcome env catalog poll))
    (decode : Int × Exchange → Option β) :
    decoded env catalog poll decode es' = decoded env catalog poll decode es := by
  have hmap : ∀ es, decoded env catalog poll decode es =
      (es.map (Event.outcome env catalog poll)).filterMap fun outcome => outcome.bind decode := by
    intro es
    rw [List.filterMap_map]
    rfl
  rw [hmap, hmap, h]

theorem recentPast_of_init {env : PyEnv} {catalog : Catalog} {w₀ w : World} {es : List Event}
    (hinit : (stubCda env catalog).init w₀) (hr : (stubCda env catalog).Run w₀ es w) :
    RecentPast env catalog es w := by
  obtain ⟨hsensor, hfault, -, -⟩ := hinit
  constructor
  · intro didStr hd
    have hempty : (w₀.samples (pollHex didStr)).items = [] := by
      rw [World.samples, hsensor]
      rfl
    have hrun := (sensorSeries (pollDidCatalog catalog) hd).items_run hr
    change (w.samples (pollHex didStr)).items =
      ((w₀.samples (pollHex didStr)).items ++ decoded env catalog (.did didStr)
        (decodeSample (pollDidCatalog catalog) didStr) es).rtake maxHistory at hrun
    rwa [hempty, List.nil_append] at hrun
  · have hrun := (faultSeries (pollDidCatalog catalog)).items_run hr
    change w.faultHistory.items = (w₀.faultHistory.items ++
      decoded env catalog .faults decodeSnapshot es).rtake maxHistory at hrun
    rwa [hfault, List.nil_append] at hrun

/-- After any run, each history is the recent past of its own request. Two runs in which the polls
and the outcomes of one request agree have the same history of it, whatever happens to the other
requests; and any outcomes of the four requests can come together. -/
theorem recentPast_of_run {env : PyEnv} {catalog : Catalog} {w₀ w : World} {es : List Event}
    (hinit : (stubCda env catalog).init w₀) (hr : (stubCda env catalog).Run w₀ es w) :
    RecentPast env catalog es w ∧
    (∀ {w₀' w' : World} {es' : List Event}, (stubCda env catalog).init w₀' →
      (stubCda env catalog).Run w₀' es' w' →
      (∀ didStr ∈ pollDids, es'.map (Event.outcome env catalog (.did didStr)) =
          es.map (Event.outcome env catalog (.did didStr)) →
        (w'.samples (pollHex didStr)).items = (w.samples (pollHex didStr)).items) ∧
      (es'.map (Event.outcome env catalog .faults) = es.map (Event.outcome env catalog .faults) →
        w'.faultHistory.items = w.faultHistory.items)) ∧
    ∀ comp : Component, (intBase16 comp.doip.ecuLogicalAddress).isSome →
      (intBase16 comp.doip.clientLogicalAddress).isSome →
      ∀ outcome : Poll → Exchange, (∀ poll e, outcome poll ≠ .notConnected e) →
        ∃ link : Link, ∀ poll ∈ polls, link.outcome env comp poll = outcome poll := by
  have h := recentPast_of_init hinit hr
  refine ⟨h, ?_, fun comp hecu hclient => exists_link_outcome env hecu hclient⟩
  intro w₀' w' es' hinit' hr'
  have h' := recentPast_of_init hinit' hr'
  constructor
  · intro didStr hd hsame
    rw [h.sensors didStr hd, h'.sensors didStr hd, decoded_congr hsame]
  · intro hsame
    rw [h.faults, h'.faults, decoded_congr hsame]

/-- Two polls, the second without a reply for the battery voltage. -/
theorem recentPast_of_two_polls :
    RecentPast .blank shippedCatalog
      [⟨.delivering repliesInOrder, .poll 1000⟩,
        ⟨.delivering (repliesInOrder.set 1 none), .poll 2000⟩]
      (([⟨.delivering repliesInOrder, .poll 1000⟩,
        ⟨.delivering (repliesInOrder.set 1 none), .poll 2000⟩] : List Event).foldl
          (stubCda .blank shippedCatalog).step (.receiving [])) :=
  (recentPast_of_run ⟨rfl, rfl, rfl, rfl⟩ (.cons trivial (.cons trivial (.nil _)))).1

end SovdDemo.Cda
