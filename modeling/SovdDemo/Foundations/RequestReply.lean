import SovdDemo.Foundations.RefinementMapping

/-!
# Requests and replies over an unreliable line

A server answers requests and has a life of its own in between. A client sends it one request after
the other and waits for a reply after each. Requests and replies may get lost and replies may be
late, and the client takes the next reply that arrives for the answer to its last request. The line
keeps the order of the replies.

## Main definitions

- `Server` — what a server does by itself, and how it serves a request
- `Fate` — what happens to one request
- `Line` — the server, and the replies on their way to the client
- `transmitAll` — a client that sends its requests over a line
- `Server.returned` — the requests whose replies get back
- `Fate.Answered` — the client receives the reply to the request
- `Fate.Undisturbed` — and nothing happens to the server before it serves it
- `Fate.Prompt` — a reply is received for its own request or not at all

## Main results

- `server_transmitAll` — the server sees the requests that reach it
- `delivered_sublist` — the client receives replies of the server, each at most once and in order
- `exists_served_of_delivered` — behind every reply there is a state in which it was given
- `returned_of_undisturbed` — undisturbed requests are answered in one state
- `mem_delivered_transmit_iff` — what is received over a new line
- `transmit_of_prompt` — with prompt replies, the one to its own request
-/

namespace Foundations

variable {σ α κ ρ ξ : Type*}

/-- What a server does by itself, and how it serves a request. -/
structure Server (σ : Type*) (α : Type*) (κ : Type*) (ρ : Type*) where
  act : σ → α → σ
  serve : σ → κ → Option ρ × σ

inductive ServerEvent (α : Type*) (κ : Type*)
  | act (a : α)
  | serve (request : κ)
  deriving DecidableEq

namespace Server

variable (V : Server σ α κ ρ)

def step (s : σ) : ServerEvent α κ → σ
  | .act a => V.act s a
  | .serve request => (V.serve s request).2

def system (init : σ → Prop) : System σ (ServerEvent α κ) where
  init := init
  enabled _ _ := True
  step := V.step

/-- The requests that are served, each with the state in which it is. -/
def served (V : Server σ α κ ρ) : σ → List (ServerEvent α κ) → List (κ × σ)
  | _, [] => []
  | s, .act a :: es => V.served (V.act s a) es
  | s, .serve request :: es => (request, s) :: V.served (V.serve s request).2 es

/-- The replies that are given. -/
def replies (s : σ) (es : List (ServerEvent α κ)) : List ρ :=
  (V.served s es).filterMap fun x => (V.serve x.2 x.1).1

theorem served_append (s : σ) (es fs : List (ServerEvent α κ)) :
    V.served s (es ++ fs) = V.served s es ++ V.served (es.foldl V.step s) fs := by
  induction es generalizing s with
  | nil => rfl
  | cons e es ih =>
    cases e with
    | act a => exact ih (V.act s a)
    | serve request => exact congrArg ((request, s) :: ·) (ih _)

theorem replies_append (s : σ) (es fs : List (ServerEvent α κ)) :
    V.replies s (es ++ fs) = V.replies s es ++ V.replies (es.foldl V.step s) fs := by
  rw [replies, served_append, List.filterMap_append]
  rfl

@[simp] theorem served_map_act (s : σ) (as : List α) : V.served s (as.map .act) = [] := by
  induction as generalizing s with
  | nil => rfl
  | cons a as ih => exact ih _

theorem foldl_map_act (s : σ) (as : List α) :
    (as.map .act).foldl V.step s = as.foldl V.act s := by
  rw [List.foldl_map]
  rfl

theorem run_foldl (init : σ → Prop) (s : σ) (es : List (ServerEvent α κ)) :
    (V.system init).Run s es (es.foldl V.step s) := by
  induction es generalizing s with
  | nil => exact .nil s
  | cons e es ih => exact .cons trivial (ih _)

/-- The same list, put together step by step. -/
theorem served_eq_outputs (init : σ → Prop) (s : σ) (es : List (ServerEvent α κ)) :
    V.served s es = (V.system init).outputs (fun s e => V.served s [e]) s es := by
  induction es generalizing s with
  | nil => rfl
  | cons e es ih =>
    show _ = V.served s [e] ++ (V.system init).outputs _ (V.step s e) es
    rw [← ih]
    cases e <;> rfl

/-- What only grows from state to state grows from one served request to the next. -/
theorem served_pairwise {init : σ → Prop} {R : σ → σ → Prop} (hrefl : ∀ s, R s s)
    (htrans : ∀ {s t u}, R s t → R t u → R s u)
    (hstep : ∀ s e, (V.system init).Reachable s → R s (V.step s e)) {s : σ}
    (hs : (V.system init).Reachable s) (es : List (ServerEvent α κ)) :
    (∀ x ∈ V.served s es, R s x.2) ∧ (V.served s es).Pairwise fun x y => R x.2 y.2 := by
  induction es generalizing s with
  | nil => exact ⟨fun x hx => absurd hx List.not_mem_nil, .nil⟩
  | cons e es ih =>
    obtain ⟨hfrom, hpairwise⟩ := ih (hs.step (e := e) trivial)
    have hlater : ∀ x ∈ V.served (V.step s e) es, R s x.2 := fun x hx =>
      htrans (hstep s e hs) (hfrom x hx)
    cases e with
    | act a => exact ⟨hlater, hpairwise⟩
    | serve request =>
      exact ⟨List.forall_mem_cons.mpr ⟨hrefl s, hlater⟩, .cons hlater hpairwise⟩

/-- A request is served in a state that the server reaches. -/
theorem reachable_of_served {init : σ → Prop} {s : σ} (hs : (V.system init).Reachable s)
    {es : List (ServerEvent α κ)} {request : κ} {s' : σ} (h : (request, s') ∈ V.served s es) :
    (V.system init).Reachable s' := by
  induction es generalizing s with
  | nil => exact absurd h List.not_mem_nil
  | cons e es ih =>
    have hnext := hs.step (e := e) trivial
    cases e with
    | act a => exact ih hnext h
    | serve request' =>
      rcases List.mem_cons.mp h with h | h
      · exact (Prod.mk.inj h).2 ▸ hs
      · exact ih hnext h

end Server

/-! One request -/

/-- What waiting for a reply comes to. -/
inductive Receiving (ξ : Type*)
  | timesOut
  | raises (e : ξ)
  | next
  deriving DecidableEq, Repr

/-- What happens to a request. -/
structure Fate (α : Type*) (ξ : Type*) where
  /-- what the server does before -/
  before : List α
  /-- sending raises, and the client does not wait for a reply -/
  send : Option ξ
  /-- the request reaches the server -/
  reaches : Bool
  /-- the reply is not lost, but it may be late -/
  returns : Bool
  receive : Receiving ξ
  deriving DecidableEq, Repr

/-- What the server sees of a request. -/
def Fate.events (fate : Fate α ξ) (request : κ) : List (ServerEvent α κ) :=
  fate.before.map .act ++ if fate.reaches then [.serve request] else []

/-- The server, and the replies on their way to the client. -/
structure Line (σ : Type*) (ρ : Type*) where
  server : σ
  pending : List ρ

namespace Line

variable (V : Server σ α κ ρ) (line : Line σ ρ)

/-- The server has seen what it sees of the request. -/
def reached (request : κ) (fate : Fate α ξ) : Line σ ρ where
  server := (fate.events request).foldl V.step line.server
  pending := line.pending ++
    if fate.returns then V.replies line.server (fate.events request) else []

/-- The client waits: it takes the first reply that is there. -/
def receive : Receiving ξ → Except ξ (Option ρ) × Line σ ρ
  | .timesOut => (.ok none, line)
  | .raises e => (.error e, line)
  | .next =>
    match line.pending with
    | [] => (.ok none, line)
    | reply :: pending => (.ok (some reply), { line with pending := pending })

/-- One request, and what the client receives for it, unless sending raises. -/
def transmit (request : κ) (fate : Fate α ξ) : List (Except ξ (Option ρ)) × Line σ ρ :=
  match fate.send with
  | some _ => ([], line.reached V request fate)
  | none =>
    let (received, line) := (line.reached V request fate).receive fate.receive
    ([received], line)

/-- One request after the other. -/
def transmitAll (line : Line σ ρ) :
    List (κ × Fate α ξ) → List (Except ξ (Option ρ)) × Line σ ρ
  | [] => ([], line)
  | (request, fate) :: rest =>
    let (received, line) := line.transmit V request fate
    let (receivedRest, line) := line.transmitAll rest
    (received ++ receivedRest, line)

end Line

/-- The replies among what the client receives. -/
def delivered (received : List (Except ξ (Option ρ))) : List ρ :=
  received.filterMap fun r =>
    match r with
    | .ok reply => reply
    | .error _ => none

@[simp] theorem delivered_append (xs ys : List (Except ξ (Option ρ))) :
    delivered (xs ++ ys) = delivered xs ++ delivered ys := List.filterMap_append

/-- What the server sees of all requests. -/
def eventsOf (requests : List (κ × Fate α ξ)) : List (ServerEvent α κ) :=
  requests.flatMap fun x => x.2.events x.1

theorem served_events (V : Server σ α κ ρ) (s : σ) (request : κ) (fate : Fate α ξ) :
    V.served s (fate.events request) =
      if fate.reaches then [(request, fate.before.foldl V.act s)] else [] := by
  rw [Fate.events, V.served_append, V.served_map_act, V.foldl_map_act]
  split <;> rfl

theorem replies_events (V : Server σ α κ ρ) (s : σ) (request : κ) (fate : Fate α ξ) :
    V.replies s (fate.events request) =
      if fate.reaches then (V.serve (fate.before.foldl V.act s) request).1.toList else [] := by
  rw [Server.replies, served_events]
  split
  · cases hr : (V.serve (fate.before.foldl V.act s) request).1 <;> simp [hr]
  · rfl

theorem foldl_events (V : Server σ α κ ρ) (s : σ) (request : κ) (fate : Fate α ξ) :
    (fate.events request).foldl V.step s =
      if fate.reaches then (V.serve (fate.before.foldl V.act s) request).2
      else fate.before.foldl V.act s := by
  rw [Fate.events, List.foldl_append, V.foldl_map_act]
  split <;> rfl

/-- Only the requests that are sent are served. -/
theorem mem_of_mem_served {V : Server σ α κ ρ} {requests : List (κ × Fate α ξ)} {s s' : σ}
    {request : κ} (h : (request, s') ∈ V.served s (eventsOf requests)) :
    request ∈ requests.map Prod.fst := by
  induction requests generalizing s with
  | nil => exact absurd h List.not_mem_nil
  | cons x rest ih =>
    obtain ⟨request', fate⟩ := x
    change (request, s') ∈ V.served s (fate.events request' ++ eventsOf rest) at h
    rw [V.served_append, served_events] at h
    rcases List.mem_append.mp h with h | h
    · split at h
      · exact List.mem_cons.mpr (.inl (Prod.mk.inj (List.mem_singleton.mp h)).1)
      · exact absurd h List.not_mem_nil
    · exact List.mem_cons_of_mem _ (ih h)

/-- The requests that are served and whose replies are not lost, each with the state in which it is
served. -/
def Server.returned (V : Server σ α κ ρ) : σ → List (κ × Fate α ξ) → List (κ × σ)
  | _, [] => []
  | s, (request, fate) :: rest =>
    (if fate.returns then V.served s (fate.events request) else []) ++
      V.returned ((fate.events request).foldl V.step s) rest

theorem returned_sublist_served (V : Server σ α κ ρ) (s : σ) (requests : List (κ × Fate α ξ)) :
    (V.returned s requests).Sublist (V.served s (eventsOf requests)) := by
  induction requests generalizing s with
  | nil => exact .slnil
  | cons x rest ih =>
    obtain ⟨request, fate⟩ := x
    show List.Sublist _ (V.served s (fate.events request ++ eventsOf rest))
    rw [V.served_append, Server.returned]
    refine List.Sublist.append ?_ (ih _)
    split
    · exact .refl _
    · exact List.nil_sublist _

/-- Of a request that is not sent there is nothing to be seen. -/
theorem filterMap_returned_eq_nil {β : Type*} [DecidableEq κ] {V : Server σ α κ ρ} {s : σ}
    {requests : List (κ × Fate α ξ)} {request : κ} (h : request ∉ requests.map Prod.fst)
    (f : κ × σ → Option β) :
    ((V.returned s requests).filterMap fun x => if x.1 = request then f x else none) = [] := by
  refine List.filterMap_eq_nil_iff.mpr fun x hx => if_neg fun hsame => h ?_
  rw [← hsame]
  exact mem_of_mem_served ((returned_sublist_served V s requests).subset hx)

/-- Nothing happens to the server after the last request of a list has been served. -/
theorem eq_of_mem_served_concat {V : Server σ α κ ρ} {requests : List (κ × Fate α ξ)}
    {request : κ} (hnew : request ∉ requests.map Prod.fst) {fate : Fate α ξ} {s s' : σ}
    (h : (request, s') ∈ V.served s (eventsOf (requests ++ [(request, fate)]))) :
    (eventsOf (requests ++ [(request, fate)])).foldl V.step s = (V.serve s' request).2 := by
  have hevents : eventsOf (requests ++ [(request, fate)]) =
      eventsOf requests ++ fate.events request := by
    rw [eventsOf, List.flatMap_append]
    exact congrArg (_ ++ ·) (List.append_nil _)
  rw [hevents, V.served_append, List.mem_append] at h
  have hlast := h.resolve_left fun hm => hnew (mem_of_mem_served hm)
  rw [served_events] at hlast
  rw [hevents, List.foldl_append, foldl_events]
  split at hlast
  · rename_i hreaches
    rw [if_pos hreaches, (Prod.mk.inj (List.mem_singleton.mp hlast)).2]
  · exact absurd hlast List.not_mem_nil

namespace Line

variable {V : Server σ α κ ρ} (line : Line σ ρ)

theorem server_receive (receiving : Receiving ξ) :
    (line.receive receiving).2.server = line.server := by
  cases receiving with
  | timesOut | raises e => rfl
  | next =>
    rw [receive]
    cases line.pending <;> rfl

theorem server_transmit (request : κ) (fate : Fate α ξ) :
    (line.transmit V request fate).2.server =
      (fate.events request).foldl V.step line.server := by
  rw [transmit]
  cases fate.send with
  | some e => rfl
  | none => exact server_receive _ _

/-- The server sees the requests that reach it, and nothing else of the client. -/
theorem server_transmitAll (requests : List (κ × Fate α ξ)) :
    (line.transmitAll V requests).2.server =
      (eventsOf requests).foldl V.step line.server := by
  induction requests generalizing line with
  | nil => rfl
  | cons x rest ih =>
    obtain ⟨request, fate⟩ := x
    show ((line.transmit V request fate).2.transmitAll V rest).2.server =
      (fate.events request ++ eventsOf rest).foldl V.step line.server
    rw [ih, server_transmit, List.foldl_append]

theorem transmitAll_singleton (request : κ) (fate : Fate α ξ) :
    (line.transmitAll V [(request, fate)]).1 = (line.transmit V request fate).1 :=
  List.append_nil _

/-- Waiting takes a reply off the line, or leaves them all there. -/
theorem delivered_receive (receiving : Receiving ξ) :
    delivered [(line.receive receiving).1] ++ (line.receive receiving).2.pending =
      line.pending := by
  cases receiving with
  | timesOut | raises e => rfl
  | next =>
    rw [receive]
    cases hp : line.pending with
    | nil => exact hp
    | cons reply pending => rfl

theorem delivered_transmit (request : κ) (fate : Fate α ξ) :
    delivered (line.transmit V request fate).1 ++ (line.transmit V request fate).2.pending =
      (line.reached V request fate).pending := by
  rw [transmit]
  cases fate.send with
  | some e => rfl
  | none => exact delivered_receive _ _

/-- The client receives replies of the server, each at most once and in their order. -/
theorem delivered_sublist (requests : List (κ × Fate α ξ)) :
    (delivered (line.transmitAll V requests).1 ++
      (line.transmitAll V requests).2.pending).Sublist
        (line.pending ++ V.replies line.server (eventsOf requests)) := by
  induction requests generalizing line with
  | nil =>
    show line.pending.Sublist (line.pending ++ [])
    rw [List.append_nil]
  | cons x rest ih =>
    obtain ⟨request, fate⟩ := x
    have hrest := ih (line.transmit V request fate).2
    rw [server_transmit] at hrest
    have hreached : (line.reached V request fate).pending.Sublist
        (line.pending ++ V.replies line.server (fate.events request)) := by
      refine .append (.refl _) ?_
      split
      · exact .refl _
      · exact List.nil_sublist _
    show (delivered ((line.transmit V request fate).1 ++ _) ++ _).Sublist
      (line.pending ++ V.replies line.server (fate.events request ++ eventsOf rest))
    rw [delivered_append, List.append_assoc, V.replies_append, ← List.append_assoc line.pending]
    refine (List.Sublist.append (.refl _) hrest).trans ?_
    rw [← List.append_assoc, delivered_transmit]
    exact hreached.append (.refl _)

/-- Behind every reply that is received over a new line there is a request that was served. -/
theorem exists_served_of_delivered {s : σ} {requests : List (κ × Fate α ξ)} {reply : ρ}
    (h : reply ∈ delivered ((⟨s, []⟩ : Line σ ρ).transmitAll V requests).1) :
    ∃ x ∈ V.served s (eventsOf requests), (V.serve x.2 x.1).1 = some reply := by
  have hmem := (delivered_sublist (⟨s, []⟩ : Line σ ρ) (V := V) requests).subset
    (List.mem_append_left _ h)
  rw [List.nil_append] at hmem
  exact List.mem_filterMap.mp hmem

end Line

/-! A reply that is received -/

/-- The request is served, and the client waits for the reply, which gets back. -/
structure Fate.Answered (fate : Fate α ξ) : Prop where
  send : fate.send = none
  reaches : fate.reaches = true
  returns : fate.returns = true
  receive : fate.receive = .next

/-- The server does nothing before it serves the request, and the request is answered. -/
structure Fate.Undisturbed (fate : Fate α ξ) : Prop extends fate.Answered where
  before : fate.before = []

section Undisturbed

variable {V : Server σ α κ ρ} {s : σ} {requests : List (κ × Fate α ξ)}
  (h : ∀ x ∈ requests, x.2.Undisturbed ∧ (V.serve s x.1).2 = s)

include h

/-- Undisturbed requests that change nothing leave the server as it is. -/
theorem foldl_eventsOf_of_undisturbed : (eventsOf requests).foldl V.step s = s := by
  induction requests with
  | nil => rfl
  | cons x rest ih =>
    obtain ⟨request, fate⟩ := x
    obtain ⟨⟨hfate, hserve⟩, hrest⟩ := List.forall_mem_cons.mp h
    show (fate.events request ++ eventsOf rest).foldl V.step s = s
    rw [List.foldl_append, foldl_events, if_pos hfate.reaches, hfate.before]
    exact (congrArg ((eventsOf rest).foldl V.step) hserve).trans (ih hrest)

/-- They are all answered in one state. -/
theorem returned_of_undisturbed : V.returned s requests = requests.map fun x => (x.1, s) := by
  induction requests with
  | nil => rfl
  | cons x rest ih =>
    obtain ⟨request, fate⟩ := x
    obtain ⟨⟨hfate, hserve⟩, hrest⟩ := List.forall_mem_cons.mp h
    have hstate : (fate.events request).foldl V.step s = s := by
      rw [foldl_events, if_pos hfate.reaches, hfate.before]
      exact hserve
    rw [Server.returned, hstate, ih hrest, if_pos hfate.returns, served_events,
      if_pos hfate.reaches, hfate.before]
    rfl

end Undisturbed

/-- Over a new line, the reply that is received is the one to the request, and there is one just
when the request is answered. -/
theorem Line.mem_delivered_transmit_iff {V : Server σ α κ ρ} (s : σ) (request : κ)
    (fate : Fate α ξ) (reply : ρ) :
    reply ∈ delivered ((⟨s, []⟩ : Line σ ρ).transmit V request fate).1 ↔
      fate.Answered ∧ (V.serve (fate.before.foldl V.act s) request).1 = some reply := by
  have hpending : ((⟨s, []⟩ : Line σ ρ).reached V request fate).pending =
      if fate.returns ∧ fate.reaches then
        (V.serve (fate.before.foldl V.act s) request).1.toList else [] := by
    rw [reached, replies_events, List.nil_append]
    cases fate.returns <;> cases fate.reaches <;> rfl
  constructor
  · intro h
    have hmem : reply ∈ ((⟨s, []⟩ : Line σ ρ).reached V request fate).pending := by
      rw [← delivered_transmit]
      exact List.mem_append_left _ h
    rw [hpending] at hmem
    split at hmem
    · rename_i hback
      rw [transmit] at h
      cases hsend : fate.send with
      | some e =>
        rw [hsend] at h
        exact absurd h List.not_mem_nil
      | none =>
        rw [hsend] at h
        cases hreceive : fate.receive with
        | timesOut | raises e =>
          rw [hreceive] at h
          exact absurd h List.not_mem_nil
        | next => exact ⟨⟨hsend, hback.2, hback.1, hreceive⟩, Option.mem_toList.mp hmem⟩
    · exact absurd hmem List.not_mem_nil
  · rintro ⟨⟨hsend, hreaches, hreturns, hreceive⟩, hreply⟩
    rw [if_pos ⟨hreturns, hreaches⟩, hreply] at hpending
    rw [transmit, hsend, hreceive]
    show reply ∈ delivered [(((⟨s, []⟩ : Line σ ρ).reached V request fate).receive
      (.next : Receiving ξ)).1]
    rw [receive, hpending]
    exact List.mem_cons_self

/-! Prompt replies -/

/-- The client receives the reply to the request, or the reply is lost: none is late. -/
def Fate.Prompt (fate : Fate α ξ) : Prop :=
  fate.returns = true → fate.send = none ∧ fate.receive = .next

instance (fate : Fate α ξ) [DecidableEq ξ] : Decidable fate.Prompt :=
  inferInstanceAs (Decidable (_ → _))

namespace Line

variable {V : Server σ α κ ρ}

theorem pending_receive_next (line : Line σ ρ) :
    (line.receive (.next : Receiving ξ)).2.pending = line.pending.tail := by
  rw [receive]
  cases hp : line.pending with
  | nil => exact hp
  | cons reply pending => rfl

/-- With prompt replies the line is empty between two requests, and the client receives the reply to
its request if this gets back. -/
theorem transmit_of_prompt {fate : Fate α ξ} (h : fate.Prompt) (s : σ) (request : κ) :
    ((⟨s, []⟩ : Line σ ρ).transmit V request fate).2 =
        ⟨(fate.events request).foldl V.step s, []⟩ ∧
      delivered ((⟨s, []⟩ : Line σ ρ).transmit V request fate).1 =
        if fate.returns then V.replies s (fate.events request) else [] := by
  have hall := delivered_transmit (⟨s, []⟩ : Line σ ρ) (V := V) request fate
  have hreached : ((⟨s, []⟩ : Line σ ρ).reached V request fate).pending =
      if fate.returns then V.replies s (fate.events request) else [] := List.nil_append _
  rw [hreached] at hall
  have hempty : ((⟨s, []⟩ : Line σ ρ).transmit V request fate).2.pending = [] := by
    by_cases hreturns : fate.returns = true
    · -- there is one reply at most, and the client takes it
      obtain ⟨hsend, hreceive⟩ := h hreturns
      rw [transmit, hsend]
      show (((⟨s, []⟩ : Line σ ρ).reached V request fate).receive fate.receive).2.pending = []
      rw [hreceive, pending_receive_next, hreached, if_pos hreturns, replies_events]
      split
      · cases (V.serve (fate.before.foldl V.act s) request).1 <;> rfl
      · rfl
    · rw [if_neg hreturns] at hall
      exact (List.append_eq_nil_iff.mp hall).2
  rw [hempty, List.append_nil] at hall
  exact ⟨congrArg₂ Line.mk (server_transmit _ request fate) hempty, hall⟩

end Line

end Foundations
