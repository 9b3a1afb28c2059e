import SovdDemo.Doip.AliveCheck

/-!
# How long does an alive check wait?

`startAliveCheck` arms the one timer of the handler with the alive-check timeout, and `timerExpired`
announces that no response came within it. But every header of the right version arms the same timer
again, with the general inactivity timeout and whether or not a check is pending: so a tester that
keeps sending anything puts the end of the check off. The header of a response does so too, and ends
the check only once its payload has come in. `Idles` is what the other steps do to the timer.

## Main definitions

- `KeepsDeadline` — from an alive check on, the timer is the one the check has armed
- `Postpones` — the steps that arm or disarm the timer while the check is pending

## Main results

- `waits_step` — what one step does to the timer of a pending alive check
- `keepsDeadline_iff_of_run` — the deadline is kept exactly when no step of the run postpones it
-/

namespace SovdDemo.Doip

open Foundations DoIpServerConnectionHandler

/-- What a call does to the timer: it is cancelled, or armed with a timeout. -/
def Call.timing : Call → Option (Option UInt32)
  | .timerCancel => some none
  | .timerSchedule timeoutInMs => some (some timeoutInMs)
  | _ => none

/-- The event does not start another alive check. -/
def Event.Waits : Event → Prop
  | .startAliveCheck _ => False
  | _ => True

instance : ∀ e : Event, Decidable e.Waits
  | .startAliveCheck _ => inferInstanceAs (Decidable False)
  | .headerReceived _ _ | .routingActivationRequestReceived _ _ | .aliveCheckResponseReceived _
  | .routingActivationCompleted _ _ _ | .connectionClosed _ | .timerExpired | .jobReleased _ _
  | .close | .sendNack _ _ _ | .shutdown => inferInstanceAs (Decidable True)

/-- The event is a header that arms the timer with the general inactivity timeout. -/
def RestartsInactivity (U : Upstream) (h : DoIpServerConnectionHandler) (e : Event) : Prop :=
  (∃ header answers, e = .headerReceived header answers) ∧
    .timerSchedule h.parameters.generalInactivityTimeout ∈ e.callsMade U h

/-- An alive check started in `h` has led to `g`, and the events `gs` from there to `t`: no header
has armed the timer, and nobody else has touched it either. -/
structure KeepsDeadline (U : Upstream) (h g : DoIpServerConnectionHandler) (gs : List Event)
    (t : DoIpServerConnectionHandler) : Prop where
  headers : (connection U).Along (fun k e => ¬ RestartsInactivity U k e) g gs
  untouched : Writes Call.timing g.calls t.calls []
  timer : t.timer = some h.parameters.aliveCheckTimeout

/-- The event is a header of the right version, or the call of `shutdown`, which disarms the
timer. -/
def Postpones (U : Upstream) (h : DoIpServerConnectionHandler) : Event → Prop
  | .headerReceived header _ => U.checkProtocolVersion header h.protocolVersion = true
  | .shutdown => True
  | _ => False

instance (U : Upstream) (h : DoIpServerConnectionHandler) : ∀ e, Decidable (Postpones U h e)
  | .headerReceived _ _ => inferInstanceAs (Decidable (_ = true))
  | .shutdown => inferInstanceAs (Decidable True)
  | .routingActivationRequestReceived _ _ | .aliveCheckResponseReceived _ | .startAliveCheck _
  | .routingActivationCompleted _ _ _ | .connectionClosed _ | .timerExpired | .jobReleased _ _
  | .close | .sendNack _ _ _ => inferInstanceAs (Decidable False)

/-! Operations that leave the timer alone -/

/-- An operation that does not touch the timer, unless it leads away from ACTIVE. -/
def Idles (h g : DoIpServerConnectionHandler) : Prop :=
  g.state = .active →
    h.state = .active ∧ Writes Call.timing h.calls g.calls [] ∧ g.timer = h.timer

namespace Idles

variable {h g k : DoIpServerConnectionHandler}

theorem refl (h : DoIpServerConnectionHandler) : Idles h h := fun hs => ⟨hs, .refl _, rfl⟩

theorem trans (hg : Idles h g) (hk : Idles g k) : Idles h k := by
  intro hs
  obtain ⟨hs', hcalls', htimer'⟩ := hk hs
  obtain ⟨hs'', hcalls, htimer⟩ := hg hs'
  exact ⟨hs'', hcalls.trans hcalls', htimer'.trans htimer⟩

theorem of_ne_active (hs : g.state ≠ .active) : Idles h g := fun hs' => absurd hs' hs

/-- Operations that leave the state and the timer what they are. -/
theorem of_eq (hs : g.state = h.state) (ht : g.timer = h.timer)
    (hc : Writes Call.timing h.calls g.calls []) : Idles h g :=
  fun hs' => ⟨hs.symm.trans hs', hc, ht⟩

theorem close (h : DoIpServerConnectionHandler) : Idles h h.close := by
  apply of_ne_active
  rw [h.close_state]
  decide

theorem sent (h : DoIpServerConnectionHandler) (slot : Nat) (free : List Nat)
    (payloadType : PayloadType) (payload : List UInt8) (closeAfterSend : Bool)
    (outcome : SendOutcome) :
    Idles h (h.sent slot free payloadType payload closeAfterSend outcome) := by
  cases closeAfterSend with
  | false =>
    refine of_eq rfl rfl ?_
    cases outcome <;> exact .append _ _
  | true => exact of_ne_active State.noConfusion

theorem admits : Admits Idles := by
  refine .of_trans refl trans ?_ (fun _ _ => of_eq rfl rfl (.refl _)) close
    fun _ _ => sent _ _ _
  intro h cs hcs
  have hquiet := Call.forall_of_isExchange (P := fun c => c.timing = none) rfl (fun _ _ _ => rfl)
    rfl (fun _ _ _ => rfl) (fun _ _ _ _ => rfl) hcs
  exact of_eq rfl rfl (.append_of_forall hquiet _)

theorem timerExpired_ne_active (h : DoIpServerConnectionHandler) :
    h.timerExpired.state ≠ .active := by
  rw [DoIpServerConnectionHandler.timerExpired]
  split
  · rw [close_state]
    decide
  · dsimp only
    rw [close_state]
    decide
  · next hs => exact hs

/-- What a step does first leaves the timer alone if it does not postpone the check, but for the
timer's own expiry. -/
theorem prepared {U : Upstream} {e : Event} (hp : ¬ Postpones U h e) (he : e ≠ .timerExpired) :
    Idles h (e.prepared U h) := by
  cases e with
  | headerReceived header answers =>
    have hv : ¬ U.checkProtocolVersion header h.protocolVersion = true := hp
    rw [Event.prepared, if_neg hv]
    exact refl h
  | aliveCheckResponseReceived payload =>
    rw [Event.prepared, answered]
    split
    · exact of_eq rfl rfl (.append _ [Call.ownerAliveCheckResponseReceived _])
    · exact of_eq rfl rfl (.refl _)
  | timerExpired => exact absurd rfl he
  | jobReleased job success => exact of_eq rfl rfl (.append _ [Call.poolRelease _])
  | shutdown => exact absurd trivial hp
  | _ => exact refl h

theorem step {U : Upstream} {e : Event} (ha : ¬ Activates h e)
    (hs : ¬ ∃ send, e = .startAliveCheck send) (hp : ¬ Postpones U h e) :
    Idles h (e.step U h) := by
  by_cases he : e = .timerExpired
  · subst he
    exact of_ne_active (timerExpired_ne_active _)
  · exact (prepared hp he).trans (admits.step ha hs)

end Idles

/-! Steps while a check is pending -/

/-- A step that postpones the check touches the timer. -/
theorem writes_timing_of_postpones {U : Upstream}
    (hU : ∀ h : DoIpServerConnectionHandler, h.state = .active → U.isRouting h = true)
    {h : DoIpServerConnectionHandler} {e : Event} (hp : Postpones U h e)
    (hs : (e.step U h).state = .active) :
    h.state = .active ∧ ∃ d ds, Writes Call.timing h.calls (e.step U h).calls (d :: ds) := by
  cases e with
  | headerReceived header answers =>
    have hv : U.checkProtocolVersion header h.protocolVersion = true := hp
    have hstep := Idles.admits.headerReceived h U header answers
    rw [Event.prepared, if_pos hv] at hstep
    obtain ⟨hs', hcalls, -⟩ := hstep hs
    rw [restarted_state] at hs'
    rw [restarted, if_pos (hU h hs')] at hcalls
    have htimer : Writes Call.timing h.calls
        (h.setTimer h.parameters.generalInactivityTimeout).calls
          [none, some h.parameters.generalInactivityTimeout] := .append _ _
    exact ⟨hs', _, _, htimer.trans hcalls⟩
  | shutdown => exact ⟨hs, none, [], .append _ _⟩
  | _ => exact hp.elim

/-- A step that leaves an alive check pending in ACTIVE finds it so, and touches the timer just when
it postpones the check. -/
theorem waits_step {U : Upstream}
    (hU : ∀ h : DoIpServerConnectionHandler, h.state = .active → U.isRouting h = true)
    {h : DoIpServerConnectionHandler} {e : Event} (hi : Tracked h) (hw : e.Waits)
    (hp : (e.step U h).aliveCheckPending = true) (hs : (e.step U h).state = .active) :
    (h.aliveCheckPending = true ∧ h.state = .active) ∧
      ∃ ds, Writes Call.timing h.calls (e.step U h).calls ds ∧ (ds = [] ↔ ¬ Postpones U h e) ∧
        (ds = [] → (e.step U h).timer = h.timer) := by
  have hstart : ¬ ∃ send, e = .startAliveCheck send := by
    rintro ⟨send, rfl⟩
    exact hw
  have hpending : h.aliveCheckPending = true := by
    by_contra hnot
    have hkept := (unanswered_step U (Bool.not_eq_true _ ▸ hnot) hstart).aliveCheckPending
    exact hnot (hkept.symm.trans hp)
  have hact : ¬ Activates h e :=
    not_activates h e (hi.pending hpending).1 (hi.pending hpending).2
  by_cases hpost : Postpones U h e
  · obtain ⟨hs', d, ds, hcalls⟩ := writes_timing_of_postpones hU hpost hs
    refine ⟨⟨hpending, hs'⟩, d :: ds, hcalls, ?_, fun hnil => absurd hnil (List.cons_ne_nil d ds)⟩
    exact iff_of_false (List.cons_ne_nil d ds) (not_not.mpr hpost)
  · obtain ⟨hs', hcalls, htimer⟩ := Idles.step hact hstart hpost hs
    exact ⟨⟨hpending, hs'⟩, [], hcalls, iff_of_true rfl hpost, fun _ => htimer⟩

/-- A step that does not touch the timer does not restart it. -/
theorem not_restartsInactivity {U : Upstream} {h : DoIpServerConnectionHandler} {e : Event}
    (hw : Writes Call.timing h.calls (e.step U h).calls []) : ¬ RestartsInactivity U h e := by
  rintro ⟨-, hm⟩
  have hnone := List.filterMap_eq_nil_iff.mp hw.filterMap_drop _ hm
  cases hnone

/-- What a run does to the timer while it leaves the check pending: nothing, just when no step
postpones the check. -/
theorem waits_run {U : Upstream}
    (hU : ∀ h : DoIpServerConnectionHandler, h.state = .active → U.isRouting h = true)
    {g t : DoIpServerConnectionHandler} {gs : List Event} (hr : (connection U).Run g gs t)
    (hi : Tracked g) (hw : ∀ e ∈ gs, e.Waits) (hp : t.aliveCheckPending = true)
    (hs : t.state = .active) :
    (g.aliveCheckPending = true ∧ g.state = .active) ∧
      ∃ ds, Writes Call.timing g.calls t.calls ds ∧
        (ds = [] ↔ (connection U).Along (fun k e => ¬ Postpones U k e) g gs) ∧
        (ds = [] → t.timer = g.timer ∧
          (connection U).Along (fun k e => ¬ RestartsInactivity U k e) g gs) := by
  induction hr with
  | nil g => exact ⟨⟨hp, hs⟩, [], .refl _, iff_of_true rfl trivial, fun _ => ⟨rfl, trivial⟩⟩
  | @cons g t e gs he _ ih =>
    have hwe : e.Waits := hw e List.mem_cons_self
    have hi' : Tracked (e.step U g) := (Event.account_step hi he).1
    obtain ⟨⟨hp', hs'⟩, ds', hcalls', hiff', htimer'⟩ :=
      ih hi' (fun e' he' => hw e' (List.mem_cons_of_mem e he')) hp hs
    obtain ⟨hhead, ds, hcalls, hiff, htimer⟩ := waits_step hU hi hwe hp' hs'
    refine ⟨hhead, ds ++ ds', hcalls.trans hcalls', ?_, ?_⟩
    · rw [List.append_eq_nil_iff]
      exact and_congr hiff hiff'
    · intro hnil
      obtain ⟨rfl, rfl⟩ := List.append_eq_nil_iff.mp hnil
      obtain ⟨ht, halong⟩ := htimer' rfl
      exact ⟨ht.trans (htimer rfl), not_restartsInactivity hcalls, halong⟩

/-- An alive check that is sent arms the timer with the alive-check timeout. -/
theorem timer_of_startAliveCheck {h : DoIpServerConnectionHandler} {send : SendOutcome}
    (hs : h.state = .active) (hs' : (h.startAliveCheck send).state = .active) :
    (h.startAliveCheck send).timer = some h.parameters.aliveCheckTimeout := by
  obtain ⟨hne, -⟩ | ⟨-, -, heq⟩ | ⟨-, slot, free, -, heq⟩ := h.startAliveCheck_cases send
  · exact absurd hs hne
  · rw [heq, close_state] at hs'
    cases hs'
  · rw [heq]
    rfl

/-- A pending alive check keeps its deadline exactly when, from its start on, no header of the right
version comes in and `shutdown` is not called. -/
theorem keepsDeadline_iff_of_run (U : Upstream)
    (hU : ∀ h : DoIpServerConnectionHandler, h.state = .active → U.isRouting h = true)
    {h₀ h t : DoIpServerConnectionHandler} {es gs : List Event} {send : SendOutcome}
    (hs : Started U h₀) (hr : (connection U).Run h₀ es h) (hactive : h.state = .active)
    (hr' : (connection U).Run ((Event.startAliveCheck send).step U h) gs t)
    (hw : ∀ e ∈ gs, e.Waits) (hp : t.aliveCheckPending = true) (ht : t.state = .active) :
    KeepsDeadline U h ((Event.startAliveCheck send).step U h) gs t ↔
      (connection U).Along (fun k e => ¬ Postpones U k e)
        ((Event.startAliveCheck send).step U h) gs := by
  have hi : Tracked h := tracked_of_run (tracked_of_started hs).1 hr
  have hi' : Tracked ((Event.startAliveCheck send).step U h) :=
    (Event.account_startAliveCheck hi send).1
  obtain ⟨⟨-, hg⟩, ds, hcalls, hiff, htimer⟩ := waits_run hU hr' hi' hw hp ht
  rw [← hiff]
  refine ⟨?_, ?_⟩
  · intro hk
    exact hcalls.filterMap_drop.symm.trans hk.untouched.filterMap_drop
  · rintro rfl
    obtain ⟨hkept, hheaders⟩ := htimer rfl
    exact ⟨hheaders, hcalls, hkept.trans (timer_of_startAliveCheck hactive hg)⟩

/-- While the alive check is pending, the connection releases its job, and the owner has a header
turned away. -/
theorem keepsDeadline_iff_sendNack :
    KeepsDeadline .iso13400 (resumedWith 2)
        ((Event.startAliveCheck (.released true)).step .iso13400 (resumedWith 2))
        [.sendNack 0x01 false .accepted]
        ([Event.sendNack 0x01 false .accepted].foldl (connection .iso13400).step
          ((Event.startAliveCheck (.released true)).step .iso13400 (resumedWith 2))) ↔
      (connection .iso13400).Along (fun k e => ¬ Postpones .iso13400 k e)
        ((Event.startAliveCheck (.released true)).step .iso13400 (resumedWith 2))
        [.sendNack 0x01 false .accepted] :=
  keepsDeadline_iff_of_run .iso13400 (fun _ hs => decide_eq_true hs) (started_resumedWith 2)
    (.nil _) (by decide) (.of_enabledAll (by decide)) (by decide) (by decide) (by decide)

/-- The acknowledgement of a diagnostic message is enough to put the end of the check off from half
a second to five minutes. -/
theorem not_keepsDeadline_positiveAck :
    ¬ ∀ U : Upstream, (∀ h, h.state = .active → U.isRouting h = true) → ∀ h₀ es h send gs t,
      Started U h₀ → (connection U).Run h₀ es h → h.state = .active →
        (connection U).Run ((Event.startAliveCheck send).step U h) gs t → (∀ e ∈ gs, e.Waits) →
          t.aliveCheckPending = true → t.state = .active →
            KeepsDeadline U h ((Event.startAliveCheck send).step U h) gs t := by
  intro hall
  have hkeeps := hall .iso13400 (fun _ hs => decide_eq_true hs) (resumedWith 2) [] (resumedWith 2)
    .accepted [.headerReceived ⟨2, 0xFD, .diagnosticMessagePositiveAck, 5⟩
      ⟨true, fun _ => false, .accepted⟩] _ (started_resumedWith 2) (.nil _) (by decide)
    (.of_enabledAll (by decide)) (by decide) (by decide) (by decide)
  exact absurd hkeeps.timer (by decide)

end SovdDemo.Doip
