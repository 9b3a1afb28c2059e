import SovdDemo.Foundations.Transition

/-!
# Refinement mappings

A refinement mapping takes the states of a system to those of another one, such that every step
becomes a run. The labels of these runs, put together, are what a run of the first system looks like
in the second; `System.outputs` puts together anything that the steps of a run give rise to.

## Main definitions

- `System.outputs` — what the steps of a run give rise to, in their order
- `RefinementMapping` — every step becomes a run with the labels that go with it

## Main results

- `System.Run.exists_matching` — runs that are matched step by step
- `RefinementMapping.run`, `RefinementMapping.reachable` — so does every run
- `RefinementMapping.outputs_outputs` — what a run gives rise to, seen from the other system
-/

namespace Foundations

variable {σ τ ε δ γ β : Type*}

namespace System

/-- What each step gives rise to, in the order of the labels. -/
def outputs (S : System σ ε) (out : σ → ε → List β) : σ → List ε → List β
  | _, [] => []
  | s, e :: es => out s e ++ S.outputs out (S.step s e) es

variable {S : System σ ε}

theorem Run.outputs_append {s u : σ} {fs : List ε} (h : S.Run s fs u) (out : σ → ε → List β)
    (gs : List ε) : S.outputs out s (fs ++ gs) = S.outputs out s fs ++ S.outputs out u gs := by
  induction h with
  | nil s => rfl
  | @cons s t e es he _ ih =>
    show out s e ++ S.outputs out (S.step s e) (es ++ gs) = _
    rw [ih, ← List.append_assoc]
    rfl

/-- Along a run, what the steps give rise to may be compared step by step. -/
theorem Run.outputs_sublist {s t : σ} {es : List ε} (h : S.Run s es t) {I : σ → Prop}
    {P : ε → Prop} {out out' : σ → ε → List β}
    (hI : ∀ s e, I s → S.enabled s e → I (S.step s e))
    (hout : ∀ s e, I s → S.enabled s e → P e → (out s e).Sublist (out' s e)) (hs : I s)
    (hes : ∀ e ∈ es, P e) : (S.outputs out s es).Sublist (S.outputs out' s es) := by
  induction h with
  | nil s => exact .slnil
  | cons he _ ih =>
    obtain ⟨hP, hes⟩ := List.forall_mem_cons.mp hes
    exact (hout _ _ hs he hP).append (ih (hI _ _ hs he) hes)

theorem Run.outputs_congr {s t : σ} {es : List ε} (h : S.Run s es t) {I : σ → Prop}
    {P : ε → Prop} {out out' : σ → ε → List β}
    (hI : ∀ s e, I s → S.enabled s e → I (S.step s e))
    (hout : ∀ s e, I s → S.enabled s e → P e → out s e = out' s e) (hs : I s)
    (hes : ∀ e ∈ es, P e) : S.outputs out s es = S.outputs out' s es := by
  induction h with
  | nil s => rfl
  | cons he _ ih =>
    obtain ⟨hP, hes⟩ := List.forall_mem_cons.mp hes
    exact congrArg₂ List.append (hout _ _ hs he hP) (ih (hI _ _ hs he) hes)

/-- Along a run, what holds of everything that a step gives rise to holds of all of it. -/
theorem Run.forall_mem_outputs {s t : σ} {es : List ε} (h : S.Run s es t) {I : σ → Prop}
    {out : σ → ε → List β} {Q : β → Prop}
    (hI : ∀ s e, I s → S.enabled s e → I (S.step s e))
    (hout : ∀ s e, I s → S.enabled s e → ∀ x ∈ out s e, Q x) (hs : I s) :
    ∀ x ∈ S.outputs out s es, Q x := by
  induction h with
  | nil s => exact fun x hx => absurd hx List.not_mem_nil
  | cons he _ ih =>
    intro x hx
    rcases List.mem_append.mp hx with hx | hx
    · exact hout _ _ hs he x hx
    · exact ih (hI _ _ hs he) x hx

theorem outputs_filterMap (out : σ → ε → List β) (f : β → Option γ) (s : σ) (es : List ε) :
    (S.outputs out s es).filterMap f = S.outputs (fun s e => (out s e).filterMap f) s es := by
  induction es generalizing s with
  | nil => rfl
  | cons e es ih =>
    show (out s e ++ S.outputs out (S.step s e) es).filterMap f = _
    rw [List.filterMap_append, ih]
    rfl

theorem outputs_map (out : σ → ε → List β) (f : β → γ) (s : σ) (es : List ε) :
    (S.outputs out s es).map f = S.outputs (fun s e => (out s e).map f) s es := by
  simpa only [List.filterMap_eq_map'] using outputs_filterMap out (fun x => some (f x)) s es

/-- If every step is matched by a run of another system, from any state related to the one before to
one related to the one after, then so is every run. -/
theorem Run.exists_matching {T : System τ δ} {R : σ → τ → Prop} {labels : ε → List δ}
    (hstep : ∀ {s t e}, R s t → S.enabled s e → ∃ t', T.Run t (labels e) t' ∧ R (S.step s e) t')
    {s s' : σ} {es : List ε} (h : S.Run s es s') {t : τ} (ht : R s t) :
    ∃ t', T.Run t (es.flatMap labels) t' ∧ R s' t' := by
  induction h generalizing t with
  | nil s => exact ⟨t, .nil t, ht⟩
  | cons he _ ih =>
    obtain ⟨u, hu, hR⟩ := hstep ht he
    obtain ⟨t', hr, hR'⟩ := ih hR
    exact ⟨t', hu.append hr, hR'⟩

end System

/-- `f` takes the states of `S` to states of `T`, and each step that a run of `S` can take to a run
on `labels`. -/
structure RefinementMapping (S : System σ ε) (T : System τ δ) (f : σ → τ)
    (labels : σ → ε → List δ) : Prop where
  init : ∀ {s}, S.init s → T.init (f s)
  step : ∀ {s e}, S.Reachable s → S.enabled s e → T.Run (f s) (labels s e) (f (S.step s e))

namespace RefinementMapping

variable {S : System σ ε} {T : System τ δ} {f : σ → τ} {labels : σ → ε → List δ}

theorem run (hf : RefinementMapping S T f labels) {s s' : σ} {es : List ε} (hs : S.Reachable s)
    (h : S.Run s es s') : T.Run (f s) (S.outputs labels s es) (f s') := by
  induction h with
  | nil s => exact .nil _
  | cons he _ ih => exact (hf.step hs he).append (ih (hs.step he))

theorem reachable (hf : RefinementMapping S T f labels) {s : σ} (h : S.Reachable s) :
    T.Reachable (f s) := by
  obtain ⟨s₀, es, h₀, hr⟩ := h
  exact ⟨f s₀, S.outputs labels s₀ es, hf.init h₀, hf.run (.init h₀) hr⟩

/-- What the runs of the other system give rise to can be read off the steps of this one. -/
theorem outputs_outputs (hf : RefinementMapping S T f labels) (out : τ → δ → List β) {s s' : σ}
    {es : List ε} (hs : S.Reachable s) (h : S.Run s es s') :
    T.outputs out (f s) (S.outputs labels s es) =
      S.outputs (fun s e => T.outputs out (f s) (labels s e)) s es := by
  induction h with
  | nil s => rfl
  | @cons s t e es he _ ih =>
    show T.outputs out (f s) (labels s e ++ S.outputs labels (S.step s e) es) = _
    rw [(hf.step hs he).outputs_append, ih (hs.step he)]
    rfl

end RefinementMapping

end Foundations
