import Mathlib.Data.List.Basic
import Mathlib.Tactic.Common

/-!
# Labelled transition systems

A system is a set of initial states, a guard that says which labels can occur in a state, and a
step function. Safety is proved by an invariant of the reachable states; `System.restrict` cuts a
system down to the runs whose steps all meet a further condition.

## Main definitions

- `System.Run` — the labels of a list can occur one after another
- `System.Reachable` — some run from an initial state ends here
- `System.restrict` — the same system, with fewer labels enabled
- `System.Along` — a property of single steps, at every step of a list of labels
- `System.Sometime` — a property of single steps, at some step

## Main results

- `System.Reachable.invariant` — an inductive predicate holds in every reachable state
- `System.Run.of_enabledAll` — a run on fixed labels, checked label by label
- `System.Run.along_congr` — what is equivalent at every enabled step is equivalent along every run
- `System.Run.iff_or_sometime` — what only certain steps bring about, and no step takes away
-/

namespace Foundations

/-- Initial states, the labels that can occur in a state, and where a label leads. -/
structure System (σ ε : Type*) where
  init : σ → Prop
  enabled : σ → ε → Prop
  step : σ → ε → σ

namespace System

variable {σ ε : Type*} (S : System σ ε)

/-- `S.Run s es t`: the labels `es` can occur in this order from `s`, and lead to `t`. -/
inductive Run : σ → List ε → σ → Prop
  | nil (s : σ) : Run s [] s
  | cons {s t : σ} {e : ε} {es : List ε} (he : S.enabled s e) (hr : Run (S.step s e) es t) :
      Run s (e :: es) t

/-- Some run from an initial state ends in `t`. -/
def Reachable (t : σ) : Prop := ∃ s es, S.init s ∧ S.Run s es t

/-- The runs of `S` whose steps all meet `guard`. -/
def restrict (guard : σ → ε → Prop) : System σ ε where
  init := S.init
  enabled s e := S.enabled s e ∧ guard s e
  step := S.step

variable {S}

theorem Run.append {s t u : σ} {es fs : List ε} (h : S.Run s es t) (h' : S.Run t fs u) :
    S.Run s (es ++ fs) u := by
  induction h with
  | nil _ => exact h'
  | cons he _ ih => exact .cons he (ih h')

theorem Run.single {s : σ} {e : ε} (he : S.enabled s e) : S.Run s [e] (S.step s e) :=
  .cons he (.nil _)

/-- A run on two lists of labels, one after the other, passes through a state between them. -/
theorem Run.exists_of_append {s t : σ} {es fs : List ε} (h : S.Run s (es ++ fs) t) :
    ∃ u, S.Run s es u ∧ S.Run u fs t := by
  induction es generalizing s with
  | nil => exact ⟨s, .nil s, h⟩
  | cons e es ih =>
    cases h with
    | cons he hr =>
      obtain ⟨u, hu, hu'⟩ := ih hr
      exact ⟨u, .cons he hu, hu'⟩

/-- The step that the `n`-th occurrence of a label takes, counted from 0. -/
theorem Run.exists_of_count [DecidableEq ε] {s t : σ} {es : List ε} {a : ε} {n : Nat}
    (h : S.Run s es t) (hn : n < es.count a) :
    ∃ fs gs u, es = fs ++ a :: gs ∧ fs.count a = n ∧ S.Run s fs u := by
  induction h generalizing n with
  | nil s => exact absurd hn (Nat.not_lt_zero n)
  | @cons s t e es he _ ih =>
    by_cases hea : e = a
    · subst hea
      cases n with
      | zero => exact ⟨[], es, s, rfl, rfl, .nil s⟩
      | succ n =>
        rw [List.count_cons_self] at hn
        obtain ⟨fs, gs, u, rfl, hcount, hr⟩ := ih (Nat.lt_of_succ_lt_succ hn)
        exact ⟨e :: fs, gs, u, rfl, by rw [List.count_cons_self, hcount], .cons he hr⟩
    · rw [List.count_cons_of_ne hea] at hn
      obtain ⟨fs, gs, u, rfl, hcount, hr⟩ := ih hn
      exact ⟨e :: fs, gs, u, rfl, by rw [List.count_cons_of_ne hea, hcount], .cons he hr⟩

/-- A property preserved by every enabled step is preserved by every run. -/
theorem Run.preserves {I : σ → Prop} (hstep : ∀ s e, I s → S.enabled s e → I (S.step s e))
    {s t : σ} {es : List ε} (h : S.Run s es t) (hs : I s) : I t := by
  induction h with
  | nil _ => exact hs
  | cons he _ ih => exact ih (hstep _ _ hs he)

theorem Reachable.init {s : σ} (h : S.init s) : S.Reachable s := ⟨s, [], h, .nil s⟩

theorem Reachable.run {s t : σ} {fs : List ε} (h : S.Reachable s) (hr : S.Run s fs t) :
    S.Reachable t := by
  obtain ⟨s₀, es, h₀, hs⟩ := h
  exact ⟨s₀, es ++ fs, h₀, hs.append hr⟩

theorem Reachable.step {s : σ} {e : ε} (h : S.Reachable s) (he : S.enabled s e) :
    S.Reachable (S.step s e) := h.run (.single he)

/-- An inductive predicate holds in every reachable state. -/
theorem Reachable.invariant {I : σ → Prop} (hinit : ∀ s, S.init s → I s)
    (hstep : ∀ s e, I s → S.enabled s e → I (S.step s e)) {t : σ} (h : S.Reachable t) : I t := by
  obtain ⟨s, es, hs, hr⟩ := h
  exact hr.preserves hstep (hinit s hs)

variable (S) in
/-- Each label can occur when its turn comes. -/
def EnabledAll : σ → List ε → Prop
  | _, [] => True
  | s, e :: es => S.enabled s e ∧ EnabledAll (S.step s e) es

instance decidableEnabledAll [∀ s e, Decidable (S.enabled s e)] :
    ∀ s es, Decidable (S.EnabledAll s es)
  | _, [] => inferInstanceAs (Decidable True)
  | s, e :: es =>
    have := decidableEnabledAll (S.step s e) es
    inferInstanceAs (Decidable (_ ∧ _))

instance [∀ s e, Decidable (S.enabled s e)] (guard : σ → ε → Prop) [∀ s e, Decidable (guard s e)]
    (s : σ) (e : ε) : Decidable ((S.restrict guard).enabled s e) :=
  inferInstanceAs (Decidable (_ ∧ _))

/-- A list of labels that are enabled in turn is a run. -/
theorem Run.of_enabledAll {s : σ} {es : List ε} (h : S.EnabledAll s es) :
    S.Run s es (es.foldl S.step s) := by
  induction es generalizing s with
  | nil => exact .nil s
  | cons e es ih => exact .cons h.1 (ih h.2)

theorem Run.of_restrict {guard : σ → ε → Prop} {s t : σ} {es : List ε}
    (h : (S.restrict guard).Run s es t) : S.Run s es t := by
  induction h with
  | nil _ => exact .nil _
  | cons he _ ih => exact .cons he.1 ih

theorem Reachable.of_restrict {guard : σ → ε → Prop} {t : σ}
    (h : (S.restrict guard).Reachable t) : S.Reachable t := by
  obtain ⟨s, es, hs, hr⟩ := h
  exact ⟨s, es, hs, hr.of_restrict⟩

/-! Properties of steps -/

variable (S) in
/-- Every step that the labels of a list take satisfies `P`. -/
def Along (P : σ → ε → Prop) : σ → List ε → Prop
  | _, [] => True
  | s, e :: es => P s e ∧ Along P (S.step s e) es

instance decidableAlong (P : σ → ε → Prop) [∀ s e, Decidable (P s e)] :
    ∀ s es, Decidable (S.Along P s es)
  | _, [] => inferInstanceAs (Decidable True)
  | s, e :: es =>
    have := decidableAlong P (S.step s e) es
    inferInstanceAs (Decidable (_ ∧ _))

/-- Two properties that agree at every enabled step agree along every run. -/
theorem Run.along_congr {P Q : σ → ε → Prop} (hpq : ∀ s e, S.enabled s e → (P s e ↔ Q s e))
    {s t : σ} {es : List ε} (h : S.Run s es t) : S.Along P s es ↔ S.Along Q s es := by
  induction h with
  | nil s => exact Iff.rfl
  | cons he _ ih => exact and_congr (hpq _ _ he) ih

variable (S) in
/-- Some step that the labels of a list take satisfies `P`. -/
def Sometime (P : σ → ε → Prop) : σ → List ε → Prop
  | _, [] => False
  | s, e :: es => P s e ∨ Sometime P (S.step s e) es

instance decidableSometime (P : σ → ε → Prop) [∀ s e, Decidable (P s e)] :
    ∀ s es, Decidable (S.Sometime P s es)
  | _, [] => inferInstanceAs (Decidable False)
  | s, e :: es =>
    have := decidableSometime P (S.step s e) es
    inferInstanceAs (Decidable (_ ∨ _))

/-- The step after a part of the labels has been taken. -/
theorem Run.sometime_append {P : σ → ε → Prop} {s u : σ} {fs gs : List ε} {e : ε}
    (h : S.Run s fs u) (hP : P u e) : S.Sometime P s (fs ++ e :: gs) := by
  induction h with
  | nil s => exact .inl hP
  | cons _ _ ih => exact .inr (ih hP)

/-- What the steps with `P` bring about, and no step takes away, holds at the end of a run just when
it held before or one of these steps was taken. -/
theorem Run.iff_or_sometime {I Q : σ → Prop} {P : σ → ε → Prop}
    (hI : ∀ s e, I s → S.enabled s e → I (S.step s e))
    (hQ : ∀ s e, I s → S.enabled s e → (Q (S.step s e) ↔ Q s ∨ P s e)) {s t : σ} {es : List ε}
    (h : S.Run s es t) (hs : I s) : Q t ↔ Q s ∨ S.Sometime P s es := by
  induction h with
  | nil s => exact (or_iff_left id).symm
  | cons he _ ih =>
    rw [ih (hI _ _ hs he), hQ _ _ hs he, or_assoc]
    rfl

end System

end Foundations
