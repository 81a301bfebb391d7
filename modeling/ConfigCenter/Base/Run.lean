import Mathlib.Data.List.Basic
import Mathlib.Tactic.Tauto

/-!
# Runs of a deterministic state machine

Library `Base`. A machine is a step function on states and events; a run folds
it over a list of events. `Along` states a condition on every step of a run in
the state in which the step is taken, and `always_iff_along` reduces a property
of every state a run visits to such a condition on its steps.
-/

namespace ConfigCenter.Base

variable {σ ε : Type}

/-- The state a list of events leads to. -/
def run (step : σ → ε → σ) (s : σ) (es : List ε) : σ := es.foldl step s

/-- An empty run goes nowhere. -/
@[simp] theorem run_nil (step : σ → ε → σ) (s : σ) : run step s [] = s := rfl

/-- A run takes its first event first. -/
@[simp] theorem run_cons (step : σ → ε → σ) (s : σ) (e : ε) (es : List ε) :
    run step s (e :: es) = run step (step s e) es := rfl

/-- A run goes on from where its beginning ended. -/
theorem run_append (step : σ → ε → σ) (s : σ) (es fs : List ε) :
    run step s (es ++ fs) = run step (run step s es) fs :=
  List.foldl_append

/-- A run takes its last event last. -/
theorem run_concat (step : σ → ε → σ) (s : σ) (es : List ε) (e : ε) :
    run step s (es ++ [e]) = step (run step s es) e := by
  rw [run_append, run_cons, run_nil]

/-- States that some run from `init` ends in. -/
def Reachable (step : σ → ε → σ) (init s : σ) : Prop := ∃ es, run step init es = s

/-- `P` holds of every step of the run, in the state in which it is taken. -/
def Along (step : σ → ε → σ) (P : σ → ε → Prop) : σ → List ε → Prop
  | _, [] => True
  | s, e :: es => P s e ∧ Along step P (step s e) es

/-- Everything holds along an empty run. -/
@[simp] theorem along_nil (step : σ → ε → σ) (P : σ → ε → Prop) (s : σ) :
    Along step P s [] := True.intro

/-- Along a run: at its first event, and along the rest. -/
@[simp] theorem along_cons (step : σ → ε → σ) (P : σ → ε → Prop) (s : σ) (e : ε)
    (es : List ε) : Along step P s (e :: es) ↔ P s e ∧ Along step P (step s e) es := Iff.rfl

/-- A decidable condition can be checked along a run. -/
instance decidableAlong (step : σ → ε → σ) (P : σ → ε → Prop) [∀ s e, Decidable (P s e)] :
    ∀ s es, Decidable (Along step P s es)
  | _, [] => isTrue True.intro
  | s, e :: es =>
    have := decidableAlong step P (step s e) es
    inferInstanceAs (Decidable (P s e ∧ Along step P (step s e) es))

/-- A condition that ignores the state holds along every run of events with it. -/
theorem along_of_forall_mem (step : σ → ε → σ) {P : σ → ε → Prop} {es : List ε}
    (h : ∀ e ∈ es, ∀ s, P s e) (s : σ) : Along step P s es := by
  induction es generalizing s with
  | nil => exact True.intro
  | cons e es ih =>
    exact ⟨h e (by simp) s, ih (fun f hf ↦ h f (List.mem_cons_of_mem e hf)) (step s e)⟩

/-- Two conditions hold along a run when both do. -/
theorem along_and (step : σ → ε → σ) (P Q : σ → ε → Prop) (s : σ) (es : List ε) :
    Along step (fun s e ↦ P s e ∧ Q s e) s es ↔ Along step P s es ∧ Along step Q s es := by
  induction es generalizing s with
  | nil => simp
  | cons e es ih =>
    simp only [along_cons, ih]
    tauto

/-- A condition on every step splits at any point of the run. -/
theorem along_append (step : σ → ε → σ) (P : σ → ε → Prop) (s : σ) (es fs : List ε) :
    Along step P s (es ++ fs) ↔ Along step P s es ∧ Along step P (run step s es) fs := by
  induction es generalizing s with
  | nil => simp
  | cons e es ih => simp [ih, and_assoc]

/-- The condition on the last step is read in the state before it. -/
theorem along_concat (step : σ → ε → σ) (P : σ → ε → Prop) (s : σ) (es : List ε) (e : ε) :
    Along step P s (es ++ [e]) ↔ Along step P s es ∧ P (run step s es) e := by
  rw [along_append]
  simp

/-- A condition holds along a run when it holds of each step the run can be split at. -/
theorem along_iff_forall_split (step : σ → ε → σ) (P : σ → ε → Prop) (s : σ) (es : List ε) :
    Along step P s es ↔ ∀ pre e post, es = pre ++ e :: post → P (run step s pre) e := by
  constructor
  · rintro ha pre e post rfl
    exact ((along_append step P s pre (e :: post)).mp ha).2.1
  · intro h
    induction es generalizing s with
    | nil => exact True.intro
    | cons e es ih =>
      refine ⟨h [] e es rfl, ih (step s e) fun pre f post hes ↦ ?_⟩
      exact h (e :: pre) f post (by rw [hes, List.cons_append])

/-- Invariant rule: what every step with `P` preserves holds at the end of every run of
such steps. -/
theorem run_invariant_along {step : σ → ε → σ} {I : σ → Prop} {P : σ → ε → Prop} {s : σ}
    {es : List ε} (hs : I s) (hstep : ∀ s e, I s → P s e → I (step s e))
    (ha : Along step P s es) : I (run step s es) := by
  induction es generalizing s with
  | nil => exact hs
  | cons e es ih => exact ih (hstep s e hs ha.1) ha.2

/-- Invariant rule for steps without a condition. -/
theorem run_invariant {step : σ → ε → σ} {I : σ → Prop} {s : σ} (hs : I s)
    (hstep : ∀ s e, I s → I (step s e)) (es : List ε) : I (run step s es) :=
  run_invariant_along hs (fun t e h _ ↦ hstep t e h)
    (along_of_forall_mem step (P := fun _ _ ↦ True) (fun _ _ _ ↦ True.intro) s)

/-- Rule for conditions: where the invariant and the one condition give the other and keep
the invariant, the other holds along every run on which the one does. -/
theorem along_of_invariant {step : σ → ε → σ} {I : σ → Prop} {P Q : σ → ε → Prop} {s : σ}
    {es : List ε} (hs : I s)
    (hstep : ∀ s, ∀ e ∈ es, I s → P s e → Q s e ∧ I (step s e)) (ha : Along step P s es) :
    Along step Q s es := by
  induction es generalizing s with
  | nil => exact True.intro
  | cons e es ih =>
    obtain ⟨hq, hi⟩ := hstep s e (by simp) hs ha.1
    exact ⟨hq, ih hi (fun t f hf ↦ hstep t f (List.mem_cons_of_mem e hf)) ha.2⟩

/-- A property `J` is backed by an invariant `I`; steps with `P` keep the invariant and
steps without `P` break the property. Then `J` holds in every state a run visits exactly
when `P` holds of every step. Both may rest on what `Q` says of the steps. -/
theorem always_iff_along {step : σ → ε → σ} {I J : σ → Prop} {P Q : σ → ε → Prop} {s : σ}
    {es : List ε} (hs : I s) (hq : Along step Q s es) (hIJ : ∀ s, I s → J s)
    (hkeep : ∀ s, ∀ e ∈ es, Q s e → I s → P s e → I (step s e))
    (hbreak : ∀ s, ∀ e ∈ es, Q s e → I s → J (step s e) → P s e) :
    (∀ pre, pre <+: es → J (run step s pre)) ↔ Along step P s es := by
  induction es generalizing s with
  | nil =>
    simp only [List.prefix_nil, forall_eq, run_nil]
    exact ⟨fun _ ↦ True.intro, fun _ ↦ hIJ s hs⟩
  | cons e es ih =>
    have hrest := fun hp ↦ ih (hkeep s e (by simp) hq.1 hs hp) hq.2
      (fun t f hf ↦ hkeep t f (List.mem_cons_of_mem e hf))
      (fun t f hf ↦ hbreak t f (List.mem_cons_of_mem e hf))
    constructor
    · intro h
      have hp : P s e := hbreak s e (by simp) hq.1 hs (h [e] (by simp))
      refine ⟨hp, (hrest hp).mp ?_⟩
      intro pre hpre
      exact h (e :: pre) (List.cons_prefix_cons.mpr ⟨rfl, hpre⟩)
    · rintro ⟨hp, ha⟩ pre hpre
      cases pre with
      | nil => exact hIJ s hs
      | cons f pre =>
        obtain ⟨rfl, htail⟩ := List.cons_prefix_cons.mp hpre
        exact (hrest hp).mpr ha pre htail

/-- The rule for a property that is its own invariant: where it holds, a step keeps it exactly
when it has `P`. -/
theorem always_iff_along_of_iff {step : σ → ε → σ} {I : σ → Prop} {P : σ → ε → Prop} {s : σ}
    {es : List ε} (hs : I s) (hstep : ∀ s, ∀ e ∈ es, I s → (I (step s e) ↔ P s e)) :
    (∀ pre, pre <+: es → I (run step s pre)) ↔ Along step P s es :=
  always_iff_along (Q := fun _ _ ↦ True) hs
    (along_of_forall_mem step (fun _ _ _ ↦ True.intro) s) (fun _ h ↦ h)
    (fun s e he _ hi ↦ (hstep s e he hi).mpr) (fun s e he _ hi ↦ (hstep s e he hi).mp)

/-- A member that is written back where it was leaves a list of states as it is. -/
theorem set_of_getElem? {states : List σ} {i : Nat} {s : σ} (h : states[i]? = some s) :
    states.set i s = states := by
  obtain ⟨hi, rfl⟩ := List.getElem?_eq_some_iff.mp h
  exact List.set_getElem_self hi

end ConfigCenter.Base
