import Mathlib.Data.List.Induction
import ConfigCenter.Base.Run

/-!
# Where facts of a run come from

Library `Base`. Steps of a machine add facts to its state and take facts away. A fact holds
after a run exactly when some step of the run added it and no later one took it away.
-/

namespace ConfigCenter.Base

variable {σ ε ρ : Type}

/-- The run has a step that adds the fact and no later step that removes it. -/
def Stems (step : σ → ε → σ) (adds removes : σ → ε → ρ → Prop) (s : σ) (es : List ε) (r : ρ) :
    Prop :=
  ∃ pre e post, es = pre ++ e :: post ∧ adds (run step s pre) e r ∧
    Along step (fun t f ↦ ¬ removes t f r) (run step s (pre ++ [e])) post

variable {step : σ → ε → σ} {adds removes : σ → ε → ρ → Prop} {s : σ} {r : ρ}

/-- Nothing stems from an empty run. -/
theorem not_stems_nil : ¬ Stems step adds removes s [] r := by
  rintro ⟨pre, e, post, hes, -⟩
  cases pre <;> cases hes

/-- The last step adds the fact, or it stems from the steps before and is not removed. -/
theorem stems_concat_iff (es : List ε) (e : ε) :
    Stems step adds removes s (es ++ [e]) r ↔ adds (run step s es) e r ∨
      Stems step adds removes s es r ∧ ¬ removes (run step s es) e r := by
  constructor
  · rintro ⟨pre, f, post, hes, hadds, hkept⟩
    rcases List.eq_nil_or_concat post with rfl | ⟨post, g, rfl⟩
    · obtain ⟨rfl, hlast⟩ := List.append_inj' hes rfl
      obtain rfl := List.singleton_inj.mp hlast
      exact .inl hadds
    · rw [List.concat_eq_append] at hes hkept
      rw [← List.cons_append, ← List.append_assoc] at hes
      obtain ⟨rfl, hlast⟩ := List.append_inj' hes rfl
      obtain rfl := List.singleton_inj.mp hlast
      rw [along_concat] at hkept
      refine .inr ⟨⟨pre, f, post, rfl, hadds, hkept.1⟩, ?_⟩
      rw [← run_append, List.append_assoc] at hkept
      exact hkept.2
  · rintro (hadds | ⟨⟨pre, f, post, rfl, hadds, hkept⟩, hremoves⟩)
    · exact ⟨es, e, [], rfl, hadds, True.intro⟩
    · refine ⟨pre, f, post ++ [e], by simp, hadds, ?_⟩
      rw [along_concat, ← run_append, List.append_assoc]
      exact ⟨hkept, hremoves⟩

/-- Provenance rule: where every step only adds and removes as it is said to, what holds after a
run stems from it. -/
theorem holds_run_iff_stems (holds : σ → ρ → Prop) (hs : ¬ holds s r)
    (hstep : ∀ t e, holds (step t e) r ↔ adds t e r ∨ holds t r ∧ ¬ removes t e r)
    (es : List ε) : holds (run step s es) r ↔ Stems step adds removes s es r := by
  induction es using List.reverseRecOn with
  | nil => exact iff_of_false hs not_stems_nil
  | append_singleton es e ih => rw [run_concat, hstep, stems_concat_iff, ih]

end ConfigCenter.Base
