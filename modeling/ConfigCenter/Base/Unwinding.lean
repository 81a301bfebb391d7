import ConfigCenter.Base.Run

/-!
# Runs with outputs and what an observer learns from them

Library `Base`. Steps of a machine may emit outputs, of which an observer sees
some. `Unwinding` relates two states that the observer cannot tell apart: steps
it does not see keep the relation on one side alone and show it nothing, steps
it sees keep it on both sides and show it the same. Then the run without the
unseen steps shows the observer what the full run shows.
-/

namespace ConfigCenter.Base

variable {σ ε ω : Type}

/-- What the steps of a run emit, in order. -/
def outputs (step : σ → ε → σ) (emit : σ → ε → List ω) : σ → List ε → List ω
  | _, [] => []
  | s, e :: es => emit s e ++ outputs step emit (step s e) es

/-- `R` is kept by unseen steps on the left alone and by seen steps on both sides, and the
observer sees no difference. -/
structure Unwinding (step : σ → ε → σ) (emit : σ → ε → List ω) (sees : ε → Bool)
    (shows : ω → Bool) (R : σ → σ → Prop) : Prop where
  unseen : ∀ s t e, R s t → sees e = false → R (step s e) t ∧ (emit s e).filter shows = []
  seen : ∀ s t e, R s t → sees e = true →
    R (step s e) (step t e) ∧ (emit s e).filter shows = (emit t e).filter shows

/-- Unwinding rule: leaving out what the observer does not see changes nothing it sees. -/
theorem Unwinding.outputs_filter {step : σ → ε → σ} {emit : σ → ε → List ω} {sees : ε → Bool}
    {shows : ω → Bool} {R : σ → σ → Prop} (u : Unwinding step emit sees shows R) {s t : σ}
    (h : R s t) (es : List ε) :
    (outputs step emit s es).filter shows =
      (outputs step emit t (es.filter sees)).filter shows := by
  induction es generalizing s t with
  | nil => rfl
  | cons e es ih =>
    cases he : sees e with
    | false =>
      obtain ⟨hR, hout⟩ := u.unseen s t e h he
      rw [List.filter_cons_of_neg (by simp [he]), outputs, List.filter_append, hout,
        List.nil_append, ih hR]
    | true =>
      obtain ⟨hR, hout⟩ := u.seen s t e h he
      rw [List.filter_cons_of_pos he, outputs, outputs, List.filter_append, List.filter_append,
        hout, ih hR]

end ConfigCenter.Base
