import ConfigCenter.Base.Unwinding

/-!
# Queues and logs of a machine

Library `Base`. A machine into whose queue some elements enter and from which
some leave. Where each step conserves the queue, a run does: what was queued or
entered is what left, in order, followed by what is still queued.
-/

namespace ConfigCenter.Base

variable {σ ε α : Type} {step : σ → ε → σ} {queue : σ → List α} {enters : ε → List α}
  {leaves : σ → ε → List α}

/-- Run rule for queues. -/
theorem queue_run (h : ∀ s e, queue s ++ enters e = leaves s e ++ queue (step s e)) (s : σ)
    (es : List ε) :
    queue s ++ es.flatMap enters = outputs step leaves s es ++ queue (run step s es) := by
  induction es generalizing s with
  | nil => simp [outputs]
  | cons e es ih =>
    calc
      queue s ++ (e :: es).flatMap enters = (queue s ++ enters e) ++ es.flatMap enters := by
        rw [List.flatMap_cons, List.append_assoc]
      _ = leaves s e ++ (queue (step s e) ++ es.flatMap enters) := by
        rw [h, List.append_assoc]
      _ = outputs step leaves s (e :: es) ++ queue (run step s (e :: es)) := by
        rw [ih, outputs, run_cons, List.append_assoc]

/-- Run rule for logs, from which nothing leaves. -/
theorem log_run {log : σ → List α} (h : ∀ s e, log (step s e) = log s ++ enters e) (s : σ)
    (es : List ε) : log (run step s es) = log s ++ es.flatMap enters := by
  induction es generalizing s with
  | nil => simp
  | cons e es ih => rw [run_cons, ih, h, List.flatMap_cons, List.append_assoc]

/-- A selection of the outputs is the outputs of the selections. -/
theorem outputs_filterMap {β : Type} (f : α → Option β) (s : σ) (es : List ε) :
    (outputs step leaves s es).filterMap f =
      outputs step (fun s e ↦ (leaves s e).filterMap f) s es := by
  induction es generalizing s with
  | nil => rfl
  | cons e es ih => rw [outputs, List.filterMap_append, ih, outputs]

end ConfigCenter.Base
