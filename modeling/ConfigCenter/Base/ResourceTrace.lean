import Mathlib.Data.List.Nodup
import ConfigCenter.Base.ResourcePool

/-!
# Who acts on which resource

Library `Base`. The rest of the state keeps a log of actions on resources. A computation that
is `Confined` acts on the resources it holds and on those it takes from the pool, and it puts
nothing into the pool that was neither there nor held. A resource that has left the pool for
good is then never acted on again.
-/

namespace ConfigCenter.Base
namespace PoolM

variable {κ σ ε α β ω : Type} (log : σ → List (κ × ω))

/-- Between two states, only resources of a list were acted on, and the pool holds some of
these, each once. -/
structure Moves (own : List κ) (s s' : Pooled κ σ) : Prop where
  actions : ∃ new, log s'.rest = log s.rest ++ new ∧ ∀ e ∈ new, e.1 ∈ own
  pool : s'.pool ⊆ own
  nodup : s'.pool.Nodup

/-- The computation acts on what it holds and on what the pool has; what it holds is not in
the pool where it throws. -/
def Confined (held : List κ) (x : PoolM κ σ ε α) : Prop :=
  ∀ s, (held ++ s.pool).Nodup → Moves log (held ++ s.pool) s (x s).2 ∧
    ∀ e, (x s).1 = .thrown e → (held ++ (x s).2.pool).Nodup

/-- An action outside the pool is on resources of the list. -/
def ActsOn (own : List κ) (f : σ → α × σ) : Prop :=
  ∀ t, ∃ new, log (f t).2 = log t ++ new ∧ ∀ e ∈ new, e.1 ∈ own

variable {log}

/-- Nothing moves where nothing is done. -/
theorem moves_refl {own : List κ} {s : Pooled κ σ} (hpool : s.pool ⊆ own) (h : s.pool.Nodup) :
    Moves log own s s where
  actions := ⟨[], (List.append_nil _).symm, fun _ he ↦ by cases he⟩
  pool := hpool
  nodup := h

/-- Moves follow each other; a resource that was let go is not taken for granted. -/
theorem moves_trans {own own' : List κ} {s s' s'' : Pooled κ σ} (h : Moves log own s s')
    (h' : Moves log own' s' s'') (hown : own' ⊆ own) : Moves log own s s'' := by
  obtain ⟨new, hnew, hmem⟩ := h.actions
  obtain ⟨new', hnew', hmem'⟩ := h'.actions
  refine ⟨⟨new ++ new', by rw [hnew', hnew, List.append_assoc], ?_⟩,
    List.Subset.trans h'.pool hown, h'.nodup⟩
  intro e he
  rcases List.mem_append.mp he with he | he
  · exact hmem e he
  · exact hown (hmem' e he)

private theorem nodup_pool {held : List κ} {s : Pooled κ σ} (h : (held ++ s.pool).Nodup) :
    s.pool.Nodup :=
  h.of_append_right

/-- A result uses no resource. -/
theorem confined_pure (held : List κ) (a : α) :
    Confined log held (pure a : PoolM κ σ ε α) := by
  intro s h
  exact ⟨moves_refl (List.subset_append_right _ _) (nodup_pool h), fun _ hthrown ↦ nomatch hthrown⟩

/-- A result or exception uses no resource. -/
theorem confined_ofExcept (held : List κ) (x : Except ε α) :
    Confined log held (ofExcept x : PoolM κ σ ε α) := by
  intro s h
  cases x with
  | ok a => exact confined_pure held a s h
  | error e => exact ⟨moves_refl (List.subset_append_right _ _) (nodup_pool h), fun _ _ ↦ h⟩

/-- An action on held resources is confined to them. -/
theorem confined_outside {held : List κ} {f : σ → α × σ} (hf : ActsOn log held f) :
    Confined log held (outside f : PoolM κ σ ε α) := by
  intro s h
  obtain ⟨new, hnew, hmem⟩ := hf s.rest
  refine ⟨⟨⟨new, hnew, ?_⟩, List.subset_append_right _ _, nodup_pool h⟩,
    fun _ hthrown ↦ nomatch hthrown⟩
  intro e he
  exact List.mem_append_left _ (hmem e he)

/-- What was taken is held. -/
theorem confined_acquire {f : κ → PoolM κ σ ε α} (hf : ∀ k, Confined log [k] (f k)) :
    Confined log [] (acquire >>= f) := by
  intro s h
  cases hpool : s.pool with
  | nil =>
    rw [bind_run_blocked (acquire_run_nil hpool)]
    exact ⟨moves_refl (by rw [hpool]; exact List.nil_subset _) h, fun _ hthrown ↦ nomatch hthrown⟩
  | cons k pool =>
    rw [bind_run_returned (acquire_run hpool)]
    rw [hpool] at h
    obtain ⟨hmoves, -⟩ := hf k { s with pool } h
    exact ⟨⟨hmoves.actions, hmoves.pool, hmoves.nodup⟩, fun _ _ ↦ hmoves.nodup⟩

/-- A resource that is given back was held. -/
theorem confined_release (k : κ) (a : α) :
    Confined log [k] (release k >>= fun _ ↦ (pure a : PoolM κ σ ε α)) := by
  intro s h
  have hnodup : (s.pool ++ [k]).Nodup := (List.perm_append_singleton k s.pool).nodup_iff.mpr h
  refine ⟨⟨⟨[], (List.append_nil _).symm, fun _ he ↦ nomatch he⟩, ?_, hnodup⟩,
    fun _ hthrown ↦ nomatch hthrown⟩
  exact (List.perm_append_singleton k s.pool).subset

/-- Nothing is held between two computations. -/
theorem confined_bind {x : PoolM κ σ ε α} {f : α → PoolM κ σ ε β} (hx : Confined log [] x)
    (hf : ∀ a, Confined log [] (f a)) : Confined log [] (x >>= f) := by
  intro s h
  obtain ⟨hmoves, -⟩ := hx s h
  rcases hrun : x s with ⟨a | e | _, s'⟩
  · rw [hrun] at hmoves
    rw [bind_run_returned hrun]
    obtain ⟨hmoves', hthrown⟩ := hf a s' hmoves.nodup
    exact ⟨moves_trans hmoves hmoves' hmoves.pool, hthrown⟩
  · rw [hrun] at hmoves
    rw [bind_run_thrown hrun]
    exact ⟨hmoves, fun _ _ ↦ hmoves.nodup⟩
  · rw [hrun] at hmoves
    rw [bind_run_blocked hrun]
    exact ⟨hmoves, fun _ hthrown ↦ nomatch hthrown⟩

/-- A computation that leaves the pool alone may come before others that use what is held. -/
theorem confined_bind_still {held : List κ} {x : PoolM κ σ ε α} {f : α → PoolM κ σ ε β}
    (hx : Confined log held x) (hstill : Still x) (hf : ∀ a, Confined log held (f a)) :
    Confined log held (x >>= f) := by
  intro s h
  obtain ⟨hmoves, hthrown⟩ := hx s h
  obtain ⟨hends, hpool⟩ := hstill s
  rcases hrun : x s with ⟨a | e | _, s'⟩
  · rw [hrun] at hmoves hpool
    rw [bind_run_returned hrun]
    have hpool : s'.pool = s.pool := hpool
    obtain ⟨hmoves', hthrown'⟩ := hf a s' (by rw [hpool]; exact h)
    exact ⟨moves_trans hmoves hmoves' (by rw [hpool]; exact List.Subset.refl _), hthrown'⟩
  · rw [hrun] at hmoves hthrown
    rw [bind_run_thrown hrun]
    exact ⟨hmoves, fun _ _ ↦ hthrown e rfl⟩
  · exact absurd (by rw [hrun]) hends

/-- A handler is confined to what its computation holds. -/
theorem confined_tryCatch {held : List κ} {x handler : PoolM κ σ ε α}
    (hx : Confined log held x) (hhandler : Confined log held handler) :
    Confined log held (tryCatch x handler) := by
  intro s h
  obtain ⟨hmoves, hthrown⟩ := hx s h
  rcases hrun : x s with ⟨a | e | _, s'⟩
  · rw [hrun] at hmoves
    simp only [tryCatch, hrun]
    exact ⟨hmoves, by intro _ hreturned; cases hreturned⟩
  · rw [hrun] at hmoves hthrown
    simp only [tryCatch, hrun]
    have hheld : (held ++ s'.pool).Nodup := hthrown e rfl
    obtain ⟨hmoves', hthrown'⟩ := hhandler s' hheld
    refine ⟨moves_trans hmoves hmoves' ?_, hthrown'⟩
    exact List.append_subset.mpr ⟨List.subset_append_left _ _, hmoves.pool⟩
  · rw [hrun] at hmoves
    simp only [tryCatch, hrun]
    exact ⟨hmoves, by intro _ hblocked; cases hblocked⟩

/-- An exception that is dropped leaves a computation confined. -/
theorem confined_ignore {held : List κ} {x : PoolM κ σ ε α} (hx : Confined log held x) :
    Confined log held (ignore x) := by
  intro s h
  obtain ⟨hmoves, hthrown⟩ := hx s h
  rcases hrun : x s with ⟨a | e | _, s'⟩
  · rw [hrun] at hmoves
    simp only [ignore, hrun]
    exact ⟨hmoves, by intro _ hreturned; cases hreturned⟩
  · rw [hrun] at hmoves hthrown
    simp only [ignore, hrun]
    exact ⟨hmoves, fun _ _ ↦ hthrown e rfl⟩
  · rw [hrun] at hmoves
    simp only [ignore, hrun]
    exact ⟨hmoves, by intro _ hblocked; cases hblocked⟩

end PoolM
end ConfigCenter.Base
