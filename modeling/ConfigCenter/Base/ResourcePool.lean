import Mathlib.Data.List.Perm.Basic

/-!
# Computations on a pool of resources

Library `Base`. A computation takes resources from a shared pool and gives them
back by hand. It returns, throws, or blocks on an empty pool; a resource that is
not given back is lost to everyone. `Restores` says of a computation that the pool
is whole again after it, and the rules below reduce it to what happens between
`acquire` and `release`.
-/

namespace ConfigCenter.Base

/-- How a computation ends. -/
inductive Ending (ε α : Type) where
  | returned (a : α)
  | thrown (e : ε)
  | blocked

/-- The resources that nobody holds, and the rest of the state. -/
structure Pooled (κ σ : Type) where
  pool : List κ
  rest : σ

/-- Computations that use a pool. -/
def PoolM (κ σ ε α : Type) : Type := Pooled κ σ → Ending ε α × Pooled κ σ

namespace PoolM

variable {κ σ ε α β : Type}

instance : Monad (PoolM κ σ ε) where
  pure a := fun s ↦ (.returned a, s)
  bind x f := fun s ↦
    match x s with
    | (.returned a, s') => f a s'
    | (.thrown e, s') => (.thrown e, s')
    | (.blocked, s') => (.blocked, s')

/-- Take the first resource, or wait for one. -/
def acquire : PoolM κ σ ε κ := fun s ↦
  match s.pool with
  | [] => (.blocked, s)
  | k :: pool => (.returned k, { s with pool })

/-- Put a resource at the end of the queue. -/
def release (k : κ) : PoolM κ σ ε Unit := fun s ↦
  (.returned (), { s with pool := s.pool ++ [k] })

/-- Act on the rest of the state. -/
def outside (f : σ → α × σ) : PoolM κ σ ε α := fun s ↦
  (.returned (f s.rest).1, { s with rest := (f s.rest).2 })

/-- Continue with a value, or throw. -/
def ofExcept (x : Except ε α) : PoolM κ σ ε α := fun s ↦
  match x with
  | .ok a => (.returned a, s)
  | .error e => (.thrown e, s)

/-- `try x catch (...) handler`: what `x` did before it threw stays done. -/
def tryCatch (x handler : PoolM κ σ ε α) : PoolM κ σ ε α := fun s ↦
  match x s with
  | (.thrown _, s') => handler s'
  | r => r

/-- The computation without its result. -/
def ignore (x : PoolM κ σ ε α) : PoolM κ σ ε Unit := fun s ↦
  match x s with
  | (.returned _, s') => (.returned (), s')
  | (.thrown e, s') => (.thrown e, s')
  | (.blocked, s') => (.blocked, s')

/-! ### Running a computation -/

/-- A result leaves the pool alone. -/
theorem pure_run (a : α) (s : Pooled κ σ) : (pure a : PoolM κ σ ε α) s = (.returned a, s) := rfl

/-- A sequence goes on where its first part returned. -/
theorem bind_run_returned {x : PoolM κ σ ε α} {s s' : Pooled κ σ} {a : α}
    (h : x s = (.returned a, s')) (f : α → PoolM κ σ ε β) : (x >>= f) s = f a s' := by
  simp only [bind, h]

/-- A sequence stops where its first part threw. -/
theorem bind_run_thrown {x : PoolM κ σ ε α} {s s' : Pooled κ σ} {e : ε}
    (h : x s = (.thrown e, s')) (f : α → PoolM κ σ ε β) : (x >>= f) s = (.thrown e, s') := by
  simp only [bind, h]

/-- A sequence waits where its first part waits. -/
theorem bind_run_blocked {x : PoolM κ σ ε α} {s s' : Pooled κ σ}
    (h : x s = (.blocked, s')) (f : α → PoolM κ σ ε β) : (x >>= f) s = (.blocked, s') := by
  simp only [bind, h]

/-- The first resource of the pool is taken. -/
theorem acquire_run {s : Pooled κ σ} {k : κ} {pool : List κ} (h : s.pool = k :: pool) :
    (acquire : PoolM κ σ ε κ) s = (.returned k, { s with pool }) := by
  simp only [acquire, h]

/-- An empty pool blocks. -/
theorem acquire_run_nil {s : Pooled κ σ} (h : s.pool = []) :
    (acquire : PoolM κ σ ε κ) s = (.blocked, s) := by
  simp only [acquire, h]

/-! ### What a computation does to the pool -/

/-- The computation ends, and the pool holds what it held before. -/
structure Restores (x : PoolM κ σ ε α) (s : Pooled κ σ) : Prop where
  ends : (x s).1 ≠ .blocked
  perm : (x s).2.pool.Perm s.pool

/-- The computation ends, and the pool holds one resource more. -/
structure GivesBack (k : κ) (x : PoolM κ σ ε α) (s : Pooled κ σ) : Prop where
  ends : (x s).1 ≠ .blocked
  perm : (x s).2.pool.Perm (k :: s.pool)

/-- The computation returns with one resource more in the pool, or throws before. -/
def GivesBackOrThrows (k : κ) (x : PoolM κ σ ε α) (s : Pooled κ σ) : Prop :=
  (∃ a s', x s = (.returned a, s') ∧ s'.pool.Perm (k :: s.pool)) ∨
    ∃ e s', x s = (.thrown e, s') ∧ s'.pool = s.pool

/-- If the computation ends, the pool holds less than before. -/
def Loses (x : PoolM κ σ ε α) (s : Pooled κ σ) : Prop :=
  (x s).1 ≠ .blocked → (x s).2.pool.length < s.pool.length

/-- Whenever the computation ends, the pool holds no more than before. -/
def Shrinks (x : PoolM κ σ ε α) : Prop :=
  ∀ s, (x s).1 ≠ .blocked → (x s).2.pool.length ≤ s.pool.length

/-- The computation returns without touching the pool. -/
def Quiet (x : PoolM κ σ ε α) : Prop := ∀ s, ∃ a t, x s = (.returned a, { s with rest := t })

/-- The computation returns or throws without touching the pool. -/
def Still (x : PoolM κ σ ε α) : Prop := ∀ s, (x s).1 ≠ .blocked ∧ (x s).2.pool = s.pool

/-- What happens outside the pool leaves it alone. -/
theorem quiet_outside (f : σ → α × σ) : Quiet (outside f : PoolM κ σ ε α) :=
  fun _ ↦ ⟨_, _, rfl⟩

/-- A result is still. -/
theorem still_pure (a : α) : Still (pure a : PoolM κ σ ε α) :=
  fun _ ↦ ⟨nofun, rfl⟩

/-- A result or exception is still. -/
theorem still_ofExcept (x : Except ε α) : Still (ofExcept x : PoolM κ σ ε α) := by
  intro s
  cases x with
  | ok a => exact ⟨nofun, rfl⟩
  | error e => exact ⟨nofun, rfl⟩

/-- A resource that was taken must be given back. -/
theorem restores_acquire {f : κ → PoolM κ σ ε α} {s : Pooled κ σ} {k : κ} {pool : List κ}
    (h : s.pool = k :: pool) (hf : GivesBack k (f k) { s with pool }) :
    Restores (acquire >>= f) s := by
  obtain ⟨hends, hperm⟩ := hf
  rw [← bind_run_returned (acquire_run h) f] at hends hperm
  exact ⟨hends, h ▸ hperm⟩

/-- A step that leaves the pool alone may come before a resource is given back. -/
theorem givesBack_bind {k : κ} {x : PoolM κ σ ε α} {f : α → PoolM κ σ ε β} {s s' : Pooled κ σ}
    {a : α} (h : x s = (.returned a, s')) (hpool : s'.pool = s.pool)
    (hf : GivesBack k (f a) s') : GivesBack k (x >>= f) s := by
  obtain ⟨hends, hperm⟩ := hf
  rw [← bind_run_returned h f] at hends hperm
  exact ⟨hends, hpool ▸ hperm⟩

/-- Quiet steps may come before a resource is given back. -/
theorem givesBack_of_quiet {k : κ} {x : PoolM κ σ ε α} {f : α → PoolM κ σ ε β} (hx : Quiet x)
    (hf : ∀ a s, GivesBack k (f a) s) (s : Pooled κ σ) : GivesBack k (x >>= f) s := by
  obtain ⟨a, t, h⟩ := hx s
  exact givesBack_bind h rfl (hf a _)

/-- After the resource is given back the pool must be left alone. -/
theorem givesBack_release {k : κ} {x : PoolM κ σ ε α} (hx : Still x) (s : Pooled κ σ) :
    GivesBack k (release k >>= fun _ ↦ x) s := by
  obtain ⟨hends, hpool⟩ := hx { s with pool := s.pool ++ [k] }
  refine ⟨hends, ?_⟩
  change (x { s with pool := s.pool ++ [k] }).2.pool.Perm (k :: s.pool)
  rw [hpool]
  exact List.perm_append_singleton k s.pool

/-- Quiet steps may come before a resource is given back or an exception is thrown. -/
theorem givesBackOrThrows_of_quiet {k : κ} {x : PoolM κ σ ε α} {f : α → PoolM κ σ ε β}
    (hx : Quiet x) (hf : ∀ a s, GivesBackOrThrows k (f a) s) (s : Pooled κ σ) :
    GivesBackOrThrows k (x >>= f) s := by
  obtain ⟨a, t, h⟩ := hx s
  have hrun := bind_run_returned h f
  rcases hf a { s with rest := t } with ⟨b, s', hb, hperm⟩ | ⟨e, s', he, hpool⟩
  · exact .inl ⟨b, s', hrun.trans hb, hperm⟩
  · exact .inr ⟨e, s', hrun.trans he, hpool⟩

/-- A conversion may throw before a resource is given back. -/
theorem givesBackOrThrows_ofExcept {k : κ} (x : Except ε α) {f : α → PoolM κ σ ε β}
    (hf : ∀ a s, GivesBackOrThrows k (f a) s) (s : Pooled κ σ) :
    GivesBackOrThrows k (ofExcept x >>= f) s := by
  cases x with
  | ok a => exact hf a s
  | error e => exact .inr ⟨e, s, rfl, rfl⟩

/-- The resource is given back and a value returned. -/
theorem givesBackOrThrows_release (k : κ) (a : α) (s : Pooled κ σ) :
    GivesBackOrThrows k (release k >>= fun _ ↦ (pure a : PoolM κ σ ε α)) s :=
  .inl ⟨a, _, rfl, List.perm_append_singleton k s.pool⟩

/-- A handler that gives the resource back makes up for an exception before that. -/
theorem givesBack_tryCatch {k : κ} {x handler : PoolM κ σ ε α} {s : Pooled κ σ}
    (hx : GivesBackOrThrows k x s) (hhandler : ∀ s, GivesBack k handler s) :
    GivesBack k (tryCatch x handler) s := by
  rcases hx with ⟨a, s', hx, hperm⟩ | ⟨e, s', hx, hpool⟩
  · have hrun : tryCatch x handler s = (.returned a, s') := by simp only [tryCatch, hx]
    exact ⟨by rw [hrun]; nofun, by rw [hrun]; exact hperm⟩
  · obtain ⟨hends, hperm⟩ := hhandler s'
    have hrun : tryCatch x handler s = handler s' := by simp only [tryCatch, hx]
    rw [← hrun] at hends hperm
    exact ⟨hends, hpool ▸ hperm⟩

/-- A computation that leaves the pool alone restores it. -/
theorem restores_of_still {x : PoolM κ σ ε α} (hx : Still x) (s : Pooled κ σ) : Restores x s := by
  obtain ⟨hends, hpool⟩ := hx s
  exact ⟨hends, hpool ▸ List.Perm.refl _⟩

/-- After a computation that restored the pool, what follows must restore it. -/
theorem restores_bind {x : PoolM κ σ ε α} {f : α → PoolM κ σ ε β} {s : Pooled κ σ}
    (hx : Restores x s) (hf : ∀ a s', x s = (.returned a, s') → Restores (f a) s') :
    Restores (x >>= f) s := by
  obtain ⟨hends, hperm⟩ := hx
  rcases h : x s with ⟨a | e | _, s'⟩
  · rw [h] at hperm
    obtain ⟨he, hp⟩ := hf a s' h
    rw [← bind_run_returned h f] at he hp
    exact ⟨he, hp.trans hperm⟩
  · rw [h] at hperm
    have hrun := bind_run_thrown h f
    exact ⟨by rw [hrun]; nofun, by rw [hrun]; exact hperm⟩
  · exact absurd (by rw [h]) hends

/-- The result does not matter for the pool. -/
theorem restores_ignore {x : PoolM κ σ ε α} {s : Pooled κ σ} (hx : Restores x s) :
    Restores (ignore x) s := by
  obtain ⟨hends, hperm⟩ := hx
  rcases h : x s with ⟨a | e | _, s'⟩
  · rw [h] at hperm
    exact ⟨by simp [ignore, h], by simpa only [ignore, h] using hperm⟩
  · rw [h] at hperm
    exact ⟨by simp [ignore, h], by simpa only [ignore, h] using hperm⟩
  · exact absurd (by rw [h]) hends

/-- The result does not matter for what is lost. -/
theorem loses_ignore {x : PoolM κ σ ε α} {s : Pooled κ σ} (hx : Loses x s) :
    Loses (ignore x) s := by
  rcases h : x s with ⟨a | e | _, s'⟩
  · intro _
    simpa only [ignore, h] using hx (by rw [h]; nofun)
  · intro _
    simpa only [ignore, h] using hx (by rw [h]; nofun)
  · intro hends
    exact absurd (by simp only [ignore, h]) hends

/-! ### Resources that are lost -/

/-- What leaves the pool alone does not let it grow. -/
theorem shrinks_of_still {x : PoolM κ σ ε α} (hx : Still x) : Shrinks x := by
  intro s _
  exact Nat.le_of_eq (congrArg List.length (hx s).2)

/-- A resource that is taken does not let the pool grow. -/
theorem shrinks_acquire : Shrinks (acquire : PoolM κ σ ε κ) := by
  intro s hends
  cases h : s.pool with
  | nil => exact absurd (by rw [acquire_run_nil h]) hends
  | cons k pool => simp [acquire_run h]

/-- A sequence of parts that do not let the pool grow does not either. -/
theorem shrinks_bind {x : PoolM κ σ ε α} {f : α → PoolM κ σ ε β} (hx : Shrinks x)
    (hf : ∀ a, Shrinks (f a)) : Shrinks (x >>= f) := by
  intro s hends
  have hs := hx s
  rcases h : x s with ⟨a | e | _, s'⟩
  · rw [bind_run_returned h f] at hends ⊢
    rw [h] at hs
    exact Nat.le_trans (hf a s' hends) (hs nofun)
  · rw [bind_run_thrown h f]
    rw [h] at hs
    exact hs nofun
  · exact absurd (by rw [bind_run_blocked h f]) hends

/-- Nor does a computation with a handler, when neither of them does. -/
theorem shrinks_tryCatch {x handler : PoolM κ σ ε α} (hx : Shrinks x)
    (hhandler : Shrinks handler) : Shrinks (tryCatch x handler) := by
  intro s hends
  have hs := hx s
  rcases h : x s with ⟨a | e | _, s'⟩
  · simp only [tryCatch, h]
    rw [h] at hs
    exact hs nofun
  · simp only [tryCatch, h] at hends ⊢
    rw [h] at hs
    exact Nat.le_trans (hhandler s' hends) (hs nofun)
  · exact absurd (by simp only [tryCatch, h]) hends

/-- A computation that needs a resource and restores the pool never makes it larger. -/
theorem shrinks_of_restores {f : κ → PoolM κ σ ε α}
    (hf : ∀ k pool s, s.pool = k :: pool → Restores (acquire >>= f) s) :
    Shrinks (acquire >>= f) := by
  intro s hends
  cases h : s.pool with
  | nil => exact absurd (by rw [bind_run_blocked (acquire_run_nil h) f]) hends
  | cons k pool =>
    rw [← h]
    exact Nat.le_of_eq (hf k pool s h).perm.length_eq

/-- What is never given back is lost. -/
theorem loses_acquire {f : κ → PoolM κ σ ε α} {s : Pooled κ σ} {k : κ} {pool : List κ}
    (h : s.pool = k :: pool) (hf : Shrinks (f k)) : Loses (acquire >>= f) s := by
  intro hends
  rw [bind_run_returned (acquire_run h) f] at hends ⊢
  rw [h]
  exact Nat.lt_succ_of_le (hf _ hends)

/-- An exception while a resource is held loses it. -/
theorem loses_acquire_thrown {f : κ → PoolM κ σ ε α} {s : Pooled κ σ} {k : κ} {pool : List κ}
    (h : s.pool = k :: pool)
    (hf : ∃ e t, f k { s with pool } = (.thrown e, { pool, rest := t })) :
    Loses (acquire >>= f) s := by
  intro _
  obtain ⟨e, t, hf⟩ := hf
  rw [bind_run_returned (acquire_run h) f, hf, h]
  exact Nat.lt_succ_self _

/-- What is lost after the pool was restored is lost. -/
theorem loses_bind {x : PoolM κ σ ε α} {f : α → PoolM κ σ ε β} {s s' : Pooled κ σ} {a : α}
    (hx : Restores x s) (h : x s = (.returned a, s')) (hf : Loses (f a) s') :
    Loses (x >>= f) s := by
  intro hends
  have hlength := hx.perm.length_eq
  rw [h] at hlength
  rw [bind_run_returned h f] at hends ⊢
  exact hlength ▸ hf hends

/-- What is lost before a computation that never enlarges the pool stays lost. -/
theorem loses_bind_shrinks {x : PoolM κ σ ε α} {f : α → PoolM κ σ ε β} {s : Pooled κ σ}
    (hx : Loses x s) (hf : ∀ a, Shrinks (f a)) : Loses (x >>= f) s := by
  intro hends
  rcases h : x s with ⟨a | e | _, s'⟩
  · have hlost := hx (by rw [h]; nofun)
    rw [bind_run_returned h f] at hends ⊢
    rw [h] at hlost
    exact Nat.lt_of_le_of_lt (hf a s' hends) hlost
  · have hlost := hx (by rw [h]; nofun)
    rw [bind_run_thrown h f]
    rwa [h] at hlost
  · exact absurd (by rw [bind_run_blocked h f]) hends

end PoolM
end ConfigCenter.Base
