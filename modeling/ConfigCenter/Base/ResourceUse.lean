import ConfigCenter.Base.ResourcePool

/-!
# What computations on a pool cost

Library `Base`. `Costs` counts the resources that a computation does not give back
when it ends, `Within` bounds them from what the pool must hold before, and `Needs`
says of a computation that it waits where the pool is empty.
-/

namespace ConfigCenter.Base
namespace PoolM

variable {κ σ ε α β : Type}

/-- The computation waits for a resource when there is none. -/
def Needs (x : PoolM κ σ ε α) : Prop := ∀ s, s.pool = [] → (x s).1 = .blocked

/-- From `need` resources on, the computation ends and at most `spend` are gone. -/
def Within (need spend : Nat) (x : PoolM κ σ ε α) : Prop :=
  ∀ s, need ≤ s.pool.length →
    (x s).1 ≠ .blocked ∧ s.pool.length ≤ (x s).2.pool.length + spend

/-- The computation ends, and exactly `n` resources are gone. -/
structure Costs (n : Nat) (x : PoolM κ σ ε α) (s : Pooled κ σ) : Prop where
  ends : (x s).1 ≠ .blocked
  length : (x s).2.pool.length + n = s.pool.length

/-! ### Computations that wait -/

/-- Taking a resource needs one. -/
theorem needs_acquire : Needs (acquire : PoolM κ σ ε κ) := by
  intro s h
  rw [acquire_run_nil h]

/-- A sequence waits where its first part does. -/
theorem blocked_bind {x : PoolM κ σ ε α} {s : Pooled κ σ} (h : (x s).1 = .blocked)
    (f : α → PoolM κ σ ε β) : ((x >>= f) s).1 = .blocked := by
  rcases hrun : x s with ⟨a | e | _, s'⟩
  · rw [hrun] at h
    cases h
  · rw [hrun] at h
    cases h
  · rw [bind_run_blocked hrun]

/-- A sequence needs what its first part needs. -/
theorem needs_bind {x : PoolM κ σ ε α} (hx : Needs x) (f : α → PoolM κ σ ε β) :
    Needs (x >>= f) :=
  fun s h ↦ blocked_bind (hx s h) f

/-- A computation waits whether or not its exceptions are dropped. -/
theorem blocked_ignore {x : PoolM κ σ ε α} {s : Pooled κ σ} :
    (ignore x s).1 = .blocked ↔ (x s).1 = .blocked := by
  rcases hrun : x s with ⟨a | e | _, s'⟩ <;> simp [ignore, hrun]

/-- A dropped exception changes nothing in the pool. -/
theorem pool_ignore (x : PoolM κ σ ε α) (s : Pooled κ σ) :
    (ignore x s).2 = (x s).2 := by
  rcases hrun : x s with ⟨a | e | _, s'⟩ <;> simp [ignore, hrun]

/-- Nor does it change what is needed. -/
theorem needs_ignore {x : PoolM κ σ ε α} (hx : Needs x) : Needs (ignore x) :=
  fun s h ↦ blocked_ignore.mpr (hx s h)

/-- No exception, no handler. -/
theorem tryCatch_run_returned {x : PoolM κ σ ε α} {s s' : Pooled κ σ} {a : α}
    (h : x s = (.returned a, s')) (handler : PoolM κ σ ε α) :
    tryCatch x handler s = (.returned a, s') := by
  simp only [tryCatch, h]

/-- The handler runs on what the exception left. -/
theorem tryCatch_run_thrown {x : PoolM κ σ ε α} {s s' : Pooled κ σ} {e : ε}
    (h : x s = (.thrown e, s')) (handler : PoolM κ σ ε α) :
    tryCatch x handler s = handler s' := by
  simp only [tryCatch, h]

/-- A protected computation waits where the computation itself does. -/
theorem blocked_tryCatch {x : PoolM κ σ ε α} {s : Pooled κ σ} (h : (x s).1 = .blocked)
    (handler : PoolM κ σ ε α) : (tryCatch x handler s).1 = .blocked := by
  rcases hrun : x s with ⟨a | e | _, s'⟩
  · rw [hrun] at h
    cases h
  · rw [hrun] at h
    cases h
  · simp only [tryCatch, hrun]

/-! ### Bounds -/

/-- What leaves the pool alone needs nothing and spends nothing. -/
theorem within_of_still {x : PoolM κ σ ε α} (hx : Still x) : Within 0 0 x := by
  intro s _
  obtain ⟨hends, hpool⟩ := hx s
  exact ⟨hends, Nat.le_of_eq (congrArg List.length hpool).symm⟩

/-- Taking a resource needs one and spends it. -/
theorem within_acquire : Within 1 1 (acquire : PoolM κ σ ε κ) := by
  intro s h
  cases hpool : s.pool with
  | nil =>
    rw [hpool] at h
    exact absurd h (by simp)
  | cons k pool =>
    rw [acquire_run hpool]
    exact ⟨nofun, Nat.le_refl _⟩

/-- Giving a resource back needs nothing and spends nothing. -/
theorem within_release (k : κ) : Within 0 0 (release k : PoolM κ σ ε Unit) := by
  intro s _
  refine ⟨nofun, ?_⟩
  change s.pool.length ≤ (s.pool ++ [k]).length + 0
  simp

/-- What follows needs its resources beyond those already gone. -/
theorem within_bind {x : PoolM κ σ ε α} {f : α → PoolM κ σ ε β} {need spend need' spend' : Nat}
    (hx : Within need spend x) (hf : ∀ a, Within need' spend' (f a)) :
    Within (max need (need' + spend)) (spend + spend') (x >>= f) := by
  intro s h
  obtain ⟨hends, hlength⟩ := hx s (Nat.le_trans (Nat.le_max_left _ _) h)
  have hneed : need' + spend ≤ s.pool.length := Nat.le_trans (Nat.le_max_right _ _) h
  rcases hrun : x s with ⟨a | e | _, s'⟩
  · rw [hrun] at hlength
    change s.pool.length ≤ s'.pool.length + spend at hlength
    rw [bind_run_returned hrun]
    obtain ⟨hends', hlength'⟩ := hf a s' (by omega)
    exact ⟨hends', by omega⟩
  · rw [hrun] at hlength
    change s.pool.length ≤ s'.pool.length + spend at hlength
    rw [bind_run_thrown hrun]
    refine ⟨nofun, ?_⟩
    change s.pool.length ≤ s'.pool.length + (spend + spend')
    omega
  · exact absurd (by rw [hrun]) hends

/-- Steps that leave the pool alone change no bound. -/
theorem within_bind_still {x : PoolM κ σ ε α} {f : α → PoolM κ σ ε β} {spend : Nat}
    (hx : Still x) (hf : ∀ a, Within 0 spend (f a)) : Within 0 spend (x >>= f) := by
  have h := within_bind (within_of_still hx) hf
  rwa [Nat.zero_add, Nat.max_self, Nat.zero_add] at h

/-- A computation that takes one resource and then no other costs at most that one. -/
theorem within_bind_acquire {f : κ → PoolM κ σ ε α} (hf : ∀ k, Within 0 0 (f k)) :
    Within 1 1 (acquire >>= f) :=
  within_bind within_acquire hf

/-- Dropping an exception keeps the bounds. -/
theorem within_ignore {x : PoolM κ σ ε α} {need spend : Nat} (hx : Within need spend x) :
    Within need spend (ignore x) := by
  intro s h
  rw [Ne, blocked_ignore, pool_ignore]
  exact hx s h

/-- A computation that restores every pool with a resource in it. -/
theorem within_of_restores {x : PoolM κ σ ε α}
    (hx : ∀ s k pool, s.pool = k :: pool → Restores x s) : Within 1 0 x := by
  intro s h
  cases hpool : s.pool with
  | nil =>
    rw [hpool] at h
    exact absurd h (by simp)
  | cons k pool =>
    have hrestores := hx s k pool hpool
    rw [← hpool]
    exact ⟨hrestores.ends, Nat.le_of_eq hrestores.perm.length_eq.symm⟩

/-! ### Exact costs -/

/-- What restores the pool with its exceptions dropped restores it with them. -/
theorem restores_of_ignore {x : PoolM κ σ ε α} {s : Pooled κ σ} (hx : Restores (ignore x) s) :
    Restores x s := by
  obtain ⟨hends, hperm⟩ := hx
  rw [Ne, blocked_ignore] at hends
  rw [pool_ignore] at hperm
  exact ⟨hends, hperm⟩

/-- A computation that ends costs what is missing afterwards. -/
theorem costs_of_run {x : PoolM κ σ ε α} {s s' : Pooled κ σ} {r : Ending ε α} {n : Nat}
    (hrun : x s = (r, s')) (hends : r ≠ .blocked)
    (hlength : s'.pool.length + n = s.pool.length) : Costs n x s := by
  refine ⟨?_, ?_⟩
  · rw [hrun]
    exact hends
  · rw [hrun]
    exact hlength

/-- A computation that restores the pool costs nothing. -/
theorem costs_of_restores {x : PoolM κ σ ε α} {s : Pooled κ σ} (hx : Restores x s) :
    Costs 0 x s :=
  ⟨hx.ends, hx.perm.length_eq⟩

/-- A computation that loses something and no more than one resource loses exactly one. -/
theorem costs_of_loses {x : PoolM κ σ ε α} {s : Pooled κ σ} {need : Nat} (hx : Loses x s)
    (hwithin : Within need 1 x) (h : need ≤ s.pool.length) : Costs 1 x s := by
  obtain ⟨hends, hlength⟩ := hwithin s h
  have hlost := hx hends
  exact ⟨hends, by omega⟩

/-- Dropping an exception keeps the cost. -/
theorem costs_ignore {x : PoolM κ σ ε α} {s : Pooled κ σ} {n : Nat} (hx : Costs n x s) :
    Costs n (ignore x) s := by
  refine ⟨?_, ?_⟩
  · rw [Ne, blocked_ignore]
    exact hx.ends
  · rw [pool_ignore]
    exact hx.length

/-- The costs of two computations add up. -/
theorem costs_bind {x : PoolM κ σ ε α} {f : α → PoolM κ σ ε β} {s s' : Pooled κ σ} {a : α}
    {m n : Nat} (hx : Costs m x s) (hrun : x s = (.returned a, s')) (hf : Costs n (f a) s') :
    Costs (m + n) (x >>= f) s := by
  have hlength := hx.length
  have hlength' := hf.length
  rw [hrun] at hlength
  change s'.pool.length + m = s.pool.length at hlength
  refine ⟨?_, ?_⟩
  · rw [bind_run_returned hrun]
    exact hf.ends
  · rw [bind_run_returned hrun]
    omega

/-- The cost where the protected computation returns. -/
theorem costs_tryCatch_returned {x : PoolM κ σ ε α} {s s' : Pooled κ σ} {a : α} {n : Nat}
    (hx : Costs n x s) (hrun : x s = (.returned a, s')) (handler : PoolM κ σ ε α) :
    Costs n (tryCatch x handler) s := by
  have htry : tryCatch x handler s = x s := (tryCatch_run_returned hrun handler).trans hrun.symm
  exact ⟨htry ▸ hx.ends, htry ▸ hx.length⟩

/-- The cost where the protected computation throws. -/
theorem costs_tryCatch_thrown {x handler : PoolM κ σ ε α} {s s' : Pooled κ σ} {e : ε} {m n : Nat}
    (hx : Costs m x s) (hrun : x s = (.thrown e, s')) (hhandler : Costs n handler s') :
    Costs (m + n) (tryCatch x handler) s := by
  have htry : tryCatch x handler s = handler s' := tryCatch_run_thrown hrun handler
  have hlength := hx.length
  have hlength' := hhandler.length
  rw [hrun] at hlength
  change s'.pool.length + m = s.pool.length at hlength
  refine ⟨htry ▸ hhandler.ends, ?_⟩
  rw [htry]
  omega

end PoolM
end ConfigCenter.Base
