import ConfigCenter.Base.Run

/-!
# Transactions over a state machine

Library `Base`. A transacted state takes actions and may open a transaction,
commit it or roll it back. An action can behave differently inside a transaction;
a `begin` inside one, and a `commit` or a `rollback` outside, change nothing.
`state_run` gives the state after any run as a run of plain actions: those that no
rollback has taken back.
-/

namespace ConfigCenter.Base

/-- What a transacted state is asked to do. -/
inductive Control (ε : Type) where
  | begin
  | commit
  | rollback
  | act (e : ε)

/-- A state and, inside a transaction, the state it began in. -/
structure Transacted (σ : Type) where
  state : σ
  began : Option σ

namespace Transacted

variable {σ ε : Type} (act : Bool → σ → ε → σ)

/-- The state after one control event; `act` is told whether a transaction is open. -/
def step (s : Transacted σ) : Control ε → Transacted σ
  | .begin => { s with began := some (s.began.getD s.state) }
  | .commit => { s with began := none }
  | .rollback => { state := s.began.getD s.state, began := none }
  | .act e => { s with state := act s.began.isSome s.state e }

/-- The open transaction, or the next one, ends with a rollback. -/
def rolledBack : List (Control ε) → Bool
  | [] => false
  | .commit :: _ => false
  | .rollback :: _ => true
  | .begin :: es => rolledBack es
  | .act _ :: es => rolledBack es

/-- The actions that last, each with whether it was taken inside a transaction. -/
def survivors : Bool → List (Control ε) → List (Bool × ε)
  | _, [] => []
  | _, .begin :: es => survivors true es
  | _, .commit :: es => survivors false es
  | _, .rollback :: es => survivors false es
  | inside, .act e :: es =>
    if inside && rolledBack es then survivors inside es
    else (inside, e) :: survivors inside es

/-- The state that a list of events builds on: a rollback to come brings back the one that the
open transaction began in. -/
def base (s : Transacted σ) (es : List (Control ε)) : σ :=
  if rolledBack es then s.began.getD s.state else s.state

/-- Outside a transaction the base is the state. -/
theorem base_outside {s : Transacted σ} (h : s.began = none) (es : List (Control ε)) :
    s.base es = s.state := by
  rw [base, h]
  exact ite_self s.state

/-- Surviving actions are among those taken. -/
theorem mem_of_mem_survivors {inside : Bool} {es : List (Control ε)} {x : Bool × ε}
    (h : x ∈ survivors inside es) : Control.act x.2 ∈ es := by
  induction es generalizing inside with
  | nil => cases h
  | cons e es ih =>
    cases e with
    | begin | commit | rollback => exact List.mem_cons_of_mem _ (ih h)
    | act e =>
      rw [survivors] at h
      split at h
      · exact List.mem_cons_of_mem _ (ih h)
      · obtain rfl | hx := List.mem_cons.mp h
        · exact List.mem_cons_self
        · exact List.mem_cons_of_mem _ (ih hx)

-- While the open transaction is to be taken back, its state does not matter.
private theorem base_of_undone {s : Transacted σ} {es : List (Control ε)}
    (h : (s.began.isSome && rolledBack es) = true) (t : σ) :
    base { s with state := t } es = s.base es := by
  rw [Bool.and_eq_true] at h
  obtain ⟨u, hu⟩ := Option.isSome_iff_exists.mp h.1
  rw [base, base, if_pos h.2, if_pos h.2, hu]
  rfl

private theorem base_of_kept {s : Transacted σ} {es : List (Control ε)}
    (h : ¬ (s.began.isSome && rolledBack es) = true) : s.base es = s.state := by
  rw [base]
  by_cases hr : rolledBack es = true
  · rw [if_pos hr]
    cases hs : s.began with
    | none => rfl
    | some u => exact absurd (by rw [hs, hr]; rfl) h
  · exact if_neg hr

/-- The state after a run is that of the surviving actions. -/
theorem state_run (s : Transacted σ) (es : List (Control ε)) :
    (run (step act) s es).state =
      run (fun t e ↦ act e.1 t e.2) (s.base es) (survivors s.began.isSome es) := by
  induction es generalizing s with
  | nil => rfl
  | cons e es ih =>
    rw [run_cons, ih]
    cases e with
    | begin => rfl
    | commit | rollback =>
      rw [base_outside rfl]
      rfl
    | act e =>
      change run _ (base { s with state := act s.began.isSome s.state e } es) _ =
        run _ (s.base es) _
      by_cases h : (s.began.isSome && rolledBack es) = true
      · rw [survivors, if_pos h, base_of_undone h]
        rfl
      · have hbase : base { s with state := act s.began.isSome s.state e } es =
            act s.began.isSome s.state e := base_of_kept h
        rw [survivors, if_neg h, run_cons, base_of_kept h, hbase]
        rfl

/-- What every action keeps holds after every run: transactions neither break nor mend it. -/
theorem state_run_invariant {act : Bool → σ → ε → σ} {I : σ → Prop} {s : Transacted σ}
    (hs : I s.state) (hbegan : ∀ t ∈ s.began, I t)
    (hact : ∀ inside t e, I t → I (act inside t e)) (es : List (Control ε)) :
    I (run (step act) s es).state := by
  rw [state_run]
  have hbase : I (s.base es) := by
    rw [base]
    split
    · cases h : s.began with
      | none => exact hs
      | some t => exact hbegan t h
    · exact hs
  exact run_invariant hbase (fun t e ht ↦ hact e.1 t e.2 ht) _

end Transacted

end ConfigCenter.Base
