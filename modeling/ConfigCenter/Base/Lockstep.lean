import ConfigCenter.Base.Program

/-!
# Programs on two objects

Library `Base`. The same programs run on two objects under one schedule. Where the objects
stay coupled and answer every call alike, and the programs ask the same next call after
answers that are alike, the results of the programs are alike: `lockstep_run`.
-/

namespace ConfigCenter.Base.Program

variable {C : Type} {R : C → Type} {A A' B B' E S S' : Type}

/-- Two programs make the same calls as long as the answers are alike, and their results are
the same then. -/
inductive Similar (alike : (c : C) → R c → R c → Prop) (same : A → A' → Prop) :
    Program C R A → Program C R A' → Prop
  | done {a : A} {a' : A'} (h : same a a') : Similar alike same (.done a) (.done a')
  | call {c : C} {next : R c → Program C R A} {next' : R c → Program C R A'}
      (h : ∀ r r', alike c r r' → Similar alike same (next r) (next' r')) :
      Similar alike same (.call c next) (.call c next')

variable {alike : (c : C) → R c → R c → Prop} {same : A → A' → Prop} {same' : B → B' → Prop}

/-- Sequences of similar programs are similar. -/
theorem Similar.andThen {p : Program C R A} {p' : Program C R A'} {f : A → Program C R B}
    {f' : A' → Program C R B'} (hp : Similar alike same p p')
    (hf : ∀ a a', same a a' → Similar alike same' (f a) (f' a')) :
    Similar alike same' (p.andThen f) (p'.andThen f') := by
  induction hp with
  | done h => exact hf _ _ h
  | call h ih => exact .call ih

/-- Similar programs have the same result, or have both none yet. -/
theorem Similar.result? {p : Program C R A} {p' : Program C R A'} (h : Similar alike same p p') :
    Option.Rel same p.result? p'.result? := by
  cases h with
  | done h => exact .some h
  | call h => exact .none

private theorem eq_none_of_rel {α β : Type} {r : α → β → Prop} {o : Option β}
    (h : Option.Rel r none o) : o = none := by
  cases h
  rfl

private theorem exists_of_rel {α β : Type} {r : α → β → Prop} {a : α} {o : Option β}
    (h : Option.Rel r (some a) o) : ∃ b, o = some b ∧ r a b := by
  cases h with
  | some hab => exact ⟨_, rfl, hab⟩

/-- Two systems of clients: the objects are coupled, and the clients are similar one by one. -/
structure Lockstep (alike : (c : C) → R c → R c → Prop) (same : A → A' → Prop)
    (coupled : S → S' → Prop) (c : Clients (Program C R A) S) (c' : Clients (Program C R A') S') :
    Prop where
  shared : coupled c.shared c'.shared
  locals : ∀ i : Nat, Option.Rel (Similar alike same) c.locals[i]? c'.locals[i]?

/-- The clients of two systems in lockstep have the same results, if any. -/
theorem Lockstep.results {coupled : S → S' → Prop} {c : Clients (Program C R A) S}
    {c' : Clients (Program C R A') S'} (h : Lockstep alike same coupled c c') (i : Nat) :
    Option.Rel same (c.locals[i]?.bind Program.result?) (c'.locals[i]?.bind Program.result?) := by
  have hi := h.locals i
  cases hl : c.locals[i]? with
  | none =>
    rw [hl] at hi
    rw [eq_none_of_rel hi]
    exact .none
  | some p =>
    rw [hl] at hi
    obtain ⟨p', hl', hp⟩ := exists_of_rel hi
    rw [hl']
    exact hp.result?

section Objects

variable (respond : E → S → (c : C) → R c × S) (respond' : E → S' → (c : C) → R c × S')

/-- Coupled objects answer every call that is `fair` alike and stay coupled. -/
def Matching (alike : (c : C) → R c → R c → Prop) (coupled : S → S' → Prop)
    (fair : E → S → C → Prop) : Prop :=
  ∀ e s s' c, coupled s s' → fair e s c →
    alike c (respond e s c).1 (respond' e s' c).1 ∧ coupled (respond e s c).2 (respond' e s' c).2

variable {respond respond'} {coupled : S → S' → Prop} {fair : E → S → C → Prop}

private theorem turn_cases (c : Clients (Program C R A) S) (e : E × Nat) :
    turn c e = [] ∨ ∃ m, turn c e = [m] := by
  unfold turn
  split
  · exact .inr ⟨_, rfl⟩
  · exact .inl rfl

/-- A fair turn keeps two systems in lockstep. -/
theorem lockstep_step (hm : Matching respond respond' alike coupled fair)
    {c : Clients (Program C R A) S} {c' : Clients (Program C R A') S'}
    (h : Lockstep alike same coupled c c') {e : E × Nat}
    (hfair : ∀ m ∈ turn c e, fair m.input c.shared m.call) :
    Lockstep alike same coupled (Clients.step (act respond) c e)
      (Clients.step (act respond') c' e) := by
  have he := h.locals e.2
  cases hl : c.locals[e.2]? with
  | none =>
    rw [hl] at he
    have hl' := eq_none_of_rel he
    rw [Clients.step_of_none _ hl, Clients.step_of_none _ hl']
    exact h
  | some p =>
    rw [hl] at he
    obtain ⟨p', hl', hp⟩ := exists_of_rel he
    have hact : Similar alike same (act respond e.1 e.2 p c.shared).1
          (act respond' e.1 e.2 p' c'.shared).1 ∧
        coupled (act respond e.1 e.2 p c.shared).2 (act respond' e.1 e.2 p' c'.shared).2 := by
      cases hp with
      | done ha => exact ⟨.done ha, h.shared⟩
      | @call d next next' hnext =>
        have hturn : turn c e = [⟨e.2, e.1, d⟩] := by
          rw [turn, hl]
        have hd := hfair ⟨e.2, e.1, d⟩ (by rw [hturn]; exact List.mem_singleton_self _)
        obtain ⟨halike, hcoupled⟩ := hm e.1 c.shared c'.shared d h.shared hd
        exact ⟨hnext _ _ halike, hcoupled⟩
    constructor
    · rw [Clients.shared_step _ hl, Clients.shared_step _ hl']
      exact hact.2
    · intro i
      rw [Clients.locals_step _ hl, Clients.locals_step _ hl']
      by_cases hi : e.2 = i
      · rw [if_pos hi, if_pos hi]
        exact .some hact.1
      · rw [if_neg hi, if_neg hi]
        exact h.locals i

/-- Lockstep rule: a schedule whose calls are all fair keeps two systems in lockstep. -/
theorem lockstep_run (hm : Matching respond respond' alike coupled fair)
    {c : Clients (Program C R A) S} {c' : Clients (Program C R A') S'}
    (h : Lockstep alike same coupled c c') {es : List (E × Nat)}
    (hfair : Along (after respond) (fun s m ↦ fair m.input s m.call) c.shared
      (calls respond c es)) :
    Lockstep alike same coupled (run (Clients.step (act respond)) c es)
      (run (Clients.step (act respond')) c' es) := by
  induction es generalizing c c' with
  | nil => exact h
  | cons e es ih =>
    rw [calls, along_append, ← shared_turn] at hfair
    refine ih (lockstep_step hm h ?_) hfair.2
    intro m hmem
    rcases turn_cases c e with hturn | ⟨m', hturn⟩
    · rw [hturn] at hmem
      cases hmem
    · rw [hturn] at hmem hfair
      rw [List.mem_singleton.mp hmem]
      exact hfair.1.1

end Objects
end ConfigCenter.Base.Program
