import ConfigCenter.Base.Run

/-!
# Interleaved clients

Library `Base`. Any number of clients, each with a local state, take turns on one
shared state; a schedule names the client that performs its next atomic section
and gives the input this section reads. `Coherent` splits an invariant into a
part about the shared state and an assertion of each client about it, and
`run_coherent` asks of a section that it keeps its own client's assertion and
disturbs no other.
-/

namespace ConfigCenter.Base

/-- Local states of the clients around the state they share. -/
structure Clients (L S : Type) where
  locals : List L
  shared : S

namespace Clients

variable {E L S : Type} (act : E → Nat → L → S → L × S)

/-- The named client performs one section; a name without a client is skipped. -/
def step (c : Clients L S) (e : E × Nat) : Clients L S :=
  match c.locals[e.2]? with
  | none => c
  | some l =>
    { locals := c.locals.set e.2 (act e.1 e.2 l c.shared).1
      shared := (act e.1 e.2 l c.shared).2 }

/-- A name without a client changes nothing. -/
theorem step_of_none {c : Clients L S} {e : E × Nat} (h : c.locals[e.2]? = none) :
    step act c e = c := by
  simp only [step, h]

/-- The shared state after a section. -/
theorem shared_step {c : Clients L S} {e : E × Nat} {l : L} (h : c.locals[e.2]? = some l) :
    (step act c e).shared = (act e.1 e.2 l c.shared).2 := by
  simp only [step, h]

/-- A section moves the local state of its own client only. -/
theorem locals_step {c : Clients L S} {e : E × Nat} {l : L} (h : c.locals[e.2]? = some l)
    (i : Nat) :
    (step act c e).locals[i]? =
      if e.2 = i then some (act e.1 e.2 l c.shared).1 else c.locals[i]? := by
  have hlt : e.2 < c.locals.length := (List.getElem?_eq_some_iff.mp h).1
  simp only [step, h, List.getElem?_set, hlt, if_true]

/-- A section adds and removes no client. -/
theorem length_locals_step (c : Clients L S) (e : E × Nat) :
    (step act c e).locals.length = c.locals.length := by
  cases h : c.locals[e.2]? with
  | none => rw [step_of_none act h]
  | some l => simp only [step, h, List.length_set]

/-- No schedule adds or removes a client. -/
theorem length_locals_run (c : Clients L S) (es : List (E × Nat)) :
    (run (step act) c es).locals.length = c.locals.length := by
  induction es generalizing c with
  | nil => rfl
  | cons e es ih => rw [run_cons, ih, length_locals_step]

/-- The shared state satisfies `I` and every client's assertion `A` holds of it. -/
structure Coherent (I : S → Prop) (A : Nat → L → S → Prop) (c : Clients L S) : Prop where
  shared : I c.shared
  client : ∀ i l, c.locals[i]? = some l → A i l c.shared

/-- `Q` holds of the section that a schedule entry lets run, if it names a client. -/
def Acts (Q : E → Nat → L → S → Prop) (c : Clients L S) (e : E × Nat) : Prop :=
  ∀ l ∈ c.locals[e.2]?, Q e.1 e.2 l c.shared

instance (Q : E → Nat → L → S → Prop) [∀ e i l s, Decidable (Q e i l s)] (c : Clients L S)
    (e : E × Nat) : Decidable (Acts Q c e) :=
  inferInstanceAs (Decidable (∀ l ∈ c.locals[e.2]?, Q e.1 e.2 l c.shared))

variable {act} {I : S → Prop} {A : Nat → L → S → Prop} {Q : E → Nat → L → S → Prop}

/-- One section keeps a coherent system coherent. -/
theorem coherent_step {c : Clients L S} {e : E × Nat} (hc : Coherent I A c) (hq : Acts Q c e)
    (hown : ∀ e i l s, Q e i l s → I s → A i l s →
      I (act e i l s).2 ∧ A i (act e i l s).1 (act e i l s).2)
    (hother : ∀ e i l s j m, i ≠ j → Q e i l s → I s → A i l s → A j m s →
      A j m (act e i l s).2) :
    Coherent I A (step act c e) := by
  cases hl : c.locals[e.2]? with
  | none => rwa [step_of_none act hl]
  | some l =>
    have hql := hq l hl
    have ho := hown e.1 e.2 l c.shared hql hc.shared (hc.client e.2 l hl)
    refine ⟨by rw [shared_step act hl]; exact ho.1, ?_⟩
    intro j m hm
    rw [shared_step act hl]
    rw [locals_step act hl] at hm
    split at hm
    · next hj =>
      cases hm
      exact hj ▸ ho.2
    · next hj =>
      exact hother e.1 e.2 l c.shared j m hj hql hc.shared (hc.client e.2 l hl)
        (hc.client j m hm)

/-- Interference rule: sections that keep their own client's assertion and everyone
else's keep the whole system coherent under every schedule. -/
theorem run_coherent {c : Clients L S} {es : List (E × Nat)} (hc : Coherent I A c)
    (ha : Along (step act) (Acts Q) c es)
    (hown : ∀ e i l s, Q e i l s → I s → A i l s →
      I (act e i l s).2 ∧ A i (act e i l s).1 (act e i l s).2)
    (hother : ∀ e i l s j m, i ≠ j → Q e i l s → I s → A i l s → A j m s →
      A j m (act e i l s).2) :
    Coherent I A (run (step act) c es) :=
  run_invariant_along hc (fun _ _ hi hq ↦ coherent_step hi hq hown hother) ha

end Clients

/-- A list of names without repetition that names just the clients with `p` is as long as they
are many. -/
theorem length_eq_countP {L : Type} {names : List Nat} {locals : List L} {p : L → Bool}
    (hnodup : names.Nodup) (hnames : ∀ i, i ∈ names ↔ ∃ l, locals[i]? = some l ∧ p l) :
    names.length = locals.countP p := by
  have hindices : ((locals.zipIdx.filter fun x ↦ p x.1).map Prod.snd).Nodup := by
    have hsub : ((locals.zipIdx.filter fun x ↦ p x.1).map Prod.snd).Sublist
        (locals.zipIdx.map Prod.snd) := List.filter_sublist.map Prod.snd
    rw [List.zipIdx_map_snd] at hsub
    exact hsub.nodup List.nodup_range'
  have hperm : names.Perm ((locals.zipIdx.filter fun x ↦ p x.1).map Prod.snd) := by
    refine (List.perm_ext_iff_of_nodup hnodup hindices).mpr fun i ↦ ?_
    rw [hnames]
    simp only [List.mem_map, List.mem_filter, Prod.exists, List.mk_mem_zipIdx_iff_getElem?]
    constructor
    · rintro ⟨l, hl, hp⟩
      exact ⟨l, i, ⟨hl, hp⟩, rfl⟩
    · rintro ⟨l, j, ⟨hl, hp⟩, rfl⟩
      exact ⟨l, hl, hp⟩
  rw [hperm.length_eq, List.length_map, ← List.countP_eq_length_filter]
  calc locals.zipIdx.countP (fun x ↦ p x.1)
      = (locals.zipIdx.map Prod.fst).countP p := (List.countP_map ..).symm
    _ = locals.countP p := by rw [List.zipIdx_map_fst]

end ConfigCenter.Base
