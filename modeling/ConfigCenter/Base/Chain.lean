import Mathlib.Logic.Relation

/-!
# Chains of successors

Library `Base`. A walk along a partial successor function stops at the first
element without a successor, or it goes on for ever. `Chain` lists what a walk
that stops has visited. Taking successors away keeps every walk finite; giving an
element a successor does so exactly when the successor's walk does not come back
to the element.
-/

namespace ConfigCenter.Base

variable {α : Type}

/-- What a walk along `next` visits from an element until it stops. -/
inductive Chain (next : α → Option α) : α → List α → Prop where
  | stop {a : α} (h : next a = none) : Chain next a [a]
  | step {a b : α} {l : List α} (h : next a = some b) (hl : Chain next b l) :
    Chain next a (a :: l)

/-- The walk from an element stops. -/
def Ends (next : α → Option α) (a : α) : Prop := ∃ l, Chain next a l

/-- The walk from one element arrives at another after any number of steps. -/
def Arrives (next : α → Option α) (a b : α) : Prop :=
  Relation.ReflTransGen (fun x y ↦ next x = some y) a b

variable {next next' : α → Option α}

/-- A walk has one chain. -/
theorem Chain.unique {a : α} {l l' : List α} (h : Chain next a l) (h' : Chain next a l') :
    l = l' := by
  induction h generalizing l' with
  | stop hn =>
    cases h' with
    | stop _ => rfl
    | step hs _ => cases hn.symm.trans hs
  | step hs _ ih =>
    cases h' with
    | stop hn => cases hn.symm.trans hs
    | step hs' hl' =>
      cases hs.symm.trans hs'
      rw [ih hl']

/-- An element with a successor stops when its successor does. -/
theorem ends_iff_of_some {a b : α} (h : next a = some b) : Ends next a ↔ Ends next b := by
  constructor
  · rintro ⟨l, hl⟩
    cases hl with
    | stop hn => cases hn.symm.trans h
    | step hs hl' =>
      cases hs.symm.trans h
      exact ⟨_, hl'⟩
  · rintro ⟨l, hl⟩
    exact ⟨_, .step h hl⟩

/-- Where a finite walk arrives, a walk goes on that is no longer. -/
theorem Chain.of_arrives {a b : α} (h : Arrives next a b) {l : List α} (hl : Chain next a l) :
    ∃ l', Chain next b l' ∧ l'.length ≤ l.length := by
  induction h with
  | refl => exact ⟨l, hl, Nat.le_refl _⟩
  | tail _ hs ih =>
    obtain ⟨m, hm, hle⟩ := ih
    cases hm with
    | stop hn => cases hn.symm.trans hs
    | step hs' hm' =>
      cases hs'.symm.trans hs
      exact ⟨_, hm', Nat.le_of_succ_le hle⟩

/-- A walk that comes back to where it began does not stop. -/
theorem not_ends_of_arrives {a b : α} (h : next a = some b) (hb : Arrives next b a) :
    ¬ Ends next a := by
  rintro ⟨l, hl⟩
  cases hl with
  | stop hn => cases hn.symm.trans h
  | step hs hm =>
    cases hs.symm.trans h
    obtain ⟨m, hm', hle⟩ := hm.of_arrives hb
    -- the chain of `a` would be no longer than its own tail
    rw [hm'.unique (.step h hm), List.length_cons] at hle
    exact absurd hle (Nat.not_succ_le_self _)

/-- Taking successors away keeps a walk finite. -/
theorem Ends.of_sub (hsub : ∀ x, next' x = none ∨ next' x = next x) {a : α} (h : Ends next a) :
    Ends next' a := by
  obtain ⟨l, hl⟩ := h
  induction hl with
  | @stop a hn => exact ⟨[a], .stop ((hsub a).elim id fun he ↦ he.trans hn)⟩
  | @step a b l hs _ ih =>
    cases hsub a with
    | inl hn => exact ⟨[a], .stop hn⟩
    | inr he => exact (ends_iff_of_some (he.trans hs)).mpr ih

section Extension

variable {a p : α} (ha : next a = none) (hp : next' a = some p)
  (hne : ∀ x, x ≠ a → next' x = next x)

include ha hne in
/-- A walk goes where it went before an element without successor was given one. -/
theorem Arrives.extend {x y : α} (h : Arrives next x y) : Arrives next' x y := by
  refine Relation.ReflTransGen.mono (fun u v hs ↦ ?_) x y h
  have hu : u ≠ a := by
    rintro rfl
    cases ha.symm.trans hs
  rw [hne u hu, hs]

include hne in
/-- A finite walk that does not arrive at the element is the walk it was. -/
theorem Chain.extend {x : α} {l : List α} (h : Chain next x l) (hx : ¬ Arrives next x a) :
    Chain next' x l := by
  induction h with
  | @stop x hn =>
    have hxa : x ≠ a := fun he ↦ hx (he ▸ .refl)
    exact .stop ((hne x hxa).trans hn)
  | @step x y l hs _ ih =>
    have hxa : x ≠ a := fun he ↦ hx (he ▸ .refl)
    exact .step ((hne x hxa).trans hs) (ih fun hy ↦ hx (.head hs hy))

include ha hp hne in
/-- A new successor keeps every walk finite exactly when its own walk does not come back. -/
theorem forall_ends_extend (h : ∀ x, Ends next x) :
    (∀ x, Ends next' x) ↔ ¬ Arrives next p a := by
  constructor
  · intro h' hpa
    exact not_ends_of_arrives hp (hpa.extend ha hne) (h' a)
  · intro hpa x
    have hend : Ends next' a := by
      obtain ⟨l, hl⟩ := h p
      exact ⟨_, .step hp (hl.extend hne hpa)⟩
    -- along the old chain of `x`, which meets `a` at most at its end
    obtain ⟨l, hl⟩ := h x
    induction hl with
    | @stop x hn =>
      by_cases hxa : x = a
      · exact hxa ▸ hend
      · exact ⟨[x], .stop ((hne x hxa).trans hn)⟩
    | @step x y l hs _ ih =>
      have hxa : x ≠ a := by
        rintro rfl
        cases ha.symm.trans hs
      exact (ends_iff_of_some ((hne x hxa).trans hs)).mpr ih

end Extension

end ConfigCenter.Base
