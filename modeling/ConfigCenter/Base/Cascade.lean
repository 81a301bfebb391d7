import Mathlib.Data.List.Basic

/-!
# Deletions that cascade

Library `Base`. Rows of tables refer to rows of other tables, their parents, and go with
them. `Doomed` says which rows a deletion takes along; where the references form no cycle it
is computed, and what remains refers only to rows that remain.
-/

namespace ConfigCenter.Base

variable {T R : Type}

/-- Which tables the rows of a table refer to, and which of their rows. The rank of a table is
above those of its parents. -/
structure References (T R : Type) where
  parents : T → List T
  /-- A row of the first table refers to a row of the second. -/
  refers : T → T → R → R → Bool
  rank : T → Nat
  rank_lt : ∀ {t p : T}, p ∈ parents t → rank p < rank t

namespace References

variable (refs : References T R) (rows : T → List R) (chosen : T → R → Bool)

/-- A row goes if it is chosen or a row that it refers to goes. -/
inductive Doomed : T → R → Prop where
  | chosen {t : T} {row : R} (h : chosen t row = true) : Doomed t row
  | cascades {t p : T} {row parent : R} (hp : p ∈ refs.parents t) (hparent : parent ∈ rows p)
    (hrefers : refs.refers t p row parent = true) (h : Doomed p parent) : Doomed t row

/-- The row goes after at most `n` references. -/
def doomedUpTo : Nat → T → R → Bool
  | 0, t, row => chosen t row
  | n + 1, t, row =>
    chosen t row || (refs.parents t).any fun p ↦
      (rows p).any fun parent ↦ refs.refers t p row parent && doomedUpTo n p parent

/-- The rows of a table that a deletion leaves. -/
def afterDelete (t : T) : List R :=
  (rows t).filter fun row ↦ !refs.doomedUpTo rows chosen (refs.rank t) t row

variable {refs rows chosen}

/-- Steps up to the rank of a table decide which of its rows go. -/
theorem doomedUpTo_iff {n : Nat} {t : T} (h : refs.rank t ≤ n) {row : R} :
    refs.doomedUpTo rows chosen n t row = true ↔ refs.Doomed rows chosen t row := by
  induction n generalizing t row with
  | zero =>
    constructor
    · exact .chosen
    · intro hdoomed
      cases hdoomed with
      | chosen hchosen => exact hchosen
      | cascades hp _ _ _ =>
        have hlt := refs.rank_lt hp
        omega
  | succ n ih =>
    have hrank {p : T} (hp : p ∈ refs.parents t) : refs.rank p ≤ n := by
      have hlt := refs.rank_lt hp
      omega
    simp only [doomedUpTo, Bool.or_eq_true, List.any_eq_true, Bool.and_eq_true]
    constructor
    · rintro (hchosen | ⟨p, hp, parent, hparent, hrefers, hdoomed⟩)
      · exact .chosen hchosen
      · exact .cascades hp hparent hrefers ((ih (hrank hp)).mp hdoomed)
    · intro hdoomed
      cases hdoomed with
      | chosen hchosen => exact .inl hchosen
      | cascades hp hparent hrefers hdoomed =>
        exact .inr ⟨_, hp, _, hparent, hrefers, (ih (hrank hp)).mpr hdoomed⟩

/-- The rows of a table that refers to one other are gone with those of the other. -/
theorem doomed_iff_parent {t p : T} (h : refs.parents t = [p]) {row : R} :
    refs.Doomed rows chosen t row ↔ chosen t row = true ∨
      ∃ parent ∈ rows p, refs.refers t p row parent = true ∧ refs.Doomed rows chosen p parent := by
  constructor
  · intro hdoomed
    cases hdoomed with
    | chosen hchosen => exact .inl hchosen
    | cascades hp hparent hrefers hdoomed =>
      rw [h] at hp
      obtain rfl := List.mem_singleton.mp hp
      exact .inr ⟨_, hparent, hrefers, hdoomed⟩
  · rintro (hchosen | ⟨parent, hparent, hrefers, hdoomed⟩)
    · exact .chosen hchosen
    · exact .cascades (by rw [h]; exact List.mem_singleton_self p) hparent hrefers hdoomed

/-- From a table without parents the chosen rows go and no others. -/
theorem doomed_root_iff {t : T} (h : refs.parents t = []) {row : R} :
    refs.Doomed rows chosen t row ↔ chosen t row = true := by
  constructor
  · intro hdoomed
    cases hdoomed with
    | chosen hchosen => exact hchosen
    | cascades hp =>
      rw [h] at hp
      cases hp
  · exact .chosen

end References
end ConfigCenter.Base
