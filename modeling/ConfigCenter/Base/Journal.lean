import Mathlib.Data.List.Basic
import Mathlib.Data.List.Nodup

/-!
# Journals

Library `Base`. A journal is a list that only grows at its end. `Linked` relates
every entry to the one before it and `Numbered` counts the entries from one; both
are stated so that one more entry costs one more fact about it.
-/

namespace ConfigCenter.Base

variable {α : Type}

/-- Every entry relates to the one before it, the first one to `prev`. -/
def Linked (R : Option α → α → Prop) : Option α → List α → Prop
  | _, [] => True
  | prev, x :: xs => R prev x ∧ Linked R (some x) xs

/-- One more entry has to relate to the last one. -/
theorem linked_concat (R : Option α → α → Prop) (prev : Option α) (l : List α) (x : α) :
    Linked R prev (l ++ [x]) ↔ Linked R prev l ∧ R (l.getLast?.or prev) x := by
  induction l generalizing prev with
  | nil => simp [Linked]
  | cons y l ih =>
    have hl : l.getLast?.or (some y) = (y :: l).getLast?.or prev := by
      cases l with
      | nil => rfl
      | cons z l => simp [List.getLast?_cons]
    rw [List.cons_append, Linked, Linked, ih, and_assoc, hl]

/-- The entries carry the numbers 1, 2, 3 and so on. -/
def Numbered (number : α → Int) (l : List α) : Prop :=
  ∀ (i : Nat) (x : α), l[i]? = some x → number x = i + 1

variable {number : α → Int} {l : List α}

/-- An empty journal is numbered. -/
theorem numbered_nil : Numbered number ([] : List α) := by
  intro i x h
  simp at h

/-- One more entry has to carry the next number. -/
theorem Numbered.concat (h : Numbered number l) {x : α} (hx : number x = l.length + 1) :
    Numbered number (l ++ [x]) := by
  intro i y hy
  rcases Nat.lt_trichotomy i l.length with hlt | heq | hgt
  · rw [List.getElem?_append_left hlt] at hy
    exact h i y hy
  · rw [heq, List.getElem?_append_right (Nat.le_refl _), Nat.sub_self] at hy
    cases hy
    rw [hx, heq]
  · rw [List.getElem?_eq_none (by simp; omega)] at hy
    cases hy

/-- No number occurs twice. -/
theorem Numbered.nodup (h : Numbered number l) : (l.map number).Nodup := by
  rw [List.nodup_iff_getElem?_ne_getElem?]
  intro i j hij hj heq
  rw [List.length_map] at hj
  have hi : i < l.length := by omega
  rw [List.getElem?_map, List.getElem?_map, List.getElem?_eq_getElem hi,
    List.getElem?_eq_getElem hj] at heq
  have hn := Option.some.inj heq
  rw [h i _ (List.getElem?_eq_getElem hi), h j _ (List.getElem?_eq_getElem hj)] at hn
  omega

/-- The last number is the number of entries. -/
theorem Numbered.getLast (h : Numbered number l) {x : α} (hx : l.getLast? = some x) :
    number x = l.length := by
  rw [List.getLast?_eq_getElem?] at hx
  have hlt := (List.getElem?_eq_some_iff.mp hx).1
  have := h _ x hx
  omega

/-- Numbers above a start are the next ones. -/
theorem Numbered.map_eq {f : α → Int} {start : Int}
    (h : Numbered (fun x ↦ f x - start) l) :
    l.map f = (List.range l.length).map fun k : Nat ↦ start + 1 + (k : Int) := by
  apply List.ext_getElem?
  intro i
  rw [List.getElem?_map, List.getElem?_map]
  by_cases hi : i < l.length
  · rw [List.getElem?_range hi, List.getElem?_eq_getElem hi, Option.map_some, Option.map_some]
    have hn : f l[i] - start = i + 1 := h i l[i] (List.getElem?_eq_getElem hi)
    congr 1
    omega
  · rw [List.getElem?_eq_none (by simpa using hi), List.getElem?_eq_none (by simpa using hi)]
    rfl

/-- Every entry carries a number up to the number of entries. -/
theorem Numbered.mem_bounds (h : Numbered number l) {x : α} (hx : x ∈ l) :
    1 ≤ number x ∧ number x ≤ l.length := by
  obtain ⟨i, hi⟩ := List.getElem?_of_mem hx
  have hn := h i x hi
  have hlt := (List.getElem?_eq_some_iff.mp hi).1
  omega

/-- Every number up to the number of entries is carried by an entry. -/
theorem Numbered.exists_mem (h : Numbered number l) {n : Int} (h1 : 1 ≤ n)
    (hn : n ≤ l.length) : ∃ x ∈ l, number x = n := by
  have hlt : (n - 1).toNat < l.length := by omega
  refine ⟨l[(n - 1).toNat], List.getElem_mem hlt, ?_⟩
  have := h _ _ (List.getElem?_eq_getElem hlt)
  omega

/-- An entry with the highest number is the last one. -/
theorem Numbered.getLast_of_forall_le (h : Numbered number l) {x : α} (hx : x ∈ l)
    (hmax : ∀ y ∈ l, number y ≤ number x) : l.getLast? = some x := by
  have hpos : 1 ≤ (l.length : Int) := by
    have hlength := List.length_pos_of_mem hx
    omega
  obtain ⟨y, hy, hn⟩ := h.exists_mem hpos (Int.le_refl _)
  have hle := hmax y hy
  obtain ⟨i, hi⟩ := List.getElem?_of_mem hx
  have hnumber := h i x hi
  have hlt := (List.getElem?_eq_some_iff.mp hi).1
  have hlast : l.length - 1 = i := by omega
  rw [List.getLast?_eq_getElem?, hlast, hi]

end ConfigCenter.Base
