import ConfigCenter.Base.Paging
import ConfigCenter.Base.Table

/-!
# Row lists seen through observations

Library `Base`. Two tables of different row types hold the same data when their
rows look the same through an observation of each. Selections, rewritings and
lookups that depend only on what is observed preserve this.
-/

namespace ConfigCenter.Base

variable {ρ ρ' τ : Type} {f : ρ → τ} {g : ρ' → τ} {a : List ρ} {b : List ρ'}

/-- The rows of two lists look the same, one by one. -/
def Alike (f : ρ → τ) (g : ρ' → τ) (a : List ρ) (b : List ρ') : Prop := a.map f = b.map g

namespace Alike

/-- Rows that look alike keep the lists alike. -/
theorem concat (h : Alike f g a b) {x : ρ} {y : ρ'} (hxy : f x = g y) :
    Alike f g (a ++ [x]) (b ++ [y]) := by
  unfold Alike at h ⊢
  rw [List.map_append, List.map_append, h, List.map_singleton, List.map_singleton, hxy]

/-- Selections by what is observed keep the lists alike. -/
theorem filter (h : Alike f g a b) {p : ρ → Bool} {q : ρ' → Bool} (r : τ → Bool)
    (hp : ∀ x ∈ a, p x = r (f x)) (hq : ∀ y ∈ b, q y = r (g y)) :
    Alike f g (a.filter p) (b.filter q) := by
  unfold Alike at h ⊢
  rw [List.filter_congr hp, List.filter_congr hq]
  have hf := List.filter_map (p := r) (f := f) (l := a)
  have hg := List.filter_map (p := r) (f := g) (l := b)
  simp only [Function.comp_def] at hf hg
  rw [← hf, ← hg, h]

/-- Rewritings of what is observed keep the lists alike. -/
theorem mapWhere (h : Alike f g a b) {p : ρ → Bool} {q : ρ' → Bool} {u : ρ → ρ} {v : ρ' → ρ'}
    (r : τ → Bool) (w : τ → τ) (hp : ∀ x, p x = r (f x)) (hq : ∀ y, q y = r (g y))
    (hu : ∀ x, f (u x) = w (f x)) (hv : ∀ y, g (v y) = w (g y)) :
    Alike f g (a.map fun x ↦ if p x then u x else x) (b.map fun y ↦ if q y then v y else y) := by
  have hf (x : ρ) : f (if p x then u x else x) = if r (f x) then w (f x) else f x := by
    rw [hp]
    split
    · exact hu x
    · rfl
  have hg (y : ρ') : g (if q y then v y else y) = if r (g y) then w (g y) else g y := by
    rw [hq]
    split
    · exact hv y
    · rfl
  unfold Alike at h ⊢
  simp only [List.map_map, Function.comp_def, hf, hg]
  have hw := congrArg (List.map fun t ↦ if r t then w t else t) h
  simpa only [List.map_map, Function.comp_def] using hw

/-- First matches look the same. -/
theorem find? (h : Alike f g a b) {p : ρ → Bool} {q : ρ' → Bool} (r : τ → Bool)
    (hp : ∀ x, p x = r (f x)) (hq : ∀ y, q y = r (g y)) :
    (a.find? p).map f = (b.find? q).map g := by
  have hf : p = r ∘ f := funext hp
  have hg : q = r ∘ g := funext hq
  rw [hf, hg, ← List.find?_map, ← List.find?_map, h]

/-- Lists that agree on two observations agree on both at once. -/
theorem prod {τ' : Type} {f' : ρ → τ'} {g' : ρ' → τ'} (h : Alike f g a b)
    (h' : Alike f' g' a b) : Alike (fun x ↦ (f x, f' x)) (fun y ↦ (g y, g' y)) a b := by
  unfold Alike at h h' ⊢
  rw [← List.zip_map', ← List.zip_map', h, h']

/-- Listings of rows that look alike show the same rows in some order. -/
theorem map_perm (h : Alike f g a b) {a' : List ρ} {b' : List ρ'} (ha : a'.Perm a)
    (hb : b'.Perm b) : (a'.map f).Perm (b'.map g) := by
  have hm : (a.map f).Perm (b'.map g) := by
    rw [h]
    exact hb.symm.map g
  exact (ha.map f).trans hm

section Pages

variable {κ : Type} [LinearOrder κ] {key : ρ → κ} {key' : ρ' → κ} {a' : List ρ} {b' : List ρ'}
  {offset limit : Nat}

/-- Pages of two ordered listings show the same rows when the rows look alike with their keys
and the page bounds separate no rows of one key. -/
theorem page_perm (h : Alike (fun x ↦ (key x, f x)) (fun y ↦ (key' y, g y)) a b)
    (ha : a'.Perm a) (hb : b'.Perm b) (hda : Descending key a') (hdb : Descending key' b')
    (hfrom : Uncut key offset a) (hto : Uncut key (offset + limit) a) :
    (((a'.drop offset).take limit).map f).Perm (((b'.drop offset).take limit).map g) := by
  have hp := h.map_perm ha hb
  have hda' : Descending Prod.fst (a'.map fun x ↦ (key x, f x)) := List.pairwise_map.mpr hda
  have hdb' : Descending Prod.fst (b'.map fun y ↦ (key' y, g y)) := List.pairwise_map.mpr hdb
  have hu {n : Nat} (hn : Uncut key n a) : Uncut Prod.fst n (a'.map fun x ↦ (key x, f x)) := by
    intro r hr hlt
    obtain ⟨x, hx, rfl⟩ := List.mem_map.mp hr
    rw [List.countP_map] at hlt ⊢
    exact hn.perm ha.symm x hx hlt
  have hpage := page_perm_of_take (take_perm_of_descending hp hda' hdb' (hu hfrom))
    (take_perm_of_descending hp hda' hdb' (hu hto))
  simpa [List.map_drop, List.map_take, List.map_map, Function.comp_def] using hpage.map Prod.snd

/-- A page that takes all rows or none shows the same rows in any order of the listings. -/
theorem page_perm_of_outside (h : Alike f g a b) (ha : a'.Perm a) (hb : b'.Perm b)
    (hfrom : Outside offset a) (hto : Outside (offset + limit) a) :
    (((a'.drop offset).take limit).map f).Perm (((b'.drop offset).take limit).map g) := by
  have hp := h.map_perm ha hb
  have ho {n : Nat} (hn : Outside n a) : Outside n (a'.map f) := by
    rw [Outside, List.length_map, ha.length_eq]
    exact hn
  have hpage := page_perm_of_take (take_perm_of_outside hp (ho hfrom))
    (take_perm_of_outside hp (ho hto))
  simpa [List.map_drop, List.map_take] using hpage

end Pages
end Alike
end ConfigCenter.Base
