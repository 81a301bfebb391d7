import Mathlib.Data.List.Sort
import Mathlib.Data.List.Count

/-!
# Pages of an ordered scan

Library `Base`. A page is a window into rows listed from the largest key down.
Rows with one key may be listed in any order among themselves, so a page is
determined by the rows exactly when neither of its bounds separates two rows
with one key.
-/

namespace ConfigCenter.Base

variable {ρ κ : Type} [LinearOrder κ]

/-- The rows stand from the largest key down. -/
def Descending (key : ρ → κ) (rows : List ρ) : Prop := rows.Pairwise fun a b ↦ key b ≤ key a

/-- The bound lies in front of all rows or behind them. -/
def Outside (n : Nat) (rows : List ρ) : Prop := n = 0 ∨ rows.length ≤ n

instance (n : Nat) (rows : List ρ) : Decidable (Outside n rows) :=
  inferInstanceAs (Decidable (_ ∨ _))

/-- No two rows with one key are separated when the first `n` of the ordered rows are
taken: a key with fewer than `n` rows above it has all its rows among them. -/
def Uncut (key : ρ → κ) (n : Nat) (rows : List ρ) : Prop :=
  ∀ r ∈ rows, rows.countP (fun x ↦ key r < key x) < n → rows.countP (fun x ↦ key r ≤ key x) ≤ n

instance (key : ρ → κ) (n : Nat) (rows : List ρ) : Decidable (Uncut key n rows) :=
  inferInstanceAs (Decidable (∀ r ∈ rows, _))

/-- Being uncut depends only on the keys of the rows, in any order. -/
theorem Uncut.perm {key : ρ → κ} {n : Nat} {a b : List ρ} (h : Uncut key n a) (hp : a.Perm b) :
    Uncut key n b := by
  intro r hr hlt
  rw [← hp.countP_eq] at hlt ⊢
  exact h r (hp.mem_iff.mpr hr) hlt

/-- Being uncut depends only on how the keys of the rows compare. -/
theorem Uncut.congr_key {key key' : ρ → κ} {n : Nat} {rows : List ρ} (h : Uncut key n rows)
    (hk : ∀ x ∈ rows, ∀ y ∈ rows, key' x ≤ key' y ↔ key x ≤ key y) : Uncut key' n rows := by
  intro r hr hlt
  have hle : rows.countP (fun x ↦ key' r ≤ key' x) = rows.countP (fun x ↦ key r ≤ key x) := by
    apply List.countP_congr
    intro x hx
    simp [hk r hr x hx]
  have hlt' : rows.countP (fun x ↦ key' r < key' x) = rows.countP (fun x ↦ key r < key x) := by
    apply List.countP_congr
    intro x hx
    rw [decide_eq_true_iff, decide_eq_true_iff, ← not_le, ← not_le, hk x hx r hr]
  rw [hle]
  rw [hlt'] at hlt
  exact h r hr hlt

/-- Whether a row belongs to the first `n`, told from the number of rows at or above it. -/
def among (key : ρ → κ) (n : Nat) (rows : List ρ) (r : ρ) : Bool :=
  rows.countP (fun x ↦ key r ≤ key x) ≤ n

private theorem among_of_mem_take {key : ρ → κ} {n : Nat} {rows : List ρ}
    (hd : Descending key rows) (hu : Uncut key n rows) {r : ρ} (hr : r ∈ rows.take n) :
    among key n rows r = true := by
  have hsplit : rows.take n ++ rows.drop n = rows := List.take_append_drop n rows
  have hlow : (rows.drop n).countP (fun x ↦ key r < key x) = 0 := by
    rw [List.countP_eq_zero]
    intro x hx
    rw [Descending, ← hsplit, List.pairwise_append] at hd
    simpa using hd.2.2 r hr x hx
  have hhigh : (rows.take n).countP (fun x ↦ key r < key x) < (rows.take n).length := by
    refine lt_of_le_of_ne List.countP_le_length ?_
    intro he
    simpa using List.countP_eq_length.mp he r hr
  have hlen : (rows.take n).length ≤ n := List.length_take_le n rows
  have hlt : rows.countP (fun x ↦ key r < key x) < n := by
    rw [← hsplit, List.countP_append, hlow]
    omega
  exact decide_eq_true (hu r (List.mem_of_mem_take hr) hlt)

private theorem not_among_of_mem_drop {key : ρ → κ} {n : Nat} {rows : List ρ}
    (hd : Descending key rows) {r : ρ} (hr : r ∈ rows.drop n) : among key n rows r = false := by
  have hsplit : rows.take n ++ rows.drop n = rows := List.take_append_drop n rows
  have hn : n < rows.length := by
    have hpos := List.length_pos_of_mem hr
    rw [List.length_drop] at hpos
    omega
  have hhigh : (rows.take n).countP (fun x ↦ key r ≤ key x) = n := by
    have hall : (rows.take n).countP (fun x ↦ key r ≤ key x) = (rows.take n).length := by
      rw [List.countP_eq_length]
      intro x hx
      rw [Descending, ← hsplit, List.pairwise_append] at hd
      simpa using hd.2.2 x hx r hr
    rw [hall, List.length_take, min_eq_left hn.le]
  have hlow : 0 < (rows.drop n).countP (fun x ↦ key r ≤ key x) :=
    List.countP_pos_iff.mpr ⟨r, hr, by simp⟩
  refine decide_eq_false ?_
  rw [← hsplit, List.countP_append, hhigh]
  omega

/-- An uncut prefix of ordered rows is a selection by rank. -/
theorem take_eq_filter_among {key : ρ → κ} {n : Nat} {rows : List ρ}
    (hd : Descending key rows) (hu : Uncut key n rows) :
    rows.take n = rows.filter (among key n rows) := by
  have hin : (rows.take n).filter (among key n rows) = rows.take n :=
    List.filter_eq_self.mpr fun _ hr ↦ among_of_mem_take hd hu hr
  have hout : (rows.drop n).filter (among key n rows) = [] := by
    rw [List.filter_eq_nil_iff]
    intro r hr
    simp [not_among_of_mem_drop hd hr]
  calc rows.take n = (rows.take n).filter (among key n rows) ++
        (rows.drop n).filter (among key n rows) := by rw [hin, hout, List.append_nil]
    _ = rows.filter (among key n rows) := by rw [← List.filter_append, List.take_append_drop]

/-- Two ordered listings of the same rows agree on an uncut prefix. -/
theorem take_perm_of_descending {key : ρ → κ} {n : Nat} {a b : List ρ} (hp : a.Perm b)
    (ha : Descending key a) (hb : Descending key b) (hu : Uncut key n a) :
    (a.take n).Perm (b.take n) := by
  have hrank : among key n a = among key n b := by
    funext r
    simp only [among, hp.countP_eq]
  rw [take_eq_filter_among ha hu, take_eq_filter_among hb (hu.perm hp), hrank]
  exact hp.filter _

/-- Two listings of the same rows that agree on the prefixes up to both bounds of a page
agree on the page. -/
theorem page_perm_of_take {a b : List ρ} {offset limit : Nat}
    (hfrom : (a.take offset).Perm (b.take offset))
    (hto : (a.take (offset + limit)).Perm (b.take (offset + limit))) :
    ((a.drop offset).take limit).Perm ((b.drop offset).take limit) := by
  rw [List.take_add, List.take_add] at hto
  exact (List.perm_append_left_iff _).mp (hto.trans (hfrom.symm.append_right _))

/-- A bound outside the rows leaves nothing to their order. -/
theorem take_perm_of_outside {n : Nat} {a b : List ρ} (hp : a.Perm b) (h : Outside n a) :
    (a.take n).Perm (b.take n) := by
  rcases h with rfl | h
  · simp
  · rw [List.take_of_length_le h, List.take_of_length_le (hp.length_eq ▸ h)]
    exact hp

/-- A stable sort from the largest key down reverses rows in their order of places exactly when
their keys rise strictly. -/
theorem insertionSort_eq_reverse_iff {μ : Type} [LinearOrder μ] {place : ρ → μ} (key : ρ → κ)
    {rows : List ρ} (hplace : rows.Pairwise fun a b ↦ place a < place b) :
    rows.insertionSort (fun a b ↦ key b ≤ key a) = rows.reverse ↔
      rows.Pairwise fun a b ↦ key a < key b := by
  have htotal : Std.Total fun a b : ρ ↦ key b ≤ key a := ⟨fun a b ↦ le_total _ _⟩
  have htrans : IsTrans ρ fun a b ↦ key b ≤ key a := ⟨fun _ _ _ hab hbc ↦ hbc.trans hab⟩
  have hsorted := List.pairwise_insertionSort (fun a b ↦ key b ≤ key a) rows
  have hperm := List.perm_insertionSort (fun a b ↦ key b ≤ key a) rows
  constructor
  · intro heq
    rw [heq, List.pairwise_reverse] at hsorted
    refine List.pairwise_iff_forall_sublist.mpr fun {a b} hab ↦ ?_
    have hle : key a ≤ key b := List.pairwise_iff_forall_sublist.mp hsorted hab
    refine lt_of_le_of_ne hle fun hkey ↦ ?_
    -- rows with one key keep their order, and the reversal does not
    have hpair := List.pair_sublist_insertionSort (r := fun a b ↦ key b ≤ key a) hkey.ge hab
    rw [heq, List.sublist_reverse_iff] at hpair
    exact lt_asymm (List.pairwise_iff_forall_sublist.mp hplace hab)
      (List.pairwise_iff_forall_sublist.mp hplace hpair)
  · intro hrise
    have hinj := List.inj_on_of_nodup_map (List.pairwise_map.mpr (hrise.imp ne_of_lt))
    refine List.Perm.eq_of_pairwise ?_ hsorted ?_ (hperm.trans (List.reverse_perm rows).symm)
    · intro a b ha hb hba hab
      exact hinj (hperm.mem_iff.mp ha) (List.mem_reverse.mp hb) (le_antisymm hab hba)
    · exact List.pairwise_reverse.mpr (hrise.imp le_of_lt)

/-! ### Windows into distinct rows -/

private theorem head?_window (rows : List ρ) (offset : Nat) {limit : Nat} (hl : 0 < limit) :
    ((rows.drop offset).take limit).head? = rows[offset]? := by
  rw [List.head?_take, if_neg (by omega), List.head?_drop]

/-- Windows of one size into distinct rows differ, unless they begin at the same row or both
lie behind all rows. -/
theorem window_eq_window_iff {rows : List ρ} (hd : rows.Nodup) {limit : Nat} (hl : 0 < limit)
    (m n : Nat) :
    (rows.drop m).take limit = (rows.drop n).take limit ↔
      m = n ∨ rows.length ≤ m ∧ rows.length ≤ n := by
  constructor
  · intro h
    have hfirst : rows[m]? = rows[n]? := by
      rw [← head?_window rows m hl, ← head?_window rows n hl, h]
    by_cases hm : m < rows.length
    · exact .inl ((List.getElem?_inj hm hd).mp hfirst)
    · have hnone : rows[n]? = none := by
        rw [← hfirst]
        exact List.getElem?_eq_none (by omega)
      exact .inr ⟨by omega, List.getElem?_eq_none_iff.mp hnone⟩
  · rintro (rfl | ⟨hm, hn⟩)
    · rfl
    · rw [List.drop_eq_nil_of_le hm, List.drop_eq_nil_of_le hn]

/-- Windows into distinct rows that do not overlap share no row. -/
theorem window_disjoint {rows : List ρ} (hd : rows.Nodup) {m n limit : Nat}
    (h : m + limit ≤ n) (k : Nat) {r : ρ} (hr : r ∈ (rows.drop m).take limit) :
    r ∉ (rows.drop n).take k := by
  intro hn
  have hsplit : (rows.drop m).take limit ++ (rows.drop m).drop limit = rows.drop m :=
    List.take_append_drop limit _
  have hnodup := hd.sublist (List.drop_sublist m rows)
  rw [← hsplit, List.nodup_append] at hnodup
  have hlater : r ∈ (rows.drop m).drop limit := by
    rw [List.drop_drop]
    exact (List.drop_sublist_drop_left rows h).subset (List.mem_of_mem_take hn)
  exact hnodup.2.2 r hr r hlater rfl

end ConfigCenter.Base
