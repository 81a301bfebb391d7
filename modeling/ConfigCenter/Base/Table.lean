import Mathlib.Data.List.Basic
import Mathlib.Data.List.Nodup
import Mathlib.Data.List.Pairwise

/-!
# Keyed and serial tables

Library `Base`. A relational table is the list of its rows in insertion order.
A `KeyedTable` carries its primary-key constraint and a `SerialTable` the
autoincrement discipline of its id column, so no operation can break either.
Callers look rows up by key; the row lists are the observation of full scans.
-/

namespace ConfigCenter.Base

/-- Rows in insertion order, no two of which share the primary key. -/
structure KeyedTable {ρ κ : Type} (key : ρ → κ) where
  rows : List ρ
  distinct : (rows.map key).Nodup

namespace KeyedTable

variable {ρ κ : Type} {key : ρ → κ}

/-- A table without rows. -/
def empty : KeyedTable key := ⟨[], List.nodup_nil⟩

/-- Tables are equal whenever their row lists agree. -/
theorem ext {s t : KeyedTable key} (h : s.rows = t.rows) : s = t := by
  cases s
  cases t
  cases h
  rfl

/-- Equality of tables is equality of their row lists. -/
instance [DecidableEq ρ] : DecidableEq (KeyedTable key) := fun s t ↦
  decidable_of_iff (s.rows = t.rows) ⟨ext, congrArg rows⟩

/-- Delete every row that satisfies `p`, as `DELETE … WHERE p` does. -/
def removeWhere (t : KeyedTable key) (p : ρ → Bool) : KeyedTable key :=
  ⟨t.rows.filter (fun r ↦ !p r), t.distinct.sublist (List.filter_sublist.map key)⟩

private theorem map_key_ite (rows : List ρ) (p : ρ → Bool) (f : ρ → ρ)
    (hf : ∀ r, key (f r) = key r) :
    (rows.map (fun r ↦ if p r then f r else r)).map key = rows.map key := by
  rw [List.map_map]
  apply List.map_congr_left
  intro r _
  simp only [Function.comp_apply]
  split
  · exact hf r
  · rfl

/-- Rewrite every row that satisfies `p` without touching its key, as
`UPDATE … SET … WHERE p` does. -/
def mapWhere (t : KeyedTable key) (p : ρ → Bool) (f : ρ → ρ)
    (hf : ∀ r, key (f r) = key r) : KeyedTable key :=
  ⟨t.rows.map (fun r ↦ if p r then f r else r), by
    rw [map_key_ite t.rows p f hf]
    exact t.distinct⟩

section Lookup

variable [DecidableEq κ]

/-- The row stored under a key. -/
def find? (t : KeyedTable key) (k : κ) : Option ρ :=
  t.rows.find? (fun r ↦ decide (key r = k))

/-- Append a row, or fail without effect when its key is taken. -/
def insert? (t : KeyedTable key) (r : ρ) : Option (KeyedTable key) :=
  if h : key r ∈ t.rows.map key then none
  else some ⟨t.rows ++ [r], by
    rw [List.map_append, List.map_singleton]
    exact t.distinct.append (List.nodup_singleton _) (by simpa using h)⟩

/-- Replace the row that has the given row's key; without one nothing changes. -/
def replace (t : KeyedTable key) (r : ρ) : KeyedTable key :=
  ⟨t.rows.map (fun x ↦ if key x = key r then r else x), by
    have hk : (t.rows.map (fun x ↦ if key x = key r then r else x)).map key =
        t.rows.map key := by
      rw [List.map_map]
      apply List.map_congr_left
      intro x _
      simp only [Function.comp_apply]
      split
      · next h => exact h.symm
      · rfl
    rw [hk]
    exact t.distinct⟩

/-- A lookup succeeds exactly on the stored rows with that key. -/
theorem find?_eq_some_iff (t : KeyedTable key) (k : κ) (r : ρ) :
    t.find? k = some r ↔ r ∈ t.rows ∧ key r = k := by
  constructor
  · intro h
    exact ⟨List.mem_of_find?_eq_some h, by simpa using List.find?_some h⟩
  · rintro ⟨hr, hk⟩
    cases hf : t.find? k with
    | none =>
      have hn := List.find?_eq_none.mp hf r hr
      simp [hk] at hn
    | some x =>
      have hx : x ∈ t.rows := List.mem_of_find?_eq_some hf
      have hxk : key x = k := by simpa using List.find?_some hf
      rw [List.inj_on_of_nodup_map t.distinct hx hr (hxk.trans hk.symm)]

/-- A lookup fails exactly when no stored row has the key. -/
theorem find?_eq_none_iff (t : KeyedTable key) (k : κ) :
    t.find? k = none ↔ ∀ r ∈ t.rows, key r ≠ k := by
  simp [find?, List.find?_eq_none]

/-- A row found under a key has that key. -/
theorem key_of_find? {t : KeyedTable key} {k : κ} {r : ρ} (h : t.find? k = some r) :
    key r = k :=
  ((find?_eq_some_iff t k r).mp h).2

/-- Every stored row is the one found under its own key. -/
theorem find?_key_of_mem {t : KeyedTable key} {r : ρ} (h : r ∈ t.rows) :
    t.find? (key r) = some r :=
  (find?_eq_some_iff t (key r) r).mpr ⟨h, rfl⟩

private theorem filter_key_list (rows : List ρ) (hd : (rows.map key).Nodup) (k : κ) :
    rows.filter (fun r ↦ decide (key r = k)) =
      (rows.find? (fun r ↦ decide (key r = k))).toList := by
  induction rows with
  | nil => rfl
  | cons r rest ih =>
    have hn := List.nodup_cons.mp hd
    by_cases hk : key r = k
    · have he : rest.filter (fun x ↦ decide (key x = k)) = [] := by
        apply List.filter_eq_nil_iff.mpr
        intro x hx hxk
        apply hn.1
        rw [hk, ← of_decide_eq_true hxk]
        exact List.mem_map_of_mem hx
      simp [hk, he]
    · simpa [hk] using ih hn.2

/-- A full-key selection returns the one row stored there, if any. -/
theorem filter_key (t : KeyedTable key) (k : κ) :
    t.rows.filter (fun r ↦ decide (key r = k)) = (t.find? k).toList :=
  filter_key_list t.rows t.distinct k

/-- Insertion fails exactly on a taken key. -/
theorem insert?_eq_none_iff (t : KeyedTable key) (r : ρ) :
    t.insert? r = none ↔ ∃ x, t.find? (key r) = some x := by
  unfold insert?
  split
  · next h =>
    obtain ⟨x, hx, hk⟩ := List.mem_map.mp h
    simp only [true_iff]
    exact ⟨x, (find?_eq_some_iff t _ x).mpr ⟨hx, hk⟩⟩
  · next h =>
    simp only [reduceCtorEq, false_iff, not_exists]
    intro x hx
    obtain ⟨hm, hk⟩ := (find?_eq_some_iff t _ x).mp hx
    exact h (List.mem_map.mpr ⟨x, hm, hk⟩)

/-- Insertion succeeds exactly on a free key. -/
theorem isSome_insert? (t : KeyedTable key) (r : ρ) :
    (t.insert? r).isSome = (t.find? (key r)).isNone := by
  cases hi : t.insert? r with
  | some t' =>
    cases hf : t.find? (key r) with
    | none => rfl
    | some x =>
      rw [(insert?_eq_none_iff t r).mpr ⟨x, hf⟩] at hi
      cases hi
  | none =>
    obtain ⟨x, hx⟩ := (insert?_eq_none_iff t r).mp hi
    rw [hx]
    rfl

/-- A row with a free key can be inserted. -/
theorem exists_insert? {t : KeyedTable key} {r : ρ} (h : t.find? (key r) = none) :
    ∃ t', t.insert? r = some t' := by
  have hs := isSome_insert? t r
  rw [h, Option.isNone_none] at hs
  exact Option.isSome_iff_exists.mp hs

/-- A successful insertion found its key free. -/
theorem find?_none_of_insert? {t t' : KeyedTable key} {r : ρ} (h : t.insert? r = some t') :
    t.find? (key r) = none := by
  have hs := isSome_insert? t r
  rw [h, Option.isSome_some] at hs
  exact Option.isNone_iff_eq_none.mp hs.symm

/-- A successful insertion appends exactly the given row. -/
theorem rows_insert? {t t' : KeyedTable key} {r : ρ} (h : t.insert? r = some t') :
    t'.rows = t.rows ++ [r] := by
  unfold insert? at h
  split at h
  · cases h
  · rw [← Option.some.inj h]

/-- After an insertion the new row is found under its key, every other key as before. -/
theorem find?_insert? {t t' : KeyedTable key} {r : ρ} (h : t.insert? r = some t') (k : κ) :
    t'.find? k = if key r = k then some r else t.find? k := by
  have hn := find?_none_of_insert? h
  unfold find? at hn ⊢
  rw [rows_insert? h, List.find?_append]
  split
  · next hk => simp [← hk, hn]
  · next hk => simp [hk]

/-- A replacement is seen under its key when a row was there, and nowhere else. -/
theorem find?_replace (t : KeyedTable key) (r : ρ) (k : κ) :
    (t.replace r).find? k = if key r = k then (t.find? k).map (fun _ ↦ r) else t.find? k := by
  have hm (x : ρ) : decide (key (if key x = key r then r else x) = k) = decide (key x = k) := by
    split
    · next h => rw [h]
    · rfl
  unfold find? replace
  rw [List.find?_map]
  simp only [Function.comp_def, hm]
  cases hf : t.rows.find? (fun x ↦ decide (key x = k)) with
  | none => simp
  | some x =>
    have hx : key x = k := by simpa using List.find?_some hf
    by_cases hk : key r = k
    · simp [hx, hk]
    · simp [hx, hk, Ne.symm hk]

/-- Replacing a found row by its rewriting is a rewriting of the rows with its key. -/
theorem replace_of_find? {t : KeyedTable key} {k : κ} {r : ρ} (h : t.find? k = some r)
    (f : ρ → ρ) (hf : ∀ r, key (f r) = key r) :
    t.replace (f r) = t.mapWhere (fun x ↦ decide (key x = k)) f hf := by
  obtain ⟨hr, hk⟩ := (find?_eq_some_iff t k r).mp h
  apply ext
  apply List.map_congr_left
  intro x hx
  rw [hf, hk]
  by_cases hxk : key x = k
  · simp [List.inj_on_of_nodup_map t.distinct hx hr (hxk.trans hk.symm)]
  · simp [hxk]

/-- A selection that takes neither the replaced row nor its replacement is unchanged. -/
theorem filter_replace (t : KeyedTable key) {r : ρ} {p : ρ → Bool} (hr : p r = false)
    (ht : ∀ x ∈ t.rows, key x = key r → p x = false) :
    (t.replace r).rows.filter p = t.rows.filter p := by
  change (t.rows.map (fun x ↦ if key x = key r then r else x)).filter p = t.rows.filter p
  generalize t.rows = rows at ht
  induction rows with
  | nil => rfl
  | cons x rest ih =>
    have ih' := ih fun y hy ↦ ht y (List.mem_cons_of_mem x hy)
    by_cases hx : key x = key r
    · simp [hx, hr, ht x (List.mem_cons_self) hx, ih']
    · simp [hx, List.filter_cons, ih']

/-- A conditional removal hides exactly the rows it selects. -/
theorem find?_removeWhere (t : KeyedTable key) (p : ρ → Bool) (k : κ) :
    (t.removeWhere p).find? k = (t.find? k).filter (fun r ↦ !p r) := by
  cases hf : t.find? k with
  | none =>
    rw [Option.filter_none, find?_eq_none_iff]
    intro r hr
    exact (find?_eq_none_iff t k).mp hf r (List.mem_of_mem_filter hr)
  | some x =>
    obtain ⟨hx, hk⟩ := (find?_eq_some_iff t k x).mp hf
    cases hp : p x with
    | false =>
      rw [Option.filter_some, hp, Bool.not_false, if_pos rfl, find?_eq_some_iff]
      exact ⟨List.mem_filter.mpr ⟨hx, by simp [hp]⟩, hk⟩
    | true =>
      rw [Option.filter_some, hp, Bool.not_true, if_neg (by decide), find?_eq_none_iff]
      intro r hr hrk
      obtain ⟨hm, hn⟩ := List.mem_filter.mp hr
      rw [List.inj_on_of_nodup_map t.distinct hm hx (hrk.trans hk.symm), hp] at hn
      cases hn

/-- A conditional rewrite is seen through every lookup. -/
theorem find?_mapWhere (t : KeyedTable key) (p : ρ → Bool) (f : ρ → ρ)
    (hf : ∀ r, key (f r) = key r) (k : κ) :
    (t.mapWhere p f hf).find? k = (t.find? k).map (fun r ↦ if p r then f r else r) := by
  have hm (x : ρ) : decide (key (if p x then f x else x) = k) = decide (key x = k) := by
    split
    · rw [hf]
    · rfl
  unfold find? mapWhere
  rw [List.find?_map]
  simp only [Function.comp_def, hm]

end Lookup
end KeyedTable

/-- Rows in insertion order whose ids the table hands out itself, each above all
earlier ones; `seq` is the largest id ever handed out. -/
structure SerialTable {ρ : Type} (id : ρ → Int) where
  rows : List ρ
  seq : Nat
  increasing : rows.Pairwise (fun a b ↦ id a < id b)
  bounded : ∀ r ∈ rows, id r ≤ seq

namespace SerialTable

variable {ρ : Type} {id : ρ → Int}

/-- A table without rows that has handed out no id. -/
def empty : SerialTable id := ⟨[], 0, List.Pairwise.nil, by simp⟩

/-- Tables are equal whenever their rows and counters agree. -/
theorem ext {s t : SerialTable id} (h : s.rows = t.rows) (hs : s.seq = t.seq) : s = t := by
  cases s
  cases t
  cases h
  cases hs
  rfl

/-- Equality of tables is equality of their rows and counters. -/
instance [DecidableEq ρ] : DecidableEq (SerialTable id) := fun s t ↦
  decidable_of_iff (s.rows = t.rows ∧ s.seq = t.seq)
    ⟨fun h ↦ ext h.1 h.2, fun h ↦ ⟨congrArg rows h, congrArg seq h⟩⟩

/-- The id the next insertion receives. -/
def nextId (t : SerialTable id) : Int := t.seq + 1

/-- Append the row built from the next id, as an autoincrement insertion does. -/
def append (t : SerialTable id) (mk : Int → ρ) (hmk : ∀ n, id (mk n) = n) : SerialTable id :=
  ⟨t.rows ++ [mk t.nextId], t.seq + 1, by
    apply List.pairwise_append.mpr
    refine ⟨t.increasing, List.pairwise_singleton _ _, ?_⟩
    intro a ha b hb
    rw [List.mem_singleton.mp hb, hmk, nextId]
    have := t.bounded a ha
    omega, by
    intro r hr
    rcases List.mem_append.mp hr with hr | hr
    · have := t.bounded r hr
      omega
    · rw [List.mem_singleton.mp hr, hmk, nextId]
      omega⟩

/-- Rewrite every row that satisfies `p` without touching its id. -/
def mapWhere (t : SerialTable id) (p : ρ → Bool) (f : ρ → ρ)
    (hf : ∀ r, id (f r) = id r) : SerialTable id :=
  ⟨t.rows.map (fun r ↦ if p r then f r else r), t.seq, by
    apply List.pairwise_map.mpr
    apply t.increasing.imp
    intro a b hab
    split <;> split <;> simpa only [hf] using hab, by
    intro r hr
    obtain ⟨x, hx, rfl⟩ := List.mem_map.mp hr
    split
    · rw [hf]; exact t.bounded x hx
    · exact t.bounded x hx⟩

/-- An insertion appends exactly one row. -/
@[simp] theorem rows_append (t : SerialTable id) (mk : Int → ρ) (hmk : ∀ n, id (mk n) = n) :
    (t.append mk hmk).rows = t.rows ++ [mk t.nextId] := rfl

/-- The row with an id. -/
def find? (t : SerialTable id) (n : Int) : Option ρ := t.rows.find? (fun r ↦ decide (id r = n))

/-- Ids are handed out once, so a lookup finds exactly the stored row with that id. -/
theorem find?_eq_some_iff (t : SerialTable id) (n : Int) (r : ρ) :
    t.find? n = some r ↔ r ∈ t.rows ∧ id r = n := by
  constructor
  · intro h
    exact ⟨List.mem_of_find?_eq_some h, by simpa using List.find?_some h⟩
  · rintro ⟨hr, hn⟩
    cases hf : t.find? n with
    | none => simpa [hn] using List.find?_eq_none.mp hf r hr
    | some x =>
      have hx : id x = n := by simpa using List.find?_some hf
      have hinj := List.inj_on_of_nodup_map
        (List.pairwise_map.mpr (t.increasing.imp Int.ne_of_lt))
      rw [hinj (List.mem_of_find?_eq_some hf) hr (hx.trans hn.symm)]

/-- Stored ids are below the next one. -/
theorem id_lt_nextId {t : SerialTable id} {r : ρ} (h : r ∈ t.rows) : id r < t.nextId := by
  have := t.bounded r h
  rw [nextId]
  omega

/-- An insertion is found under its own id, every other row as before. -/
theorem find?_append (t : SerialTable id) (mk : Int → ρ) (hmk : ∀ n, id (mk n) = n) (n : Int) :
    (t.append mk hmk).find? n = if n = t.nextId then some (mk n) else t.find? n := by
  split
  · next h =>
    rw [h, find?_eq_some_iff]
    exact ⟨by simp, hmk _⟩
  · next h =>
    simp only [find?, rows_append, List.find?_append, List.find?_singleton, hmk]
    simp [Ne.symm h]

/-- A conditional rewrite is seen through every lookup. -/
theorem find?_mapWhere (t : SerialTable id) (p : ρ → Bool) (f : ρ → ρ)
    (hf : ∀ r, id (f r) = id r) (n : Int) :
    (t.mapWhere p f hf).find? n = (t.find? n).map (fun r ↦ if p r then f r else r) := by
  have hm (x : ρ) : decide (id (if p x then f x else x) = n) = decide (id x = n) := by
    split
    · rw [hf]
    · rfl
  unfold find? mapWhere
  rw [List.find?_map]
  simp only [Function.comp_def, hm]

end SerialTable
end ConfigCenter.Base
