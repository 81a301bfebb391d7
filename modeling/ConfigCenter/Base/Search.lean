import Mathlib.Data.List.Infix

/-!
# First occurrences in separated texts

Library `Base`. `find` is the search of `std::string::find`; it gives the first
place where a pattern stands. A path puts a separator before each of its parts,
which are free of it; a pattern that begins with the separator can occur only
where a part begins. `locate` finds the first part with a property, and the two
rules say which property a search looks for.
-/

namespace ConfigCenter.Base

variable {α : Type}

section Search
variable [DecidableEq α]

/-- The place where a pattern first occurs. -/
def find (pattern : List α) : List α → Option Nat
  | [] => if pattern <+: [] then some 0 else none
  | c :: text =>
    if pattern <+: c :: text then some 0 else (find pattern text).map (· + 1)

/-- A pattern stands at a place of a text. -/
def OccursAt (pattern text : List α) (k : Nat) : Prop := k ≤ text.length ∧ pattern <+: text.drop k

/-- A pattern stands at a place of a text and at none before. -/
def FirstAt (pattern text : List α) (k : Nat) : Prop :=
  OccursAt pattern text k ∧ ∀ j < k, ¬ OccursAt pattern text j

omit [DecidableEq α] in
private theorem occursAt_cons {pattern text : List α} (c : α) (k : Nat) :
    OccursAt pattern (c :: text) (k + 1) ↔ OccursAt pattern text k := by
  simp [OccursAt]

omit [DecidableEq α] in
private theorem firstAt_cons {pattern text : List α} {c : α} (h : ¬ pattern <+: c :: text)
    (k : Nat) : FirstAt pattern (c :: text) (k + 1) ↔ FirstAt pattern text k := by
  constructor
  · rintro ⟨hk, hfirst⟩
    refine ⟨(occursAt_cons c k).mp hk, fun j hj hat ↦ ?_⟩
    exact hfirst (j + 1) (by omega) ((occursAt_cons c j).mpr hat)
  · rintro ⟨hk, hfirst⟩
    refine ⟨(occursAt_cons c k).mpr hk, fun j hj hat ↦ ?_⟩
    cases j with
    | zero => exact h hat.2
    | succ j => exact hfirst j (by omega) ((occursAt_cons c j).mp hat)

/-- The place that is found is the first. -/
theorem find_eq_some_iff {pattern text : List α} {k : Nat} :
    find pattern text = some k ↔ FirstAt pattern text k := by
  induction text generalizing k with
  | nil =>
    rw [find]
    split
    · next hp =>
      constructor
      · rintro ⟨⟩
        exact ⟨⟨Nat.le_refl 0, hp⟩, by omega⟩
      · rintro ⟨⟨hk, -⟩, -⟩
        rw [Nat.le_zero.mp hk]
    · next hp =>
      refine iff_of_false nofun ?_
      rintro ⟨⟨-, hat⟩, -⟩
      exact hp (by simpa using hat)
  | cons c text ih =>
    rw [find]
    split
    · next hp =>
      constructor
      · rintro ⟨⟩
        exact ⟨⟨Nat.zero_le _, hp⟩, by omega⟩
      · rintro ⟨-, hfirst⟩
        -- an earlier place would be the beginning
        cases k with
        | zero => rfl
        | succ k => exact absurd ⟨Nat.zero_le _, hp⟩ (hfirst 0 (by omega))
    · next hp =>
      cases k with
      | zero =>
        refine iff_of_false (by simp) ?_
        rintro ⟨⟨-, hat⟩, -⟩
        exact hp hat
      | succ k => simp [firstAt_cons hp, ih]

/-- A pattern found at the beginning is a prefix. -/
theorem find_eq_zero_iff {pattern text : List α} :
    find pattern text = some 0 ↔ pattern <+: text := by
  rw [find_eq_some_iff]
  constructor
  · exact fun h ↦ h.1.2
  · exact fun h ↦ ⟨⟨Nat.zero_le _, h⟩, by omega⟩

/-- Nothing is found where the pattern stands nowhere. -/
theorem find_eq_none_iff {pattern text : List α} :
    find pattern text = none ↔ ∀ k, ¬ OccursAt pattern text k := by
  induction text with
  | nil =>
    rw [find]
    split
    · next hp => exact iff_of_false nofun fun h ↦ h 0 ⟨Nat.le_refl 0, hp⟩
    · next hp =>
      refine iff_of_true rfl ?_
      rintro k ⟨-, hat⟩
      exact hp (by simpa using hat)
  | cons c text ih =>
    rw [find]
    split
    · next hp => exact iff_of_false nofun fun h ↦ h 0 ⟨Nat.zero_le _, hp⟩
    · next hp =>
      rw [Option.map_eq_none_iff, ih]
      constructor
      · intro h k hat
        cases k with
        | zero => exact hp hat.2
        | succ k => exact h k ((occursAt_cons c k).mp hat)
      · intro h k hat
        exact h (k + 1) ((occursAt_cons c k).mpr hat)

omit [DecidableEq α] in
/-- A pattern that begins within a text is the same before and after more text, as far as it
reaches. -/
theorem occursAt_append_iff {pattern text : List α} {k : Nat}
    (h : k + pattern.length ≤ text.length) (rest : List α) :
    OccursAt pattern (text ++ rest) k ↔ OccursAt pattern text k := by
  have hk : k ≤ text.length := by omega
  have hlong : k ≤ (text ++ rest).length := by
    rw [List.length_append]
    omega
  rw [OccursAt, OccursAt, List.drop_append_of_le_length hk]
  simp only [hk, hlong, true_and]
  constructor
  · intro hp
    exact List.prefix_of_prefix_length_le hp (List.prefix_append _ rest) (by simp; omega)
  · exact fun hp ↦ hp.trans (List.prefix_append _ rest)

omit [DecidableEq α] in
/-- A pattern occurs within the text. -/
theorem OccursAt.length_le {pattern text : List α} {k : Nat} (h : OccursAt pattern text k) :
    k + pattern.length ≤ text.length := by
  have hlength := h.2.length_le
  rw [List.length_drop] at hlength
  have hk := h.1
  omega

/-- A pattern that stands in a text is found in it, whatever follows. -/
theorem find_append_of_occursAt {pattern text : List α} {k : Nat} (h : OccursAt pattern text k)
    (rest : List α) :
    ∃ j ≤ k, FirstAt pattern text j ∧ find pattern (text ++ rest) = some j := by
  cases hj : find pattern text with
  | none => exact absurd h (find_eq_none_iff.mp hj k)
  | some j =>
    have hfirst := find_eq_some_iff.mp hj
    have hle : j ≤ k := Nat.le_of_not_lt fun hlt ↦ hfirst.2 k hlt h
    refine ⟨j, hle, hfirst, find_eq_some_iff.mpr ⟨?_, fun i hi hat ↦ ?_⟩⟩
    · exact (occursAt_append_iff hfirst.1.length_le rest).mpr hfirst.1
    · have hreach := hfirst.1.length_le
      exact hfirst.2 i hi ((occursAt_append_iff (by omega) rest).mp hat)

/-- Text without the first letter of a pattern is passed over. -/
theorem find_append_of_notMem {c : α} {word part : List α} (h : c ∉ part) (rest : List α) :
    find (c :: word) (part ++ rest) = (find (c :: word) rest).map (· + part.length) := by
  induction part with
  | nil => simp
  | cons d part ih =>
    rw [List.mem_cons, not_or] at h
    have hd : ¬ c :: word <+: d :: (part ++ rest) := fun hp ↦ h.1 (List.cons_prefix_cons.mp hp).1
    rw [List.cons_append, find, if_neg hd, ih h.2, Option.map_map]
    rfl

end Search

/-! ### Paths -/

/-- Parts with a separator before each. -/
def path (sep : α) (parts : List (List α)) : List α := parts.flatMap (sep :: ·)

/-- The place of the first part with a property, in the text of the path. -/
def locate (hit : List α → Bool) : List (List α) → Option Nat
  | [] => none
  | part :: parts => if hit part then some 0 else (locate hit parts).map (· + (part.length + 1))

variable {sep : α} {word : List α} {parts : List (List α)}

/-- A separator stands before each part. -/
theorem path_cons (part : List α) :
    path sep (part :: parts) = sep :: (part ++ path sep parts) := rfl

/-- The path of one part. -/
theorem path_singleton (part : List α) : path sep [part] = sep :: part := by
  rw [path_cons]
  exact congrArg (sep :: ·) (List.append_nil part)

/-- The path of two lists of parts. -/
theorem path_append (before after : List (List α)) :
    path sep (before ++ after) = path sep before ++ path sep after :=
  List.flatMap_append

/-- A word at the beginning of a part is at the beginning of what follows the separator. -/
theorem prefix_part_iff (hword : sep ∉ word) {part : List α} (rest : List (List α)) :
    word <+: part ++ path sep rest ↔ word <+: part := by
  constructor
  · intro h
    rcases List.prefix_or_prefix_of_prefix h (List.prefix_append part (path sep rest)) with hp | hp
    · exact hp
    · obtain ⟨tail, rfl⟩ := hp
      rw [List.prefix_append_right_inj] at h
      cases rest with
      | nil =>
        have htail : tail = [] := by simpa [path] using h
        rw [htail, List.append_nil]
      | cons q rest =>
        cases tail with
        | nil => simp
        | cons d tail =>
          have hd := (List.cons_prefix_cons.mp (path_cons q ▸ h)).1
          exact absurd (by simp [hd]) hword
  · exact fun h ↦ h.trans (List.prefix_append _ _)

/-- A word with a separator at its end is a whole part. -/
theorem whole_part_iff (hword : sep ∉ word) {part : List α} (hpart : sep ∉ part)
    (rest : List α) : word ++ [sep] <+: part ++ sep :: rest ↔ part = word := by
  induction word generalizing part with
  | nil =>
    cases part with
    | nil => simp
    | cons d part =>
      have hd : sep ≠ d := fun h ↦ hpart (by simp [h])
      simp [hd]
  | cons c word ih =>
    cases part with
    | nil =>
      have hc : c ≠ sep := fun h ↦ hword (by simp [h])
      simp [hc]
    | cons d part =>
      rw [List.cons_append, List.cons_append, List.cons_prefix_cons,
        ih (fun h ↦ hword (List.mem_cons_of_mem c h)) fun h ↦ hpart (List.mem_cons_of_mem d h),
        List.cons.injEq, eq_comm]

section Search
variable [DecidableEq α]

/-- A search for a separator with a word looks for a part that begins with the word. -/
theorem find_word (hword : sep ∉ word) (hparts : ∀ part ∈ parts, sep ∉ part) :
    find (sep :: word) (path sep parts) = locate (fun part ↦ word <+: part) parts := by
  induction parts with
  | nil => simp [path, find, locate]
  | cons part parts ih =>
    rw [path_cons, find, locate]
    simp only [List.cons_prefix_cons, true_and, prefix_part_iff hword, decide_eq_true_eq]
    split
    · rfl
    · rw [find_append_of_notMem (hparts part List.mem_cons_self),
        ih fun q hq ↦ hparts q (List.mem_cons_of_mem part hq), Option.map_map]
      rfl

/-- A search for a word between two separators looks for a part that is the word and not the last
one. -/
theorem find_whole (hword : sep ∉ word) (hparts : ∀ part ∈ parts, sep ∉ part) {last : List α}
    (hlast : sep ∉ last) :
    find (sep :: (word ++ [sep])) (path sep parts ++ sep :: last) =
      locate (fun part ↦ part = word) parts := by
  induction parts with
  | nil =>
    have hshort : ¬ word ++ [sep] <+: last :=
      fun h ↦ hlast (h.subset (List.mem_append_right _ (List.mem_singleton_self sep)))
    have hrest : find (sep :: (word ++ [sep])) (last ++ []) = _ := find_append_of_notMem hlast []
    rw [List.append_nil] at hrest
    simp [path, locate, find, hshort, hrest]
  | cons part parts ih =>
    have htail : ∃ rest, path sep parts ++ sep :: last = sep :: rest := by
      cases parts with
      | nil => exact ⟨last, rfl⟩
      | cons q parts => exact ⟨_, rfl⟩
    obtain ⟨rest, hrest⟩ := htail
    have hpart := hparts part List.mem_cons_self
    rw [path_cons, List.cons_append, List.append_assoc, find, locate]
    have hwhole : word ++ [sep] <+: part ++ (path sep parts ++ sep :: last) ↔ part = word := by
      rw [hrest]
      exact whole_part_iff hword hpart rest
    simp only [List.cons_prefix_cons, true_and, hwhole, decide_eq_true_eq]
    split
    · rfl
    · rw [find_append_of_notMem hpart, ih fun q hq ↦ hparts q (List.mem_cons_of_mem part hq),
        Option.map_map]
      rfl

end Search

/-! ### Where parts are located -/

/-- Nothing is located where no part is hit. -/
theorem locate_eq_none_iff {hit : List α → Bool} :
    locate hit parts = none ↔ ∀ part ∈ parts, ¬ hit part := by
  induction parts with
  | nil => simp [locate]
  | cons part parts ih =>
    rw [locate]
    split
    · next h => simp [h]
    · next h => simp [h, ih]

/-- A part with the property is located unless an earlier one has it. -/
theorem locate_append_iff (sep : α) {hit : List α → Bool} {before after : List (List α)}
    {part : List α} (h : hit part) :
    locate hit (before ++ part :: after) = some (path sep before).length ↔
      ∀ q ∈ before, ¬ hit q := by
  induction before with
  | nil => simp [locate, h, path]
  | cons q before ih =>
    rw [List.cons_append, locate, path_cons]
    split
    · next hq => simp [hq]
    · next hq =>
      have hlength : (sep :: (q ++ path sep before)).length =
          (path sep before).length + (q.length + 1) := by
        simp
        omega
      rw [hlength]
      simp only [List.mem_cons, forall_eq_or_imp, hq, Bool.false_eq_true, not_false_eq_true,
        true_and]
      rw [← ih]
      cases locate hit (before ++ part :: after) with
      | none => simp
      | some k => simp

/-- No later part is located. -/
theorem le_of_locate (sep : α) {hit : List α → Bool} (before after : List (List α))
    {part : List α} (h : hit part) :
    ∃ k ≤ (path sep before).length, locate hit (before ++ part :: after) = some k := by
  induction before with
  | nil => exact ⟨0, Nat.zero_le _, by simp [locate, h]⟩
  | cons q before ih =>
    rw [List.cons_append, locate]
    split
    · exact ⟨0, Nat.zero_le _, rfl⟩
    · obtain ⟨k, hk, hlocate⟩ := ih
      refine ⟨k + (q.length + 1), ?_, by rw [hlocate]; rfl⟩
      rw [path_cons, List.length_cons, List.length_append]
      omega

/-- A last part with the property is located, if no other. -/
theorem isSome_locate_concat {hit : List α → Bool} (before : List (List α)) {part : List α}
    (h : hit part) : (locate hit (before ++ [part])).isSome := by
  rw [Option.isSome_iff_ne_none, ne_eq, locate_eq_none_iff]
  intro hnone
  exact hnone part (by simp) h

end ConfigCenter.Base
