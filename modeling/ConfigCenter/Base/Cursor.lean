import Mathlib.Data.List.Basic
import Mathlib.Order.Basic

/-!
# Reading a log by a cursor

Library `Base`. A log whose entries have rising keys, and a reader that asks for
the entries above the key of the last one it got. `above_append_cursor` says that
a read continues the earlier ones without a gap and without a repetition.
-/

namespace ConfigCenter.Base

variable {α κ : Type} (key : α → κ)

/-- The key of the last entry a reader got, or the key it started from. -/
def cursor (start : κ) (got : List α) : κ :=
  match got.getLast? with
  | none => start
  | some a => key a

/-- A cursor that has moved moves on as if it had read everything at once. -/
theorem cursor_append (start : κ) (got more : List α) :
    cursor key (cursor key start got) more = cursor key start (got ++ more) := by
  unfold cursor
  rw [List.getLast?_append]
  cases more.getLast? <;> simp

/-- Entries of a log above a key. -/
def above [LT κ] [DecidableLT κ] (k : κ) (log : List α) : List α :=
  log.filter (fun a ↦ k < key a)

variable {key} [Preorder κ]

private theorem le_of_getLast? {log : List α} {x : α}
    (hlog : log.Pairwise (fun a b ↦ key a < key b)) (hx : log.getLast? = some x) :
    ∀ a ∈ log, key a ≤ key x := by
  obtain ⟨init, rfl⟩ := List.getLast?_eq_some_iff.mp hx
  intro a ha
  rcases List.mem_append.mp ha with ha | ha
  · exact le_of_lt ((List.pairwise_append.mp hlog).2.2 a ha x (by simp))
  · rw [List.mem_singleton.mp ha]

variable [DecidableLT κ]

/-- Above the cursor of what was read of a log lies exactly what was added to it. -/
theorem above_cursor {seen rest : List α}
    (hlog : (seen ++ rest).Pairwise (fun a b ↦ key a < key b)) (start : κ) :
    above key (cursor key start (above key start seen)) (seen ++ rest) =
      above key start rest := by
  obtain ⟨hseen, _, hcross⟩ := List.pairwise_append.mp hlog
  unfold cursor
  cases hlast : (above key start seen).getLast? with
  | none =>
    have hnil : seen.filter (fun a ↦ start < key a) = [] := List.getLast?_eq_none_iff.mp hlast
    simp only [above, List.filter_append, hnil, List.nil_append]
  | some x =>
    obtain ⟨hx, hstart⟩ := List.mem_filter.mp (List.mem_of_getLast? hlast)
    have hle : ∀ a ∈ seen, ¬ key x < key a := by
      intro a ha hlt
      -- an entry above the last one read would have been read after it
      have hread : a ∈ above key start seen :=
        List.mem_filter.mpr ⟨ha, decide_eq_true ((of_decide_eq_true hstart).trans hlt)⟩
      exact not_lt_of_ge (le_of_getLast? (hseen.filter _) hlast a hread) hlt
    have hnil : seen.filter (fun a ↦ key x < key a) = [] :=
      List.filter_eq_nil_iff.mpr fun a ha ↦ by simpa using hle a ha
    have hrest : rest.filter (fun a ↦ key x < key a) = rest.filter (fun a ↦ start < key a) := by
      refine List.filter_congr fun a ha ↦ ?_
      have hlt := hcross x hx a ha
      simp [hlt, (of_decide_eq_true hstart).trans hlt]
    simp only [above, List.filter_append, hnil, hrest, List.nil_append]

/-- A read from the cursor on completes what was read before. -/
theorem above_append_cursor {seen rest : List α}
    (hlog : (seen ++ rest).Pairwise (fun a b ↦ key a < key b)) (start : κ) :
    above key start seen ++ above key (cursor key start (above key start seen)) (seen ++ rest) =
      above key start (seen ++ rest) := by
  rw [above_cursor hlog]
  exact (List.filter_append ..).symm

end ConfigCenter.Base
