import ConfigCenter.Server.Routing

/-!
# Path parameters

Library `Server`. What `HttpSession::extractPathParam` cuts out of a target: the text
from the first occurrence of the prefix to the first occurrence of the suffix after it.
Where a parameter stands between the two, the suffix may already occur inside the
parameter or across its end, and the parameter is cut short there.
-/

namespace ConfigCenter.Server.HttpSession
open ConfigCenter.Base

private theorem extractPathParam_of_firstAt {url start : String} {k : Nat}
    (h : FirstAt start.toList url.toList k) (stop : String) :
    let rest := url.toList.drop (k + start.toList.length)
    (stop = "" → extractPathParam url start stop = String.ofList rest) ∧
      (stop ≠ "" → extractPathParam url start stop =
        ((find stop.toList rest).map fun j ↦ String.ofList (rest.take j)).getD "") := by
  intro rest
  constructor
  · intro hstop
    simp only [extractPathParam, find_eq_some_iff.mpr h, hstop, if_true]
    rfl
  · intro hstop
    simp only [extractPathParam, find_eq_some_iff.mpr h, hstop, if_false]
    cases find stop.toList rest with
    | none => rfl
    | some j => rfl

private theorem extractPathParam_between {stop : String} (hstop : stop ≠ "")
    (start p b : String) :
    ∃ j ≤ p.toList.length, FirstAt stop.toList (p ++ stop).toList j ∧
      extractPathParam (start ++ p ++ stop ++ b) start stop = String.ofList (p.toList.take j) := by
  have hurl : (start ++ p ++ stop ++ b).toList =
      start.toList ++ ((p ++ stop).toList ++ b.toList) := by
    simp only [String.toList_append, List.append_assoc]
  have hfirst : FirstAt start.toList (start ++ p ++ stop ++ b).toList 0 := by
    rw [← find_eq_some_iff, find_eq_zero_iff, hurl]
    exact List.prefix_append _ _
  have hend : OccursAt stop.toList (p ++ stop).toList p.toList.length := by
    rw [String.toList_append]
    exact ⟨by simp, by rw [List.drop_left]⟩
  obtain ⟨j, hj, hat, hfind⟩ := find_append_of_occursAt hend b.toList
  refine ⟨j, hj, hat, ?_⟩
  rw [(extractPathParam_of_firstAt hfirst stop).2 hstop, hurl, Nat.zero_add, List.drop_left, hfind,
    Option.map_some, Option.getD_some, String.toList_append, List.append_assoc,
    List.take_append_of_le_length hj]

/-- A parameter between a prefix and a suffix is returned exactly when the suffix does not begin
in it, and is cut at the first place where it does; without a prefix, or without a suffix after
it, the result is empty, and an empty suffix keeps everything after the first prefix. -/
theorem extractPathParam_shortest (start stop : String) :
    (stop ≠ "" → ∀ p b : String,
      let url := start ++ p ++ stop ++ b
      (extractPathParam url start stop = p ↔
        ∀ k < p.toList.length, ¬ OccursAt stop.toList (p ++ stop).toList k) ∧
      ((∃ k < p.toList.length, OccursAt stop.toList (p ++ stop).toList k) →
        ∃ k < p.toList.length, FirstAt stop.toList (p ++ stop).toList k ∧
          extractPathParam url start stop = String.ofList (p.toList.take k))) ∧
    (∀ url : String, (∀ k, ¬ OccursAt start.toList url.toList k) →
      extractPathParam url start stop = "") ∧
    ∀ (url : String) (k : Nat), FirstAt start.toList url.toList k →
      let rest := url.toList.drop (k + start.toList.length)
      (stop ≠ "" → (∀ j, ¬ OccursAt stop.toList rest j) → extractPathParam url start stop = "") ∧
      (stop = "" → extractPathParam url start stop = String.ofList rest) := by
  refine ⟨fun hstop p b ↦ ?_, fun url hnone ↦ ?_, fun url k hfirst ↦ ⟨fun hstop hnone ↦ ?_, ?_⟩⟩
  · obtain ⟨j, hj, hat, hrun⟩ := extractPathParam_between hstop start p b
    refine ⟨?_, ?_⟩
    · rw [hrun]
      constructor
      · intro htake k hk
        -- the whole of `p` was taken, so the first suffix stands behind it
        have hlength := congrArg List.length (congrArg String.toList htake)
        rw [String.toList_ofList, List.length_take] at hlength
        exact hat.2 k (by omega)
      · intro hnone
        have hlast : j = p.toList.length := by
          by_contra hne
          exact hnone j (by omega) hat.1
        rw [hlast, List.take_length, String.ofList_toList]
    · rintro ⟨k, hk, hoccurs⟩
      have hle : j ≤ k := Nat.le_of_not_lt fun hlt ↦ hat.2 k hlt hoccurs
      exact ⟨j, by omega, hat, hrun⟩
  · rw [extractPathParam, find_eq_none_iff.mpr hnone]
  · rw [(extractPathParam_of_firstAt hfirst stop).2 hstop, find_eq_none_iff.mpr hnone]
    rfl
  · exact (extractPathParam_of_firstAt hfirst stop).1

-- the second `/keys/` of a target overlaps the end of a namespace that ends in `/keys`
example : extractPathParam "/ns/a/keys/keys/k" "/ns/" "/keys/" = "a" := by decide

end ConfigCenter.Server.HttpSession
