import ConfigCenter.Base.Run
import ConfigCenter.Base.Table

/-!
# Steps that each act on one key

Library `Base`. A machine whose state is seen one key at a time. Each event has a
label with a key, a step changes the view of that key as the label says and of no
other, and its answer depends on the label and that view. Runs over the same
labels with distinct keys then lead to the same views and give the same answers,
in whatever order the events are taken.
-/

namespace ConfigCenter.Base

variable {σ ε ω κ β δ : Type} [DecidableEq κ]

/-- The labels that have a key. -/
def labelsAt (key : δ → κ) (k : κ) (ds : List δ) : List δ := ds.filter (fun d ↦ key d = k)

/-- Of labels with distinct keys at most one has a given key. -/
theorem labelsAt_eq_of_perm {key : δ → κ} {ds ds' : List δ} (h : ds.Perm ds')
    (hk : (ds.map key).Nodup) (k : κ) : labelsAt key k ds = labelsAt key k ds' := by
  have hp : (labelsAt key k ds).Perm (labelsAt key k ds') := h.filter _
  have hone : labelsAt key k ds = ((KeyedTable.mk ds hk).find? k).toList :=
    KeyedTable.filter_key ⟨ds, hk⟩ k
  cases hf : (KeyedTable.mk ds hk).find? k with
  | none =>
    rw [hone, hf] at hp ⊢
    exact hp.nil_eq
  | some d =>
    rw [hone, hf] at hp ⊢
    exact (List.perm_singleton.mp hp.symm).symm

/-- What the events of a run are answered, one by one. -/
def answers (step : σ → ε → σ) (answer : σ → ε → ω) : σ → List ε → List ω
  | _, [] => []
  | s, e :: es => answer s e :: answers step answer (step s e) es

section Views

variable {step : σ → ε → σ} {answer : σ → ε → ω} {label : ε → δ} {key : δ → κ}
  {view : σ → κ → β} {change : δ → β → β} {reply : δ → β → ω}
  (hview : ∀ s e k,
    view (step s e) k = if key (label e) = k then change (label e) (view s k) else view s k)
  (hreply : ∀ s e, answer s e = reply (label e) (view s (key (label e))))

include hview

/-- The view of a key after a run is the one its own labels lead to. -/
theorem view_run (s : σ) (es : List ε) (k : κ) :
    view (run step s es) k =
      (labelsAt key k (es.map label)).foldl (fun b d ↦ change d b) (view s k) := by
  induction es generalizing s with
  | nil => rfl
  | cons e es ih =>
    rw [run_cons, ih, hview, List.map_cons, labelsAt, labelsAt]
    by_cases hk : key (label e) = k
    · rw [if_pos hk, List.filter_cons_of_pos (by simpa using hk), List.foldl_cons]
    · rw [if_neg hk, List.filter_cons_of_neg (by simpa using hk)]

/-- The order of events with distinct keys does not show in any view. -/
theorem view_run_of_perm {es fs : List ε} (h : (es.map label).Perm (fs.map label))
    (hk : ((es.map label).map key).Nodup) (s : σ) (k : κ) :
    view (run step s es) k = view (run step s fs) k := by
  rw [view_run hview, view_run hview, labelsAt_eq_of_perm h hk]

include hreply

/-- Each event with a key of its own is answered as in the state before the run. -/
theorem answers_of_nodup {es : List ε} (hk : ((es.map label).map key).Nodup) (s : σ) :
    answers step answer s es = (es.map label).map (fun d ↦ reply d (view s (key d))) := by
  induction es generalizing s with
  | nil => rfl
  | cons e es ih =>
    rw [List.map_cons, List.map_cons, List.nodup_cons] at hk
    rw [answers, hreply, ih hk.2, List.map_cons, List.map_cons]
    congr 1
    -- the views that the later events read are not of the key just changed
    apply List.map_congr_left
    intro d hd
    have hne : key (label e) ≠ key d := fun he ↦ hk.1 (he ▸ List.mem_map_of_mem hd)
    rw [hview, if_neg hne]

/-- The order of events with distinct keys does not show in the answers. -/
theorem answers_perm {es fs : List ε} (h : (es.map label).Perm (fs.map label))
    (hk : ((es.map label).map key).Nodup) (s : σ) :
    (answers step answer s es).Perm (answers step answer s fs) := by
  have hk' : ((fs.map label).map key).Nodup := (h.map key).nodup_iff.mp hk
  rw [answers_of_nodup hview hreply hk, answers_of_nodup hview hreply hk']
  exact h.map _

end Views
end ConfigCenter.Base
