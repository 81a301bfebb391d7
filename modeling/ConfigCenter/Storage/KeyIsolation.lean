import ConfigCenter.Storage.Effects

/-!
# Isolation of configuration keys

Library `Storage`. Writes on one key against everything that can be observed of
another. Rows are stored under the pair of namespace and key, version rows under
one concatenated id, so two keys are isolated exactly as far as their ids differ
or nothing is written to the version table.
-/

namespace ConfigCenter.Storage
open ConfigCenter.Base StorageM

/-- The call appends a version row: a creation of a free key, an update of a stored one,
or a rollback of a stored one to a version that is found. -/
def Call.appendsVersion (db : Database) : Call → Prop
  | .createConfig ns key _ _ => db.ledger.row? ns key = none
  | .updateConfig ns key _ _ _ => (db.ledger.row? ns key).isSome
  | .rollbackConfig ns key target _ =>
    (db.ledger.version? ns key target).isSome ∧ (db.ledger.row? ns key).isSome
  | _ => False

/-- Everything that can be observed of a key is the same in two databases; a rollback is
observed by its answer and by the row it leaves. -/
structure SameKey (ns key : String) (db db' : Database) : Prop where
  getConfig : ∀ includeDraft,
    (SqliteConfigStore.getConfig ns key includeDraft noFaults db').1 =
      (SqliteConfigStore.getConfig ns key includeDraft noFaults db).1
  getConfigVersions : (SqliteConfigStore.getConfigVersions ns key noFaults db').1 =
    (SqliteConfigStore.getConfigVersions ns key noFaults db).1
  getConfigVersion : ∀ version,
    (SqliteConfigStore.getConfigVersion ns key version noFaults db').1 =
      (SqliteConfigStore.getConfigVersion ns key version noFaults db).1
  rollbackConfig : ∀ target op ts,
    let after' := SqliteConfigStore.rollbackConfig ns key target op ts noFaults db'
    let after := SqliteConfigStore.rollbackConfig ns key target op ts noFaults db
    after'.1 = after.1 ∧ (SqliteConfigStore.getConfig ns key true noFaults after'.2).1 =
      (SqliteConfigStore.getConfig ns key true noFaults after.2).1

/-- Row and version rows of a key determine what can be observed of it. -/
theorem sameKey_of_eq {ns key : String} {db db' : Database}
    (hr : db'.ledger.row? ns key = db.ledger.row? ns key)
    (hv : db'.ledger.versionsOf ns key = db.ledger.versionsOf ns key) : SameKey ns key db db' where
  getConfig includeDraft := by
    simp only [getConfig_run, Ledger.config?, hr]
  getConfigVersions := by
    rw [getConfigVersions_run, getConfigVersions_run]
    exact congrArg (fun vs ↦ Except.ok (orderByDesc ConfigVersion.version vs)) hv
  getConfigVersion version := by
    simp only [getConfigVersion_run, Ledger.version?_eq, hv]
  rollbackConfig target op ts := by
    simp only [rollbackConfig_run, Ledger.version?_eq, hv]
    cases (db.ledger.versionsOf ns key).find? (fun v ↦ v.version = target) with
    | none => simp [getConfig_run, Ledger.config?, hr]
    | some v =>
      simp only [updateConfig_run, hr, getConfig_run, Ledger.config?_true, ledger_withLedger,
        Ledger.row?_update, and_self]

section OneKey

variable {p : String × String} {db : Database} {e : Event}

private theorem isTransactional_of_pair? (h : e.2.pair? = some p) :
    e.2.isTransactional = false := by
  obtain ⟨ts, c⟩ := e
  cases c <;> first | rfl | cases h

private theorem edit_ne_publish (h : e.2.pair? = some p) (n : String) :
    e.2.edit db e.1 ≠ .publish n := by
  intro hpublish
  obtain ⟨note, op, hc⟩ := edit_eq_publish hpublish
  rw [hc] at h
  cases h

-- A write on one key leaves the row of every other key alone.
private theorem row?_step_of_ne (h : e.2.pair? = some p) {n k : String} (hne : p ≠ (n, k)) :
    (step db e).ledger.row? n k = db.ledger.row? n k := by
  have hp : (e.2.edit db e.1).pair? ≠ some (n, k) := by
    intro hp
    rw [pair?_edit hp] at h
    exact hne (Option.some.inj h).symm
  rw [(ledger_step db e.1 e.2 (isTransactional_of_pair? h)).1, Ledger.row?_apply_of_ne _ hp]
  simp [edit_ne_publish h n]

private theorem versionsOf_step_of_id_ne (h : e.2.pair? = some p) {n k : String}
    (hid : makeConfigId p.1 p.2 ≠ makeConfigId n k) :
    (step db e).ledger.versionsOf n k = db.ledger.versionsOf n k := by
  rw [(ledger_step db e.1 e.2 (isTransactional_of_pair? h)).1]
  apply Ledger.versionsOf_apply_of_ne
  intro q hq
  rw [pair?_edit hq] at h
  rw [Option.some.inj h]
  exact hid

-- Under a shared id the other key sees one more version row exactly when one is appended.
private theorem versionsOf_step_of_id_eq (h : e.2.pair? = some p) {n k : String}
    (hid : makeConfigId p.1 p.2 = makeConfigId n k) :
    (¬ e.2.appendsVersion db →
      (step db e).ledger.versionsOf n k = db.ledger.versionsOf n k) ∧
    (e.2.appendsVersion db → ((step db e).ledger.versionsOf n k).length =
      (db.ledger.versionsOf n k).length + 1) := by
  rw [(ledger_step db e.1 e.2 (isTransactional_of_pair? h)).1]
  obtain ⟨ts, c⟩ := e
  cases c with
  | createConfig ns key value op =>
    cases h
    cases hr : db.ledger.row? ns key with
    | some c => simp [Call.edit, Ledger.apply_create_of_some hr, Call.appendsVersion, hr]
    | none => simp [Call.edit, Ledger.versionsOf_create hr, hid, Call.appendsVersion, hr]
  | updateConfig ns key value op draft =>
    cases h
    cases hr : db.ledger.row? ns key with
    | none => simp [Call.edit, Ledger.apply_update_of_none hr, Call.appendsVersion, hr]
    | some old => simp [Call.edit, Ledger.versionsOf_update hr, hid, Call.appendsVersion, hr]
  | rollbackConfig ns key target op =>
    cases h
    cases hv : db.ledger.version? ns key target with
    | none => simp [Call.edit, hv, Ledger.apply, Call.appendsVersion]
    | some v =>
      cases hr : db.ledger.row? ns key with
      | none => simp [Call.edit, hv, Ledger.apply_update_of_none hr, Call.appendsVersion, hr]
      | some old =>
        simp [Call.edit, hv, Ledger.versionsOf_update hr, hid, Call.appendsVersion, hr]
  | deleteConfig ns key op draft =>
    exact ⟨fun _ ↦ rfl, fun hf ↦ hf.elim⟩
  | _ => cases h

end OneKey

private theorem length_versionsOf_run {p : String × String} {n k : String}
    (hid : makeConfigId p.1 p.2 = makeConfigId n k) (es : List Event)
    (hes : ∀ e ∈ es, e.2.pair? = some p) (db : Database) :
    (db.ledger.versionsOf n k).length ≤ ((run step db es).ledger.versionsOf n k).length ∧
    (((run step db es).ledger.versionsOf n k).length = (db.ledger.versionsOf n k).length →
      Along step (fun d e ↦ ¬ e.2.appendsVersion d) db es) := by
  induction es generalizing db with
  | nil => simp
  | cons e es ih =>
    obtain ⟨hkeep, hgrow⟩ :=
      @versionsOf_step_of_id_eq p db e (hes e (by simp)) n k hid
    obtain ⟨hle, heq⟩ := ih (fun f hf ↦ hes f (List.mem_cons_of_mem e hf)) (step db e)
    rw [run_cons]
    by_cases ha : e.2.appendsVersion db
    · have := hgrow ha
      exact ⟨by omega, fun _ ↦ by omega⟩
    · rw [hkeep ha] at hle heq
      exact ⟨hle, fun h ↦ ⟨ha, heq h⟩⟩

/-- Writes on one key leave another key as it was exactly when the two keys have different
ids or none of the writes appends a version row. -/
theorem sameKey_run_iff (ns₁ key₁ ns₂ key₂ : String) (hne : (ns₁, key₁) ≠ (ns₂, key₂))
    (db : Database) (es : List Event) (hes : ∀ e ∈ es, e.2.pair? = some (ns₁, key₁)) :
    SameKey ns₂ key₂ db (run step db es) ↔
      makeConfigId ns₁ key₁ ≠ makeConfigId ns₂ key₂ ∨
        Along step (fun d e ↦ ¬ e.2.appendsVersion d) db es := by
  have hwrites : Along step (fun _ e ↦ e.2.pair? = some (ns₁, key₁)) db es :=
    along_of_forall_mem step (fun e he _ ↦ hes e he) db
  have hrow : (run step db es).ledger.row? ns₂ key₂ = db.ledger.row? ns₂ key₂ :=
    run_invariant_along (I := fun d ↦ d.ledger.row? ns₂ key₂ = db.ledger.row? ns₂ key₂) rfl
      (fun _ _ hi he ↦ (row?_step_of_ne he hne).trans hi) hwrites
  by_cases hid : makeConfigId ns₁ key₁ = makeConfigId ns₂ key₂
  · constructor
    · intro h
      -- the listing is a permutation of the version rows, so their number is unchanged
      have hlen := congrArg (Except.map List.length) h.getConfigVersions
      simp only [getConfigVersions_run, orderByDesc, Except.map, List.length_insertionSort,
        Except.ok.injEq] at hlen
      exact .inr ((length_versionsOf_run hid es hes db).2 hlen)
    · rintro (h | h)
      · exact absurd hid h
      · refine sameKey_of_eq hrow ?_
        have hboth : Along step (fun d e ↦ e.2.pair? = some (ns₁, key₁) ∧
            ¬ e.2.appendsVersion d) db es := (along_and step _ _ db es).mpr ⟨hwrites, h⟩
        exact run_invariant_along
          (I := fun d ↦ d.ledger.versionsOf ns₂ key₂ = db.ledger.versionsOf ns₂ key₂) rfl
          (fun _ _ hi he ↦ ((versionsOf_step_of_id_eq he.1 hid).1 he.2).trans hi) hboth
  · refine iff_of_true (sameKey_of_eq hrow ?_) (.inl hid)
    exact run_invariant_along
      (I := fun d ↦ d.ledger.versionsOf ns₂ key₂ = db.ledger.versionsOf ns₂ key₂) rfl
      (fun _ _ hi he ↦ (versionsOf_step_of_id_ne he hid).trans hi) hwrites

/-- Two keys of one namespace have different ids. -/
theorem sameKey_run_iff_one_namespace :
    let db := run step Database.empty [("t1", .createConfig "ns" "retries" "5" "alice")]
    let es : List Event := [("t2", .createConfig "ns" "timeout" "30" "alice"),
      ("t3", .updateConfig "ns" "timeout" "60" "alice" false)]
    SameKey "ns" "retries" db (run step db es) ↔
      makeConfigId "ns" "timeout" ≠ makeConfigId "ns" "retries" ∨
        Along step (fun d e ↦ ¬ e.2.appendsVersion d) db es :=
  sameKey_run_iff "ns" "timeout" "ns" "retries" (by decide) _ _ (by decide)

/-- A colon in a namespace or a key lets two keys share their version rows. -/
theorem not_sameKey_colon :
    ¬ ∀ (ns₁ key₁ ns₂ key₂ : String) (db : Database) (es : List Event),
      (ns₁, key₁) ≠ (ns₂, key₂) → Reachable step Database.empty db →
      (∀ e ∈ es, e.2.pair? = some (ns₁, key₁)) → SameKey ns₂ key₂ db (run step db es) := by
  intro h
  have hs := h "a:b" "c" "a" "b:c" Database.empty [("t1", .createConfig "a:b" "c" "1" "alice")]
    (by decide) ⟨[], rfl⟩ (by decide)
  exact absurd hs.getConfigVersions (by decide)

end ConfigCenter.Storage
