import ConfigCenter.Storage.Effects
import ConfigCenter.Storage.NamespaceManager

/-!
# Data of a deleted namespace

Library `Storage`. `deleteNamespace` removes the row of the namespace alone, while
the keys of the MySQL schema cascade to its configurations, releases and
approvals. What the three tables hold of a namespace stays there until it is
removed by name, and comes back with a rollback to tables that hold it; so a
deletion leaves nothing behind exactly where there was nothing to leave.
-/

namespace ConfigCenter.Storage
open ConfigCenter.Base StorageM

/-- The namespace whose configurations, releases or approvals a call writes by name. -/
def Call.namespace? : Call → Option String
  | .createConfig ns _ _ _ | .updateConfig ns _ _ _ _ | .deleteConfig ns _ _ _
  | .rollbackConfig ns _ _ _ | .publishRelease ns _ _ => some ns
  | .createRelease release => some release.namespaceId
  | .createApproval approval => some approval.namespaceId
  | _ => none

/-- No configuration, release or approval belongs to the namespace. -/
structure Tables.Free (ns : String) (t : Tables) : Prop where
  configs : ∀ c ∈ t.configs.rows, c.namespaceId ≠ ns
  releases : ∀ r ∈ t.releases.rows, r.namespaceId ≠ ns
  approvals : ∀ a ∈ t.approvals.rows, a.namespaceId ≠ ns

/-- Neither the visible tables nor those an open transaction started from hold data of the
namespace. -/
def Database.Free (ns : String) (db : Database) : Prop :=
  db.tables.Free ns ∧ ∀ t ∈ db.snapshot, t.Free ns

/-- No read returns anything of the namespace. An inherited lookup may end in a parent of a
namespace that is stored, never in the namespace itself. -/
structure NothingOf (ns : String) (db : Database) : Prop where
  getConfig : ∀ key includeDraft,
    (SqliteConfigStore.getConfig ns key includeDraft noFaults db).1 = .ok none
  listConfigs : (SqliteConfigStore.listConfigs ns true noFaults db).1 = .ok []
  getReleases : ∀ page pageSize,
    (SqliteConfigStore.getReleases { namespaceId := ns, page, pageSize } noFaults db).1 = .ok []
  getPendingApprovals : (SqliteConfigStore.getPendingApprovals ns noFaults db).1 = .ok []
  resolveConfig : ∀ fuel key c,
    (NamespaceManager.resolveConfig fuel ns key noFaults db).1 = .ok (some (some c)) →
      c.namespaceId ≠ ns
  resolveConfig_unknown : db.tables.namespaces.find? ns = none → ∀ fuel key,
    (NamespaceManager.resolveConfig (fuel + 1) ns key noFaults db).1 = .ok (some none)

/-- Once `deleteNamespace` has returned `true`, nothing of the namespace is read after any
calls that do not write its data; creating the namespace again is one of them. -/
def DeletionClears (ns : String) (db : Database) : Prop :=
  ∀ ts es, (respond db (ts, .deleteNamespace ns)).1 = .bool true →
    (∀ e ∈ es, e.2.namespace? ≠ some ns) →
      NothingOf ns (run step (step db (ts, .deleteNamespace ns)) es)

/-! ### Calls that do not write the namespace's data -/

section Free

variable {ns : String} {db : Database} {t : Tables}

private theorem configs_step {ts : Timestamp} {c : Call} (hc : c.isTransactional = false)
    (hn : c.namespace? ≠ some ns) (h : db.tables.Free ns) :
    ∀ row ∈ (step db (ts, c)).tables.configs.rows, row.namespaceId ≠ ns := by
  intro row hrow hns
  have hfound := Ledger.row?_of_mem (l := (step db (ts, c)).ledger) hrow
  have hpair : (c.edit db ts).pair? ≠ some (row.namespaceId, row.key) := by
    intro hp
    have hcall := pair?_edit hp
    cases c with
    | createConfig _ _ _ _ | updateConfig _ _ _ _ _ | deleteConfig _ _ _ _
    | rollbackConfig _ _ _ _ =>
      cases hcall
      exact hn (congrArg some hns)
    | _ => cases hcall
  rw [(ledger_step db ts c hc).1, Ledger.row?_apply_of_ne _ hpair, Option.map_eq_some_iff] at hfound
  obtain ⟨old, hold, _⟩ := hfound
  have hmem := ((KeyedTable.find?_eq_some_iff _ _ _).mp hold).1
  exact h.configs old hmem ((Ledger.row?_key hold).1.trans hns)

private theorem ne_of_mem_append {ρ : Type} {f : ρ → String} {rows : List ρ} {x : ρ}
    (h : ∀ r ∈ rows, f r ≠ ns) (hx : f x ≠ ns) : ∀ r ∈ rows ++ [x], f r ≠ ns := by
  intro r hr
  rcases List.mem_append.mp hr with hr | hr
  · exact h r hr
  · rwa [List.mem_singleton.mp hr]

private theorem ne_of_mem_map {ρ : Type} {f : ρ → String} {rows : List ρ} {g : ρ → ρ}
    (h : ∀ r ∈ rows, f r ≠ ns) (hg : ∀ r, f (g r) = f r) : ∀ r ∈ rows.map g, f r ≠ ns := by
  intro r hr
  obtain ⟨x, hx, rfl⟩ := List.mem_map.mp hr
  rw [hg]
  exact h x hx

private theorem others_effect (ts : Timestamp) {c : Call} (hn : c.namespace? ≠ some ns)
    (h : db.tables.Free ns) :
    (∀ r ∈ (c.effect db ts).releases.rows, r.namespaceId ≠ ns) ∧
      ∀ a ∈ (c.effect db ts).approvals.rows, a.namespaceId ≠ ns := by
  cases c with
  | createRelease release =>
    exact ⟨ne_of_mem_append h.releases fun he ↦ hn (congrArg some he), h.approvals⟩
  | createApproval approval =>
    exact ⟨h.releases, ne_of_mem_append h.approvals fun he ↦ hn (congrArg some he)⟩
  | retireRelease releaseId =>
    exact ⟨ne_of_mem_map h.releases fun r ↦ by split <;> rfl, h.approvals⟩
  | updateApprovalStatus approvalId status comment =>
    exact ⟨h.releases, ne_of_mem_map h.approvals fun a ↦ by split <;> rfl⟩
  | publishRelease n note op =>
    simp only [Call.effect]
    split
    · exact ⟨h.releases, h.approvals⟩
    · exact ⟨ne_of_mem_append h.releases fun he ↦ hn (congrArg some he), h.approvals⟩
  | createApplication _ | deleteApplication _ | createNamespace _ | createUser _ =>
    simp only [Call.effect]
    split <;> exact ⟨h.releases, h.approvals⟩
  | _ => exact ⟨h.releases, h.approvals⟩

/-- A call that does not write data of a namespace gives it none. -/
theorem free_step {e : Event} (hn : e.2.namespace? ≠ some ns) (h : db.Free ns) :
    (step db e).Free ns := by
  obtain ⟨ts, c⟩ := e
  by_cases hc : c.isTransactional = false
  · have hother := others_effect ts hn h.1
    rw [← tables_step db ts c hc] at hother
    refine ⟨⟨configs_step hc hn h.1, hother.1, hother.2⟩, ?_⟩
    rw [(ledger_step db ts c hc).2]
    exact h.2
  · have hback : (db.snapshot.getD db.tables).Free ns := by
      cases hs : db.snapshot with
      | none => exact h.1
      | some t => exact h.2 t hs
    cases c with
    | beginTransaction =>
      rw [step_beginTransaction]
      exact ⟨h.1, fun t ht ↦ Option.some.inj ht ▸ hback⟩
    | commitTransaction =>
      rw [step_commitTransaction]
      exact ⟨h.1, fun _ ht ↦ nomatch ht⟩
    | rollbackTransaction =>
      rw [step_rollbackTransaction]
      exact ⟨hback, fun _ ht ↦ nomatch ht⟩
    | _ => exact absurd rfl hc

end Free

/-! ### What is read of a namespace without data -/

private theorem mem_of_resolveConfig {db : Database} {key : String} {c : ConfigKey} (fuel : Nat)
    (ns : String) (h : (NamespaceManager.resolveConfig fuel ns key noFaults db).1 =
      .ok (some (some c))) : c ∈ db.tables.configs.rows := by
  induction fuel generalizing ns with
  | zero => cases h
  | succ fuel ih =>
    simp only [NamespaceManager.resolveConfig, bind_run, getConfig_run] at h
    cases hc : db.ledger.config? ns key false with
    | some row =>
      rw [hc] at h
      cases h
      exact ((KeyedTable.find?_eq_some_iff _ _ _).mp (Option.filter_eq_some_iff.mp hc).1).1
    | none =>
      simp only [hc, bind_run, getNamespace_run] at h
      cases hn : db.tables.namespaces.find? ns with
      | none => simp [hn] at h
      | some n =>
        cases hp : n.parentNamespaceId with
        | none => simp [hn, hp] at h
        | some parent =>
          simp only [hn, hp] at h
          exact ih parent h

private theorem row?_of_free {ns : String} {db : Database} (h : db.tables.Free ns) (key : String) :
    db.ledger.row? ns key = none := by
  refine (KeyedTable.find?_eq_none_iff _ _).mpr fun c hc hk ↦ ?_
  exact h.configs c hc (congrArg Prod.fst hk)

private theorem orderByDesc_nil {ρ α : Type} [LE α] [DecidableLE α] (column : ρ → α)
    (limit offset : Int32) : window limit offset (orderByDesc column []) = [] := by
  simp [window, orderByDesc]

/-- Reads find nothing of a namespace without data. -/
theorem nothingOf_of_free {ns : String} {db : Database} (h : db.tables.Free ns) :
    NothingOf ns db where
  getConfig key includeDraft := by
    rw [getConfig_run, Ledger.config?, row?_of_free h]
    rfl
  listConfigs := by
    rw [listConfigs_run]
    refine congrArg Except.ok (List.filter_eq_nil_iff.mpr fun c hc ↦ ?_)
    simpa using h.configs c hc
  getReleases page pageSize := by
    have hnil : db.tables.releases.rows.filter (fun r ↦ r.namespaceId = ns) = [] :=
      List.filter_eq_nil_iff.mpr fun r hr ↦ by simpa using h.releases r hr
    rw [getReleases_run, hnil, orderByDesc_nil]
  getPendingApprovals := by
    refine congrArg Except.ok (List.filter_eq_nil_iff.mpr fun a ha ↦ ?_)
    simp [h.approvals a ha]
  resolveConfig fuel key c hc := h.configs c (mem_of_resolveConfig fuel ns hc)
  resolveConfig_unknown hn fuel key := by
    simp [NamespaceManager.resolveConfig, getConfig_run, Ledger.config?, row?_of_free h,
      getNamespace_run, hn]

/-! ### What is read of a namespace with data -/

private theorem window_all {ρ : Type} (rows : List ρ) : window (-1) ((1 - 1) * -1) rows = rows := by
  have hoffset : ((1 - 1) * -1 : Int32).toInt.toNat = 0 := by decide
  have hlimit : (-1 : Int32).toInt < 0 := by decide
  simp only [window, hoffset, List.drop_zero, if_pos hlimit]

-- The listing without a limit is a permutation of the namespace's releases.
private theorem releases_of_nothingOf {ns : String} {db : Database} (h : NothingOf ns db) :
    ∀ r ∈ db.tables.releases.rows, r.namespaceId ≠ ns := by
  have hall := h.getReleases 1 (-1)
  simp only [getReleases_run, window_all] at hall
  have hnil := Except.ok.inj hall
  have hperm : (orderByDesc Release.createdAt
      (db.tables.releases.rows.filter (fun r ↦ r.namespaceId = ns))).Perm _ :=
    List.perm_insertionSort _ _
  rw [hnil] at hperm
  intro r hr
  simpa using List.filter_eq_nil_iff.mp hperm.nil_eq.symm r hr

private theorem configs_of_nothingOf {ns : String} {db : Database} (h : NothingOf ns db) :
    ∀ c ∈ db.tables.configs.rows, c.namespaceId ≠ ns := by
  have hall := h.listConfigs
  rw [listConfigs_run] at hall
  intro c hc
  simpa using List.filter_eq_nil_iff.mp (Except.ok.inj hall) c hc

private theorem pending_of_nothingOf {ns : String} {db : Database} (h : NothingOf ns db) :
    ∀ a ∈ db.tables.approvals.rows, a.namespaceId = ns → a.status ≠ "pending" := by
  intro a ha hns
  simpa [hns] using List.filter_eq_nil_iff.mp (Except.ok.inj h.getPendingApprovals) a ha

-- A decided approval is found as soon as its status is set to pending again.
private theorem approvals_of_nothingOf {ns : String} {db : Database} (ts : Timestamp)
    (h : ∀ id, NothingOf ns (step db (ts, .updateApprovalStatus id "pending" ""))) :
    ∀ a ∈ db.tables.approvals.rows, a.namespaceId ≠ ns := by
  intro a ha hns
  refine pending_of_nothingOf (h a.id)
    { a with status := "pending", comment := "", updatedAt := ts } ?_ hns rfl
  exact List.mem_map.mpr ⟨a, ha, by simp⟩

private theorem tables_free_of_nothingOf {ns : String} (db : Database)
    (h : ∀ es : List Event, (∀ e ∈ es, e.2.namespace? ≠ some ns) →
      NothingOf ns (run step db es)) : db.tables.Free ns where
  configs := configs_of_nothingOf (h [] (by simp))
  releases := releases_of_nothingOf (h [] (by simp))
  approvals := approvals_of_nothingOf "" fun id ↦
    h [("", .updateApprovalStatus id "pending" "")] (by simp [Call.namespace?])

/-! ### Deletions -/

private theorem free_deleteNamespace_iff {ns : String} {db : Database} (ts : Timestamp) :
    (step db (ts, .deleteNamespace ns)).Free ns ↔ db.Free ns := by
  constructor
  · rintro ⟨h, hs⟩
    exact ⟨⟨h.configs, h.releases, h.approvals⟩, hs⟩
  · exact free_step (by simp [Call.namespace?])

/-- Deleting a namespace clears it exactly when no configuration, release or approval of it is
stored, neither in the tables nor in those an open transaction started from. -/
theorem deletionClears_iff (ns : String) (db : Database) :
    DeletionClears ns db ↔ db.Free ns := by
  constructor
  · intro h
    rw [← free_deleteNamespace_iff ""]
    have hrun := fun es ↦ h "" es rfl
    refine ⟨tables_free_of_nothingOf _ hrun, ?_⟩
    intro t ht
    -- a rollback makes the tables of the snapshot visible again
    have hback : step (step db ("", .deleteNamespace ns)) ("", .rollbackTransaction) =
        { tables := t, snapshot := none } := by
      rw [step_rollbackTransaction, Option.mem_def.mp ht, Option.getD_some]
    refine tables_free_of_nothingOf { tables := t, snapshot := none } fun es hes ↦ ?_
    rw [← hback]
    refine hrun (("", .rollbackTransaction) :: es) ?_
    simpa [Call.namespace?] using hes
  · intro h ts es _ hes
    apply nothingOf_of_free
    have hstart := (free_deleteNamespace_iff ts).mpr h
    exact (run_invariant_along (I := Database.Free ns) hstart
      (fun d e hd he ↦ free_step he hd) (along_of_forall_mem step (fun e he _ ↦ hes e he) _)).1

/-- A published configuration is read from a namespace that was deleted and created again. -/
theorem not_deletionClears_published :
    ¬ ∀ (ns : String) (db : Database), Reachable step Database.empty db →
      DeletionClears ns db := by
  intro h
  let app : Application :=
    { appId := "shop", name := "Shop", description := none, createdAt := "t1" }
  let shop : Namespace :=
    { id := "shop/DEV/default/app", appId := "shop", env := "DEV", cluster := "default",
      name := "app", type := "private", parentNamespaceId := none, approvalEnabled := some false,
      createdAt := "t2" }
  have hc := h shop.id (run step Database.empty
    [("t1", .createApplication app), ("t2", .createNamespace shop),
      ("t3", .createConfig shop.id "timeout" "30" "alice"),
      ("t4", .publishRelease shop.id "" "alice")]) ⟨_, rfl⟩ "t5"
    [("t6", .createNamespace { shop with createdAt := "t6" })] rfl (by decide)
  exact absurd (hc.getConfig "timeout" false) (by decide)

end ConfigCenter.Storage
