import ConfigCenter.Storage.ManagerRuns
import ConfigCenter.Server.HttpSession

/-!
# Listings of namespaces and clusters

Library `Server`. `handleListNamespaces` and `listClusters` ask the store for the
environment `""` and the cluster `""`, which the store takes as exact values. The
listings are those of a store whose namespaces all lie in the environment `""` and
the cluster `""`; any other namespace is missing from them.
-/

namespace ConfigCenter.Storage.NamespaceManager
open ConfigCenter.Base

/-- The loop of `listClusters` collects every cluster once. -/
theorem collectClusters_spec (namespaces : List Namespace) :
    (collectClusters namespaces).Nodup ∧
      ∀ c, c ∈ collectClusters namespaces ↔ ∃ n ∈ namespaces, n.cluster = c := by
  unfold collectClusters
  -- the clusters so far are those of the namespaces passed; the loop goes on from any such list
  suffices h : ∀ acc : List String, acc.Nodup →
      (namespaces.foldl
        (fun clusters ns ↦ if ns.cluster ∈ clusters then clusters else clusters ++ [ns.cluster])
        acc).Nodup ∧
      ∀ c, c ∈ namespaces.foldl
          (fun clusters ns ↦ if ns.cluster ∈ clusters then clusters else clusters ++ [ns.cluster])
          acc ↔ c ∈ acc ∨ ∃ n ∈ namespaces, n.cluster = c by
    simpa using h [] List.nodup_nil
  induction namespaces with
  | nil => simp
  | cons ns rest ih =>
    intro acc hacc
    rw [List.foldl_cons]
    by_cases hmem : ns.cluster ∈ acc
    · rw [if_pos hmem]
      refine ⟨(ih acc hacc).1, fun c ↦ ?_⟩
      rw [(ih acc hacc).2 c, List.exists_mem_cons_iff]
      constructor
      · exact fun h ↦ h.imp_right .inr
      · rintro (hc | rfl | hc)
        · exact .inl hc
        · exact .inl hmem
        · exact .inr hc
    · have hnew : (acc ++ [ns.cluster]).Nodup :=
        hacc.append (List.nodup_singleton _) (by simpa using hmem)
      rw [if_neg hmem]
      refine ⟨(ih _ hnew).1, fun c ↦ ?_⟩
      rw [(ih _ hnew).2 c, List.exists_mem_cons_iff, List.mem_append, List.mem_singleton,
        or_assoc, eq_comm (a := c)]

end ConfigCenter.Storage.NamespaceManager

namespace ConfigCenter.Server
open ConfigCenter.Storage ConfigCenter.Base StorageM

/-- The answer of `handleListNamespaces` for some namespaces, `http_server.cpp:196–207`. -/
def namespaceListing (namespaces : List Namespace) : Json :=
  .object [("namespaces", .array (namespaces.map fun ns ↦ .object
    [("id", .string ns.id), ("app_id", .string ns.appId), ("env", .string ns.env),
      ("cluster", .string ns.cluster), ("name", .string ns.name), ("type", .string ns.type)]))]

/-- The listings are complete: an application's namespaces are listed over all environments and
clusters, each once and nothing else; the clusters of an environment are those of its
namespaces, each once and nothing else, and `default` without any. -/
structure ListingsComplete (db : Database) : Prop where
  namespaces : ∀ appId, ∃ listed,
    HttpSession.handleListNamespaces appId noFaults db = (.ok (namespaceListing listed), db) ∧
      listed.Perm (db.tables.namespaces.rows.filter (fun n ↦ n.appId = appId))
  clusters : ∀ appId env, ∃ listed,
    NamespaceManager.listClusters appId env noFaults db = (.ok listed, db) ∧
      let stored := db.tables.namespaces.rows.filter (fun n ↦ n.appId = appId ∧ n.env = env)
      if stored = [] then listed = ["default"]
      else listed.Nodup ∧ ∀ c, c ∈ listed ↔ ∃ n ∈ stored, n.cluster = c

/-- Every stored namespace lies in the environment `""` and the cluster `""`. -/
def AllUnplaced (db : Database) : Prop :=
  ∀ n ∈ db.tables.namespaces.rows, n.env = "" ∧ n.cluster = ""

/-- A call stores no namespace with an environment or a cluster. -/
def StoresUnplaced (db : Database) (e : ManagerEvent) : Prop :=
  ∀ ns, e.2.offer db e.1 = some ns → (db.addNamespace? ns).isSome → ns.env = "" ∧ ns.cluster = ""

/-! ### One state -/

section State

variable {db : Database}

private theorem handleListNamespaces_run (appId : String) (db : Database) :
    HttpSession.handleListNamespaces appId noFaults db =
      (.ok (namespaceListing (db.tables.namespaces.rows.filter
        (fun n ↦ n.appId = appId ∧ n.env = "" ∧ n.cluster = ""))), db) := rfl

private theorem listClusters_run (appId env : String) (db : Database) :
    NamespaceManager.listClusters appId env noFaults db =
      (.ok (let clusters := NamespaceManager.collectClusters (db.tables.namespaces.rows.filter
          (fun n ↦ n.appId = appId ∧ n.env = env ∧ n.cluster = ""))
        if clusters.isEmpty then ["default"] else clusters), db) := rfl

private theorem length_of_namespaceListing {a b : List Namespace}
    (h : namespaceListing a = namespaceListing b) : a.length = b.length := by
  simp only [namespaceListing, Json.object.injEq, List.cons.injEq, Prod.mk.injEq,
    Json.array.injEq, true_and, and_true] at h
  simpa using congrArg List.length h

private theorem allUnplaced_of_complete (h : ListingsComplete db) : AllUnplaced db := by
  intro n hn
  obtain ⟨listed, hrun, hperm⟩ := h.namespaces n.appId
  rw [handleListNamespaces_run] at hrun
  have hlen := length_of_namespaceListing (Except.ok.inj (congrArg Prod.fst hrun))
  have hsplit : db.tables.namespaces.rows.filter
        (fun m ↦ m.appId = n.appId ∧ m.env = "" ∧ m.cluster = "") =
      (db.tables.namespaces.rows.filter (fun m ↦ m.appId = n.appId)).filter
        (fun m ↦ m.env = "" ∧ m.cluster = "") := by
    rw [List.filter_filter]
    apply List.filter_congr
    intro m _
    rw [Bool.decide_and, Bool.and_comm]
  rw [hperm.length_eq, hsplit, List.length_filter_eq_length_iff] at hlen
  simpa using hlen n (List.mem_filter.mpr ⟨hn, by simp⟩)

private theorem complete_of_allUnplaced (h : AllUnplaced db) : ListingsComplete db where
  namespaces := by
    intro appId
    refine ⟨_, handleListNamespaces_run appId db, List.Perm.of_eq ?_⟩
    apply List.filter_congr
    intro n hn
    simp [h n hn]
  clusters := by
    intro appId env
    have hstored : db.tables.namespaces.rows.filter
          (fun n ↦ n.appId = appId ∧ n.env = env ∧ n.cluster = "") =
        db.tables.namespaces.rows.filter (fun n ↦ n.appId = appId ∧ n.env = env) := by
      apply List.filter_congr
      intro n hn
      simp [h n hn]
    refine ⟨_, listClusters_run appId env db, ?_⟩
    rw [hstored]
    generalize db.tables.namespaces.rows.filter (fun n ↦ n.appId = appId ∧ n.env = env) = stored
    obtain ⟨hnodup, hmem⟩ := NamespaceManager.collectClusters_spec stored
    cases stored with
    | nil => rfl
    | cons n rest =>
      have hne : (NamespaceManager.collectClusters (n :: rest)).isEmpty = false := by
        rw [List.isEmpty_eq_false_iff]
        exact List.ne_nil_of_mem ((hmem n.cluster).mpr ⟨n, by simp, rfl⟩)
      simp only [hne, Bool.false_eq_true, if_false, reduceCtorEq]
      exact ⟨hnodup, hmem⟩

/-- Listings are complete exactly where no namespace has an environment or a cluster. -/
theorem listingsComplete_iff (db : Database) : ListingsComplete db ↔ AllUnplaced db :=
  ⟨allUnplaced_of_complete, complete_of_allUnplaced⟩

end State

/-! ### Runs of the manager -/

/-- Along a run of the manager the listings of every visited state are complete exactly when no
step stores a namespace with an environment or a cluster. -/
theorem listingsComplete_iff_along (es : List ManagerEvent) :
    (∀ pre, pre <+: es → ListingsComplete (run managerStep .empty pre)) ↔
      Along managerStep StoresUnplaced .empty es := by
  simp only [listingsComplete_iff]
  refine always_iff_along_of_iff ?_ fun db e _ h ↦ forall_namespaces_managerStep h e
  intro n hn
  cases hn

/-- One namespace in `DEV`: the application's listing is empty. -/
theorem not_listingsComplete_dev :
    ¬ ListingsComplete
      (run managerStep .empty
        [("2024-05-01T10:00:00Z", .registerApplication "shop" "Shop" none),
          ("2024-05-01T10:00:01Z",
            .createNamespace "shop" "DEV" "default" "web" "private" none)]) := by
  intro h
  obtain ⟨listed, hrun, hperm⟩ := h.namespaces "shop"
  rw [handleListNamespaces_run] at hrun
  have hlen := length_of_namespaceListing (Except.ok.inj (congrArg Prod.fst hrun))
  rw [hperm.length_eq] at hlen
  exact absurd hlen (by decide +kernel)

end ConfigCenter.Server
