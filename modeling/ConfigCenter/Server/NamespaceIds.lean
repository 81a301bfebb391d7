import ConfigCenter.Storage.ManagerRuns
import ConfigCenter.Server.HttpSession

/-!
# Namespace ids

Library `Server`. The id of a namespace joins its application, environment, cluster
and name with slashes, and none of the parts is checked for a slash. A namespace
can be created and read back under the id that `handleCreateNamespace` reports
exactly when no stored namespace of other parts has the same joined id.
-/

namespace ConfigCenter.Server
open ConfigCenter.Storage ConfigCenter.Base StorageM

/-- Application, environment, cluster and name of a namespace. -/
structure NamespaceParts where
  appId : String
  env : String
  cluster : String
  name : String
  deriving DecidableEq, Repr

/-- The id of a namespace with these parts. -/
def NamespaceParts.id (p : NamespaceParts) : String :=
  NamespaceManager.makeNamespaceId p.appId p.env p.cluster p.name

/-- The parts of a stored namespace. -/
def partsOf (n : Namespace) : NamespaceParts := ⟨n.appId, n.env, n.cluster, n.name⟩

/-- A request body that `handleCreateNamespace` reads as these parts. -/
structure NamesParts (j : Json) (p : NamespaceParts) : Prop where
  appId : j.text? "app_id" = some p.appId
  env : j.text? "env" = some p.env
  cluster : j.text? "cluster" = some p.cluster ∨
    j.contains "cluster" = false ∧ p.cluster = "default"
  name : j.text? "name" = some p.name
  type : j.stringOrAbsent "type" = true
  parent : j.stringOrAbsent "parent_namespace_id" = true

/-- A namespace with these parts is created when none is stored, and is read back under the id
that a request for it is answered with. -/
def Identified (db : Database) (p : NamespaceParts) : Prop :=
  (∀ n ∈ db.tables.namespaces.rows, partsOf n ≠ p) →
    (∀ type parentNamespaceId ts, ∃ db',
      NamespaceManager.createNamespace p.appId p.env p.cluster p.name type parentNamespaceId ts
        noFaults db = (.ok true, db')) ∧
    ∀ (parse : Parse) body j ts, parse body = some j → NamesParts j p → ∃ id n db',
      HttpSession.handleCreateNamespace parse body ts noFaults db =
        (.ok (.object [("id", .string id)]), db') ∧
      NamespaceManager.getNamespace id noFaults db' = (.ok (some n), db') ∧ partsOf n = p

/-! ### Stored ids -/

/-- Stored namespaces lie under the joined id of their parts. -/
def IdsJoined (db : Database) : Prop := ∀ n ∈ db.tables.namespaces.rows, n.id = (partsOf n).id

private theorem id_of_offer {db : Database} {ts : Timestamp} {c : ManagerCall} {ns : Namespace}
    (h : c.offer db ts = some ns) : ns.id = (partsOf ns).id := by
  cases c with
  | createNamespace appId env cluster name type parent =>
    cases h
    rfl
  | createCluster appId env cluster =>
    simp only [ManagerCall.offer] at h
    split at h
    · cases h
      rfl
    · cases h
  | registerApplication _ _ _ | removeApplication _ | deleteNamespace _ | config _ => cases h

/-- Every namespace that a run of the manager stores lies under its joined id. -/
theorem idsJoined_run (es : List ManagerEvent) : IdsJoined (run managerStep .empty es) := by
  refine run_invariant (fun n hn ↦ by cases hn) ?_ es
  intro db e h
  exact (forall_namespaces_managerStep h e).mpr fun ns hoffer _ ↦ id_of_offer hoffer

/-! ### Requests -/

private theorem stringField_of_text? {j : Json} {field s : String} (h : j.text? field = some s) :
    stringField j field = pure s := by
  rw [stringField, h]

private theorem stringFieldOr_of_text? {j : Json} {field fallback s : String}
    (h : j.text? field = some s ∨ j.contains field = false ∧ s = fallback) (hj : j.isObject) :
    stringFieldOr j field fallback = pure s := by
  cases j with
  | object members =>
    simp only [Json.text?, Json.contains] at h
    simp only [stringFieldOr]
    cases hl : members.lookup field with
    | none =>
      rw [hl] at h
      rcases h with h | ⟨-, rfl⟩
      · cases h
      · rfl
    | some v =>
      rw [hl] at h
      rcases h with h | ⟨h, -⟩
      · cases v with
        | string t =>
          cases h
          rfl
        | null | bool _ | integer _ | float _ | array _ | object _ => cases h
      · cases h
  | null | bool _ | integer _ | float _ | string _ | array _ => cases hj

/-- A request that names the parts is a creation with these parts and answers with their id. -/
theorem handleCreateNamespace_run {parse : Parse} {body : String} {j : Json} {p : NamespaceParts}
    (hj : parse body = some j) (h : NamesParts j p) (ts : Timestamp) (db : Database) :
    ∃ type parentNamespaceId,
      let row := namespaceRow p.appId p.env p.cluster p.name type parentNamespaceId ts
      HttpSession.handleCreateNamespace parse body ts noFaults db =
        (.ok (if (db.addNamespace? row).isSome then .object [("id", .string p.id)]
          else ApiResponse.error 400 "Failed to create namespace"),
          (db.addNamespace? row).getD db) := by
  have hobject : j.isObject :=
    Json.isObject_of_hasString (show j.hasString "app_id" by rw [Json.hasString, h.appId]; rfl)
  obtain ⟨type, htype⟩ : ∃ type, stringFieldOr j "type" "private" = pure type := by
    have hreads := reads_stringFieldOr j "type" "private"
    rwa [hobject, h.type] at hreads
  obtain ⟨parent, hparent⟩ :
      ∃ parent, optionalStringField j "parent_namespace_id" = pure parent := by
    have hreads := reads_optionalStringField j "parent_namespace_id"
    rwa [h.parent] at hreads
  refine ⟨type, parent, ?_⟩
  simp only [HttpSession.handleCreateNamespace, parseBody, hj, bind_run, pure_run,
    stringField_of_text? h.appId, stringField_of_text? h.env, stringField_of_text? h.name,
    stringFieldOr_of_text? h.cluster hobject, htype, hparent, NamespaceManager.createNamespace_run]
  cases db.addNamespace? (namespaceRow p.appId p.env p.cluster p.name type parent ts) <;> rfl

/-! ### When ids identify -/

private theorem stored_of_free {db : Database} {p : NamespaceParts}
    (happ : (db.tables.applications.find? p.appId).isSome)
    (hfree : db.tables.namespaces.find? p.id = none) (type : String)
    (parentNamespaceId : Option String) (ts : Timestamp) :
    let row := namespaceRow p.appId p.env p.cluster p.name type parentNamespaceId ts
    ∃ db', db.addNamespace? row = some db' ∧ db'.tables.namespaces.find? p.id = some row := by
  intro row
  obtain ⟨db', hadd⟩ := Option.isSome_iff_exists.mp
    ((addNamespace?_isSome db row).mpr ⟨happ, hfree⟩)
  refine ⟨db', hadd, ?_⟩
  rw [KeyedTable.find?_insert? (of_addNamespace? hadd).1, if_pos (show row.id = p.id from rfl)]

private theorem identified_of_free {db : Database} {p : NamespaceParts}
    (happ : (db.tables.applications.find? p.appId).isSome)
    (hfree : db.tables.namespaces.find? p.id = none) : Identified db p := by
  intro _
  constructor
  · intro type parent ts
    obtain ⟨db', hadd, -⟩ := stored_of_free happ hfree type parent ts
    refine ⟨db', ?_⟩
    rw [NamespaceManager.createNamespace_run, hadd]
    rfl
  · intro parse body j ts hj hparts
    obtain ⟨type, parent, hrun⟩ := handleCreateNamespace_run hj hparts ts db
    obtain ⟨db', hadd, hfind⟩ := stored_of_free happ hfree type parent ts
    refine ⟨p.id, namespaceRow p.appId p.env p.cluster p.name type parent ts, db', ?_, ?_, rfl⟩
    · rw [hrun, hadd]
      rfl
    · rw [NamespaceManager.getNamespace, getNamespace_run, hfind]

private theorem partsOf_ne_of_taken {db : Database} (hjoined : IdsJoined db) {p : NamespaceParts}
    {n : Namespace} (hn : n ∈ db.tables.namespaces.rows) (hid : (partsOf n).id = p.id)
    (hne : partsOf n ≠ p) : ∀ m ∈ db.tables.namespaces.rows, partsOf m ≠ p := by
  intro m hm hmp
  have hkey : m.id = n.id := by rw [hjoined m hm, hjoined n hn, hmp, hid]
  have hmn : m = n := List.inj_on_of_nodup_map db.tables.namespaces.distinct hm hn hkey
  exact hne (hmn ▸ hmp)

/-- In every state that a run of the manager reaches, an id identifies its namespace exactly
when no stored namespace of other parts has it. -/
theorem identified_iff (es : List ManagerEvent) (p : NamespaceParts)
    (happ : ((run managerStep .empty es).tables.applications.find? p.appId).isSome) :
    let db := run managerStep .empty es
    Identified db p ↔ ∀ n ∈ db.tables.namespaces.rows, (partsOf n).id = p.id → partsOf n = p := by
  intro db
  have hjoined : IdsJoined db := idsJoined_run es
  constructor
  · intro h n hn hid
    by_contra hne
    obtain ⟨db', hcreate⟩ := (h (partsOf_ne_of_taken hjoined hn hid hne)).1 "private" none ""
    -- the creation went through, so the id that `n` has was free
    have htaken : db.tables.namespaces.find? p.id = some n :=
      (KeyedTable.find?_eq_some_iff _ _ _).mpr ⟨hn, (hjoined n hn).trans hid⟩
    rw [NamespaceManager.createNamespace_run, Prod.mk.injEq, Except.ok.injEq,
      addNamespace?_isSome] at hcreate
    exact absurd (htaken.symm.trans hcreate.1.2) (by simp)
  · intro h hnone
    have hfree : db.tables.namespaces.find? p.id = none := by
      rw [KeyedTable.find?_eq_none_iff]
      intro n hn hid
      exact hnone n hn (h n hn ((hjoined n hn).symm.trans hid))
    exact identified_of_free happ hfree hnone

/-- A third namespace of an application, beside two of other parts. -/
theorem identified_third :
    let es : List ManagerEvent :=
      [("2024-05-01T10:00:00Z", .registerApplication "shop" "Shop" none),
        ("2024-05-01T10:00:01Z", .createNamespace "shop" "DEV" "default" "mobile" "private" none),
        ("2024-05-01T10:00:02Z", .createNamespace "shop" "PRO" "default" "web" "public" none)]
    (run managerStep .empty es).tables.namespaces.rows.map partsOf =
        [⟨"shop", "DEV", "default", "mobile"⟩, ⟨"shop", "PRO", "default", "web"⟩] ∧
      Identified (run managerStep .empty es) ⟨"shop", "DEV", "default", "web"⟩ := by
  intro es
  exact ⟨by decide +kernel, (identified_iff es ⟨"shop", "DEV", "default", "web"⟩
    (by decide +kernel)).mpr (by decide +kernel)⟩

/-- `b/c` in cluster `d` and `b` in cluster `c/d` are one id: the second is refused. -/
theorem not_identified_slash :
    ¬ Identified
      (run managerStep .empty
        [("2024-05-01T10:00:00Z", .registerApplication "shop" "Shop" none),
          ("2024-05-01T10:00:01Z", .createNamespace "shop" "b/c" "d" "web" "private" none)])
      ⟨"shop", "b", "c/d", "web"⟩ := by
  intro h
  obtain ⟨db', hcreate⟩ := (h (by decide +kernel)).1 "private" none "2024-05-01T10:00:02Z"
  have hrefused : (NamespaceManager.createNamespace "shop" "b" "c/d" "web" "private" none
      "2024-05-01T10:00:02Z" noFaults
      (run managerStep .empty
        [("2024-05-01T10:00:00Z", .registerApplication "shop" "Shop" none),
          ("2024-05-01T10:00:01Z",
            .createNamespace "shop" "b/c" "d" "web" "private" none)])).1.toOption = some false := by
    decide +kernel
  rw [hcreate] at hrefused
  cases hrefused

end ConfigCenter.Server
