import Mathlib.Data.Fintype.EquivFin
import ConfigCenter.Base.Chain
import ConfigCenter.Storage.ManagerRuns

/-!
# Inherited lookup

Library `Storage`. `NamespaceManager::resolveConfig` walks along the parents of the
stored namespaces. The walk finds the nearest published row where it stops; it has
no bound of its own, and a parent is free text, so a namespace whose parent leads
back to it makes the recursion endless.
-/

namespace ConfigCenter.Storage
open ConfigCenter.Base StorageM

/-- The parent of a stored namespace. -/
def Tables.parent? (t : Tables) (namespaceId : String) : Option String :=
  (t.namespaces.find? namespaceId).bind (·.parentNamespaceId)

/-- The recursion of `resolveConfig` ends. -/
def ResolveEnds (db : Database) (namespaceId key : String) : Prop :=
  ∃ fuel r, (NamespaceManager.resolveConfig fuel namespaceId key noFaults db).1 = .ok (some r)

/-- A call stores a namespace whose parent leads back to it. -/
def ManagerCall.ClosesCycle (db : Database) : ManagerCall → Prop
  | .createNamespace appId env cluster name _ (some parent) =>
    let id := NamespaceManager.makeNamespaceId appId env cluster name
    (db.tables.applications.find? appId).isSome ∧ db.tables.namespaces.find? id = none ∧
      Arrives db.tables.parent? parent id
  | _ => False

/-! ### The walk along the parents -/

section Walk

variable {db : Database} {namespaceId key : String}

/-- One level of the recursion. -/
theorem resolveConfig_succ (fuel : Nat) (namespaceId key : String) (db : Database) :
    NamespaceManager.resolveConfig (fuel + 1) namespaceId key noFaults db =
      match db.ledger.config? namespaceId key false with
      | some c => (.ok (some (some c)), db)
      | none =>
        match db.tables.parent? namespaceId with
        | none => (.ok (some none), db)
        | some parent => NamespaceManager.resolveConfig fuel parent key noFaults db := by
  simp only [NamespaceManager.resolveConfig, bind_run, getConfig_run]
  cases db.ledger.config? namespaceId key false with
  | some c => rfl
  | none =>
    simp only [bind_run, getNamespace_run, Tables.parent?]
    cases db.tables.namespaces.find? namespaceId with
    | none => rfl
    | some n =>
      simp only [Option.bind_some]
      cases n.parentNamespaceId <;> rfl

/-- With a level for each namespace of the chain the lookup is the first hit along it. -/
theorem resolveConfig_of_chain {l : List String} (h : Chain db.tables.parent? namespaceId l)
    (key : String) {fuel : Nat} (hf : l.length ≤ fuel) :
    NamespaceManager.resolveConfig fuel namespaceId key noFaults db =
      (.ok (some (l.findSome? (fun n ↦ db.ledger.config? n key false))), db) := by
  induction h generalizing fuel with
  | @stop n hn =>
    obtain ⟨fuel, rfl⟩ := Nat.exists_eq_add_of_le' hf
    rw [List.length_singleton, resolveConfig_succ, List.findSome?_singleton, hn]
    cases db.ledger.config? n key false <;> rfl
  | @step n parent l hs _ ih =>
    obtain ⟨fuel, rfl⟩ := Nat.exists_eq_add_of_le' hf
    rw [List.length_cons, ← Nat.add_assoc, resolveConfig_succ, List.findSome?_cons, hs]
    cases db.ledger.config? n key false with
    | some c => rfl
    | none => exact ih (Nat.le_add_left _ _)

/-- A lookup of a key that nobody stores ends only where the walk stops. -/
theorem ends_of_resolveConfig (hkey : ∀ n, db.ledger.config? n key false = none) {fuel : Nat}
    {r : Option ConfigKey}
    (h : (NamespaceManager.resolveConfig fuel namespaceId key noFaults db).1 = .ok (some r)) :
    Ends db.tables.parent? namespaceId := by
  induction fuel generalizing namespaceId with
  | zero => cases h
  | succ fuel ih =>
    rw [resolveConfig_succ, hkey] at h
    cases hp : db.tables.parent? namespaceId with
    | none => exact ⟨_, .stop hp⟩
    | some parent =>
      rw [hp] at h
      exact (ends_iff_of_some hp).mpr (ih h)

end Walk

private theorem exists_unused_key (l : Ledger) : ∃ key, ∀ n, l.row? n key = none := by
  obtain ⟨key, hkey⟩ := Infinite.exists_notMem_finset ((l.configs.rows.map (·.key)).toFinset)
  refine ⟨key, fun n ↦ (KeyedTable.find?_eq_none_iff _ _).mpr fun c hc hk ↦ hkey ?_⟩
  have hck : c.key = key := congrArg Prod.snd hk
  simpa using ⟨c, hc, hck⟩

/-- Every lookup ends exactly where every walk along the parents does. -/
theorem forall_resolveEnds_iff (db : Database) :
    (∀ namespaceId key, ResolveEnds db namespaceId key) ↔ ∀ n, Ends db.tables.parent? n := by
  constructor
  · intro h n
    obtain ⟨key, hkey⟩ := exists_unused_key db.ledger
    obtain ⟨fuel, r, hr⟩ := h n key
    refine ends_of_resolveConfig (fun n ↦ ?_) hr
    rw [Ledger.config?, hkey, Option.filter_none]
  · intro h namespaceId key
    obtain ⟨l, hl⟩ := h namespaceId
    exact ⟨l.length, _, congrArg Prod.fst (resolveConfig_of_chain hl key (Nat.le_refl _))⟩

/-! ### Runs of the manager -/

section Step

variable {db db' : Database} {ns : Namespace}

private theorem closesCycle_iff (db : Database) (ts : Timestamp) (c : ManagerCall) :
    c.ClosesCycle db ↔ ∃ ns parent, c.offer db ts = some ns ∧ ns.parentNamespaceId = some parent ∧
      (db.addNamespace? ns).isSome ∧ Arrives db.tables.parent? parent ns.id := by
  simp only [addNamespace?_isSome]
  constructor
  · intro h
    cases c with
    | createNamespace appId env cluster name type parentNamespaceId =>
      cases parentNamespaceId with
      | none => cases h
      | some parent => exact ⟨_, parent, rfl, rfl, ⟨h.1, h.2.1⟩, h.2.2⟩
    | registerApplication _ _ _ | removeApplication _ | createCluster _ _ _ | deleteNamespace _
    | config _ => cases h
  · rintro ⟨ns, parent, hoffer, hparent, ⟨happ, hfree⟩, harr⟩
    cases c with
    | createNamespace appId env cluster name type parentNamespaceId =>
      cases hoffer
      cases hparent
      exact ⟨happ, hfree, harr⟩
    | createCluster appId env cluster =>
      simp only [ManagerCall.offer] at hoffer
      split at hoffer
      · cases hoffer
        cases hparent
      · cases hoffer
    | registerApplication _ _ _ | removeApplication _ | deleteNamespace _ | config _ => cases hoffer

private theorem parent?_addNamespace? (h : db.addNamespace? ns = some db') (n : String) :
    db'.tables.parent? n = if ns.id = n then ns.parentNamespaceId else db.tables.parent? n := by
  rw [Tables.parent?, KeyedTable.find?_insert? (of_addNamespace? h).1]
  split
  · rfl
  · rfl

private theorem parent?_deleteNamespace (db : Database) (ts : Timestamp) (nsId n : String) :
    (step db (ts, .deleteNamespace nsId)).tables.parent? n = none ∨
      (step db (ts, .deleteNamespace nsId)).tables.parent? n = db.tables.parent? n := by
  rw [tables_step db ts _ rfl]
  simp only [Call.effect, Tables.parent?, KeyedTable.find?_removeWhere]
  cases db.tables.namespaces.find? n with
  | none => exact .inl rfl
  | some row =>
    by_cases hid : row.id = nsId
    · left
      simp [Option.filter, hid]
    · right
      simp [Option.filter, hid]

private theorem forall_ends_addNamespace? (h : ∀ n, Ends db.tables.parent? n)
    (hadd : db.addNamespace? ns = some db') :
    (∀ n, Ends db'.tables.parent? n) ↔
      ∀ parent, ns.parentNamespaceId = some parent → ¬ Arrives db.tables.parent? parent ns.id := by
  have hnew := parent?_addNamespace? hadd
  have hothers : ∀ x, x ≠ ns.id → db'.tables.parent? x = db.tables.parent? x := by
    intro x hx
    rw [hnew, if_neg (Ne.symm hx)]
  cases hp : ns.parentNamespaceId with
  | none =>
    refine iff_of_true (fun n ↦ (h n).of_sub fun x ↦ ?_) (by rintro parent ⟨⟩)
    by_cases hx : x = ns.id
    · left
      rw [hnew, if_pos hx.symm, hp]
    · exact .inr (hothers x hx)
  | some parent =>
    have hfree : db.tables.parent? ns.id = none := by
      rw [Tables.parent?, KeyedTable.find?_none_of_insert? (of_addNamespace? hadd).1]
      rfl
    have hself : db'.tables.parent? ns.id = some parent := by rw [hnew, if_pos rfl, hp]
    rw [forall_ends_extend hfree hself hothers h]
    simp

/-- A step keeps every walk finite exactly when it closes no cycle. -/
theorem forall_ends_managerStep (h : ∀ n, Ends db.tables.parent? n) (e : ManagerEvent) :
    (∀ n, Ends (managerStep db e).tables.parent? n) ↔ ¬ e.2.ClosesCycle db := by
  obtain ⟨ts, c⟩ := e
  rw [closesCycle_iff db ts c]
  rcases managerStep_cases db ts c with
    ⟨ns, db', hoffer, hadd, hstep⟩ | ⟨nsId, rfl, hstep⟩ | ⟨hnone, hsame⟩
  · rw [hstep, forall_ends_addNamespace? h hadd]
    constructor
    · rintro hback ⟨ns', parent, hoffer', hp, -, harr⟩
      cases hoffer.symm.trans hoffer'
      exact hback parent hp harr
    · intro hclosed parent hp harr
      exact hclosed ⟨ns, parent, hoffer, hp, by rw [hadd]; rfl, harr⟩
  · rw [hstep]
    refine iff_of_true (fun n ↦ (h n).of_sub (parent?_deleteNamespace db ts nsId)) ?_
    rintro ⟨ns, parent, hoffer, -⟩
    cases hoffer
  · have hparent : (managerStep db (ts, c)).tables.parent? = db.tables.parent? := by
      funext n
      rw [Tables.parent?, hsame, Tables.parent?]
    rw [hparent]
    refine iff_of_true h ?_
    rintro ⟨ns, parent, hoffer, -, hadd, -⟩
    rw [hoffer, Option.bind_some] at hnone
    rw [hnone] at hadd
    cases hadd

end Step

/-- Along a run of the manager every lookup of every visited state ends exactly when no step
closes a cycle of parents. -/
theorem resolveConfig_ends_iff (es : List ManagerEvent) :
    (∀ pre, pre <+: es → ∀ namespaceId key,
        ResolveEnds (run managerStep .empty pre) namespaceId key) ↔
      Along managerStep (fun db e ↦ ¬ e.2.ClosesCycle db) .empty es := by
  simp only [forall_resolveEnds_iff]
  refine always_iff_along_of_iff (I := fun db : Database ↦ ∀ n, Ends db.tables.parent? n) ?_
    fun db e _ h ↦ forall_ends_managerStep h e
  exact fun n ↦ ⟨[n], .stop rfl⟩

/-- A namespace that names itself as its parent: the lookup of a missing key never ends. -/
theorem not_resolveEnds_own_parent :
    ¬ ResolveEnds
      (run managerStep .empty
        [("2024-05-01T10:00:00Z", .registerApplication "shop" "Shop" none),
          ("2024-05-01T10:00:01Z",
            .createNamespace "shop" "DEV" "default" "web" "private" (some "shop/DEV/default/web"))])
      "shop/DEV/default/web" "timeout" := by
  rintro ⟨fuel, r, h⟩
  have hend := ends_of_resolveConfig (fun _ ↦ rfl) h
  refine not_ends_of_arrives (a := "shop/DEV/default/web") ?_ .refl hend
  decide +kernel

/-- Where the parents of a namespace form a finite chain, the lookup returns the published row
of the first namespace of the chain that has one, and nothing where none has. -/
theorem resolveConfig_nearest {db : Database} {namespaceId : String} {chain : List String}
    (h : Chain db.tables.parent? namespaceId chain) (key : String) {fuel : Nat}
    (hf : chain.length ≤ fuel) :
    ∃ r, NamespaceManager.resolveConfig fuel namespaceId key noFaults db = (.ok (some r), db) ∧
      (∀ c, r = some c ↔ ∃ nearer n further, chain = nearer ++ n :: further ∧
        SqliteConfigStore.getConfig n key false noFaults db = (.ok (some c), db) ∧
        ∀ m ∈ nearer, SqliteConfigStore.getConfig m key false noFaults db = (.ok none, db)) ∧
      (r = none ↔
        ∀ n ∈ chain, SqliteConfigStore.getConfig n key false noFaults db = (.ok none, db)) := by
  have hget : ∀ n r, SqliteConfigStore.getConfig n key false noFaults db = (.ok r, db) ↔
      db.ledger.config? n key false = r := by
    intro n r
    rw [getConfig_run]
    simp
  refine ⟨_, resolveConfig_of_chain h key hf, fun c ↦ ?_, ?_⟩
  · rw [List.findSome?_eq_some_iff]
    simp only [hget]
  · rw [List.findSome?_eq_none_iff]
    simp only [hget]

/-- A key of the grandparent is found past the child's draft and a parent without rows; the
grandparent's id is not the id of a stored namespace. -/
theorem resolveConfig_nearest_grandchild :
    let db := run managerStep .empty
      [("t0", .registerApplication "a" "A" none),
        ("t1", .createNamespace "a" "e" "c" "x" "private" (some "y")),
        ("t2", .createNamespace "a" "e" "c" "z" "private" (some "a/e/c/x")),
        ("t3", .config ⟨.createConfig "y" "k" "v" "u", rfl⟩),
        ("t4", .config ⟨.publishRelease "y" "" "u", rfl⟩),
        ("t5", .config ⟨.createConfig "a/e/c/z" "k" "w" "u", rfl⟩)]
    let row := (Ledger.createdRow "y" "k" "v" "t3").withStatus .live
    NamespaceManager.resolveConfig 3 "a/e/c/z" "k" noFaults db = (.ok (some (some row)), db) := by
  intro db row
  have hchain : Chain db.tables.parent? "a/e/c/z" ["a/e/c/z", "a/e/c/x", "y"] :=
    .step (by decide +kernel) (.step (by decide +kernel) (.stop (by decide +kernel)))
  have hlen : ["a/e/c/z", "a/e/c/x", "y"].length ≤ 3 := by decide
  obtain ⟨r, hr, hsome, -⟩ := resolveConfig_nearest hchain "k" hlen
  rw [hr, (hsome _).mpr ⟨["a/e/c/z", "a/e/c/x"], "y", [], rfl, ?_, ?_⟩]
  · rw [getConfig_run]
    exact Prod.ext (congrArg Except.ok (by decide +kernel)) rfl
  · intro m hm
    rw [getConfig_run]
    refine Prod.ext (congrArg Except.ok ?_) rfl
    revert m
    decide +kernel

end ConfigCenter.Storage
