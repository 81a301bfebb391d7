import ConfigCenter.Base.Run
import ConfigCenter.Storage.BackendCoupling
import ConfigCenter.Storage.Effects

/-!
# Agreement of the backends

Library `Storage`. Stores that start with the same namespaces and otherwise empty
are coupled, and calls that meet the condition keep them so: along a run of such
calls the two backends give equal answers at every call.
-/

namespace ConfigCenter.Storage
open ConfigCenter.Base SqliteConfigStore

/-- Stores that start with the same namespaces and otherwise empty are coupled. -/
theorem coupled_of_started {s : Backends} (h : s.Started) : Coupled s.sqlite s.mysql := by
  rw [h.mysql]
  constructor
  · constructor
    · rfl
    · exact congrArg (List.map ConfigKey.aside) h.configs
    · exact congrArg (List.map ConfigVersion.aside) h.configVersions
    · exact congrArg (List.map ChangeLog.stamped) h.changeLogs
    · simp [h.changeLogs]
    · exact congrArg (List.map Release.aside) h.releases
  · exact h.snapshot
  · rfl

/-- Their texts have room in the columns of the MySQL store. -/
theorem fits_of_started {s : Backends} (h : s.Started) : s.mysql.Fits := by
  rw [h.mysql]
  refine ⟨⟨h.fits, ?_, ?_⟩, fun _ ht ↦ by cases ht⟩
  · exact fun _ hc ↦ absurd hc List.not_mem_nil
  · exact fun _ hv ↦ absurd hv List.not_mem_nil

/-- Along every run of calls that meet the condition, from stores that start with the same
namespaces and otherwise empty, the two backends give equal answers at every call. -/
theorem agree_along_agreeable (engine : Engine) [engine.ByteWise] {s : Backends} (hs : s.Started)
    {es : List (Timestamp × BackendCall)} (hts : ∀ e ∈ es, isClockText e.1)
    (hns : ∀ e ∈ es, ∀ ns ∈ e.2.namespaceId?, ns ∈ s.namespaceIds)
    (ha : Along (Backends.step engine) Backends.Agreeable s es) :
    Along (Backends.step engine) (Backends.Agree engine) s es := by
  -- the stores stay coupled, texts keep within their columns, and no call creates or removes
  -- a namespace
  refine along_of_invariant
    (I := fun t ↦ Coupled t.sqlite t.mysql ∧ t.mysql.Fits ∧ t.namespaceIds = s.namespaceIds)
    ⟨coupled_of_started hs, fits_of_started hs, rfl⟩ ?_ ha
  rintro t ⟨ts, c⟩ he ⟨hc, hroom, hids⟩ hcall
  have hm := matched_of_agreeable engine hc hroom.1 (hts _ he) (by rw [hids]; exact hns _ he) hcall
  refine ⟨hm.1, hm.2, keepsFits_execMysql engine ts c _ hroom, ?_⟩
  rw [← hids]
  have hsame : (Storage.step t.sqlite (ts, c.toCall)).tables.namespaces =
      t.sqlite.tables.namespaces := by
    apply namespaces_step
    · cases c <;> rfl
    · cases c <;> rfl
  exact congrArg (fun n ↦ n.rows.map Namespace.id) hsame

/-- An engine that refuses texts that are too long, compares texts byte by byte, takes only
clock readings for dates, scans `configs` as inserted and sorts stably. -/
def Engine.strict : Engine where
  keep type text := if TextFits type text then some text else none
  keep_of_fits h := if_pos h
  fits_of_keep {type text kept} h := by
    split at h
    · next hfit => exact Option.some.inj h ▸ hfit
    · cases h
  same a b := decide (a = b)
  same_self a := decide_eq_true rfl
  datetime t := if isClockText t then some (datetimeText t) else none
  datetime_clock _ h := if_pos h
  scan rows := rows
  scan_perm rows := .refl rows
  orderBy column rows := orderByDesc column rows
  orderBy_perm _ _ := List.perm_insertionSort _ _
  orderBy_sorted column rows := descending_orderByDesc column rows

/-- The strict engine compares texts byte by byte. -/
instance : Engine.strict.ByteWise := ⟨fun _ _ ↦ decide_eq_true_iff⟩

/-- Two empty stores with the application `shop` and its namespace `shop/prod`. -/
def Backends.shop : Backends where
  sqlite := run Storage.step Database.empty
    [("2024-01-01T00:00:00Z", .createApplication
        { appId := "shop", name := "Shop", description := none,
          createdAt := "2024-01-01T00:00:00Z" }),
      ("2024-01-01T00:00:00Z", .createNamespace
        { id := "shop/prod", appId := "shop", env := "prod", cluster := "default",
          name := "application", type := "private", parentNamespaceId := none,
          approvalEnabled := none, createdAt := "2024-01-01T00:00:00Z" })]
  mysql := { tables := .withNamespaces ["shop/prod"] }

private theorem started_shop : Backends.shop.Started := by
  constructor <;> decide

/-- A key is created, updated, rolled back, published and deleted; a rollout is recorded
without a creation time; the history is read in pages of one row. -/
theorem agree_along_agreeable_shop :
    let es : List (Timestamp × BackendCall) :=
      [("2024-01-02T08:00:00Z", .createConfig "shop/prod" "timeout" "it's 30" "alice"),
        ("2024-01-02T08:00:05Z", .updateConfig "shop/prod" "timeout" "60" "bob" true),
        ("2024-01-02T08:00:09Z", .rollbackConfig "shop/prod" "timeout" 1 "alice"),
        ("2024-01-02T08:00:09Z", .getConfig "shop/prod" "timeout" true),
        ("2024-01-02T08:01:00Z", .publishRelease "shop/prod" "first" "alice"),
        ("2024-01-02T08:02:00Z", .createRelease
          { namespaceId := "shop/prod", releaseNote := "rollout", releaseType := "full",
            status := "active", operatorId := "alice" }),
        ("2024-01-02T08:03:00Z", .deleteConfig "shop/prod" "timeout" "bob" false),
        ("2024-01-02T08:04:00Z", .getReleases { namespaceId := "shop/prod" }),
        ("2024-01-02T08:04:00Z", .getChangeHistory
          { namespaceId := some "shop/prod", timeFrom := some "2024-01-02T08:00:05Z", page := 2,
            pageSize := 1 })]
    Along (Backends.step .strict) (Backends.Agree .strict) .shop es :=
  agree_along_agreeable .strict started_shop (by decide) (by decide) (by decide)

/-- A key is created twice: the SQLite store refuses the second creation, the MySQL store
ignores that its insertion failed and answers `true`. -/
theorem not_agree_second_create :
    let es : List (Timestamp × BackendCall) :=
      [("2024-01-02T08:00:00Z", .createConfig "shop/prod" "timeout" "30" "alice"),
        ("2024-01-02T08:00:05Z", .createConfig "shop/prod" "timeout" "60" "bob")]
    Backends.shop.Started ∧ (∀ e ∈ es, isClockText e.1) ∧
      (∀ e ∈ es, ∀ ns ∈ e.2.namespaceId?, ns ∈ Backends.shop.namespaceIds) ∧
      ¬ Along (Backends.step .strict) (Backends.Agree .strict) .shop es := by
  refine ⟨started_shop, by decide, by decide, ?_⟩
  rintro ⟨-, hagree, -⟩
  let s := Backends.step .strict .shop
    ("2024-01-02T08:00:00Z", .createConfig "shop/prod" "timeout" "30" "alice")
  let e : Timestamp × BackendCall :=
    ("2024-01-02T08:00:05Z", .createConfig "shop/prod" "timeout" "60" "bob")
  have hsqlite : (respond s.sqlite (e.1, e.2.toCall)).1 = .bool false := by decide
  have hmysql : (respondMysql .strict s.mysql e).1 = .bool true := by decide
  change Response.Similar (respond s.sqlite (e.1, e.2.toCall)).1 (respondMysql .strict s.mysql e).1
    at hagree
  rw [hsqlite, hmysql] at hagree
  cases hagree

end ConfigCenter.Storage
