import ConfigCenter.Base.Run
import ConfigCenter.Publish.PublishEngine

/-!
# Release versions of a namespace

Library `Publish`. Runs of publications and rollouts. `publishRelease` numbers a
release one above the largest of its namespace, a grayscale publication adds
none, and a rollout adds a record of its own whose version is the initializer 0.
Versions rise with ids exactly as long as rollouts go only to namespaces without
a release and no number wraps.
-/

namespace ConfigCenter.Publish
open ConfigCenter.Storage ConfigCenter.Base StorageM

/-- Calls that may add a release. -/
inductive ReleaseCall where
  | publish (namespaceId releaseNote operatorId : String)
  | publishRelease (namespaceId releaseNote operatorId : String)
  | publishGrayscale (namespaceId releaseNote operatorId : String) (percentage : Int32)
    (whitelist : List String) (outRelease : Release)
  | fullRollout (namespaceId operatorId : String) (releaseId : Int)

/-- The database after one call at a clock reading, without storage failures. -/
def releaseStep (dump : List String → String) (db : Database) (e : Timestamp × ReleaseCall) :
    Database :=
  match e.2 with
  | .publish ns note op => (PublishEngine.publish ns note op e.1 noFaults db).2
  | .publishRelease ns note op => (SqliteConfigStore.publishRelease ns note op e.1 noFaults db).2
  | .publishGrayscale ns note op percentage whitelist outRelease =>
    (PublishEngine.publishGrayscale dump ns note op percentage whitelist outRelease e.1
      noFaults db).2
  | .fullRollout ns op releaseId => (PublishEngine.fullRollout ns op releaseId noFaults db).2

/-- Among the releases of one namespace a larger id has a larger version. -/
def Sequenced (releases : List Release) : Prop :=
  ∀ a ∈ releases, ∀ b ∈ releases, a.namespaceId = b.namespaceId → a.id < b.id →
    a.releaseVersion < b.releaseVersion

instance (releases : List Release) : Decidable (Sequenced releases) :=
  inferInstanceAs (Decidable (∀ a ∈ releases, ∀ b ∈ releases,
    a.namespaceId = b.namespaceId → a.id < b.id → a.releaseVersion < b.releaseVersion))

/-- A publication finds every version of its namespace below the largest `int32_t`, a rollout of
an active release goes to a namespace without a release. -/
def KeepsSequence (db : Database) (e : Timestamp × ReleaseCall) : Prop :=
  match e.2 with
  | .publish ns _ _ | .publishRelease ns _ _ =>
    ∀ r ∈ db.tables.releases.rows, r.namespaceId = ns → r.releaseVersion.toInt < 2147483647
  | .publishGrayscale .. => True
  | .fullRollout ns _ releaseId =>
    db.tables.Active releaseId → ∀ r ∈ db.tables.releases.rows, r.namespaceId ≠ ns

/-! ### One more release -/

/-- A release with a fresh id continues the sequence exactly when its version is above those of
its namespace. -/
theorem sequenced_concat_iff {releases : List Release} {x : Release} (h : Sequenced releases)
    (hid : ∀ r ∈ releases, r.id < x.id) :
    Sequenced (releases ++ [x]) ↔
      ∀ r ∈ releases, r.namespaceId = x.namespaceId → r.releaseVersion < x.releaseVersion := by
  constructor
  · intro hs r hr hns
    exact hs r (List.mem_append_left _ hr) x (by simp) hns (hid r hr)
  · intro hx a ha b hb hns hlt
    rw [List.mem_append, List.mem_singleton] at ha hb
    obtain ha | rfl := ha
    · obtain hb | rfl := hb
      · exact h a ha b hb hns hlt
      · exact hx a ha hns
    · obtain hb | rfl := hb
      · exact absurd hlt (Int.lt_asymm (hid b hb))
      · exact absurd hlt (Int.lt_irrefl _)

private theorem sequenced_map {releases : List Release} {f : Release → Release}
    (hid : ∀ r, (f r).id = r.id) (hns : ∀ r, (f r).namespaceId = r.namespaceId)
    (hv : ∀ r, (f r).releaseVersion = r.releaseVersion) (h : Sequenced releases) :
    Sequenced (releases.map f) := by
  intro a ha b hb
  obtain ⟨x, hx, rfl⟩ := List.mem_map.mp ha
  obtain ⟨y, hy, rfl⟩ := List.mem_map.mp hb
  simp only [hid, hns, hv]
  exact h x hx y hy

/-! ### What a call does -/

/-- Outside transactions the releases are in sequence, and no version is negative. -/
structure InSequence (db : Database) : Prop where
  sequenced : Sequenced db.tables.releases.rows
  nonneg : ∀ r ∈ db.tables.releases.rows, 0 ≤ r.releaseVersion.toInt
  closed : db.snapshot = none

variable {dump : List String → String} {db : Database} {ts : Timestamp}

private theorem publishRelease_snd (hs : db.snapshot = none) (ns note op : String)
    (ts : Timestamp) :
    (SqliteConfigStore.publishRelease ns note op ts noFaults db).2 =
      { db with tables := db.tables.published ns note op ts } := by
  simp [publishRelease_run ns note op ts noFaults db hs, noFaults, failsInside]

/-- The version of the next release is above those of its namespace unless it wraps. -/
theorem lt_nextRelease_iff (t : Tables) (ns note op : String) (ts : Timestamp) :
    (∀ r ∈ t.releases.rows, r.namespaceId = ns →
      r.releaseVersion < (t.nextRelease ns note op ts).releaseVersion) ↔
      ∀ r ∈ t.releases.rows, r.namespaceId = ns → r.releaseVersion.toInt < 2147483647 := by
  constructor
  · intro h r hr hns
    have hlt := Int32.lt_iff_toInt_lt.mp (h r hr hns)
    have hle := (t.nextRelease ns note op ts).releaseVersion.toInt_le
    exact Int.lt_of_lt_of_le hlt hle
  · intro h r hr hns
    have hmem : r ∈ t.releases.rows.filter (fun r ↦ r.namespaceId = ns) :=
      List.mem_filter.mpr ⟨hr, by simpa using hns⟩
    obtain ⟨hnil, _⟩ | ⟨m, hm, hmax, hversion⟩ :=
      maxReleaseVersion_spec (t.releases.rows.filter (fun r ↦ r.namespaceId = ns))
    · rw [hnil] at hmem
      cases hmem
    · simp only [List.mem_filter, decide_eq_true_eq] at hm
      have hadd : (t.nextRelease ns note op ts).releaseVersion.toInt =
          m.releaseVersion.toInt + 1 := by
        rw [← toInt_add_one (h m hm.1 hm.2), ← hversion]
        rfl
      have hle := Int32.le_iff_toInt_le.mp (hmax r hmem)
      rw [Int32.lt_iff_toInt_lt, hadd]
      exact Int.lt_add_one_of_le hle

private theorem nextRelease_nonneg {t : Tables} {ns : String} (note op : String) (ts : Timestamp)
    (hn : ∀ r ∈ t.releases.rows, 0 ≤ r.releaseVersion.toInt)
    (hv : ∀ r ∈ t.releases.rows, r.namespaceId = ns → r.releaseVersion.toInt < 2147483647) :
    0 ≤ (t.nextRelease ns note op ts).releaseVersion.toInt := by
  change 0 ≤ (SqliteConfigStore.maxReleaseVersion
    (t.releases.rows.filter (fun r ↦ r.namespaceId = ns)) + 1).toInt
  obtain ⟨_, hzero⟩ | ⟨m, hm, _, hversion⟩ :=
    maxReleaseVersion_spec (t.releases.rows.filter (fun r ↦ r.namespaceId = ns))
  · rw [hzero]
    decide
  · simp only [List.mem_filter, decide_eq_true_eq] at hm
    rw [hversion, toInt_add_one (hv m hm.1 hm.2)]
    have := hn m hm.1
    omega

private theorem mem_retire_iff {t : Tables} {releaseId : Int} {r : Release} :
    r ∈ (t.retire releaseId).releases.rows ↔
      ∃ x ∈ t.releases.rows, (if x.id = releaseId then x.retired else x) = r := by
  simp [Tables.retire, SerialTable.mapWhere]

private theorem exists_of_mem_retire {t : Tables} {releaseId : Int} {r : Release}
    (h : r ∈ (t.retire releaseId).releases.rows) :
    ∃ x ∈ t.releases.rows, x.id = r.id ∧ x.namespaceId = r.namespaceId ∧
      x.releaseVersion = r.releaseVersion := by
  obtain ⟨x, hx, rfl⟩ := mem_retire_iff.mp h
  refine ⟨x, hx, ?_⟩
  split <;> exact ⟨rfl, rfl, rfl⟩

private theorem inSequence_published (h : InSequence db) (ns note op : String)
    (ts : Timestamp) :
    (Sequenced (db.tables.published ns note op ts).releases.rows ↔
      ∀ r ∈ db.tables.releases.rows, r.namespaceId = ns → r.releaseVersion.toInt < 2147483647) ∧
    ((∀ r ∈ db.tables.releases.rows, r.namespaceId = ns → r.releaseVersion.toInt < 2147483647) →
      InSequence { db with tables := db.tables.published ns note op ts }) := by
  have hrows : (db.tables.published ns note op ts).releases.rows =
      db.tables.releases.rows ++ [db.tables.nextRelease ns note op ts] := rfl
  have hiff := sequenced_concat_iff h.sequenced
    (x := db.tables.nextRelease ns note op ts) (fun r hr ↦ SerialTable.id_lt_nextId hr)
  have hboth := hiff.trans (lt_nextRelease_iff db.tables ns note op ts)
  refine ⟨by rw [hrows]; exact hboth, fun hv ↦ ⟨by rw [hrows]; exact hboth.mpr hv, ?_, h.closed⟩⟩
  intro r hr
  rw [hrows, List.mem_append, List.mem_singleton] at hr
  obtain hr | rfl := hr
  · exact h.nonneg r hr
  · exact nextRelease_nonneg note op ts h.nonneg hv

private theorem inSequence_rollout (h : InSequence db) (ns op : String) (releaseId : Int) :
    let t := (db.tables.retire releaseId).addRelease
      (PublishEngine.rolloutRelease ns op releaseId)
    (Sequenced t.releases.rows ↔ ∀ r ∈ db.tables.releases.rows, r.namespaceId ≠ ns) ∧
      ((∀ r ∈ db.tables.releases.rows, r.namespaceId ≠ ns) →
        InSequence { db with tables := t }) := by
  intro t
  have hretired : Sequenced (db.tables.retire releaseId).releases.rows := by
    refine sequenced_map ?_ ?_ ?_ h.sequenced <;> (intro r; split <;> rfl)
  have hrows : t.releases.rows = (db.tables.retire releaseId).releases.rows ++
      [{ PublishEngine.rolloutRelease ns op releaseId with
          id := (db.tables.retire releaseId).releases.nextId }] := rfl
  have hiff := sequenced_concat_iff hretired
    (x := { PublishEngine.rolloutRelease ns op releaseId with
      id := (db.tables.retire releaseId).releases.nextId }) (fun r hr ↦ SerialTable.id_lt_nextId hr)
  have hempty : (∀ r ∈ (db.tables.retire releaseId).releases.rows, r.namespaceId = ns →
      r.releaseVersion < 0) ↔ ∀ r ∈ db.tables.releases.rows, r.namespaceId ≠ ns := by
    constructor
    · intro hneg x hx hns
      have hr := hneg _ (mem_retire_iff.mpr ⟨x, hx, rfl⟩) (by split <;> exact hns)
      have hlt : x.releaseVersion < 0 := by
        split at hr <;> exact hr
      have hz : (0 : Int32).toInt = 0 := by decide
      have hlt' := Int32.lt_iff_toInt_lt.mp hlt
      have := h.nonneg x hx
      omega
    · intro hnone r hr hns
      obtain ⟨x, hx, _, hxns, _⟩ := exists_of_mem_retire hr
      exact absurd (hxns.trans hns) (hnone x hx)
  have hboth := hiff.trans hempty
  refine ⟨by rw [hrows]; exact hboth, fun hv ↦ ⟨by rw [hrows]; exact hboth.mpr hv, ?_, h.closed⟩⟩
  intro r hr
  rw [hrows, List.mem_append, List.mem_singleton] at hr
  obtain hr | rfl := hr
  · obtain ⟨x, hx, _, _, hversion⟩ := exists_of_mem_retire hr
    exact hversion ▸ h.nonneg x hx
  · exact Int.le_refl 0

/-- A call keeps the releases in sequence exactly when it meets the condition. -/
theorem inSequence_step (h : InSequence db) (e : Timestamp × ReleaseCall) :
    (Sequenced (releaseStep dump db e).tables.releases.rows → KeepsSequence db e) ∧
      (KeepsSequence db e → InSequence (releaseStep dump db e)) := by
  obtain ⟨ts, call⟩ := e
  cases call with
  | publish ns note op | publishRelease ns note op =>
    have hstep := publishRelease_snd h.closed ns note op ts
    obtain ⟨hiff, hkeep⟩ := inSequence_published h ns note op ts
    simp only [releaseStep, PublishEngine.publish, hstep, KeepsSequence]
    exact ⟨hiff.mp, hkeep⟩
  | publishGrayscale ns note op percentage whitelist outRelease =>
    simp only [releaseStep, PublishEngine.publishGrayscale_run _ _ _ _ _ _ _ _ db h.closed,
      KeepsSequence]
    exact ⟨fun _ ↦ True.intro, fun _ ↦ h⟩
  | fullRollout ns op releaseId =>
    simp only [releaseStep, KeepsSequence]
    by_cases ha : db.tables.Active releaseId
    · obtain ⟨hiff, hkeep⟩ := inSequence_rollout h ns op releaseId
      rw [PublishEngine.fullRollout_run_of_active ha]
      exact ⟨fun hs _ ↦ hiff.mp hs, fun hk ↦ hkeep (hk ha)⟩
    · rw [PublishEngine.fullRollout_run_of_not_active ha]
      exact ⟨fun _ hactive ↦ absurd hactive ha, fun _ ↦ h⟩

/-! ### Runs -/

/-- In every state of a run from the empty store the versions of every namespace rise with the
ids, exactly when every call of the run meets the condition. -/
theorem sequenced_run_iff (dump : List String → String) (es : List (Timestamp × ReleaseCall)) :
    (∀ pre, pre <+: es →
      Sequenced (run (releaseStep dump) Database.empty pre).tables.releases.rows) ↔
      Along (releaseStep dump) KeepsSequence Database.empty es :=
  always_iff_along (I := InSequence) (J := fun db ↦ Sequenced db.tables.releases.rows)
    (Q := fun _ _ ↦ True) ⟨by decide, by decide, rfl⟩
    (along_of_forall_mem _ (fun _ _ _ ↦ True.intro) _) (fun _ h ↦ h.sequenced)
    (fun _ e _ _ h hp ↦ (inSequence_step h e).2 hp)
    (fun _ e _ _ h hj ↦ (inSequence_step h e).1 hj)

/-- A rollout of the only release of a namespace adds a release with a smaller version. -/
theorem not_sequenced_fullRollout :
    ¬ Sequenced (run (releaseStep fun _ ↦ "[]") Database.empty
      [("2026-01-01T00:00:00Z", .publish "shop" "first" "alice"),
        ("2026-01-02T00:00:00Z", .fullRollout "shop" "alice" 1)]).tables.releases.rows := by
  decide

end ConfigCenter.Publish
