import ConfigCenter.Storage.BackendAgreement

/-!
# Publishing on MySQL when statements fail

Library `Storage`. `MysqlConnection` reports a failed call by returning `false`,
and `publishRelease` looks at none of these answers: its handler reacts to
exceptions alone, which none of the calls throws. It therefore returns `true`
under every pattern of failing calls, and whether the release is committed
depends on which of them failed.
-/

namespace ConfigCenter.Storage.MysqlConfigStore
open ConfigCenter.Base MysqlM

/-- Which database calls of `publishRelease` fail, in the order of
`mysql_config_store.cpp:651–688`. -/
structure PublishFaults where
  beginTransaction : Bool := false
  updateConfigs : Bool := false
  selectMaxVersion : Bool := false
  insertRelease : Bool := false
  selectLastInsertId : Bool := false
  commit : Bool := false
  deriving DecidableEq, Repr

/-- A call that returns `false` leaves the connection as it is. -/
def mayFail {α : Type} (fails : Bool) (answer : α) (x : MysqlM α) : MysqlM α :=
  if fails then pure answer else x

variable (engine : Engine)

/-- The `try` block of `publishRelease` up to the assignment of `outRelease`, where the calls of
`faults` fail; a query that fails leaves its rows empty. -/
def prepareReleaseUnder (faults : PublishFaults) (namespaceId releaseNote operatorId : String)
    (ts : Timestamp) : MysqlM Release := do
  let _ ← mayFail faults.updateConfigs false
    (execute engine (.setConfigStatus .live (escape namespaceId)))
  let versionRows ← mayFail faults.selectMaxVersion []
    (query engine (.maxReleaseVersion (escape namespaceId)))
  let nextVersion ← ofExcept (nextVersion versionRows)
  let release : Release :=
    { namespaceId, releaseVersion := nextVersion, releaseNote, releaseType := "full",
      status := "active", operatorId, createdAt := ts }
  let _ ← mayFail faults.insertRelease false
    (execute engine
      (.insertRelease (escape namespaceId) nextVersion (escape releaseNote) "full" "active" none
        none (escape operatorId) ts))
  let idRows ← mayFail faults.selectLastInsertId [] (query engine .lastInsertId)
  let id ← ofExcept (generatedId idRows release.id)
  return { release with id }

/-- `publishRelease` where the calls of `faults` fail. -/
def publishReleaseUnder (faults : PublishFaults) (namespaceId releaseNote operatorId : String)
    (ts : Timestamp) : MysqlM (Bool × Option Release) := do
  mayFail faults.beginTransaction () startTransaction
  let outRelease ← tryCatch
    (some <$> prepareReleaseUnder engine faults namespaceId releaseNote operatorId ts) (pure none)
  match outRelease with
  | some release =>
    mayFail faults.commit () commit
    return (true, some release)
  | none =>
    rollback
    return (false, none)

/-- Without failing calls this is `publishRelease`. -/
theorem publishReleaseUnder_none (namespaceId releaseNote operatorId : String) (ts : Timestamp) :
    publishReleaseUnder engine {} namespaceId releaseNote operatorId ts =
      publishRelease engine namespaceId releaseNote operatorId ts := by
  have hprepare : prepareReleaseUnder engine {} namespaceId releaseNote operatorId ts =
      prepareRelease engine namespaceId releaseNote operatorId ts := by
    simp only [prepareReleaseUnder, mayFail, Bool.false_eq_true, if_false, prepareRelease]
  rw [publishReleaseUnder, publishRelease, hprepare]
  refine bind_congr fun _ ↦ bind_congr fun outRelease ↦ ?_
  cases outRelease <;> rfl

/-- What other connections see: inside a transaction the tables it started from. -/
def Committed (conn : Connection) : MysqlTables := conn.snapshot.getD conn.tables

/-- A publication that returns `true` has committed the namespace's rows as live and exactly one
new release, which is `outRelease` with its time as the `DATETIME` column keeps it; one that
returns `false` has committed nothing. -/
structure AllOrNothing (namespaceId : String) (t : MysqlTables)
    (result : Except Thrown (Bool × Option Release) × Connection) : Prop where
  all : ∀ out, result.1 = .ok (true, out) →
    (∀ c ∈ (Committed result.2).configs.rows, c.namespaceId = namespaceId → c.status = .live) ∧
    ∃ r, out = some r ∧ (Committed result.2).releases.rows =
      t.releases.rows ++ [{ r with createdAt := datetimeText r.createdAt }]
  nothing : ∀ out, result.1 = .ok (false, out) → Committed result.2 = t

/-- The failures do not reach what the publication is about: the release is inserted, with texts
that have room in their columns and into a namespace that is stored, and its id is read; the
namespace's rows are updated, unless all are live; and the transaction, if there is one, is
committed. -/
def PublishFaults.Harmless (faults : PublishFaults) (namespaceId releaseNote operatorId : String)
    (t : MysqlTables) : Prop :=
  faults.insertRelease = false ∧ PublicationFits namespaceId releaseNote operatorId ∧
    engine.known t namespaceId ∧ faults.selectLastInsertId = false ∧
    (faults.updateConfigs = false ∨
      ∀ c ∈ t.configs.rows, c.namespaceId = namespaceId → c.status = .live) ∧
    (faults.beginTransaction = true ∨ faults.commit = false)

/-! ### What each call leaves -/

section Run

variable {ts : Timestamp} (faults : PublishFaults) (namespaceId releaseNote operatorId : String)

/-- The tables after the update of the rows. -/
def updated (t : MysqlTables) : MysqlTables :=
  if faults.updateConfigs then t
  else
    { t with
      configs := t.configs.mapWhere (fun c ↦ engine.same c.namespaceId namespaceId)
        (ConfigKey.withStatus .live) (primaryKey_withStatus .live) }

private theorem update_run (conn : Connection) :
    ∃ ok, mayFail faults.updateConfigs false
        (execute engine (.setConfigStatus .live (escape namespaceId))) conn =
      (.ok ok, { conn with tables := updated engine faults namespaceId conn.tables }) := by
  unfold updated mayFail
  cases faults.updateConfigs with
  | true => exact ⟨false, rfl⟩
  | false =>
    refine ⟨true, ?_⟩
    have hexec : (Statement.setConfigStatus .live (escape namespaceId)).exec engine conn.tables =
        some { conn.tables with
          configs := conn.tables.configs.mapWhere (fun c ↦ engine.same c.namespaceId namespaceId)
            (ConfigKey.withStatus .live) (primaryKey_withStatus .live) } := by
      simp [Statement.exec]
    rw [if_neg (by decide), if_neg (by decide), execute_of_some hexec]
    rfl

private theorem version_run (conn : Connection) :
    ∃ rows version, mayFail faults.selectMaxVersion []
        (query engine (.maxReleaseVersion (escape namespaceId))) conn = (.ok rows, conn) ∧
      nextVersion rows = .ok version := by
  unfold mayFail
  cases faults.selectMaxVersion with
  | true => exact ⟨[], 1, rfl, rfl⟩
  | false =>
    let found := conn.tables.releases.rows.filter fun r ↦ engine.same r.namespaceId namespaceId
    refine ⟨_, nextNumber found, rfl, ?_⟩
    simp only [Query.rows, literal_escape, Option.bind_eq_bind, Option.bind_some, Option.pure_def,
      Option.getD_some, nextVersion_cell, found]

/-- The release of the publication, its id aside. -/
def outRelease (releaseVersion : Int32) (createdAt : Timestamp) : Release :=
  { namespaceId, releaseVersion, releaseNote, releaseType := "full", status := "active",
    operatorId, createdAt }

/-- The row that the insertion of the release adds, with texts as the columns keep them; none
where the insertion fails. -/
def insertedRelease? (t : MysqlTables) (releaseVersion : Int32) (createdAt : Timestamp) :
    Option Release := do
  guard (!faults.insertRelease)
  let namespaceId ← engine.keep (.varchar 255) namespaceId
  let releaseNote ← engine.keep .text releaseNote
  let operatorId ← engine.keep (.varchar 255) operatorId
  guard (engine.known t namespaceId)
  return outRelease namespaceId releaseNote operatorId releaseVersion createdAt

/-- An insertion whose texts have room, into a stored namespace, adds the release as it is. -/
theorem insertedRelease?_of_fits {t : MysqlTables} (hfails : faults.insertRelease = false)
    (h : PublicationFits namespaceId releaseNote operatorId) (hknown : engine.known t namespaceId)
    (releaseVersion : Int32) (createdAt : Timestamp) :
    insertedRelease? engine faults namespaceId releaseNote operatorId t releaseVersion createdAt =
      some (outRelease namespaceId releaseNote operatorId releaseVersion createdAt) := by
  simp [insertedRelease?, hfails, engine.keep_of_fits h.namespaceId,
    engine.keep_of_fits h.releaseNote, engine.keep_of_fits h.operatorId, hknown]

/-- A row that was added with its texts uncut has room for them. -/
theorem fits_of_insertedRelease? {t : MysqlTables} {releaseVersion : Int32} {createdAt : Timestamp}
    {row : Release}
    (h : insertedRelease? engine faults namespaceId releaseNote operatorId t releaseVersion
      createdAt = some row)
    (hns : row.namespaceId = namespaceId) (hnote : row.releaseNote = releaseNote)
    (hop : row.operatorId = operatorId) :
    faults.insertRelease = false ∧ PublicationFits namespaceId releaseNote operatorId ∧
      engine.known t namespaceId := by
  simp only [insertedRelease?, Option.bind_eq_bind, Option.bind_eq_some_iff,
    Option.guard_eq_some', Bool.not_eq_true', Option.pure_def, Option.some.injEq] at h
  obtain ⟨_, hfails, ns, hns', note, hnote', op, hop', _, hknown, rfl⟩ := h
  obtain rfl : ns = namespaceId := hns
  obtain rfl : note = releaseNote := hnote
  obtain rfl : op = operatorId := hop
  exact ⟨hfails, ⟨engine.fits_of_keep hns', engine.fits_of_keep hnote', engine.fits_of_keep hop'⟩,
    hknown⟩

/-- The connection after the insertion of the release. -/
def afterInsert (releaseVersion : Int32) (createdAt : Timestamp) (conn : Connection) :
    Connection :=
  match insertedRelease? engine faults namespaceId releaseNote operatorId conn.tables
      releaseVersion createdAt with
  | some release =>
    { conn with
      tables := conn.tables.addRelease release, lastInsertId := conn.tables.releases.nextId }
  | none => conn

private theorem exec_insertOutRelease (hts : isClockText ts) (releaseVersion : Int32)
    (t : MysqlTables) (hfails : faults.insertRelease = false) :
    (Statement.insertRelease (escape namespaceId) releaseVersion (escape releaseNote) "full"
        "active" none none (escape operatorId) ts).exec engine t =
      (insertedRelease? engine faults namespaceId releaseNote operatorId t releaseVersion
        (datetimeText ts)).map t.addRelease := by
  have hfull : engine.stored (.varchar 50) "full" = some "full" := by
    have h := stored_escape engine (by decide : TextFits (.varchar 50) "full")
    rwa [show escape "full" = "full" by decide] at h
  have hactive : engine.stored (.varchar 50) "active" = some "active" := by
    have h := stored_escape engine (by decide : TextFits (.varchar 50) "active")
    rwa [show escape "active" = "active" by decide] at h
  simp only [Statement.exec, stored_escape_eq, hfull, hactive, datetime_literal engine hts,
    insertedRelease?, hfails, Option.bind_eq_bind, Option.bind_some, Option.mapM_none,
    Option.pure_def, Option.map_bind, Bool.not_false, guard_true]
  simp only [Function.comp_def, Option.map_bind, Option.map_some]
  rfl

private theorem insert_run (hts : isClockText ts) (releaseVersion : Int32) (conn : Connection) :
    ∃ ok, mayFail faults.insertRelease false
        (execute engine
          (.insertRelease (escape namespaceId) releaseVersion (escape releaseNote) "full" "active"
            none none (escape operatorId) ts)) conn =
      (.ok ok, afterInsert engine faults namespaceId releaseNote operatorId releaseVersion
        (datetimeText ts) conn) := by
  unfold afterInsert mayFail
  cases hfails : faults.insertRelease with
  | true => exact ⟨false, by simp [insertedRelease?, hfails]⟩
  | false =>
    have hexec := exec_insertOutRelease engine faults namespaceId releaseNote operatorId hts
      releaseVersion conn.tables hfails
    rw [if_neg (by decide)]
    unfold execute
    rw [hexec]
    cases insertedRelease? engine faults namespaceId releaseNote operatorId conn.tables
      releaseVersion (datetimeText ts) with
    | none => exact ⟨false, rfl⟩
    | some release => exact ⟨true, rfl⟩

private theorem id_run (id : Int) (conn : Connection) :
    ∃ rows, mayFail faults.selectLastInsertId [] (query engine .lastInsertId) conn =
        (.ok rows, conn) ∧
      generatedId rows id = .ok (if faults.selectLastInsertId then id else conn.lastInsertId) := by
  unfold mayFail
  cases faults.selectLastInsertId with
  | true => exact ⟨[], rfl, rfl⟩
  | false =>
    refine ⟨_, rfl, ?_⟩
    simp [Query.rows, generatedId, stoll_repr]

private theorem updated_eq (t : MysqlTables) :
    (updated engine faults namespaceId t).namespaces = t.namespaces ∧
      (updated engine faults namespaceId t).releases = t.releases := by
  unfold updated
  split <;> exact ⟨rfl, rfl⟩

/-- The tables at the end of the `try` block. -/
def attempted (releaseVersion : Int32) (createdAt : Timestamp) (t : MysqlTables) : MysqlTables :=
  match insertedRelease? engine faults namespaceId releaseNote operatorId t releaseVersion
      createdAt with
  | some release => (updated engine faults namespaceId t).addRelease release
  | none => updated engine faults namespaceId t

private theorem afterInsert_eq (releaseVersion : Int32) (createdAt : Timestamp)
    (conn : Connection) :
    let conn₂ := afterInsert engine faults namespaceId releaseNote operatorId releaseVersion
      createdAt { conn with tables := updated engine faults namespaceId conn.tables }
    conn₂.tables = attempted engine faults namespaceId releaseNote operatorId releaseVersion
        createdAt conn.tables ∧
      conn₂.snapshot = conn.snapshot ∧
      ((insertedRelease? engine faults namespaceId releaseNote operatorId conn.tables
          releaseVersion createdAt).isSome → conn₂.lastInsertId = conn.tables.releases.nextId) := by
  obtain ⟨hnamespaces, hreleases⟩ := updated_eq engine faults namespaceId conn.tables
  have hinserted : insertedRelease? engine faults namespaceId releaseNote operatorId
      (updated engine faults namespaceId conn.tables) releaseVersion createdAt =
      insertedRelease? engine faults namespaceId releaseNote operatorId conn.tables releaseVersion
        createdAt := by
    unfold insertedRelease? Engine.known
    rw [hnamespaces]
  simp only [afterInsert, attempted, hinserted]
  cases insertedRelease? engine faults namespaceId releaseNote operatorId conn.tables
    releaseVersion createdAt with
  | some release => exact ⟨rfl, rfl, fun _ ↦ by rw [hreleases]⟩
  | none => exact ⟨rfl, rfl, fun hi ↦ by cases hi⟩

private theorem prepareReleaseUnder_run (hts : isClockText ts) (conn : Connection) :
    ∃ version id conn',
      prepareReleaseUnder engine faults namespaceId releaseNote operatorId ts conn =
        (.ok { outRelease namespaceId releaseNote operatorId version ts with id }, conn') ∧
      conn'.tables = attempted engine faults namespaceId releaseNote operatorId version
        (datetimeText ts) conn.tables ∧
      conn'.snapshot = conn.snapshot ∧
      (faults.selectLastInsertId = true → id = 0) ∧
      (faults.selectLastInsertId = false →
        (insertedRelease? engine faults namespaceId releaseNote operatorId conn.tables version
          (datetimeText ts)).isSome → id = conn.tables.releases.nextId) := by
  let conn₁ : Connection := { conn with tables := updated engine faults namespaceId conn.tables }
  obtain ⟨_, hupdate⟩ := update_run engine faults namespaceId conn
  obtain ⟨versionRows, version, hselect, hversion⟩ := version_run engine faults namespaceId conn₁
  obtain ⟨_, hinsert⟩ :=
    insert_run engine faults namespaceId releaseNote operatorId hts version conn₁
  let conn₂ := afterInsert engine faults namespaceId releaseNote operatorId version
    (datetimeText ts) conn₁
  obtain ⟨idRows, hid, hgenerated⟩ := id_run engine faults 0 conn₂
  obtain ⟨htables, hsnapshot, hlast⟩ := afterInsert_eq engine faults namespaceId releaseNote
    operatorId version (datetimeText ts) conn
  refine ⟨version, if faults.selectLastInsertId then 0 else conn₂.lastInsertId, conn₂, ?_, htables,
    hsnapshot, ?_, ?_⟩
  · unfold prepareReleaseUnder
    rw [bind_of_ok hupdate, bind_of_ok hselect, hversion, bind_of_ok (ofExcept_apply _ _)]
    simp only
    rw [bind_of_ok hinsert, bind_of_ok hid, hgenerated, bind_of_ok (ofExcept_apply _ _)]
    rfl
  · intro hfails
    rw [if_pos hfails]
  · intro hfails hinserts
    rw [if_neg (by simp [hfails])]
    exact hlast hinserts

/-- The transaction of the publication is left open. -/
def PublishFaults.LeavesOpen : Prop := faults.beginTransaction = false ∧ faults.commit = true

instance : Decidable faults.LeavesOpen :=
  inferInstanceAs (Decidable (faults.beginTransaction = false ∧ faults.commit = true))

/-- `publishRelease` returns `true` whatever calls fail; without its commit the transaction stays
open, and without its start every statement commits on its own. -/
theorem publishReleaseUnder_run (hts : isClockText ts) (t : MysqlTables) (lastInsertId : Int) :
    ∃ version id conn',
      publishReleaseUnder engine faults namespaceId releaseNote operatorId ts
          { tables := t, lastInsertId } =
        (.ok (true, some { outRelease namespaceId releaseNote operatorId version ts with id }),
          conn') ∧
      Committed conn' = (if faults.LeavesOpen then t
        else attempted engine faults namespaceId releaseNote operatorId version
          (datetimeText ts) t) ∧
      (faults.selectLastInsertId = true → id = 0) ∧
      (faults.selectLastInsertId = false →
        (insertedRelease? engine faults namespaceId releaseNote operatorId t version
          (datetimeText ts)).isSome → id = t.releases.nextId) := by
  let started : Connection :=
    { tables := t, lastInsertId, snapshot := if faults.beginTransaction then none else some t }
  have hstart : mayFail faults.beginTransaction () startTransaction { tables := t, lastInsertId } =
      (.ok (), started) := by
    cases hb : faults.beginTransaction <;> simp [mayFail, started, hb]
  obtain ⟨version, id, conn', hprepare, htables, hsnapshot, hzero, hid⟩ :=
    prepareReleaseUnder_run engine faults namespaceId releaseNote operatorId hts started
  let final : Connection := if faults.commit then conn' else { conn' with snapshot := none }
  have hcommit : mayFail faults.commit () commit conn' = (.ok (), final) := by
    cases hc : faults.commit <;> simp [mayFail, final, hc]
  refine ⟨version, id, final, ?_, ?_, hzero, hid⟩
  · unfold publishReleaseUnder
    rw [bind_of_ok hstart, bind_apply, tryCatch_apply, map_apply, hprepare]
    simp only
    rw [bind_of_ok hcommit]
    rfl
  · cases hb : faults.beginTransaction <;> cases hc : faults.commit <;>
      simp [Committed, final, started, PublishFaults.LeavesOpen, hb, hc, htables, hsnapshot]

end Run

/-! ### When a publication is all or nothing -/

private theorem releases_ne {ρ : Type} (rows : List ρ) (x : ρ) : rows ≠ rows ++ [x] := by
  intro h
  have hlength := congrArg List.length h
  simp at hlength

section Committed

variable {engine : Engine} {faults : PublishFaults} {namespaceId : String} {t : MysqlTables}

private theorem rows_addRelease (r : Release) :
    ((updated engine faults namespaceId t).addRelease r).releases.rows =
      t.releases.rows ++ [{ r with id := t.releases.nextId }] := by
  have hreleases := (updated_eq engine faults namespaceId t).2
  simp only [MysqlTables.addRelease, SerialTable.rows_append, hreleases]

private theorem mem_updated (h : faults.updateConfigs = false) {c : ConfigKey}
    (hc : c ∈ (updated engine faults namespaceId t).configs.rows)
    (hns : c.namespaceId = namespaceId) : c.status = .live := by
  rw [updated, h, if_neg (by decide)] at hc
  obtain ⟨c₀, _, rfl⟩ := List.mem_map.mp hc
  split
  · rfl
  · next hne =>
    -- under every collation a text equals itself, so the row was updated
    rw [if_neg hne] at hns
    exact absurd (hns ▸ engine.same_self namespaceId) hne

-- The rows of the namespace are live after the update, or they were before it.
private theorem live_updated_iff :
    (∀ c ∈ (updated engine faults namespaceId t).configs.rows,
        c.namespaceId = namespaceId → c.status = .live) ↔
      faults.updateConfigs = false ∨
        ∀ c ∈ t.configs.rows, c.namespaceId = namespaceId → c.status = .live := by
  cases h : faults.updateConfigs with
  | true => simp [updated, h]
  | false =>
    simp only [true_or, iff_true]
    exact fun c hc hns ↦ mem_updated h hc hns

end Committed

/-- `publishRelease` on a connection outside any transaction is all or nothing exactly when the
failing calls are harmless. -/
theorem allOrNothing_iff_harmless (engine : Engine) (faults : PublishFaults)
    (namespaceId releaseNote operatorId : String) (ts : Timestamp) (t : MysqlTables)
    (lastInsertId : Int) (hts : isClockText ts) :
    AllOrNothing namespaceId t
        (publishReleaseUnder engine faults namespaceId releaseNote operatorId ts
          { tables := t, lastInsertId }) ↔
      faults.Harmless engine namespaceId releaseNote operatorId t := by
  obtain ⟨version, id, conn', hrun, hcommitted, hzero, hid⟩ :=
    publishReleaseUnder_run engine faults namespaceId releaseNote operatorId hts t lastInsertId
  rw [hrun]
  constructor
  · rintro ⟨hall, _⟩
    obtain ⟨hlive, r, hr, hrows⟩ := hall _ rfl
    cases hr
    simp only [hcommitted] at hlive hrows
    have hclosed : ¬ faults.LeavesOpen := by
      intro hopen
      rw [if_pos hopen] at hrows
      exact releases_ne _ _ hrows
    rw [if_neg hclosed, attempted] at hlive hrows
    cases hrow : insertedRelease? engine faults namespaceId releaseNote operatorId t version
      (datetimeText ts) with
    | none =>
      simp only [hrow, (updated_eq engine faults namespaceId t).2] at hrows
      exact absurd hrows (releases_ne _ _)
    | some row =>
      simp only [hrow] at hlive hrows
      rw [rows_addRelease] at hrows
      have hstored := List.singleton_inj.mp (List.append_cancel_left hrows)
      have hnext : t.releases.nextId = id := congrArg Release.id hstored
      -- the row that was added is the release, so no text of it was cut
      obtain ⟨hinserts, hfit, hknown⟩ := fits_of_insertedRelease? engine faults namespaceId
        releaseNote operatorId hrow (congrArg Release.namespaceId hstored)
        (congrArg Release.releaseNote hstored) (congrArg Release.operatorId hstored)
      refine ⟨hinserts, hfit, hknown, ?_, live_updated_iff.mp hlive, ?_⟩
      · -- an id that was not read is 0, and the table hands out none below 1
        by_contra hfails
        rw [hzero (by simpa using hfails), SerialTable.nextId] at hnext
        omega
      · cases hb : faults.beginTransaction with
        | true => exact .inl rfl
        | false => exact .inr (by simpa [PublishFaults.LeavesOpen, hb] using hclosed)
  · rintro ⟨hinserts, hfit, hknown, hselect, hlive, hclosed⟩
    have hopen : ¬ faults.LeavesOpen := by
      rintro ⟨hb, hc⟩
      rw [hb, hc] at hclosed
      simp at hclosed
    have hrow := insertedRelease?_of_fits engine faults namespaceId releaseNote operatorId hinserts
      hfit hknown version (datetimeText ts)
    rw [if_neg hopen, attempted, hrow] at hcommitted
    refine ⟨?_, fun out hout ↦ by cases hout⟩
    rintro out hout
    cases hout
    simp only [hcommitted]
    refine ⟨live_updated_iff.mpr hlive, _, rfl, ?_⟩
    rw [rows_addRelease, ← hid hselect (by rw [hrow, Option.isSome_some])]
    rfl

/-- The first release of a namespace where only the query for the largest number fails. -/
theorem allOrNothing_iff_harmless_first_release :
    let faults : PublishFaults := { selectMaxVersion := true }
    isClockText "2024-01-02T08:00:00Z" ∧
      (AllOrNothing "shop/prod" (.withNamespaces ["shop/prod"])
          (publishReleaseUnder .strict faults "shop/prod" "first" "alice" "2024-01-02T08:00:00Z"
            { tables := .withNamespaces ["shop/prod"], lastInsertId := 0 }) ↔
        faults.Harmless .strict "shop/prod" "first" "alice" (.withNamespaces ["shop/prod"])) :=
  ⟨by decide, allOrNothing_iff_harmless .strict _ _ _ _ _ _ _ (by decide)⟩

/-- A publication whose commit fails returns `true`, and nothing of it is committed. -/
theorem not_allOrNothing_commit_fails :
    ¬ ∀ (engine : Engine) (faults : PublishFaults) (namespaceId releaseNote operatorId : String)
      (ts : Timestamp) (t : MysqlTables) (lastInsertId : Int), isClockText ts →
      AllOrNothing namespaceId t
        (publishReleaseUnder engine faults namespaceId releaseNote operatorId ts
          { tables := t, lastInsertId }) := by
  intro h
  have hall := h .strict { commit := true } "shop/prod" "first" "alice" "2024-01-02T08:00:00Z"
    (.withNamespaces ["shop/prod"]) 0 (by decide)
  obtain ⟨_, _, _, hrun, hcommitted, _⟩ := publishReleaseUnder_run .strict { commit := true }
    "shop/prod" "first" "alice" (show isClockText "2024-01-02T08:00:00Z" by decide)
    (.withNamespaces ["shop/prod"]) 0
  rw [hrun] at hall
  obtain ⟨_, r, _, hrows⟩ := hall.all _ rfl
  rw [hcommitted, if_pos ⟨rfl, rfl⟩] at hrows
  exact releases_ne _ _ hrows

end ConfigCenter.Storage.MysqlConfigStore
