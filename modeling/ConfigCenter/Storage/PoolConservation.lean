import ConfigCenter.Base.Run
import ConfigCenter.Storage.MysqlConnectionPool

/-!
# Connections over whole runs

Library `Storage`. One client makes calls of every kind on a store whose pool was
opened by `initialize`. A call that finds no connection never ends. The pool is
whole after every call exactly when no call begins, commits or rolls back a
transaction of its own and no number column that is converted before its
connection goes back is unreadable.
-/

namespace ConfigCenter.Storage
open ConfigCenter.Base

/-- Calls of `MysqlConfigStore`, and the one of `PublishEngine` that combines several of them
in a transaction. -/
inductive PoolCall where
  | initializeStore (connectionString : String)
  | healthCheck
  | createApplication (app : Application)
  | getApplication (appId : String)
  | listApplications
  | deleteApplication (appId : String)
  | createNamespace (ns : Namespace)
  | getNamespace (nsId : String)
  | listNamespaces (appId env cluster : String)
  | deleteNamespace (nsId : String)
  | createConfig (namespaceId key value operatorId : String) (ts : ClockReading)
  | updateConfig (namespaceId key value operatorId : String) (draft : Bool) (ts : ClockReading)
  | deleteConfig (namespaceId key operatorId : String) (draft : Bool) (ts : ClockReading)
  | getConfig (namespaceId key : String) (includeDraft : Bool)
  | listConfigs (namespaceId : String) (includeDraft : Bool)
  | getConfigVersions (namespaceId key : String)
  | getConfigVersion (namespaceId key : String) (version : Int32)
  | rollbackConfig (namespaceId key : String) (targetVersion : Int32) (operatorId : String)
    (ts : ClockReading)
  | getChangeHistory (q : ChangeLogQuery)
  | createRelease (release : Release) (ts : ClockReading)
  | getReleases (q : ReleaseQuery)
  | getRelease (releaseId : Int)
  | retireRelease (releaseId : Int)
  | publishRelease (namespaceId releaseNote operatorId : String) (ts : ClockReading)
  | createApproval (approval : Approval) (ts : ClockReading)
  | updateApprovalStatus (approvalId : Int) (status comment : String) (ts : ClockReading)
  | getPendingApprovals (namespaceId : String)
  | createUser (user : User)
  | getUserByUsername (username : String)
  | listUsers
  | beginTransaction
  | commitTransaction
  | rollbackTransaction
  | publishGrayscale (dump : List String → Option String)
    (namespaceId releaseNote operatorId : String) (whitelist : List String) (ts : ClockReading)

namespace PoolCall
open MysqlConnectionPool PoolM MysqlConfigStore

variable {δ : Type} (driver : Driver δ)

/-- The call, without its result. -/
def exec : PoolCall → StoreM δ Unit
  | .initializeStore connectionString =>
    ignore (MysqlConnectionPool.initializeStore driver connectionString)
  | .healthCheck => ignore (MysqlConnectionPool.healthCheck driver)
  | .createApplication app => ignore (MysqlConnectionPool.createApplication driver app)
  | .getApplication appId => ignore (MysqlConnectionPool.getApplication driver appId)
  | .listApplications => ignore (MysqlConnectionPool.listApplications driver)
  | .deleteApplication appId => ignore (MysqlConnectionPool.deleteApplication driver appId)
  | .createNamespace ns => ignore (MysqlConnectionPool.createNamespace driver ns)
  | .getNamespace nsId => ignore (MysqlConnectionPool.getNamespace driver nsId)
  | .listNamespaces appId env cluster =>
    ignore (MysqlConnectionPool.listNamespaces driver appId env cluster)
  | .deleteNamespace nsId => ignore (MysqlConnectionPool.deleteNamespace driver nsId)
  | .createConfig namespaceId key value operatorId ts =>
    ignore (MysqlConnectionPool.createConfig driver namespaceId key value operatorId ts)
  | .updateConfig namespaceId key value operatorId draft ts =>
    ignore (MysqlConnectionPool.updateConfig driver namespaceId key value operatorId draft ts)
  | .deleteConfig namespaceId key operatorId draft ts =>
    ignore (MysqlConnectionPool.deleteConfig driver namespaceId key operatorId draft ts)
  | .getConfig namespaceId key includeDraft =>
    ignore (MysqlConnectionPool.getConfig driver namespaceId key includeDraft)
  | .listConfigs namespaceId includeDraft =>
    ignore (MysqlConnectionPool.listConfigs driver namespaceId includeDraft)
  | .getConfigVersions namespaceId key =>
    ignore (MysqlConnectionPool.getConfigVersions driver namespaceId key)
  | .getConfigVersion namespaceId key version =>
    ignore (MysqlConnectionPool.getConfigVersion driver namespaceId key version)
  | .rollbackConfig namespaceId key targetVersion operatorId ts =>
    ignore (MysqlConnectionPool.rollbackConfig driver namespaceId key targetVersion operatorId ts)
  | .getChangeHistory q => ignore (MysqlConnectionPool.getChangeHistory driver q)
  | .createRelease release ts => ignore (MysqlConnectionPool.createRelease driver release ts)
  | .getReleases q => ignore (MysqlConnectionPool.getReleases driver q)
  | .getRelease releaseId => ignore (MysqlConnectionPool.getRelease driver releaseId)
  | .retireRelease releaseId => ignore (MysqlConnectionPool.retireRelease driver releaseId)
  | .publishRelease namespaceId releaseNote operatorId ts =>
    ignore (MysqlConnectionPool.publishRelease driver namespaceId releaseNote operatorId ts)
  | .createApproval approval ts => ignore (MysqlConnectionPool.createApproval driver approval ts)
  | .updateApprovalStatus approvalId status comment ts =>
    ignore (MysqlConnectionPool.updateApprovalStatus driver approvalId status comment ts)
  | .getPendingApprovals namespaceId =>
    ignore (MysqlConnectionPool.getPendingApprovals driver namespaceId)
  | .createUser user => ignore (MysqlConnectionPool.createUser driver user)
  | .getUserByUsername username =>
    ignore (MysqlConnectionPool.getUserByUsername driver username)
  | .listUsers => ignore (MysqlConnectionPool.listUsers driver)
  | .beginTransaction => ignore (MysqlConnectionPool.beginTransaction driver)
  | .commitTransaction => ignore (MysqlConnectionPool.commitTransaction driver)
  | .rollbackTransaction => ignore (MysqlConnectionPool.rollbackTransaction driver)
  | .publishGrayscale dump namespaceId releaseNote operatorId whitelist ts =>
    ignore (MysqlConnectionPool.publishGrayscale driver dump namespaceId releaseNote operatorId
      whitelist ts)

/-- The version column that `updateConfig` is about to convert, if there is one, is a number. -/
def ReadsVersion (s : MysqlStore δ) (namespaceId key : String) : Prop :=
  ∀ conn ∈ s.pool.head?, ∀ row ∈ (driver.query conn
    (.built (.selectVersionAndValue namespaceId key)) s.rest.server).1.head?,
    (stoi (cell row 0)).isOk

/-- The generated id that is asked for after an insertion is a number. -/
def ReadsId (s : MysqlStore δ) (st : SqlStatement) : Prop :=
  ∀ conn ∈ s.pool.head?, (insertedId (driver.query conn .lastInsertId
    (driver.execute conn (.built st) s.rest.server).2).1 0).isOk

/-- The call will give back what it takes: it is not one of those that keep a connection, and
what it converts before it gives its connection back is a number. -/
def Keeps (s : MysqlStore δ) : PoolCall → Prop
  | .beginTransaction | .commitTransaction | .rollbackTransaction
  | .publishGrayscale _ _ _ _ _ _ => False
  | .updateConfig namespaceId key _ _ _ _ => ReadsVersion driver s namespaceId key
  | .rollbackConfig namespaceId key targetVersion _ _ =>
    match MysqlConnectionPool.getConfigVersion driver namespaceId key targetVersion s with
    | (.returned (some _), s') => ReadsVersion driver s' namespaceId key
    | _ => True
  | .createRelease release ts =>
    ReadsId driver s (.insertRelease release.namespaceId release.releaseNote release.releaseType
      release.status release.whitelist release.operatorId release.releaseVersion
      release.grayscalePercentage ts)
  | .createApproval approval ts =>
    ReadsId driver s (.insertApproval approval.namespaceId approval.submitterId
      approval.approverId approval.status approval.comment ts)
  | _ => True

/-! ### Operations that give back what they take -/

section
variable {driver} {s : MysqlStore δ} {conn : Nat} {pool : List Nat}

private theorem quiet_perform {α : Type} (f : δ → α × δ) : Quiet (perform f) :=
  quiet_outside _

private theorem quiet_executeOn (conn : Nat) (st : SqlStatement) :
    Quiet (executeOn driver conn st) := quiet_perform _

private theorem quiet_queryOn (conn : Nat) (sql : Sql) : Quiet (queryOn driver conn sql) :=
  quiet_perform _

private theorem restores_executeOnce (st : SqlStatement) (h : s.pool = conn :: pool) :
    Restores (executeOnce driver st) s :=
  restores_acquire h (givesBack_of_quiet (quiet_executeOn conn st)
    (fun ok ↦ givesBack_release (still_pure ok)) _)

private theorem restores_executeAnyway (st : SqlStatement) (h : s.pool = conn :: pool) :
    Restores (executeAnyway driver st) s :=
  restores_acquire h (givesBack_of_quiet (quiet_executeOn conn st)
    (fun _ ↦ givesBack_release (still_pure true)) _)

private theorem restores_fetch (sql : Sql) (h : s.pool = conn :: pool) :
    Restores (fetch driver sql) s :=
  restores_acquire h (givesBack_of_quiet (quiet_queryOn conn sql)
    (fun rows ↦ givesBack_release (still_pure rows)) _)

private theorem restores_fetchOne {α : Type} (sql : Sql) (read : List String → Except Thrown α)
    (h : s.pool = conn :: pool) : Restores (fetchOne driver sql read) s :=
  restores_bind (restores_fetch sql h) fun _ _ _ ↦ restores_of_still (still_ofExcept _) _

private theorem restores_fetchAll {α : Type} (sql : Sql) (read : List String → Except Thrown α)
    (h : s.pool = conn :: pool) : Restores (fetchAll driver sql read) s :=
  restores_bind (restores_fetch sql h) fun _ _ _ ↦ restores_of_still (still_ofExcept _) _

private theorem restores_createConfig (namespaceId key value operatorId : String)
    (ts : ClockReading) (h : s.pool = conn :: pool) :
    Restores (MysqlConnectionPool.createConfig driver namespaceId key value operatorId ts) s :=
  restores_acquire h (givesBack_of_quiet (quiet_executeOn conn _)
    (fun _ ↦ givesBack_of_quiet (quiet_executeOn conn _)
      fun _ ↦ givesBack_of_quiet (quiet_executeOn conn _)
        fun _ ↦ givesBack_release (still_pure true)) _)

private theorem restores_deleteConfig (namespaceId key operatorId : String) (draft : Bool)
    (ts : ClockReading) (h : s.pool = conn :: pool) :
    Restores (MysqlConnectionPool.deleteConfig driver namespaceId key operatorId draft ts) s :=
  restores_acquire h (givesBack_of_quiet (quiet_executeOn conn _)
    (fun _ ↦ givesBack_of_quiet (quiet_executeOn conn _)
      fun _ ↦ givesBack_release (still_pure true)) _)

private theorem givesBack_writeUpdate (namespaceId key value operatorId oldValue : String)
    (newVersion : Int32) (draft : Bool) (ts : ClockReading) (s : MysqlStore δ) :
    GivesBack conn (do
      let _ ← executeOn driver conn (.updateConfig value namespaceId key newVersion draft ts)
      let _ ← executeOn driver conn
        (.insertNextVersion (makeConfigId namespaceId key) value operatorId newVersion ts)
      let _ ← executeOn driver conn (.insertUpdateLog (makeConfigId namespaceId key) namespaceId key
        oldValue value operatorId newVersion ts)
      release conn
      return true) s :=
  givesBack_of_quiet (quiet_executeOn conn _)
    (fun _ ↦ givesBack_of_quiet (quiet_executeOn conn _)
      fun _ ↦ givesBack_of_quiet (quiet_executeOn conn _)
        fun _ ↦ givesBack_release (still_pure true)) s

private theorem restores_updateConfig {namespaceId key : String} (value operatorId : String)
    (draft : Bool) (ts : ClockReading) (h : s.pool = conn :: pool)
    (hreads : ReadsVersion driver s namespaceId key) :
    Restores (MysqlConnectionPool.updateConfig driver namespaceId key value operatorId draft ts)
      s := by
  apply restores_acquire h
  refine givesBack_bind (a := (driver.query conn
    (.built (.selectVersionAndValue namespaceId key)) s.rest.server).1) rfl rfl ?_
  have hrow := hreads conn (by simp [h])
  cases hrows : (driver.query conn
    (.built (.selectVersionAndValue namespaceId key)) s.rest.server).1 with
  | nil => exact givesBack_release (still_pure false) _
  | cons row rows =>
    have hok := hrow row (by simp [hrows])
    cases hv : stoi (cell row 0) with
    | error e => simp [hv, Except.isOk, Except.toBool] at hok
    | ok oldVersion =>
      refine givesBack_bind (a := oldVersion) (by simp only [hv]; rfl) rfl ?_
      exact givesBack_writeUpdate namespaceId key value operatorId _ _ draft ts _

private theorem cons_of_restores {α : Type} {x : StoreM δ α} {s' : MysqlStore δ} {a : α}
    (hx : Restores x s) (hrun : x s = (.returned a, s')) (h : s.pool = conn :: pool) :
    ∃ conn' pool', s'.pool = conn' :: pool' := by
  have hperm := hx.perm
  rw [hrun, h] at hperm
  cases hs' : s'.pool with
  | nil => exact absurd (hs' ▸ hperm).length_eq (by simp)
  | cons conn' pool' => exact ⟨conn', pool', rfl⟩

private theorem restores_rollbackConfig {namespaceId key : String} {targetVersion : Int32}
    (operatorId : String) (ts : ClockReading) (h : s.pool = conn :: pool)
    (hkeeps : Keeps driver s (.rollbackConfig namespaceId key targetVersion operatorId ts)) :
    Restores (MysqlConnectionPool.rollbackConfig driver namespaceId key targetVersion operatorId ts)
      s := by
  have hget : Restores
      (MysqlConnectionPool.getConfigVersion driver namespaceId key targetVersion) s :=
    restores_fetchOne _ _ h
  refine restores_bind hget fun target s' hrun ↦ ?_
  cases target with
  | none => exact restores_of_still (still_pure false) s'
  | some v =>
    simp only [Keeps, hrun] at hkeeps
    obtain ⟨conn', pool', hpool'⟩ := cons_of_restores hget hrun h
    exact restores_updateConfig v.value operatorId true ts hpool' hkeeps

private theorem isOk_insertedId {rows : List (List String)} (id : Int)
    (h : (insertedId rows 0).isOk) : ∃ n, insertedId rows id = .ok n := by
  unfold insertedId at h ⊢
  split at h
  · next text _ _ =>
    cases hn : stoll64 text with
    | ok n => exact ⟨n, rfl⟩
    | error e => simp [hn, Except.isOk, Except.toBool] at h
  · exact ⟨id, rfl⟩

private theorem error_insertedId {rows : List (List String)} (id : Int)
    (h : ¬ (insertedId rows 0).isOk) : ∃ e, insertedId rows id = .error e := by
  unfold insertedId at h ⊢
  split at h
  · next text _ _ =>
    cases hn : stoll64 text with
    | ok n => exact absurd (by rw [hn]; rfl) h
    | error e => exact ⟨e, rfl⟩
  · exact absurd rfl h

-- The common end of `createRelease` and `createApproval`.
private theorem restores_insertion {α : Type} {st : SqlStatement} (id : Int) (result : Int → α)
    (h : s.pool = conn :: pool) (hreads : ReadsId driver s st) :
    Restores (do
      let conn ← acquire
      let _ ← executeOn driver conn st
      let idRows ← queryOn driver conn .lastInsertId
      let id ← ofExcept (insertedId idRows id)
      release conn
      return result id) s := by
  apply restores_acquire h
  refine givesBack_bind (a := (driver.execute conn (.built st) s.rest.server).1) rfl rfl ?_
  refine givesBack_bind (a := (driver.query conn .lastInsertId
    (driver.execute conn (.built st) s.rest.server).2).1) rfl rfl ?_
  obtain ⟨n, hn⟩ := isOk_insertedId id (hreads conn (by simp [h]))
  refine givesBack_bind (a := n) (by rw [hn]; rfl) rfl ?_
  exact givesBack_release (still_pure _) _

private theorem givesBackOrThrows_publishBlock (namespaceId releaseNote operatorId : String)
    (ts : ClockReading) (s : MysqlStore δ) :
    GivesBackOrThrows conn (publishBlock driver conn namespaceId releaseNote operatorId ts) s :=
  givesBackOrThrows_of_quiet (quiet_executeOn conn _)
    (fun _ ↦ givesBackOrThrows_of_quiet (quiet_queryOn conn _)
      fun versionRows ↦ givesBackOrThrows_ofExcept (nextVersion versionRows)
        fun _ ↦ givesBackOrThrows_of_quiet (quiet_executeOn conn _)
          fun _ ↦ givesBackOrThrows_of_quiet (quiet_queryOn conn _)
            fun idRows ↦ givesBackOrThrows_ofExcept (insertedId idRows 0)
              fun _ ↦ givesBackOrThrows_of_quiet (quiet_perform _)
                fun _ ↦ givesBackOrThrows_release conn _) s

private theorem restores_publishRelease (namespaceId releaseNote operatorId : String)
    (ts : ClockReading) (h : s.pool = conn :: pool) :
    Restores (MysqlConnectionPool.publishRelease driver namespaceId releaseNote operatorId ts)
      s := by
  apply restores_acquire h
  refine givesBack_of_quiet (quiet_perform _) (fun _ s ↦ ?_) _
  refine givesBack_tryCatch
    (givesBackOrThrows_publishBlock namespaceId releaseNote operatorId ts s) ?_
  exact givesBack_of_quiet (quiet_perform _) fun _ ↦ givesBack_release (still_pure _)

/-! ### Operations that lose a connection -/

private theorem loses_updateConfig {namespaceId key : String} (value operatorId : String)
    (draft : Bool) (ts : ClockReading) (h : s.pool = conn :: pool)
    (hreads : ¬ ReadsVersion driver s namespaceId key) :
    Loses (MysqlConnectionPool.updateConfig driver namespaceId key value operatorId draft ts)
      s := by
  simp only [ReadsVersion, h, List.head?_cons, Option.mem_def, Option.some.injEq, forall_eq',
    not_forall] at hreads
  obtain ⟨row, hrow, hbad⟩ := hreads
  obtain ⟨rows, hrows⟩ := List.head?_eq_some_iff.mp hrow
  cases hv : stoi (cell row 0) with
  | ok n => exact absurd (by rw [hv]; rfl) hbad
  | error e =>
    refine loses_acquire_thrown h ⟨e, { s.rest with server := (driver.query conn
      (.built (.selectVersionAndValue namespaceId key)) s.rest.server).2 }, ?_⟩
    rw [bind_run_returned (a := row :: rows) (by rw [← hrows]; rfl)]
    exact bind_run_thrown (by rw [hv]; rfl) _

private theorem loses_rollbackConfig {namespaceId key : String} {targetVersion : Int32}
    (operatorId : String) (ts : ClockReading) (h : s.pool = conn :: pool)
    (hkeeps : ¬ Keeps driver s (.rollbackConfig namespaceId key targetVersion operatorId ts)) :
    Loses (MysqlConnectionPool.rollbackConfig driver namespaceId key targetVersion operatorId ts)
      s := by
  have hget : Restores
      (MysqlConnectionPool.getConfigVersion driver namespaceId key targetVersion) s :=
    restores_fetchOne _ _ h
  simp only [Keeps] at hkeeps
  split at hkeeps
  · next v s' hrun =>
    refine loses_bind hget hrun ?_
    obtain ⟨conn', pool', hpool'⟩ := cons_of_restores hget hrun h
    exact loses_updateConfig v.value operatorId true ts hpool' hkeeps
  · exact absurd True.intro hkeeps

private theorem loses_insertion {α : Type} {st : SqlStatement} (id : Int) (result : Int → α)
    (h : s.pool = conn :: pool) (hreads : ¬ ReadsId driver s st) :
    Loses (do
      let conn ← acquire
      let _ ← executeOn driver conn st
      let idRows ← queryOn driver conn .lastInsertId
      let id ← ofExcept (insertedId idRows id)
      release conn
      return result id) s := by
  simp only [ReadsId, h, List.head?_cons, Option.mem_def, Option.some.injEq, forall_eq'] at hreads
  obtain ⟨e, he⟩ := error_insertedId id hreads
  refine loses_acquire_thrown h ⟨e, { s.rest with server := (driver.query conn .lastInsertId
    (driver.execute conn (.built st) s.rest.server).2).2 }, ?_⟩
  rw [bind_run_returned (x := executeOn driver conn st) rfl,
    bind_run_returned (x := queryOn driver conn .lastInsertId) rfl]
  exact bind_run_thrown (by rw [he]; rfl) _

private theorem shrinks_perform {α : Type} (f : δ → α × δ) : Shrinks (perform f) :=
  shrinks_of_still fun _ ↦ ⟨nofun, rfl⟩

private theorem loses_publishGrayscale (dump : List String → Option String)
    (namespaceId releaseNote operatorId : String) (whitelist : List String) (ts : ClockReading)
    (h : s.pool = conn :: pool) :
    Loses (MysqlConnectionPool.publishGrayscale driver dump namespaceId releaseNote operatorId
      whitelist ts) s := by
  refine loses_bind_shrinks (loses_acquire h (shrinks_perform _)) fun _ ↦ ?_
  have hpublish : Shrinks
      (MysqlConnectionPool.publishRelease driver namespaceId releaseNote operatorId ts) :=
    shrinks_of_restores fun _ _ _ h ↦
      restores_publishRelease namespaceId releaseNote operatorId ts h
  have hcommit : Shrinks (do
      let _ ← MysqlConnectionPool.commitTransaction driver
      return true : StoreM δ Bool) :=
    shrinks_bind (shrinks_bind shrinks_acquire fun _ ↦ shrinks_perform _)
      fun _ ↦ shrinks_of_still (still_pure true)
  have hrollback : Shrinks (do
      let _ ← MysqlConnectionPool.rollbackTransaction driver
      return false : StoreM δ Bool) :=
    shrinks_bind (shrinks_bind shrinks_acquire fun _ ↦ shrinks_perform _)
      fun _ ↦ shrinks_of_still (still_pure false)
  refine shrinks_tryCatch (shrinks_bind hpublish fun _ ↦ ?_) hrollback
  split
  · exact shrinks_bind (shrinks_of_still (still_ofExcept _)) fun _ ↦ hcommit
  · exact hcommit

/-! ### Calls -/

/-- A call on an open pool that keeps connections gives back what it takes. -/
theorem restores_exec {call : PoolCall}
    (hopen : ∀ connectionString, call ≠ .initializeStore connectionString)
    (h : s.pool = conn :: pool) (hkeeps : call.Keeps driver s) :
    Restores (call.exec driver) s := by
  cases call with
  | initializeStore connectionString => exact absurd rfl (hopen connectionString)
  | beginTransaction | commitTransaction | rollbackTransaction | publishGrayscale =>
    exact absurd hkeeps id
  | healthCheck =>
    exact restores_ignore (restores_acquire h (givesBack_of_quiet (quiet_perform _)
      (fun ok ↦ givesBack_release (still_pure ok)) _))
  | createApplication | deleteApplication | createNamespace | deleteNamespace | createUser =>
    exact restores_ignore (restores_executeOnce _ h)
  | retireRelease | updateApprovalStatus => exact restores_ignore (restores_executeAnyway _ h)
  | getApplication | getNamespace | getUserByUsername | getConfigVersion | getRelease =>
    exact restores_ignore (restores_fetchOne _ _ h)
  | listApplications | listNamespaces | listUsers | listConfigs | getConfigVersions
  | getChangeHistory | getReleases | getPendingApprovals =>
    exact restores_ignore (restores_fetchAll _ _ h)
  | getConfig =>
    exact restores_ignore (restores_bind (restores_fetch _ h)
      fun _ _ _ ↦ restores_of_still (still_ofExcept _) _)
  | createConfig => exact restores_ignore (restores_createConfig _ _ _ _ _ h)
  | deleteConfig => exact restores_ignore (restores_deleteConfig _ _ _ _ _ h)
  | updateConfig => exact restores_ignore (restores_updateConfig _ _ _ _ h hkeeps)
  | rollbackConfig => exact restores_ignore (restores_rollbackConfig _ _ h hkeeps)
  | createRelease => exact restores_ignore (restores_insertion _ _ h hkeeps)
  | createApproval => exact restores_ignore (restores_insertion _ _ h hkeeps)
  | publishRelease => exact restores_ignore (restores_publishRelease _ _ _ _ h)

/-- Every other call loses a connection or never ends. -/
theorem loses_exec {call : PoolCall} (h : s.pool = conn :: pool)
    (hkeeps : ¬ call.Keeps driver s) : Loses (call.exec driver) s := by
  cases call with
  | beginTransaction | commitTransaction | rollbackTransaction =>
    exact loses_ignore (loses_acquire h (shrinks_perform _))
  | publishGrayscale => exact loses_ignore (loses_publishGrayscale _ _ _ _ _ _ h)
  | updateConfig => exact loses_ignore (loses_updateConfig _ _ _ _ h hkeeps)
  | rollbackConfig => exact loses_ignore (loses_rollbackConfig _ _ h hkeeps)
  | createRelease => exact loses_ignore (loses_insertion _ _ h hkeeps)
  | createApproval => exact loses_ignore (loses_insertion _ _ h hkeeps)
  | _ => exact absurd True.intro hkeeps

end

end PoolCall

/-! ### Runs of one client -/

/-- A client between two calls, or waiting for a connection that nobody will give back. -/
inductive Session (δ : Type) where
  | ready (s : MysqlStore δ)
  | waiting

namespace Session
open MysqlConnectionPool PoolM

variable {δ : Type} (driver : Driver δ)

/-- One call. -/
def step : Session δ → PoolCall → Session δ
  | .waiting, _ => .waiting
  | .ready s, call =>
    match call.exec driver s with
    | (.blocked, _) => .waiting
    | (_, s') => .ready s'

/-- The pool holds `poolSize` connections, each once. -/
def Conserved : Session δ → Prop
  | .ready s => s.pool.length = poolSize ∧ s.pool.Nodup
  | .waiting => False

/-- The next call will give back what it takes. -/
def Keeps : Session δ → PoolCall → Prop
  | .ready s, call => call.Keeps driver s
  | .waiting, _ => False

/-- A call that ends leaves the store ready for the next one. -/
theorem step_of_ends {s : MysqlStore δ} {call : PoolCall}
    (h : (call.exec driver s).1 ≠ .blocked) :
    step driver (.ready s) call = .ready (call.exec driver s).2 := by
  rcases hrun : call.exec driver s with ⟨a | e | _, s'⟩
  · simp only [step, hrun]
  · simp only [step, hrun]
  · exact absurd (by rw [hrun]) h

/-- A call that finds no connection leaves its client waiting. -/
theorem step_of_blocked {s : MysqlStore δ} {call : PoolCall}
    (h : (call.exec driver s).1 = .blocked) : step driver (.ready s) call = .waiting := by
  rcases hrun : call.exec driver s with ⟨a | e | _, s'⟩
  · rw [hrun] at h
    cases h
  · rw [hrun] at h
    cases h
  · simp only [step, hrun]

private theorem cons_of_length {s : MysqlStore δ} (h : s.pool.length = poolSize) :
    ∃ conn pool, s.pool = conn :: pool := by
  cases hp : s.pool with
  | nil => exact absurd (hp ▸ h) (by decide)
  | cons conn pool => exact ⟨conn, pool, rfl⟩

private theorem conserved_openPool (s : MysqlStore δ) :
    (Session.ready (openPool driver poolSize s).2).Conserved :=
  ⟨List.length_range', List.nodup_range'⟩

private theorem autoMigrate_run {s : MysqlStore δ} {conn : Nat} {pool : List Nat}
    (h : s.pool = conn :: pool) :
    ∃ t, autoMigrate driver s = (.returned true, { pool := pool ++ [conn], rest := t }) := by
  unfold autoMigrate
  rw [bind_run_returned (acquire_run h)]
  exact ⟨_, rfl⟩

private theorem Conserved.of_perm {s s' : MysqlStore δ} (h : (Session.ready s).Conserved)
    (hperm : s'.pool.Perm s.pool) : (Session.ready s').Conserved :=
  ⟨hperm.length_eq.trans h.1, hperm.nodup_iff.mpr h.2⟩

private theorem autoMigrate_openPool (s : MysqlStore δ) :
    ∃ s', autoMigrate driver (openPool driver poolSize s).2 = (.returned true, s') ∧
      (Session.ready s').Conserved := by
  have hwhole := conserved_openPool driver s
  obtain ⟨conn, pool, hpool⟩ := cons_of_length hwhole.1
  obtain ⟨t, hrun⟩ := autoMigrate_run driver hpool
  refine ⟨_, hrun, hwhole.of_perm ?_⟩
  rw [hpool]
  exact List.perm_append_singleton conn pool

private theorem setSettings_bind {β : Type} (f : ConnectionSettings → ConnectionSettings)
    (k : Unit → StoreM δ β) (s : MysqlStore δ) :
    (setSettings f >>= k) s =
      k () { s with rest := { s.rest with settings := f s.rest.settings } } :=
  rfl

private theorem openPool_bind {β : Type} (k : Unit → StoreM δ β) (s : MysqlStore δ) :
    (openPool driver poolSize >>= k) s = k () (openPool driver poolSize s).2 := rfl

private theorem initializeStore_ends (connectionString : String) (s : MysqlStore δ) :
    (∃ e t, initializeStore driver connectionString s = (.thrown e, { s with rest := t })) ∨
    ∃ s', initializeStore driver connectionString s = (.returned true, s') ∧
      (Session.ready s').Conserved := by
  unfold initializeStore
  dsimp only
  rw [setSettings_bind]
  cases hostAndPort connectionString.toList (findFrom '/' connectionString.toList 0) with
  | error e => exact .inl ⟨e, _, bind_run_thrown rfl _⟩
  | ok p =>
    refine .inr ?_
    rw [bind_run_returned (x := PoolM.ofExcept (.ok p)) rfl, setSettings_bind, openPool_bind]
    exact autoMigrate_openPool driver _

/-- A call that keeps connections leaves the pool whole. -/
theorem conserved_step {session : Session δ} {call : PoolCall} (h : session.Conserved)
    (hkeeps : session.Keeps driver call) : (step driver session call).Conserved := by
  cases session with
  | waiting => exact absurd h id
  | ready s =>
    by_cases hopen : ∃ connectionString, call = .initializeStore connectionString
    · obtain ⟨connectionString, rfl⟩ := hopen
      rcases initializeStore_ends driver connectionString s with ⟨e, t, hrun⟩ | ⟨s', hrun, hs'⟩
      · rw [step_of_ends driver (by simp [PoolCall.exec, ignore, hrun])]
        simp only [PoolCall.exec, ignore, hrun]
        exact h
      · rw [step_of_ends driver (by simp [PoolCall.exec, ignore, hrun])]
        simp only [PoolCall.exec, ignore, hrun]
        exact hs'
    · obtain ⟨conn, pool, hpool⟩ := cons_of_length h.1
      have hrestores := PoolCall.restores_exec (not_exists.mp hopen) hpool hkeeps
      rw [step_of_ends driver hrestores.ends]
      exact h.of_perm hrestores.perm

/-- A call after which the pool is whole keeps connections. -/
theorem keeps_of_conserved_step {session : Session δ} {call : PoolCall} (h : session.Conserved)
    (hstep : (step driver session call).Conserved) : session.Keeps driver call := by
  cases session with
  | waiting => exact absurd h id
  | ready s =>
    by_contra hkeeps
    obtain ⟨conn, pool, hpool⟩ := cons_of_length h.1
    have hloses := PoolCall.loses_exec hpool hkeeps
    by_cases hends : (call.exec driver s).1 = .blocked
    · rw [step_of_blocked driver hends] at hstep
      exact hstep
    · rw [step_of_ends driver hends] at hstep
      have hlt := hloses hends
      rw [hstep.1, h.1] at hlt
      exact absurd hlt (lt_irrefl _)

/-- After `initialize` returned, the pool is whole after every call of a run exactly when every
call of the run keeps connections; then none waits for a connection for ever. -/
theorem conserved_iff_along {connectionString : String} {server : δ} {s : MysqlStore δ}
    (hinit : initializeStore driver connectionString { pool := [], rest := { server } } =
      (.returned true, s)) (calls : List PoolCall) :
    (∀ pre, pre <+: calls → (run (step driver) (.ready s) pre).Conserved) ↔
      Along (step driver) (Keeps driver) (.ready s) calls := by
  have hs : (Session.ready s).Conserved := by
    rcases initializeStore_ends driver connectionString { pool := [], rest := { server } }
      with ⟨e, t, hrun⟩ | ⟨s', hrun, hs'⟩
    · rw [hinit] at hrun
      cases hrun
    · rw [hinit] at hrun
      cases hrun
      exact hs'
  refine always_iff_along_of_iff hs fun session call _ h ↦ ?_
  exact ⟨keeps_of_conserved_step driver h, conserved_step driver h⟩

/-- A server that keeps nothing and gives the same row to each kind of query. -/
def echoDriver : Driver Unit where
  connect _ _ u := (true, u)
  execute _ _ u := (true, u)
  query _ sql u :=
    match sql with
    | .lastInsertId => ([["7"]], u)
    | .built (.selectVersionAndValue _ _) => ([["3", "old"]], u)
    | _ => ([], u)
  beginTransaction _ u := (true, u)
  commit _ u := (true, u)
  rollback _ u := (true, u)
  isConnected _ u := (true, u)
  close _ u := ((), u)

/-- The store after `initialize`. -/
def echoStore : MysqlStore Unit :=
  (initializeStore echoDriver "db/root:pw@center" { pool := [], rest := { server := () } }).2

private theorem echoStore_run :
    initializeStore echoDriver "db/root:pw@center" { pool := [], rest := { server := () } } =
      (.returned true, echoStore) := rfl

/-- Two calls that convert a column before they give their connection back. -/
def echoCalls : List PoolCall :=
  [.updateConfig "shop" "db.url" "local" "alice" true SqlStatement.noon,
    .createApproval
      { namespaceId := "shop", submitterId := "alice", status := "pending", createdAt := "" }
      SqlStatement.noon]

/-- An update and a new approval leave the pool whole. -/
theorem conserved_update_approval :
    initializeStore echoDriver "db/root:pw@center" { pool := [], rest := { server := () } } =
      (.returned true, echoStore) ∧
    ∀ pre, pre <+: echoCalls → (run (step echoDriver) (.ready echoStore) pre).Conserved := by
  refine ⟨echoStore_run, ?_⟩
  refine (conserved_iff_along echoDriver echoStore_run echoCalls).mpr ⟨?_, ?_, True.intro⟩
  · intro conn _ row hrow
    obtain rfl : ["3", "old"] = row := Option.some.inj hrow
    rfl
  · intro conn _
    rfl

/-- `beginTransaction` takes a connection and gives none back. -/
theorem not_conserved_beginTransaction :
    ¬ ∀ pre, pre <+: [PoolCall.beginTransaction] →
      (run (step echoDriver) (.ready echoStore) pre).Conserved := by
  intro h
  have hstep := h [.beginTransaction] (List.prefix_refl _)
  exact absurd hstep.1 (by decide +kernel)

end Session
end ConfigCenter.Storage
