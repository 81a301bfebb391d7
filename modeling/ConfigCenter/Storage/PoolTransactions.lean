import ConfigCenter.Base.ResourceTrace
import ConfigCenter.Base.ResourceUse
import ConfigCenter.Storage.PoolConservation

/-!
# Transactions and the connections they are on

Library `Storage`. Each of `beginTransaction`, `commitTransaction` and `rollbackTransaction` of
the MySQL store takes a connection of its own and keeps it. A log of what the driver is asked
to do shows that nothing else is ever done on this connection.
-/

namespace ConfigCenter.Storage
open ConfigCenter.Base

/-- Calls of a driver, without their arguments. -/
inductive DriverCall where
  | connect
  | execute
  | query
  | beginTransaction
  | commit
  | rollback
  | isConnected
  | close
  deriving DecidableEq, Repr

/-- Calls of a driver in their order, each with its connection. -/
abbrev DriverLog := List (Nat × DriverCall)

/-- The driver, with a log of its calls. -/
def Driver.logged {δ : Type} (driver : Driver δ) : Driver (δ × DriverLog) where
  connect conn settings s :=
    ((driver.connect conn settings s.1).1,
      (driver.connect conn settings s.1).2, s.2 ++ [(conn, .connect)])
  execute conn sql s :=
    ((driver.execute conn sql s.1).1, (driver.execute conn sql s.1).2, s.2 ++ [(conn, .execute)])
  query conn sql s :=
    ((driver.query conn sql s.1).1, (driver.query conn sql s.1).2, s.2 ++ [(conn, .query)])
  beginTransaction conn s :=
    ((driver.beginTransaction conn s.1).1,
      (driver.beginTransaction conn s.1).2, s.2 ++ [(conn, .beginTransaction)])
  commit conn s :=
    ((driver.commit conn s.1).1, (driver.commit conn s.1).2, s.2 ++ [(conn, .commit)])
  rollback conn s :=
    ((driver.rollback conn s.1).1, (driver.rollback conn s.1).2, s.2 ++ [(conn, .rollback)])
  isConnected conn s :=
    ((driver.isConnected conn s.1).1,
      (driver.isConnected conn s.1).2, s.2 ++ [(conn, .isConnected)])
  close conn s :=
    ((), (driver.close conn s.1).2, s.2 ++ [(conn, .close)])

/-- The log behind a store. -/
def Backend.log {δ : Type} (b : Backend (δ × DriverLog)) : DriverLog := b.server.2

namespace PoolCall
open MysqlConnectionPool PoolM MysqlConfigStore

section
variable {δ : Type} {driver : Driver δ}

/-! ### Operations act on connections of the pool -/

private theorem still_call {α : Type} (f : δ → α × δ) : Still (perform f) :=
  fun _ ↦ ⟨nofun, rfl⟩

private theorem confined_call {α : Type} {conn : Nat} {f : δ × DriverLog → α × δ × DriverLog}
    (call : DriverCall) (hf : ∀ t, (f t).2.2 = t.2 ++ [(conn, call)]) :
    Confined Backend.log [conn] (perform f) := by
  refine confined_outside fun b ↦ ⟨[(conn, call)], hf b.server, fun e he ↦ ?_⟩
  rw [List.mem_singleton.mp he]
  exact List.mem_singleton_self conn

private theorem confined_execute_then {α : Type} {conn : Nat} (st : SqlStatement)
    {f : Bool → StoreM (δ × DriverLog) α} (hf : ∀ ok, Confined Backend.log [conn] (f ok)) :
    Confined Backend.log [conn] (executeOn driver.logged conn st >>= f) :=
  confined_bind_still (confined_call .execute fun _ ↦ rfl) (still_call _) hf

private theorem confined_query_then {α : Type} {conn : Nat} (sql : Sql)
    {f : List (List String) → StoreM (δ × DriverLog) α}
    (hf : ∀ rows, Confined Backend.log [conn] (f rows)) :
    Confined Backend.log [conn] (queryOn driver.logged conn sql >>= f) :=
  confined_bind_still (confined_call .query fun _ ↦ rfl) (still_call _) hf

private theorem confined_convert_then {α β : Type} {held : List Nat} (x : Except Thrown α)
    {f : α → StoreM (δ × DriverLog) β} (hf : ∀ a, Confined Backend.log held (f a)) :
    Confined Backend.log held (ofExcept x >>= f) :=
  confined_bind_still (confined_ofExcept held x) (still_ofExcept x) hf

private theorem confined_executeOnce (st : SqlStatement) :
    Confined Backend.log [] (executeOnce driver.logged st) :=
  confined_acquire fun conn ↦ confined_execute_then st fun ok ↦ confined_release conn ok

private theorem confined_executeAnyway (st : SqlStatement) :
    Confined Backend.log [] (executeAnyway driver.logged st) :=
  confined_acquire fun conn ↦ confined_execute_then st fun _ ↦ confined_release conn true

private theorem confined_fetch (sql : Sql) :
    Confined Backend.log [] (fetch driver.logged sql) :=
  confined_acquire fun conn ↦ confined_query_then sql fun rows ↦ confined_release conn rows

private theorem confined_fetchOne {α : Type} (sql : Sql) (read : List String → Except Thrown α) :
    Confined Backend.log [] (fetchOne driver.logged sql read) :=
  confined_bind (confined_fetch sql) fun _ ↦ confined_ofExcept [] _

private theorem confined_fetchAll {α : Type} (sql : Sql) (read : List String → Except Thrown α) :
    Confined Backend.log [] (fetchAll driver.logged sql read) :=
  confined_bind (confined_fetch sql) fun _ ↦ confined_ofExcept [] _

private theorem confined_createConfig (namespaceId key value operatorId : String)
    (ts : ClockReading) :
    Confined Backend.log []
      (MysqlConnectionPool.createConfig driver.logged namespaceId key value operatorId ts) :=
  confined_acquire fun conn ↦ confined_execute_then _ fun _ ↦ confined_execute_then _ fun _ ↦
    confined_execute_then _ fun _ ↦ confined_release conn true

private theorem confined_deleteConfig (namespaceId key operatorId : String) (draft : Bool)
    (ts : ClockReading) :
    Confined Backend.log []
      (MysqlConnectionPool.deleteConfig driver.logged namespaceId key operatorId draft ts) :=
  confined_acquire fun conn ↦ confined_execute_then _ fun _ ↦ confined_execute_then _ fun _ ↦
    confined_release conn true

private theorem confined_updateConfig (namespaceId key value operatorId : String) (draft : Bool)
    (ts : ClockReading) :
    Confined Backend.log []
      (MysqlConnectionPool.updateConfig driver.logged namespaceId key value operatorId draft
        ts) := by
  refine confined_acquire fun conn ↦ confined_query_then _ fun rows ↦ ?_
  cases rows with
  | nil => exact confined_release conn false
  | cons row rows =>
    refine confined_convert_then _ fun oldVersion ↦ ?_
    exact confined_execute_then _ fun _ ↦ confined_execute_then _ fun _ ↦
      confined_execute_then _ fun _ ↦ confined_release conn true

private theorem confined_rollbackConfig (namespaceId key : String) (targetVersion : Int32)
    (operatorId : String) (ts : ClockReading) :
    Confined Backend.log []
      (MysqlConnectionPool.rollbackConfig driver.logged namespaceId key targetVersion operatorId
        ts) := by
  refine confined_bind (confined_fetchOne _ _) fun target ↦ ?_
  cases target with
  | none => exact confined_pure [] false
  | some v => exact confined_updateConfig _ _ _ _ _ _

-- The common shape of `createRelease` and `createApproval`.
private theorem confined_insertion {α : Type} (st : SqlStatement) (id : Int) (result : Int → α) :
    Confined Backend.log [] (do
      let conn ← acquire
      let _ ← executeOn driver.logged conn st
      let idRows ← queryOn driver.logged conn .lastInsertId
      let id ← ofExcept (insertedId idRows id)
      release conn
      return result id) :=
  confined_acquire fun conn ↦ confined_execute_then st fun _ ↦ confined_query_then _ fun _ ↦
    confined_convert_then _ fun id ↦ confined_release conn (result id)

private theorem confined_publishBlock (conn : Nat) (namespaceId releaseNote operatorId : String)
    (ts : ClockReading) :
    Confined Backend.log [conn]
      (publishBlock driver.logged conn namespaceId releaseNote operatorId ts) := by
  refine confined_execute_then _ fun _ ↦ confined_query_then _ fun versionRows ↦ ?_
  refine confined_convert_then _ fun nextVersion ↦ ?_
  refine confined_execute_then _ fun _ ↦ confined_query_then _ fun idRows ↦ ?_
  refine confined_convert_then _ fun id ↦ ?_
  exact confined_bind_still (confined_call .commit fun _ ↦ rfl) (still_call _)
    fun _ ↦ confined_release conn _

variable (driver) in
private theorem confined_publishRelease (namespaceId releaseNote operatorId : String)
    (ts : ClockReading) :
    Confined Backend.log []
      (MysqlConnectionPool.publishRelease driver.logged namespaceId releaseNote operatorId ts) := by
  refine confined_acquire fun conn ↦ ?_
  refine confined_bind_still (confined_call .beginTransaction fun _ ↦ rfl) (still_call _)
    fun _ ↦ ?_
  refine confined_tryCatch (confined_publishBlock conn namespaceId releaseNote operatorId ts) ?_
  exact confined_bind_still (confined_call .rollback fun _ ↦ rfl) (still_call _)
    fun _ ↦ confined_release conn _

private theorem confined_beginTransaction :
    Confined Backend.log [] (MysqlConnectionPool.beginTransaction driver.logged) :=
  confined_acquire fun _ ↦ confined_call .beginTransaction fun _ ↦ rfl

private theorem confined_commitTransaction :
    Confined Backend.log [] (MysqlConnectionPool.commitTransaction driver.logged) :=
  confined_acquire fun _ ↦ confined_call .commit fun _ ↦ rfl

private theorem confined_rollbackTransaction :
    Confined Backend.log [] (MysqlConnectionPool.rollbackTransaction driver.logged) :=
  confined_acquire fun _ ↦ confined_call .rollback fun _ ↦ rfl

private theorem confined_publishGrayscale (dump : List String → Option String)
    (namespaceId releaseNote operatorId : String) (whitelist : List String) (ts : ClockReading) :
    Confined Backend.log []
      (MysqlConnectionPool.publishGrayscale driver.logged dump namespaceId releaseNote operatorId
        whitelist ts) := by
  refine confined_bind confined_beginTransaction fun _ ↦ confined_tryCatch ?_ ?_
  · refine confined_bind (confined_publishRelease driver namespaceId releaseNote operatorId ts)
      fun _ ↦ ?_
    have hcommit : Confined Backend.log [] (do
        let _ ← MysqlConnectionPool.commitTransaction driver.logged
        return true : StoreM (δ × DriverLog) Bool) :=
      confined_bind confined_commitTransaction fun _ ↦ confined_pure [] true
    split
    · exact confined_convert_then _ fun _ ↦ hcommit
    · exact hcommit
  · exact confined_bind confined_rollbackTransaction fun _ ↦ confined_pure [] false

variable (driver) in
/-- Every call but `initialize` acts on connections of the pool alone. -/
theorem confined_exec {call : PoolCall}
    (hopen : ∀ connectionString, call ≠ .initializeStore connectionString) :
    Confined Backend.log [] (call.exec driver.logged) := by
  cases call with
  | initializeStore connectionString => exact absurd rfl (hopen connectionString)
  | healthCheck =>
    refine confined_ignore (confined_acquire fun conn ↦ ?_)
    exact confined_bind_still (confined_call .isConnected fun _ ↦ rfl) (still_call _)
      fun ok ↦ confined_release conn ok
  | createApplication | deleteApplication | createNamespace | deleteNamespace | createUser =>
    exact confined_ignore (confined_executeOnce _)
  | retireRelease | updateApprovalStatus => exact confined_ignore (confined_executeAnyway _)
  | getApplication | getNamespace | getUserByUsername | getConfigVersion | getRelease =>
    exact confined_ignore (confined_fetchOne _ _)
  | listApplications | listNamespaces | listUsers | listConfigs | getConfigVersions
  | getChangeHistory | getReleases | getPendingApprovals =>
    exact confined_ignore (confined_fetchAll _ _)
  | getConfig =>
    exact confined_ignore (confined_bind (confined_fetch _) fun _ ↦ confined_ofExcept [] _)
  | createConfig => exact confined_ignore (confined_createConfig _ _ _ _ _)
  | deleteConfig => exact confined_ignore (confined_deleteConfig _ _ _ _ _)
  | updateConfig => exact confined_ignore (confined_updateConfig _ _ _ _ _ _)
  | rollbackConfig => exact confined_ignore (confined_rollbackConfig _ _ _ _ _)
  | createRelease => exact confined_ignore (confined_insertion _ _ _)
  | createApproval => exact confined_ignore (confined_insertion _ _ _)
  | publishRelease => exact confined_ignore (confined_publishRelease driver _ _ _ _)
  | beginTransaction => exact confined_ignore confined_beginTransaction
  | commitTransaction => exact confined_ignore confined_commitTransaction
  | rollbackTransaction => exact confined_ignore confined_rollbackTransaction
  | publishGrayscale => exact confined_ignore (confined_publishGrayscale _ _ _ _ _ _)

/-! ### Calls that keep a connection -/

/-- What a call of a transaction asks its connection to do. -/
def transaction? : PoolCall → Option DriverCall
  | .beginTransaction => some .beginTransaction
  | .commitTransaction => some .commit
  | .rollbackTransaction => some .rollback
  | _ => none

-- The first connection of a pool was taken for one call, and kept.
private structure TakesFor (call : DriverCall) (conn : Nat) (s s' : MysqlStore (δ × DriverLog)) :
    Prop where
  pool : s.pool = conn :: s'.pool
  log : s'.rest.log = s.rest.log ++ [(conn, call)]

private theorem takesFor_run {α : Type} {f : Nat → δ × DriverLog → α × δ × DriverLog}
    (call : DriverCall) (hf : ∀ conn t, (f conn t).2.2 = t.2 ++ [(conn, call)])
    {s : MysqlStore (δ × DriverLog)}
    (hends : ((acquire >>= fun conn ↦ perform (f conn) : StoreM _ α) s).1 ≠ .blocked) :
    ∃ conn a s', (acquire >>= fun conn ↦ perform (f conn) : StoreM _ α) s = (.returned a, s') ∧
      TakesFor call conn s s' := by
  cases hpool : s.pool with
  | nil => exact absurd (by rw [bind_run_blocked (acquire_run_nil hpool)]) hends
  | cons conn pool =>
    refine ⟨conn, _, _, bind_run_returned (acquire_run hpool) _, ?_⟩
    exact ⟨hpool, hf conn s.rest.server⟩

private theorem takesFor_then {α β : Type} {f : Nat → δ × DriverLog → α × δ × DriverLog}
    (call : DriverCall) (hf : ∀ conn t, (f conn t).2.2 = t.2 ++ [(conn, call)]) (b : β)
    {s : MysqlStore (δ × DriverLog)}
    (hends : ((do
      let _ ← (acquire >>= fun conn ↦ perform (f conn) : StoreM (δ × DriverLog) α)
      return b) s).1 ≠ .blocked) :
    ∃ conn s', (do
      let _ ← (acquire >>= fun conn ↦ perform (f conn) : StoreM (δ × DriverLog) α)
      return b) s = (.returned b, s') ∧ TakesFor call conn s s' := by
  have htaken : ((acquire >>= fun conn ↦ perform (f conn) : StoreM _ α) s).1 ≠ .blocked :=
    fun hblocked ↦ hends (blocked_bind hblocked _)
  obtain ⟨conn, a, s', hrun, htakes⟩ := takesFor_run call hf htaken
  exact ⟨conn, s', bind_run_returned hrun _, htakes⟩

-- The `try` block of `publishGrayscale` after its publication.
private def whitelistBlock {β : Type} (driver : Driver (δ × DriverLog))
    (x : StoreM (δ × DriverLog) β) (refused : Bool) : StoreM (δ × DriverLog) Bool := do
  let _ ← x
  if refused then
    ofExcept (.error .json)
  let _ ← MysqlConnectionPool.commitTransaction driver
  return true

-- The handler of `publishGrayscale`.
private def whitelistHandler (driver : Driver (δ × DriverLog)) : StoreM (δ × DriverLog) Bool := do
  let _ ← MysqlConnectionPool.rollbackTransaction driver
  return false

-- Where the publication threw, or its whitelist was refused, a rollback takes one more connection.
private theorem takesFor_handler {s s' : MysqlStore (δ × DriverLog)}
    {block : StoreM (δ × DriverLog) Bool} {e : Thrown} (hrun : block s = (.thrown e, s'))
    (hends : (tryCatch block (whitelistHandler driver.logged) s).1 ≠ .blocked) :
    ∃ conn, TakesFor .rollback conn s'
      (tryCatch block (whitelistHandler driver.logged) s).2 := by
  have htry : tryCatch block (whitelistHandler driver.logged) s =
      whitelistHandler driver.logged s' :=
    tryCatch_run_thrown hrun _
  rw [htry] at hends ⊢
  obtain ⟨conn, s'', hrun', htakes⟩ := takesFor_then (f := driver.logged.rollback) .rollback
    (fun _ _ ↦ rfl) false hends
  refine ⟨conn, ?_⟩
  rw [whitelistHandler, MysqlConnectionPool.rollbackTransaction, hrun']
  exact htakes

private theorem takesFor_whitelistBlock {β : Type} {x : StoreM (δ × DriverLog) β}
    (refused : Bool) {s : MysqlStore (δ × DriverLog)}
    (hends : (tryCatch (whitelistBlock driver.logged x refused)
      (whitelistHandler driver.logged) s).1 ≠ .blocked) :
    ∃ call conn, (call = .commit ∨ call = .rollback) ∧
      TakesFor call conn (x s).2 (tryCatch (whitelistBlock driver.logged x refused)
        (whitelistHandler driver.logged) s).2 := by
  rcases hrun : x s with ⟨b | e | _, s'⟩
  · by_cases hrefused : refused = true
    · have hthrown : whitelistBlock driver.logged x refused s = (.thrown .json, s') := by
        rw [whitelistBlock, bind_run_returned hrun, if_pos hrefused]
        rfl
      obtain ⟨conn, htakes⟩ := takesFor_handler hthrown hends
      exact ⟨.rollback, conn, .inr rfl, htakes⟩
    · have hblock : whitelistBlock driver.logged x refused s = (do
          let _ ← MysqlConnectionPool.commitTransaction driver.logged
          return true) s' := by
        rw [whitelistBlock, bind_run_returned hrun, if_neg hrefused]
      have hcommit : ((do
          let _ ← MysqlConnectionPool.commitTransaction driver.logged
          return true : StoreM (δ × DriverLog) Bool) s').1 ≠ .blocked := by
        intro hblocked
        exact hends (blocked_tryCatch (hblock ▸ hblocked) _)
      obtain ⟨conn, s'', hrun', htakes⟩ := takesFor_then (f := driver.logged.commit) .commit
        (fun _ _ ↦ rfl) true hcommit
      refine ⟨.commit, conn, .inl rfl, ?_⟩
      rw [tryCatch_run_returned (hblock.trans hrun')]
      exact htakes
  · have hthrown : whitelistBlock driver.logged x refused s = (.thrown e, s') := by
      rw [whitelistBlock, bind_run_thrown hrun]
    obtain ⟨conn, htakes⟩ := takesFor_handler hthrown hends
    exact ⟨.rollback, conn, .inr rfl, htakes⟩
  · refine absurd (blocked_tryCatch ?_ _) hends
    rw [whitelistBlock, bind_run_blocked hrun]

end

/-! ### Connections that nobody uses again -/

section
variable {δ : Type}

/-- The store after calls, as far as they get. -/
def storeAfter (driver : Driver δ) (s : MysqlStore δ) : List PoolCall → MysqlStore δ
  | [] => s
  | call :: calls =>
    match call.exec driver s with
    | (.blocked, s') => s'
    | (_, s') => storeAfter driver s' calls

/-- No call opens a new pool. -/
def KeepsPool (calls : List PoolCall) : Prop :=
  ∀ call ∈ calls, ∀ connectionString, call ≠ .initializeStore connectionString

/-- Whatever is called from here on, the driver is asked for nothing more on the connection. -/
def Abandoned (driver : Driver δ) (s : MysqlStore (δ × DriverLog)) (conn : Nat) : Prop :=
  ∀ calls, KeepsPool calls → ∃ later,
    (storeAfter driver.logged s calls).rest.log = s.rest.log ++ later ∧
      ∀ e ∈ later, e.1 ≠ conn

variable {driver : Driver δ} {s : MysqlStore (δ × DriverLog)}

variable (driver) in
/-- Calls act on the connections that the pool holds before them. -/
theorem moves_storeAfter (hs : s.pool.Nodup) {calls : List PoolCall} (hopen : KeepsPool calls) :
    Moves Backend.log s.pool s (storeAfter driver.logged s calls) := by
  induction calls generalizing s with
  | nil => exact moves_refl (List.Subset.refl _) hs
  | cons call calls ih =>
    obtain ⟨hmoves, -⟩ := confined_exec driver (hopen call List.mem_cons_self) s hs
    have hrest : KeepsPool calls := fun c hc ↦ hopen c (List.mem_cons_of_mem call hc)
    rcases hrun : call.exec driver.logged s with ⟨a | e | _, s'⟩
    · rw [hrun] at hmoves
      simp only [storeAfter, hrun]
      exact moves_trans hmoves (ih hmoves.nodup hrest) hmoves.pool
    · rw [hrun] at hmoves
      simp only [storeAfter, hrun]
      exact moves_trans hmoves (ih hmoves.nodup hrest) hmoves.pool
    · rw [hrun] at hmoves
      simp only [storeAfter, hrun]
      exact hmoves

/-- A connection that the pool has lost is not used again. -/
theorem abandoned_of_notMem (hs : s.pool.Nodup) {conn : Nat} (h : conn ∉ s.pool) :
    Abandoned driver s conn := by
  intro calls hopen
  obtain ⟨later, hlog, hmem⟩ := (moves_storeAfter driver hs hopen).actions
  refine ⟨later, hlog, ?_⟩
  rintro e he rfl
  exact h (hmem e he)

variable (driver) in
private theorem abandoned_of_takesFor {s' : MysqlStore (δ × DriverLog)} {call : DriverCall}
    {conn : Nat} (hs : s.pool.Nodup) (h : TakesFor call conn s s') :
    s'.pool.Nodup ∧ Abandoned driver s' conn := by
  have hcons : (conn :: s'.pool).Nodup := h.pool ▸ hs
  obtain ⟨hnotMem, hnodup⟩ := List.nodup_cons.mp hcons
  exact ⟨hnodup, abandoned_of_notMem hnodup hnotMem⟩

private theorem takesFor_ignore {α : Type} {f : Nat → δ × DriverLog → α × δ × DriverLog}
    (call : DriverCall) (hf : ∀ conn t, (f conn t).2.2 = t.2 ++ [(conn, call)])
    (hends : (ignore (acquire >>= fun conn ↦ perform (f conn) : StoreM _ α) s).1 ≠ .blocked) :
    ∃ conn, TakesFor call conn s
      (ignore (acquire >>= fun conn ↦ perform (f conn) : StoreM _ α) s).2 := by
  rw [Ne, blocked_ignore] at hends
  obtain ⟨conn, a, s', hrun, htakes⟩ := takesFor_run call hf hends
  rw [pool_ignore, hrun]
  exact ⟨conn, htakes⟩

private theorem takesFor_exec {call : PoolCall} {action : DriverCall}
    (hcall : call.transaction? = some action)
    (hends : (call.exec driver.logged s).1 ≠ .blocked) :
    ∃ conn, TakesFor action conn s (call.exec driver.logged s).2 := by
  cases call with
  | beginTransaction =>
    cases hcall
    exact takesFor_ignore .beginTransaction (fun _ _ ↦ rfl) hends
  | commitTransaction =>
    cases hcall
    exact takesFor_ignore .commit (fun _ _ ↦ rfl) hends
  | rollbackTransaction =>
    cases hcall
    exact takesFor_ignore .rollback (fun _ _ ↦ rfl) hends
  | _ => cases hcall

private theorem takesFor_grayscale (dump : List String → Option String)
    (namespaceId releaseNote operatorId : String) (whitelist : List String) (ts : ClockReading)
    (hs : s.pool.Nodup)
    (hends : (MysqlConnectionPool.publishGrayscale driver.logged dump namespaceId releaseNote
      operatorId whitelist ts s).1 ≠ .blocked) :
    ∃ s' s'' conn conn' action, TakesFor .beginTransaction conn s s' ∧
      Moves Backend.log s'.pool s' s'' ∧ (action = .commit ∨ action = .rollback) ∧
      TakesFor action conn' s'' (MysqlConnectionPool.publishGrayscale driver.logged dump
        namespaceId releaseNote operatorId whitelist ts s).2 := by
  have hbegins : (MysqlConnectionPool.beginTransaction driver.logged s).1 ≠ .blocked :=
    fun hblocked ↦ hends (blocked_bind hblocked _)
  obtain ⟨conn, ok, s', hrun, htakes⟩ := takesFor_run (f := driver.logged.beginTransaction)
    .beginTransaction (fun _ _ ↦ rfl) hbegins
  have hgrayscale : MysqlConnectionPool.publishGrayscale driver.logged dump namespaceId releaseNote
      operatorId whitelist ts s = tryCatch (whitelistBlock driver.logged
        (MysqlConnectionPool.publishRelease driver.logged namespaceId releaseNote operatorId ts)
        (!whitelist.isEmpty && (dump whitelist).isNone)) (whitelistHandler driver.logged) s' := by
    rw [MysqlConnectionPool.publishGrayscale, MysqlConnectionPool.beginTransaction,
      bind_run_returned hrun]
    rfl
  rw [hgrayscale] at hends ⊢
  obtain ⟨action, conn', haction, htakes'⟩ := takesFor_whitelistBlock _ hends
  have hmoves := (confined_publishRelease driver namespaceId releaseNote operatorId ts
    s' (abandoned_of_takesFor driver hs htakes).1).1
  exact ⟨s', _, conn, conn', action, htakes, hmoves, haction, htakes'⟩

private theorem nodup_of_initializeStore {connectionString : String} {server : δ × DriverLog}
    (hinit : MysqlConnectionPool.initializeStore driver.logged connectionString
      { pool := [], rest := { server } } = (.returned true, s)) : s.pool.Nodup := by
  unfold MysqlConnectionPool.initializeStore at hinit
  dsimp only at hinit
  cases hhost : hostAndPort connectionString.toList
      (findFrom '/' connectionString.toList 0) with
  | error e =>
    rw [hhost] at hinit
    exact nomatch congrArg Prod.fst hinit
  | ok p =>
    rw [hhost] at hinit
    have hpool : List.range' 1 9 ++ [0] = s.pool := congrArg (fun r ↦ r.2.pool) hinit
    rw [← hpool]
    decide

/-- A transaction of the MySQL store holds nothing. On the connection that a call begins,
commits or rolls back, nothing is done afterwards; and `publishGrayscale` begins a transaction on
one connection, publishes on others, and commits or rolls back on another one than it began. -/
theorem transactions_hold_nothing {connectionString : String} {server : δ}
    (hinit : MysqlConnectionPool.initializeStore driver.logged connectionString
      { pool := [], rest := { server := (server, []) } } = (.returned true, s))
    {calls : List PoolCall} (hopen : KeepsPool calls) {call : PoolCall}
    {before after : MysqlStore (δ × DriverLog)}
    (hbefore : storeAfter driver.logged s calls = before)
    (hafter : (call.exec driver.logged before).2 = after)
    (hends : (call.exec driver.logged before).1 ≠ .blocked) :
    (∀ action, call.transaction? = some action →
      ∃ conn, after.rest.log = before.rest.log ++ [(conn, action)] ∧
        Abandoned driver after conn) ∧
    ∀ dump namespaceId releaseNote operatorId whitelist ts,
      call = .publishGrayscale dump namespaceId releaseNote operatorId whitelist ts →
        ∃ conn conn' action published, (action = .commit ∨ action = .rollback) ∧
          after.rest.log =
            before.rest.log ++ (conn, .beginTransaction) :: published ++ [(conn', action)] ∧
          (∀ e ∈ published, e.1 ≠ conn) ∧ conn' ≠ conn ∧
          Abandoned driver after conn ∧ Abandoned driver after conn' := by
  have hnodup : before.pool.Nodup := by
    rw [← hbefore]
    exact (moves_storeAfter driver (nodup_of_initializeStore hinit) hopen).nodup
  subst hafter
  constructor
  · intro action haction
    obtain ⟨conn, htakes⟩ := takesFor_exec haction hends
    exact ⟨conn, htakes.log, (abandoned_of_takesFor driver hnodup htakes).2⟩
  · rintro dump namespaceId releaseNote operatorId whitelist ts rfl
    rw [exec, Ne, blocked_ignore] at hends
    obtain ⟨s', s'', conn, conn', action, hbegin, hmoves, haction, hend⟩ :=
      takesFor_grayscale dump namespaceId releaseNote operatorId whitelist ts hnodup hends
    rw [exec, pool_ignore]
    obtain ⟨published, hpublished, hmem⟩ := hmoves.actions
    have hcons : (conn :: s'.pool).Nodup := hbegin.pool ▸ hnodup
    have hnotMem : conn ∉ s'.pool := (List.nodup_cons.mp hcons).1
    obtain ⟨hnodup', habandoned'⟩ := abandoned_of_takesFor driver hmoves.nodup hend
    have hconn' : conn' ∈ s'.pool := hmoves.pool (by rw [hend.pool]; exact List.mem_cons_self)
    refine ⟨conn, conn', action, published, haction, ?_, ?_, ?_, ?_, habandoned'⟩
    · rw [hend.log, hpublished, hbegin.log]
      simp
    · rintro e he rfl
      exact hnotMem (hmem e he)
    · rintro rfl
      exact hnotMem hconn'
    · refine abandoned_of_notMem hnodup' fun hmem' ↦ hnotMem (hmoves.pool ?_)
      rw [hend.pool]
      exact List.mem_cons_of_mem conn' hmem'

/-- The store after `initialize`, with the log of its calls. -/
def loggedStore : MysqlStore (Unit × DriverLog) :=
  (MysqlConnectionPool.initializeStore Session.echoDriver.logged "db/root:pw@center"
    { pool := [], rest := { server := ((), []) } }).2

/-- A publication without a whitelist. -/
def shopGrayscale : PoolCall :=
  .publishGrayscale (fun _ ↦ none) "shop" "first" "alice" [] SqlStatement.noon

/-- The first call after `initialize`. -/
theorem transactions_hold_nothing_first :
    let after := (shopGrayscale.exec Session.echoDriver.logged loggedStore).2
    (∀ action, shopGrayscale.transaction? = some action →
      ∃ conn, after.rest.log = loggedStore.rest.log ++ [(conn, action)] ∧
        Abandoned Session.echoDriver after conn) ∧
    ∀ dump namespaceId releaseNote operatorId whitelist ts,
      shopGrayscale = .publishGrayscale dump namespaceId releaseNote operatorId whitelist ts →
        ∃ conn conn' action published, (action = .commit ∨ action = .rollback) ∧
          after.rest.log = loggedStore.rest.log ++ (conn, .beginTransaction) :: published ++
            [(conn', action)] ∧
          (∀ e ∈ published, e.1 ≠ conn) ∧ conn' ≠ conn ∧
          Abandoned Session.echoDriver after conn ∧ Abandoned Session.echoDriver after conn' := by
  have hinit : MysqlConnectionPool.initializeStore Session.echoDriver.logged "db/root:pw@center"
      { pool := [], rest := { server := ((), []) } } = (.returned true, loggedStore) := rfl
  have hopen : KeepsPool [] := fun _ h ↦ nomatch h
  exact transactions_hold_nothing hinit hopen rfl rfl nofun

end
end PoolCall
end ConfigCenter.Storage
