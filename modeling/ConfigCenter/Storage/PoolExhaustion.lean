import ConfigCenter.Base.ResourceUse
import ConfigCenter.Storage.PoolConservation

/-!
# Connections that are lost, and clients that wait for ever

Library `Storage`. Every call on the pool either ends or finds too few connections, and when
it ends it has lost a number of them that is known before it. An account of these numbers
over a run says what the pool holds and where the run stops.
-/

namespace ConfigCenter.Storage
open ConfigCenter.Base

namespace PoolCall
open MysqlConnectionPool PoolM MysqlConfigStore

variable {δ : Type} (driver : Driver δ)

/-- Connections that must be free for the call to end. `publishGrayscale` keeps one while it
takes the next. -/
def need : PoolCall → Nat
  | .initializeStore _ => 0
  | .publishGrayscale _ _ _ _ _ _ => 2
  | _ => 1

open Classical in
/-- Connections that the call does not give back. -/
noncomputable def cost (s : MysqlStore δ) : PoolCall → Nat
  | .publishGrayscale _ _ _ _ _ _ => 2
  | call => if call.Keeps driver s then 0 else 1

section
variable {driver} {s : MysqlStore δ}

/-! ### Too few connections -/

private theorem needs_fetchOne {α : Type} (sql : Sql) (read : List String → Except Thrown α) :
    Needs (fetchOne driver sql read) :=
  needs_bind (needs_bind needs_acquire _) _

private theorem needs_fetchAll {α : Type} (sql : Sql) (read : List String → Except Thrown α) :
    Needs (fetchAll driver sql read) :=
  needs_bind (needs_bind needs_acquire _) _

private theorem needs_exec {call : PoolCall}
    (hopen : ∀ connectionString, call ≠ .initializeStore connectionString) :
    Needs (call.exec driver) := by
  cases call with
  | initializeStore connectionString => exact absurd rfl (hopen connectionString)
  | getApplication | getNamespace | getUserByUsername | getConfigVersion | getRelease =>
    exact needs_ignore (needs_fetchOne _ _)
  | listApplications | listNamespaces | listUsers | listConfigs | getConfigVersions
  | getChangeHistory | getReleases | getPendingApprovals =>
    exact needs_ignore (needs_fetchAll _ _)
  | getConfig => exact needs_ignore (needs_bind (needs_bind needs_acquire _) _)
  | rollbackConfig => exact needs_ignore (needs_bind (needs_fetchOne _ _) _)
  | publishGrayscale => exact needs_ignore (needs_bind (needs_bind needs_acquire _) _)
  | _ => exact needs_ignore (needs_bind needs_acquire _)

/-! ### What is not given back -/

private theorem within_updateConfig (namespaceId key value operatorId : String) (draft : Bool)
    (ts : ClockReading) :
    Within 1 1
      (MysqlConnectionPool.updateConfig driver namespaceId key value operatorId draft ts) := by
  refine within_bind_acquire fun conn ↦ ?_
  refine within_bind_still (fun _ ↦ ⟨nofun, rfl⟩) fun rows ↦ ?_
  cases rows with
  | nil => exact within_bind (within_release conn) fun _ ↦ within_of_still (still_pure false)
  | cons row rows =>
    refine within_bind_still (still_ofExcept _) fun oldVersion ↦ ?_
    refine within_bind_still (fun _ ↦ ⟨nofun, rfl⟩) fun _ ↦ ?_
    refine within_bind_still (fun _ ↦ ⟨nofun, rfl⟩) fun _ ↦ ?_
    refine within_bind_still (fun _ ↦ ⟨nofun, rfl⟩) fun _ ↦ ?_
    exact within_bind (within_release conn) fun _ ↦ within_of_still (still_pure true)

private theorem within_getConfigVersion (namespaceId key : String) (version : Int32) :
    Within 1 0 (MysqlConnectionPool.getConfigVersion driver namespaceId key version) := by
  refine within_of_restores fun s conn pool h ↦ restores_of_ignore ?_
  change Restores ((PoolCall.getConfigVersion namespaceId key version).exec driver) s
  exact restores_exec (fun _ ↦ nofun) h True.intro

private theorem within_rollbackConfig (namespaceId key : String) (targetVersion : Int32)
    (operatorId : String) (ts : ClockReading) :
    Within 1 1
      (MysqlConnectionPool.rollbackConfig driver namespaceId key targetVersion operatorId ts) := by
  change Within (max 1 (1 + 0)) (0 + 1) _
  refine within_bind (within_getConfigVersion namespaceId key targetVersion) fun target ↦ ?_
  cases target with
  | none =>
    intro s _
    exact ⟨nofun, Nat.le_succ _⟩
  | some v => exact within_updateConfig namespaceId key v.value operatorId true ts

private theorem within_insertion {α : Type} (st : SqlStatement) (id : Int) (result : Int → α) :
    Within 1 1 (do
      let conn ← acquire
      let _ ← executeOn driver conn st
      let idRows ← queryOn driver conn .lastInsertId
      let id ← ofExcept (insertedId idRows id)
      release conn
      return result id) := by
  refine within_bind_acquire fun conn ↦ ?_
  refine within_bind_still (fun _ ↦ ⟨nofun, rfl⟩) fun _ ↦ ?_
  refine within_bind_still (fun _ ↦ ⟨nofun, rfl⟩) fun idRows ↦ ?_
  refine within_bind_still (still_ofExcept _) fun id ↦ ?_
  exact within_bind (within_release conn) fun _ ↦ within_of_still (still_pure _)

private theorem run_transactionCall {α : Type} (f : Nat → δ → α × δ) (ok : Bool) {conn : Nat}
    {pool : List Nat} (h : s.pool = conn :: pool) :
    ∃ t, (do
      let _ ← (acquire >>= fun conn ↦ perform (f conn) : StoreM δ α)
      return ok) s = (.returned ok, { pool, rest := t }) := by
  refine ⟨{ s.rest with server := (f conn s.rest.server).2 }, ?_⟩
  rw [bind_run_returned (x := acquire >>= fun conn ↦ perform (f conn)) (bind_run_returned
    (acquire_run h) _)]
  rfl

private theorem cons_of_length {n : Nat} {t : MysqlStore δ} (h : t.pool.length = n + 1) :
    ∃ conn pool, t.pool = conn :: pool := by
  cases hpool : t.pool with
  | nil =>
    rw [hpool] at h
    exact absurd h (by simp)
  | cons conn pool => exact ⟨conn, pool, rfl⟩

-- The `try` block of `publishGrayscale`.
private def grayscaleBlock (driver : Driver δ) (dump : List String → Option String)
    (namespaceId releaseNote operatorId : String) (whitelist : List String) (ts : ClockReading) :
    StoreM δ Bool := do
  let _ ← MysqlConnectionPool.publishRelease driver namespaceId releaseNote operatorId ts
  if !whitelist.isEmpty && (dump whitelist).isNone then
    ofExcept (.error .json)
  let _ ← MysqlConnectionPool.commitTransaction driver
  return true

private theorem grayscaleBlock_run (dump : List String → Option String)
    (namespaceId releaseNote operatorId : String) (whitelist : List String) (ts : ClockReading)
    {n : Nat} (h : s.pool.length = n + 1) :
    (∃ s', grayscaleBlock driver dump namespaceId releaseNote operatorId whitelist ts s =
        (.returned true, s') ∧ s'.pool.length = n) ∨
      ∃ e s', grayscaleBlock driver dump namespaceId releaseNote operatorId whitelist ts s =
        (.thrown e, s') ∧ s'.pool.length = n + 1 := by
  obtain ⟨conn, pool, hpool⟩ := cons_of_length h
  have hpublish : Restores
      (MysqlConnectionPool.publishRelease driver namespaceId releaseNote operatorId ts) s := by
    apply restores_of_ignore
    change Restores ((PoolCall.publishRelease namespaceId releaseNote operatorId ts).exec driver) s
    exact restores_exec (fun _ ↦ nofun) hpool True.intro
  have hlength := hpublish.perm.length_eq.trans h
  unfold grayscaleBlock
  rcases hrun : MysqlConnectionPool.publishRelease driver namespaceId releaseNote operatorId ts s
    with ⟨published | e | _, s'⟩
  · rw [hrun] at hlength
    rw [bind_run_returned hrun]
    by_cases hjson : (!whitelist.isEmpty && (dump whitelist).isNone) = true
    · exact .inr ⟨.json, s', by rw [if_pos hjson]; rfl, hlength⟩
    · obtain ⟨conn', pool', hpool'⟩ := cons_of_length hlength
      obtain ⟨r, hr⟩ := run_transactionCall driver.commit true hpool'
      refine .inl ⟨_, by rw [if_neg hjson]; exact hr, ?_⟩
      rw [hpool'] at hlength
      exact Nat.succ.inj hlength
  · rw [hrun] at hlength
    exact .inr ⟨e, s', bind_run_thrown hrun _, hlength⟩
  · exact absurd (by rw [hrun]) hpublish.ends

-- The block and its handler: one of them ends the transaction on a connection of its own.
private theorem costs_grayscaleBlock (dump : List String → Option String)
    (namespaceId releaseNote operatorId : String) (whitelist : List String) (ts : ClockReading)
    {n : Nat} (h : s.pool.length = n + 1) :
    Costs 1 (tryCatch
      (grayscaleBlock driver dump namespaceId releaseNote operatorId whitelist ts)
      (do
        let _ ← MysqlConnectionPool.rollbackTransaction driver
        return false)) s := by
  rcases grayscaleBlock_run dump namespaceId releaseNote operatorId whitelist ts h
    with ⟨s', hrun, hlength⟩ | ⟨e, s', hrun, hlength⟩
  · refine costs_tryCatch_returned (costs_of_run hrun nofun ?_) hrun _
    rw [hlength, h]
  · obtain ⟨conn, pool, hpool⟩ := cons_of_length hlength
    obtain ⟨r, hr⟩ := run_transactionCall driver.rollback false hpool
    refine costs_tryCatch_thrown (m := 0) (n := 1)
      (costs_of_run hrun nofun (hlength.trans h.symm)) hrun ?_
    exact costs_of_run hr nofun (by rw [hpool]; rfl)

variable (driver) in
private theorem beginTransaction_run {conn : Nat} {pool : List Nat} (h : s.pool = conn :: pool) :
    ∃ ok t, MysqlConnectionPool.beginTransaction driver s = (.returned ok, { pool, rest := t }) :=
  ⟨_, _, bind_run_returned (acquire_run h) _⟩

private theorem costs_publishGrayscale (dump : List String → Option String)
    (namespaceId releaseNote operatorId : String) (whitelist : List String) (ts : ClockReading)
    (h : 2 ≤ s.pool.length) :
    Costs 2 (MysqlConnectionPool.publishGrayscale driver dump namespaceId releaseNote operatorId
      whitelist ts) s := by
  obtain ⟨n, hn⟩ := Nat.exists_eq_add_of_le' h
  obtain ⟨conn, pool, hpool⟩ := cons_of_length (n := n + 1) hn
  obtain ⟨ok, t, hbegin⟩ := beginTransaction_run driver hpool
  have hlength : pool.length = n + 1 := by
    rw [hpool] at hn
    exact Nat.succ.inj hn
  refine costs_bind (m := 1) (n := 1) (costs_of_run hbegin nofun (by rw [hpool]; rfl)) hbegin ?_
  exact costs_grayscaleBlock dump namespaceId releaseNote operatorId whitelist ts
    (s := { pool, rest := t }) hlength

private theorem blocked_publishGrayscale (dump : List String → Option String)
    (namespaceId releaseNote operatorId : String) (whitelist : List String) (ts : ClockReading)
    (h : s.pool.length < 2) :
    (MysqlConnectionPool.publishGrayscale driver dump namespaceId releaseNote operatorId
      whitelist ts s).1 = .blocked := by
  cases hpool : s.pool with
  | nil => exact needs_bind (needs_bind needs_acquire _) _ s hpool
  | cons conn pool =>
    obtain ⟨ok, t, hbegin⟩ := beginTransaction_run driver hpool
    have hempty : pool = [] := by
      rw [hpool, List.length_cons] at h
      exact List.eq_nil_of_length_eq_zero (by omega)
    unfold MysqlConnectionPool.publishGrayscale
    rw [bind_run_returned hbegin]
    exact blocked_tryCatch (needs_bind (needs_bind needs_acquire _) _ { pool, rest := t } hempty) _

/-! ### Calls -/

-- The call is one of `publishGrayscale`.
private def IsGrayscale (call : PoolCall) : Prop :=
  ∃ dump namespaceId releaseNote operatorId whitelist ts,
    call = .publishGrayscale dump namespaceId releaseNote operatorId whitelist ts

private theorem need_le_one {call : PoolCall} (h : ¬ call.IsGrayscale) : call.need ≤ 1 := by
  cases call with
  | publishGrayscale => exact absurd ⟨_, _, _, _, _, _, rfl⟩ h
  | initializeStore => exact Nat.zero_le 1
  | _ => exact Nat.le_refl 1

/-- A call with too few connections never ends. -/
theorem blocked_exec {call : PoolCall} (h : s.pool.length < call.need) :
    (call.exec driver s).1 = .blocked := by
  by_cases hgray : call.IsGrayscale
  · obtain ⟨dump, namespaceId, releaseNote, operatorId, whitelist, ts, rfl⟩ := hgray
    exact blocked_ignore.mpr (blocked_publishGrayscale _ _ _ _ _ _ h)
  · have hempty : s.pool = [] := by
      have hneed := need_le_one hgray
      exact List.eq_nil_of_length_eq_zero (by omega)
    refine needs_exec (fun connectionString hcall ↦ ?_) s hempty
    subst hcall
    exact absurd h (Nat.not_lt_zero _)

private theorem within_exec {call : PoolCall} (hgray : ¬ call.IsGrayscale)
    (hkeeps : ¬ call.Keeps driver s) : Within 1 1 (call.exec driver) := by
  cases call with
  | publishGrayscale => exact absurd ⟨_, _, _, _, _, _, rfl⟩ hgray
  | beginTransaction | commitTransaction | rollbackTransaction =>
    exact within_ignore (within_bind_acquire fun _ ↦ within_of_still fun _ ↦ ⟨nofun, rfl⟩)
  | updateConfig => exact within_ignore (within_updateConfig _ _ _ _ _ _)
  | rollbackConfig => exact within_ignore (within_rollbackConfig _ _ _ _ _)
  | createRelease => exact within_ignore (within_insertion _ _ _)
  | createApproval => exact within_ignore (within_insertion _ _ _)
  | _ => exact absurd True.intro hkeeps

open Classical in
private theorem cost_eq {call : PoolCall} (hgray : ¬ call.IsGrayscale) :
    call.cost driver s = if call.Keeps driver s then 0 else 1 := by
  cases call with
  | publishGrayscale => exact absurd ⟨_, _, _, _, _, _, rfl⟩ hgray
  | _ => rfl

variable (driver) in
/-- Every other call but `initialize` ends and loses what it costs. -/
theorem costs_exec {call : PoolCall}
    (hopen : ∀ connectionString, call ≠ .initializeStore connectionString)
    (h : call.need ≤ s.pool.length) : Costs (call.cost driver s) (call.exec driver) s := by
  by_cases hgray : call.IsGrayscale
  · obtain ⟨dump, namespaceId, releaseNote, operatorId, whitelist, ts, rfl⟩ := hgray
    exact costs_ignore (costs_publishGrayscale _ _ _ _ _ _ h)
  · have hneed : 1 ≤ s.pool.length := by
      cases call with
      | initializeStore connectionString => exact absurd rfl (hopen connectionString)
      | publishGrayscale => exact absurd ⟨_, _, _, _, _, _, rfl⟩ hgray
      | _ => exact h
    obtain ⟨conn, pool, hpool⟩ := cons_of_length (Nat.sub_add_cancel hneed).symm
    rw [cost_eq hgray]
    by_cases hkeeps : call.Keeps driver s
    · rw [if_pos hkeeps]
      exact costs_of_restores (restores_exec hopen hpool hkeeps)
    · rw [if_neg hkeeps]
      exact costs_of_loses (loses_exec hpool hkeeps) (within_exec hgray hkeeps) hneed

variable (driver) in
/-- `initialize` throws without touching the pool, or opens a new one. -/
theorem initializeStore_exec (connectionString : String) (s : MysqlStore δ) :
    ((PoolCall.initializeStore connectionString).exec driver s).1 ≠ .blocked ∧
      ((hostAndPort connectionString.toList (findFrom '/' connectionString.toList 0)).isOk = true →
        ((PoolCall.initializeStore connectionString).exec driver s).2.pool.length = poolSize) ∧
      ((hostAndPort connectionString.toList (findFrom '/' connectionString.toList 0)).isOk = false →
        ((PoolCall.initializeStore connectionString).exec driver s).2.pool = s.pool) := by
  unfold PoolCall.exec
  rw [Ne, blocked_ignore, pool_ignore]
  unfold MysqlConnectionPool.initializeStore
  dsimp only
  cases hostAndPort connectionString.toList (findFrom '/' connectionString.toList 0) with
  | error e => exact ⟨nofun, nofun, fun _ ↦ rfl⟩
  | ok p => exact ⟨nofun, fun _ ↦ rfl, nofun⟩

end
end PoolCall

/-! ### Runs of one client -/

namespace Session
open MysqlConnectionPool PoolM

variable {δ : Type} (driver : Driver δ)

/-- Connections of the pool that are lost after a call, from those lost before it. Nothing of
a pool that `initialize` opens is lost yet. -/
noncomputable def lost (session : Session δ) (n : Nat) (call : PoolCall) : Nat :=
  match session, call with
  | .waiting, _ => n
  | .ready _, .initializeStore connectionString =>
    if (hostAndPort connectionString.toList (findFrom '/' connectionString.toList 0)).isOk then 0
    else n
  | .ready s, call => n + call.cost driver s

/-- One call, and the account of lost connections. -/
noncomputable def accountStep (account : Session δ × Nat) (call : PoolCall) : Session δ × Nat :=
  (step driver account.1 call, lost driver account.1 account.2 call)

/-- Connections that are lost after calls on a pool that was whole before them. -/
noncomputable def lostAfter (s : MysqlStore δ) (calls : List PoolCall) : Nat :=
  (run (accountStep driver) (.ready s, 0) calls).2

/-- The account is right: what the pool holds and what is lost make up the whole pool. -/
def Balanced (account : Session δ × Nat) : Prop :=
  ∀ s, account.1 = .ready s → s.pool.length + account.2 = poolSize

/-- The next call finds the connections that it needs. -/
def Enough (account : Session δ × Nat) (call : PoolCall) : Prop :=
  account.2 + call.need ≤ poolSize

/-- A waiting client waits for ever. -/
theorem run_waiting (calls : List PoolCall) :
    run (step driver) .waiting calls = .waiting := by
  induction calls with
  | nil => rfl
  | cons call calls ih => exact ih

/-- The account follows the run. -/
theorem run_accountStep_fst (account : Session δ × Nat) (calls : List PoolCall) :
    (run (accountStep driver) account calls).1 = run (step driver) account.1 calls := by
  induction calls generalizing account with
  | nil => rfl
  | cons call calls ih => exact ih (accountStep driver account call)

/-- A call that finds what it needs ends, and the account stays right. -/
theorem balanced_step {s : MysqlStore δ} {n : Nat} {call : PoolCall}
    (h : Balanced (.ready s, n)) (henough : Enough (δ := δ) (.ready s, n) call) :
    ∃ s', accountStep driver (.ready s, n) call = (.ready s', lost driver (.ready s) n call) ∧
      Balanced (.ready s', lost driver (.ready s) n call) := by
  have hwhole : s.pool.length + n = poolSize := h s rfl
  by_cases hopen : ∃ connectionString, call = .initializeStore connectionString
  · obtain ⟨connectionString, rfl⟩ := hopen
    obtain ⟨hends, hok, hthrows⟩ := PoolCall.initializeStore_exec driver connectionString s
    refine ⟨_, Prod.ext (step_of_ends driver hends) rfl, ?_⟩
    intro s' hs'
    cases hs'
    by_cases hparsed : (hostAndPort connectionString.toList
        (findFrom '/' connectionString.toList 0)).isOk = true
    · simp only [lost, if_pos hparsed]
      exact hok hparsed
    · simp only [lost, if_neg hparsed]
      rw [hthrows (Bool.not_eq_true _ ▸ hparsed)]
      exact hwhole
  · have hneed : call.need ≤ s.pool.length := by
      have hle : n + call.need ≤ poolSize := henough
      omega
    obtain ⟨hends, hlength⟩ := PoolCall.costs_exec driver (not_exists.mp hopen) hneed
    have hlost : lost driver (.ready s) n call = n + call.cost driver s := by
      cases call with
      | initializeStore connectionString => exact absurd ⟨connectionString, rfl⟩ hopen
      | _ => rfl
    refine ⟨_, Prod.ext (step_of_ends driver hends) rfl, ?_⟩
    intro s' hs'
    cases hs'
    rw [hlost]
    omega

/-- A call that does not find what it needs leaves the client waiting. -/
theorem waiting_step {s : MysqlStore δ} {n : Nat} {call : PoolCall}
    (h : Balanced (.ready s, n)) (henough : ¬ Enough (δ := δ) (.ready s, n) call) :
    step driver (.ready s) call = .waiting := by
  have hwhole : s.pool.length + n = poolSize := h s rfl
  have hlt : ¬ n + call.need ≤ poolSize := henough
  exact step_of_blocked driver (PoolCall.blocked_exec (by omega))

/-- From a right account the client gets through a run exactly when every call of it finds the
connections it needs, and then the account is right again. -/
theorem ready_iff_along_enough {s : MysqlStore δ} {n : Nat} (h : Balanced (.ready s, n))
    (calls : List PoolCall) :
    (run (step driver) (.ready s) calls ≠ .waiting ↔
        Along (accountStep driver) Enough (.ready s, n) calls) ∧
      Balanced (run (accountStep driver) (.ready s, n) calls) := by
  induction calls generalizing s n with
  | nil => exact ⟨⟨fun _ ↦ True.intro, fun _ ↦ nofun⟩, h⟩
  | cons call calls ih =>
    by_cases henough : Enough (.ready s, n) call
    · obtain ⟨s', hstep, hbalanced⟩ := balanced_step driver h henough
      obtain ⟨hiff, hend⟩ := ih hbalanced
      have hready : step driver (.ready s) call = .ready s' := congrArg Prod.fst hstep
      rw [run_cons, run_cons, along_cons, hstep, hready]
      exact ⟨⟨fun hrun ↦ ⟨henough, hiff.mp hrun⟩, fun hrun ↦ hiff.mpr hrun.2⟩, hend⟩
    · have hwaiting := waiting_step driver h henough
      have hrun : run (step driver) (.ready s) (call :: calls) = .waiting := by
        rw [run_cons, hwaiting, run_waiting]
      refine ⟨⟨fun hne ↦ absurd hrun hne, fun hrun ↦ absurd hrun.1 henough⟩, ?_⟩
      intro s' hs'
      rw [run_accountStep_fst, hrun] at hs'
      cases hs'

private theorem length_of_initializeStore {connectionString : String} {s s' : MysqlStore δ}
    (hinit : initializeStore driver connectionString s = (.returned true, s')) :
    s'.pool.length = poolSize := by
  unfold MysqlConnectionPool.initializeStore at hinit
  dsimp only at hinit
  cases hhost : hostAndPort connectionString.toList
      (findFrom '/' connectionString.toList 0) with
  | error e =>
    rw [hhost] at hinit
    exact nomatch congrArg Prod.fst hinit
  | ok p =>
    rw [hhost] at hinit
    exact (congrArg (fun r ↦ r.2.pool.length) hinit).symm

/-- After `initialize` returned, a client is left waiting for ever exactly when some call needs
more connections than the calls before it left of the ten; until then the pool holds exactly
what is not lost. -/
theorem waiting_iff_lostAfter {connectionString : String} {server : δ} {s : MysqlStore δ}
    (hinit : initializeStore driver connectionString { pool := [], rest := { server } } =
      (.returned true, s)) (calls : List PoolCall) :
    (run (step driver) (.ready s) calls = .waiting ↔
        ∃ pre call post, calls = pre ++ call :: post ∧
          poolSize < lostAfter driver s pre + call.need) ∧
      ∀ s', run (step driver) (.ready s) calls = .ready s' →
        s'.pool.length + lostAfter driver s calls = poolSize := by
  have hwhole : Balanced (Session.ready s, 0) := by
    intro s' hs'
    cases hs'
    exact length_of_initializeStore driver hinit
  obtain ⟨hiff, hbalanced⟩ := ready_iff_along_enough driver hwhole calls
  refine ⟨?_, fun s' hrun ↦ hbalanced s' ((run_accountStep_fst driver _ calls).trans hrun)⟩
  rw [← not_iff_not, ← Ne, hiff, along_iff_forall_split]
  constructor
  · rintro h ⟨pre, call, post, hcalls, hlt⟩
    exact absurd (h pre call post hcalls) (not_le_of_gt hlt)
  · intro h pre call post hcalls
    by_contra henough
    exact h ⟨pre, call, post, hcalls, lt_of_not_ge henough⟩

/-- Eleven transactions of which none is given up. -/
theorem waiting_iff_lostAfter_transactions :
    initializeStore echoDriver "db/root:pw@center" { pool := [], rest := { server := () } } =
      (.returned true, echoStore) ∧
    (run (step echoDriver) (.ready echoStore) (List.replicate 11 .beginTransaction) = .waiting ↔
        ∃ pre call post, List.replicate 11 PoolCall.beginTransaction = pre ++ call :: post ∧
          poolSize < lostAfter echoDriver echoStore pre + call.need) ∧
      ∀ s', run (step echoDriver) (.ready echoStore) (List.replicate 11 .beginTransaction) =
          .ready s' →
        s'.pool.length + lostAfter echoDriver echoStore (List.replicate 11 .beginTransaction) =
          poolSize := by
  have hinit : initializeStore echoDriver "db/root:pw@center"
      { pool := [], rest := { server := () } } = (.returned true, echoStore) := rfl
  exact ⟨hinit, waiting_iff_lostAfter echoDriver hinit _⟩

end Session
end ConfigCenter.Storage
