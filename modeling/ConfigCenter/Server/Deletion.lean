import ConfigCenter.Storage.Effects
import ConfigCenter.Publish.PublishEngine
import ConfigCenter.Server.HttpSession
import ConfigCenter.Server.GrpcService

/-!
# Delete requests and publication

Library `Server`. A delete request, any calls that leave the key alone, and a
publication of the namespace. Both handlers delete as a draft, which removes a
draft row and leaves a live one where it is, so the publication finds a deleted
key gone exactly when it was not published before.
-/

namespace ConfigCenter.Storage
open ConfigCenter.Base StorageM

/-- The call writes the key: a write of its own, or a transaction rollback that brings
back another row. -/
def Call.writesKey (ns key : String) (db : Database) : Call → Prop
  | .rollbackTransaction =>
    ∃ t, db.snapshot = some t ∧ t.ledger.row? ns key ≠ db.ledger.row? ns key
  | c => c.pair? = some (ns, key)

/-- A call that does not write the key neither removes nor brings back its row. -/
theorem isSome_row?_step {db : Database} {e : Event} {ns key : String}
    (h : ¬ e.2.writesKey ns key db) :
    ((step db e).ledger.row? ns key).isSome = (db.ledger.row? ns key).isSome := by
  obtain ⟨ts, c⟩ := e
  cases ht : c.isTransactional with
  | false =>
    have hp : (c.edit db ts).pair? ≠ some (ns, key) := by
      intro he
      apply h
      cases c with
      | beginTransaction | commitTransaction | rollbackTransaction => cases ht
      | _ => exact pair?_edit he
    rw [(ledger_step db ts c ht).1, Ledger.row?_apply_of_ne _ hp, Option.isSome_map]
  | true =>
    cases c with
    | beginTransaction =>
      cases hs : db.snapshot <;>
        simp [step, respond, Call.exec, hs, noFaults, Database.ledger]
    | commitTransaction =>
      cases hs : db.snapshot <;>
        simp [step, respond, Call.exec, hs, noFaults, Database.ledger]
    | rollbackTransaction =>
      cases hs : db.snapshot with
      | none => simp [step, respond, Call.exec, hs]
      | some t =>
        have hr : t.ledger.row? ns key = db.ledger.row? ns key := by
          by_contra hne
          exact h ⟨t, hs, hne⟩
        rw [← hr]
        simp [step, respond, Call.exec, hs, Database.ledger]
    | _ => cases ht

end ConfigCenter.Storage

namespace ConfigCenter.Server
open ConfigCenter.Storage ConfigCenter.Base StorageM

/-- A request to delete the key. -/
inductive DeleteRequest where
  | http
  | grpc (operatorId : String)
  deriving DecidableEq, Repr

/-- The handler of a delete request, with whether it reports success: HTTP does so by
returning at all, gRPC in the `success` field. -/
def DeleteRequest.handle (ns key : String) (ts : Timestamp) : DeleteRequest → StorageM Bool
  | .http => do
    let _ ← HttpSession.handleDeleteConfig ns key ts
    return true
  | .grpc operatorId => do
    let (_, success) ← GrpcService.deleteConfig ns key operatorId ts
    return success

/-- No reader finds the key. -/
structure KeyGone (ns key : String) (db : Database) : Prop where
  getConfig : ∀ includeDraft,
    (SqliteConfigStore.getConfig ns key includeDraft noFaults db).1 = .ok none
  listConfigs : ∀ includeDraft rows,
    (SqliteConfigStore.listConfigs ns includeDraft noFaults db).1 = .ok rows →
      ∀ c ∈ rows, c.key ≠ key

/-- The key is gone exactly when it has no row. -/
theorem keyGone_iff (ns key : String) (db : Database) :
    KeyGone ns key db ↔ db.ledger.row? ns key = none := by
  constructor
  · intro h
    have hg := h.getConfig true
    rw [getConfig_run, Ledger.config?_true] at hg
    exact Except.ok.inj hg
  · intro h
    constructor
    · intro includeDraft
      simp [getConfig_run, Ledger.config?, h]
    · intro includeDraft rows hl c hc hk
      rw [listConfigs_run] at hl
      cases hl
      obtain ⟨hm, hn⟩ := List.mem_filter.mp hc
      simp only [decide_eq_true_eq] at hn
      have hr := Ledger.row?_of_mem hm
      rw [hn.1, hk, h] at hr
      cases hr

-- Both handlers perform the same draft deletion.
private theorem row?_handle (ns key : String) (ts : Timestamp) (request : DeleteRequest)
    (db : Database) :
    (request.handle ns key ts noFaults db).2.ledger.row? ns key =
      db.ledger.config? ns key false := by
  have hd (op : String) : (db.ledger.apply (.delete ns key op true ts)).row? ns key =
      db.ledger.config? ns key false := by
    rw [Ledger.row?_delete, if_pos ⟨rfl, rfl⟩]
    simp [Ledger.config?]
  cases request with
  | http =>
    simp only [DeleteRequest.handle, bind_run, HttpSession.handleDeleteConfig_run, pure_run]
    exact hd _
  | grpc op =>
    simp only [DeleteRequest.handle, bind_run, GrpcService.deleteConfig_run, pure_run]
    exact hd _

private theorem isSome_row?_publishRelease (ns key note op : String) (ts : Timestamp)
    (db : Database) :
    ((SqliteConfigStore.publishRelease ns note op ts noFaults db).2.ledger.row? ns key).isSome =
      (db.ledger.row? ns key).isSome := by
  have hw : ¬ (Call.publishRelease ns note op).writesKey ns key db := by
    simp [Call.writesKey, Call.pair?]
  have hs : ((step db (ts, .publishRelease ns note op)).ledger.row? ns key).isSome =
      (db.ledger.row? ns key).isSome := isSome_row?_step hw
  rw [← hs]
  simp only [step, respond, Call.exec, map_run]
  split <;> next h => rw [h]

/-- After an answered delete request, calls that leave the key alone and a successful
publication, the key is gone exactly when it had no published row at the delete. -/
theorem keyGone_iff_unpublished (ns key note op : String) (ts t : Timestamp)
    (request : DeleteRequest) (db : Database) (es : List Event) :
    let deleted := request.handle ns key ts noFaults db
    let published := SqliteConfigStore.publishRelease ns note op t noFaults
      (run step deleted.2 es)
    deleted.1 = .ok true → Along step (fun d e ↦ ¬ e.2.writesKey ns key d) deleted.2 es →
    (∃ release, published.1 = .ok (true, release)) →
      (KeyGone ns key published.2 ↔
        (SqliteConfigStore.getConfig ns key false noFaults db).1 = .ok none) := by
  intro deleted published _ hes _
  have hrun : ((run step deleted.2 es).ledger.row? ns key).isSome =
      (deleted.2.ledger.row? ns key).isSome :=
    run_invariant_along (I := fun d ↦ (d.ledger.row? ns key).isSome =
      (deleted.2.ledger.row? ns key).isSome) rfl
      (fun d e hi he ↦ (isSome_row?_step he).trans hi) hes
  have hfinal := (isSome_row?_publishRelease ns key note op t _).trans hrun
  rw [row?_handle] at hfinal
  rw [keyGone_iff, getConfig_run]
  simp only [Except.ok.injEq]
  rw [← Option.not_isSome_iff_eq_none, ← Option.not_isSome_iff_eq_none, hfinal]

/-- A draft is deleted over gRPC, another key is created and published in between. -/
theorem keyGone_iff_unpublished_draft :
    let db := run step Database.empty [("t1", .createConfig "ns" "timeout" "30" "alice")]
    let deleted := (DeleteRequest.grpc "bob").handle "ns" "timeout" "t2" noFaults db
    let published := SqliteConfigStore.publishRelease "ns" "" "alice" "t5" noFaults
      (run step deleted.2 [("t3", .createConfig "ns" "retries" "5" "alice"),
        ("t4", .publishRelease "ns" "" "alice")])
    KeyGone "ns" "timeout" published.2 ↔
      (SqliteConfigStore.getConfig "ns" "timeout" false noFaults db).1 = .ok none :=
  keyGone_iff_unpublished "ns" "timeout" "" "alice" "t2" "t5" (.grpc "bob") _ _ rfl
    (by simp [Call.writesKey, Call.pair?]) ⟨_, rfl⟩

/-- A published key survives its deletion: the publication that follows leaves it live. -/
theorem not_keyGone_of_published :
    ¬ ∀ (ns key note op : String) (ts t : Timestamp) (request : DeleteRequest)
      (db : Database) (es : List Event), Reachable step Database.empty db →
      let deleted := request.handle ns key ts noFaults db
      let published := SqliteConfigStore.publishRelease ns note op t noFaults
        (run step deleted.2 es)
      deleted.1 = .ok true → Along step (fun d e ↦ ¬ e.2.writesKey ns key d) deleted.2 es →
      (∃ release, published.1 = .ok (true, release)) → KeyGone ns key published.2 := by
  intro h
  have hg := h "ns" "timeout" "" "alice" "t3" "t4" .http
    (run step Database.empty [("t1", .createConfig "ns" "timeout" "30" "alice"),
      ("t2", .publishRelease "ns" "" "alice")]) [] ⟨_, rfl⟩ rfl True.intro ⟨_, rfl⟩
  exact absurd (hg.getConfig false) (by decide)

end ConfigCenter.Server
