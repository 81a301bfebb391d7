import ConfigCenter.Base.Run
import ConfigCenter.Publish.PublishEngine

/-!
# Approval decisions

Library `Publish`. Submissions, approvals and rejections in any order. A decision
is a bulk update by id that reads neither whether the approval exists nor its
status, and always reports success; decisions are therefore final exactly in the
runs whose callers only ever decide a pending approval.
-/

namespace ConfigCenter.Publish
open ConfigCenter.Storage ConfigCenter.Base StorageM

/-- Calls of the approval workflow. -/
inductive ApprovalCall where
  | submitForApproval (namespaceId submitterId : String)
  | approve (approvalId : Int) (approverId comment : String)
  | reject (approvalId : Int) (approverId comment : String)
  deriving DecidableEq, Repr

namespace ApprovalCall

/-- Run a call at one clock reading. -/
def exec (ts : Timestamp) : ApprovalCall → StorageM Bool
  | .submitForApproval ns submitter => Prod.fst <$> PublishEngine.submitForApproval ns submitter
  | .approve approvalId approver comment => PublishEngine.approve approvalId approver comment ts
  | .reject approvalId approver comment => PublishEngine.reject approvalId approver comment ts

/-- The approval that a call decides. -/
def decided? : ApprovalCall → Option Int
  | .submitForApproval _ _ => none
  | .approve approvalId _ _ | .reject approvalId _ _ => some approvalId

end ApprovalCall

/-- The answer of one call without storage failures. -/
def approvalAnswer (db : Database) (e : Timestamp × ApprovalCall) : Except Thrown Bool :=
  (e.2.exec e.1 noFaults db).1

/-- The database after one call without storage failures. -/
def approvalStep (db : Database) (e : Timestamp × ApprovalCall) : Database :=
  (e.2.exec e.1 noFaults db).2

/-- Status, comment and time of the decision on an approval, if it is stored. -/
def decision? (db : Database) (approvalId : Int) : Option (String × String × Timestamp) :=
  (db.tables.approvals.find? approvalId).map fun a ↦ (a.status, a.comment, a.updatedAt)

/-- The approval is stored and waits for a decision. -/
def Waits (db : Database) (a : Approval) : Prop :=
  a ∈ db.tables.approvals.rows ∧ a.status = "pending"

/-- An approval with this id waits for a decision. -/
def Pending (db : Database) (approvalId : Int) : Prop :=
  ∃ a, Waits db a ∧ a.id = approvalId

/-- A run decides finally: a decision is answered with `true` only for a pending approval, no
later call changes it again, and a decision on an id that is not stored is answered `false`. -/
def DecidesFinally (db : Database) (es : List (Timestamp × ApprovalCall)) : Prop :=
  ∀ pre e post approvalId, es = pre ++ e :: post → e.2.decided? = some approvalId →
    let before := run approvalStep db pre
    let after := approvalStep before e
    (approvalAnswer before e = .ok true → Pending before approvalId ∧
      ∀ mid, mid <+: post →
        decision? (run approvalStep after mid) approvalId = decision? after approvalId) ∧
    (before.tables.approvals.find? approvalId = none → approvalAnswer before e = .ok false)

/-- A call that decides an approval finds it pending. -/
def DecidesPending (db : Database) (e : Timestamp × ApprovalCall) : Prop :=
  ∀ approvalId, e.2.decided? = some approvalId → Pending db approvalId

/-! ### One call -/

variable {db : Database} {e : Timestamp × ApprovalCall} {approvalId : Int}

private theorem pending_iff_find? : Pending db approvalId ↔
    ∃ a, db.tables.approvals.find? approvalId = some a ∧ a.status = "pending" := by
  simp only [Pending, Waits, SerialTable.find?_eq_some_iff, and_right_comm]

/-- Every decision is answered with `true`. -/
theorem approvalAnswer_decided (h : e.2.decided? = some approvalId) :
    approvalAnswer db e = .ok true := by
  obtain ⟨ts, c⟩ := e
  cases c with
  | submitForApproval _ _ => cases h
  | approve _ _ _ | reject _ _ _ => rfl

private theorem find?_updateApprovalStatus (approvalId : Int) (status comment : String)
    (ts : Timestamp) (db : Database) (id : Int) :
    (SqliteConfigStore.updateApprovalStatus approvalId status comment ts
      noFaults db).2.tables.approvals.find? id = (db.tables.approvals.find? id).map fun a ↦
        if a.id = approvalId then { a with status, comment, updatedAt := ts } else a := by
  have hmap := SerialTable.find?_mapWhere db.tables.approvals (fun a ↦ a.id = approvalId)
    (fun a ↦ { a with status, comment, updatedAt := ts }) (fun _ ↦ rfl) id
  simp only [decide_eq_true_eq] at hmap
  exact hmap

/-- A decision writes its status to the approval with its id, if there is one. -/
theorem find?_approvalStep_decided (db : Database) (h : e.2.decided? = some approvalId) :
    ∃ status comment, status ≠ "pending" ∧ ∀ id,
      (approvalStep db e).tables.approvals.find? id = (db.tables.approvals.find? id).map fun a ↦
        if a.id = approvalId then { a with status, comment, updatedAt := e.1 } else a := by
  obtain ⟨ts, c⟩ := e
  cases c with
  | submitForApproval _ _ => cases h
  | approve approvalId approver comment =>
    cases h
    exact ⟨"approved", comment, by decide, find?_updateApprovalStatus _ _ _ _ db⟩
  | reject approvalId approver comment =>
    cases h
    exact ⟨"rejected", comment, by decide, find?_updateApprovalStatus _ _ _ _ db⟩

/-- A stored approval that is not the one a call decides is left alone. -/
theorem find?_approvalStep_of_ne {a : Approval} (h : e.2.decided? ≠ some approvalId)
    (ha : db.tables.approvals.find? approvalId = some a) :
    (approvalStep db e).tables.approvals.find? approvalId = some a := by
  obtain ⟨hmem, hid⟩ := (SerialTable.find?_eq_some_iff _ _ _).mp ha
  cases hd : e.2.decided? with
  | some other =>
    obtain ⟨status, comment, _, hfind⟩ := find?_approvalStep_decided db hd
    have hne : a.id ≠ other := by
      intro heq
      exact h (by rw [hd, ← heq, hid])
    rw [hfind, ha, Option.map_some, if_neg hne]
  | none =>
    obtain ⟨ts, c⟩ := e
    cases c with
    | approve _ _ _ | reject _ _ _ => cases hd
    | submitForApproval ns submitter =>
      have hlt := SerialTable.id_lt_nextId hmem
      refine (SerialTable.find?_append ..).trans ?_
      rw [if_neg (by omega), ha]

/-! ### Runs -/

-- A decided approval is no longer pending, so the calls that follow leave it as it is.
private theorem find?_run_of_decided {a : Approval} {es : List (Timestamp × ApprovalCall)}
    (ha : db.tables.approvals.find? approvalId = some a) (hstatus : a.status ≠ "pending")
    (hes : Along approvalStep DecidesPending db es) :
    (run approvalStep db es).tables.approvals.find? approvalId = some a := by
  refine run_invariant_along
    (I := fun d ↦ d.tables.approvals.find? approvalId = some a) ha (fun d e hd he ↦ ?_) hes
  refine find?_approvalStep_of_ne (fun hdecided ↦ ?_) hd
  obtain ⟨b, hb, hpending⟩ := pending_iff_find?.mp (he approvalId hdecided)
  rw [hd] at hb
  cases hb
  exact hstatus hpending

/-- The decisions of a run are final exactly when each of them finds its approval pending. -/
theorem decidesFinally_iff_along (db : Database) (es : List (Timestamp × ApprovalCall)) :
    DecidesFinally db es ↔ Along approvalStep DecidesPending db es := by
  constructor
  · intro h
    rw [along_iff_forall_split]
    intro pre e post hes approvalId hd
    exact ((h pre e post approvalId hes hd).1 (approvalAnswer_decided hd)).1
  · rintro ha pre e post approvalId rfl hd
    obtain ⟨_, hpending, hpost⟩ := (along_append approvalStep DecidesPending db pre _).mp ha
    obtain ⟨a, hfound, hstatus⟩ := pending_iff_find?.mp (hpending approvalId hd)
    refine ⟨fun _ ↦ ⟨hpending approvalId hd, ?_⟩, fun hnone ↦ ?_⟩
    · rintro mid ⟨rest, rfl⟩
      obtain ⟨status, comment, hne, hfind⟩ :=
        find?_approvalStep_decided (run approvalStep db pre) hd
      have hafter := hfind approvalId
      rw [hfound, Option.map_some, if_pos ((SerialTable.find?_eq_some_iff _ _ _).mp hfound).2]
        at hafter
      have hmid := ((along_append approvalStep DecidesPending _ mid rest).mp hpost).1
      rw [decision?, decision?, find?_run_of_decided hafter hne hmid, hafter]
    · rw [hnone] at hfound
      cases hfound

/-- An approved request is rejected afterwards, and both calls are answered with `true`. -/
theorem not_decidesFinally_second_decision :
    ¬ ∀ es : List (Timestamp × ApprovalCall), DecidesFinally Database.empty es := by
  intro h
  have hfirst := h
    [("t1", .submitForApproval "shop" "alice"), ("t2", .approve 1 "bob" "fine"),
      ("t3", .reject 1 "carol" "no")]
    [("t1", .submitForApproval "shop" "alice")] ("t2", .approve 1 "bob" "fine")
    [("t3", .reject 1 "carol" "no")] 1 rfl rfl
  have hlater := (hfirst.1 rfl).2 [("t3", .reject 1 "carol" "no")] (List.prefix_refl _)
  exact absurd hlater (by decide)

end ConfigCenter.Publish
