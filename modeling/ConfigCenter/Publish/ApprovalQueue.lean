import ConfigCenter.Base.Provenance
import ConfigCenter.Publish.Approvals

/-!
# The queue of pending approvals

Library `Publish`. What `getPendingApprovals` lists after submissions and decisions in any
order: the submissions of the namespace that no later call decided, oldest first. A decision
that comes before its submission decides nothing.
-/

namespace ConfigCenter.Publish
open ConfigCenter.Storage ConfigCenter.Base StorageM

/-- The row of a submission. -/
def submittedApproval (namespaceId submitterId : String) (id : Int) : Approval :=
  { id, namespaceId, submitterId, status := "pending", createdAt := "" }

/-- Calls that submit an approval. -/
def ApprovalCall.submits : ApprovalCall → Bool
  | .submitForApproval _ _ => true
  | .approve _ _ _ | .reject _ _ _ => false

/-- The call stores this approval. -/
def Submits (db : Database) (e : Timestamp × ApprovalCall) (a : Approval) : Prop :=
  e.2 = .submitForApproval a.namespaceId a.submitterId ∧
    a = submittedApproval a.namespaceId a.submitterId db.tables.approvals.nextId

/-- The call decides this approval. -/
def Decides (_ : Database) (e : Timestamp × ApprovalCall) (a : Approval) : Prop :=
  e.2.decided? = some a.id

variable {db : Database}

/-! ### One call -/

private theorem rows_submit (ts : Timestamp) (ns submitter : String) :
    (approvalStep db (ts, .submitForApproval ns submitter)).tables.approvals.rows =
      db.tables.approvals.rows ++
        [submittedApproval ns submitter db.tables.approvals.nextId] := rfl

private theorem approvals_decide (approvalId : Int) (status comment : String) (ts : Timestamp) :
    (SqliteConfigStore.updateApprovalStatus approvalId status comment ts
      noFaults db).2.tables.approvals =
      db.tables.approvals.mapWhere (fun a ↦ a.id = approvalId)
        (fun a ↦ { a with status, comment, updatedAt := ts }) (fun _ ↦ rfl) := rfl

private theorem waits_decide {approvalId : Int} {status comment : String} {ts : Timestamp}
    (hstatus : status ≠ "pending") (a : Approval) :
    Waits (SqliteConfigStore.updateApprovalStatus approvalId status comment ts noFaults db).2 a ↔
      Waits db a ∧ approvalId ≠ a.id := by
  rw [Waits, approvals_decide]
  constructor
  · rintro ⟨hmem, hpending⟩
    obtain ⟨b, hb, rfl⟩ := List.mem_map.mp hmem
    by_cases hid : b.id = approvalId
    · rw [if_pos (decide_eq_true hid)] at hpending
      exact absurd hpending hstatus
    · rw [if_neg (by simpa using hid)] at hpending ⊢
      exact ⟨⟨hb, hpending⟩, Ne.symm hid⟩
  · rintro ⟨⟨hmem, hpending⟩, hid⟩
    refine ⟨List.mem_map.mpr ⟨a, hmem, ?_⟩, hpending⟩
    rw [if_neg (by simpa using Ne.symm hid)]

/-- A call adds the approval it submits, and takes away the one it decides. -/
theorem waits_approvalStep (db : Database) (e : Timestamp × ApprovalCall) (a : Approval) :
    Waits (approvalStep db e) a ↔ Submits db e a ∨ Waits db a ∧ ¬ Decides db e a := by
  obtain ⟨ts, c⟩ := e
  have hother (hc : c.submits = false) : ¬ Submits db (ts, c) a := by
    rintro ⟨hcall, -⟩
    obtain rfl : c = .submitForApproval a.namespaceId a.submitterId := hcall
    cases hc
  cases c with
  | submitForApproval ns submitter =>
    have hdecides : ¬ Decides db (ts, .submitForApproval ns submitter) a := by
      intro h
      cases h
    have hsubmits : Submits db (ts, .submitForApproval ns submitter) a ↔
        a = submittedApproval ns submitter db.tables.approvals.nextId := by
      constructor
      · rintro ⟨hcall, ha⟩
        cases hcall
        exact ha
      · intro ha
        rw [ha]
        exact ⟨rfl, rfl⟩
    rw [Waits, rows_submit, List.mem_append, List.mem_singleton,
      hsubmits, and_iff_left hdecides, or_and_right, or_comm]
    refine or_congr_left (and_iff_left_of_imp ?_)
    intro ha
    rw [ha]
    rfl
  | approve approvalId approver comment | reject approvalId approver comment =>
    refine (waits_decide (by decide) a).trans ?_
    rw [or_iff_right (hother rfl), Decides, ApprovalCall.decided?, Option.some.injEq]

/-! ### Runs -/

/-- Ids are handed out in the order of the submissions. -/
theorem nextId_run (es : List (Timestamp × ApprovalCall)) :
    (run approvalStep .empty es).tables.approvals.nextId =
      (es.countP fun e ↦ e.2.submits : Nat) + 1 := by
  induction es using List.reverseRecOn with
  | nil => rfl
  | append_singleton es e ih =>
    rw [run_concat, List.countP_append]
    obtain ⟨ts, c⟩ := e
    cases c with
    | submitForApproval ns submitter =>
      change (run approvalStep .empty es).tables.approvals.nextId + 1 = _
      rw [ih]
      rfl
    | approve _ _ _ | reject _ _ _ => exact ih

private theorem along_not_decides {es : List (Timestamp × ApprovalCall)} {a : Approval} :
    Along approvalStep (fun t e ↦ ¬ Decides t e a) db es ↔
      ∀ e ∈ es, e.2.decided? ≠ some a.id := by
  induction es generalizing db with
  | nil => simp
  | cons e es ih =>
    rw [along_cons, ih, List.forall_mem_cons]
    rfl

private theorem stems_iff (es : List (Timestamp × ApprovalCall)) (a : Approval) :
    Stems approvalStep Submits Decides .empty es a ↔
      ∃ pre ts post, es = pre ++ (ts, .submitForApproval a.namespaceId a.submitterId) :: post ∧
        a = submittedApproval a.namespaceId a.submitterId
          ((pre.countP fun e ↦ e.2.submits : Nat) + 1) ∧
        ∀ e ∈ post, e.2.decided? ≠ some a.id := by
  constructor
  · rintro ⟨pre, ⟨ts, c⟩, post, rfl, ⟨hcall, ha⟩, hpost⟩
    obtain rfl : c = .submitForApproval a.namespaceId a.submitterId := hcall
    rw [nextId_run] at ha
    exact ⟨pre, ts, post, rfl, ha, along_not_decides.mp hpost⟩
  · rintro ⟨pre, ts, post, rfl, ha, hpost⟩
    refine ⟨pre, _, post, rfl, ⟨rfl, ?_⟩, along_not_decides.mpr hpost⟩
    rw [nextId_run]
    exact ha

/-- After any run of submissions and decisions on a new store, `getPendingApprovals` lists by
increasing id exactly the submissions of the namespace that no later call decided; the id of a
submission is its number among all submissions. -/
theorem getPendingApprovals_run (es : List (Timestamp × ApprovalCall)) (namespaceId : String) :
    ∃ l, (PublishEngine.getPendingApprovals namespaceId noFaults
        (run approvalStep .empty es)).1 = .ok l ∧
      l.Pairwise (fun a b ↦ a.id < b.id) ∧
      ∀ a, a ∈ l ↔ ∃ pre ts submitter post,
        es = pre ++ (ts, .submitForApproval namespaceId submitter) :: post ∧
        a = submittedApproval namespaceId submitter
          ((pre.countP fun e ↦ e.2.submits : Nat) + 1) ∧
        ∀ e ∈ post, e.2.decided? ≠ some a.id := by
  refine ⟨_, rfl, (run approvalStep .empty es).tables.approvals.increasing.filter _, ?_⟩
  intro a
  have hwaits := holds_run_iff_stems Waits (r := a) (s := Database.empty)
    (fun h ↦ absurd h.1 List.not_mem_nil) (fun db e ↦ waits_approvalStep db e a) es
  rw [stems_iff] at hwaits
  rw [List.mem_filter, decide_eq_true_eq]
  constructor
  · rintro ⟨hmem, rfl, hpending⟩
    obtain ⟨pre, ts, post, hes, ha, hpost⟩ := hwaits.mp ⟨hmem, hpending⟩
    exact ⟨pre, ts, a.submitterId, post, hes, ha, hpost⟩
  · rintro ⟨pre, ts, submitter, post, hes, ha, hpost⟩
    obtain ⟨rfl, rfl⟩ : a.namespaceId = namespaceId ∧ a.submitterId = submitter := by
      rw [ha]
      exact ⟨rfl, rfl⟩
    obtain ⟨hmem, hpending⟩ := hwaits.mpr ⟨pre, ts, post, hes, ha, hpost⟩
    exact ⟨hmem, rfl, hpending⟩

end ConfigCenter.Publish
