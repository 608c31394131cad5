/-
  File:      CampusConnect/Services/Advance.lean
  Subject:   Cash advances: `request_advance`, `approve_advance`, `reject_advance` and
             `disburse_advance` of the settlement service, and the sanctioned snapshot.

  * `resolveSanctionedSnapshot`: the approved figures an advance and a settlement are held to;
  * `AdvanceStep`: what an accepted advance operation does to the advance row, one rule each;
  * `requestAdvance_step`, `approveAdvance_step`, ...: every accepted call is one of these steps
    and touches nothing but the advance and the audit log.
-/
import CampusConnect.Services.Common

namespace CampusConnect

open Guarded Rows

/-! ## 1. Authority -/

namespace SettlementService

/-- `_verify_finance_officer`. -/
def verifyFinanceOfficer (actor : User) : Result Unit := do
  refuse (actor.role = .systemAdmin)
    ⟨.forbidden, "System administrators are strictly barred from financial verifications, " ++
      "approvals, disbursements, and settlement decisions.", []⟩
  refuse (actor.role ≠ .financeOfficer)
    ⟨.forbidden, "Only Finance Officers are authorized to perform this financial action.", []⟩

@[simp] theorem verifyFinanceOfficer_accepts {actor : User} {u : Unit} :
    verifyFinanceOfficer actor = .ok u ↔ actor.role = .financeOfficer := by
  simp only [verifyFinanceOfficer, bind_accepts, refuse_accepts, exists_unit, not_not]
  constructor
  · exact fun h => h.2
  · intro h
    rw [h]
    exact ⟨by decide, rfl⟩

/-- `_verify_club_secretary`. -/
def verifyClubSecretary (env : Env) (event : Event) (actor : User) : Result Unit := do
  refuse (actor.role = .systemAdmin)
    ⟨.forbidden, "System administrators have no ordinary club secretary execution authority.", []⟩
  refuse (¬ env.IsSecretary event.clubId actor.id)
    ⟨.forbidden, "Only the active Club Secretary of the owning club can perform this action " ++
      "for this event.", []⟩

/-- The actor may act as the event's club secretary. -/
def IsEventSecretary (env : Env) (event : Event) (actor : User) : Prop :=
  actor.role ≠ .systemAdmin ∧ env.IsSecretary event.clubId actor.id

@[simp] theorem verifyClubSecretary_accepts {env : Env} {event : Event} {actor : User} {u : Unit} :
    verifyClubSecretary env event actor = .ok u ↔ IsEventSecretary env event actor := by
  simp only [verifyClubSecretary, bind_accepts, refuse_accepts, exists_unit, not_not,
    IsEventSecretary, ne_eq]

/-! ## 2. The sanctioned snapshot -/

/-- What `_resolve_sanctioned_snapshot` returns. -/
structure Sanction where
  approvedVersionId : Uuid
  grant : Int
  expenditure : Int
  expectedIncome : Int
  deriving DecidableEq, Repr

/-- The version of the highest number, the first of them on a tie. -/
def latestVersion : List EventRequestVersion → Option EventRequestVersion
  | [] => none
  | v :: rest =>
      match latestVersion rest with
      | none => some v
      | some w => if v.versionNumber ≥ w.versionNumber then some v else some w

/-- The budget proposal's own figures, under the given version key. -/
def sanctionOfProposal (versionId : Uuid) (bp : BudgetProposal) : Sanction where
  approvedVersionId := versionId
  grant := bp.instituteContribution
  expenditure := bp.totalExpectedExpenditure
  expectedIncome := bp.expectedIncome

/-- `_resolve_sanctioned_snapshot`. -/
def resolveSanctionedSnapshot (s : State) : Result Sanction :=
  let approvedVersion :=
    match s.proposal.versions.find? (fun v => v.id = s.event.approvedVersionId) with
    | some v => some v
    | none => latestVersion s.proposal.versions
  match approvedVersion.bind (fun v => v.snapshot.map (fun n => (v, n))) with
  | none =>
      match s.proposal.budgetProposal with
      | some bp => .ok (sanctionOfProposal
          ((approvedVersion.map EventRequestVersion.id).getD s.event.id) bp)
      | none => .error ⟨.businessRule, "Authoritative approved EventRequestVersion financial " ++
          "snapshot cannot be identified for this event.", []⟩
  | some (v, snapshot) =>
      let grantVal := Figure.orElse
        (Figure.orElse (snapshot.budget.bind BudgetSnapshot.instituteContribution)
          snapshot.instituteContribution) snapshot.sanctionedGrant
      let expVal := Figure.orElse
        (Figure.orElse (snapshot.budget.bind BudgetSnapshot.totalExpectedExpenditure)
          snapshot.totalExpectedExpenditure) snapshot.sanctionedExpenditure
      let incVal := Figure.orElse
        (Figure.orElse (snapshot.budget.bind BudgetSnapshot.expectedIncome)
          snapshot.expectedIncome) (some (.text 0))
      match grantVal, expVal, s.proposal.budgetProposal with
      | some g, some e, _ => .ok ⟨v.id, g.decimal, e.decimal, (incVal.map Figure.decimal).getD 0⟩
      | _, _, some bp => .ok (sanctionOfProposal v.id bp)
      | _, _, none => .error ⟨.businessRule, "Authoritative sanctioned budget figures missing in " ++
          "approved version snapshot.", []⟩

/-- The snapshot is read off the event's version key, the versions and the budget proposal. -/
theorem resolveSanctionedSnapshot_congr {s t : State} (he : t.event.id = s.event.id)
    (ha : t.event.approvedVersionId = s.event.approvedVersionId)
    (hv : t.proposal.versions = s.proposal.versions)
    (hb : t.proposal.budgetProposal = s.proposal.budgetProposal) :
    resolveSanctionedSnapshot t = resolveSanctionedSnapshot s := by
  unfold resolveSanctionedSnapshot
  rw [he, ha, hv, hb]

/-! ## 3. The operations -/

/-- `SELECT … FROM cash_advances WHERE id = …`. -/
def advanceById (s : State) (id : Uuid) : Option (Stored CashAdvance) :=
  s.advance.filter (fun a => a.1.id = id)

/-- `f"{notes or ''} [<label>: {remark.strip()}]".strip()`, when there is a remark. -/
def annotate (notes : Option Text) (label : String) (remark : Option Text) : Option Text :=
  match remark with
  | none => notes
  | some [] => notes
  | some r => some (strip (notes.getD [] ++ " [".toList ++ label.toList ++ ": ".toList ++
      strip r ++ "]".toList))

/-- `request_advance`. -/
def requestAdvance (env : Env) (actor : User) (newId : Uuid) (amountRequested : Int)
    (reason : Text) (s : State) : Result State := do
  ensureEventMutable s.event
  verifyClubSecretary env s.event actor
  refuse (s.event.cancelledAt ≠ none ∨ s.event.status = .cancelled)
    ⟨.workflowState, "Cannot request cash advance for a cancelled event.", []⟩
  refuse (∃ r ∈ s.settlement, r.1.status = .settled)
    ⟨.workflowState, "Cannot request cash advance for an already settled event.", []⟩
  refuse (s.advance ≠ none)
    ⟨.conflict, "A cash advance has already been requested for this event.", []⟩
  refuse (amountRequested ≤ 0)
    ⟨.badRequest, "Advance amount requested must be greater than zero.", []⟩
  let advance ← fetch (store (α := CashAdvance)
    { id := newId
      amountRequested := amountRequested
      amountApproved := none
      amountDisbursed := 0
      status := .requested
      recipientId := actor.id
      notes := if reason = [] then none else some (strip reason) }) integrityError
  return { s with advance := some advance }.log
    [createAuditEntry env actor .advanceRequested "cash_advance" newId none
      (some [("event_id", .uuid s.event.id), ("amount_requested", .amount amountRequested),
        ("reason", .text reason), ("status", .name CashAdvanceStatus.requested.value)])]

/-- `approve_advance`. The event's status is looked at three times and read once. -/
def approveAdvance (env : Env) (actor : User) (advanceId : Uuid) (amountApproved : Int)
    (remarks : Option Text) (s : State) : Result State := do
  verifyFinanceOfficer actor
  let advance ← fetch (advanceById s advanceId)
    ⟨.notFound, "Cash advance '%s' not found.", [.uuid advanceId]⟩
  ensureEventMutable s.event
  refuse (advance.1.status ≠ .requested)
    ⟨.invalidWorkflowTransition, "Cannot approve advance in '%s' status. Must be 'REQUESTED'.",
      [.name advance.1.status.value]⟩
  refuse (amountApproved ≤ 0)
    ⟨.badRequest, "Approved advance amount must be greater than zero.", []⟩
  let sanction ← resolveSanctionedSnapshot s
  refuse (amountApproved > sanction.grant)
    ⟨.businessRule, "Approved advance amount (%s) cannot exceed sanctioned institutional grant " ++
      "(%s).", [.amount amountApproved, .amount sanction.grant]⟩
  let row ← fetch (store
    { advance.1 with
      amountApproved := some amountApproved
      approvedBy := some actor.id
      status := .approved
      notes := annotate advance.1.notes "Approval Notes" remarks }) integrityError
  return { s with advance := some row }.log
    [createAuditEntry env actor .advanceApproved "cash_advance" advance.1.id
      (some [("status", .name advance.1.status.value),
        ("amount_approved", Value.ofAmount advance.1.amountApproved)])
      (some [("status", .name CashAdvanceStatus.approved.value),
        ("amount_approved", .amount amountApproved), ("remarks", Value.ofText remarks)])]

/-- `reject_advance`; it does not look at the event. -/
def rejectAdvance (env : Env) (actor : User) (advanceId : Uuid) (rejectionReason : Text)
    (s : State) : Result State := do
  verifyFinanceOfficer actor
  let advance ← fetch (advanceById s advanceId)
    ⟨.notFound, "Cash advance '%s' not found.", [.uuid advanceId]⟩
  refuse (advance.1.status ≠ .requested)
    ⟨.invalidWorkflowTransition, "Cannot reject advance in '%s' status. Must be 'REQUESTED'.",
      [.name advance.1.status.value]⟩
  refuse (isBlank rejectionReason) ⟨.badRequest, "Rejection reason is mandatory.", []⟩
  let row ← fetch (store
    { advance.1 with
      status := .rejected
      approvedBy := some actor.id
      rejectionReason := some (strip rejectionReason) }) integrityError
  return { s with advance := some row }.log
    [createAuditEntry env actor .advanceRejected "cash_advance" advance.1.id
      (some [("status", .name advance.1.status.value)])
      (some [("status", .name CashAdvanceStatus.rejected.value),
        ("rejection_reason", .text rejectionReason)])]

/-- `disburse_advance`; it does not look at the event. -/
def disburseAdvance (env : Env) (actor : User) (advanceId : Uuid) (amountDisbursed : Int)
    (paymentReference : Text) (disbursementDate : Option Instant) (notes : Option Text)
    (s : State) : Result State := do
  verifyFinanceOfficer actor
  let advance ← fetch (advanceById s advanceId)
    ⟨.notFound, "Cash advance '%s' not found.", [.uuid advanceId]⟩
  refuse (advance.1.status ≠ .approved)
    ⟨.invalidWorkflowTransition, "Cannot disburse advance in '%s' status. Must be 'APPROVED'.",
      [.name advance.1.status.value]⟩
  refuse (isBlank paymentReference)
    ⟨.badRequest, "Payment reference is required for cash advance disbursement.", []⟩
  refuse (amountDisbursed ≤ 0)
    ⟨.badRequest, "Disbursed amount must be greater than zero.", []⟩
  refuse (advance.1.amountApproved ≠ some amountDisbursed)
    ⟨.businessRule, "Partial or excess disbursement not permitted. Disbursed amount (%s) must " ++
      "strictly equal approved amount (%s).",
      [.amount amountDisbursed, Value.ofAmount advance.1.amountApproved]⟩
  let dDate := disbursementDate.getD env.now
  let row ← fetch (store
    { advance.1 with
      amountDisbursed := amountDisbursed
      disbursedBy := some actor.id
      disbursementDate := some dDate
      paymentReference := some (strip paymentReference)
      status := .disbursed
      notes := annotate advance.1.notes "Disbursement Notes" notes }) integrityError
  return { s with advance := some row }.log
    [createAuditEntry env actor .advanceDisbursed "cash_advance" advance.1.id
      (some [("status", .name advance.1.status.value),
        ("amount_disbursed", .amount advance.1.amountDisbursed)])
      (some [("status", .name CashAdvanceStatus.disbursed.value),
        ("amount_disbursed", .amount amountDisbursed),
        ("payment_reference", .text paymentReference), ("disbursement_date", .time dDate)])]

end SettlementService

/-! ## 4. What an advance operation does -/

/-- What an operation does to the advance. -/
inductive AdvanceMove where
  | requested
  | approved
  | rejected
  | disbursed
  deriving DecidableEq, Repr

/-- **One step of the advance row.** -/
inductive AdvanceStep (s : State) : AdvanceMove → Stored CashAdvance → Prop where
  | requested (row : Stored CashAdvance) (hmut : ¬ s.event.Sealed) (hnone : s.advance = none)
      (hset : ∀ r ∈ s.settlement, r.1.status ≠ .settled) (hst : row.1.status = .requested)
      (hamt : row.1.amountDisbursed = 0) : AdvanceStep s .requested row
  | approved (advance row : Stored CashAdvance) (hmut : ¬ s.event.Sealed)
      (hadv : s.advance = some advance) (hfrom : advance.1.status = .requested)
      (hst : row.1.status = .approved)
      (hamt : row.1.amountDisbursed = advance.1.amountDisbursed)
      (hgrant : ∃ amount, row.1.amountApproved = some amount ∧ 0 < amount) :
      AdvanceStep s .approved row
  | rejected (advance row : Stored CashAdvance) (hadv : s.advance = some advance)
      (hfrom : advance.1.status = .requested) (hst : row.1.status = .rejected)
      (hamt : row.1.amountDisbursed = advance.1.amountDisbursed) : AdvanceStep s .rejected row
  | disbursed (advance row : Stored CashAdvance) (hadv : s.advance = some advance)
      (hfrom : advance.1.status = .approved) (hst : row.1.status = .disbursed)
      (hpos : 0 < row.1.amountDisbursed)
      (hamt : advance.1.amountApproved = some row.1.amountDisbursed) : AdvanceStep s .disbursed row

namespace SettlementService

variable {env : Env} {actor : User} {s s' : State}

theorem advanceById_eq_some {id : Uuid} {a : Stored CashAdvance} :
    advanceById s id = some a ↔ s.advance = some a ∧ a.1.id = id := by
  unfold advanceById
  rw [Option.filter_eq_some_iff, decide_eq_true_iff]

theorem requestAdvance_step {newId : Uuid} {amount : Int} {reason : Text}
    (h : requestAdvance env actor newId amount reason s = .ok s') :
    ∃ row entries, AdvanceStep s .requested row ∧ s' = { s with advance := some row }.log entries := by
  simp only [requestAdvance, bind_accepts, refuse_accepts, fetch_accepts, exists_unit,
    pure_accepts, ensureEventMutable_accepts, store_eq_some] at h
  obtain ⟨hmut, _, _, hset, hnone, _, row, hrow, rfl⟩ := h
  refine ⟨row, _, .requested row hmut (not_not.mp hnone) ?_ ?_ ?_, rfl⟩
  · intro r hr e
    exact hset ⟨r, hr, e⟩
  · rw [← hrow]
  · rw [← hrow]

theorem approveAdvance_step {id : Uuid} {amount : Int} {remarks : Option Text}
    (h : approveAdvance env actor id amount remarks s = .ok s') :
    ∃ row entries, AdvanceStep s .approved row ∧ s' = { s with advance := some row }.log entries := by
  simp only [approveAdvance, bind_accepts, refuse_accepts, fetch_accepts, exists_unit,
    pure_accepts, ensureEventMutable_accepts, store_eq_some, advanceById_eq_some] at h
  obtain ⟨_, advance, ⟨hadv, _⟩, hmut, hst, hpos, _, _, _, row, hrow, rfl⟩ := h
  refine ⟨row, _, .approved advance row hmut hadv (not_not.mp hst) ?_ ?_ ⟨amount, ?_, ?_⟩, rfl⟩
  · rw [← hrow]
  · rw [← hrow]
  · rw [← hrow]
  · exact not_le.mp hpos

theorem rejectAdvance_accepts {id : Uuid} {reason : Text} :
    rejectAdvance env actor id reason s = .ok s' ↔
      actor.role = .financeOfficer ∧ ∃ advance, (s.advance = some advance ∧ advance.1.id = id) ∧
        advance.1.status = .requested ∧ ¬ isBlank reason ∧ ∃ row : Stored CashAdvance,
          { advance.1 with
            status := .rejected
            approvedBy := some actor.id
            rejectionReason := some (strip reason) } = row.1 ∧
          { s with advance := some row }.log
            [createAuditEntry env actor .advanceRejected "cash_advance" advance.1.id
              (some [("status", .name advance.1.status.value)])
              (some [("status", .name CashAdvanceStatus.rejected.value),
                ("rejection_reason", .text reason)])] = s' := by
  simp only [rejectAdvance, bind_accepts, refuse_accepts, fetch_accepts, exists_unit,
    pure_accepts, verifyFinanceOfficer_accepts, store_eq_some, advanceById_eq_some, not_not]

theorem rejectAdvance_step {id : Uuid} {reason : Text}
    (h : rejectAdvance env actor id reason s = .ok s') :
    ∃ row entries, AdvanceStep s .rejected row ∧ s' = { s with advance := some row }.log entries := by
  obtain ⟨_, advance, ⟨hadv, _⟩, hst, _, row, hrow, rfl⟩ := rejectAdvance_accepts.mp h
  refine ⟨row, _, .rejected advance row hadv hst ?_ ?_, rfl⟩
  · rw [← hrow]
  · rw [← hrow]

theorem disburseAdvance_step {id : Uuid} {amount : Int} {ref : Text} {date : Option Instant}
    {notes : Option Text} (h : disburseAdvance env actor id amount ref date notes s = .ok s') :
    ∃ row entries, AdvanceStep s .disbursed row ∧ s' = { s with advance := some row }.log entries := by
  simp only [disburseAdvance, bind_accepts, refuse_accepts, fetch_accepts, exists_unit,
    pure_accepts, store_eq_some, advanceById_eq_some, not_not, ne_eq] at h
  obtain ⟨_, advance, ⟨hadv, _⟩, hst, _, hpos, happ, row, hrow, rfl⟩ := h
  refine ⟨row, _, .disbursed advance row hadv hst ?_ ?_ ?_, rfl⟩
  · rw [← hrow]
  · rw [← hrow]
    exact not_le.mp hpos
  · rw [← hrow]
    exact happ

/-! ## 5. Calls that are accepted -/

/-- **A requested advance can be rejected** by a finance officer. -/
theorem rejectAdvance_of {advance : Stored CashAdvance} {reason : Text}
    (hfo : actor.role = .financeOfficer) (hadv : s.advance = some advance)
    (hst : advance.1.status = .requested) (hreason : ¬ isBlank reason) :
    ∃ row entries, rejectAdvance env actor advance.1.id reason s =
        .ok ({ s with advance := some row }.log entries) ∧ row.1.status = .rejected := by
  let row : Stored CashAdvance := ⟨{ advance.1 with
      status := .rejected
      approvedBy := some actor.id
      rejectionReason := some (strip reason) }, advance.2⟩
  exact ⟨row, _, rejectAdvance_accepts.mpr
    ⟨hfo, advance, ⟨hadv, rfl⟩, hst, hreason, row, rfl, rfl⟩, rfl⟩

/-- **An approved advance can be disbursed** at its approved amount. -/
theorem disburseAdvance_of {advance : Stored CashAdvance} {amount : Int} {reference : Text}
    {date : Option Instant} {notes : Option Text} (hfo : actor.role = .financeOfficer)
    (hadv : s.advance = some advance) (hst : advance.1.status = .approved)
    (happ : advance.1.amountApproved = some amount) (hpos : 0 < amount)
    (href : ¬ isBlank reference) :
    ∃ row entries, disburseAdvance env actor advance.1.id amount reference date notes s =
        .ok ({ s with advance := some row }.log entries) ∧ row.1.status = .disbursed := by
  have hcheck : Row.Check { advance.1 with
      amountDisbursed := amount
      disbursedBy := some actor.id
      disbursementDate := some (date.getD env.now)
      paymentReference := some (strip reference)
      status := .disbursed
      notes := annotate advance.1.notes "Disbursement Notes" notes } := by
    refine ⟨advance.2.1, hpos.le, ?_⟩
    intro p hp
    have heq : amount = p := Option.some.inj (happ.symm.trans hp)
    rw [← heq]
    exact ⟨hpos.le, le_refl _⟩
  have hbyId : advanceById s advance.1.id = some advance :=
    advanceById_eq_some.mpr ⟨hadv, rfl⟩
  let row : Stored CashAdvance := ⟨_, hcheck⟩
  have haccepted : ∃ entries, disburseAdvance env actor advance.1.id amount reference date notes s =
      .ok ({ s with advance := some row }.log entries) := by
    simp only [disburseAdvance, bind_accepts, refuse_accepts, fetch_accepts, exists_unit,
      pure_accepts, verifyFinanceOfficer_accepts, store_eq_some, not_not, ne_eq, not_le]
    exact ⟨_, hfo, advance, hbyId, hst, href, hpos, happ, row, rfl, rfl⟩
  obtain ⟨entries, hok⟩ := haccepted
  exact ⟨row, entries, hok, rfl⟩

end SettlementService

end CampusConnect
