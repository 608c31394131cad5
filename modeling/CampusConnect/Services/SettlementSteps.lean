/-
  File:      CampusConnect/Services/SettlementSteps.lean
  Subject:   What an accepted settlement operation does: `SettlementStep`, one rule for each way
             the settlement row, its payments and its revisions can change.

  * `prepareSettlement_step` .. `reopenSettlement_step`: every accepted call is one of these steps;
  * `submitSettlement_of`, `auditApprove_of`, `recordPayment_of`, `reopenSettlement_of`,
    `prepareSettlement_of`: the calls that ARE accepted, from the facts their guards check;
  * `FinancialSettlement.SameFigures`: the columns no operation but a preparation writes.
-/
import CampusConnect.Services.Settlement

namespace CampusConnect

open Guarded Rows SettlementService

/-- Two settlement rows agree on every column but the status and the tracking columns. -/
structure FinancialSettlement.SameFigures (a b : FinancialSettlement) : Prop where
  id : a.id = b.id
  approvedVersionId : a.approvedVersionId = b.approvedVersionId
  sanctionedGrant : a.sanctionedGrant = b.sanctionedGrant
  sanctionedExpenditure : a.sanctionedExpenditure = b.sanctionedExpenditure
  totalVerifiedExpenditure : a.totalVerifiedExpenditure = b.totalVerifiedExpenditure
  totalVerifiedIncome : a.totalVerifiedIncome = b.totalVerifiedIncome
  institutionalPayout : a.institutionalPayout = b.institutionalPayout
  cashAdvanceDisbursed : a.cashAdvanceDisbursed = b.cashAdvanceDisbursed
  settlementType : a.settlementType = b.settlementType

/-- The net cash of a settlement depends on figures only. -/
theorem netCash_congr {a b : FinancialSettlement} (h : a.SameFigures b)
    (payments : List (Stored SettlementPayment)) : netCash payments a = netCash payments b := by
  unfold netCash
  rw [h.id, h.cashAdvanceDisbursed]

/-- The amounts of the payments of one type on a settlement. -/
def paidAmounts (type : SettlementPaymentType) (settlementId : Uuid)
    (payments : List (Stored SettlementPayment)) : List Int :=
  (payments.filter fun p => p.1.settlementId = settlementId ∧ p.1.paymentType = type).map
    fun p => p.1.amount

theorem cleared_eq_sum (type : SettlementPaymentType) (settlementId : Uuid)
    (payments : List (Stored SettlementPayment)) :
    cleared type settlementId payments = (paidAmounts type settlementId payments).sum :=
  sum_map_ite payments (fun p => p.1.settlementId = settlementId ∧ p.1.paymentType = type)
    fun p => p.1.amount

/-- **The cash a settlement has moved**: the advance, what was reimbursed and less what was refunded, over
    the amounts of its payments. -/
def cashMoved (payments : List (Stored SettlementPayment)) (r : FinancialSettlement) : Int :=
  r.cashAdvanceDisbursed + (paidAmounts .reimbursementDisbursement r.id payments).sum -
    (paidAmounts .advanceRefundReceipt r.id payments).sum

/-- What the services add up is the cash moved. -/
theorem netCash_eq_cashMoved (payments : List (Stored SettlementPayment)) (r : FinancialSettlement) :
    netCash payments r = cashMoved payments r := by
  unfold netCash cashMoved
  rw [cleared_eq_sum, cleared_eq_sum]

/-- A payment writes the status only. -/
theorem clearedRow_sameFigures (r : FinancialSettlement) (remaining : Int) :
    (clearedRow r remaining).SameFigures r := by
  unfold clearedRow
  by_cases h : remaining ≤ 0
  · rw [if_pos h]
    constructor <;> rfl
  · rw [if_neg h]
    constructor <;> rfl

/-- What an operation does to the settlement. Both audit decisions are one move. -/
inductive SettlementMove where
  | prepared
  | submitted
  | audited
  | paid
  | reopened
  deriving DecidableEq, Repr

/-- **One step of the settlement.** -/
inductive SettlementStep (cfg : Config) (s : State) : SettlementMove → State → Prop where
  | prepared (preparedBy newId : Uuid) (sanction : Sanction) (row : Stored FinancialSettlement)
      (entries : List AuditEntry) (hcomp : s.event.status = .completed)
      (hcert : ReportCertified s) (hprev : ∀ r ∈ s.settlement, r.1.status = .reopened)
      (hsan : resolveSanctionedSnapshot s = .ok sanction) (hres : LedgerResolved s)
      (hrow : row.1 =
        preparedRow s.settlement newId sanction (liveTotals s sanction.grant) preparedBy) :
      SettlementStep cfg s .prepared
        ({ s with settlement := some row, attached := some (liveFingerprint cfg s sanction) }.log
          entries)
  | submitted (r row : Stored FinancialSettlement) (prepared : Option Text) (sanction : Sanction)
      (entries : List AuditEntry) (hr : s.settlement = some r) (hmut : ¬ s.event.Sealed)
      (hfrom : r.1.status = .draft ∨ r.1.status = .queried ∨ r.1.status = .reopened)
      (hcons : Consistent cfg s r.1 prepared sanction) (hfig : row.1.SameFigures r.1)
      (hst : row.1.status = .underAudit) :
      SettlementStep cfg s .submitted ({ s with settlement := some row, attached := prepared }.log entries)
  | queried (r row : Stored FinancialSettlement) (prepared : Option Text) (sanction : Sanction)
      (entries : List AuditEntry) (hr : s.settlement = some r) (hmut : ¬ s.event.Sealed)
      (hfrom : r.1.status = .underAudit) (hcons : Consistent cfg s r.1 prepared sanction)
      (hfig : row.1.SameFigures r.1) (hst : row.1.status = .queried) :
      SettlementStep cfg s .audited ({ s with settlement := some row, attached := prepared }.log entries)
  | approved (r row : Stored FinancialSettlement) (prepared : Option Text) (sanction : Sanction)
      (entries : List AuditEntry) (hr : s.settlement = some r) (hmut : ¬ s.event.Sealed)
      (hfrom : r.1.status = .underAudit) (hcons : Consistent cfg s r.1 prepared sanction)
      (hfig : row.1.SameFigures r.1) (hst : row.1.status = approvedStatus r.1.settlementType) :
      SettlementStep cfg s .audited ({ s with settlement := some row, attached := prepared }.log entries)
  | paid (r row : Stored FinancialSettlement) (p : Stored SettlementPayment)
      (entries : List AuditEntry) (hr : s.settlement = some r) (hmut : ¬ s.event.Sealed)
      (hfrom : r.1.status = .pendingReimbursement ∨ r.1.status = .pendingRefund)
      (hid : p.1.settlementId = r.1.id)
      (hdir : directionOf r.1.settlementType = some p.1.paymentType)
      (hle : p.1.amount ≤ remainingDue r.1.settlementType r.1.institutionalPayout
        (netCash s.payments r.1))
      (hrow : row.1 = clearedRow r.1 (remainingDue r.1.settlementType r.1.institutionalPayout
        (netCash (s.payments ++ [p]) r.1))) :
      SettlementStep cfg s .paid
        ({ s with settlement := some row, payments := s.payments ++ [p] }.log entries)
  | reopened (r row : Stored FinancialSettlement) (newId : Uuid) (reason : Text) (actor : User)
      (entries : List AuditEntry) (hr : s.settlement = some r) (hmut : ¬ s.event.Sealed)
      (hfrom : r.1.status = .settled) (hfig : row.1.SameFigures r.1)
      (hst : row.1.status = .reopened) :
      SettlementStep cfg s .reopened
        ({ s with
          settlement := some row
          settlementRevisions := s.settlementRevisions ++
            [settlementRevision s newId r.1 reason actor] }.log entries)

namespace SettlementService

variable {cfg : Config} {env : Env} {actor : User} {s s' : State}

theorem settlementById_eq_some {id : Uuid} {r : Stored FinancialSettlement} :
    settlementById s id = some r ↔ s.settlement = some r ∧ r.1.id = id := by
  unfold settlementById
  rw [Option.filter_eq_some_iff, decide_eq_true_iff]

/-! ## 1. Accepted calls are steps -/

theorem prepareSettlement_step {newId : Uuid}
    (h : prepareSettlement cfg env actor newId s = .ok s') : SettlementStep cfg s .prepared s' := by
  simp only [prepareSettlement, bind_accepts, refuse_accepts, fetch_accepts, exists_unit,
    pure_accepts, ensureEventMutable_accepts, verifyClubSecretary_accepts, store_eq_some,
    computeSettlementTotals_accepts, not_not, ne_eq] at h
  obtain ⟨_, _, hcomp, hcert, hprev, sanction, hsan, _, ⟨hres, rfl⟩, row, hrow, rfl⟩ := h
  refine .prepared actor.id newId sanction row _ hcomp hcert ?_ hsan hres hrow.symm
  intro r hr
  by_contra hne
  exact hprev ⟨r, hr, hne⟩

theorem submitSettlement_accepts {id : Uuid} :
    submitSettlement cfg env actor id s = .ok s' ↔
      ∃ r, (s.settlement = some r ∧ r.1.id = id) ∧ ¬ s.event.Sealed ∧
        IsEventSecretary env s.event actor ∧
        (r.1.status = .draft ∨ r.1.status = .queried ∨ r.1.status = .reopened) ∧
        ∃ prepared, (∃ sanction, Consistent cfg s r.1 prepared sanction) ∧
          ∃ row : Stored FinancialSettlement,
            { r.1 with status := .underAudit, submittedAt := some env.now } = row.1 ∧
            { s with settlement := some row, attached := prepared }.log
              [createAuditEntry env actor .settlementSubmitted "financial_settlement" r.1.id
                (some [("status", .name r.1.status.value)])
                (some [("status", .name SettlementStatus.underAudit.value),
                  ("submitted_at", .time env.now)])] = s' := by
  simp only [submitSettlement, bind_accepts, refuse_accepts, fetch_accepts, exists_unit,
    pure_accepts, ensureEventMutable_accepts, verifyClubSecretary_accepts, store_eq_some,
    verifyLiveSourceConsistency_accepts, settlementById_eq_some, not_not]

theorem submitSettlement_step {id : Uuid}
    (h : submitSettlement cfg env actor id s = .ok s') : SettlementStep cfg s .submitted s' := by
  obtain ⟨r, ⟨hr, _⟩, hmut, _, hfrom, prepared, ⟨sanction, hcons⟩, row, hrow, rfl⟩ :=
    submitSettlement_accepts.mp h
  refine .submitted r row prepared sanction _ hr hmut hfrom hcons ?_ ?_
  · rw [← hrow]
    constructor <;> rfl
  · rw [← hrow]

theorem auditSettlement_step {id : Uuid} {action : Text} {remarks reason : Option Text}
    (h : auditSettlement cfg env actor id action remarks reason s = .ok s') :
    SettlementStep cfg s .audited s' := by
  simp only [auditSettlement, bind_accepts, refuse_accepts, fetch_accepts, exists_unit,
    ensureEventMutable_accepts, verifyLiveSourceConsistency_accepts, settlementById_eq_some,
    not_not, ne_eq] at h
  obtain ⟨_, decision, _, r, ⟨hr, _⟩, hfrom, hmut, prepared, ⟨sanction, hcons⟩, h⟩ := h
  cases decision with
  | query =>
      simp only [bind_accepts, fetch_accepts, pure_accepts, store_eq_some] at h
      obtain ⟨_, _, row, hrow, rfl⟩ := h
      refine .queried r row prepared sanction _ hr hmut hfrom hcons ?_ ?_
      · rw [← hrow]
        constructor <;> rfl
      · rw [← hrow]
  | approve =>
      simp only [bind_accepts, fetch_accepts, pure_accepts, store_eq_some] at h
      obtain ⟨row, hrow, rfl⟩ := h
      refine .approved r row prepared sanction _ hr hmut hfrom hcons ?_ ?_
      · rw [← hrow]
        constructor <;> rfl
      · rw [← hrow]

/-- What an accepted payment says about the settlement, and the rows it leaves. -/
theorem recordPayment_paid {id newId : Uuid} {args : PaymentArgs}
    (h : recordPayment env actor id newId args s = .ok s') :
    ∃ (r row : Stored FinancialSettlement) (p : Stored SettlementPayment) (entries : _),
      s.settlement = some r ∧ r.1.id = id ∧ ¬ s.event.Sealed ∧
        (r.1.status = .pendingReimbursement ∨ r.1.status = .pendingRefund) ∧
        directionOf r.1.settlementType = some args.paymentType ∧ 0 < args.amount ∧
        args.amount ≤ remainingDue r.1.settlementType r.1.institutionalPayout
          (netCash s.payments r.1) ∧
        p.1 = paymentRow newId r.1.id args actor.id ∧
        row.1 = clearedRow r.1 (remainingDue r.1.settlementType r.1.institutionalPayout
          (netCash (s.payments ++ [p]) r.1)) ∧
        s' = { s with settlement := some row, payments := s.payments ++ [p] }.log entries := by
  simp only [recordPayment, bind_accepts, refuse_accepts, fetch_accepts, exists_unit,
    pure_accepts, ensureEventMutable_accepts, settlementById_eq_some, store_eq_some,
    not_not, ne_eq, gt_iff_lt, not_lt] at h
  obtain ⟨_, r, ⟨hr, hid⟩, hfrom, hmut, dir, hdir, hty, hpos, _, _, hle, p, hp, row, hrow, rfl⟩ := h
  refine ⟨r, row, p, _, hr, hid, hmut, hfrom, ?_, Int.not_le.mp hpos, hle, hp.symm, hrow.symm, rfl⟩
  rw [hdir, hty]

theorem recordPayment_step {id newId : Uuid} {args : PaymentArgs}
    (h : recordPayment env actor id newId args s = .ok s') : SettlementStep cfg s .paid s' := by
  obtain ⟨r, row, p, entries, hr, _, hmut, hfrom, hdir, _, hle, hp, hrow, rfl⟩ :=
    recordPayment_paid h
  refine .paid r row p entries hr hmut hfrom ?_ ?_ ?_ hrow
  · rw [hp, paymentRow]
  · rw [hp, hdir, paymentRow]
  · rw [hp, paymentRow]
    exact hle

/-- The key of a revision, settlement and number, is taken. -/
def RevisionTaken (s : State) (revision : SettlementRevision) : Prop :=
  ∃ v ∈ s.settlementRevisions, v.settlementId = revision.settlementId ∧
    v.revisionNumber = revision.revisionNumber

theorem reopenSettlement_accepts {id newId : Uuid} {reason : Text} :
    reopenSettlement env actor id newId reason s = .ok s' ↔
      (actor.role ≠ .systemAdmin ∧ (actor.role = .financeOfficer ∨ actor.role = .principal ∨
        actor.role = .deanStudentAffairs)) ∧ ¬ isBlank reason ∧
        ∃ r, (s.settlement = some r ∧ r.1.id = id) ∧ r.1.status = .settled ∧ ¬ s.event.Sealed ∧
          ¬ RevisionTaken s (settlementRevision s newId r.1 reason actor) ∧
          ∃ row : Stored FinancialSettlement, { r.1 with status := .reopened } = row.1 ∧
            { s with
              settlement := some row
              settlementRevisions := s.settlementRevisions ++
                [settlementRevision s newId r.1 reason actor] }.log
              [createAuditEntry env actor .settlementReopened "financial_settlement" r.1.id
                (some [("status", .name r.1.status.value)])
                (some [("status", .name SettlementStatus.reopened.value),
                  ("revision_number",
                    .number (settlementRevision s newId r.1 reason actor).revisionNumber),
                  ("reopening_reason", .text reason)])] = s' := by
  simp only [reopenSettlement, verifyReopenAuthority, bind_accepts, refuse_accepts, fetch_accepts,
    exists_unit, pure_accepts, settlementById_eq_some, store_eq_some, not_not, ne_eq, RevisionTaken]

theorem reopenSettlement_step {id newId : Uuid} {reason : Text}
    (h : reopenSettlement env actor id newId reason s = .ok s') :
    SettlementStep cfg s .reopened s' := by
  obtain ⟨_, _, r, ⟨hr, _⟩, hfrom, hmut, _, row, hrow, rfl⟩ := reopenSettlement_accepts.mp h
  refine .reopened r row newId reason actor _ hr hmut hfrom ?_ ?_
  · rw [← hrow]
    constructor <;> rfl
  · rw [← hrow]

/-! ## 2. Calls that are accepted -/

/-- A row that differs in status and tracking columns only is stored when the old one is. -/
theorem check_of_sameFigures {r : Stored FinancialSettlement} {status : SettlementStatus}
    {submittedAt auditedAt : Option Instant} {auditedBy : Option Uuid}
    {financeRemarks queryReason : Option Text} :
    Row.Check { r.1 with
      status := status
      submittedAt := submittedAt
      auditedBy := auditedBy
      auditedAt := auditedAt
      financeRemarks := financeRemarks
      queryReason := queryReason } :=
  r.2

/-- **A consistent settlement can be submitted** by the event's secretary. -/
theorem submitSettlement_of {r : Stored FinancialSettlement} {prepared : Option Text}
    {sanction : Sanction} (hr : s.settlement = some r) (hmut : ¬ s.event.Sealed)
    (hsec : IsEventSecretary env s.event actor)
    (hfrom : r.1.status = .draft ∨ r.1.status = .queried ∨ r.1.status = .reopened)
    (hcons : Consistent cfg s r.1 prepared sanction) :
    ∃ row entries, submitSettlement cfg env actor r.1.id s =
        .ok ({ s with settlement := some row, attached := prepared }.log entries) ∧
      row.1 = { r.1 with status := .underAudit, submittedAt := some env.now } := by
  refine ⟨⟨_, check_of_sameFigures⟩, _, submitSettlement_accepts.mpr
    ⟨r, ⟨hr, rfl⟩, hmut, hsec, hfrom, prepared, ⟨sanction, hcons⟩, _, rfl, rfl⟩, rfl⟩

/-- **A consistent settlement under audit can be approved** by a finance officer. -/
theorem auditApprove_of {r : Stored FinancialSettlement} {prepared : Option Text}
    {sanction : Sanction} {action : Text} {remarks queryReason : Option Text}
    (hact : parseAuditAction action = some .approve) (hr : s.settlement = some r)
    (hmut : ¬ s.event.Sealed) (hfo : actor.role = .financeOfficer)
    (hfrom : r.1.status = .underAudit) (hcons : Consistent cfg s r.1 prepared sanction) :
    ∃ row entries, auditSettlement cfg env actor r.1.id action remarks queryReason s =
        .ok ({ s with settlement := some row, attached := prepared }.log entries) ∧
      row.1 = { r.1 with
        auditedBy := some actor.id
        auditedAt := some env.now
        financeRemarks := (stripped remarks).or r.1.financeRemarks
        queryReason := none
        status := approvedStatus r.1.settlementType } := by
  have hbyId : settlementById s r.1.id = some r := settlementById_eq_some.mpr ⟨hr, rfl⟩
  have hver : verifyLiveSourceConsistency cfg s r.1 = .ok prepared :=
    verifyLiveSourceConsistency_accepts.mpr ⟨sanction, hcons⟩
  let row : Stored FinancialSettlement := ⟨{ r.1 with
      auditedBy := some actor.id
      auditedAt := some env.now
      financeRemarks := (stripped remarks).or r.1.financeRemarks
      queryReason := none
      status := approvedStatus r.1.settlementType }, r.2⟩
  refine ⟨row, approvalEntries env actor r.1, ?_, rfl⟩
  simp only [auditSettlement, bind_accepts, refuse_accepts, fetch_accepts, exists_unit,
    verifyFinanceOfficer_accepts, ensureEventMutable_accepts, not_not, ne_eq]
  refine ⟨hfo, .approve, hact, r, hbyId, hfrom, hmut, prepared, hver, ?_⟩
  simp only [bind_accepts, fetch_accepts, pure_accepts, store_eq_some]
  exact ⟨row, rfl, rfl⟩

/-- **A payment within what is left to pay is accepted**, and settles when it is all of it. -/
theorem recordPayment_of {r : Stored FinancialSettlement} {newId : Uuid} {args : PaymentArgs}
    (hr : s.settlement = some r) (hmut : ¬ s.event.Sealed) (hfo : actor.role = .financeOfficer)
    (hfrom : r.1.status = .pendingReimbursement ∨ r.1.status = .pendingRefund)
    (hdir : directionOf r.1.settlementType = some args.paymentType) (hpos : 0 < args.amount)
    (href : ¬ isBlank args.transactionReference)
    (hdoc : HasEvidence env s.event args.proofDocumentId .settlementPaymentProof)
    (hle : args.amount ≤ remainingDue r.1.settlementType r.1.institutionalPayout
      (netCash s.payments r.1)) :
    ∃ row p entries, recordPayment env actor r.1.id newId args s =
        .ok ({ s with settlement := some row, payments := s.payments ++ [p] }.log entries) ∧
      p.1 = paymentRow newId r.1.id args actor.id ∧
      row.1 = clearedRow r.1 (remainingDue r.1.settlementType r.1.institutionalPayout
        (netCash (s.payments ++ [p]) r.1)) := by
  have hbyId : settlementById s r.1.id = some r := settlementById_eq_some.mpr ⟨hr, rfl⟩
  have hrow : ∀ d, Row.Check (clearedRow r.1 d) := by
    intro d
    unfold clearedRow
    by_cases h : d ≤ 0
    · rw [if_pos h]; exact r.2
    · rw [if_neg h]; exact r.2
  let p : Stored SettlementPayment := ⟨paymentRow newId r.1.id args actor.id, hpos⟩
  let row : Stored FinancialSettlement := ⟨_, hrow (remainingDue r.1.settlementType
    r.1.institutionalPayout (netCash (s.payments ++ [p]) r.1))⟩
  have haccepted : ∃ entries, recordPayment env actor r.1.id newId args s =
      .ok ({ s with settlement := some row, payments := s.payments ++ [p] }.log entries) := by
    simp only [recordPayment, bind_accepts, refuse_accepts, fetch_accepts, exists_unit,
      pure_accepts, verifyFinanceOfficer_accepts, ensureEventMutable_accepts,
      verifyEvidence_accepts, store_eq_some, not_not, ne_eq, gt_iff_lt, not_lt, not_le]
    exact ⟨_, hfo, r, hbyId, hfrom, hmut, args.paymentType, hdir, rfl, hpos, href, hdoc, hle, p,
      rfl, row, rfl, rfl⟩
  obtain ⟨entries, hok⟩ := haccepted
  exact ⟨row, p, entries, hok, rfl, rfl⟩

/-- **A settled settlement of an unsealed event can be reopened** by each of the three roles. -/
theorem reopenSettlement_of {r : Stored FinancialSettlement} {newId : Uuid} {reason : Text}
    (hr : s.settlement = some r) (hmut : ¬ s.event.Sealed)
    (hrole : actor.role = .financeOfficer ∨ actor.role = .principal ∨
      actor.role = .deanStudentAffairs) (hreason : ¬ isBlank reason)
    (hfrom : r.1.status = .settled)
    (hfree : ¬ RevisionTaken s (settlementRevision s newId r.1 reason actor)) :
    ∃ row entries, reopenSettlement env actor r.1.id newId reason s =
        .ok ({ s with
          settlement := some row
          settlementRevisions := s.settlementRevisions ++
            [settlementRevision s newId r.1 reason actor] }.log entries) ∧
      row.1 = { r.1 with status := .reopened } := by
  have hadmin : actor.role ≠ .systemAdmin := by
    rcases hrole with h | h | h <;> rw [h] <;> decide
  exact ⟨⟨{ r.1 with status := .reopened }, r.2⟩, _, reopenSettlement_accepts.mpr
    ⟨⟨hadmin, hrole⟩, hreason, r, ⟨hr, rfl⟩, hfrom, hmut, hfree, _, rfl, rfl⟩, rfl⟩

/-- **A reopened settlement of a resolved ledger can be prepared again**, when the row passes its
    CHECK constraints. -/
theorem prepareSettlement_of {newId : Uuid} {sanction : Sanction}
    (hcomp : s.event.status = .completed) (hcert : ReportCertified s)
    (hsec : IsEventSecretary env s.event actor)
    (hprev : ∀ r ∈ s.settlement, r.1.status = .reopened)
    (hsan : resolveSanctionedSnapshot s = .ok sanction) (hres : LedgerResolved s)
    (hcheck : Row.Check
      (preparedRow s.settlement newId sanction (liveTotals s sanction.grant) actor.id)) :
    ∃ row entries, prepareSettlement cfg env actor newId s =
        .ok ({ s with
          settlement := some row
          attached := some (liveFingerprint cfg s sanction) }.log entries) ∧
      row.1 = preparedRow s.settlement newId sanction (liveTotals s sanction.grant) actor.id := by
  have hmut : ¬ s.event.Sealed := by
    unfold Event.Sealed
    rw [hcomp]
    decide
  let row : Stored FinancialSettlement := ⟨_, hcheck⟩
  refine ⟨row, [preparationEntry env actor s sanction (liveTotals s sanction.grant) row.1.id
    (liveFingerprint cfg s sanction)], ?_, rfl⟩
  simp only [prepareSettlement, bind_accepts, refuse_accepts, fetch_accepts, exists_unit,
    pure_accepts, ensureEventMutable_accepts, verifyClubSecretary_accepts, store_eq_some,
    computeSettlementTotals_accepts, not_not, ne_eq]
  refine ⟨hmut, hsec, hcomp, hcert, ?_, sanction, hsan, _, ⟨hres, rfl⟩, row, rfl, rfl⟩
  intro h
  obtain ⟨r, hr, hne⟩ := h
  exact hne (hprev r hr)

end SettlementService

end CampusConnect
