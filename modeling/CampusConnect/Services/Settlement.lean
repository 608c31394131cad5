/-
  File:      CampusConnect/Services/Settlement.lean
  Subject:   The settlement service: the accounting engine, preparation, submission, audit,
             payments, reopening and the closure eligibility.

  * `computeSettlementTotals`: the cumulative formulas, with what they refuse;
  * `prepareSettlement` .. `reopenSettlement`, `getClosureEligibility`: the operations of
    `settlement_service.py`;
  * `getPreparedSourceFingerprint`: the attached attribute or the audit-log lookup, the latter
    with its operand as the code passes it, a `UUID` against a text column.
-/
import CampusConnect.Services.Income
import CampusConnect.Services.Fingerprint

namespace CampusConnect

open Guarded Rows

/-! ## 1. The ledger figures -/

/-- `DRAFT`, `SUBMITTED` and `QUERIED`: a claim Finance has not decided. -/
def ActualExpense.Unresolved (e : ActualExpense) : Prop :=
  e.status = .draft ∨ e.status = .submitted ∨ e.status = .queried

instance (e : ActualExpense) : Decidable e.Unresolved :=
  inferInstanceAs (Decidable (_ ∨ _ ∨ _))

/-- `REQUESTED` and `APPROVED`: an advance neither paid out nor turned down. -/
def CashAdvance.Pending (a : CashAdvance) : Prop := a.status = .requested ∨ a.status = .approved

instance (a : CashAdvance) : Decidable a.Pending := inferInstanceAs (Decidable (_ ∨ _))

/-- What a claim adds to `total_verified`. -/
def verifiedPart (e : ActualExpense) : Int :=
  match e.status with
  | .verified | .partiallyVerified => e.verifiedAmount.getD e.claimedAmount
  | _ => 0

/-- What a claim adds to `total_disallowed`. -/
def disallowedPart (e : ActualExpense) : Int :=
  match e.status with
  | .verified | .partiallyVerified =>
      let v := e.verifiedAmount.getD e.claimedAmount
      if e.claimedAmount > v then e.claimedAmount - v else 0
  | .disallowed => e.claimedAmount
  | _ => 0

/-- What an income record adds to `total_income`. -/
def incomePart (i : ActualIncome) : Int :=
  match i.status with
  | .verified => i.amount
  | _ => 0

/-- `disbursed_advance`. -/
def disbursedPart (advance : Option (Stored CashAdvance)) : Int :=
  match advance with
  | none => 0
  | some a => if a.1.status = .disbursed then a.1.amountDisbursed else 0

/-- What a payment of the given type adds to the amount cleared on a settlement. -/
def clearedPart (type : SettlementPaymentType) (settlementId : Uuid) (p : SettlementPayment) : Int :=
  if p.settlementId = settlementId ∧ p.paymentType = type then p.amount else 0

/-- `r_cleared` and `f_cleared`: the payments of one type on one settlement. -/
def cleared (type : SettlementPaymentType) (settlementId : Uuid)
    (payments : List (Stored SettlementPayment)) : Int :=
  (payments.map fun p => clearedPart type settlementId p.1).sum

/-- `cash_advance_disbursed + r_cleared - f_cleared`, over all payments of the settlement. -/
def netCash (payments : List (Stored SettlementPayment)) (r : FinancialSettlement) : Int :=
  r.cashAdvanceDisbursed + cleared .reimbursementDisbursement r.id payments -
    cleared .advanceRefundReceipt r.id payments

namespace SettlementService

/-! ## 2. The accounting engine -/

/-- The dictionary `_compute_settlement_totals` returns, without the row lists. -/
structure SettlementTotals where
  totalClaimedExpenditure : Int
  totalVerifiedExpenditure : Int
  totalDisallowedExpenditure : Int
  totalVerifiedIncome : Int
  netDeficit : Int
  institutionalPayout : Int
  cashAdvanceDisbursed : Int
  rCleared : Int
  fCleared : Int
  netCashTransferred : Int
  settlementBalance : Int
  reimbursementDue : Int
  refundDue : Int
  settlementType : SettlementType
  deriving DecidableEq, Repr

/-- The type a balance gets. -/
def typeOfBalance (balance : Int) : SettlementType :=
  if balance > 0 then .reimbursementDue else if balance < 0 then .refundDue else .balanced

/-- The formulas of `_compute_settlement_totals`, on the figures it has summed. -/
def totalsOf (claimed verified disallowed income advance r f grant : Int) : SettlementTotals :=
  let netDeficit := max 0 (verified - income)
  let payout := min grant netDeficit
  let netCash := advance + r - f
  let balance := payout - netCash
  { totalClaimedExpenditure := claimed
    totalVerifiedExpenditure := verified
    totalDisallowedExpenditure := disallowed
    totalVerifiedIncome := income
    netDeficit := netDeficit
    institutionalPayout := payout
    cashAdvanceDisbursed := advance
    rCleared := r
    fCleared := f
    netCashTransferred := netCash
    settlementBalance := balance
    reimbursementDue := if balance > 0 then balance else 0
    refundDue := if balance < 0 then -balance else 0
    settlementType := typeOfBalance balance }

/-- The settlement whose payments count: at most one hangs on an event. -/
def targetCleared (s : State) (type : SettlementPaymentType) : Int :=
  match s.settlement with
  | none => 0
  | some r => cleared type r.1.id s.payments

/-- The totals of the live ledger under a grant. -/
def liveTotals (s : State) (grant : Int) : SettlementTotals :=
  totalsOf (s.expenses.sum ActualExpense.claimedAmount) (s.expenses.sum verifiedPart)
    (s.expenses.sum disallowedPart) (s.incomes.sum incomePart) (disbursedPart s.advance)
    (targetCleared s .reimbursementDisbursement) (targetCleared s .advanceRefundReceipt) grant

/-- `_compute_settlement_totals`. -/
def computeSettlementTotals (s : State) (grant : Int) : Result SettlementTotals := do
  let unresolvedExp := s.expenses.rows.filter (fun e => e.Unresolved)
  refuse (unresolvedExp ≠ [])
    ⟨.businessRule, "Settlement cannot be prepared while %s expense claim(s) remain unresolved " ++
      "(statuses: %s). Every claim must be terminal (VERIFIED, PARTIALLY_VERIFIED, or DISALLOWED).",
      [.number unresolvedExp.length, .names (unresolvedExp.map fun e => e.status.value).dedup]⟩
  let unresolvedInc := s.incomes.rows.filter (fun i => i.status = .recorded)
  refuse (unresolvedInc ≠ [])
    ⟨.businessRule, "Settlement cannot be prepared while %s income entry(ies) remain in RECORDED " ++
      "status. All must be VERIFIED or REJECTED by Finance.", [.number unresolvedInc.length]⟩
  refuse (∃ a ∈ s.advance, a.1.Pending)
    ⟨.businessRule, "Cash advance for this event is still in '%s' status. Advance must be fully " ++
      "DISBURSED or REJECTED before settlement preparation.",
      [.names ((s.advance.map fun a => a.1.status.value).toList)]⟩
  return liveTotals s grant

/-- The ledger has nothing left to decide. -/
def LedgerResolved (s : State) : Prop :=
  (∀ e ∈ s.expenses, ¬ e.Unresolved) ∧ (∀ i ∈ s.incomes, i.status ≠ .recorded) ∧
    ∀ a ∈ s.advance, ¬ a.1.Pending

/-- The order of the rows decides nothing. -/
theorem LedgerResolved.perm {s s' : State} (h : LedgerResolved s)
    (hexp : s.expenses.rows.Perm s'.expenses.rows) (hinc : s.incomes.rows.Perm s'.incomes.rows)
    (hadv : s'.advance = s.advance) : LedgerResolved s' := by
  refine ⟨fun e he => h.1 e (hexp.mem_iff.mpr he), fun i hi => h.2.1 i (hinc.mem_iff.mpr hi), ?_⟩
  rw [hadv]
  exact h.2.2

@[simp] theorem computeSettlementTotals_accepts {s : State} {grant : Int} {t : SettlementTotals} :
    computeSettlementTotals s grant = .ok t ↔ LedgerResolved s ∧ liveTotals s grant = t := by
  simp only [computeSettlementTotals, bind_accepts, refuse_accepts, exists_unit, pure_accepts,
    not_not, ne_eq, List.filter_eq_nil_iff, decide_eq_true_iff, LedgerResolved, Table.mem_def,
    not_exists, not_and, and_assoc]

/-! ## 3. Preparation -/

/-- The live fingerprint under a sanction. -/
def liveFingerprint (cfg : Config) (s : State) (sanction : Sanction) : Text :=
  computeSourceFingerprint cfg sanction.approvedVersionId sanction.grant s.expenses.rows
    s.incomes.rows (s.advance.map Subtype.val)

/-- The row a first preparation inserts. -/
def compiledRow (id : Uuid) (sanction : Sanction) (totals : SettlementTotals) (preparedBy : Uuid) :
    FinancialSettlement where
  id := id
  approvedVersionId := sanction.approvedVersionId
  sanctionedGrant := sanction.grant
  sanctionedExpenditure := sanction.expenditure
  expectedIncome := sanction.expectedIncome
  totalClaimedExpenditure := totals.totalClaimedExpenditure
  totalVerifiedExpenditure := totals.totalVerifiedExpenditure
  totalDisallowedExpenditure := totals.totalDisallowedExpenditure
  totalVerifiedIncome := totals.totalVerifiedIncome
  netDeficit := totals.netDeficit
  institutionalPayout := totals.institutionalPayout
  cashAdvanceDisbursed := totals.cashAdvanceDisbursed
  settlementBalance := totals.settlementBalance
  reimbursementDue := totals.reimbursementDue
  refundDue := totals.refundDue
  settlementType := totals.settlementType
  status := .draft
  preparedBy := preparedBy

/-- The row a preparation leaves: a new one, or the reopened one recompiled in place, which keeps
    its key, its submission and audit stamps and its remarks. -/
def preparedRow (existing : Option (Stored FinancialSettlement)) (newId : Uuid)
    (sanction : Sanction) (totals : SettlementTotals) (preparedBy : Uuid) : FinancialSettlement :=
  match existing with
  | none => compiledRow newId sanction totals preparedBy
  | some r =>
      { compiledRow r.1.id sanction totals preparedBy with
        submittedAt := r.1.submittedAt
        auditedBy := r.1.auditedBy
        auditedAt := r.1.auditedAt
        financeRemarks := r.1.financeRemarks }

theorem preparedRow_status (existing : Option (Stored FinancialSettlement)) (newId : Uuid)
    (sanction : Sanction) (totals : SettlementTotals) (preparedBy : Uuid) :
    (preparedRow existing newId sanction totals preparedBy).status = .draft := by
  cases existing <;> rfl

/-- The audit entry of a preparation. -/
def preparationEntry (env : Env) (actor : User) (s : State) (sanction : Sanction)
    (totals : SettlementTotals) (settlementId : Uuid) (fingerprint : Text) : AuditEntry :=
  createAuditEntry env actor .settlementPrepared "financial_settlement" settlementId none
    (some [("event_id", .uuid s.event.id), ("status", .name SettlementStatus.draft.value),
      ("sanctioned_grant", .amount sanction.grant),
      ("total_verified_expenditure", .amount totals.totalVerifiedExpenditure),
      ("total_verified_income", .amount totals.totalVerifiedIncome),
      ("cash_advance_disbursed", .amount totals.cashAdvanceDisbursed),
      ("institutional_payout", .amount totals.institutionalPayout),
      ("settlement_balance", .amount totals.settlementBalance),
      ("settlement_type", .name totals.settlementType.value),
      ("approved_version_id", .uuid sanction.approvedVersionId),
      ("source_fingerprint", .text fingerprint)])

/-- The report is there and certified. -/
def ReportCertified (s : State) : Prop := ∃ r ∈ s.report, r.1.status = .certified

instance (s : State) : Decidable (ReportCertified s) :=
  inferInstanceAs (Decidable (∃ r ∈ s.report, _))

/-- `prepare_settlement`. -/
def prepareSettlement (cfg : Config) (env : Env) (actor : User) (newId : Uuid) (s : State) :
    Result State := do
  ensureEventMutable s.event
  verifyClubSecretary env s.event actor
  refuse (s.event.status ≠ .completed)
    ⟨.workflowState, "Event must be in COMPLETED status to prepare settlement (current: '%s').",
      [.name s.event.status.value]⟩
  refuse (¬ ReportCertified s)
    ⟨.workflowState, "Financial settlement preparation is blocked until the designated Faculty " ++
      "Advisor has certified delivery of the post-event report.", []⟩
  refuse (∃ r ∈ s.settlement, r.1.status ≠ .reopened)
    ⟨.conflict, "A financial settlement already exists for this event. Duplicate settlements " ++
      "are forbidden.", []⟩
  let sanction ← resolveSanctionedSnapshot s
  let totals ← computeSettlementTotals s sanction.grant
  let sourceFingerprint := liveFingerprint cfg s sanction
  let settlement ← fetch (store (preparedRow s.settlement newId sanction totals actor.id))
    ⟨.conflict, "A financial settlement already exists for this event (database uniqueness " ++
      "violation).", []⟩
  return { s with settlement := some settlement, attached := some sourceFingerprint }.log
    [preparationEntry env actor s sanction totals settlement.1.id sourceFingerprint]

/-! ## 4. Stale-data protection -/

/-- How the backend answers `entity_id = :id`, a text column against a `UUID` parameter: SQLite
    binds the 32 hexadecimal digits, PostgreSQL has no operator for `varchar = uuid`. -/
def entityIdEquals (backend : Backend) (id : Uuid) (log : AuditLog) : Result Bool :=
  match backend with
  | .sqlite => .ok (log.entityId = id.hex)
  | .postgresql =>
      .error ⟨.undefinedOperator, "operator does not exist: character varying = uuid", []⟩

/-- `ORDER BY created_at DESC LIMIT 1`. -/
def latestEntry : List AuditLog → Option AuditLog
  | [] => none
  | l :: rest =>
      match latestEntry rest with
      | none => some l
      | some m => if l.createdAt > m.createdAt then some l else some m

/-- The lookup's query; the type test of the operands is made even when no row is there. -/
def latestPreparation (backend : Backend) (id : Uuid) (logs : List AuditLog) :
    Result (Option AuditLog) :=
  match backend with
  | .sqlite =>
      .ok (latestEntry (logs.filter fun l =>
        l.entityType = "financial_settlement" ∧ entityIdEquals .sqlite id l = .ok true ∧
          l.action = .settlementPrepared))
  | .postgresql =>
      .error ⟨.undefinedOperator, "operator does not exist: character varying = uuid", []⟩

/-- The fingerprint a preparation entry carries. -/
def recordedFingerprint (log : AuditLog) : Option Text :=
  match log.newState.bind (fun d => StateDict.get d "source_fingerprint") with
  | some (.text fp) => if fp = [] then none else some fp
  | _ => none

/-- `_get_prepared_source_fingerprint`; what it finds in the log it also attaches. -/
def getPreparedSourceFingerprint (cfg : Config) (s : State) (settlementId : Uuid) :
    Result (Option Text) :=
  match s.attached.filter (fun fp => fp ≠ []) with
  | some cached => return some cached
  | none => do
      let entry ← latestPreparation cfg.backend settlementId s.auditLogs
      return entry.bind recordedFingerprint

/-- The mismatches `_verify_live_source_consistency` collects, each a text and its values. -/
def mismatches (r : FinancialSettlement) (sanction : Sanction) (totals : SettlementTotals)
    (prepared : Option Text) (current : Text) : List (String × List Value) :=
  (if r.approvedVersionId ≠ sanction.approvedVersionId then
    [("Approved event proposal version changed (%s -> %s)",
      [.uuid r.approvedVersionId, .uuid sanction.approvedVersionId])] else []) ++
  (if r.sanctionedGrant ≠ sanction.grant then
    [("Sanctioned grant changed (%s -> %s)",
      [.amount r.sanctionedGrant, .amount sanction.grant])] else []) ++
  (match prepared with
    | none => []
    | some fp => if current ≠ fp then
        [("Source records fingerprint mismatch (prepared: %s..., live: %s...)",
          [.text (fp.take 8), .text (current.take 8)])] else []) ++
  (if r.totalVerifiedExpenditure ≠ totals.totalVerifiedExpenditure then
    [("Verified expenditure changed (%s -> %s)",
      [.amount r.totalVerifiedExpenditure, .amount totals.totalVerifiedExpenditure])] else []) ++
  (if r.totalVerifiedIncome ≠ totals.totalVerifiedIncome then
    [("Verified income changed (%s -> %s)",
      [.amount r.totalVerifiedIncome, .amount totals.totalVerifiedIncome])] else []) ++
  (if r.cashAdvanceDisbursed ≠ totals.cashAdvanceDisbursed then
    [("Disbursed advance changed (%s -> %s)",
      [.amount r.cashAdvanceDisbursed, .amount totals.cashAdvanceDisbursed])] else [])

/-- `_verify_live_source_consistency`: the fingerprint it found to compare with, if any. -/
def verifyLiveSourceConsistency (cfg : Config) (s : State) (r : FinancialSettlement) :
    Result (Option Text) := do
  let sanction ← resolveSanctionedSnapshot s
  let totals ← computeSettlementTotals s sanction.grant
  let prepared ← getPreparedSourceFingerprint cfg s r.id
  let found := mismatches r sanction totals prepared (liveFingerprint cfg s sanction)
  refuse (found ≠ [])
    ⟨.settlementStaleData, "Settlement source data has changed since preparation: %s. The " ++
      "settlement calculation is stale and must be recalculated.",
      [.names (found.map Prod.fst)] ++ (found.map Prod.snd).flatten⟩
  return prepared

/-- **The live sources agree with the stored row**, as far as the check compares them: `prepared`
    is the fingerprint it compared with, `none` where it found none and compared nothing. -/
structure Consistent (cfg : Config) (s : State) (r : FinancialSettlement)
    (prepared : Option Text) (sanction : Sanction) : Prop where
  sanctioned : resolveSanctionedSnapshot s = .ok sanction
  resolved : LedgerResolved s
  compared : getPreparedSourceFingerprint cfg s r.id = .ok prepared
  version : r.approvedVersionId = sanction.approvedVersionId
  grant : r.sanctionedGrant = sanction.grant
  fingerprint : ∀ fp ∈ prepared, liveFingerprint cfg s sanction = fp
  verified : r.totalVerifiedExpenditure = s.expenses.sum verifiedPart
  income : r.totalVerifiedIncome = s.incomes.sum incomePart
  advance : r.cashAdvanceDisbursed = disbursedPart s.advance

theorem mismatches_eq_nil {r : FinancialSettlement} {sanction : Sanction}
    {totals : SettlementTotals} {prepared : Option Text} {current : Text} :
    mismatches r sanction totals prepared current = [] ↔
      r.approvedVersionId = sanction.approvedVersionId ∧ r.sanctionedGrant = sanction.grant ∧
        (∀ fp ∈ prepared, current = fp) ∧
        r.totalVerifiedExpenditure = totals.totalVerifiedExpenditure ∧
        r.totalVerifiedIncome = totals.totalVerifiedIncome ∧
        r.cashAdvanceDisbursed = totals.cashAdvanceDisbursed := by
  have single : ∀ (c : Prop) [Decidable c] (m : String × List Value),
      (if c then [m] else []) = [] ↔ ¬ c := by
    intro c _ m
    by_cases h : c <;> simp [h]
  unfold mismatches
  simp only [List.append_eq_nil_iff, single, not_not, ne_eq, and_assoc]
  cases prepared with
  | none => simp
  | some fp => simp

@[simp] theorem verifyLiveSourceConsistency_accepts {cfg : Config} {s : State}
    {r : FinancialSettlement} {prepared : Option Text} :
    verifyLiveSourceConsistency cfg s r = .ok prepared ↔
      ∃ sanction, Consistent cfg s r prepared sanction := by
  simp only [verifyLiveSourceConsistency, bind_accepts, refuse_accepts, exists_unit, pure_accepts,
    not_not, ne_eq, computeSettlementTotals_accepts, mismatches_eq_nil]
  constructor
  · intro hex
    obtain ⟨sanction, hs, totals, ⟨hres, rfl⟩, p, hp, ⟨h1, h2, h3, h4, h5, h6⟩, rfl⟩ := hex
    exact ⟨sanction, hs, hres, hp, h1, h2, h3, h4, h5, h6⟩
  · intro hex
    obtain ⟨sanction, hs, hres, hp, h1, h2, h3, h4, h5, h6⟩ := hex
    exact ⟨sanction, hs, _, ⟨hres, rfl⟩, prepared, hp, ⟨h1, h2, h3, h4, h5, h6⟩, rfl⟩

/-! ## 5. Submission and audit -/

/-- `SELECT … FROM financial_settlements WHERE id = …`. -/
def settlementById (s : State) (id : Uuid) : Option (Stored FinancialSettlement) :=
  s.settlement.filter (fun r => r.1.id = id)

/-- The failure of a settlement key that is not there. -/
def settlementMissing (id : Uuid) : Failure :=
  ⟨.notFound, "Financial settlement '%s' not found.", [.uuid id]⟩

/-- `submit_settlement`. -/
def submitSettlement (cfg : Config) (env : Env) (actor : User) (settlementId : Uuid) (s : State) :
    Result State := do
  let settlement ← fetch (settlementById s settlementId) (settlementMissing settlementId)
  ensureEventMutable s.event
  verifyClubSecretary env s.event actor
  refuse (¬ (settlement.1.status = .draft ∨ settlement.1.status = .queried ∨
      settlement.1.status = .reopened))
    ⟨.invalidWorkflowTransition, "Cannot submit settlement in '%s' status. Must be in DRAFT, " ++
      "QUERIED, or REOPENED status.", [.name settlement.1.status.value]⟩
  let prepared ← verifyLiveSourceConsistency cfg s settlement.1
  let row ← fetch (store
    { settlement.1 with
      status := .underAudit
      submittedAt := some env.now }) integrityError
  return { s with settlement := some row, attached := prepared }.log
    [createAuditEntry env actor .settlementSubmitted "financial_settlement" settlement.1.id
      (some [("status", .name settlement.1.status.value)])
      (some [("status", .name SettlementStatus.underAudit.value),
        ("submitted_at", .time env.now)])]

/-- The two decisions an audit knows. -/
inductive AuditDecision where
  | approve
  | query
  deriving DecidableEq, Repr

/-- `action.strip().upper()` as a decision. -/
def parseAuditAction (action : Text) : Option AuditDecision :=
  let norm := upper (strip action)
  if norm = "APPROVE".toList then some .approve
  else if norm = "QUERY".toList then some .query
  else none

/-- The status an approval gives, by the stored type. -/
def approvedStatus : SettlementType → SettlementStatus
  | .balanced => .settled
  | .reimbursementDue => .pendingReimbursement
  | .refundDue => .pendingRefund

/-- The audit entries of an approval: a second one where it settles at once. -/
def approvalEntries (env : Env) (actor : User) (r : FinancialSettlement) : List AuditEntry :=
  let previous := [("status", Value.name r.status.value)]
  createAuditEntry env actor .settlementApproved "financial_settlement" r.id (some previous)
    (some [("status", .name (approvedStatus r.settlementType).value),
      ("settlement_type", .name r.settlementType.value),
      ("reimbursement_due", .amount r.reimbursementDue), ("refund_due", .amount r.refundDue),
      ("audited_at", .time env.now)]) ::
  if approvedStatus r.settlementType = .settled then
    [createAuditEntry env actor .settlementSettled "financial_settlement" r.id (some previous)
      (some [("status", .name SettlementStatus.settled.value)])]
  else []

/-- `audit_settlement`. -/
def auditSettlement (cfg : Config) (env : Env) (actor : User) (settlementId : Uuid) (action : Text)
    (remarks queryReason : Option Text) (s : State) : Result State := do
  verifyFinanceOfficer actor
  let decision ← fetch (parseAuditAction action)
    ⟨.badRequest, "Audit action must be either 'APPROVE' or 'QUERY'.", []⟩
  let settlement ← fetch (settlementById s settlementId) (settlementMissing settlementId)
  refuse (settlement.1.status ≠ .underAudit)
    ⟨.invalidWorkflowTransition, "Cannot audit settlement in '%s' status. Must be 'UNDER_AUDIT'.",
      [.name settlement.1.status.value]⟩
  ensureEventMutable s.event
  let prepared ← verifyLiveSourceConsistency cfg s settlement.1
  let financeRemarks := (stripped remarks).or settlement.1.financeRemarks
  match decision with
  | .query => do
      let reason ← fetch (queryReason.filter (fun q => ¬ isBlank q))
        ⟨.badRequest, "Query reason is mandatory when querying a settlement.", []⟩
      let row ← fetch (store
        { settlement.1 with
          status := .queried
          queryReason := some (strip reason)
          financeRemarks := financeRemarks }) integrityError
      return { s with settlement := some row, attached := prepared }.log
        [createAuditEntry env actor .settlementQueried "financial_settlement" settlement.1.id
          (some [("status", .name settlement.1.status.value)])
          (some [("status", .name SettlementStatus.queried.value),
            ("query_reason", .text reason), ("finance_remarks", Value.ofText remarks)])]
  | .approve => do
      let row ← fetch (store
        { settlement.1 with
          auditedBy := some actor.id
          auditedAt := some env.now
          financeRemarks := financeRemarks
          queryReason := none
          status := approvedStatus settlement.1.settlementType }) integrityError
      return { s with settlement := some row, attached := prepared }.log
        (approvalEntries env actor settlement.1)

/-! ## 6. Payments -/

/-- The payment type a settlement type asks for. -/
def directionOf : SettlementType → Option SettlementPaymentType
  | .reimbursementDue => some .reimbursementDisbursement
  | .refundDue => some .advanceRefundReceipt
  | .balanced => none

/-- What is left to pay in the direction of the settlement's type. -/
def remainingDue (type : SettlementType) (payout netCash : Int) : Int :=
  match type with
  | .reimbursementDue => payout - netCash
  | _ => netCash - payout

/-- The refusal of a payment in the wrong direction. -/
def wrongDirection (type : SettlementType) (given : SettlementPaymentType) : Failure :=
  match type with
  | .reimbursementDue => ⟨.businessRule, "Invalid payment type '%s' for reimbursement settlement. " ++
      "Must be 'REIMBURSEMENT_DISBURSEMENT'.", [.name given.value]⟩
  | _ => ⟨.businessRule, "Invalid payment type '%s' for refund settlement. Must be " ++
      "'ADVANCE_REFUND_RECEIPT'.", [.name given.value]⟩

/-- The arguments of `record_payment` beside the settlement and the actor. -/
structure PaymentArgs where
  paymentType : SettlementPaymentType
  amount : Int
  paymentMethod : PaymentMethod
  transactionReference : Text
  transactionDate : Instant
  proofDocumentId : Uuid
  notes : Option Text := none
  deriving DecidableEq, Repr

/-- The row a payment inserts. -/
def paymentRow (newId settlementId : Uuid) (args : PaymentArgs) (recordedBy : Uuid) :
    SettlementPayment where
  id := newId
  settlementId := settlementId
  paymentType := args.paymentType
  amount := args.amount
  paymentMethod := args.paymentMethod
  transactionReference := strip args.transactionReference
  transactionDate := args.transactionDate
  proofDocumentId := args.proofDocumentId
  recordedBy := recordedBy
  notes := stripped args.notes

/-- The settlement row after a payment leaves `remaining` to pay. -/
def clearedRow (r : FinancialSettlement) (remaining : Int) : FinancialSettlement :=
  if remaining ≤ 0 then { r with status := .settled } else r

/-- `record_payment`. -/
def recordPayment (env : Env) (actor : User) (settlementId newId : Uuid) (args : PaymentArgs)
    (s : State) : Result State := do
  verifyFinanceOfficer actor
  let settlement ← fetch (settlementById s settlementId) (settlementMissing settlementId)
  refuse (¬ (settlement.1.status = .pendingReimbursement ∨ settlement.1.status = .pendingRefund))
    ⟨.invalidWorkflowTransition, "Cannot record payment for settlement in '%s' status. " ++
      "Settlement must be PENDING_REIMBURSEMENT or PENDING_REFUND.",
      [.name settlement.1.status.value]⟩
  ensureEventMutable s.event
  let type := settlement.1.settlementType
  let direction ← fetch (directionOf type)
    ⟨.businessRule, "Balanced settlements require no payment.", []⟩
  refuse (args.paymentType ≠ direction) (wrongDirection type args.paymentType)
  let payout := settlement.1.institutionalPayout
  let remaining := remainingDue type payout (netCash s.payments settlement.1)
  refuse (args.amount ≤ 0) ⟨.badRequest, "Payment amount must be greater than zero.", []⟩
  refuse (isBlank args.transactionReference)
    ⟨.badRequest, "Transaction reference is mandatory.", []⟩
  verifyEvidence env s.event args.proofDocumentId .settlementPaymentProof
    "Payment proof doc '%s' not found or inactive."
    "Document must have DocumentType.SETTLEMENT_PAYMENT_PROOF."
    "Payment proof document does not belong to this event (cross-event reuse forbidden)."
  refuse (args.amount > remaining)
    ⟨.businessRule, "Payment amount (%s) exceeds remaining balance due (%s). Overpayments are " ++
      "strictly forbidden.", [.amount args.amount, .amount remaining]⟩
  let payment ← fetch (store (paymentRow newId settlement.1.id args actor.id)) integrityError
  let payments := s.payments ++ [payment]
  let newNetCash := netCash payments settlement.1
  let newRemaining := remainingDue type payout newNetCash
  let row ← fetch (store (clearedRow settlement.1 newRemaining)) integrityError
  return { s with settlement := some row, payments := payments }.log
    (createAuditEntry env actor .settlementPaymentRecorded "settlement_payment" newId none
      (some [("settlement_id", .uuid settlement.1.id),
        ("payment_type", .name args.paymentType.value), ("amount", .amount args.amount),
        ("transaction_reference", .text args.transactionReference),
        ("proof_document_id", .uuid args.proofDocumentId)]) ::
      if newRemaining ≤ 0 then
        [createAuditEntry env actor .settlementSettled "financial_settlement" settlement.1.id
          (some [("status", .name settlement.1.status.value)])
          (some [("status", .name SettlementStatus.settled.value),
            ("net_cash_transferred", .amount newNetCash),
            ("institutional_payout", .amount payout)])]
      else [])

/-! ## 7. Reopening -/

/-- `_verify_reopen_authority`. -/
def verifyReopenAuthority (actor : User) : Result Unit := do
  refuse (actor.role = .systemAdmin)
    ⟨.forbidden, "System administrators are strictly barred from reopening financial " ++
      "settlements.", []⟩
  refuse (¬ (actor.role = .financeOfficer ∨ actor.role = .principal ∨
      actor.role = .deanStudentAffairs))
    ⟨.forbidden, "Only Finance Officers, the Dean of Student Affairs, and the Principal are " ++
      "authorized to reopen a settlement.", []⟩

/-- One payment as a revision's snapshot records it. -/
def paymentSnapshot (p : SettlementPayment) : PaymentSnapshot where
  id := p.id
  paymentType := p.paymentType
  amount := p.amount
  paymentMethod := p.paymentMethod
  transactionReference := p.transactionReference
  transactionDate := p.transactionDate
  proofDocumentId := p.proofDocumentId

/-- `snapshot_data` of a settlement and its payments. -/
def settlementSnapshot (s : State) (r : FinancialSettlement) : SettlementSnapshot where
  settlement := r
  payments := (s.payments.filter fun p => p.1.settlementId = r.id).map fun p => paymentSnapshot p.1

/-- The revision a reopening adds, numbered by the count of those there. -/
def settlementRevision (s : State) (newId : Uuid) (r : FinancialSettlement) (reason : Text)
    (actor : User) : SettlementRevision where
  id := newId
  settlementId := r.id
  revisionNumber := (s.settlementRevisions.filter fun v => v.settlementId = r.id).length + 1
  snapshotData := settlementSnapshot s r
  reopenedBy := actor.id
  reopeningReason := strip reason

/-- `reopen_settlement`. -/
def reopenSettlement (env : Env) (actor : User) (settlementId newId : Uuid) (reopeningReason : Text)
    (s : State) : Result State := do
  verifyReopenAuthority actor
  refuse (isBlank reopeningReason) ⟨.badRequest, "Reopening reason is mandatory.", []⟩
  let settlement ← fetch (settlementById s settlementId) (settlementMissing settlementId)
  refuse (settlement.1.status ≠ .settled)
    ⟨.businessRule, "Cannot reopen settlement in '%s' status. Only 'SETTLED' settlements can be " ++
      "reopened.", [.name settlement.1.status.value]⟩
  refuse s.event.Sealed
    ⟨.conflict, "Cannot reopen settlement directly while event is in terminal status '%s'. Event " ++
      "reopening petition and approval by Dean/Principal is required.",
      [.name s.event.status.value]⟩
  let revision := settlementRevision s newId settlement.1 reopeningReason actor
  refuse (∃ v ∈ s.settlementRevisions, v.settlementId = revision.settlementId ∧
      v.revisionNumber = revision.revisionNumber) integrityError
  let row ← fetch (store { settlement.1 with status := .reopened }) integrityError
  return { s with
    settlement := some row
    settlementRevisions := s.settlementRevisions ++ [revision] }.log
    [createAuditEntry env actor .settlementReopened "financial_settlement" settlement.1.id
      (some [("status", .name settlement.1.status.value)])
      (some [("status", .name SettlementStatus.reopened.value),
        ("revision_number", .number revision.revisionNumber),
        ("reopening_reason", .text reopeningReason)])]

/-! ## 8. Closure eligibility -/

/-- `_verify_event_viewer`. -/
def verifyEventViewer (env : Env) (event : Event) (actor : User) : Result Unit :=
  refuse (¬ (actor.role = .financeOfficer ∨ actor.role = .systemAdmin ∨ actor.role = .principal ∨
      actor.role = .deanStudentAffairs ∨ actor.role = .advisorStudentsUnion ∨
      env.IsAdvisor event.clubId actor.id ∨ env.IsMember event.clubId actor.id))
    ⟨.forbidden, "You are not authorized to view financial records for this event.", []⟩

/-- What can stand between an event and its closure, in the order it is looked at. -/
inductive Blocker where
  | eventDeleted
  | eventCancelled
  | eventNotCompleted
  | postEventReportNotCertified
  | unresolvedExpenses
  | unverifiedIncome
  | advanceUnresolved
  | settlementMissing
  | settlementNotSettled
  | paymentOutstanding
  | venueBookingNotEnded
  deriving DecidableEq, Repr

def Blocker.value : Blocker → String
  | .eventDeleted => "EVENT_DELETED"
  | .eventCancelled => "EVENT_CANCELLED"
  | .eventNotCompleted => "EVENT_NOT_COMPLETED"
  | .postEventReportNotCertified => "POST_EVENT_REPORT_NOT_CERTIFIED"
  | .unresolvedExpenses => "UNRESOLVED_EXPENSES"
  | .unverifiedIncome => "UNVERIFIED_INCOME"
  | .advanceUnresolved => "ADVANCE_UNRESOLVED"
  | .settlementMissing => "SETTLEMENT_MISSING"
  | .settlementNotSettled => "SETTLEMENT_NOT_SETTLED"
  | .paymentOutstanding => "PAYMENT_OUTSTANDING"
  | .venueBookingNotEnded => "VENUE_BOOKING_NOT_ENDED"

/-- The settlement's own blockers. -/
def settlementBlockers (s : State) : List Blocker :=
  match s.settlement with
  | none => [.settlementMissing]
  | some r =>
      if r.1.status ≠ .settled then [.settlementNotSettled]
      else if netCash s.payments r.1 ≠ r.1.institutionalPayout then [.paymentOutstanding]
      else []

/-- The blockers `get_closure_eligibility` of the settlement service collects. -/
def closureBlockers (s : State) : List Blocker :=
  (if s.event.status ≠ .completed then [.eventNotCompleted] else []) ++
  (if ¬ ReportCertified s then [.postEventReportNotCertified] else []) ++
  (if ∃ e ∈ s.expenses.rows, e.Unresolved then [.unresolvedExpenses] else []) ++
  (if ∃ i ∈ s.incomes.rows, i.status = .recorded then [.unverifiedIncome] else []) ++
  (if ∃ a ∈ s.advance, a.1.Pending then [.advanceUnresolved] else []) ++
  settlementBlockers s

/-- `SettlementService.get_closure_eligibility`: it is eligible when the list is empty. -/
def getClosureEligibility (env : Env) (actor : User) (s : State) : Result (List Blocker) := do
  verifyEventViewer env s.event actor
  return closureBlockers s

end SettlementService

end CampusConnect
