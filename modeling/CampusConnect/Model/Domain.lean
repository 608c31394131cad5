/-
  File:      CampusConnect/Model/Domain.lean
  Subject:   The rows of `models/domain.py` that hang on one confirmed event, and their tables.

  A structure carries the columns the modelled services read or write. The CHECK constraints of a
  table are the `Check` of its `Row` instance, so a stored row meets them. `State` is the part of
  the database that belongs to one event, together with the one attribute the services keep on an
  in-memory object between two operations of a session (`attached`).
-/
import CampusConnect.Model.Proposal

namespace CampusConnect

open Rows

/-! ## 1. People, clubs and documents -/

structure User where
  id : Uuid
  email : Text
  role : UserRole
  deriving DecidableEq, Repr

structure ClubMember where
  clubId : Uuid
  userId : Uuid
  memberRole : ClubMemberRole
  isActive : Bool
  deriving DecidableEq, Repr

structure Club where
  id : Uuid
  name : Text
  facultyAdvisorId : Option Uuid
  isActive : Bool
  deletedAt : Option Instant := none
  deriving DecidableEq, Repr

structure Document where
  id : Uuid
  isActive : Bool
  documentType : DocumentType
  eventId : Option Uuid
  eventRequestId : Option Uuid
  deriving DecidableEq, Repr

/-! ## 2. The event and its report -/

structure Event where
  id : Uuid
  eventRequestId : Uuid
  approvedVersionId : Uuid
  clubId : Uuid
  hallId : Option Uuid := none
  title : Text
  description : Option Text := none
  eventType : EventType
  eventDate : Instant
  startTime : Instant
  endTime : Instant
  expectedAttendees : Option Nat := none
  status : EventStatus
  academicYear : Text
  cancelledAt : Option Instant := none
  cancellationReason : Option Text := none
  cancelledBy : Option Uuid := none
  deletedAt : Option Instant := none
  deriving DecidableEq, Repr

structure PostEventReport where
  id : Uuid
  revisionNumber : Nat
  actualAttendance : Int
  summary : Text
  objectivesAchieved : Text
  outcomes : Option Text
  challenges : Option Text
  status : PostEventReportStatus
  submittedBy : Uuid
  submittedAt : Instant
  certifiedBy : Option Uuid := none
  certifiedAt : Option Instant := none
  certificationRemarks : Option Text := none
  deriving DecidableEq, Repr

instance : Row PostEventReport Uuid where
  key := PostEventReport.id
  Check r := 0 < r.actualAttendance ∧ 1 ≤ r.revisionNumber
  decCheck r := inferInstanceAs (Decidable (0 < r.actualAttendance ∧ 1 ≤ r.revisionNumber))

/-! ## 3. The ledger -/

structure ActualExpense where
  id : Uuid
  budgetLineItemId : Option Uuid
  category : BudgetLineItemCategory
  description : Text
  vendorName : Text
  vendorGstin : Option Text
  invoiceNumber : Option Text
  invoiceDate : Date
  claimedAmount : Int
  verifiedAmount : Option Int
  status : ActualExpenseStatus
  billDocumentId : Uuid
  submittedBy : Uuid
  submittedAt : Option Instant
  verifiedBy : Option Uuid := none
  verifiedAt : Option Instant := none
  financeRemarks : Option Text := none
  queryReason : Option Text := none
  isFlaggedForReview : Bool
  reviewNotes : Option String
  deriving DecidableEq, Repr

/-- Finance has decided the claim. -/
def ActualExpense.Decided (e : ActualExpense) : Prop :=
  e.status = .verified ∨ e.status = .partiallyVerified ∨ e.status = .disallowed

instance (e : ActualExpense) : Decidable e.Decided := inferInstanceAs (Decidable (_ ∨ _ ∨ _))

/-- `ActualExpense.disallowed_amount`. -/
def ActualExpense.disallowedAmount (e : ActualExpense) : Int :=
  if e.Decided then max 0 (e.claimedAmount - e.verifiedAmount.getD 0) else 0

/-- The three CHECK constraints of `actual_expenses`. -/
def ActualExpense.Check (e : ActualExpense) : Prop :=
  0 < e.claimedAmount ∧ ∀ v ∈ e.verifiedAmount, 0 ≤ v ∧ v ≤ e.claimedAmount

instance (e : ActualExpense) : Decidable e.Check :=
  inferInstanceAs (Decidable (_ ∧ _))

instance : Row ActualExpense Uuid where
  key := ActualExpense.id
  Check := ActualExpense.Check

structure CashAdvance where
  id : Uuid
  amountRequested : Int
  amountApproved : Option Int
  amountDisbursed : Int
  status : CashAdvanceStatus
  recipientId : Uuid
  approvedBy : Option Uuid := none
  disbursedBy : Option Uuid := none
  disbursementDate : Option Instant := none
  paymentReference : Option Text := none
  notes : Option Text := none
  rejectionReason : Option Text := none
  deriving DecidableEq, Repr

/-- The four CHECK constraints of `cash_advances`. -/
def CashAdvance.Check (a : CashAdvance) : Prop :=
  0 < a.amountRequested ∧ 0 ≤ a.amountDisbursed ∧
    ∀ p ∈ a.amountApproved, 0 ≤ p ∧ a.amountDisbursed ≤ p

instance (a : CashAdvance) : Decidable a.Check :=
  inferInstanceAs (Decidable (_ ∧ _ ∧ _))

instance : Row CashAdvance Uuid where
  key := CashAdvance.id
  Check := CashAdvance.Check

structure ActualIncome where
  id : Uuid
  sourceType : IncomeSourceType
  description : Text
  payerName : Text
  amount : Int
  receivedDate : Date
  referenceNumber : Option Text
  evidenceDocumentId : Uuid
  status : ActualIncomeStatus
  recordedBy : Uuid
  verifiedBy : Option Uuid := none
  verifiedAt : Option Instant := none
  financeRemarks : Option Text := none
  deriving DecidableEq, Repr

instance : Row ActualIncome Uuid where
  key := ActualIncome.id
  Check i := 0 < i.amount
  decCheck i := inferInstanceAs (Decidable (0 < i.amount))

/-! ## 4. The settlement -/

structure FinancialSettlement where
  id : Uuid
  approvedVersionId : Uuid
  sanctionedGrant : Int
  sanctionedExpenditure : Int
  expectedIncome : Int
  totalClaimedExpenditure : Int
  totalVerifiedExpenditure : Int
  totalDisallowedExpenditure : Int
  totalVerifiedIncome : Int
  netDeficit : Int
  institutionalPayout : Int
  cashAdvanceDisbursed : Int
  settlementBalance : Int
  reimbursementDue : Int
  refundDue : Int
  settlementType : SettlementType
  status : SettlementStatus
  preparedBy : Uuid
  submittedAt : Option Instant := none
  auditedBy : Option Uuid := none
  auditedAt : Option Instant := none
  financeRemarks : Option Text := none
  queryReason : Option Text := none
  deriving DecidableEq, Repr

/-- The CHECK constraints of `financial_settlements`. -/
def FinancialSettlement.Check (s : FinancialSettlement) : Prop :=
  0 ≤ s.sanctionedGrant ∧ 0 ≤ s.sanctionedExpenditure ∧ 0 ≤ s.totalClaimedExpenditure ∧
    0 ≤ s.totalVerifiedExpenditure ∧ 0 ≤ s.totalDisallowedExpenditure ∧
    0 ≤ s.totalVerifiedIncome ∧ 0 ≤ s.netDeficit ∧ 0 ≤ s.institutionalPayout ∧
    0 ≤ s.cashAdvanceDisbursed ∧ 0 ≤ s.reimbursementDue ∧ 0 ≤ s.refundDue

instance (s : FinancialSettlement) : Decidable s.Check :=
  inferInstanceAs (Decidable (_ ∧ _ ∧ _ ∧ _ ∧ _ ∧ _ ∧ _ ∧ _ ∧ _ ∧ _ ∧ _))

instance : Row FinancialSettlement Uuid where
  key := FinancialSettlement.id
  Check := FinancialSettlement.Check

structure SettlementPayment where
  id : Uuid
  settlementId : Uuid
  paymentType : SettlementPaymentType
  amount : Int
  paymentMethod : PaymentMethod
  transactionReference : Text
  transactionDate : Instant
  proofDocumentId : Uuid
  recordedBy : Uuid
  notes : Option Text
  deriving DecidableEq, Repr

instance : Row SettlementPayment Uuid where
  key := SettlementPayment.id
  Check p := 0 < p.amount
  decCheck p := inferInstanceAs (Decidable (0 < p.amount))

/-- One payment inside a revision's snapshot. -/
structure PaymentSnapshot where
  id : Uuid
  paymentType : SettlementPaymentType
  amount : Int
  paymentMethod : PaymentMethod
  transactionReference : Text
  transactionDate : Instant
  proofDocumentId : Uuid
  deriving DecidableEq, Repr

/-- `snapshot_data`: every column of the settlement row and its payments. -/
structure SettlementSnapshot where
  settlement : FinancialSettlement
  payments : List PaymentSnapshot
  deriving DecidableEq, Repr

structure SettlementRevision where
  id : Uuid
  settlementId : Uuid
  revisionNumber : Nat
  snapshotData : SettlementSnapshot
  reopenedBy : Uuid
  reopeningReason : Text
  deriving DecidableEq, Repr

/-! ## 5. The closure -/

structure EventClosure where
  id : Uuid
  settlementId : Uuid
  postEventReportId : Uuid
  requestedBy : Option Uuid
  requestedAt : Option Instant
  certifiedBy : Uuid
  certifiedAt : Instant
  closureNotes : Option Text
  venueCleared : Bool
  certificateManifestHash : Text
  deriving DecidableEq, Repr

/-- `snapshot_data`: the closure row and the settlement's figures at the reopening. -/
structure ClosureSnapshot where
  closure : EventClosure
  settlementStatus : SettlementStatus
  sanctionedGrant : Int
  totalVerifiedExpenditure : Int
  totalVerifiedIncome : Int
  institutionalPayout : Int
  settlementBalance : Int
  reopenedBy : Uuid
  reopenedAt : Instant
  reopeningReason : Text
  deriving DecidableEq, Repr

structure EventClosureRevision where
  id : Uuid
  closureId : Uuid
  revisionNumber : Nat
  reopenedBy : Uuid
  reopenedAt : Instant
  reopeningReason : Text
  snapshotData : ClosureSnapshot
  createdAt : Instant
  deriving DecidableEq, Repr

/-! ## 6. The audit log -/

/-- A `previous_state` or `new_state` object. -/
abbrev StateDict := List (String × Value)

/-- `entity_id` is a text column. -/
structure AuditLog where
  actorId : Uuid
  actorEmail : Text
  actorRole : UserRole
  action : AuditAction
  entityType : String
  entityId : Text
  previousState : Option StateDict
  newState : Option StateDict
  reason : Option Text := none
  createdAt : Instant
  deriving DecidableEq, Repr

/-- A row of the audit log with the actions of one service, about rows of one table. -/
structure ServiceLog (Action : Type) where
  actorId : Uuid
  actorEmail : Text
  actorRole : UserRole
  action : Action
  entityId : Text
  previousState : Option StateDict
  newState : Option StateDict
  reason : Option Text := none
  createdAt : Instant
  deriving DecidableEq, Repr

/-! ## 7. The state of one event -/

/-- Everything the database holds on one event and its proposal, and `attached`: the `_source_fingerprint`
    attribute on the settlement object of the session in use, if it carries one. -/
structure State where
  proposal : Proposal
  event : Event
  report : Option (Stored PostEventReport)
  advance : Option (Stored CashAdvance)
  incomes : Table ActualIncome
  expenses : Table ActualExpense
  settlement : Option (Stored FinancialSettlement)
  payments : List (Stored SettlementPayment)
  settlementRevisions : List SettlementRevision
  closure : Option EventClosure
  closureRevisions : List EventClosureRevision
  auditLogs : List AuditLog
  attached : Option Text
  deriving DecidableEq

end CampusConnect
