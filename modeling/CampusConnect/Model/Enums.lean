/-
  File:      CampusConnect/Model/Enums.lean
  Subject:   The enumerations of `models/enums.py`.

  A member keeps the source's words. `value` is the member's string, where some modelled function
  prints it, stores it in an audit entry or hashes it.
-/
import Mathlib.Data.Nat.Notation

namespace CampusConnect

inductive UserRole where
  | systemAdmin
  | clubSecretary
  | facultyAdvisor
  | hallIncharge
  | advisorStudentsUnion
  | deanStudentAffairs
  | principal
  | financeOfficer
  deriving DecidableEq, Repr

def UserRole.value : UserRole → String
  | .systemAdmin => "SYSTEM_ADMIN"
  | .clubSecretary => "CLUB_SECRETARY"
  | .facultyAdvisor => "FACULTY_ADVISOR"
  | .hallIncharge => "HALL_INCHARGE"
  | .advisorStudentsUnion => "ADVISOR_STUDENTS_UNION"
  | .deanStudentAffairs => "DEAN_STUDENT_AFFAIRS"
  | .principal => "PRINCIPAL"
  | .financeOfficer => "FINANCE_OFFICER"

inductive EventType where
  | cultural
  | technical
  | sports
  | workshop
  | seminar
  | guestLecture
  | competition
  | outreach
  | other
  deriving DecidableEq, Repr

def EventType.value : EventType → String
  | .cultural => "CULTURAL"
  | .technical => "TECHNICAL"
  | .sports => "SPORTS"
  | .workshop => "WORKSHOP"
  | .seminar => "SEMINAR"
  | .guestLecture => "GUEST_LECTURE"
  | .competition => "COMPETITION"
  | .outreach => "OUTREACH"
  | .other => "OTHER"

inductive EventRequestStatus where
  | draft
  | submitted
  | inReview
  | revisionRequired
  | approved
  | rejected
  | cancelled
  deriving DecidableEq, Repr

def EventRequestStatus.value : EventRequestStatus → String
  | .draft => "DRAFT"
  | .submitted => "SUBMITTED"
  | .inReview => "IN_REVIEW"
  | .revisionRequired => "REVISION_REQUIRED"
  | .approved => "APPROVED"
  | .rejected => "REJECTED"
  | .cancelled => "CANCELLED"

inductive WorkflowInstanceStatus where
  | inProgress
  | completed
  | rejected
  | cancelled
  | superseded
  deriving DecidableEq, Repr

def WorkflowInstanceStatus.value : WorkflowInstanceStatus → String
  | .inProgress => "IN_PROGRESS"
  | .completed => "COMPLETED"
  | .rejected => "REJECTED"
  | .cancelled => "CANCELLED"
  | .superseded => "SUPERSEDED"

inductive WorkflowStepStatus where
  | pending
  | approved
  | rejected
  | revisionRequested
  | skipped
  deriving DecidableEq, Repr

def WorkflowStepStatus.value : WorkflowStepStatus → String
  | .pending => "PENDING"
  | .approved => "APPROVED"
  | .rejected => "REJECTED"
  | .revisionRequested => "REVISION_REQUESTED"
  | .skipped => "SKIPPED"

inductive VenueRequestStatus where
  | pending
  | approved
  | rejected
  deriving DecidableEq, Repr

def VenueRequestStatus.value : VenueRequestStatus → String
  | .pending => "PENDING"
  | .approved => "APPROVED"
  | .rejected => "REJECTED"

inductive FinanceVerificationStatus where
  | pending
  | verified
  | queried
  deriving DecidableEq, Repr

def FinanceVerificationStatus.value : FinanceVerificationStatus → String
  | .pending => "PENDING"
  | .verified => "VERIFIED"
  | .queried => "QUERIED"

inductive ClubMemberRole where
  | secretary
  | treasurer
  | member
  deriving DecidableEq, Repr

/-- `ACTIVE` is an alias of `IN_PROGRESS` in the source and no member of its own. -/
inductive EventStatus where
  | scheduled
  | inProgress
  | completed
  | closureRequested
  | closed
  | cancelled
  | archived
  deriving DecidableEq, Repr

def EventStatus.value : EventStatus → String
  | .scheduled => "SCHEDULED"
  | .inProgress => "IN_PROGRESS"
  | .completed => "COMPLETED"
  | .closureRequested => "CLOSURE_REQUESTED"
  | .closed => "CLOSED"
  | .cancelled => "CANCELLED"
  | .archived => "ARCHIVED"

inductive PostEventReportStatus where
  | draft
  | submitted
  | revisionRequired
  | certified
  deriving DecidableEq, Repr

def PostEventReportStatus.value : PostEventReportStatus → String
  | .draft => "DRAFT"
  | .submitted => "SUBMITTED"
  | .revisionRequired => "REVISION_REQUIRED"
  | .certified => "CERTIFIED"

inductive ActualExpenseStatus where
  | draft
  | submitted
  | verified
  | partiallyVerified
  | queried
  | disallowed
  deriving DecidableEq, Repr

def ActualExpenseStatus.value : ActualExpenseStatus → String
  | .draft => "DRAFT"
  | .submitted => "SUBMITTED"
  | .verified => "VERIFIED"
  | .partiallyVerified => "PARTIALLY_VERIFIED"
  | .queried => "QUERIED"
  | .disallowed => "DISALLOWED"

inductive ActualIncomeStatus where
  | recorded
  | verified
  | rejected
  deriving DecidableEq, Repr

def ActualIncomeStatus.value : ActualIncomeStatus → String
  | .recorded => "RECORDED"
  | .verified => "VERIFIED"
  | .rejected => "REJECTED"

inductive CashAdvanceStatus where
  | requested
  | approved
  | disbursed
  | rejected
  deriving DecidableEq, Repr

def CashAdvanceStatus.value : CashAdvanceStatus → String
  | .requested => "REQUESTED"
  | .approved => "APPROVED"
  | .disbursed => "DISBURSED"
  | .rejected => "REJECTED"

inductive SettlementStatus where
  | draft
  | underAudit
  | approved
  | queried
  | pendingReimbursement
  | pendingRefund
  | settled
  | reopened
  deriving DecidableEq, Repr

def SettlementStatus.value : SettlementStatus → String
  | .draft => "DRAFT"
  | .underAudit => "UNDER_AUDIT"
  | .approved => "APPROVED"
  | .queried => "QUERIED"
  | .pendingReimbursement => "PENDING_REIMBURSEMENT"
  | .pendingRefund => "PENDING_REFUND"
  | .settled => "SETTLED"
  | .reopened => "REOPENED"

inductive SettlementType where
  | reimbursementDue
  | refundDue
  | balanced
  deriving DecidableEq, Repr

def SettlementType.value : SettlementType → String
  | .reimbursementDue => "REIMBURSEMENT_DUE"
  | .refundDue => "REFUND_DUE"
  | .balanced => "BALANCED"

inductive SettlementPaymentType where
  | reimbursementDisbursement
  | advanceRefundReceipt
  deriving DecidableEq, Repr

def SettlementPaymentType.value : SettlementPaymentType → String
  | .reimbursementDisbursement => "REIMBURSEMENT_DISBURSEMENT"
  | .advanceRefundReceipt => "ADVANCE_REFUND_RECEIPT"

inductive PaymentMethod where
  | bankTransferNeft
  | cheque
  | cashVoucher
  | institutionalTransfer
  deriving DecidableEq, Repr

inductive DocumentType where
  | eventPlan
  | budgetDetails
  | authorityLetter
  | chiefGuestProfile
  | venueLayout
  | supporting
  | postEventPhoto
  | expenseInvoice
  | incomeEvidence
  | settlementPaymentProof
  | other
  deriving DecidableEq, Repr

def DocumentType.value : DocumentType → String
  | .eventPlan => "EVENT_PLAN"
  | .budgetDetails => "BUDGET_DETAILS"
  | .authorityLetter => "AUTHORITY_LETTER"
  | .chiefGuestProfile => "CHIEF_GUEST_PROFILE"
  | .venueLayout => "VENUE_LAYOUT"
  | .supporting => "SUPPORTING"
  | .postEventPhoto => "POST_EVENT_PHOTO"
  | .expenseInvoice => "EXPENSE_INVOICE"
  | .incomeEvidence => "INCOME_EVIDENCE"
  | .settlementPaymentProof => "SETTLEMENT_PAYMENT_PROOF"
  | .other => "OTHER"

inductive IncomeSourceType where
  | registrationFee
  | sponsorship
  | stallRental
  | ticketSales
  | donation
  | other
  deriving DecidableEq, Repr

def IncomeSourceType.value : IncomeSourceType → String
  | .registrationFee => "REGISTRATION_FEE"
  | .sponsorship => "SPONSORSHIP"
  | .stallRental => "STALL_RENTAL"
  | .ticketSales => "TICKET_SALES"
  | .donation => "DONATION"
  | .other => "OTHER"

inductive BudgetLineItemCategory where
  | venue
  | catering
  | materials
  | printing
  | transport
  | honorarium
  | decoration
  | technology
  | other
  deriving DecidableEq, Repr

def BudgetLineItemCategory.value : BudgetLineItemCategory → String
  | .venue => "VENUE"
  | .catering => "CATERING"
  | .materials => "MATERIALS"
  | .printing => "PRINTING"
  | .transport => "TRANSPORT"
  | .honorarium => "HONORARIUM"
  | .decoration => "DECORATION"
  | .technology => "TECHNOLOGY"
  | .other => "OTHER"

/-- The audit actions the modelled services write. -/
inductive AuditAction where
  | proposalCreated
  | proposalUpdated
  | proposalSubmitted
  | proposalApproved
  | proposalRejected
  | revisionRequested
  | proposalCancelled
  | eventCreated
  | eventStatusChanged
  | eventStarted
  | eventCompleted
  | adminEventStarted
  | hallBooked
  | hallReleased
  | fileUploaded
  | fileDeleted
  | budgetVerified
  | budgetQueried
  | postEventReportSubmitted
  | postEventReportCertified
  | postEventReportRevisionRequested
  | postEventEvidenceUploaded
  | expenseCreated
  | expenseUpdated
  | expenseSubmitted
  | expenseQueried
  | expenseResubmitted
  | expenseVerified
  | expensePartiallyVerified
  | expenseDisallowed
  | expenseDocumentAttached
  | advanceRequested
  | advanceApproved
  | advanceDisbursed
  | advanceRejected
  | incomeRecorded
  | incomeVerified
  | incomeRejected
  | settlementPrepared
  | settlementSubmitted
  | settlementQueried
  | settlementApproved
  | settlementPaymentRecorded
  | settlementSettled
  | settlementReopened
  | closureRequested
  | closureRejected
  | eventClosed
  | eventReopenRequested
  | eventReopened
  | eventArchived
  | clubCreated
  | clubUpdated
  | advisorAssigned
  deriving DecidableEq, Repr

end CampusConnect
