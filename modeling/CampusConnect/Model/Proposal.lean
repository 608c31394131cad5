/-
  File:      CampusConnect/Model/Proposal.lean
  Subject:   The rows of `models/domain.py` that hang on one event proposal.

  * `EventRequest`, `VenueRequest`, `BudgetProposal`: what a club edits, `Hall`: what it asks for;
  * `VersionSnapshot`: the JSON object a submission freezes them into;
  * `WorkflowTemplateStep`, `WorkflowInstance`, `WorkflowInstanceStep`, `HallBookingConfirmed`: what
    the review adds;
  * `Proposal`: all rows of one proposal. Unique keys make the venue request, the budget and the
    confirmed booking at most one each.
-/
import CampusConnect.Base.Rows
import CampusConnect.Model.Enums
import CampusConnect.Model.Failures

namespace CampusConnect

open Rows

/-! ## 1. What the club edits -/

structure EventRequest where
  id : Uuid
  clubId : Uuid
  submittedBy : Uuid
  title : Text
  description : Option Text := none
  eventType : EventType
  expectedAttendees : Option Nat := none
  eventDate : Option Instant := none
  chiefGuestName : Option Text := none
  chiefGuestDesignation : Option Text := none
  chiefGuestInstitution : Option Text := none
  status : EventRequestStatus
  currentVersion : Nat
  versionLock : Nat
  academicYear : Text
  idempotencyKey : Option Text := none
  workflowInstanceId : Option Uuid := none
  createdAt : Instant
  deletedAt : Option Instant := none
  deriving DecidableEq, Repr

structure Hall where
  id : Uuid
  name : Text
  capacity : Nat
  isActive : Bool
  deriving DecidableEq, Repr

/-- The facility columns of a venue request. -/
structure VenueFacilities where
  requiresStage : Bool := false
  requiresAudio : Bool := false
  requiresLcd : Bool := false
  requiresAc : Bool := false
  requiresProjector : Bool := false
  additionalRequirements : Option Text := none
  deriving DecidableEq, Repr

/-- `hallName` is the name of the hall row the request points to. -/
structure VenueRequest where
  id : Uuid
  hallId : Uuid
  hallName : Option Text
  requestedDate : Instant
  startTime : Instant
  endTime : Instant
  expectedAudience : Option Nat := none
  facilities : VenueFacilities := {}
  status : VenueRequestStatus
  reviewedBy : Option Uuid := none
  reviewedAt : Option Instant := none
  rejectionReason : Option Text := none
  deriving DecidableEq, Repr

/-- The CHECK constraint of `venue_requests`. -/
def VenueRequest.Check (v : VenueRequest) : Prop := v.startTime < v.endTime

instance (v : VenueRequest) : Decidable v.Check := inferInstanceAs (Decidable (_ < _))

structure BudgetLineItem where
  id : Uuid
  description : Text
  category : BudgetLineItemCategory
  estimatedAmount : Int
  notes : Option Text := none
  deriving DecidableEq, Repr

structure BudgetProposal where
  id : Uuid
  expectedIncome : Int
  instituteContribution : Int
  totalExpectedExpenditure : Int
  notes : Option Text := none
  financeStatus : FinanceVerificationStatus := .pending
  financeVerifiedBy : Option Uuid := none
  financeVerifiedAt : Option Instant := none
  financeNotes : Option Text := none
  lineItems : List BudgetLineItem := []
  deriving DecidableEq, Repr

/-- The CHECK constraints of `budget_proposals` and of its line items. -/
def BudgetProposal.Check (b : BudgetProposal) : Prop :=
  0 ≤ b.expectedIncome ∧ 0 ≤ b.instituteContribution ∧ 0 ≤ b.totalExpectedExpenditure ∧
    ∀ i ∈ b.lineItems, 0 ≤ i.estimatedAmount

instance (b : BudgetProposal) : Decidable b.Check := inferInstanceAs (Decidable (_ ∧ _ ∧ _ ∧ _))

/-! ## 2. What a submission freezes -/

/-- A money figure of a JSON snapshot: written by the services as a string, by older data perhaps
    as a number. Only the number zero is falsy. -/
inductive Figure where
  | text (c : Int)
  | number (c : Int)
  deriving DecidableEq, Repr

/-- `Decimal(str(figure))`. -/
def Figure.decimal : Figure → Int
  | .text c => c
  | .number c => c

def Figure.truthy : Figure → Bool
  | .text _ => true
  | .number c => c ≠ 0

/-- `a or b` for two looked-up figures. -/
def Figure.orElse (a b : Option Figure) : Option Figure :=
  match a with
  | some f => if f.truthy then some f else b
  | none => b

/-- The keys of a snapshot that repeat the proposal's columns. -/
structure ProposalContent where
  id : Uuid
  clubId : Uuid
  clubName : Option Text
  title : Text
  description : Option Text
  eventType : EventType
  expectedAttendees : Option Nat
  eventDate : Option Instant
  chiefGuestName : Option Text
  chiefGuestDesignation : Option Text
  chiefGuestInstitution : Option Text
  academicYear : Text
  versionNumber : Nat
  submittedBy : Uuid
  submittedByEmail : Text
  deriving DecidableEq, Repr

/-- The `venue` object. -/
structure VenueContent where
  hallId : Uuid
  hallName : Option Text
  requestedDate : Instant
  startTime : Instant
  endTime : Instant
  expectedAudience : Option Nat
  deriving DecidableEq, Repr

/-- One element of `line_items`. -/
structure LineItemContent where
  description : Text
  category : BudgetLineItemCategory
  estimatedAmount : Figure
  notes : Option Text
  deriving DecidableEq, Repr

/-- The `budget` object. -/
structure BudgetSnapshot where
  expectedIncome : Option Figure
  instituteContribution : Option Figure
  totalExpectedExpenditure : Option Figure
  lineItems : List LineItemContent := []
  deriving DecidableEq, Repr

/-- A snapshot as a submission writes it, with the figures older data keeps beside `budget`. -/
structure VersionSnapshot where
  content : Option ProposalContent := none
  venue : Option VenueContent := none
  budget : Option BudgetSnapshot
  instituteContribution : Option Figure := none
  sanctionedGrant : Option Figure := none
  totalExpectedExpenditure : Option Figure := none
  sanctionedExpenditure : Option Figure := none
  expectedIncome : Option Figure := none
  deriving DecidableEq, Repr

/-- `snapshot` is `none` where the column holds nothing or an empty object. -/
structure EventRequestVersion where
  id : Uuid
  versionNumber : Nat
  snapshot : Option VersionSnapshot
  submittedBy : Uuid
  changeSummary : Option Text := none
  deriving DecidableEq, Repr

/-! ## 3. What the review adds -/

/-- A step of the default workflow template. -/
structure WorkflowTemplateStep where
  stepOrder : Nat
  stepName : Text
  requiredRole : UserRole
  assignedUserId : Option Uuid := none
  deriving DecidableEq, Repr

structure WorkflowInstance where
  id : Uuid
  currentStepOrder : Nat
  status : WorkflowInstanceStatus
  versionNumber : Nat
  deriving DecidableEq, Repr

instance : Row WorkflowInstance Uuid where
  key := WorkflowInstance.id
  Check _ := True

/-- `requiredRole` is the one of the step's template row. -/
structure WorkflowInstanceStep where
  id : Uuid
  instanceId : Uuid
  requiredRole : UserRole
  stepOrder : Nat
  stepName : Text
  assignedTo : Uuid
  status : WorkflowStepStatus
  actionTakenAt : Option Instant := none
  comments : Option Text := none
  versionReviewed : Option Nat := none
  stepVersionLock : Nat := 0
  deriving DecidableEq, Repr

instance : Row WorkflowInstanceStep Uuid where
  key := WorkflowInstanceStep.id
  Check _ := True

structure HallBookingConfirmed where
  id : Uuid
  hallId : Uuid
  venueRequestId : Uuid
  bookingDate : Instant
  startTime : Instant
  endTime : Instant
  isActive : Bool
  deriving DecidableEq, Repr

/-! ## 4. The proposal -/

/-- Everything the database holds on one proposal, its confirmed event apart. -/
structure Proposal where
  request : EventRequest
  venueRequest : Option VenueRequest := none
  budgetProposal : Option BudgetProposal := none
  versions : List EventRequestVersion := []
  instances : Table WorkflowInstance := Table.empty
  steps : Table WorkflowInstanceStep := Table.empty
  booking : Option HallBookingConfirmed := none
  deriving DecidableEq

end CampusConnect
