/-
  File:      CampusConnect/System.lean
  Subject:   The system of one event: every operation of the execution, cancellation, expense,
             settlement and closeout services, called one after the other by anybody.

  * `Op`, `Call`, `Call.exec`: a call is an operation with its actor, what it reads outside the
    event, and the fingerprint on the settlement object that its session holds;
  * `Opening`, `Step`, `Reachable`: the initial states, the accepted calls and the states they reach;
  * `Effect`, `exec_effect`: an accepted call is a step of exactly one component, so that an
    invariant is proved over seven effects instead of forty operations;
  * `Sample`: a small event whose runs can be evaluated.
-/
import CampusConnect.Base.Runs
import CampusConnect.Services.Cancellation
import CampusConnect.Services.Closeout
import CampusConnect.Services.Execution
import CampusConnect.Services.Expense

namespace CampusConnect

open Guarded Rows

/-! ## 1. Calls -/

/-- The operations, with their arguments. A `newId` is the key a new row gets. -/
inductive Op where
  | requestAdvance (newId : Uuid) (amountRequested : Int) (reason : Text)
  | approveAdvance (advanceId : Uuid) (amountApproved : Int) (remarks : Option Text)
  | rejectAdvance (advanceId : Uuid) (rejectionReason : Text)
  | disburseAdvance (advanceId : Uuid) (amountDisbursed : Int) (paymentReference : Text)
      (disbursementDate : Option Instant) (notes : Option Text)
  | recordIncome (newId : Uuid) (sourceType : IncomeSourceType) (amount : Int)
      (description payerName : Text) (receivedDate : Date) (evidenceDocumentId : Uuid)
      (referenceNumber : Option Text)
  | verifyIncome (incomeId : Uuid) (financeRemarks : Option Text)
  | rejectIncome (incomeId : Uuid) (rejectionReason : Text) (financeRemarks : Option Text)
  | createDraftExpense (newId : Uuid) (payload : ActualExpenseCreate)
  | updateExpense (expenseId : Uuid) (payload : ActualExpenseUpdate)
  | deleteDraftExpense (expenseId : Uuid)
  | submitExpenses (expenseIds : Option (List Uuid))
  | verifyExpense (expenseId : Uuid) (remarks : Option Text)
  | partialVerifyExpense (expenseId : Uuid) (verifiedAmount : Int) (remarks : Text)
  | queryExpense (expenseId : Uuid) (remarks : Text)
  | disallowExpense (expenseId : Uuid) (remarks : Text)
  | prepareSettlement (newId : Uuid)
  | submitSettlement (settlementId : Uuid)
  | auditSettlement (settlementId : Uuid) (action : Text) (remarks queryReason : Option Text)
  | recordPayment (settlementId newId : Uuid) (args : SettlementService.PaymentArgs)
  | reopenSettlement (settlementId newId : Uuid) (reopeningReason : Text)
  | settlementEligibility
  | startEvent
  | adminStartEvent (reason : Text)
  | completeAndSubmitReport (newId : Uuid) (reportIn : PostEventReportCreate)
  | updateReport (updateIn : PostEventReportUpdate)
  | resubmitReport
  | certifyReport (remarks : Option Text)
  | requestRevision (remarks : Text)
  | cancelProposal (reason : Text)
  | cancelConfirmedEvent (reason : Text)
  | cancelAnyEvent (identifier : Uuid) (reason : Text)
  | closeoutEligibility
  | requestCloseout (remarks : Option Text)
  | certifyCloseout (newId : Uuid) (closureNotes : Option Text) (venueCleared : Bool)
  | rejectCloseout (reason : Text)
  | requestReopen (reason : Text)
  | approveReopen (newId settlementRevisionId : Uuid) (reason : Text)
  | archiveEvent
  deriving DecidableEq, Repr

/-- One call. `held` is the `_source_fingerprint` on the settlement object that its session still holds
    from a call before it. A session that holds none loads the settlement anew, with none on it. -/
structure Call where
  env : Env
  actor : User
  held : Option Text := none
  op : Op

/-- The operation sees the rows as they are, and the object of its session. -/
def Call.enter (c : Call) (s : State) : State := { s with attached := c.held }

/-- The operation on the state its session sees. -/
def Op.exec (cfg : Config) (env : Env) (actor : User) (op : Op) (s : State) : Result State :=
  match op with
  | .requestAdvance newId amount reason =>
      SettlementService.requestAdvance env actor newId amount reason s
  | .approveAdvance id amount remarks =>
      SettlementService.approveAdvance env actor id amount remarks s
  | .rejectAdvance id reason => SettlementService.rejectAdvance env actor id reason s
  | .disburseAdvance id amount reference date notes =>
      SettlementService.disburseAdvance env actor id amount reference date notes s
  | .recordIncome newId src amount description payer date doc reference =>
      SettlementService.recordIncome env actor newId src amount description payer date doc
        reference s
  | .verifyIncome id remarks => SettlementService.verifyIncome env actor id remarks s
  | .rejectIncome id reason remarks => SettlementService.rejectIncome env actor id reason remarks s
  | .createDraftExpense newId payload =>
      ExpenseService.createDraftExpense cfg env actor newId payload s
  | .updateExpense id payload => ExpenseService.updateExpense cfg env actor id payload s
  | .deleteDraftExpense id => ExpenseService.deleteDraftExpense env actor id s
  | .submitExpenses ids => ExpenseService.submitExpenses env actor ids s
  | .verifyExpense id remarks => ExpenseService.verifyExpense env actor id remarks s
  | .partialVerifyExpense id amount remarks =>
      ExpenseService.partialVerifyExpense env actor id amount remarks s
  | .queryExpense id remarks => ExpenseService.queryExpense env actor id remarks s
  | .disallowExpense id remarks => ExpenseService.disallowExpense env actor id remarks s
  | .prepareSettlement newId => SettlementService.prepareSettlement cfg env actor newId s
  | .submitSettlement id => SettlementService.submitSettlement cfg env actor id s
  | .auditSettlement id action remarks reason =>
      SettlementService.auditSettlement cfg env actor id action remarks reason s
  | .recordPayment id newId args => SettlementService.recordPayment env actor id newId args s
  | .reopenSettlement id newId reason =>
      SettlementService.reopenSettlement env actor id newId reason s
  | .settlementEligibility => (SettlementService.getClosureEligibility env actor s).map fun _ => s
  | .startEvent => EventExecutionService.startEvent env actor s
  | .adminStartEvent reason => EventExecutionService.adminStartEvent env actor reason s
  | .completeAndSubmitReport newId reportIn =>
      EventExecutionService.completeAndSubmitReport env actor newId reportIn s
  | .updateReport updateIn => EventExecutionService.updateReport env actor updateIn s
  | .resubmitReport => EventExecutionService.resubmitReport env actor s
  | .certifyReport remarks => EventExecutionService.certifyReport env actor remarks s
  | .requestRevision remarks => EventExecutionService.requestRevision env actor remarks s
  | .cancelProposal reason =>
      (EventService.cancelProposal env actor reason s.proposal).map fun r =>
        { s with proposal := r.1 }.log r.2
  | .cancelConfirmedEvent reason => EventService.cancelConfirmedEvent env actor reason s
  | .cancelAnyEvent id reason => EventService.cancelAnyEvent env actor id reason s
  | .closeoutEligibility => (CloseoutService.getClosureEligibility env actor s).map fun _ => s
  | .requestCloseout remarks => CloseoutService.requestCloseout env actor remarks s
  | .certifyCloseout newId notes cleared =>
      CloseoutService.certifyCloseout cfg env actor newId notes cleared s
  | .rejectCloseout reason => CloseoutService.rejectCloseout cfg env actor reason s
  | .requestReopen reason => CloseoutService.requestReopen env actor reason s
  | .approveReopen newId revId reason =>
      CloseoutService.approveReopen env actor newId revId reason s
  | .archiveEvent => CloseoutService.archiveEvent env actor s

/-- One call on the state of the event. A refused call is rolled back. -/
def Call.exec (cfg : Config) (c : Call) (s : State) : Result State :=
  c.op.exec cfg c.env c.actor (c.enter s)

/-! ## 2. Runs -/

/-- **The states a run starts from**: the event is not sealed, has no settlement and no closure
    yet; its status, report, ledger and proposal are arbitrary, but an advance already approved has
    its amount, and the keys in the audit log are `str` of identifiers. -/
structure Opening (s : State) : Prop where
  unsealed : ¬ s.event.Sealed
  granted : ∀ a, s.advance = some a → a.1.status = .approved →
    ∃ amount, a.1.amountApproved = some amount ∧ 0 < amount
  settlement : s.settlement = none
  payments : s.payments = []
  settlementRevisions : s.settlementRevisions = []
  closure : s.closure = none
  closureRevisions : s.closureRevisions = []
  auditKeys : ∀ l ∈ s.auditLogs, ∃ u : Uuid, l.entityId = u.str
  attached : s.attached = none

/-- An accepted call. -/
def Step (cfg : Config) (s : State) (c : Call) (s' : State) : Prop := c.exec cfg s = .ok s'

/-- The states of all runs. -/
def Reachable (cfg : Config) : State → Prop := Runs.Reach Opening (Step cfg)

/-- The runs that can be evaluated are runs. -/
theorem reachable_of_run {cfg : Config} {calls : List Call} {s s' : State} (h : Opening s)
    (hrun : Runs.run (Call.exec cfg) calls s = .ok s') : Reachable cfg s' :=
  Runs.Reach.path (.start h) (Runs.path_of_run hrun)

/-! ## 3. Effects -/

/-- What a call does, by component. -/
inductive Move where
  | read
  | advance (m : AdvanceMove)
  | income (m : IncomeMove)
  | expense (m : ExpenseMove)
  | settlement (m : SettlementMove)
  | execution
  | cancellation
  | closeout (m : CloseoutMove)
  deriving DecidableEq, Repr

/-- The move of an operation. -/
def Op.move : Op → Move
  | .requestAdvance _ _ _ => .advance .requested
  | .approveAdvance _ _ _ => .advance .approved
  | .rejectAdvance _ _ => .advance .rejected
  | .disburseAdvance _ _ _ _ _ => .advance .disbursed
  | .recordIncome _ _ _ _ _ _ _ _ => .income .recorded
  | .verifyIncome _ _ => .income .verified
  | .rejectIncome _ _ _ => .income .rejected
  | .createDraftExpense _ _ => .expense .created
  | .updateExpense _ _ => .expense .updated
  | .deleteDraftExpense _ => .expense .deleted
  | .submitExpenses _ => .expense .submitted
  | .verifyExpense _ _ => .expense .verified
  | .partialVerifyExpense _ _ _ => .expense .verified
  | .queryExpense _ _ => .expense .queried
  | .disallowExpense _ _ => .expense .disallowed
  | .prepareSettlement _ => .settlement .prepared
  | .submitSettlement _ => .settlement .submitted
  | .auditSettlement _ _ _ _ => .settlement .audited
  | .recordPayment _ _ _ => .settlement .paid
  | .reopenSettlement _ _ _ => .settlement .reopened
  | .settlementEligibility => .read
  | .startEvent => .execution
  | .adminStartEvent _ => .execution
  | .completeAndSubmitReport _ _ => .execution
  | .updateReport _ => .execution
  | .resubmitReport => .execution
  | .certifyReport _ => .execution
  | .requestRevision _ => .execution
  | .cancelProposal _ => .cancellation
  | .cancelConfirmedEvent _ => .cancellation
  | .cancelAnyEvent _ _ => .cancellation
  | .closeoutEligibility => .read
  | .requestCloseout _ => .closeout .requested
  | .certifyCloseout _ _ _ => .closeout .certified
  | .rejectCloseout _ => .closeout .rejected
  | .requestReopen _ => .closeout .petitioned
  | .approveReopen _ _ _ => .closeout .reopened
  | .archiveEvent => .closeout .archived

/-- The moves that reopen a settlement. -/
def Move.Reopens (m : Move) : Prop := m = .settlement .reopened ∨ m = .closeout .reopened

instance (m : Move) : Decidable m.Reopens := inferInstanceAs (Decidable (_ ∨ _))

/-- **The effect of an accepted call**: a step of one component. -/
inductive Effect (cfg : Config) (s : State) : Move → State → Prop where
  | read : Effect cfg s .read s
  | advance (m : AdvanceMove) (row : Stored CashAdvance) (entries : List AuditEntry)
      (h : AdvanceStep s m row) :
      Effect cfg s (.advance m) ({ s with advance := some row }.log entries)
  | income (m : IncomeMove) (t : Table ActualIncome) (entries : List AuditEntry)
      (h : IncomeStep s m t) : Effect cfg s (.income m) ({ s with incomes := t }.log entries)
  | expense (m : ExpenseMove) (t : Table ActualExpense) (entries : List AuditEntry)
      (h : ExpenseStep s m t) : Effect cfg s (.expense m) ({ s with expenses := t }.log entries)
  | settlement (m : SettlementMove) (s' : State) (h : SettlementStep cfg s m s') :
      Effect cfg s (.settlement m) s'
  | execution (status : EventStatus) (report : Option (Stored PostEventReport))
      (entries : List AuditEntry) (h : ExecutionStep s status report) :
      Effect cfg s .execution
        ({ s with event := { s.event with status := status }, report := report }.log entries)
  | cancellation (s' : State) (h : CancellationStep s s') : Effect cfg s .cancellation s'
  | closeout (m : CloseoutMove) (s' : State) (h : CloseoutStep s m s') :
      Effect cfg s (.closeout m) s'

section Effects

variable {cfg : Config} {s s' : State}

theorem Effect.of_advance {m : AdvanceMove}
    (h : ∃ row entries, AdvanceStep s m row ∧ s' = { s with advance := some row }.log entries) :
    Effect cfg s (.advance m) s' := by
  obtain ⟨row, entries, hstep, rfl⟩ := h
  exact .advance m row entries hstep

theorem Effect.of_income {m : IncomeMove}
    (h : ∃ t entries, IncomeStep s m t ∧ s' = { s with incomes := t }.log entries) :
    Effect cfg s (.income m) s' := by
  obtain ⟨t, entries, hstep, rfl⟩ := h
  exact .income m t entries hstep

theorem Effect.of_expense {m : ExpenseMove}
    (h : ∃ t entries, ExpenseStep s m t ∧ s' = { s with expenses := t }.log entries) :
    Effect cfg s (.expense m) s' := by
  obtain ⟨t, entries, hstep, rfl⟩ := h
  exact .expense m t entries hstep

theorem Effect.of_execution (h : EventExecutionService.Executed s s') :
    Effect cfg s .execution s' := by
  obtain ⟨status, report, entries, hstep, rfl⟩ := h
  exact .execution status report entries hstep

theorem Effect.of_read {α : Type} {r : Result α} (h : (r.map fun _ => s) = .ok s') :
    Effect cfg s .read s' := by
  cases r with
  | error e => cases h
  | ok a =>
      cases h
      exact .read

theorem Effect.of_cancelProposal {env : Env} {actor : User} {reason : Text}
    (h : ((EventService.cancelProposal env actor reason s.proposal).map fun r =>
      { s with proposal := r.1 }.log r.2) = .ok s') : Effect cfg s .cancellation s' := by
  cases hr : EventService.cancelProposal env actor reason s.proposal with
  | error e =>
      rw [hr] at h
      cases h
  | ok r =>
      obtain ⟨q, entries⟩ := r
      obtain ⟨happ, rfl⟩ := EventService.cancelProposal_accepts hr
      rw [hr] at h
      cases h
      exact .cancellation _ (.proposal entries happ)

/-- **Every accepted operation is the step of one component.** -/
theorem Op.exec_effect {env : Env} {actor : User} {op : Op}
    (h : op.exec cfg env actor s = .ok s') : Effect cfg s op.move s' := by
  cases op with
  | requestAdvance _ _ _ => exact .of_advance (SettlementService.requestAdvance_step h)
  | approveAdvance _ _ _ => exact .of_advance (SettlementService.approveAdvance_step h)
  | rejectAdvance _ _ => exact .of_advance (SettlementService.rejectAdvance_step h)
  | disburseAdvance _ _ _ _ _ => exact .of_advance (SettlementService.disburseAdvance_step h)
  | recordIncome _ _ _ _ _ _ _ _ => exact .of_income (SettlementService.recordIncome_step h)
  | verifyIncome _ _ => exact .of_income (SettlementService.verifyIncome_step h)
  | rejectIncome _ _ _ => exact .of_income (SettlementService.rejectIncome_step h)
  | createDraftExpense _ _ => exact .of_expense (ExpenseService.createDraftExpense_step h)
  | updateExpense _ _ => exact .of_expense (ExpenseService.updateExpense_step h)
  | deleteDraftExpense _ => exact .of_expense (ExpenseService.deleteDraftExpense_step h)
  | submitExpenses _ => exact .of_expense (ExpenseService.submitExpenses_step h)
  | verifyExpense _ _ => exact .of_expense (ExpenseService.verifyExpense_step h)
  | partialVerifyExpense _ _ _ => exact .of_expense (ExpenseService.partialVerifyExpense_step h)
  | queryExpense _ _ => exact .of_expense (ExpenseService.queryExpense_step h)
  | disallowExpense _ _ => exact .of_expense (ExpenseService.disallowExpense_step h)
  | prepareSettlement _ => exact .settlement _ s' (SettlementService.prepareSettlement_step h)
  | submitSettlement _ => exact .settlement _ s' (SettlementService.submitSettlement_step h)
  | auditSettlement _ _ _ _ => exact .settlement _ s' (SettlementService.auditSettlement_step h)
  | recordPayment _ _ _ => exact .settlement _ s' (SettlementService.recordPayment_step h)
  | reopenSettlement _ _ _ => exact .settlement _ s' (SettlementService.reopenSettlement_step h)
  | settlementEligibility => exact .of_read h
  | startEvent => exact .of_execution (EventExecutionService.startEvent_step h)
  | adminStartEvent _ => exact .of_execution (EventExecutionService.adminStartEvent_step h)
  | completeAndSubmitReport _ _ =>
      exact .of_execution (EventExecutionService.completeAndSubmitReport_step h)
  | updateReport _ => exact .of_execution (EventExecutionService.updateReport_step h)
  | resubmitReport => exact .of_execution (EventExecutionService.resubmitReport_step h)
  | certifyReport _ => exact .of_execution (EventExecutionService.certifyReport_step h)
  | requestRevision _ => exact .of_execution (EventExecutionService.requestRevision_step h)
  | cancelProposal _ => exact .of_cancelProposal h
  | cancelConfirmedEvent _ => exact .cancellation s' (EventService.cancelConfirmedEvent_step h)
  | cancelAnyEvent _ _ => exact .cancellation s' (EventService.cancelAnyEvent_step h)
  | closeoutEligibility => exact .of_read h
  | requestCloseout _ => exact .closeout _ s' (CloseoutService.requestCloseout_step h)
  | certifyCloseout _ _ _ => exact .closeout _ s' (CloseoutService.certifyCloseout_step h)
  | rejectCloseout _ => exact .closeout _ s' (CloseoutService.rejectCloseout_step h)
  | requestReopen _ => exact .closeout _ s' (CloseoutService.requestReopen_step h)
  | approveReopen _ _ _ => exact .closeout _ s' (CloseoutService.approveReopen_step h)
  | archiveEvent => exact .closeout _ s' (CloseoutService.archiveEvent_step h)

/-- What is not an expense operation leaves the expenses. -/
theorem Effect.expenses_kept {m : Move} (h : Effect cfg s m s') (hm : ∀ n, m ≠ .expense n) :
    s'.expenses = s.expenses := by
  cases h with
  | expense m t entries hstep => exact (hm m rfl).elim
  | settlement m s' hstep => cases hstep <;> rfl
  | cancellation s' hstep => cases hstep <;> rfl
  | closeout m s' hstep => cases hstep <;> rfl
  | _ => rfl

/-- What is not an income operation leaves the incomes. -/
theorem Effect.incomes_kept {m : Move} (h : Effect cfg s m s') (hm : ∀ n, m ≠ .income n) :
    s'.incomes = s.incomes := by
  cases h with
  | income m t entries hstep => exact (hm m rfl).elim
  | settlement m s' hstep => cases hstep <;> rfl
  | cancellation s' hstep => cases hstep <;> rfl
  | closeout m s' hstep => cases hstep <;> rfl
  | _ => rfl

/-- What records no payment leaves the payments. -/
theorem Effect.payments_kept {m : Move} (h : Effect cfg s m s') (hm : m ≠ .settlement .paid) :
    s'.payments = s.payments := by
  cases h with
  | settlement m s' hstep =>
      cases hstep with
      | paid r row p entries hr hmut hfrom hid hdir hle hrow => exact (hm rfl).elim
      | _ => rfl
  | cancellation s' hstep => cases hstep <;> rfl
  | closeout m s' hstep => cases hstep <;> rfl
  | _ => rfl

theorem Step.effect {c : Call} (h : Step cfg s c s') : Effect cfg (c.enter s) c.op.move s' :=
  Op.exec_effect h

/-- **An accepted call** runs on the rows that are there, whatever its session has attached. -/
theorem Step.entered {c : Call} (h : Step cfg s c s') : ∃ a,
    c.op.exec cfg c.env c.actor { s with attached := a } = .ok s' ∧
      Effect cfg { s with attached := a } c.op.move s' :=
  ⟨c.held, h, h.effect⟩

end Effects

/-! ## 4. Invariants over the effects -/

/-- A predicate that does not look at what is attached in memory. -/
def SessionFree (P : State → Prop) : Prop := ∀ s a, P s → P { s with attached := a }

theorem SessionFree.enter {P : State → Prop} (h : SessionFree P) {s : State} (c : Call)
    (hs : P s) : P (c.enter s) := h s c.held hs

/-- **The invariant rule of the system**: what holds in every opening state and over each effect
    holds in every reachable state. -/
theorem Reachable.invariant {cfg : Config} {P : State → Prop} (hfree : SessionFree P)
    (hinit : ∀ s, Opening s → P s) (heff : ∀ s m s', P s → Effect cfg s m s' → P s') {s : State}
    (h : Reachable cfg s) : P s :=
  Runs.Reach.invariant hinit (fun _ c _ hs hstep => heff _ _ _ (hfree.enter c hs) hstep.effect) h

/-! ## 5. A small event -/

namespace Sample

def uid (n : Nat) : Uuid := ⟨BitVec.ofNat 128 n⟩

def secretary : User := ⟨uid 1, "secretary".toList, .clubSecretary⟩

def officer : User := ⟨uid 2, "officer".toList, .financeOfficer⟩

def dean : User := ⟨uid 3, "dean".toList, .deanStudentAffairs⟩

/-- Identity digests: what is hashed can be compared directly. -/
def config (backend : Backend) : Config where
  backend := backend
  sha256 := id
  lower := id
  sqlLower := id
  allowAdvisorEventCloseout := false

/-- A club with its secretary, and one document of each kind attached to the event. -/
def env : Env where
  now := 100
  members := [⟨uid 13, uid 1, .secretary, true⟩]
  clubs := [⟨uid 13, "club".toList, some (uid 5), true, none⟩]
  documents :=
    [⟨uid 20, true, .expenseInvoice, some (uid 10), none⟩,
      ⟨uid 21, true, .settlementPaymentProof, some (uid 10), none⟩,
      ⟨uid 22, true, .incomeEvidence, some (uid 10), none⟩]
  otherExpenses := []

/-- An approved proposal with a grant of 100.00. -/
def proposal : Proposal where
  request :=
    { id := uid 11
      clubId := uid 13
      submittedBy := uid 1
      title := "event".toList
      eventType := .workshop
      status := .approved
      currentVersion := 1
      versionLock := 1
      academicYear := "2025".toList
      createdAt := 0 }
  versions :=
    [{ id := uid 12
       versionNumber := 1
       snapshot := some
        { budget := some
            { expectedIncome := some (.text 0)
              instituteContribution := some (.text 10000)
              totalExpectedExpenditure := some (.text 20000) } }
       submittedBy := uid 1 }]

def event : Event where
  id := uid 10
  eventRequestId := uid 11
  approvedVersionId := uid 12
  clubId := uid 13
  title := "event".toList
  eventType := .workshop
  eventDate := 0
  startTime := 0
  endTime := 0
  status := .completed
  academicYear := "2025".toList

def report : Stored PostEventReport :=
  ⟨{ id := uid 14
     revisionNumber := 1
     actualAttendance := 50
     summary := "summary".toList
     objectivesAchieved := "objectives".toList
     outcomes := none
     challenges := none
     status := .certified
     submittedBy := uid 1
     submittedAt := 0 }, by decide⟩

/-- An expense of 60.00. -/
def expense (n : Nat) (status : ActualExpenseStatus) (verified : Option Int) : ActualExpense where
  id := uid n
  budgetLineItemId := none
  category := .catering
  description := "food".toList
  vendorName := "vendor".toList
  vendorGstin := none
  invoiceNumber := some "inv".toList
  invoiceDate := 0
  claimedAmount := 6000
  verifiedAmount := verified
  status := status
  billDocumentId := uid 20
  submittedBy := uid 1
  submittedAt := none
  isFlaggedForReview := false
  reviewNotes := none

/-- The completed event with its report certified, the given advance and one verified expense. -/
def opening (advance : Option (Stored CashAdvance)) : State where
  proposal := proposal
  event := event
  report := some report
  advance := advance
  incomes := Table.empty
  expenses := ⟨[expense 40 .verified (some 6000)], by decide, by decide⟩
  settlement := none
  payments := []
  settlementRevisions := []
  closure := none
  closureRevisions := []
  auditLogs := []
  attached := none

theorem opening_opening : Opening (opening none) where
  unsealed := by
    intro hor
    rcases hor with h | h <;> cases h
  granted := by
    intro a ha
    cases ha
  settlement := rfl
  payments := rfl
  settlementRevisions := rfl
  closure := rfl
  closureRevisions := rfl
  auditKeys := by
    intro l hl
    cases hl
  attached := rfl

def bySecretary (op : Op) : Call := { env := env, actor := secretary, op := op }

def byOfficer (op : Op) : Call := { env := env, actor := officer, op := op }

def byDean (op : Op) : Call := { env := env, actor := dean, op := op }

/-- Prepare, submit and approve the settlement, which gets the key 30. -/
def settle : List Call :=
  [bySecretary (.prepareSettlement (uid 30)), bySecretary (.submitSettlement (uid 30)),
    byOfficer (.auditSettlement (uid 30) "APPROVE".toList none none)]

/-- A payment on the settlement. -/
def payment (n : Nat) (type : SettlementPaymentType) (amount : Int) : Op :=
  .recordPayment (uid 30) (uid n)
    { paymentType := type
      amount := amount
      paymentMethod := .cheque
      transactionReference := "reference".toList
      transactionDate := 0
      proofDocumentId := uid 21 }

/-- A further claim of 60.00, with the key 41, submitted to Finance. -/
def claim : List Call :=
  [bySecretary (.createDraftExpense (uid 41)
      { category := .catering
        description := "food".toList
        vendorName := "vendor".toList
        vendorGstin := none
        invoiceNumber := some "second".toList
        invoiceDate := 0
        claimedAmount := 6000
        billDocumentId := uid 20
        budgetLineItemId := none }),
    bySecretary (.submitExpenses none)]

/-- One payment of 60.00 and the request of the closeout. -/
def payAndRequest : List Call :=
  [byOfficer (payment 31 .reimbursementDisbursement 6000), bySecretary (.requestCloseout none)]

def certify : Call := byDean (.certifyCloseout (uid 50) none true)

/-- The event is settled and closed. -/
def close : List Call := settle ++ payAndRequest ++ [certify]

end Sample

end CampusConnect
