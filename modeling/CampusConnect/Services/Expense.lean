/-
  File:      CampusConnect/Services/Expense.lean
  Subject:   The expense service: drafts, edits, submission and the finance officer's decisions.

  * `createDraftExpense` .. `disallowExpense`: the operations of `expense_service.py`;
  * `ExpenseStep`: what an accepted expense operation does to the expense table;
  * `createDraftExpense_step` .. `disallowExpense_step`: every accepted call is one of these steps
    and touches nothing but the expense table and the audit log.
-/
import CampusConnect.Services.Income

namespace CampusConnect

open Guarded Rows

/-- `ActualExpenseCreate`. -/
structure ActualExpenseCreate where
  category : BudgetLineItemCategory
  description : Text
  vendorName : Text
  vendorGstin : Option Text
  invoiceNumber : Option Text
  invoiceDate : Date
  claimedAmount : Int
  billDocumentId : Uuid
  budgetLineItemId : Option Uuid
  deriving DecidableEq, Repr

/-- `ActualExpenseUpdate`: a field not sent is `none`. -/
structure ActualExpenseUpdate where
  category : Option BudgetLineItemCategory := none
  description : Option Text := none
  vendorName : Option Text := none
  vendorGstin : Option Text := none
  invoiceNumber : Option Text := none
  invoiceDate : Option Date := none
  claimedAmount : Option Int := none
  billDocumentId : Option Uuid := none
  budgetLineItemId : Option Uuid := none
  deriving DecidableEq, Repr

namespace ExpenseService

/-! ## 1. Guards -/

/-- `_require_event_completed`. -/
def requireEventCompleted (event : Event) : Result Unit :=
  refuse (event.status ≠ .completed)
    ⟨.workflowState, "Expenses can only be recorded for COMPLETED events (current status: '%s').",
      [.name event.status.value]⟩

/-- `_verify_club_secretary`; unlike the settlement service's it does not bar SYSTEM_ADMIN. -/
def verifyClubSecretary (env : Env) (event : Event) (actor : User) : Result Unit :=
  refuse (¬ env.IsSecretary event.clubId actor.id)
    ⟨.forbidden, "Only the active Club Secretary of the owning club can manage expenses for " ++
      "this event.", []⟩

/-- `_verify_finance_officer`. -/
def verifyFinanceOfficer (actor : User) : Result Unit :=
  refuse (actor.role ≠ .financeOfficer)
    ⟨.forbidden, "Only Finance Officers are authorized to perform financial audit actions.", []⟩

/-- The report is there and certified. -/
def DeliveryCertified (s : State) : Prop := ∃ r ∈ s.report, r.1.status = .certified

instance (s : State) : Decidable (DeliveryCertified s) :=
  inferInstanceAs (Decidable (∃ r ∈ s.report, _))

/-- `_verify_delivery_certified`. -/
def verifyDeliveryCertified (s : State) : Result Unit :=
  refuse (¬ DeliveryCertified s)
    ⟨.workflowState, "Finance audit clearance is blocked until the designated Faculty Advisor " ++
      "has certified delivery of the post-event report.", []⟩

/-- `_verify_bill_document`; the document's type is not looked at. -/
def verifyBillDocument (env : Env) (event : Event) (billDocumentId : Uuid) : Result Document := do
  let doc ← fetch (env.activeDocument billDocumentId)
    ⟨.notFound, "Bill document '%s' not found or inactive.", [.uuid billDocumentId]⟩
  refuse (¬ doc.BelongsTo event)
    ⟨.badRequest, "Bill document does not belong to this event (cross-event reuse forbidden).", []⟩
  return doc

/-- SQL `trim`: blanks only. -/
def sqlTrim (t : Text) : Text :=
  ((t.dropWhile (· = ' ')).reverse.dropWhile (· = ' ')).reverse

/-- The duplicate query's `WHERE` clause, for normalised vendor and invoice number. -/
def MatchesInvoice (cfg : Config) (normVendor normInvoice : Text) (invoiceDate : Date)
    (exclude : Option Uuid) (e : ActualExpense) : Prop :=
  cfg.sqlLower (sqlTrim e.vendorName) = normVendor ∧
    (∃ n ∈ e.invoiceNumber, cfg.sqlLower (sqlTrim n) = normInvoice) ∧
    e.invoiceDate = invoiceDate ∧ e.status ≠ .disallowed ∧ exclude ≠ some e.id

instance (cfg : Config) (v i : Text) (d : Date) (x : Option Uuid) (e : ActualExpense) :
    Decidable (MatchesInvoice cfg v i d x e) :=
  inferInstanceAs (Decidable (_ ∧ (∃ n ∈ e.invoiceNumber, _) ∧ _ ∧ _ ∧ _))

/-- `_check_duplicate_invoice`: the review flag and its note. -/
def checkDuplicateInvoice (cfg : Config) (env : Env) (s : State) (vendorName : Text)
    (invoiceNumber : Option Text) (invoiceDate : Date) (billDocumentId : Uuid)
    (exclude : Option Uuid) : Result (Bool × Option String) :=
  match invoiceNumber.filter (fun n => ¬ isBlank n) with
  | none =>
      return (true, some "Voucher submitted without invoice number (Finance review required)")
  | some number => do
      let normVendor := cfg.lower (strip vendorName)
      let normInvoice := cfg.lower (strip number)
      refuse (∃ e ∈ env.otherExpenses,
          MatchesInvoice cfg normVendor normInvoice invoiceDate exclude e)
        ⟨.conflict, "Duplicate invoice detected: vendor '%s' invoice #%s on %s has already been " ++
          "claimed for another event.", [.text vendorName, .text number, .time invoiceDate]⟩
      refuse (∃ e ∈ s.expenses.rows,
          MatchesInvoice cfg normVendor normInvoice invoiceDate exclude e ∧
            e.billDocumentId ≠ billDocumentId)
        ⟨.conflict, "Duplicate invoice detected: invoice #%s is already attached to a different " ++
          "bill document in this event.", [.text number]⟩
      return (false, none)

/-! ## 2. Secretary actions -/

/-- `create_draft_expense`. The settlement is not looked at. -/
def createDraftExpense (cfg : Config) (env : Env) (actor : User) (newId : Uuid)
    (payload : ActualExpenseCreate) (s : State) : Result State := do
  ensureEventMutable s.event
  requireEventCompleted s.event
  verifyClubSecretary env s.event actor
  let doc ← verifyBillDocument env s.event payload.billDocumentId
  let (flagged, reviewNotes) ← checkDuplicateInvoice cfg env s payload.vendorName
    payload.invoiceNumber payload.invoiceDate payload.billDocumentId none
  let expenses ← fetch (s.expenses.insert
    { id := newId
      budgetLineItemId := payload.budgetLineItemId
      category := payload.category
      description := payload.description
      vendorName := payload.vendorName
      vendorGstin := payload.vendorGstin
      invoiceNumber := payload.invoiceNumber
      invoiceDate := payload.invoiceDate
      claimedAmount := payload.claimedAmount
      verifiedAmount := none
      status := .draft
      billDocumentId := doc.id
      submittedBy := actor.id
      submittedAt := none
      isFlaggedForReview := flagged
      reviewNotes := reviewNotes }) integrityError
  return { s with expenses := expenses }.log
    [createAuditEntry env actor .expenseCreated "actual_expense" newId none
      (some [("event_id", .uuid s.event.id), ("category", .name payload.category.value),
        ("description", .text payload.description), ("vendor_name", .text payload.vendorName),
        ("claimed_amount", .amount payload.claimedAmount),
        ("invoice_number", Value.ofText payload.invoiceNumber),
        ("invoice_date", .time payload.invoiceDate), ("bill_document_id", .uuid doc.id)])]

/-- The states in which an expense can still be edited or discarded. -/
def Editable (e : ActualExpense) : Prop := e.status = .draft ∨ e.status = .queried

instance (e : ActualExpense) : Decidable (Editable e) := inferInstanceAs (Decidable (_ ∨ _))

/-- `t.strip() or None`. -/
def strippedOrNone (t : Text) : Option Text := if isBlank t then none else some (strip t)

/-- The column values an edit leaves, given the review flag and its note. -/
def applyUpdate (payload : ActualExpenseUpdate) (flagged : Bool) (reviewNotes : Option String)
    (e : ActualExpense) : ActualExpense :=
  { e with
    category := payload.category.getD e.category
    description := (payload.description.map strip).getD e.description
    vendorName := (payload.vendorName.map strip).getD e.vendorName
    vendorGstin := (payload.vendorGstin.map strippedOrNone).getD e.vendorGstin
    invoiceNumber := (payload.invoiceNumber.map strippedOrNone).getD e.invoiceNumber
    invoiceDate := payload.invoiceDate.getD e.invoiceDate
    claimedAmount := payload.claimedAmount.getD e.claimedAmount
    billDocumentId := payload.billDocumentId.getD e.billDocumentId
    budgetLineItemId := payload.budgetLineItemId.or e.budgetLineItemId
    isFlaggedForReview := flagged
    reviewNotes := reviewNotes }

/-- A bill sent with an edit is checked when it differs from the one the expense has. -/
def verifyReplacementBill (env : Env) (event : Event) (expense : ActualExpense)
    (billDocumentId : Option Uuid) : Result Unit :=
  match billDocumentId.filter (fun b => b ≠ expense.billDocumentId) with
  | none => return ()
  | some b => do
      let _ ← verifyBillDocument env event b
      return ()

/-- The columns an edit's audit entry records. -/
def expenseState (e : ActualExpense) : StateDict :=
  [("category", .name e.category.value), ("description", .text e.description),
    ("vendor_name", .text e.vendorName), ("vendor_gstin", Value.ofText e.vendorGstin),
    ("invoice_number", Value.ofText e.invoiceNumber), ("invoice_date", .time e.invoiceDate),
    ("claimed_amount", .amount e.claimedAmount), ("bill_document_id", .uuid e.billDocumentId),
    ("status", .name e.status.value)]

/-- `update_expense`. -/
def updateExpense (cfg : Config) (env : Env) (actor : User) (expenseId : Uuid)
    (payload : ActualExpenseUpdate) (s : State) : Result State := do
  ensureEventMutable s.event
  verifyClubSecretary env s.event actor
  let expense ← fetch (s.expenses.find expenseId)
    ⟨.notFound, "Actual expense '%s' not found.", [.uuid expenseId]⟩
  refuse (expense.status = .verified ∨ expense.status = .partiallyVerified ∨
      expense.status = .disallowed)
    ⟨.workflowState, "Expense is in terminal '%s' status and cannot be modified.",
      [.name expense.status.value]⟩
  refuse (expense.status = .submitted)
    ⟨.workflowState, "Submitted expense is under Finance review and cannot be edited. Wait for " ++
      "review or query.", []⟩
  verifyReplacementBill env s.event expense payload.billDocumentId
  let (flagged, reviewNotes) ← checkDuplicateInvoice cfg env s
    ((payload.vendorName.filter (fun v => v ≠ [])).getD expense.vendorName)
    (payload.invoiceNumber.or expense.invoiceNumber)
    (payload.invoiceDate.getD expense.invoiceDate)
    (payload.billDocumentId.getD expense.billDocumentId) (some expense.id)
  let row := applyUpdate payload flagged reviewNotes expense
  let expenses ← fetch (s.expenses.replace row) integrityError
  return { s with expenses := expenses }.log
    [createAuditEntry env actor .expenseUpdated "actual_expense" expense.id
      (some (expenseState expense)) (some (expenseState row))
      (some "Secretary amended expense line item".toList)]

/-- `delete_draft_expense`. -/
def deleteDraftExpense (env : Env) (actor : User) (expenseId : Uuid) (s : State) :
    Result State := do
  ensureEventMutable s.event
  verifyClubSecretary env s.event actor
  let expense ← fetch (s.expenses.find expenseId)
    ⟨.notFound, "Actual expense '%s' not found.", [.uuid expenseId]⟩
  refuse (¬ Editable expense)
    ⟨.workflowState, "Cannot delete expense in '%s' status.", [.name expense.status.value]⟩
  return { s with expenses := s.expenses.erase expenseId }.log
    [createAuditEntry env actor .expenseUpdated "actual_expense" expense.id
      (some [("status", .name expense.status.value),
        ("claimed_amount", .amount expense.claimedAmount)]) none
      (some "Draft expense discarded by Club Secretary".toList)]

/-- The row is one the submission query selects: an empty or missing list selects all. -/
def Selected (ids : Option (List Uuid)) (e : ActualExpense) : Prop :=
  Editable e ∧ (ids.getD [] = [] ∨ e.id ∈ ids.getD [])

instance (ids : Option (List Uuid)) (e : ActualExpense) : Decidable (Selected ids e) :=
  inferInstanceAs (Decidable (_ ∧ (_ ∨ _)))

/-- The loop body of `submit_expenses` on one row. -/
def submitRow (now : Instant) (by_ : Uuid) (ids : Option (List Uuid)) (e : ActualExpense) :
    ActualExpense :=
  if Selected ids e then
    { e with status := .submitted, submittedAt := some now, submittedBy := by_ }
  else e

theorem submitRow_key (now : Instant) (u : Uuid) (ids : Option (List Uuid)) (e : ActualExpense) :
    Row.key (submitRow now u ids e) = Row.key e := by
  unfold submitRow
  by_cases h : Selected ids e
  · rw [if_pos h]; rfl
  · rw [if_neg h]

theorem submitRow_check (now : Instant) (u : Uuid) (ids : Option (List Uuid)) (e : ActualExpense)
    (h : Row.Check e) : Row.Check (submitRow now u ids e) := by
  unfold submitRow
  by_cases hs : Selected ids e
  · rw [if_pos hs]; exact h
  · rw [if_neg hs]; exact h

/-- The audit entry `submit_expenses` writes for one submitted row. -/
def submissionEntry (env : Env) (actor : User) (e : ActualExpense) : AuditEntry :=
  createAuditEntry env actor
    (if e.status = .queried then .expenseResubmitted else .expenseSubmitted) "actual_expense" e.id
    (some [("status", .name e.status.value)])
    (some [("status", .name ActualExpenseStatus.submitted.value),
      ("claimed_amount", .amount e.claimedAmount), ("submitted_at", .time env.now)])
    (some "Expense submitted for Finance verification".toList)

/-- `submit_expenses`. -/
def submitExpenses (env : Env) (actor : User) (expenseIds : Option (List Uuid)) (s : State) :
    Result State := do
  ensureEventMutable s.event
  requireEventCompleted s.event
  verifyClubSecretary env s.event actor
  let expenses := s.expenses.rows.filter (fun e => Selected expenseIds e)
  refuse (expenses = [])
    ⟨.badRequest, "No draft or queried expenses found to submit.", []⟩
  return { s with
    expenses := s.expenses.modify (submitRow env.now actor.id expenseIds)
      (submitRow_key _ _ _) (submitRow_check _ _ _) }.log
    (expenses.map (submissionEntry env actor))

/-! ## 3. Finance officer decisions -/

/-- The guards the four decisions share, in their order: the submitted row is returned. The
    operation's own word stands in the refusal of a row that is not SUBMITTED. -/
def loadSubmitted (verb : String) (actor : User) (expenseId : Uuid) (s : State) :
    Result ActualExpense := do
  verifyFinanceOfficer actor
  ensureEventMutable s.event
  verifyDeliveryCertified s
  let expense ← fetch (s.expenses.find expenseId)
    ⟨.notFound, "Actual expense '%s' not found.", [.uuid expenseId]⟩
  refuse (expense.status ≠ .submitted)
    ⟨.workflowState, "Cannot %s expense in '%s' status. Must be SUBMITTED.",
      [.name verb, .name expense.status.value]⟩
  return expense

/-- Write a decided row with its audit entry. -/
def writeDecision (env : Env) (actor : User) (action : AuditAction) (row : ActualExpense)
    (previous new : StateDict) (reason : Text) (s : State) : Result State := do
  let expenses ← fetch (s.expenses.replace row) integrityError
  return { s with expenses := expenses }.log
    [createAuditEntry env actor action "actual_expense" row.id (some previous) (some new)
      (some reason)]

/-- `verify_expense`. -/
def verifyExpense (env : Env) (actor : User) (expenseId : Uuid) (remarks : Option Text)
    (s : State) : Result State := do
  let expense ← loadSubmitted "verify" actor expenseId s
  writeDecision env actor .expenseVerified
    { expense with
      verifiedAmount := some expense.claimedAmount
      status := .verified
      verifiedBy := some actor.id
      verifiedAt := some env.now
      financeRemarks := remarks }
    [("status", .name expense.status.value), ("claimed_amount", .amount expense.claimedAmount),
      ("verified_amount", .null)]
    [("status", .name ActualExpenseStatus.verified.value),
      ("claimed_amount", .amount expense.claimedAmount),
      ("verified_amount", .amount expense.claimedAmount), ("disallowed_amount", .amount 0),
      ("finance_remarks", Value.ofText remarks)]
    ((remarks.filter (fun r => r ≠ [])).getD "Full claim verified by Finance Officer".toList) s

/-- `partial_verify_expense`. -/
def partialVerifyExpense (env : Env) (actor : User) (expenseId : Uuid) (verifiedAmount : Int)
    (remarks : Text) (s : State) : Result State := do
  let expense ← loadSubmitted "verify" actor expenseId s
  refuse (verifiedAmount ≥ expense.claimedAmount)
    ⟨.badRequest, "For partial verification, verified amount (₹%s) must be strictly less than " ++
      "claimed amount (₹%s). Use full verification instead.",
      [.amount verifiedAmount, .amount expense.claimedAmount]⟩
  refuse (verifiedAmount ≤ 0)
    ⟨.badRequest, "Verified amount must be greater than zero. For total rejection, use " ++
      "disallow.", []⟩
  writeDecision env actor .expensePartiallyVerified
    { expense with
      verifiedAmount := some verifiedAmount
      status := .partiallyVerified
      verifiedBy := some actor.id
      verifiedAt := some env.now
      financeRemarks := some remarks }
    [("status", .name expense.status.value), ("claimed_amount", .amount expense.claimedAmount),
      ("verified_amount", .null)]
    [("status", .name ActualExpenseStatus.partiallyVerified.value),
      ("claimed_amount", .amount expense.claimedAmount),
      ("verified_amount", .amount verifiedAmount),
      ("disallowed_amount", .amount (max 0 (expense.claimedAmount - verifiedAmount))),
      ("finance_remarks", .text remarks)]
    remarks s

/-- `query_expense`. -/
def queryExpense (env : Env) (actor : User) (expenseId : Uuid) (remarks : Text) (s : State) :
    Result State := do
  let expense ← loadSubmitted "query" actor expenseId s
  writeDecision env actor .expenseQueried
    { expense with
      status := .queried
      queryReason := some remarks
      financeRemarks := some remarks }
    [("status", .name expense.status.value), ("claimed_amount", .amount expense.claimedAmount),
      ("vendor_name", .text expense.vendorName),
      ("invoice_number", Value.ofText expense.invoiceNumber),
      ("bill_document_id", .uuid expense.billDocumentId)]
    [("status", .name ActualExpenseStatus.queried.value), ("query_reason", .text remarks)]
    remarks s

/-- `disallow_expense`. -/
def disallowExpense (env : Env) (actor : User) (expenseId : Uuid) (remarks : Text) (s : State) :
    Result State := do
  let expense ← loadSubmitted "disallow" actor expenseId s
  writeDecision env actor .expenseDisallowed
    { expense with
      verifiedAmount := some 0
      status := .disallowed
      verifiedBy := some actor.id
      verifiedAt := some env.now
      financeRemarks := some remarks }
    [("status", .name expense.status.value), ("claimed_amount", .amount expense.claimedAmount),
      ("verified_amount", .null)]
    [("status", .name ActualExpenseStatus.disallowed.value),
      ("claimed_amount", .amount expense.claimedAmount), ("verified_amount", .amount 0),
      ("disallowed_amount", .amount expense.claimedAmount), ("finance_remarks", .text remarks)]
    remarks s

end ExpenseService

/-! ## 4. What an expense operation does -/

/-- What an operation does to the expense table. Both verifications are one move. -/
inductive ExpenseMove where
  | created
  | updated
  | deleted
  | submitted
  | verified
  | queried
  | disallowed
  deriving DecidableEq, Repr

/-- What a finance decision may make of a submitted row. -/
inductive Decision (old : ActualExpense) : ExpenseMove → ActualExpense → Prop where
  | verified (row : ActualExpense) (hst : row.status = .verified)
      (hamt : row.verifiedAmount = some old.claimedAmount) : Decision old .verified row
  | partiallyVerified (row : ActualExpense) (v : Int) (hst : row.status = .partiallyVerified)
      (hamt : row.verifiedAmount = some v) (hpos : 0 < v) (hlt : v < old.claimedAmount) :
      Decision old .verified row
  | queried (row : ActualExpense) (hst : row.status = .queried)
      (hamt : row.verifiedAmount = old.verifiedAmount) : Decision old .queried row
  | disallowed (row : ActualExpense) (hst : row.status = .disallowed)
      (hamt : row.verifiedAmount = some 0) : Decision old .disallowed row

/-- **One step of the expense table.** -/
inductive ExpenseStep (s : State) : ExpenseMove → Table ActualExpense → Prop where
  | created (row : ActualExpense) (t : Table ActualExpense)
      (hcomp : s.event.status = .completed) (hst : row.status = .draft)
      (hins : s.expenses.insert row = some t) : ExpenseStep s .created t
  | updated (old row : ActualExpense) (t : Table ActualExpense) (hmut : ¬ s.event.Sealed)
      (hfind : s.expenses.find old.id = some old) (hfrom : ExpenseService.Editable old)
      (hid : row.id = old.id) (hst : row.status = old.status)
      (hrep : s.expenses.replace row = some t) : ExpenseStep s .updated t
  | deleted (old : ActualExpense) (hmut : ¬ s.event.Sealed)
      (hfind : s.expenses.find old.id = some old) (hfrom : ExpenseService.Editable old) :
      ExpenseStep s .deleted (s.expenses.erase old.id)
  | submitted (now : Instant) (u : Uuid) (ids : Option (List Uuid))
      (hcomp : s.event.status = .completed) :
      ExpenseStep s .submitted (s.expenses.modify (ExpenseService.submitRow now u ids)
        (ExpenseService.submitRow_key _ _ _) (ExpenseService.submitRow_check _ _ _))
  | decided (m : ExpenseMove) (old row : ActualExpense) (t : Table ActualExpense)
      (hmut : ¬ s.event.Sealed) (hfind : s.expenses.find old.id = some old)
      (hfrom : old.status = .submitted) (hid : row.id = old.id)
      (hclaim : row.claimedAmount = old.claimedAmount) (hdec : Decision old m row)
      (hrep : s.expenses.replace row = some t) : ExpenseStep s m t

namespace ExpenseService

variable {cfg : Config} {env : Env} {actor : User} {s s' : State}

@[simp] theorem requireEventCompleted_accepts {event : Event} {u : Unit} :
    requireEventCompleted event = .ok u ↔ event.status = .completed := by
  unfold requireEventCompleted
  rw [refuse_accepts, not_not]

theorem createDraftExpense_step {newId : Uuid} {payload : ActualExpenseCreate}
    (h : createDraftExpense cfg env actor newId payload s = .ok s') :
    ∃ t entries, ExpenseStep s .created t ∧ s' = { s with expenses := t }.log entries := by
  simp only [createDraftExpense, bind_accepts, fetch_accepts, exists_unit, pure_accepts,
    requireEventCompleted_accepts] at h
  obtain ⟨_, hcomp, _, _, _, ⟨flagged, notes⟩, _, t, hins, rfl⟩ := h
  exact ⟨t, _, .created _ t hcomp rfl hins, rfl⟩

theorem updateExpense_step {id : Uuid} {payload : ActualExpenseUpdate}
    (h : updateExpense cfg env actor id payload s = .ok s') :
    ∃ t entries, ExpenseStep s .updated t ∧ s' = { s with expenses := t }.log entries := by
  simp only [updateExpense, bind_accepts, fetch_accepts, exists_unit, pure_accepts,
    refuse_accepts, ensureEventMutable_accepts] at h
  obtain ⟨hmut, _, expense, hfind, hterm, hsub, _, ⟨flagged, notes⟩, _, t, hrep, rfl⟩ := h
  have hedit : Editable expense := by
    unfold Editable
    cases hst : expense.status <;> simp_all
  refine ⟨t, _, .updated expense _ t hmut (SettlementService.find_own hfind) hedit ?_ ?_ hrep,
    rfl⟩ <;> rfl

theorem deleteDraftExpense_accepts {id : Uuid} :
    deleteDraftExpense env actor id s = .ok s' ↔
      ¬ s.event.Sealed ∧ env.IsSecretary s.event.clubId actor.id ∧
        ∃ expense, s.expenses.find id = some expense ∧ Editable expense ∧
          { s with expenses := s.expenses.erase id }.log
            [createAuditEntry env actor .expenseUpdated "actual_expense" expense.id
              (some [("status", .name expense.status.value),
                ("claimed_amount", .amount expense.claimedAmount)]) none
              (some "Draft expense discarded by Club Secretary".toList)] = s' := by
  simp only [deleteDraftExpense, verifyClubSecretary, bind_accepts, fetch_accepts, exists_unit,
    pure_accepts, refuse_accepts, ensureEventMutable_accepts, not_not]

theorem deleteDraftExpense_step {id : Uuid} (h : deleteDraftExpense env actor id s = .ok s') :
    ∃ t entries, ExpenseStep s .deleted t ∧ s' = { s with expenses := t }.log entries := by
  obtain ⟨hmut, _, expense, hfind, hedit, rfl⟩ := deleteDraftExpense_accepts.mp h
  have hid : expense.id = id := Table.key_of_find hfind
  subst hid
  exact ⟨_, _, .deleted expense hmut hfind hedit, rfl⟩

theorem submitExpenses_step {ids : Option (List Uuid)}
    (h : submitExpenses env actor ids s = .ok s') :
    ∃ t entries, ExpenseStep s .submitted t ∧ s' = { s with expenses := t }.log entries := by
  simp only [submitExpenses, bind_accepts, exists_unit, pure_accepts, refuse_accepts,
    requireEventCompleted_accepts] at h
  obtain ⟨_, hcomp, _, _, rfl⟩ := h
  exact ⟨_, _, .submitted _ _ _ hcomp, rfl⟩

theorem loadSubmitted_accepts {verb : String} {id : Uuid} {e : ActualExpense} :
    loadSubmitted verb actor id s = .ok e ↔
      actor.role = .financeOfficer ∧ ¬ s.event.Sealed ∧ DeliveryCertified s ∧
        s.expenses.find id = some e ∧ e.status = .submitted := by
  simp only [loadSubmitted, verifyFinanceOfficer, verifyDeliveryCertified, bind_accepts,
    fetch_accepts, exists_unit, pure_accepts, refuse_accepts, ensureEventMutable_accepts,
    not_not, ne_eq]
  constructor
  · intro h
    obtain ⟨h1, h2, h3, a, h4, h5, rfl⟩ := h
    exact ⟨h1, h2, h3, h4, h5⟩
  · intro h
    obtain ⟨h1, h2, h3, h4, h5⟩ := h
    exact ⟨h1, h2, h3, e, h4, h5, rfl⟩

theorem writeDecision_accepts {action : AuditAction} {row : ActualExpense}
    {previous new : StateDict} {reason : Text} :
    writeDecision env actor action row previous new reason s = .ok s' ↔
      ∃ t, s.expenses.replace row = some t ∧
        { s with expenses := t }.log
          [createAuditEntry env actor action "actual_expense" row.id (some previous) (some new)
            (some reason)] = s' := by
  simp only [writeDecision, bind_accepts, fetch_accepts, pure_accepts]

/-- The step of a decision, from the guards and the write its operation shares with the others. -/
theorem decision_step {verb : String} {id : Uuid} {old row : ActualExpense} {action : AuditAction}
    {m : ExpenseMove}
    {previous new : StateDict} {reason : Text} (hload : loadSubmitted verb actor id s = .ok old)
    (hwrite : writeDecision env actor action row previous new reason s = .ok s')
    (hid : row.id = old.id) (hclaim : row.claimedAmount = old.claimedAmount)
    (hdec : Decision old m row) :
    ∃ t entries, ExpenseStep s m t ∧ s' = { s with expenses := t }.log entries := by
  obtain ⟨_, hmut, _, hfind, hst⟩ := loadSubmitted_accepts.mp hload
  obtain ⟨t, hrep, rfl⟩ := writeDecision_accepts.mp hwrite
  exact ⟨t, _, .decided m old row t hmut (SettlementService.find_own hfind) hst hid hclaim hdec hrep,
    rfl⟩

theorem verifyExpense_step {id : Uuid} {remarks : Option Text}
    (h : verifyExpense env actor id remarks s = .ok s') :
    ∃ t entries, ExpenseStep s .verified t ∧ s' = { s with expenses := t }.log entries := by
  simp only [verifyExpense, bind_accepts] at h
  obtain ⟨old, hload, hwrite⟩ := h
  exact decision_step hload hwrite rfl rfl (.verified _ rfl rfl)

theorem partialVerifyExpense_step {id : Uuid} {amount : Int} {remarks : Text}
    (h : partialVerifyExpense env actor id amount remarks s = .ok s') :
    ∃ t entries, ExpenseStep s .verified t ∧ s' = { s with expenses := t }.log entries := by
  simp only [partialVerifyExpense, bind_accepts, refuse_accepts, exists_unit] at h
  obtain ⟨old, hload, hlt, hpos, hwrite⟩ := h
  exact decision_step hload hwrite rfl rfl
    (.partiallyVerified _ amount rfl rfl (not_le.mp hpos) (not_le.mp hlt))

theorem queryExpense_step {id : Uuid} {remarks : Text}
    (h : queryExpense env actor id remarks s = .ok s') :
    ∃ t entries, ExpenseStep s .queried t ∧ s' = { s with expenses := t }.log entries := by
  simp only [queryExpense, bind_accepts] at h
  obtain ⟨old, hload, hwrite⟩ := h
  exact decision_step hload hwrite rfl rfl (.queried _ rfl rfl)

theorem disallowExpense_step {id : Uuid} {remarks : Text}
    (h : disallowExpense env actor id remarks s = .ok s') :
    ∃ t entries, ExpenseStep s .disallowed t ∧ s' = { s with expenses := t }.log entries := by
  simp only [disallowExpense, bind_accepts] at h
  obtain ⟨old, hload, hwrite⟩ := h
  exact decision_step hload hwrite rfl rfl (.disallowed _ rfl rfl)

/-! ## 5. Calls that are accepted -/

/-- **A draft or queried claim can be deleted** by the event's secretary. -/
theorem deleteDraftExpense_of {e : ActualExpense} (hmut : ¬ s.event.Sealed)
    (hsec : env.IsSecretary s.event.clubId actor.id) (hmem : e ∈ s.expenses)
    (hedit : Editable e) :
    ∃ entries, deleteDraftExpense env actor e.id s =
      .ok ({ s with expenses := s.expenses.erase e.id }.log entries) :=
  ⟨_, deleteDraftExpense_accepts.mpr
    ⟨hmut, hsec, e, Table.find_of_mem hmem, hedit, rfl⟩⟩

/-- **A submitted claim can be disallowed** by a finance officer, once delivery is certified. -/
theorem disallowExpense_of {e : ActualExpense} {remarks : Text}
    (hfo : actor.role = .financeOfficer) (hmut : ¬ s.event.Sealed) (hcert : DeliveryCertified s)
    (hmem : e ∈ s.expenses) (hst : e.status = .submitted) :
    ∃ row t entries, disallowExpense env actor e.id remarks s =
        .ok ({ s with expenses := t }.log entries) ∧ s.expenses.replace row = some t ∧
      row.id = e.id ∧ row.status = .disallowed := by
  let row : ActualExpense := { e with
      verifiedAmount := some 0
      status := .disallowed
      verifiedBy := some actor.id
      verifiedAt := some env.now
      financeRemarks := some remarks }
  have hclaim : 0 < e.claimedAmount := (s.expenses.checked e hmem).1
  have hcheck : Row.Check row := by
    refine ⟨hclaim, ?_⟩
    intro v hv
    have heq : 0 = v := Option.some.inj hv
    rw [← heq]
    exact ⟨le_refl _, hclaim.le⟩
  obtain ⟨t, ht⟩ := s.expenses.replace_of_check hcheck
  have hload : loadSubmitted "disallow" actor e.id s = .ok e :=
    loadSubmitted_accepts.mpr ⟨hfo, hmut, hcert, Table.find_of_mem hmem, hst⟩
  have haccepted : ∃ entries, disallowExpense env actor e.id remarks s =
      .ok ({ s with expenses := t }.log entries) := by
    simp only [disallowExpense, bind_accepts, writeDecision_accepts]
    exact ⟨_, e, hload, t, ht, rfl⟩
  obtain ⟨entries, hok⟩ := haccepted
  exact ⟨row, t, entries, hok, ht, rfl, rfl⟩

end ExpenseService

end CampusConnect
