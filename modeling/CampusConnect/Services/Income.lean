/-
  File:      CampusConnect/Services/Income.lean
  Subject:   Actual income: `record_income`, `verify_income` and `reject_income` of the
             settlement service.

  * `IncomeStep`: what an accepted income operation does to the income table;
  * `recordIncome_step`, `verifyIncome_step`, `rejectIncome_step`: every accepted call is one of
    these steps and touches nothing but the income table and the audit log.
-/
import CampusConnect.Services.Advance

namespace CampusConnect

open Guarded Rows

namespace SettlementService

/-! ## 1. The operations -/

/-- The document check of `record_income` and `record_payment`, with the two texts that name the
    expected document. -/
def verifyEvidence (env : Env) (event : Event) (documentId : Uuid) (expected : DocumentType)
    (missing wrongType foreign : String) : Result Unit := do
  let doc ← fetch (env.activeDocument documentId) ⟨.notFound, missing, [.uuid documentId]⟩
  refuse (doc.documentType ≠ expected) ⟨.badRequest, wrongType, []⟩
  refuse (¬ doc.BelongsTo event) ⟨.badRequest, foreign, []⟩

/-- An active document of the expected type is attached to the event or its proposal. -/
def HasEvidence (env : Env) (event : Event) (documentId : Uuid) (expected : DocumentType) : Prop :=
  ∃ doc, env.activeDocument documentId = some doc ∧ doc.documentType = expected ∧
    doc.BelongsTo event

@[simp] theorem verifyEvidence_accepts {env : Env} {event : Event} {id : Uuid}
    {expected : DocumentType} {m w f : String} {u : Unit} :
    verifyEvidence env event id expected m w f = .ok u ↔ HasEvidence env event id expected := by
  simp only [verifyEvidence, bind_accepts, refuse_accepts, fetch_accepts, exists_unit, not_not,
    HasEvidence, ne_eq]

/-- `record_income`. -/
def recordIncome (env : Env) (actor : User) (newId : Uuid) (sourceType : IncomeSourceType)
    (amount : Int) (description payerName : Text) (receivedDate : Date)
    (evidenceDocumentId : Uuid) (referenceNumber : Option Text) (s : State) : Result State := do
  ensureEventMutable s.event
  verifyClubSecretary env s.event actor
  refuse (s.event.cancelledAt ≠ none ∨ s.event.status = .cancelled)
    ⟨.workflowState, "Cannot record income for a cancelled event.", []⟩
  refuse (∃ r ∈ s.settlement, r.1.status = .settled)
    ⟨.workflowState, "Cannot record income for an already settled event.", []⟩
  refuse (amount ≤ 0) ⟨.badRequest, "Income amount must be greater than zero.", []⟩
  refuse (isBlank description) ⟨.badRequest, "Income description is required.", []⟩
  refuse (isBlank payerName) ⟨.badRequest, "Payer name is required.", []⟩
  verifyEvidence env s.event evidenceDocumentId .incomeEvidence
    "Evidence document '%s' not found or inactive."
    "Document must have DocumentType.INCOME_EVIDENCE."
    "Income evidence document does not belong to this event (cross-event reuse forbidden)."
  let incomes ← fetch (s.incomes.insert
    { id := newId
      sourceType := sourceType
      description := strip description
      payerName := strip payerName
      amount := amount
      receivedDate := receivedDate
      referenceNumber := stripped referenceNumber
      evidenceDocumentId := evidenceDocumentId
      status := .recorded
      recordedBy := actor.id }) integrityError
  return { s with incomes := incomes }.log
    [createAuditEntry env actor .incomeRecorded "actual_income" newId none
      (some [("event_id", .uuid s.event.id), ("source_type", .name sourceType.value),
        ("amount", .amount amount), ("payer_name", .text payerName),
        ("evidence_document_id", .uuid evidenceDocumentId),
        ("status", .name ActualIncomeStatus.recorded.value)])]

/-- `verify_income`. -/
def verifyIncome (env : Env) (actor : User) (incomeId : Uuid) (financeRemarks : Option Text)
    (s : State) : Result State := do
  verifyFinanceOfficer actor
  let income ← fetch (s.incomes.find incomeId)
    ⟨.notFound, "Actual income '%s' not found.", [.uuid incomeId]⟩
  ensureEventMutable s.event
  refuse (actor.id = income.recordedBy)
    ⟨.forbidden, "Club Secretary cannot self-verify recorded income.", []⟩
  refuse (income.status ≠ .recorded)
    ⟨.invalidWorkflowTransition, "Cannot verify income in '%s' status. Must be 'RECORDED'.",
      [.name income.status.value]⟩
  let incomes ← fetch (s.incomes.replace
    { income with
      status := .verified
      verifiedBy := some actor.id
      verifiedAt := some env.now
      financeRemarks := stripped financeRemarks }) integrityError
  return { s with incomes := incomes }.log
    [createAuditEntry env actor .incomeVerified "actual_income" income.id
      (some [("status", .name income.status.value)])
      (some [("status", .name ActualIncomeStatus.verified.value),
        ("amount", .amount income.amount), ("finance_remarks", Value.ofText financeRemarks)])]

/-- `f"REJECTED: {reason.strip()}"`, followed by the remarks where there are any. -/
def rejectionRemarks (rejectionReason : Text) (financeRemarks : Option Text) : Text :=
  match financeRemarks with
  | none => "REJECTED: ".toList ++ strip rejectionReason
  | some [] => "REJECTED: ".toList ++ strip rejectionReason
  | some r => "REJECTED: ".toList ++ strip rejectionReason ++ ". ".toList ++ strip r

/-- `reject_income`; it does not look at the event. -/
def rejectIncome (env : Env) (actor : User) (incomeId : Uuid) (rejectionReason : Text)
    (financeRemarks : Option Text) (s : State) : Result State := do
  verifyFinanceOfficer actor
  let income ← fetch (s.incomes.find incomeId)
    ⟨.notFound, "Actual income '%s' not found.", [.uuid incomeId]⟩
  refuse (actor.id = income.recordedBy)
    ⟨.forbidden, "Club Secretary cannot reject own recorded income via audit action.", []⟩
  refuse (income.status ≠ .recorded)
    ⟨.invalidWorkflowTransition, "Cannot reject income in '%s' status. Must be 'RECORDED'.",
      [.name income.status.value]⟩
  refuse (isBlank rejectionReason) ⟨.badRequest, "Rejection reason is mandatory.", []⟩
  let remarks := rejectionRemarks rejectionReason financeRemarks
  let incomes ← fetch (s.incomes.replace
    { income with
      status := .rejected
      verifiedBy := some actor.id
      verifiedAt := some env.now
      financeRemarks := some remarks }) integrityError
  return { s with incomes := incomes }.log
    [createAuditEntry env actor .incomeRejected "actual_income" income.id
      (some [("status", .name income.status.value)])
      (some [("status", .name ActualIncomeStatus.rejected.value),
        ("rejection_reason", .text rejectionReason), ("finance_remarks", .text remarks)])]

end SettlementService

/-! ## 2. What an income operation does -/

/-- What an operation does to the income table. -/
inductive IncomeMove where
  | recorded
  | verified
  | rejected
  deriving DecidableEq, Repr

/-- **One step of the income table.** -/
inductive IncomeStep (s : State) : IncomeMove → Table ActualIncome → Prop where
  | recorded (row : ActualIncome) (t : Table ActualIncome) (hmut : ¬ s.event.Sealed)
      (hset : ∀ r ∈ s.settlement, r.1.status ≠ .settled) (hst : row.status = .recorded)
      (hins : s.incomes.insert row = some t) : IncomeStep s .recorded t
  | verified (income row : ActualIncome) (t : Table ActualIncome) (hmut : ¬ s.event.Sealed)
      (hfind : s.incomes.find income.id = some income) (hfrom : income.status = .recorded)
      (hid : row.id = income.id) (hst : row.status = .verified)
      (hamt : row.amount = income.amount) (hrep : s.incomes.replace row = some t) :
      IncomeStep s .verified t
  | rejected (income row : ActualIncome) (t : Table ActualIncome)
      (hfind : s.incomes.find income.id = some income) (hfrom : income.status = .recorded)
      (hid : row.id = income.id) (hst : row.status = .rejected)
      (hamt : row.amount = income.amount) (hrep : s.incomes.replace row = some t) :
      IncomeStep s .rejected t

namespace SettlementService

variable {env : Env} {actor : User} {s s' : State}

/-- A row is found under its own key. -/
theorem find_own {α : Type} [Row α Uuid] {t : Table α} {id : Uuid} {a : α}
    (h : t.find id = some a) : t.find (Row.key a) = some a := by
  rw [Table.key_of_find h]
  exact h

theorem recordIncome_step {newId : Uuid} {src : IncomeSourceType} {amount : Int}
    {desc payer : Text} {date : Date} {doc : Uuid} {ref : Option Text}
    (h : recordIncome env actor newId src amount desc payer date doc ref s = .ok s') :
    ∃ t entries, IncomeStep s .recorded t ∧ s' = { s with incomes := t }.log entries := by
  simp only [recordIncome, bind_accepts, refuse_accepts, fetch_accepts, exists_unit,
    pure_accepts, ensureEventMutable_accepts] at h
  obtain ⟨hmut, _, _, hset, _, _, _, _, t, hins, rfl⟩ := h
  refine ⟨t, _, .recorded _ t hmut ?_ ?_ hins, rfl⟩
  · intro r hr e
    exact hset ⟨r, hr, e⟩
  · rfl

theorem verifyIncome_step {id : Uuid} {remarks : Option Text}
    (h : verifyIncome env actor id remarks s = .ok s') :
    ∃ t entries, IncomeStep s .verified t ∧ s' = { s with incomes := t }.log entries := by
  simp only [verifyIncome, bind_accepts, refuse_accepts, fetch_accepts, exists_unit,
    pure_accepts, ensureEventMutable_accepts, not_not, ne_eq] at h
  obtain ⟨_, income, hfind, hmut, _, hst, t, hrep, rfl⟩ := h
  refine ⟨t, _, .verified income _ t hmut (find_own hfind) hst ?_ ?_ ?_ hrep, rfl⟩ <;> rfl

theorem rejectIncome_accepts {id : Uuid} {reason : Text} {remarks : Option Text} :
    rejectIncome env actor id reason remarks s = .ok s' ↔
      actor.role = .financeOfficer ∧ ∃ income, s.incomes.find id = some income ∧
        ¬ actor.id = income.recordedBy ∧ income.status = .recorded ∧ ¬ isBlank reason ∧
        ∃ t, s.incomes.replace
          { income with
            status := .rejected
            verifiedBy := some actor.id
            verifiedAt := some env.now
            financeRemarks := some (rejectionRemarks reason remarks) } = some t ∧
          { s with incomes := t }.log
            [createAuditEntry env actor .incomeRejected "actual_income" income.id
              (some [("status", .name income.status.value)])
              (some [("status", .name ActualIncomeStatus.rejected.value),
                ("rejection_reason", .text reason),
                ("finance_remarks", .text (rejectionRemarks reason remarks))])] = s' := by
  simp only [rejectIncome, bind_accepts, refuse_accepts, fetch_accepts, exists_unit,
    pure_accepts, verifyFinanceOfficer_accepts, not_not, ne_eq]

theorem rejectIncome_step {id : Uuid} {reason : Text} {remarks : Option Text}
    (h : rejectIncome env actor id reason remarks s = .ok s') :
    ∃ t entries, IncomeStep s .rejected t ∧ s' = { s with incomes := t }.log entries := by
  obtain ⟨_, income, hfind, _, hst, _, t, hrep, rfl⟩ := rejectIncome_accepts.mp h
  refine ⟨t, _, .rejected income _ t (find_own hfind) hst ?_ ?_ ?_ hrep, rfl⟩ <;> rfl

/-- **A recorded income can be rejected** by a finance officer who did not record it. -/
theorem rejectIncome_of {income : ActualIncome} {reason : Text} {remarks : Option Text}
    (hfo : actor.role = .financeOfficer) (hmem : income ∈ s.incomes)
    (hapart : actor.id ≠ income.recordedBy) (hst : income.status = .recorded)
    (hreason : ¬ isBlank reason) :
    ∃ row t entries, rejectIncome env actor income.id reason remarks s =
        .ok ({ s with incomes := t }.log entries) ∧ s.incomes.replace row = some t ∧
      row.id = income.id ∧ row.status = .rejected := by
  let row : ActualIncome := { income with
      status := .rejected
      verifiedBy := some actor.id
      verifiedAt := some env.now
      financeRemarks := some (rejectionRemarks reason remarks) }
  obtain ⟨t, ht⟩ := s.incomes.replace_of_check (a := row) (s.incomes.checked income hmem)
  exact ⟨row, t, _, rejectIncome_accepts.mpr
    ⟨hfo, income, Table.find_of_mem hmem, hapart, hst, hreason, t, ht, rfl⟩, ht, rfl, rfl⟩

end SettlementService

end CampusConnect
