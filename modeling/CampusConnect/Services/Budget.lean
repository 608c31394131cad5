/-
  File:      CampusConnect/Services/Budget.lean
  Subject:   The budget of a proposal (`budget_service.py`): its header, its line items and the
             verification by Finance.

  * `verifyCap`, `verifyBalance`: the two policy checks;
  * `createBudgetProposal`, `updateBudgetProposal`, `deleteBudgetProposal`: the header;
  * `addLineItem`, `updateLineItem`, `deleteLineItem`: each recounts the total with a second select,
    whose rows are the argument `later`;
  * `verifyBudget`: it looks at no status at all.
-/
import CampusConnect.Services.Drafting

namespace CampusConnect

open Guarded Rows

namespace BudgetService

/-! ## 1. Policy checks -/

/-- The cap on the institute's contribution. -/
def verifyCap (env : ReviewEnv) (contribution : Int) : Result Unit :=
  refuse (contribution > env.budgetInstituteContributionCap)
    ⟨.budgetCapExceeded, "Requested institutional contribution (₹%s) exceeds the institutional " ++
      "policy ceiling of ₹%s per event.",
      [.amount contribution, .amount env.budgetInstituteContributionCap]⟩

/-- Income and contribution together stay within the expenditure, where there is one to look at. -/
def verifyBalance (looks : Prop) [Decidable looks] (income contribution total : Int) :
    Result Unit :=
  refuse (looks ∧ income + contribution > total)
    ⟨.badRequest, "Sum of expected income (₹%s) and institute contribution (₹%s) cannot exceed " ++
      "total expenditure (₹%s).", [.amount income, .amount contribution, .amount total]⟩

/-- `sum(i.estimated_amount for i in items)`. -/
def totalOf (items : List BudgetLineItem) : Int := (items.map BudgetLineItem.estimatedAmount).sum

/-- `get_budget_proposal`. -/
def getBudgetProposal (p : Proposal) : Result BudgetProposal :=
  fetch p.budgetProposal
    ⟨.notFound, "No budget proposal found for event proposal '%s'.", [.uuid p.request.id]⟩

/-- The audit entry of a budget edit. -/
def edited (env : ReviewEnv) (actor : User) (entityType : String) (id : Uuid)
    (previousState newState : Option StateDict) : List AuditEntry :=
  [createAuditEntry env.toEnv actor .proposalUpdated entityType id previousState newState]

/-! ## 2. The header -/

structure BudgetLineItemCreate where
  description : Text
  category : BudgetLineItemCategory
  estimatedAmount : Int
  notes : Option Text := none
  deriving DecidableEq, Repr

structure BudgetProposalCreate where
  expectedIncome : Int := 0
  instituteContribution : Int := 0
  notes : Option Text := none
  lineItems : List BudgetLineItemCreate := []
  deriving DecidableEq, Repr

/-- `none` where the payload leaves a field out. -/
structure BudgetProposalUpdate where
  expectedIncome : Option Int := none
  instituteContribution : Option Int := none
  notes : Option Text := none
  deriving DecidableEq, Repr

def newItem (id : Uuid) (itemIn : BudgetLineItemCreate) : BudgetLineItem where
  id := id
  description := itemIn.description
  category := itemIn.category
  estimatedAmount := itemIn.estimatedAmount
  notes := itemIn.notes

def newBudget (newId : Uuid) (budgetIn : BudgetProposalCreate) (items : List BudgetLineItem) :
    BudgetProposal where
  id := newId
  expectedIncome := budgetIn.expectedIncome
  instituteContribution := budgetIn.instituteContribution
  totalExpectedExpenditure := totalOf items
  notes := budgetIn.notes
  financeStatus := .pending
  lineItems := items

/-- `create_budget_proposal`. The balance is checked only where there are line items. -/
def createBudgetProposal (env : ReviewEnv) (actor : User) (newId : Uuid) (newItemId : Nat → Uuid)
    (budgetIn : BudgetProposalCreate) (seen : Proposal) : Result Flush := do
  let r := seen.request
  openForEditing env.toEnv actor r
    ("Cannot create budget for proposal in '%s' status. Only proposals in DRAFT or " ++
      "REVISION_REQUIRED state can configure budget requirements.")
    "create a budget proposal for this event"
    "Club '%s' is currently inactive and cannot propose budgets."
  refuse (seen.budgetProposal ≠ none)
    ⟨.conflict, "A budget proposal already exists for this event proposal.", []⟩
  refuse (∃ i ∈ budgetIn.lineItems, i.estimatedAmount ≤ 0)
    ⟨.badRequest, "Line item estimated amount must be strictly greater than zero.", []⟩
  let items := budgetIn.lineItems.zipIdx.map fun (i, n) => newItem (newItemId n) i
  verifyCap env budgetIn.instituteContribution
  verifyBalance (items ≠ []) budgetIn.expectedIncome budgetIn.instituteContribution (totalOf items)
  let bp := newBudget newId budgetIn items
  return {
    write := fun p => asConflict "Could not create budget proposal due to database conflict." do
      refuse (p.budgetProposal ≠ none ∨ ¬ bp.Check ∨ ¬ (items.map BudgetLineItem.id).Nodup)
        integrityError
      return { p with budgetProposal := some bp }
    entries := edited env actor "budget_proposal" newId none
      (some [("event_id", .uuid r.id), ("total_expenditure", .amount (totalOf items)),
        ("institute_contribution", .amount budgetIn.instituteContribution),
        ("line_items_count", .number items.length)]) }

/-- The columns an update assigns; the finance status stays. -/
def editBudget (budgetIn : BudgetProposalUpdate) (seen b : BudgetProposal) : BudgetProposal :=
  { b with
    expectedIncome := patched seen.expectedIncome budgetIn.expectedIncome b.expectedIncome
    instituteContribution :=
      patched seen.instituteContribution budgetIn.instituteContribution b.instituteContribution
    notes := patched seen.notes (budgetIn.notes.map some) b.notes }

/-- `prev_state` and `new_state` of an update. -/
def headerState (b : BudgetProposal) : StateDict :=
  [("expected_income", .amount b.expectedIncome),
    ("institute_contribution", .amount b.instituteContribution)]

/-- `update_budget_proposal`. -/
def updateBudgetProposal (env : ReviewEnv) (actor : User) (budgetIn : BudgetProposalUpdate)
    (seen : Proposal) : Result Flush := do
  openForEditing env.toEnv actor seen.request
    ("Cannot update budget for proposal in '%s' status. Only proposals in DRAFT or " ++
      "REVISION_REQUIRED state can modify budget details.") "modify budget proposal for this event"
    "Club '%s' is currently inactive."
  let bp ← getBudgetProposal seen
  let income := budgetIn.expectedIncome.getD bp.expectedIncome
  let contribution := budgetIn.instituteContribution.getD bp.instituteContribution
  verifyCap env contribution
  verifyBalance (bp.totalExpectedExpenditure > 0) income contribution bp.totalExpectedExpenditure
  return {
    write := fun p => asConflict "Could not update budget proposal due to database conflict."
      (p.updateBudget bp.id (editBudget budgetIn bp))
    entries := edited env actor "budget_proposal" bp.id (some (headerState bp))
      (some (headerState (editBudget budgetIn bp bp))) }

/-- `delete_budget_proposal`. -/
def deleteBudgetProposal (env : ReviewEnv) (actor : User) (seen : Proposal) : Result Flush := do
  openForEditing env.toEnv actor seen.request
    ("Cannot delete budget for proposal in '%s' status. Only proposals in DRAFT or " ++
      "REVISION_REQUIRED state can remove budget details.") "remove budget proposal for this event"
    "Club '%s' is currently inactive."
  let bp ← getBudgetProposal seen
  return {
    write := fun p =>
      .ok { p with budgetProposal := p.budgetProposal.filter (fun b => b.id ≠ bp.id) }
    entries := edited env actor "budget_proposal" bp.id
      (some [("event_id", .uuid seen.request.id), ("total", .amount bp.totalExpectedExpenditure)])
      none }

/-! ## 3. Line items -/

/-- `none` where the payload leaves a field out. -/
structure BudgetLineItemUpdate where
  description : Option Text := none
  category : Option BudgetLineItemCategory := none
  estimatedAmount : Option Int := none
  notes : Option Text := none
  deriving DecidableEq, Repr

/-- The total after the flush, over the rows committed by then: of a row the session has loaded it
    keeps what it loaded. -/
def recount (session later : List BudgetLineItem) : Int :=
  totalOf (later.map fun i => (session.find? (fun j => j.id = i.id)).getD i)

/-- The line items of the proposal's budget. -/
def itemsOf (p : Proposal) : List BudgetLineItem :=
  (p.budgetProposal.map BudgetProposal.lineItems).getD []

theorem itemsOf_eq {p : Proposal} {bp : BudgetProposal} (h : p.budgetProposal = some bp) :
    itemsOf p = bp.lineItems := by
  unfold itemsOf
  rw [h]
  rfl

/-- A change of the line items together with the recounted total. -/
def changeItems (bp : BudgetProposal) (total : Int)
    (f : List BudgetLineItem → List BudgetLineItem) (b : BudgetProposal) : BudgetProposal :=
  { b with
    lineItems := f b.lineItems
    totalExpectedExpenditure :=
      assigned bp.totalExpectedExpenditure total b.totalExpectedExpenditure }

/-- `add_line_item`. -/
def addLineItem (env : ReviewEnv) (actor : User) (newId : Uuid) (itemIn : BudgetLineItemCreate)
    (seen later : Proposal) : Result Flush := do
  openForEditing env.toEnv actor seen.request
    ("Cannot add line items to proposal in '%s' status. Only proposals in DRAFT or " ++
      "REVISION_REQUIRED state can modify line items.") "add line items to this event's budget"
    "Club '%s' is currently inactive."
  let bp ← getBudgetProposal seen
  let item := newItem newId itemIn
  let total := recount (bp.lineItems ++ [item]) (itemsOf later ++ [item])
  return {
    write := fun p => do
      refuse (∃ i ∈ itemsOf p, i.id = newId) integrityError
      p.updateBudget bp.id (changeItems bp total fun items => items ++ [item])
    entries := edited env actor "budget_line_item" newId none
      (some [("description", .text item.description), ("amount", .amount item.estimatedAmount),
        ("new_total_expenditure", .amount total)]) }

/-- The line item of the key, as the session loaded it with the budget. -/
def getLineItem (bp : BudgetProposal) (itemId : Uuid) : Result BudgetLineItem :=
  fetch (bp.lineItems.find? (fun i => i.id = itemId))
    ⟨.notFound, "Budget line item '%s' not found.", [.uuid itemId]⟩

/-- The columns an update of a line item assigns. -/
def editItem (itemIn : BudgetLineItemUpdate) (seen i : BudgetLineItem) : BudgetLineItem :=
  { i with
    description := patched seen.description itemIn.description i.description
    category := patched seen.category itemIn.category i.category
    estimatedAmount := patched seen.estimatedAmount itemIn.estimatedAmount i.estimatedAmount
    notes := patched seen.notes (itemIn.notes.map some) i.notes }

/-- An update of one row. -/
def updateItem (itemIn : BudgetLineItemUpdate) (seen : BudgetLineItem)
    (items : List BudgetLineItem) : List BudgetLineItem :=
  items.map fun i => if i.id = seen.id then editItem itemIn seen i else i

/-- `str(item.category)`: an assigned member prints its class. -/
def categoryText (itemIn : BudgetLineItemUpdate) (seen : BudgetLineItem) : String :=
  match itemIn.category with
  | none => seen.category.value
  | some c => "BudgetLineItemCategory." ++ c.value

/-- `update_line_item`. -/
def updateLineItem (env : ReviewEnv) (actor : User) (itemId : Uuid) (itemIn : BudgetLineItemUpdate)
    (seen later : Proposal) : Result Flush := do
  openForEditing env.toEnv actor seen.request
    ("Cannot update line items for proposal in '%s' status. Only proposals in DRAFT or " ++
      "REVISION_REQUIRED state can modify line items.")
    "update line items for this event's budget" "Club '%s' is currently inactive."
  let bp ← getBudgetProposal seen
  let item ← getLineItem bp itemId
  let change := updateItem itemIn item
  let total := recount (change bp.lineItems) (change (itemsOf later))
  return {
    write := fun p => do
      -- without a column to change there is no UPDATE of the row
      refuse (editItem itemIn item item ≠ item ∧ item.id ∉ (itemsOf p).map BudgetLineItem.id)
        staleDataError
      p.updateBudget bp.id (changeItems bp total change)
    entries := edited env actor "budget_line_item" item.id
      (some [("description", .text item.description), ("category", .name item.category.value),
        ("amount", .amount item.estimatedAmount)])
      (some [("description", .text (editItem itemIn item item).description),
        ("category", .name (categoryText itemIn item)),
        ("amount", .amount (editItem itemIn item item).estimatedAmount),
        ("new_total_expenditure", .amount total)]) }

/-- `delete_line_item`. -/
def deleteLineItem (env : ReviewEnv) (actor : User) (itemId : Uuid) (seen later : Proposal) :
    Result Flush := do
  openForEditing env.toEnv actor seen.request
    ("Cannot delete line items for proposal in '%s' status. Only proposals in DRAFT or " ++
      "REVISION_REQUIRED state can remove line items.")
    "delete line items from this event's budget" "Club '%s' is currently inactive."
  let bp ← getBudgetProposal seen
  let item ← getLineItem bp itemId
  let change : List BudgetLineItem → List BudgetLineItem :=
    fun items => items.filter (fun i => i.id ≠ item.id)
  let total := recount bp.lineItems (change (itemsOf later))
  return {
    write := fun p => p.updateBudget bp.id (changeItems bp total change)
    entries := edited env actor "budget_line_item" item.id
      (some [("description", .text item.description), ("amount", .amount item.estimatedAmount)])
      (some [("new_total_expenditure", .amount total)]) }

/-! ## 4. The verification -/

/-- The payload of a verification; the schema leaves VERIFIED and QUERIED. -/
structure FinanceVerificationRequest where
  status : FinanceVerificationStatus
  notes : Option Text := none
  decided : status ≠ .pending

/-- `verify_budget`. -/
def verifyBudget (env : ReviewEnv) (actor : User) (verificationIn : FinanceVerificationRequest)
    (seen : Proposal) : Result Flush := do
  let bp ← getBudgetProposal seen
  return {
    write := fun p => p.updateBudget bp.id fun b =>
      { b with
        financeStatus := assigned bp.financeStatus verificationIn.status b.financeStatus
        financeVerifiedBy := assigned bp.financeVerifiedBy (some actor.id) b.financeVerifiedBy
        financeVerifiedAt := some env.now
        financeNotes := assigned bp.financeNotes verificationIn.notes b.financeNotes }
    entries := [createAuditEntry env.toEnv actor
      (if verificationIn.status = .verified then .budgetVerified else .budgetQueried)
      "budget_proposal" bp.id (some [("finance_status", .name bp.financeStatus.value)])
      (some [("finance_status",
          .name ("FinanceVerificationStatus." ++ verificationIn.status.value)),
        ("finance_notes", Value.ofText verificationIn.notes)])] }

/-! ## 5. What the calls write -/

section Writes

variable {env : ReviewEnv} {actor : User} {p q : Proposal} {f : Flush}

theorem createBudgetProposal_writes {newId : Uuid} {newItemId : Nat → Uuid}
    {budgetIn : BudgetProposalCreate}
    (h : createBudgetProposal env actor newId newItemId budgetIn p = .ok f)
    (hw : f.write p = .ok q) :
    p.request.Editable ∧ f.event = none ∧ p.budgetProposal = none ∧
      ∃ items, (newBudget newId budgetIn items).Check ∧ (items.map BudgetLineItem.id).Nodup ∧
        q = { p with budgetProposal := some (newBudget newId budgetIn items) } := by
  simp only [createBudgetProposal, bind_accepts, refuse_accepts, exists_unit, pure_accepts,
    not_not] at h
  obtain ⟨hopen, hnone, _, _, _, rfl⟩ := h
  simp only [asConflict_accepts, bind_accepts, refuse_accepts, exists_unit, pure_accepts, not_or,
    not_not] at hw
  obtain ⟨⟨_, hcheck, hids⟩, rfl⟩ := hw
  exact ⟨openForEditing_editable hopen, rfl, hnone, _, hcheck, hids, rfl⟩

/-- An accepted change of the budget row. -/
theorem updateBudget_writes {bp : BudgetProposal} {change : BudgetProposal → BudgetProposal}
    (hbp : p.budgetProposal = some bp) (hw : p.updateBudget bp.id change = .ok q) :
    (change bp).Check ∧ q = { p with budgetProposal := some (change bp) } := by
  obtain ⟨b, hb, _, hcheck, rfl⟩ := Proposal.updateBudget_accepts.mp hw
  obtain rfl : bp = b := Option.some.inj (hbp.symm.trans hb)
  exact ⟨hcheck, rfl⟩

theorem updateBudgetProposal_writes {budgetIn : BudgetProposalUpdate}
    (h : updateBudgetProposal env actor budgetIn p = .ok f) (hw : f.write p = .ok q) :
    p.request.Editable ∧ f.event = none ∧
      ∃ bp, p.budgetProposal = some bp ∧ (editBudget budgetIn bp bp).Check ∧
        q = { p with budgetProposal := some (editBudget budgetIn bp bp) } := by
  simp only [updateBudgetProposal, getBudgetProposal, bind_accepts, fetch_accepts, exists_unit,
    pure_accepts] at h
  obtain ⟨hopen, bp, hbp, _, _, rfl⟩ := h
  simp only [asConflict_accepts] at hw
  obtain ⟨hcheck, rfl⟩ := updateBudget_writes hbp hw
  exact ⟨openForEditing_editable hopen, rfl, bp, hbp, hcheck, rfl⟩

theorem deleteBudgetProposal_writes (h : deleteBudgetProposal env actor p = .ok f)
    (hw : f.write p = .ok q) :
    p.request.Editable ∧ f.event = none ∧ q = { p with budgetProposal := none } := by
  simp only [deleteBudgetProposal, getBudgetProposal, bind_accepts, fetch_accepts,
    pure_accepts] at h
  obtain ⟨_, hopen, bp, hbp, rfl⟩ := h
  cases hw
  refine ⟨openForEditing_editable hopen, rfl, ?_⟩
  rw [hbp]
  simp

theorem addLineItem_writes {newId : Uuid} {itemIn : BudgetLineItemCreate}
    (h : addLineItem env actor newId itemIn p p = .ok f) (hw : f.write p = .ok q) :
    p.request.Editable ∧ f.event = none ∧
      ∃ bp total, p.budgetProposal = some bp ∧ (∀ i ∈ bp.lineItems, i.id ≠ newId) ∧
        total = recount (bp.lineItems ++ [newItem newId itemIn])
          (bp.lineItems ++ [newItem newId itemIn]) ∧
        q = { p with
          budgetProposal :=
            some (changeItems bp total (fun items => items ++ [newItem newId itemIn]) bp) } := by
  simp only [addLineItem, getBudgetProposal, bind_accepts, fetch_accepts, pure_accepts] at h
  obtain ⟨_, hopen, bp, hbp, rfl⟩ := h
  simp only [bind_accepts, refuse_accepts, exists_unit] at hw
  obtain ⟨hnew, hw⟩ := hw
  obtain ⟨_, rfl⟩ := updateBudget_writes hbp hw
  rw [itemsOf_eq hbp] at hnew ⊢
  exact ⟨openForEditing_editable hopen, rfl, bp, _, hbp, fun i hi he => hnew ⟨i, hi, he⟩, rfl, rfl⟩

theorem updateLineItem_writes {itemId : Uuid} {itemIn : BudgetLineItemUpdate}
    (h : updateLineItem env actor itemId itemIn p p = .ok f) (hw : f.write p = .ok q) :
    p.request.Editable ∧ f.event = none ∧
      ∃ bp item total, p.budgetProposal = some bp ∧
        bp.lineItems.find? (fun i => i.id = itemId) = some item ∧
        total = recount (updateItem itemIn item bp.lineItems) (updateItem itemIn item bp.lineItems) ∧
        q = { p with budgetProposal := some (changeItems bp total (updateItem itemIn item) bp) } := by
  simp only [updateLineItem, getBudgetProposal, getLineItem, bind_accepts, fetch_accepts,
    pure_accepts] at h
  obtain ⟨_, hopen, bp, hbp, item, hitem, rfl⟩ := h
  simp only [bind_accepts, refuse_accepts, exists_unit] at hw
  obtain ⟨_, hw⟩ := hw
  obtain ⟨_, rfl⟩ := updateBudget_writes hbp hw
  refine ⟨openForEditing_editable hopen, rfl, bp, item, _, hbp, hitem, ?_, rfl⟩
  rw [itemsOf_eq hbp]

theorem deleteLineItem_writes {itemId : Uuid} (h : deleteLineItem env actor itemId p p = .ok f)
    (hw : f.write p = .ok q) :
    p.request.Editable ∧ f.event = none ∧
      ∃ bp item total, p.budgetProposal = some bp ∧
        bp.lineItems.find? (fun i => i.id = itemId) = some item ∧
        total = recount bp.lineItems (bp.lineItems.filter (fun i => i.id ≠ item.id)) ∧
        q = { p with
          budgetProposal := some
            (changeItems bp total (fun items => items.filter (fun i => i.id ≠ item.id)) bp) } := by
  simp only [deleteLineItem, getBudgetProposal, getLineItem, bind_accepts, fetch_accepts,
    pure_accepts] at h
  obtain ⟨_, hopen, bp, hbp, item, hitem, rfl⟩ := h
  obtain ⟨_, rfl⟩ := updateBudget_writes hbp hw
  refine ⟨openForEditing_editable hopen, rfl, bp, item, _, hbp, hitem, ?_, rfl⟩
  rw [itemsOf_eq hbp]

/-- A verification stamps the budget and leaves what it stamps. -/
theorem verifyBudget_writes {verificationIn : FinanceVerificationRequest}
    (h : verifyBudget env actor verificationIn p = .ok f) (hw : f.write p = .ok q) :
    f.event = none ∧ ∃ bp, p.budgetProposal = some bp ∧
      q = { p with
        budgetProposal := some
          { bp with
            financeStatus := verificationIn.status
            financeVerifiedBy := some actor.id
            financeVerifiedAt := some env.now
            financeNotes := verificationIn.notes } } := by
  simp only [verifyBudget, getBudgetProposal, bind_accepts, fetch_accepts, pure_accepts] at h
  obtain ⟨bp, hbp, rfl⟩ := h
  obtain ⟨_, rfl⟩ := updateBudget_writes hbp hw
  refine ⟨rfl, bp, hbp, ?_⟩
  simp only [assigned_self]

end Writes

end BudgetService

end CampusConnect
