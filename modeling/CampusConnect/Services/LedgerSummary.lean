/-
  File:      CampusConnect/Services/LedgerSummary.lean
  Subject:   `get_ledger_summary` of the expense service: the figures the club and Finance see.

  * `CategoryStats`, `LedgerTally`: the accumulators of the loop; `tallyExpense`: its body;
  * `getLedgerSummary`: the guards, the loop and the flags of the response.

  The response repeats the rows with the names of their documents and users; these are left out.
-/
import CampusConnect.Base.Tally
import CampusConnect.Services.Settlement

namespace CampusConnect

open Guarded Rows

/-- The figures of one category, all zero at first. -/
structure CategoryStats where
  claimed : Int := 0
  verified : Int := 0
  disallowed : Int := 0
  count : Nat := 0
  deriving DecidableEq, Repr

/-- What the loop over the expenses has added up. -/
structure LedgerTally where
  totalClaimed : Int := 0
  totalVerified : Int := 0
  totalDisallowed : Int := 0
  statusCounts : List (String × Nat) := []
  catStats : List (String × CategoryStats) := []
  deriving DecidableEq, Repr

/-- `ExpenseLedgerSummaryResponse`, without the rows. -/
structure ExpenseLedgerSummary where
  eventId : Uuid
  sanctionedBudget : Int
  totalClaimedSpend : Int
  totalVerifiedSpend : Int
  totalDisallowedSpend : Int
  totalExpensesCount : Nat
  statusCounts : List (String × Nat)
  categoryBreakdown : List (String × CategoryStats)
  canSubmit : Bool
  canAudit : Bool
  deliveryCertified : Bool
  deriving DecidableEq, Repr

namespace LedgerTally

/-- `cat_stats[cat_key][…] += …`. -/
def write (acc : LedgerTally) (catKey : String) (f : CategoryStats → CategoryStats) : LedgerTally :=
  { acc with catStats := Tally.modify catKey {} f acc.catStats }

/-- Claimed spend excludes what is disallowed. -/
def claim (acc : LedgerTally) (e : ActualExpense) : LedgerTally :=
  if e.status ≠ .disallowed then
    { acc with totalClaimed := acc.totalClaimed + e.claimedAmount }.write e.category.value
      fun c => { c with claimed := c.claimed + e.claimedAmount }
  else acc

/-- Verified spend is what a verification in whole or in part has recorded. -/
def verify (acc : LedgerTally) (e : ActualExpense) : LedgerTally :=
  match e.verifiedAmount with
  | some v =>
      if e.status = .verified ∨ e.status = .partiallyVerified then
        { acc with totalVerified := acc.totalVerified + v }.write e.category.value
          fun c => { c with verified := c.verified + v }
      else acc
  | none => acc

/-- Disallowed spend of a decided claim. -/
def disallow (acc : LedgerTally) (e : ActualExpense) : LedgerTally :=
  if e.Decided then
    { acc with totalDisallowed := acc.totalDisallowed + e.disallowedAmount }.write e.category.value
      fun c => { c with disallowed := c.disallowed + e.disallowedAmount }
  else acc

end LedgerTally

/-- The body of the loop. -/
def tallyExpense (acc : LedgerTally) (e : ActualExpense) : LedgerTally :=
  let acc := { acc with statusCounts := Tally.modify e.status.value 0 (· + 1) acc.statusCounts }
  (((acc.claim e).verify e).disallow e).write e.category.value
    fun c => { c with count := c.count + 1 }

/-- The loop of `get_ledger_summary`. -/
def tallyExpenses (expenses : List ActualExpense) : LedgerTally :=
  expenses.foldl tallyExpense {}

namespace ExpenseService

/-- `get_ledger_summary`. -/
def getLedgerSummary (env : Env) (actor : User) (s : State) : Result ExpenseLedgerSummary := do
  refuse (actor.role = .clubSecretary ∧ ¬ env.IsMember s.event.clubId actor.id)
    ⟨.forbidden, "Cannot access ledger summary of another club's event.", []⟩
  let acc := tallyExpenses s.expenses.rows
  let deliveryCertified := decide (SettlementService.ReportCertified s)
  return {
    eventId := s.event.id
    sanctionedBudget :=
      match s.proposal.budgetProposal with
      | some budget => budget.totalExpectedExpenditure
      | none => 0
    totalClaimedSpend := acc.totalClaimed
    totalVerifiedSpend := acc.totalVerified
    totalDisallowedSpend := acc.totalDisallowed
    totalExpensesCount := s.expenses.rows.length
    statusCounts := acc.statusCounts
    categoryBreakdown := acc.catStats.insertionSort fun a b => a.1 ≤ b.1
    canSubmit := actor.role = .clubSecretary ∧ s.event.status = .completed ∧
      ∃ e ∈ s.expenses.rows, e.status = .draft ∨ e.status = .queried
    canAudit := actor.role = .financeOfficer ∧ deliveryCertified ∧
      ∃ e ∈ s.expenses.rows, e.status = .submitted
    deliveryCertified := deliveryCertified }

end ExpenseService

end CampusConnect
