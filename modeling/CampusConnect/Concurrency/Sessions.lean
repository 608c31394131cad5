/-
  File:      CampusConnect/Concurrency/Sessions.lean
  Subject:   What concurrent requests share: the rows they lock, and how a session writes.

  A session computes with the rows it has loaded. A select of a row that is loaded already takes its
  lock but leaves its attributes, so that a computation may see columns older than its lock. What it
  writes are the columns it changed and the rows it added, in the database as it is at the commit.
-/
import CampusConnect.Base.Transactions
import CampusConnect.Guarantees.Ledger

namespace CampusConnect

open Guarded Rows Transactions

/-- The rows that are locked FOR UPDATE. -/
inductive RowKey where
  | event
  | settlement
  | expense (id : Uuid)
  deriving DecidableEq, Repr

/-- Programs on the rows of one event. -/
abbrev EventProg := Prog Failure State RowKey

/-- What a computation from `seen` to `s'` adds to the audit log. -/
def State.entriesSince (s' seen : State) : List AuditLog := s'.auditLogs.drop seen.auditLogs.length

/-- `UPDATE events SET status = …`, where the status is not the loaded one. -/
def Event.flush (loaded row c : Event) : Event :=
  { c with status := assigned loaded.status row.status c.status }

/-- `UPDATE financial_settlements … WHERE id = …`. -/
def State.updateSettlement (db : State) (id : Uuid)
    (f : FinancialSettlement → FinancialSettlement) : Result State := do
  let r ← fetch (db.settlement.filter fun r => r.1.id = id) staleDataError
  let row ← fetch (store (f r.1)) integrityError
  return { db with settlement := some row }

theorem State.updateSettlement_accepts {db db' : State} {id : Uuid}
    {f : FinancialSettlement → FinancialSettlement} :
    db.updateSettlement id f = .ok db' ↔
      ∃ r row, db.settlement = some r ∧ r.1.id = id ∧ row.1 = f r.1 ∧
        db' = { db with settlement := some row } := by
  simp only [State.updateSettlement, bind_accepts, fetch_accepts, Option.filter_eq_some_iff,
    decide_eq_true_eq, store_eq_some, pure_accepts]
  constructor
  · intro h
    obtain ⟨r, ⟨hr, hid⟩, row, hrow, rfl⟩ := h
    exact ⟨r, row, hr, hid, hrow.symm, rfl⟩
  · intro h
    obtain ⟨r, row, hr, hid, hrow, rfl⟩ := h
    exact ⟨r, ⟨hr, hid⟩, row, hrow.symm, rfl⟩

/-- An UPDATE of the status keeps the figures. -/
theorem FinancialSettlement.SameFigures.withStatus {a b : FinancialSettlement} (h : a.SameFigures b)
    (status : SettlementStatus) : ({ a with status := status } : FinancialSettlement).SameFigures b :=
  ⟨h.id, h.approvedVersionId, h.sanctionedGrant, h.sanctionedExpenditure, h.totalVerifiedExpenditure,
    h.totalVerifiedIncome, h.institutionalPayout, h.cashAdvanceDisbursed, h.settlementType⟩

end CampusConnect
