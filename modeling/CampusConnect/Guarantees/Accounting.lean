/-
  File:      CampusConnect/Guarantees/Accounting.lean
  Subject:   The laws of the accounting engine, for any ledger it accepts.

  * `entitlement`: what the institution owes on an expenditure and an income under a grant,
    between nothing and the grant, growing with the one and shrinking with the other;
  * `SameLedger`: two ledgers that differ in the order of their rows only;
  * `accounting_engine_laws`: what `_compute_settlement_totals` returns is the same for every
    order of the rows, is the entitlement of the verified sums less the cash transferred, and is
    split into one due amount by its sign.
-/
import CampusConnect.System

namespace CampusConnect

open Guarded Rows SettlementService

/-! ## 1. The entitlement -/

/-- What the institution owes on an expenditure: the part no income covers, up to the grant. -/
def entitlement (grant expenditure income : Int) : Int := min grant (max 0 (expenditure - income))

theorem entitlement_nonneg {grant : Int} (hg : 0 ≤ grant) (expenditure income : Int) :
    0 ≤ entitlement grant expenditure income :=
  le_min hg (le_max_left _ _)

theorem entitlement_le_grant (grant expenditure income : Int) :
    entitlement grant expenditure income ≤ grant :=
  min_le_left _ _

/-- Income is never negative, so that what it leaves uncovered is at most what was spent. -/
theorem entitlement_le_expenditure {expenditure income : Int} (he : 0 ≤ expenditure)
    (hi : 0 ≤ income) (grant : Int) : entitlement grant expenditure income ≤ expenditure := by
  have hcovered : expenditure - income ≤ expenditure := by omega
  exact (min_le_right _ _).trans (max_le he hcovered)

theorem entitlement_mono {g g' v v' i i' : Int} (hg : g ≤ g') (hv : v ≤ v') (hi : i' ≤ i) :
    entitlement g v i ≤ entitlement g' v' i' :=
  min_le_min hg (max_le_max_left 0 (sub_le_sub hv hi))

/-! ## 2. What one row adds -/

theorem verifiedPart_nonneg {e : ActualExpense} (h : e.Check) : 0 ≤ verifiedPart e := by
  unfold verifiedPart
  cases e.status <;> try exact le_refl 0
  all_goals
    cases hv : e.verifiedAmount with
    | none => exact h.1.le
    | some v => exact (h.2 v hv).1

theorem disallowedPart_nonneg {e : ActualExpense} (h : e.Check) : 0 ≤ disallowedPart e := by
  unfold disallowedPart
  cases e.status <;> try exact le_refl 0
  all_goals first
    | exact h.1.le
    | simp only
      split
      · omega
      · exact le_refl 0

/-- A decided claim is verified or disallowed to the last cent. -/
theorem verified_add_disallowed {e : ActualExpense} (h : e.Check) (hres : ¬ e.Unresolved) :
    e.claimedAmount = verifiedPart e + disallowedPart e := by
  -- nothing is verified beyond the claim
  have hle : e.verifiedAmount.getD e.claimedAmount ≤ e.claimedAmount := by
    cases hv : e.verifiedAmount with
    | none => exact le_refl _
    | some v => exact (h.2 v hv).2
  unfold verifiedPart disallowedPart
  unfold ActualExpense.Unresolved at hres
  cases hst : e.status with
  | draft => exact absurd (.inl hst) hres
  | submitted => exact absurd (.inr (.inl hst)) hres
  | queried => exact absurd (.inr (.inr hst)) hres
  | disallowed => simp
  | verified =>
      simp only
      split <;> omega
  | partiallyVerified =>
      simp only
      split <;> omega

theorem incomePart_nonneg {i : ActualIncome} (h : 0 < i.amount) : 0 ≤ incomePart i := by
  unfold incomePart
  cases i.status <;> first | exact le_refl 0 | exact h.le

theorem disbursedPart_nonneg (advance : Option (Stored CashAdvance)) :
    0 ≤ disbursedPart advance := by
  unfold disbursedPart
  cases advance with
  | none => exact le_refl 0
  | some a =>
      have hcheck : CashAdvance.Check a.1 := a.2
      simp only
      split
      · exact hcheck.2.1
      · exact le_refl 0

/-! ## 3. The verified sums -/

/-- The claims Finance pays, in full or in part. -/
def paidClaims (s : State) : List ActualExpense :=
  s.expenses.rows.filter fun e => e.status = .verified ∨ e.status = .partiallyVerified

/-- The verified expenditure: the verified amounts of the paid claims. -/
def verifiedExpenditure (s : State) : Int :=
  ((paidClaims s).map fun e => e.verifiedAmount.getD e.claimedAmount).sum

/-- The verified income: the amounts of the verified records. -/
def verifiedIncome (s : State) : Int :=
  ((s.incomes.rows.filter fun i => i.status = .verified).map ActualIncome.amount).sum

theorem sum_verifiedPart (s : State) : s.expenses.sum verifiedPart = verifiedExpenditure s := by
  unfold verifiedExpenditure paidClaims
  rw [← Table.sum_filter]
  refine Table.sum_congr fun e _ => ?_
  unfold verifiedPart
  cases e.status <;> simp

theorem sum_incomePart (s : State) : s.incomes.sum incomePart = verifiedIncome s := by
  unfold verifiedIncome
  rw [← Table.sum_filter]
  refine Table.sum_congr fun i _ => ?_
  unfold incomePart
  cases i.status <;> simp

theorem verifiedExpenditure_nonneg (s : State) : 0 ≤ verifiedExpenditure s := by
  rw [← sum_verifiedPart]
  exact Table.sum_nonneg fun e he => verifiedPart_nonneg (s.expenses.checked e he)

theorem verifiedIncome_nonneg (s : State) : 0 ≤ verifiedIncome s := by
  rw [← sum_incomePart]
  exact Table.sum_nonneg fun i hi => incomePart_nonneg (s.incomes.checked i hi)

/-! ## 4. The split by sign -/

/-- The amounts of the payments of one type on the settlement of the event, if it has one. -/
def recordedAmounts (type : SettlementPaymentType) (s : State) : List Int :=
  match s.settlement with
  | none => []
  | some r => paidAmounts type r.1.id s.payments

theorem targetCleared_eq_sum (s : State) (type : SettlementPaymentType) :
    targetCleared s type = (recordedAmounts type s).sum := by
  unfold targetCleared recordedAmounts
  cases s.settlement with
  | none => rfl
  | some r => exact cleared_eq_sum type r.1.id s.payments

/-- The cash already moved: the advance paid out and the payments of the settlement. -/
def cashTransferred (s : State) : Int :=
  disbursedPart s.advance + (recordedAmounts .reimbursementDisbursement s).sum -
    (recordedAmounts .advanceRefundReceipt s).sum

/-- The balance is what is owed less the cash moved. -/
theorem settlementBalance_eq (s : State) (grant : Int) : (liveTotals s grant).settlementBalance =
    (liveTotals s grant).institutionalPayout - cashTransferred s := by
  unfold cashTransferred
  rw [← targetCleared_eq_sum, ← targetCleared_eq_sum]
  rfl

/-- A balance, as its two one-sided amounts. -/
theorem due_sub_due (b : Int) : (if b > 0 then b else 0) - (if b < 0 then -b else 0) = b := by
  rcases lt_trichotomy b 0 with h | h | h
  · rw [if_neg (by omega), if_pos h]
    omega
  · rw [if_neg (by omega), if_neg (by omega)]
    omega
  · rw [if_pos h, if_neg (by omega)]
    omega

theorem typeOfBalance_reimbursement {b : Int} : typeOfBalance b = .reimbursementDue ↔ 0 < b := by
  unfold typeOfBalance
  split_ifs <;> simp_all

theorem typeOfBalance_refund {b : Int} : typeOfBalance b = .refundDue ↔ b < 0 := by
  unfold typeOfBalance
  split_ifs with hpos hneg
  · simp only [false_iff]
    omega
  · simp [hneg]
  · simp [hneg]

theorem typeOfBalance_balanced {b : Int} : typeOfBalance b = .balanced ↔ b = 0 := by
  unfold typeOfBalance
  split_ifs with hpos hneg
  · simp only [false_iff]
    omega
  · simp only [false_iff]
    omega
  · simp only [true_iff]
    omega

/-! ## 5. The laws -/

/-- **What the engine returns is lawful.** -/
structure Lawful (s : State) (grant : Int) (t : SettlementTotals) : Prop where
  verified : t.totalVerifiedExpenditure = verifiedExpenditure s
  income : t.totalVerifiedIncome = verifiedIncome s
  payout : t.institutionalPayout =
    min grant (max 0 (t.totalVerifiedExpenditure - t.totalVerifiedIncome))
  payout_nonneg : 0 ≤ t.institutionalPayout
  payout_le_grant : t.institutionalPayout ≤ grant
  payout_le_verified : t.institutionalPayout ≤ t.totalVerifiedExpenditure
  reimbursement_nonneg : 0 ≤ t.reimbursementDue
  refund_nonneg : 0 ≤ t.refundDue
  one_sided : t.reimbursementDue = 0 ∨ t.refundDue = 0
  difference : t.reimbursementDue - t.refundDue = t.institutionalPayout - cashTransferred s
  reimbursement_iff : t.settlementType = .reimbursementDue ↔
    0 < t.institutionalPayout - cashTransferred s
  refund_iff : t.settlementType = .refundDue ↔ t.institutionalPayout - cashTransferred s < 0
  balanced_iff : t.settlementType = .balanced ↔ t.institutionalPayout - cashTransferred s = 0
  claimed : t.totalClaimedExpenditure =
    t.totalVerifiedExpenditure + t.totalDisallowedExpenditure

/-- Of a resolved ledger every claim is accounted for. -/
theorem claimed_eq {s : State} (h : LedgerResolved s) :
    s.expenses.sum ActualExpense.claimedAmount =
      s.expenses.sum verifiedPart + s.expenses.sum disallowedPart := by
  rw [Table.sum_add]
  exact Table.sum_congr fun e he => verified_add_disallowed (s.expenses.checked e he) (h.1 e he)

theorem payout_eq (s : State) (grant : Int) : (liveTotals s grant).institutionalPayout =
    entitlement grant (verifiedExpenditure s) (verifiedIncome s) := by
  unfold entitlement
  rw [← sum_verifiedPart, ← sum_incomePart]
  rfl

theorem reimbursementDue_nonneg (s : State) (grant : Int) :
    0 ≤ (liveTotals s grant).reimbursementDue := by
  simp only [liveTotals, totalsOf]
  split <;> omega

theorem refundDue_nonneg (s : State) (grant : Int) : 0 ≤ (liveTotals s grant).refundDue := by
  simp only [liveTotals, totalsOf]
  split <;> omega

theorem lawful_liveTotals {s : State} {grant : Int} (hgrant : 0 ≤ grant) (h : LedgerResolved s) :
    Lawful s grant (liveTotals s grant) where
  verified := sum_verifiedPart s
  income := sum_incomePart s
  payout := rfl
  payout_nonneg := by
    rw [payout_eq]
    exact entitlement_nonneg hgrant _ _
  payout_le_grant := by
    rw [payout_eq]
    exact entitlement_le_grant _ _ _
  payout_le_verified := by
    have hv : (liveTotals s grant).totalVerifiedExpenditure = verifiedExpenditure s :=
      sum_verifiedPart s
    rw [payout_eq, hv]
    exact entitlement_le_expenditure (verifiedExpenditure_nonneg s) (verifiedIncome_nonneg s) _
  reimbursement_nonneg := reimbursementDue_nonneg s grant
  refund_nonneg := refundDue_nonneg s grant
  one_sided := by
    simp only [liveTotals, totalsOf]
    rcases le_or_gt ((liveTotals s grant).settlementBalance) 0 with hle | hlt
    · exact .inl (if_neg (not_lt.mpr hle))
    · exact .inr (if_neg (not_lt.mpr hlt.le))
  difference := by
    rw [← settlementBalance_eq]
    exact due_sub_due _
  reimbursement_iff := by
    rw [← settlementBalance_eq]
    exact typeOfBalance_reimbursement
  refund_iff := by
    rw [← settlementBalance_eq]
    exact typeOfBalance_refund
  balanced_iff := by
    rw [← settlementBalance_eq]
    exact typeOfBalance_balanced
  claimed := claimed_eq h

/-! ## 6. The order of the rows -/

/-- The same rows in any order, the same advance and the same settlement. -/
structure SameLedger (s s' : State) : Prop where
  expenses : s.expenses.rows.Perm s'.expenses.rows
  incomes : s.incomes.rows.Perm s'.incomes.rows
  payments : s.payments.Perm s'.payments
  advance : s'.advance = s.advance
  settlement : s'.settlement = s.settlement

theorem SameLedger.targetCleared {s s' : State} (h : SameLedger s s')
    (type : SettlementPaymentType) : targetCleared s type = targetCleared s' type := by
  unfold SettlementService.targetCleared
  rw [h.settlement]
  cases s.settlement with
  | none => rfl
  | some r => exact (h.payments.map _).sum_eq

theorem SameLedger.liveTotals {s s' : State} (h : SameLedger s s') (grant : Int) :
    liveTotals s grant = liveTotals s' grant := by
  unfold SettlementService.liveTotals
  rw [Table.sum_perm h.expenses, Table.sum_perm h.expenses, Table.sum_perm h.expenses,
    Table.sum_perm h.incomes, h.advance, h.targetCleared, h.targetCleared]

/-! ## 7. The engine -/

variable {s : State} {grant : Int} {t : SettlementTotals}

/-- **The accounting engine, on any ledger it does not refuse.** -/
theorem accounting_engine_laws (hgrant : 0 ≤ grant)
    (h : computeSettlementTotals s grant = .ok t) :
    Lawful s grant t ∧
    (∀ s', SameLedger s s' → computeSettlementTotals s' grant = .ok t) ∧
    ∀ s' grant' t', computeSettlementTotals s' grant' = .ok t' → grant ≤ grant' →
      t.totalVerifiedExpenditure ≤ t'.totalVerifiedExpenditure →
      t'.totalVerifiedIncome ≤ t.totalVerifiedIncome →
      t.institutionalPayout ≤ t'.institutionalPayout := by
  obtain ⟨hres, rfl⟩ := computeSettlementTotals_accepts.mp h
  refine ⟨lawful_liveTotals hgrant hres, ?_, ?_⟩
  · intro s' hsame
    exact computeSettlementTotals_accepts.mpr
      ⟨hres.perm hsame.expenses hsame.incomes hsame.advance, (hsame.liveTotals grant).symm⟩
  · intro s' grant' t' h' hg hv hi
    obtain ⟨_, rfl⟩ := computeSettlementTotals_accepts.mp h'
    exact entitlement_mono hg hv hi

namespace Sample

def income (n : Nat) (amount : Int) (status : ActualIncomeStatus) : ActualIncome where
  id := uid n
  sourceType := .registrationFee
  description := "fees".toList
  payerName := "payer".toList
  amount := amount
  receivedDate := 0
  referenceNumber := none
  evidenceDocumentId := uid 22
  status := status
  recordedBy := uid 1

/-- An advance of 20.00, paid out. -/
def advance : Stored CashAdvance :=
  ⟨{ id := uid 70
     amountRequested := 2000
     amountApproved := some 2000
     amountDisbursed := 2000
     status := .disbursed
     recipientId := uid 1 }, by decide⟩

/-- A claim of which 25.00 are verified, and one of which nothing is. -/
def partialClaim : ActualExpense := expense 41 .partiallyVerified (some 2500)

def disallowedClaim : ActualExpense := expense 42 .disallowed none

/-- The settlement of an earlier preparation. -/
def reopenedRow : Stored FinancialSettlement :=
  ⟨{ compiledRow (uid 30) ⟨uid 12, 10000, 20000, 0⟩ (liveTotals (opening (some advance)) 10000)
      (uid 1) with status := .reopened }, by decide⟩

def transfer (n : Nat) (type : SettlementPaymentType) (amount : Int) (h : 0 < amount) :
    Stored SettlementPayment :=
  ⟨{ id := uid n
     settlementId := uid 30
     paymentType := type
     amount := amount
     paymentMethod := .cheque
     transactionReference := "reference".toList
     transactionDate := 0
     proofDocumentId := uid 21
     recordedBy := uid 2
     notes := none }, h⟩

/-- Claims of 60.00 verified, 25.00 of 60.00 verified and 60.00 disallowed; fees of 10.00 verified and
    7.00 rejected; an advance of 20.00; two reimbursements and a refund. -/
def ledger : State :=
  { opening (some advance) with
    expenses := ⟨[expense 40 .verified (some 6000), partialClaim, disallowedClaim], by decide, by decide⟩
    incomes := ⟨[income 60 1000 .verified, income 61 700 .rejected], by decide, by decide⟩
    settlement := some reopenedRow
    payments := [transfer 31 .reimbursementDisbursement 2000 (by decide),
      transfer 32 .advanceRefundReceipt 500 (by decide),
      transfer 33 .reimbursementDisbursement 1500 (by decide)] }

/-- The same rows in another order. -/
def shuffled : State :=
  { ledger with
    expenses := ⟨[disallowedClaim, partialClaim, expense 40 .verified (some 6000)], by decide, by decide⟩
    incomes := ⟨[income 61 700 .rejected, income 60 1000 .verified], by decide, by decide⟩
    payments := [transfer 33 .reimbursementDisbursement 1500 (by decide),
      transfer 31 .reimbursementDisbursement 2000 (by decide),
      transfer 32 .advanceRefundReceipt 500 (by decide)] }

/-- A further claim of 60.00 is verified. -/
def enlarged : State :=
  { ledger with
    expenses := ⟨[expense 40 .verified (some 6000), partialClaim, disallowedClaim,
      expense 43 .verified (some 6000)], by decide, by decide⟩ }

theorem sameLedger_shuffled : SameLedger ledger shuffled where
  expenses := by decide
  incomes := by decide
  payments := by decide
  advance := rfl
  settlement := rfl

end Sample

/-- The ledger above under a grant of 100.00: the payout is 75.00, of which 50.00 have moved. The same in
    another order of its rows; and with a further claim under a grant of 120.00 the payout is not less. -/
theorem accounting_engine_laws_ledger :
    ∃ t t', computeSettlementTotals Sample.ledger 10000 = .ok t ∧
      Lawful Sample.ledger 10000 t ∧ t.institutionalPayout = 7500 ∧
      cashTransferred Sample.ledger = 5000 ∧
      computeSettlementTotals Sample.shuffled 10000 = .ok t ∧
      computeSettlementTotals Sample.enlarged 12000 = .ok t' ∧
      t.institutionalPayout ≤ t'.institutionalPayout := by
  have hok : computeSettlementTotals Sample.ledger 10000 =
      .ok (liveTotals Sample.ledger 10000) := by decide
  have hlarge : computeSettlementTotals Sample.enlarged 12000 =
      .ok (liveTotals Sample.enlarged 12000) := by decide
  obtain ⟨hlaws, horder, hmono⟩ := accounting_engine_laws (by decide) hok
  exact ⟨_, _, hok, hlaws, by decide, by decide, horder _ Sample.sameLedger_shuffled, hlarge,
    hmono _ _ _ hlarge (by decide) (by decide) (by decide)⟩

end CampusConnect
