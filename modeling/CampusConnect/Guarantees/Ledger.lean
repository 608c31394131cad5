/-
  File:      CampusConnect/Guarantees/Ledger.lean
  Subject:   The LEDGER FIGURES: what the settlement stores of them against what the ledger holds.

  * `Figures`, `State.figures`: verified expenditure, verified income and disbursed advance;
  * `figures_kept`, `figures_grown`: only a verification and a disbursement move them, and upwards;
  * `Booked`: a settlement stores the sanctioned snapshot, figures not above the live ones and the
    payout the formula gives on them;
  * `Dated`, `AddedSinceAudit`: whether the ledger was added to since the latest audit decision;
  * `closed_books_match_iff`: exactly then the books of a closed event do not match its ledger.
-/
import CampusConnect.Guarantees.Closure

namespace CampusConnect

open Rows SettlementService

/-! ## 1. Figures -/

/-- The three figures a settlement is computed from. -/
structure Figures where
  verified : Int
  income : Int
  disbursed : Int
  deriving DecidableEq, Repr

/-- Their sum: it grows when one of them does and none falls. -/
def Figures.total (f : Figures) : Int := f.verified + f.income + f.disbursed

/-- No figure of `f` is above that of `g`. -/
structure Figures.Le (f g : Figures) : Prop where
  verified : f.verified ≤ g.verified
  income : f.income ≤ g.income
  disbursed : f.disbursed ≤ g.disbursed

theorem Figures.Le.refl (f : Figures) : f.Le f := ⟨le_refl _, le_refl _, le_refl _⟩

theorem Figures.Le.trans {f g h : Figures} (hfg : f.Le g) (hgh : g.Le h) : f.Le h :=
  ⟨hfg.verified.trans hgh.verified, hfg.income.trans hgh.income,
    hfg.disbursed.trans hgh.disbursed⟩

/-- Figures in order that differ are told apart by their sum. -/
theorem Figures.Le.total_lt {f g : Figures} (h : f.Le g) (hne : f ≠ g) : f.total < g.total := by
  obtain ⟨hv, hi, hd⟩ := h
  by_contra hge
  refine hne ?_
  have hle : g.verified + g.income + g.disbursed ≤ f.verified + f.income + f.disbursed :=
    not_lt.mp hge
  cases f
  cases g
  simp only at hv hi hd hle
  rw [Figures.mk.injEq]
  exact ⟨by omega, by omega, by omega⟩

/-- The figures of the live ledger. -/
def State.figures (s : State) : Figures :=
  ⟨s.expenses.sum verifiedPart, s.incomes.sum incomePart, disbursedPart s.advance⟩

/-- The figures a settlement stores. -/
def FinancialSettlement.figures (r : FinancialSettlement) : Figures :=
  ⟨r.totalVerifiedExpenditure, r.totalVerifiedIncome, r.cashAdvanceDisbursed⟩

theorem FinancialSettlement.SameFigures.figures {a b : FinancialSettlement}
    (h : a.SameFigures b) : a.figures = b.figures := by
  unfold FinancialSettlement.figures
  rw [h.totalVerifiedExpenditure, h.totalVerifiedIncome, h.cashAdvanceDisbursed]

/-! ## 2. What moves the figures -/

/-- The moves that add to the ledger: a verified claim, a verified income, a paid-out advance. -/
def Move.Adds : Move → Prop
  | .expense .verified => True
  | .income .verified => True
  | .advance .disbursed => True
  | _ => False

instance : (m : Move) → Decidable m.Adds
  | .expense .verified => .isTrue trivial
  | .income .verified => .isTrue trivial
  | .advance .disbursed => .isTrue trivial
  | .read | .settlement _ | .execution | .cancellation | .closeout _ => .isFalse id
  | .expense .created | .expense .updated | .expense .deleted | .expense .submitted
  | .expense .queried | .expense .disallowed => .isFalse id
  | .income .recorded | .income .rejected => .isFalse id
  | .advance .requested | .advance .approved | .advance .rejected => .isFalse id

section Effects

variable {s : State}

/-- A claim Finance has not decided counts for nothing. -/
theorem verifiedPart_of_unresolved {e : ActualExpense} (h : e.Unresolved) : verifiedPart e = 0 := by
  unfold verifiedPart
  rcases h with h | h | h
  · rw [h]
  · rw [h]
  · rw [h]

theorem unresolved_of_editable {e : ActualExpense} (h : ExpenseService.Editable e) :
    e.Unresolved := by
  rcases h with h | h
  · exact .inl h
  · exact .inr (.inr h)

/-- A finance decision on a claim: a verification counts something, the others nothing. -/
theorem verifiedPart_decision {old row : ActualExpense} {m : ExpenseMove}
    (hpos : 0 < old.claimedAmount) (h : Decision old m row) :
    (m = .verified → 0 < verifiedPart row) ∧ (m ≠ .verified → verifiedPart row = 0) := by
  unfold verifiedPart
  cases h with
  | verified row hst hamt =>
      rw [hst, hamt]
      exact ⟨fun _ => hpos, fun hne => absurd rfl hne⟩
  | partiallyVerified row v hst hamt hv hlt =>
      rw [hst, hamt]
      exact ⟨fun _ => hv, fun hne => absurd rfl hne⟩
  | queried row hst hamt =>
      rw [hst]
      exact ⟨fun he => (nomatch he), fun _ => rfl⟩
  | disallowed row hst hamt =>
      rw [hst]
      exact ⟨fun he => (nomatch he), fun _ => rfl⟩

/-- **The expense table**: verified expenditure grows by a verification and is kept otherwise. -/
theorem verified_expenseStep {m : ExpenseMove} {t : Table ActualExpense} (h : ExpenseStep s m t) :
    (m = .verified → s.expenses.sum verifiedPart < t.sum verifiedPart) ∧
      (m ≠ .verified → t.sum verifiedPart = s.expenses.sum verifiedPart) := by
  cases h with
  | created row t hcomp hst hins =>
      refine ⟨fun he => (nomatch he), fun _ => ?_⟩
      rw [Table.sum_insert hins, verifiedPart_of_unresolved (.inl hst), add_zero]
  | updated old row t hmut hfind hfrom hid hst hrep =>
      refine ⟨fun he => (nomatch he), fun _ => ?_⟩
      have hrow : row.Unresolved := by
        unfold ActualExpense.Unresolved
        rw [hst]
        exact unresolved_of_editable hfrom
      rw [Table.sum_replace hrep (Table.mem_of_find hfind) hid,
        verifiedPart_of_unresolved (unresolved_of_editable hfrom),
        verifiedPart_of_unresolved hrow, sub_zero, add_zero]
  | deleted old hmut hfind hfrom =>
      refine ⟨fun he => (nomatch he), fun _ => ?_⟩
      have herase : (s.expenses.erase (Row.key old)).sum verifiedPart =
          s.expenses.sum verifiedPart - verifiedPart old :=
        Table.sum_erase (Table.mem_of_find hfind) verifiedPart
      show (s.expenses.erase (Row.key old)).sum verifiedPart = _
      rw [herase, verifiedPart_of_unresolved (unresolved_of_editable hfrom), sub_zero]
  | submitted now u ids hcomp =>
      refine ⟨fun he => (nomatch he), fun _ => ?_⟩
      rw [Table.sum_modify]
      refine Table.sum_congr ?_
      intro e he
      unfold ExpenseService.submitRow
      by_cases hsel : ExpenseService.Selected ids e
      · rw [if_pos hsel, verifiedPart_of_unresolved (unresolved_of_editable hsel.1)]
        rfl
      · rw [if_neg hsel]
  | decided m old row t hmut hfind hfrom hid hclaim hdec hrep =>
      have hmem : old ∈ s.expenses := Table.mem_of_find hfind
      have hpos : 0 < old.claimedAmount := (s.expenses.checked old hmem).1
      have hdecided := verifiedPart_decision hpos hdec
      have hold : verifiedPart old = 0 := verifiedPart_of_unresolved (.inr (.inl hfrom))
      rw [Table.sum_replace hrep hmem hid, hold, sub_zero]
      constructor
      · intro hm
        have := hdecided.1 hm
        omega
      · intro hm
        rw [hdecided.2 hm, add_zero]

theorem incomePart_of_ne {i : ActualIncome} (h : i.status ≠ .verified) : incomePart i = 0 := by
  unfold incomePart
  cases hst : i.status with
  | recorded => rfl
  | verified => exact absurd hst h
  | rejected => rfl

/-- **The income table**: verified income grows by a verification and is kept otherwise. -/
theorem income_incomeStep {m : IncomeMove} {t : Table ActualIncome} (h : IncomeStep s m t) :
    (m = .verified → s.incomes.sum incomePart < t.sum incomePart) ∧
      (m ≠ .verified → t.sum incomePart = s.incomes.sum incomePart) := by
  cases h with
  | recorded row t hmut hset hst hins =>
      refine ⟨fun he => (nomatch he), fun _ => ?_⟩
      have hrow : incomePart row = 0 := incomePart_of_ne (by rw [hst]; decide)
      rw [Table.sum_insert hins, hrow, add_zero]
  | verified income row t hmut hfind hfrom hid hst hamt hrep =>
      refine ⟨fun _ => ?_, fun hne => absurd rfl hne⟩
      have hmem : income ∈ s.incomes := Table.mem_of_find hfind
      have hpos : 0 < income.amount := s.incomes.checked income hmem
      have hold : incomePart income = 0 := incomePart_of_ne (by rw [hfrom]; decide)
      have hnew : incomePart row = income.amount := by
        unfold incomePart
        rw [hst, hamt]
      rw [Table.sum_replace hrep hmem hid, hold, hnew]
      omega
  | rejected income row t hfind hfrom hid hst hamt hrep =>
      refine ⟨fun he => (nomatch he), fun _ => ?_⟩
      have hold : incomePart income = 0 := incomePart_of_ne (by rw [hfrom]; decide)
      have hnew : incomePart row = 0 := incomePart_of_ne (by rw [hst]; decide)
      rw [Table.sum_replace hrep (Table.mem_of_find hfind) hid, hold, hnew, sub_zero, add_zero]

theorem disbursedPart_of_ne {a : Stored CashAdvance} (h : a.1.status ≠ .disbursed) :
    disbursedPart (some a) = 0 := if_neg h

/-- **The advance**: the disbursed amount grows by the disbursement and is kept otherwise. -/
theorem disbursed_advanceStep {m : AdvanceMove} {row : Stored CashAdvance}
    (h : AdvanceStep s m row) :
    (m = .disbursed → disbursedPart s.advance < disbursedPart (some row)) ∧
      (m ≠ .disbursed → disbursedPart (some row) = disbursedPart s.advance) := by
  cases h with
  | requested row hmut hnone hset hst hamt =>
      refine ⟨fun he => (nomatch he), fun _ => ?_⟩
      rw [hnone, disbursedPart_of_ne (by rw [hst]; decide)]
      rfl
  | approved advance row hmut hadv hfrom hst hamt =>
      refine ⟨fun he => (nomatch he), fun _ => ?_⟩
      rw [hadv, disbursedPart_of_ne (by rw [hst]; decide),
        disbursedPart_of_ne (by rw [hfrom]; decide)]
  | rejected advance row hadv hfrom hst hamt =>
      refine ⟨fun he => (nomatch he), fun _ => ?_⟩
      rw [hadv, disbursedPart_of_ne (by rw [hst]; decide),
        disbursedPart_of_ne (by rw [hfrom]; decide)]
  | disbursed advance row hadv hfrom hst hpos hamt =>
      refine ⟨fun _ => ?_, fun hne => absurd rfl hne⟩
      rw [hadv, disbursedPart_of_ne (by rw [hfrom]; decide)]
      show 0 < if row.1.status = .disbursed then row.1.amountDisbursed else 0
      rw [if_pos hst]
      exact hpos

/-- **No call lowers a figure**, and what is not an addition keeps them all. -/
theorem figures_effect {cfg : Config} {m : Move} {s' : State} (heff : Effect cfg s m s') :
    s.figures.Le s'.figures ∧ (¬ m.Adds → s'.figures = s.figures) ∧
      (m.Adds → s.figures.total < s'.figures.total) := by
  have kept : ∀ t : State, ¬ m.Adds → t.figures = s.figures → s.figures.Le t.figures ∧
      (¬ m.Adds → t.figures = s.figures) ∧ (m.Adds → s.figures.total < t.figures.total) := by
    intro t hm ht
    rw [ht]
    exact ⟨.refl _, fun _ => rfl, fun ha => absurd ha hm⟩
  cases heff with
  | read => exact kept s id rfl
  | advance m row entries hstep =>
      obtain ⟨hgrow, hkeep⟩ := disbursed_advanceStep hstep
      by_cases hm : m = .disbursed
      · have hlt := hgrow hm
        have hadds : (Move.advance m).Adds := by
          rw [hm]
          trivial
        refine ⟨⟨le_refl _, le_refl _, hlt.le⟩, fun hn => absurd hadds hn, fun _ => ?_⟩
        show s.expenses.sum verifiedPart + s.incomes.sum incomePart + disbursedPart s.advance <
          s.expenses.sum verifiedPart + s.incomes.sum incomePart + disbursedPart (some row)
        omega
      · refine kept _ ?_ ?_
        · intro ha
          cases m with
          | disbursed => exact hm rfl
          | _ => exact ha
        · show Figures.mk _ _ (disbursedPart (some row)) = _
          rw [hkeep hm]
          rfl
  | income m t entries hstep =>
      obtain ⟨hgrow, hkeep⟩ := income_incomeStep hstep
      by_cases hm : m = .verified
      · have hlt := hgrow hm
        have hadds : (Move.income m).Adds := by
          rw [hm]
          trivial
        refine ⟨⟨le_refl _, hlt.le, le_refl _⟩, fun hn => absurd hadds hn, fun _ => ?_⟩
        show s.expenses.sum verifiedPart + s.incomes.sum incomePart + disbursedPart s.advance <
          s.expenses.sum verifiedPart + t.sum incomePart + disbursedPart s.advance
        omega
      · refine kept _ ?_ ?_
        · intro ha
          cases m with
          | verified => exact hm rfl
          | _ => exact ha
        · show Figures.mk _ (t.sum incomePart) _ = _
          rw [hkeep hm]
          rfl
  | expense m t entries hstep =>
      obtain ⟨hgrow, hkeep⟩ := verified_expenseStep hstep
      by_cases hm : m = .verified
      · have hlt := hgrow hm
        have hadds : (Move.expense m).Adds := by
          rw [hm]
          trivial
        refine ⟨⟨hlt.le, le_refl _, le_refl _⟩, fun hn => absurd hadds hn, fun _ => ?_⟩
        show s.expenses.sum verifiedPart + s.incomes.sum incomePart + disbursedPart s.advance <
          t.sum verifiedPart + s.incomes.sum incomePart + disbursedPart s.advance
        omega
      · refine kept _ ?_ ?_
        · intro ha
          cases m with
          | verified => exact hm rfl
          | _ => exact ha
        · show Figures.mk (t.sum verifiedPart) _ _ = _
          rw [hkeep hm]
          rfl
  | settlement m s' hstep => cases hstep <;> exact kept _ id rfl
  | execution status report entries hstep => exact kept _ id rfl
  | cancellation s' hstep =>
      cases hstep with
      | proposal entries hfrom => exact kept _ id rfl
      | event event advance entries hfrom hid hreq hver hst hpend hadv =>
          refine kept _ id ?_
          show Figures.mk _ _ (disbursedPart advance) = _
          rw [hadv]
          rfl
  | closeout m s' hstep => cases hstep <;> exact kept _ id rfl

end Effects

/-! ## 3. The stored row -/

/-- **No call changes the sanctioned snapshot of an event.** -/
theorem sanction_effect {cfg : Config} {s s' : State} {m : Move} (heff : Effect cfg s m s') :
    resolveSanctionedSnapshot s' = resolveSanctionedSnapshot s := by
  cases heff with
  | read => rfl
  | advance m row entries hstep => exact resolveSanctionedSnapshot_congr rfl rfl rfl rfl
  | income m t entries hstep => exact resolveSanctionedSnapshot_congr rfl rfl rfl rfl
  | expense m t entries hstep => exact resolveSanctionedSnapshot_congr rfl rfl rfl rfl
  | settlement m s' hstep =>
      cases hstep <;> exact resolveSanctionedSnapshot_congr rfl rfl rfl rfl
  | execution status report entries hstep =>
      exact resolveSanctionedSnapshot_congr rfl rfl rfl rfl
  | cancellation s' hstep =>
      cases hstep with
      | proposal entries hfrom =>
          exact resolveSanctionedSnapshot_congr rfl rfl (EventService.withdrawn_versions _)
            (EventService.withdrawn_budget _)
      | event event advance entries hfrom hid hreq hver hst hpend hadv =>
          exact resolveSanctionedSnapshot_congr hid hver (EventService.releaseHall_versions _)
            (EventService.releaseHall_budget _)
  | closeout m s' hstep =>
      cases hstep <;> exact resolveSanctionedSnapshot_congr rfl rfl rfl rfl

/-- **What a settlement stores**: the sanctioned snapshot, figures the ledger has not fallen below,
    and the payout of these figures. -/
structure Booked (s : State) (r : FinancialSettlement) : Prop where
  sanctioned : ∃ sanction, resolveSanctionedSnapshot s = .ok sanction ∧
    r.approvedVersionId = sanction.approvedVersionId ∧ r.sanctionedGrant = sanction.grant ∧
    r.sanctionedExpenditure = sanction.expenditure
  payout : r.institutionalPayout =
    min r.sanctionedGrant (max 0 (r.totalVerifiedExpenditure - r.totalVerifiedIncome))
  behind : r.figures.Le s.figures

/-- The figures of the row stay, and the ledger grows. -/
theorem Booked.mono {s s' : State} {r row : FinancialSettlement} (h : Booked s r)
    (hfig : row.SameFigures r)
    (hsan : resolveSanctionedSnapshot s' = resolveSanctionedSnapshot s)
    (hle : s.figures.Le s'.figures) : Booked s' row where
  sanctioned := by
    rw [hsan, hfig.approvedVersionId, hfig.sanctionedGrant, hfig.sanctionedExpenditure]
    exact h.sanctioned
  payout := by
    rw [hfig.institutionalPayout, hfig.sanctionedGrant, hfig.totalVerifiedExpenditure,
      hfig.totalVerifiedIncome]
    exact h.payout
  behind := by
    rw [hfig.figures]
    exact h.behind.trans hle

theorem FinancialSettlement.SameFigures.refl (r : FinancialSettlement) : r.SameFigures r := by
  constructor <;> rfl

/-- A preparation books the live figures. -/
theorem figures_prepared (s : State) (newId : Uuid) (sanction : Sanction) (preparedBy : Uuid) :
    (preparedRow s.settlement newId sanction (liveTotals s sanction.grant) preparedBy).figures =
      s.figures := by
  unfold preparedRow
  cases s.settlement with
  | none => rfl
  | some r => rfl

theorem Booked.of_prepared {s : State} {sanction : Sanction}
    (hsan : resolveSanctionedSnapshot s = .ok sanction) (newId preparedBy : Uuid) :
    Booked s (preparedRow s.settlement newId sanction (liveTotals s sanction.grant) preparedBy) := by
  have hbehind : (preparedRow s.settlement newId sanction (liveTotals s sanction.grant)
      preparedBy).figures.Le s.figures := by
    rw [figures_prepared]
    exact .refl _
  cases hs : s.settlement with
  | none =>
      rw [hs] at hbehind
      exact ⟨⟨sanction, hsan, rfl, rfl, rfl⟩, rfl, hbehind⟩
  | some r =>
      rw [hs] at hbehind
      exact ⟨⟨sanction, hsan, rfl, rfl, rfl⟩, rfl, hbehind⟩

/-- **The row after an effect**: a preparation, the row before with another status, or that row. -/
inductive RowEffect (cfg : Config) (s : State) : Move → FinancialSettlement → Prop where
  | prepared (newId preparedBy : Uuid) (sanction : Sanction) (row : FinancialSettlement)
      (hprev : ∀ r ∈ s.settlement, r.1.status = .reopened)
      (hsan : resolveSanctionedSnapshot s = .ok sanction) (hres : LedgerResolved s)
      (hrow : row =
        preparedRow s.settlement newId sanction (liveTotals s sanction.grant) preparedBy) :
      RowEffect cfg s (.settlement .prepared) row
  | submitted (r : Stored FinancialSettlement) (row : FinancialSettlement)
      (hr : s.settlement = some r) (hfig : row.SameFigures r.1)
      (hfrom : r.1.status = .draft ∨ r.1.status = .queried ∨ r.1.status = .reopened)
      (hst : row.status = .underAudit) (hcons : ∃ p sanction, Consistent cfg s r.1 p sanction) :
      RowEffect cfg s (.settlement .submitted) row
  | queried (r : Stored FinancialSettlement) (row : FinancialSettlement)
      (hr : s.settlement = some r) (hfig : row.SameFigures r.1) (hfrom : r.1.status = .underAudit)
      (hst : row.status = .queried) (hcons : ∃ p sanction, Consistent cfg s r.1 p sanction) :
      RowEffect cfg s (.settlement .audited) row
  | approved (r : Stored FinancialSettlement) (row : FinancialSettlement)
      (hr : s.settlement = some r) (hfig : row.SameFigures r.1) (hfrom : r.1.status = .underAudit)
      (hst : row.status = approvedStatus r.1.settlementType)
      (hcons : ∃ p sanction, Consistent cfg s r.1 p sanction) :
      RowEffect cfg s (.settlement .audited) row
  | paid (r : Stored FinancialSettlement) (row : FinancialSettlement)
      (hr : s.settlement = some r) (hfig : row.SameFigures r.1)
      (hfrom : r.1.status = .pendingReimbursement ∨ r.1.status = .pendingRefund)
      (hst : row.status = r.1.status ∨ row.status = .settled) :
      RowEffect cfg s (.settlement .paid) row
  | reopened (m : Move) (r : Stored FinancialSettlement) (row : FinancialSettlement)
      (hm : m = .settlement .reopened ∨ m = .closeout .reopened)
      (hr : s.settlement = some r) (hfig : row.SameFigures r.1) (hfrom : r.1.status = .settled)
      (hst : row.status = .reopened) : RowEffect cfg s m row
  | kept (m : Move) (r : Stored FinancialSettlement) (row : FinancialSettlement)
      (hm : m ≠ .settlement .audited) (hr : s.settlement = some r) (hrow : row = r.1) :
      RowEffect cfg s m row

theorem clearedRow_status (r : FinancialSettlement) (d : Int) :
    (clearedRow r d).status = r.status ∨ (clearedRow r d).status = .settled := by
  unfold clearedRow
  by_cases h : d ≤ 0
  · rw [if_pos h]
    exact .inr rfl
  · rw [if_neg h]
    exact .inl rfl

theorem row_effect {cfg : Config} {s s' : State} {m : Move} (heff : Effect cfg s m s')
    {row : Stored FinancialSettlement} (hrow : s'.settlement = some row) :
    RowEffect cfg s m row.1 := by
  cases heff with
  | read => exact .kept _ row row.1 (by decide) hrow rfl
  | advance m adv entries hstep => exact .kept _ row row.1 (fun h => nomatch h) hrow rfl
  | income m t entries hstep => exact .kept _ row row.1 (fun h => nomatch h) hrow rfl
  | expense m t entries hstep => exact .kept _ row row.1 (fun h => nomatch h) hrow rfl
  | settlement m s' hstep =>
      cases hstep with
      | prepared preparedBy newId sanction row' entries hcomp hcert hprev hsan hres hpre =>
          cases hrow
          exact .prepared newId preparedBy sanction row.1 hprev hsan hres hpre
      | submitted r row' prepared sanction entries hr hmut hfrom hcons hfig hst =>
          cases hrow
          exact .submitted r row.1 hr hfig hfrom hst ⟨prepared, sanction, hcons⟩
      | queried r row' prepared sanction entries hr hmut hfrom hcons hfig hst =>
          cases hrow
          exact .queried r row.1 hr hfig hfrom hst ⟨prepared, sanction, hcons⟩
      | approved r row' prepared sanction entries hr hmut hfrom hcons hfig hst =>
          cases hrow
          exact .approved r row.1 hr hfig hfrom hst ⟨prepared, sanction, hcons⟩
      | paid r row' p entries hr hmut hfrom hid hdir hle hclr =>
          cases hrow
          refine .paid r row.1 hr ?_ hfrom ?_
          · rw [hclr]
            exact clearedRow_sameFigures r.1 _
          · rw [hclr]
            exact clearedRow_status r.1 _
      | reopened r row' newId reason actor entries hr hmut hfrom hfig hst =>
          cases hrow
          exact .reopened _ r row.1 (.inl rfl) hr hfig hfrom hst
  | execution status report entries hstep => exact .kept _ row row.1 (by decide) hrow rfl
  | cancellation s' hstep => cases hstep <;> exact .kept _ row row.1 (by decide) hrow rfl
  | closeout m s' hstep =>
      cases hstep with
      | reopened r row' revision newId reason actor entries hfrom hnum hr hset hfig hst =>
          cases hrow
          exact .reopened _ r row.1 (.inr rfl) hr hfig hset hst
      | requestedAgain hfrom => exact .kept _ row row.1 (by decide) hrow rfl
      | archivedAgain hfrom => exact .kept _ row row.1 (by decide) hrow rfl
      | requested entries hfrom hready => exact .kept _ row row.1 (by decide) hrow rfl
      | certified r report closure entries hfrom hready hr hrep hset hrid =>
          exact .kept _ row row.1 (by decide) hrow rfl
      | rejected entries hfrom => exact .kept _ row row.1 (by decide) hrow rfl
      | petitioned entries hfrom => exact .kept _ row row.1 (by decide) hrow rfl
      | archived entries hfrom => exact .kept _ row row.1 (by decide) hrow rfl

theorem booked_effect {cfg : Config} {s s' : State} {m : Move}
    (h : ∀ r ∈ s.settlement, Booked s r.1) (heff : Effect cfg s m s') :
    ∀ r ∈ s'.settlement, Booked s' r.1 := by
  intro row hrow
  have hsan : resolveSanctionedSnapshot s' = resolveSanctionedSnapshot s := sanction_effect heff
  have hle : s.figures.Le s'.figures := (figures_effect heff).1
  cases row_effect heff hrow with
  | prepared newId preparedBy sanction _ hprev hres hled hpre =>
      refine Booked.mono (Booked.of_prepared hres newId preparedBy) ?_ hsan hle
      rw [hpre]
      exact .refl _
  | submitted r _ hr hfig hfrom hst hcons => exact (h r hr).mono hfig hsan hle
  | queried r _ hr hfig hfrom hst hcons => exact (h r hr).mono hfig hsan hle
  | approved r _ hr hfig hfrom hst hcons => exact (h r hr).mono hfig hsan hle
  | paid r _ hr hfig hfrom hst => exact (h r hr).mono hfig hsan hle
  | reopened _ r _ hm hr hfig hfrom hst => exact (h r hr).mono hfig hsan hle
  | kept _ r _ hm hr hkept =>
      rw [hkept]
      exact (h r hr).mono (.refl _) hsan hle

theorem Booked.congr {s t : State} {r : FinancialSettlement} (h : Booked s r)
    (hev : t.event = s.event) (hprop : t.proposal = s.proposal) (hfig : t.figures = s.figures) :
    Booked t r where
  sanctioned := by
    have hsan : resolveSanctionedSnapshot t = resolveSanctionedSnapshot s :=
      resolveSanctionedSnapshot_congr (by rw [hev]) (by rw [hev]) (by rw [hprop]) (by rw [hprop])
    rw [hsan]
    exact h.sanctioned
  payout := h.payout
  behind := by
    rw [hfig]
    exact h.behind

/-- **The invariant holds in every reachable state.** -/
theorem Reachable.booked {cfg : Config} {s : State} (h : Reachable cfg s) :
    ∀ r ∈ s.settlement, Booked s r.1 := by
  refine h.invariant (P := fun s => ∀ r ∈ s.settlement, Booked s r.1) ?_ ?_ ?_
  · intro s a hs r hr
    exact (hs r hr).congr rfl rfl rfl
  · intro s ho r hr
    rw [ho.settlement] at hr
    cases hr
  · intro s m s' hs heff
    exact booked_effect hs heff

/-! ## 4. Additions since the audit -/

/-- Approved by an audit: to be paid, or paid. -/
def FinancialSettlement.Approved (r : FinancialSettlement) : Prop :=
  r.status = .pendingReimbursement ∨ r.status = .pendingRefund ∨ r.status = .settled

/-- **The ledger was added to since the latest audit decision** of these calls. -/
def AddedSinceAudit : List Call → Prop :=
  Runs.Since (fun c => c.op.move.Adds) (fun c => c.op.move = .settlement .audited)

instance (calls : List Call) : Decidable (AddedSinceAudit calls) :=
  inferInstanceAs (Decidable (Runs.Since _ _ calls))

/-- An approved settlement stores the live figures when nothing was added since its audit, and
    less than these otherwise. -/
structure Dated (s : State) (added : Prop) : Prop where
  current : ∀ r ∈ s.settlement, r.1.Approved → ¬ added → r.1.figures = s.figures
  outdated : ∀ r ∈ s.settlement, r.1.Approved → added → r.1.figures.total < s.figures.total

theorem Figures.Le.total_le {f g : Figures} (h : f.Le g) : f.total ≤ g.total := by
  obtain ⟨hv, hi, hd⟩ := h
  unfold Figures.total
  omega

theorem dated_effect {cfg : Config} {s s' : State} {m : Move} {added : Prop}
    (hb : ∀ r ∈ s.settlement, Booked s r.1) (h : Dated s added) (heff : Effect cfg s m s') :
    Dated s' (m.Adds ∨ (m ≠ .settlement .audited ∧ added)) := by
  obtain ⟨_, hkeep, hgrow⟩ := figures_effect heff
  have main : ∀ row ∈ s'.settlement, row.1.Approved →
      (¬ (m.Adds ∨ (m ≠ .settlement .audited ∧ added)) → row.1.figures = s'.figures) ∧
        (m.Adds ∨ (m ≠ .settlement .audited ∧ added) →
          row.1.figures.total < s'.figures.total) := by
    intro row hrow happ
    -- a row with the figures of one that was approved already, over a call that is no audit
    have old : ∀ r, s.settlement = some r → r.1.Approved → row.1.SameFigures r.1 →
        m ≠ .settlement .audited →
        (¬ (m.Adds ∨ (m ≠ .settlement .audited ∧ added)) → row.1.figures = s'.figures) ∧
          (m.Adds ∨ (m ≠ .settlement .audited ∧ added) →
            row.1.figures.total < s'.figures.total) := by
      intro r hr hap hfig hm
      rw [hfig.figures]
      have htot : r.1.figures.total ≤ s.figures.total := (hb r hr).behind.total_le
      by_cases ha : m.Adds
      · have hlt : s.figures.total < s'.figures.total := hgrow ha
        exact ⟨fun hn => absurd (.inl ha) hn, fun _ => by omega⟩
      · rw [hkeep ha]
        refine ⟨fun hn => h.current r hr hap fun hadd => hn (.inr ⟨hm, hadd⟩), ?_⟩
        intro hor
        rcases hor with hadds | ⟨_, hadd⟩
        · exact absurd hadds ha
        · exact h.outdated r hr hap hadd
    -- the status after the call says which rules can have led to an approved row
    unfold FinancialSettlement.Approved at happ
    cases row_effect heff hrow with
    | prepared newId preparedBy sanction _ hprev hsan hres hpre =>
        rw [hpre, preparedRow_status] at happ
        rcases happ with hs | hs | hs <;> cases hs
    | submitted r _ hr hfig hfrom hst hcons =>
        rw [hst] at happ
        rcases happ with hs | hs | hs <;> cases hs
    | queried r _ hr hfig hfrom hst hcons =>
        rw [hst] at happ
        rcases happ with hs | hs | hs <;> cases hs
    | approved r _ hr hfig hfrom hst hcons =>
        obtain ⟨prepared, sanction, hc⟩ := hcons
        have hfigs : r.1.figures = s.figures := by
          unfold FinancialSettlement.figures State.figures
          rw [hc.verified, hc.income, hc.advance]
        have hsame : s'.figures = s.figures := hkeep id
        refine ⟨fun _ => ?_, ?_⟩
        · rw [hsame, hfig.figures, hfigs]
        · intro hor
          rcases hor with hadds | ⟨hne, _⟩
          · exact absurd hadds id
          · exact absurd rfl hne
    | paid r _ hr hfig hfrom hst =>
        refine old r hr ?_ hfig (by decide)
        rcases hfrom with hp | hp
        · exact .inl hp
        · exact .inr (.inl hp)
    | reopened _ r _ hm hr hfig hfrom hst =>
        rw [hst] at happ
        rcases happ with hs | hs | hs <;> cases hs
    | kept _ r _ hm hr hkept =>
        rw [hkept] at happ
        refine old r hr happ ?_ hm
        rw [hkept]
        exact .refl _
  exact ⟨fun row hrow happ => (main row hrow happ).1, fun row hrow happ => (main row hrow happ).2⟩

/-- **Over a run**: whether the ledger was added to is read off the calls. -/
theorem dated_path {cfg : Config} {s0 s : State} {calls : List Call} (h0 : Opening s0)
    (hrun : Runs.Path (Step cfg) s0 calls s) : Dated s (AddedSinceAudit calls) := by
  have main : Reachable cfg s ∧ Dated s (AddedSinceAudit calls) := by
    refine hrun.history (P := fun s calls => Reachable cfg s ∧ Dated s (AddedSinceAudit calls)) ?_ ?_
    · rintro s calls c s' ⟨hreach, hd⟩ hstep
      have hb : ∀ r ∈ (c.enter s).settlement, Booked (c.enter s) r.1 := by
        refine SessionFree.enter (P := fun s => ∀ r ∈ s.settlement, Booked s r.1) ?_ c hreach.booked
        intro s a hs r hr
        exact (hs r hr).congr rfl rfl rfl
      have hde : Dated (c.enter s) (AddedSinceAudit calls) :=
        SessionFree.enter (P := fun s => Dated s (AddedSinceAudit calls))
          (fun _ _ hd => ⟨hd.current, hd.outdated⟩) c hd
      refine ⟨.next hreach hstep, ?_⟩
      unfold AddedSinceAudit
      rw [Runs.since_append]
      exact dated_effect hb hde hstep.effect
    · refine ⟨.start h0, ?_, ?_⟩
      · intro r hr
        rw [h0.settlement] at hr
        cases hr
      · intro r hr
        rw [h0.settlement] at hr
        cases hr
  exact main.2

/-! ## 5. The books of a closed event -/

/-- **The books match the ledger**: the settlement stores what would be computed from the live
    rows and the sanctioned snapshot now. -/
def BooksMatch (s : State) : Prop :=
  ∃ r sanction, s.settlement = some r ∧ resolveSanctionedSnapshot s = .ok sanction ∧
    r.1.totalVerifiedExpenditure = (liveTotals s sanction.grant).totalVerifiedExpenditure ∧
    r.1.totalVerifiedIncome = (liveTotals s sanction.grant).totalVerifiedIncome ∧
    r.1.cashAdvanceDisbursed = (liveTotals s sanction.grant).cashAdvanceDisbursed ∧
    r.1.institutionalPayout = (liveTotals s sanction.grant).institutionalPayout

/-- Books match when the figures do; the payout follows. -/
theorem booksMatch_iff {s : State} {r : Stored FinancialSettlement} (hr : s.settlement = some r)
    (hb : Booked s r.1) : BooksMatch s ↔ r.1.figures = s.figures := by
  constructor
  · intro h
    obtain ⟨r', sanction, hr', _, hv, hi, ha, _⟩ := h
    rw [hr] at hr'
    cases hr'
    unfold FinancialSettlement.figures State.figures
    rw [hv, hi, ha]
    rfl
  · intro hfig
    obtain ⟨sanction, hsan, _, hgrant, _⟩ := hb.sanctioned
    unfold FinancialSettlement.figures State.figures at hfig
    rw [Figures.mk.injEq] at hfig
    obtain ⟨hv, hi, ha⟩ := hfig
    refine ⟨r, sanction, hr, hsan, hv, hi, ha, ?_⟩
    rw [hb.payout, hgrant, hv, hi]
    rfl

/-- **The books of a closed event** match its ledger exactly when nothing was verified or disbursed
    after the latest audit decision before the certification. -/
theorem closed_books_match_iff {cfg : Config} {s0 s s' : State} {calls : List Call} {c : Call}
    {newId : Uuid} {closureNotes : Option Text} {venueCleared : Bool} (h0 : Opening s0)
    (hrun : Runs.Path (Step cfg) s0 calls s)
    (hop : c.op = .certifyCloseout newId closureNotes venueCleared) (hstep : Step cfg s c s') :
    BooksMatch s' ↔ ¬ AddedSinceAudit calls := by
  have hreach : Reachable cfg s := Runs.Reach.path (.start h0) hrun
  have hreach' : Reachable cfg s' := .next hreach hstep
  have hdated : Dated s' (AddedSinceAudit calls) := by
    have h := dated_path h0 (hrun.append (.single hstep))
    unfold AddedSinceAudit at h
    -- certifying is neither an audit nor an addition
    rw [Runs.since_append, hop] at h
    refine ⟨fun r hr happ hno => h.current r hr happ ?_, fun r hr happ hadd => h.outdated r hr happ ?_⟩
    · intro hor
      rcases hor with hadds | ⟨_, hadd⟩
      · exact hadds
      · exact hno hadd
    · exact .inr ⟨fun he => (nomatch he), hadd⟩
  have hsealed : s'.event.Sealed := by
    have heff : Effect cfg (c.enter s) (.closeout .certified) s' := by
      have h := hstep.effect
      rw [hop] at h
      exact h
    cases heff with
    | closeout m s' hclose =>
        cases hclose with
        | certified r report closure entries hfrom hready hr hrep hset hrid => exact .inl rfl
  obtain ⟨r, hr, hset, _⟩ := (hreach'.coherent.ready hsealed).settled
  have happ : r.1.Approved := .inr (.inr hset)
  rw [booksMatch_iff hr (hreach'.booked r hr)]
  constructor
  · intro hfig hadd
    have hlt := hdated.outdated r hr happ hadd
    rw [hfig] at hlt
    exact lt_irrefl _ hlt
  · intro hno
    exact hdated.current r hr happ hno

/-- The sample event settled and closed, with nothing added in between. -/
theorem closed_books_match_iff_plain :
    ∃ s s', Reachable (Sample.config .sqlite) s ∧
      Step (Sample.config .sqlite) s Sample.certify s' ∧ BooksMatch s' := by
  have hrun : Runs.Ends (Runs.run (Call.exec (Sample.config .sqlite))
      (Sample.settle ++ Sample.payAndRequest) (Sample.opening none)) (fun s =>
        Runs.Ends (Sample.certify.exec (Sample.config .sqlite) s) fun _ => True) := by
    decide
  obtain ⟨s, hok, s', hstep, _⟩ := hrun
  refine ⟨s, s', reachable_of_run Sample.opening_opening hok, hstep, ?_⟩
  exact (closed_books_match_iff Sample.opening_opening (Runs.path_of_run hok) rfl hstep).mpr
    (by decide)

/-- A claim of 60.00 verified after the audit approved a settlement of 60.00: the event is paid
    and closed on half of its expenditure. -/
theorem closed_books_can_miss_a_claim :
    ∃ s s', Reachable (Sample.config .sqlite) s ∧
      Step (Sample.config .sqlite) s Sample.certify s' ∧ s'.event.status = .closed ∧
      ¬ BooksMatch s' := by
  have hrun : Runs.Ends (Runs.run (Call.exec (Sample.config .sqlite))
      (Sample.settle ++ Sample.claim ++ [Sample.byOfficer (.verifyExpense (Sample.uid 41) none)] ++
        Sample.payAndRequest) (Sample.opening none)) (fun s =>
        Runs.Ends (Sample.certify.exec (Sample.config .sqlite) s) fun s' =>
          s'.event.status = .closed ∧ ∃ r ∈ s'.settlement, r.1.totalVerifiedExpenditure = 6000 ∧
            s'.expenses.sum verifiedPart = 12000) := by
    decide
  obtain ⟨s, hok, s', hstep, hclosed, r, hr, hstored, hlive⟩ := hrun
  refine ⟨s, s', reachable_of_run Sample.opening_opening hok, hstep, hclosed, ?_⟩
  intro h
  obtain ⟨r', sanction, hr', _, hv, _⟩ := h
  have hsame : r = r' := Option.some.inj (hr.symm.trans hr')
  have hlive' : (liveTotals s' sanction.grant).totalVerifiedExpenditure = 12000 := hlive
  rw [← hsame, hstored, hlive'] at hv
  exact absurd hv (by decide)

end CampusConnect
