/-
  File:      CampusConnect/Guarantees/Summary.lean
  Subject:   The LEDGER SUMMARY and the settlement agree.

  * `Adds`: what a part of the loop adds to the overall figures and, the SAME, to those by category;
    `tallyExpense_adds`, `tallyExpenses_adds`: one row, and all rows;
  * `claimedSpend`, `verifiedSpend`: what a row adds; `verifiedSpend_eq`, `disallowedAmount_eq`: on a
    sound and decided row the two folds, written apart, add the same;
  * **`ledger_summary_agrees`**: equal verified and disallowed totals, claimed totals that differ by
    what is disallowed, and a breakdown that adds up, for any rows.
-/
import CampusConnect.Guarantees.Expenses
import CampusConnect.Services.LedgerSummary

namespace CampusConnect

open Guarded Rows ExpenseService SettlementService

/-! ## 1. What the loop adds -/

/-- The loop adds `c`, `v` and `d` to the three figures, overall and by category, `n` to the rows by
    category and `m` to the rows by status. -/
structure Adds (acc acc' : LedgerTally) (c v d : Int) (n m : Nat) : Prop where
  claimed : acc'.totalClaimed = acc.totalClaimed + c
  verified : acc'.totalVerified = acc.totalVerified + v
  disallowed : acc'.totalDisallowed = acc.totalDisallowed + d
  byClaimed : Tally.total CategoryStats.claimed acc'.catStats =
    Tally.total CategoryStats.claimed acc.catStats + c
  byVerified : Tally.total CategoryStats.verified acc'.catStats =
    Tally.total CategoryStats.verified acc.catStats + v
  byDisallowed : Tally.total CategoryStats.disallowed acc'.catStats =
    Tally.total CategoryStats.disallowed acc.catStats + d
  byCount : Tally.total CategoryStats.count acc'.catStats =
    Tally.total CategoryStats.count acc.catStats + n
  byStatus : Tally.total id acc'.statusCounts = Tally.total id acc.statusCounts + m

/-- What a row adds to `total_claimed`. -/
def claimedSpend (e : ActualExpense) : Int := if e.status ≠ .disallowed then e.claimedAmount else 0

/-- What a row adds to `total_verified`. -/
def verifiedSpend (e : ActualExpense) : Int :=
  if e.status = .verified ∨ e.status = .partiallyVerified then e.verifiedAmount.getD 0 else 0

section Loop

variable {acc acc' acc'' : LedgerTally}

theorem Adds.refl (acc : LedgerTally) : Adds acc acc 0 0 0 0 0 := by
  constructor <;> simp

theorem Adds.trans {c v d c' v' d' : Int} {n m n' m' : Nat} (h : Adds acc acc' c v d n m)
    (h' : Adds acc' acc'' c' v' d' n' m') :
    Adds acc acc'' (c + c') (v + v') (d + d') (n + n') (m + m') where
  claimed := by rw [h'.claimed, h.claimed, add_assoc]
  verified := by rw [h'.verified, h.verified, add_assoc]
  disallowed := by rw [h'.disallowed, h.disallowed, add_assoc]
  byClaimed := by rw [h'.byClaimed, h.byClaimed, add_assoc]
  byVerified := by rw [h'.byVerified, h.byVerified, add_assoc]
  byDisallowed := by rw [h'.byDisallowed, h.byDisallowed, add_assoc]
  byCount := by rw [h'.byCount, h.byCount, add_assoc]
  byStatus := by rw [h'.byStatus, h.byStatus, add_assoc]

/-- Overall figures and one category moved by the same amounts. -/
theorem adds_write (acc : LedgerTally) (key : String) {f : CategoryStats → CategoryStats}
    {c v d : Int} {n : Nat} (hc : ∀ t, (f t).claimed = t.claimed + c)
    (hv : ∀ t, (f t).verified = t.verified + v)
    (hd : ∀ t, (f t).disallowed = t.disallowed + d) (hn : ∀ t, (f t).count = t.count + n) :
    Adds acc ({ acc with
      totalClaimed := acc.totalClaimed + c
      totalVerified := acc.totalVerified + v
      totalDisallowed := acc.totalDisallowed + d }.write key f) c v d n 0 where
  claimed := rfl
  verified := rfl
  disallowed := rfl
  byClaimed := Tally.total_modify rfl hc
  byVerified := Tally.total_modify rfl hv
  byDisallowed := Tally.total_modify rfl hd
  byCount := Tally.total_modify rfl hn
  byStatus := rfl

theorem claim_adds (acc : LedgerTally) (e : ActualExpense) :
    Adds acc (acc.claim e) (claimedSpend e) 0 0 0 0 := by
  unfold LedgerTally.claim claimedSpend
  by_cases h : e.status ≠ .disallowed
  · rw [if_pos h, if_pos h]
    have hwrite := adds_write acc e.category.value
      (f := fun c => { c with claimed := c.claimed + e.claimedAmount }) (fun _ => rfl)
      (fun _ => (add_zero _).symm) (fun _ => (add_zero _).symm) (fun _ => (add_zero _).symm)
    simpa only [add_zero] using hwrite
  · rw [if_neg h, if_neg h]
    exact Adds.refl acc

theorem verify_adds (acc : LedgerTally) (e : ActualExpense) :
    Adds acc (acc.verify e) 0 (verifiedSpend e) 0 0 0 := by
  unfold LedgerTally.verify verifiedSpend
  cases hv : e.verifiedAmount with
  | none =>
      have hzero : (if e.status = .verified ∨ e.status = .partiallyVerified
          then (none : Option Int).getD 0 else 0) = 0 := by simp
      rw [hzero]
      exact Adds.refl acc
  | some v =>
      simp only [Option.getD_some]
      by_cases h : e.status = .verified ∨ e.status = .partiallyVerified
      · rw [if_pos h, if_pos h]
        have hwrite := adds_write acc e.category.value
          (f := fun c => { c with verified := c.verified + v }) (fun _ => (add_zero _).symm)
          (fun _ => rfl) (fun _ => (add_zero _).symm) (fun _ => (add_zero _).symm)
        simpa only [add_zero] using hwrite
      · rw [if_neg h, if_neg h]
        exact Adds.refl acc

theorem disallow_adds (acc : LedgerTally) (e : ActualExpense) :
    Adds acc (acc.disallow e) 0 0 e.disallowedAmount 0 0 := by
  unfold LedgerTally.disallow
  by_cases h : e.Decided
  · rw [if_pos h]
    have hwrite := adds_write acc e.category.value
      (f := fun c => { c with disallowed := c.disallowed + e.disallowedAmount })
      (fun _ => (add_zero _).symm) (fun _ => (add_zero _).symm) (fun _ => rfl)
      (fun _ => (add_zero _).symm)
    simpa only [add_zero] using hwrite
  · have hzero : e.disallowedAmount = 0 := if_neg h
    rw [if_neg h, hzero]
    exact Adds.refl acc

theorem count_adds (acc : LedgerTally) (e : ActualExpense) :
    Adds acc (acc.write e.category.value fun c => { c with count := c.count + 1 }) 0 0 0 1 0 := by
  have hwrite := adds_write acc e.category.value
    (f := fun c => { c with count := c.count + 1 }) (fun _ => (add_zero _).symm)
    (fun _ => (add_zero _).symm) (fun _ => (add_zero _).symm) (fun _ => rfl)
  simpa only [add_zero] using hwrite

theorem status_adds (acc : LedgerTally) (e : ActualExpense) :
    Adds acc { acc with statusCounts := Tally.modify e.status.value 0 (· + 1) acc.statusCounts }
      0 0 0 0 1 := by
  refine { Adds.refl acc with byStatus := ?_ }
  exact Tally.total_modify rfl fun _ => rfl

/-- **What one row adds.** -/
theorem tallyExpense_adds (acc : LedgerTally) (e : ActualExpense) :
    Adds acc (tallyExpense acc e) (claimedSpend e) (verifiedSpend e) e.disallowedAmount 1 1 := by
  have hcounted := (status_adds acc e).trans (claim_adds _ e)
  have hverified := (hcounted.trans (verify_adds _ e)).trans (disallow_adds _ e)
  have hall := hverified.trans (count_adds _ e)
  simp only [zero_add, add_zero] at hall
  exact hall

/-- **What all rows add**, by induction along the list. -/
theorem foldl_tallyExpense_adds (rows : List ActualExpense) (acc : LedgerTally) :
    Adds acc (rows.foldl tallyExpense acc) (rows.map claimedSpend).sum (rows.map verifiedSpend).sum
      (rows.map ActualExpense.disallowedAmount).sum rows.length rows.length := by
  induction rows generalizing acc with
  | nil => exact Adds.refl acc
  | cons e rows ih =>
      have hall := (tallyExpense_adds acc e).trans (ih (tallyExpense acc e))
      simpa only [List.foldl_cons, List.map_cons, List.sum_cons, List.length_cons,
        Nat.add_comm 1] using hall

theorem tallyExpenses_adds (rows : List ActualExpense) :
    Adds {} (tallyExpenses rows) (rows.map claimedSpend).sum (rows.map verifiedSpend).sum
      (rows.map ActualExpense.disallowedAmount).sum rows.length rows.length :=
  foldl_tallyExpense_adds rows {}

end Loop

/-! ## 2. The two folds on one row -/

section Rows

variable {e : ActualExpense}

/-- On a sound row the summary and the settlement verify the same. -/
theorem verifiedSpend_eq (h : ExpenseSound e) : verifiedSpend e = verifiedPart e := by
  unfold verifiedSpend verifiedPart
  cases hst : e.status with
  | verified =>
      have hv := h.verified hst
      simp [hv]
  | partiallyVerified =>
      obtain ⟨v, hv, _⟩ := h.partiallyVerified hst
      simp [hv]
  | _ => simp

/-- On a sound row the property of the model class and the settlement disallow the same. -/
theorem disallowedAmount_eq (h : ExpenseSound e) (hcheck : e.Check) :
    e.disallowedAmount = disallowedPart e := by
  unfold ActualExpense.disallowedAmount disallowedPart
  cases hst : e.status with
  | verified =>
      have hdec : e.Decided := .inl hst
      have hv := h.verified hst
      simp [hdec, hv]
  | partiallyVerified =>
      have hdec : e.Decided := .inr (.inl hst)
      obtain ⟨v, hv, _, hlt⟩ := h.partiallyVerified hst
      rw [if_pos hdec, hv]
      simp only [Option.getD_some]
      rw [if_pos hlt]
      omega
  | disallowed =>
      have hdec : e.Decided := .inr (.inr hst)
      have hv := h.disallowed hst
      have hpos : 0 < e.claimedAmount := hcheck.1
      rw [if_pos hdec, hv]
      simp only [Option.getD_some]
      omega
  | _ =>
      have hopen : ¬ e.Decided := by
        unfold ActualExpense.Decided
        simp [hst]
      rw [if_neg hopen]

end Rows

/-! ## 3. The agreement -/

/-- The claimed amounts of the rows Finance has disallowed. -/
def disallowedClaims (rows : List ActualExpense) : Int :=
  ((rows.filter fun e => e.status = .disallowed).map ActualExpense.claimedAmount).sum

/-- All that is claimed is what the summary counts and what is disallowed. -/
theorem sum_claimedAmount (rows : List ActualExpense) :
    (rows.map ActualExpense.claimedAmount).sum =
      (rows.map claimedSpend).sum + disallowedClaims rows := by
  induction rows with
  | nil => rfl
  | cons e rows ih =>
      unfold disallowedClaims at ih ⊢
      rw [List.map_cons, List.sum_cons, List.map_cons, List.sum_cons, ih]
      by_cases h : e.status = .disallowed
      · have hspend : claimedSpend e = 0 := if_neg (not_not.mpr h)
        rw [List.filter_cons_of_pos (by simpa using h), List.map_cons, List.sum_cons, hspend]
        omega
      · have hspend : claimedSpend e = e.claimedAmount := if_pos h
        rw [List.filter_cons_of_neg (by simpa using h), hspend]
        omega

/-- **The breakdown adds up**: by category to each figure and to the number of rows, and by status to
    the number of rows. -/
structure AddsUp (summary : ExpenseLedgerSummary) (rows : List ActualExpense) : Prop where
  claimed : (summary.categoryBreakdown.map fun p => p.2.claimed).sum = summary.totalClaimedSpend
  verified : (summary.categoryBreakdown.map fun p => p.2.verified).sum = summary.totalVerifiedSpend
  disallowed :
    (summary.categoryBreakdown.map fun p => p.2.disallowed).sum = summary.totalDisallowedSpend
  byCategory : (summary.categoryBreakdown.map fun p => p.2.count).sum = rows.length
  byStatus : (summary.statusCounts.map fun p => p.2).sum = rows.length
  counted : summary.totalExpensesCount = rows.length

/-- **The two services agree** on what is verified and what is disallowed, and differ on what is
    claimed by what is disallowed. -/
structure LedgersAgree (summary : ExpenseLedgerSummary) (totals : SettlementTotals)
    (rows : List ActualExpense) : Prop where
  verified : summary.totalVerifiedSpend = totals.totalVerifiedExpenditure
  disallowed : summary.totalDisallowedSpend = totals.totalDisallowedExpenditure
  claimed : totals.totalClaimedExpenditure = summary.totalClaimedSpend + disallowedClaims rows

section Agreement

variable {env : Env} {actor : User} {s : State} {summary : ExpenseLedgerSummary}

/-- Sorting the categories changes no sum. -/
theorem sum_sorted {M : Type} [AddCommMonoid M] (g : CategoryStats → M)
    (d : List (String × CategoryStats)) :
    ((d.insertionSort fun a b => a.1 ≤ b.1).map fun p => g p.2).sum = Tally.total g d :=
  ((List.perm_insertionSort _ d).map _).sum_eq

theorem getLedgerSummary_addsUp (h : getLedgerSummary env actor s = .ok summary) :
    AddsUp summary s.expenses.rows := by
  simp only [getLedgerSummary, bind_accepts, refuse_accepts, exists_unit, pure_accepts] at h
  obtain ⟨_, rfl⟩ := h
  have hadds := tallyExpenses_adds s.expenses.rows
  refine ⟨?_, ?_, ?_, ?_, ?_, rfl⟩
  · rw [sum_sorted, hadds.byClaimed, hadds.claimed]
    rfl
  · rw [sum_sorted, hadds.byVerified, hadds.verified]
    rfl
  · rw [sum_sorted, hadds.byDisallowed, hadds.disallowed]
    rfl
  · rw [sum_sorted, hadds.byCount]
    exact Nat.zero_add _
  · have hstatus := hadds.byStatus
    exact hstatus.trans (Nat.zero_add _)

/-- On sound rows the summary and the settlement agree. -/
theorem getLedgerSummary_agrees (hsound : ∀ e ∈ s.expenses, ExpenseSound e)
    (h : getLedgerSummary env actor s = .ok summary) (grant : Int) :
    LedgersAgree summary (liveTotals s grant) s.expenses.rows := by
  simp only [getLedgerSummary, bind_accepts, refuse_accepts, exists_unit, pure_accepts] at h
  obtain ⟨_, rfl⟩ := h
  have hadds := tallyExpenses_adds s.expenses.rows
  have hverified : s.expenses.rows.map verifiedSpend = s.expenses.rows.map verifiedPart :=
    List.map_congr_left fun e he => verifiedSpend_eq (hsound e he)
  have hdisallowed : s.expenses.rows.map ActualExpense.disallowedAmount =
      s.expenses.rows.map disallowedPart :=
    List.map_congr_left fun e he => disallowedAmount_eq (hsound e he) (s.expenses.checked e he)
  refine ⟨?_, ?_, ?_⟩
  · rw [hadds.verified, hverified]
    exact Int.zero_add _
  · rw [hadds.disallowed, hdisallowed]
    exact Int.zero_add _
  · rw [hadds.claimed]
    have htotal := sum_claimedAmount s.expenses.rows
    have hzero : (0 : Int) + (s.expenses.rows.map claimedSpend).sum =
        (s.expenses.rows.map claimedSpend).sum := Int.zero_add _
    exact htotal.trans (congrArg (· + disallowedClaims s.expenses.rows) hzero.symm)

end Agreement

/-- **The ledger summary and the settlement agree** on every list of expenses a reachable event can
    have, once the settlement computes its totals, that is once no claim is left to decide; and for
    every list the breakdown of the summary adds up. -/
theorem ledger_summary_agrees (cfg : Config) (env : Env) (actor : User) :
    (∀ s t : State, Dossier.Reachable cfg (.confirmed s) → t.expenses = s.expenses →
      ∀ summary, getLedgerSummary env actor t = .ok summary →
        ∀ grant totals, computeSettlementTotals t grant = .ok totals →
          LedgersAgree summary totals t.expenses.rows) ∧
    ∀ (t : State) (summary : ExpenseLedgerSummary), getLedgerSummary env actor t = .ok summary →
      AddsUp summary t.expenses.rows := by
  refine ⟨fun s t hs ht summary hsummary grant totals htotals => ?_,
    fun t summary hsummary => getLedgerSummary_addsUp hsummary⟩
  obtain ⟨_, rfl⟩ := computeSettlementTotals_accepts.mp htotals
  refine getLedgerSummary_agrees (fun e he => ?_) hsummary grant
  rw [ht] at he
  exact hs.expenses_sound e he

/-- The sample event's expense of 60.00, verified for 45.00, in both services. -/
theorem ledger_summary_agrees_sample :
    ∃ s summary totals, Dossier.Reachable (Sample.config .sqlite) (.confirmed s) ∧
      getLedgerSummary Sample.env Sample.officer s = .ok summary ∧
      computeSettlementTotals s 10000 = .ok totals ∧
      summary.totalVerifiedSpend = totals.totalVerifiedExpenditure := by
  have hrun : Runs.Ends (Sample.after (Sample.plan ++
      [Sample.submit Sample.staff Sample.secretary 1] ++ Sample.approveAll 1 ++
      [.event Sample.complete, .event (Sample.byAdvisor (.certifyReport none)),
        .event (Sample.bySecretary (.createDraftExpense (Sample.uid 41) Sample.expenseIn)),
        .event (Sample.bySecretary (.submitExpenses none)),
        .event (Sample.byOfficer
          (.partialVerifyExpense (Sample.uid 41) 4500 "partly".toList))])) fun d =>
      d.state.any (fun s => (computeSettlementTotals s 10000).isOk) = true := by
    decide
  obtain ⟨d, hok, hst⟩ := hrun
  obtain ⟨d0, h0, hpath⟩ := Sample.path_of_after hok
  cases d with
  | proposed p logs => cases hst
  | confirmed s =>
      have hreach : Dossier.Reachable (Sample.config .sqlite) (.confirmed s) :=
        Runs.Reach.path (.start h0) hpath
      cases htotals : computeSettlementTotals s 10000 with
      | error e =>
          rw [Dossier.state, Option.any_some, htotals] at hst
          cases hst
      | ok totals =>
          cases hsummary : getLedgerSummary Sample.env Sample.officer s with
          | error e =>
              have hrole : Sample.officer.role ≠ .clubSecretary := by decide
              simp [getLedgerSummary, refuse, hrole, bind, Except.bind] at hsummary
              cases hsummary
          | ok summary =>
              have hagree := (ledger_summary_agrees (Sample.config .sqlite) Sample.env
                Sample.officer).1 s s hreach rfl summary hsummary 10000 totals htotals
              exact ⟨s, summary, totals, hreach, hsummary, htotals, hagree.verified⟩

end CampusConnect
