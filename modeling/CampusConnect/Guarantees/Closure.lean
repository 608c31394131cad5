/-
  File:      CampusConnect/Guarantees/Closure.lean
  Subject:   CLOSURE COHERENCE and the SEALED LEDGER: what a CLOSED or ARCHIVED event guarantees.

  * `SameBooks`: two states agree on every row of the books;
  * `sealed_effect`: on a sealed event whose books are ready nothing but a reopening touches the
    books, guard or no guard on the event's status: the statuses those operations start from are
    not there any more;
  * `Sound`, `Coherent`: the two invariants, of the keys and revision numbers and of the seal;
  * `sealed_coherent`, `sealed_ledger`: the results.
-/
import CampusConnect.Guarantees.Clearing

namespace CampusConnect

open Rows SettlementService

/-! ## 1. The books -/

/-- `t` has the rows of `s`: advance, income, expenses, settlement with its payments and revisions,
    and the report. -/
structure SameBooks (s t : State) : Prop where
  advance : t.advance = s.advance
  incomes : t.incomes = s.incomes
  expenses : t.expenses = s.expenses
  settlement : t.settlement = s.settlement
  payments : t.payments = s.payments
  settlementRevisions : t.settlementRevisions = s.settlementRevisions
  report : t.report = s.report

theorem SameBooks.refl (s : State) : SameBooks s s := by
  constructor <;> rfl

theorem SameBooks.trans {s t u : State} (h : SameBooks s t) (h' : SameBooks t u) :
    SameBooks s u where
  advance := h'.advance.trans h.advance
  incomes := h'.incomes.trans h.incomes
  expenses := h'.expenses.trans h.expenses
  settlement := h'.settlement.trans h.settlement
  payments := h'.payments.trans h.payments
  settlementRevisions := h'.settlementRevisions.trans h.settlementRevisions
  report := h'.report.trans h.report

/-- A session only decides what is attached in memory. -/
theorem sameBooks_enter (c : Call) (s : State) : SameBooks s (c.enter s) := by
  constructor <;> rfl

theorem ledgerResolved_congr {s t : State} (h : LedgerResolved s) (hb : SameBooks s t) :
    LedgerResolved t := by
  unfold LedgerResolved at h ⊢
  rw [hb.expenses, hb.incomes, hb.advance]
  exact h

theorem ClosureReady.congr {s t : State} (h : ClosureReady s) (hb : SameBooks s t) :
    ClosureReady t where
  certified := by
    unfold ReportCertified
    rw [hb.report]
    exact h.certified
  resolved := ledgerResolved_congr h.resolved hb
  settled := by
    rw [hb.settlement, hb.payments]
    exact h.settled

/-! ## 2. What a sealed event refuses -/

section Sealed

variable {s : State}

/-- An event is sealed in two statuses only. -/
theorem Event.Sealed.ne {e : Event} (h : e.Sealed) {status : EventStatus}
    (hc : status ≠ .closed) (ha : status ≠ .archived) : e.status ≠ status := by
  rcases h with h | h
  · rw [h]
    exact hc.symm
  · rw [h]
    exact ha.symm

/-- No advance waits for a decision, so none can be requested, approved, rejected or disbursed. -/
theorem ClosureReady.no_advanceStep (h : ClosureReady s) (hs : s.event.Sealed) {m : AdvanceMove}
    {row : Stored CashAdvance} : ¬ AdvanceStep s m row := by
  intro hstep
  cases hstep with
  | requested row hmut hnone hset hst hamt => exact hmut hs
  | approved advance row hmut hadv hfrom hst hamt => exact hmut hs
  | rejected advance row hadv hfrom hst hamt => exact h.resolved.2.2 advance hadv (.inl hfrom)
  | disbursed advance row hadv hfrom hst hpos hamt =>
      exact h.resolved.2.2 advance hadv (.inr hfrom)

/-- No income record waits for a decision. -/
theorem ClosureReady.no_incomeStep (h : ClosureReady s) (hs : s.event.Sealed) {m : IncomeMove}
    {t : Table ActualIncome} : ¬ IncomeStep s m t := by
  intro hstep
  cases hstep with
  | recorded row t hmut hset hst hins => exact hmut hs
  | verified income row t hmut hfind hfrom hid hst hamt hrep => exact hmut hs
  | rejected income row t hfind hfrom hid hst hamt hrep =>
      exact h.resolved.2.1 income (Table.mem_of_find hfind) hfrom

theorem no_expenseStep (hs : s.event.Sealed) {m : ExpenseMove} {t : Table ActualExpense} :
    ¬ ExpenseStep s m t := by
  intro hstep
  cases hstep with
  | created row t hcomp hst hins => exact hs.ne (by decide) (by decide) hcomp
  | updated old row t hmut hfind hfrom hid hst hrep => exact hmut hs
  | deleted old hmut hfind hfrom => exact hmut hs
  | submitted now u ids hcomp => exact hs.ne (by decide) (by decide) hcomp
  | decided m old row t hmut hfind hfrom hid hclaim hdec hrep => exact hmut hs

theorem no_settlementStep {cfg : Config} (hs : s.event.Sealed) {m : SettlementMove} {s' : State} :
    ¬ SettlementStep cfg s m s' := by
  intro hstep
  cases hstep with
  | prepared preparedBy newId sanction row entries hcomp hcert hprev hsan hres hrow =>
      exact hs.ne (by decide) (by decide) hcomp
  | submitted r row prepared sanction entries hr hmut hfrom hcons hfig hst => exact hmut hs
  | queried r row prepared sanction entries hr hmut hfrom hcons hfig hst => exact hmut hs
  | approved r row prepared sanction entries hr hmut hfrom hcons hfig hst => exact hmut hs
  | paid r row p entries hr hmut hfrom hid hdir hle hrow => exact hmut hs
  | reopened r row newId reason actor entries hr hmut hfrom hfig hst => exact hmut hs

theorem no_executionStep (hs : s.event.Sealed) {status : EventStatus}
    {report : Option (Stored PostEventReport)} : ¬ ExecutionStep s status report := by
  intro hstep
  cases hstep with
  | started hfrom => exact hs.ne (by decide) (by decide) hfrom
  | completed row hfrom hnone hst =>
      rcases hfrom with h | h
      · exact hs.ne (by decide) (by decide) h
      · exact hs.ne (by decide) (by decide) h
  | revised report row hmut hrep hfrom hid => exact hmut hs

/-- What a step leaves alone when the event stays sealed: the books, the seal and the closure. -/
structure Untouched (s t : State) : Prop where
  books : SameBooks s t
  isSealed : t.event.Sealed
  closure : t.closure = s.closure

/-- **A sealed event whose books are ready**: only a reopening gets at them. -/
theorem sealed_effect {cfg : Config} {m : Move} {s' : State} (h : ClosureReady s)
    (hs : s.event.Sealed) (heff : Effect cfg s m s') (hm : m ≠ .closeout .reopened) :
    Untouched s s' := by
  have same : ∀ entries, SameBooks s (s.log entries) := by
    intro entries
    constructor <;> rfl
  cases heff with
  | read => exact ⟨.refl s, hs, rfl⟩
  | advance m row entries hstep => exact absurd hstep (h.no_advanceStep hs)
  | income m t entries hstep => exact absurd hstep (h.no_incomeStep hs)
  | expense m t entries hstep => exact absurd hstep (no_expenseStep hs)
  | settlement m s' hstep => exact absurd hstep (no_settlementStep hs)
  | execution status report entries hstep => exact absurd hstep (no_executionStep hs)
  | cancellation s' hstep =>
      cases hstep with
      | proposal entries hfrom => exact ⟨by constructor <;> rfl, hs, rfl⟩
      | event event advance entries hfrom hid hreq hver hst hpend hadv =>
          rcases hfrom with hf | hf
          · exact absurd hf (hs.ne (by decide) (by decide))
          · exact absurd hf (hs.ne (by decide) (by decide))
  | closeout m s' hstep =>
      cases hstep with
      | requestedAgain hfrom => exact absurd hfrom (hs.ne (by decide) (by decide))
      | archivedAgain hfrom => exact ⟨.refl s, hs, rfl⟩
      | requested entries hfrom hready => exact absurd hfrom (hs.ne (by decide) (by decide))
      | certified r report closure entries hfrom hready hr hrep hset hrid =>
          exact absurd hfrom (hs.ne (by decide) (by decide))
      | rejected entries hfrom => exact absurd hfrom (hs.ne (by decide) (by decide))
      | petitioned entries hfrom => exact ⟨same entries, hs, rfl⟩
      | reopened r row revision newId reason actor entries hfrom hnum hr hset hfig hst =>
          exact absurd rfl hm
      | archived entries hfrom => exact ⟨by constructor <;> rfl, .inr rfl, rfl⟩

end Sealed

/-! ## 3. Keys and revision numbers -/

/-- The closure names the settlement, and no revision is numbered beyond the count of its kind. -/
structure Sound (s : State) : Prop where
  owned : ∀ c ∈ s.closure, ∃ r, s.settlement = some r ∧ c.settlementId = r.1.id
  numbered : ∀ v ∈ s.settlementRevisions, v.revisionNumber ≤
    (s.settlementRevisions.filter fun w => w.settlementId = v.settlementId).length
  closureNumbered : ∀ v ∈ s.closureRevisions, v.revisionNumber ≤ s.closureRevisions.length

theorem Sound.congr {s t : State} (h : Sound s) (hset : t.settlement = s.settlement)
    (hrev : t.settlementRevisions = s.settlementRevisions) (hcl : t.closure = s.closure)
    (hcrev : t.closureRevisions = s.closureRevisions) : Sound t where
  owned := by
    rw [hcl, hset]
    exact h.owned
  numbered := by
    rw [hrev]
    exact h.numbered
  closureNumbered := by
    rw [hcrev]
    exact h.closureNumbered

/-- A settlement row replaced under its key. -/
theorem Sound.of_row {s t : State} (h : Sound s) (row : Stored FinancialSettlement)
    (hrow : t.settlement = some row) (hid : ∀ r ∈ s.settlement, row.1.id = r.1.id)
    (hrev : t.settlementRevisions = s.settlementRevisions) (hcl : t.closure = s.closure)
    (hcrev : t.closureRevisions = s.closureRevisions) : Sound t where
  owned := by
    rw [hcl, hrow]
    intro c hc
    obtain ⟨r, hr, hown⟩ := h.owned c hc
    exact ⟨row, rfl, hown.trans (hid r hr).symm⟩
  numbered := by
    rw [hrev]
    exact h.numbered
  closureNumbered := by
    rw [hcrev]
    exact h.closureNumbered

/-- A revision numbered one past the count of its settlement. -/
theorem numbered_append {revisions : List SettlementRevision} {v : SettlementRevision}
    (h : ∀ w ∈ revisions, w.revisionNumber ≤
      (revisions.filter fun x => x.settlementId = w.settlementId).length)
    (hv : v.revisionNumber =
      (revisions.filter fun x => x.settlementId = v.settlementId).length + 1) :
    ∀ w ∈ revisions ++ [v], w.revisionNumber ≤
      ((revisions ++ [v]).filter fun x => x.settlementId = w.settlementId).length := by
  intro w hw
  rw [List.filter_append, List.length_append]
  rcases List.mem_append.mp hw with hold | hnew
  · have := h w hold
    omega
  · rw [List.mem_singleton.mp hnew, hv, List.filter_singleton, decide_eq_true rfl]
    exact Nat.le_refl _

/-- The number a new revision gets is free. -/
theorem Sound.free {s : State} (h : Sound s) (newId : Uuid) (r : FinancialSettlement)
    (reason : Text) (actor : User) :
    ¬ RevisionTaken s (settlementRevision s newId r reason actor) := by
  intro hex
  obtain ⟨v, hv, hid, hnum⟩ := hex
  have hle := h.numbered v hv
  rw [hid] at hle
  unfold settlementRevision at hnum hle
  simp only at hnum hle
  omega

theorem sound_settlement {cfg : Config} {m : SettlementMove} {s s' : State} (h : Sound s)
    (hstep : SettlementStep cfg s m s') : Sound s' := by
  have kept : ∀ {r row : Stored FinancialSettlement}, s.settlement = some r →
      row.1.SameFigures r.1 → ∀ r' ∈ s.settlement, row.1.id = r'.1.id := by
    intro r row hr hfig r' hr'
    rw [hr] at hr'
    cases hr'
    exact hfig.id
  cases hstep with
  | prepared preparedBy newId sanction row entries hcomp hcert hprev hsan hres hrow =>
      refine h.of_row row rfl ?_ rfl rfl rfl
      intro r hr
      rw [hrow, Option.mem_def.mp hr]
      rfl
  | submitted r row prepared sanction entries hr hmut hfrom hcons hfig hst =>
      exact h.of_row row rfl (kept hr hfig) rfl rfl rfl
  | queried r row prepared sanction entries hr hmut hfrom hcons hfig hst =>
      exact h.of_row row rfl (kept hr hfig) rfl rfl rfl
  | approved r row prepared sanction entries hr hmut hfrom hcons hfig hst =>
      exact h.of_row row rfl (kept hr hfig) rfl rfl rfl
  | paid r row p entries hr hmut hfrom hid hdir hle hrow =>
      refine h.of_row row rfl (kept hr ?_) rfl rfl rfl
      rw [hrow]
      exact clearedRow_sameFigures r.1 _
  | reopened r row newId reason actor entries hr hmut hfrom hfig hst =>
      have hrow : Sound ({ s with settlement := some row } : State) :=
        h.of_row row rfl (kept hr hfig) rfl rfl rfl
      exact ⟨hrow.owned, numbered_append h.numbered rfl, hrow.closureNumbered⟩

theorem sound_closeout {m : CloseoutMove} {s s' : State} (h : Sound s)
    (hstep : CloseoutStep s m s') : Sound s' := by
  cases hstep with
  | requestedAgain hfrom => exact h
  | archivedAgain hfrom => exact h
  | requested entries hfrom hready => exact h.congr rfl rfl rfl rfl
  | certified r report closure entries hfrom hready hr hrep hset hrid =>
      refine ⟨?_, h.numbered, h.closureNumbered⟩
      intro c hc
      cases hc
      exact ⟨r, hr, hset⟩
  | rejected entries hfrom => exact h.congr rfl rfl rfl rfl
  | petitioned entries hfrom => exact h.congr rfl rfl rfl rfl
  | reopened r row revision newId reason actor entries hfrom hnum hr hset hfig hst =>
      refine ⟨?_, numbered_append h.numbered rfl, ?_⟩
      · intro c hc
        obtain ⟨r', hr', hown⟩ := h.owned c hc
        rw [hr] at hr'
        cases hr'
        exact ⟨row, rfl, hown.trans hfig.id.symm⟩
      · show ∀ v ∈ s.closureRevisions ++ [revision],
          v.revisionNumber ≤ (s.closureRevisions ++ [revision]).length
        intro v hv
        rw [List.length_append, List.length_singleton]
        rcases List.mem_append.mp hv with hold | hnew
        · have := h.closureNumbered v hold
          omega
        · rw [List.mem_singleton.mp hnew, hnum]
  | archived entries hfrom => exact h.congr rfl rfl rfl rfl

theorem sound_effect {cfg : Config} {m : Move} {s s' : State} (h : Sound s)
    (heff : Effect cfg s m s') : Sound s' := by
  cases heff with
  | read => exact h
  | advance m row entries hstep => exact h.congr rfl rfl rfl rfl
  | income m t entries hstep => exact h.congr rfl rfl rfl rfl
  | expense m t entries hstep => exact h.congr rfl rfl rfl rfl
  | settlement m s' hstep => exact sound_settlement h hstep
  | execution status report entries hstep => exact h.congr rfl rfl rfl rfl
  | cancellation s' hstep => cases hstep <;> exact h.congr rfl rfl rfl rfl
  | closeout m s' hstep => exact sound_closeout h hstep

theorem Opening.sound {s : State} (h : Opening s) : Sound s where
  owned := by
    rw [h.closure]
    intro c hc
    cases hc
  numbered := by
    rw [h.settlementRevisions]
    intro v hv
    cases hv
  closureNumbered := by
    rw [h.closureRevisions]
    intro v hv
    cases hv

theorem Reachable.sound {cfg : Config} {s : State} (h : Reachable cfg s) : Sound s :=
  h.invariant (fun _ _ hs => hs.congr rfl rfl rfl rfl) (fun _ ho => ho.sound)
    (fun _ _ _ hs heff => sound_effect hs heff)

/-! ## 4. The seal -/

/-- **A sealed event** has its closure row and books that were ready to be closed. -/
structure Coherent (s : State) : Prop where
  ready : s.event.Sealed → ClosureReady s
  recorded : s.event.Sealed → ∃ closure, s.closure = some closure

theorem Coherent.of_unsealed {s : State} (h : ¬ s.event.Sealed) : Coherent s where
  ready hs := absurd hs h
  recorded hs := absurd hs h

/-- **The seal is put on by a certification only**, and then on books that are ready. -/
theorem coherent_effect {cfg : Config} {m : Move} {s s' : State} (h : Coherent s)
    (heff : Effect cfg s m s') : Coherent s' := by
  by_cases hs : s.event.Sealed
  · by_cases hm : m = .closeout .reopened
    · cases heff with
      | closeout m s' hstep =>
          cases hstep with
          | reopened r row revision newId reason actor entries hfrom hnum hr hset hfig hst =>
              refine .of_unsealed ?_
              intro hor
              rcases hor with hc | hc <;> cases hc
          | _ => cases hm
      | _ => cases hm
    · have hun : Untouched s s' := sealed_effect (h.ready hs) hs heff hm
      obtain ⟨closure, hcl⟩ := h.recorded hs
      exact ⟨fun _ => (h.ready hs).congr hun.books, fun _ => ⟨closure, hun.closure.trans hcl⟩⟩
  · cases heff with
    | read => exact .of_unsealed hs
    | advance m row entries hstep => exact .of_unsealed hs
    | income m t entries hstep => exact .of_unsealed hs
    | expense m t entries hstep => exact .of_unsealed hs
    | settlement m s' hstep => cases hstep <;> exact .of_unsealed hs
    | execution status report entries hstep =>
        cases hstep with
        | started hfrom =>
            refine .of_unsealed ?_
            intro hor
            rcases hor with hc | hc <;> cases hc
        | completed row hfrom hnone hst =>
            refine .of_unsealed ?_
            intro hor
            rcases hor with hc | hc <;> cases hc
        | revised report row hmut hrep hfrom hid => exact .of_unsealed hs
    | cancellation s' hstep =>
        cases hstep with
        | proposal entries hfrom => exact .of_unsealed hs
        | event event advance entries hfrom hid hreq hver hst hpend hadv =>
            refine .of_unsealed ?_
            show ¬ event.Sealed
            unfold Event.Sealed
            rw [hst]
            decide
    | closeout m s' hstep =>
        cases hstep with
        | requestedAgain hfrom => exact .of_unsealed hs
        | archivedAgain hfrom => exact absurd (.inr hfrom) hs
        | requested entries hfrom hready =>
            refine .of_unsealed ?_
            intro hor
            rcases hor with hc | hc <;> cases hc
        | certified r report closure entries hfrom hready hr hrep hset hrid =>
            exact ⟨fun _ => hready.congr (by constructor <;> rfl), fun _ => ⟨closure, rfl⟩⟩
        | rejected entries hfrom =>
            refine .of_unsealed ?_
            intro hor
            rcases hor with hc | hc <;> cases hc
        | petitioned entries hfrom => exact absurd (.inl hfrom) hs
        | reopened r row revision newId reason actor entries hfrom hnum hr hset hfig hst =>
            exact absurd (.inl hfrom) hs
        | archived entries hfrom => exact absurd (.inl hfrom) hs

theorem Reachable.coherent {cfg : Config} {s : State} (h : Reachable cfg s) : Coherent s :=
  h.invariant
    (fun _ _ hc => ⟨fun hs => (hc.ready hs).congr (by constructor <;> rfl), hc.recorded⟩)
    (fun _ ho => .of_unsealed ho.unsealed) (fun _ _ _ hc heff => coherent_effect hc heff)

/-! ## 5. The results -/

/-- **Closure coherence.** In every reachable state a CLOSED or ARCHIVED event has its closure, a
    certified report, a settlement that has moved exactly its payout, and nothing undecided in its
    ledger; and a Dean or Principal reopens every reachable CLOSED event, event and settlement
    together. -/
theorem sealed_coherent {cfg : Config} {s : State} (h : Reachable cfg s) :
    (s.event.Sealed →
      (∃ closure, s.closure = some closure) ∧
      (∃ report, s.report = some report ∧ report.1.status = .certified) ∧
      (∃ r, s.settlement = some r ∧ r.1.status = .settled ∧
        cashMoved s.payments r.1 = r.1.institutionalPayout) ∧
      (∀ e ∈ s.expenses, e.status ≠ .draft ∧ e.status ≠ .submitted ∧ e.status ≠ .queried) ∧
      (∀ i ∈ s.incomes, i.status ≠ .recorded) ∧
      ∀ a, s.advance = some a → a.1.status ≠ .requested ∧ a.1.status ≠ .approved) ∧
    (∀ c newId revId reason, c.op = .approveReopen newId revId reason → s.event.status = .closed →
      (c.actor.role = .deanStudentAffairs ∨ c.actor.role = .principal) → ¬ isBlank reason →
      ∃ s', Step cfg s c s' ∧ s'.event.status = .completed ∧
        ∃ row, s'.settlement = some row ∧ row.1.status = .reopened) := by
  have hco : Coherent s := h.coherent
  have hsound : Sound s := h.sound
  constructor
  · intro hs
    have hready : ClosureReady s := hco.ready hs
    obtain ⟨hexp, hinc, hadv⟩ := hready.resolved
    obtain ⟨r, hr, hset, hcleared⟩ := hready.settled
    rw [netCash_eq_cashMoved] at hcleared
    refine ⟨hco.recorded hs, hready.certified, ⟨r, hr, hset, hcleared⟩, ?_, hinc, ?_⟩
    · intro e he
      have hu : ¬ e.Unresolved := hexp e he
      unfold ActualExpense.Unresolved at hu
      rw [not_or, not_or] at hu
      exact hu
    · intro a ha
      have hp : ¬ a.1.Pending := hadv a ha
      unfold CashAdvance.Pending at hp
      rw [not_or] at hp
      exact hp
  · intro c newId revId reason hop hclosed hrole hreason
    obtain ⟨closure, hclosure⟩ := hco.recorded (.inl hclosed)
    obtain ⟨r, hr, hset, _⟩ := (hco.ready (.inl hclosed)).settled
    obtain ⟨r', hr', hid⟩ := hsound.owned closure hclosure
    rw [hr] at hr'
    cases hr'
    -- nothing the reopening reads depends on the session
    have henter : Sound (c.enter s) := SessionFree.enter (fun _ _ hs => hs.congr rfl rfl rfl rfl) c hsound
    have hbooks : SameBooks s (c.enter s) := sameBooks_enter c s
    have hev : (c.enter s).event = s.event := rfl
    have hcl : (c.enter s).closure = s.closure := rfl
    have hfree : ∀ v ∈ (c.enter s).closureRevisions,
        v.revisionNumber ≠ (c.enter s).closureRevisions.length + 1 := by
      intro v hv
      have := henter.closureNumbered v hv
      omega
    have haccepted : ∃ s', CloseoutService.approveReopen c.env c.actor newId revId reason
        (c.enter s) = .ok s' ∧ s'.event.status = .completed ∧
          ∃ row, s'.settlement = some row ∧ row.1.status = .reopened :=
      CloseoutService.approveReopen_of hreason hrole (hev ▸ hclosed) (hcl.trans hclosure)
        (hbooks.settlement.trans hr) hid hset hfree
        (henter.free revId r.1 (strip reason) c.actor)
    obtain ⟨s', hok, hdone, hrow⟩ := haccepted
    refine ⟨s', ?_, hdone, hrow⟩
    unfold Step Call.exec
    rw [hop]
    exact hok

/-- The sample event is closed and reopened by the Dean. -/
theorem sealed_coherent_reopened :
    ∃ s s', Reachable (Sample.config .sqlite) s ∧ s.event.status = .closed ∧
      Step (Sample.config .sqlite) s
        (Sample.byDean (.approveReopen (Sample.uid 60) (Sample.uid 61) "reason".toList)) s' ∧
      s'.event.status = .completed := by
  have hrun : Runs.Ends (Runs.run (Call.exec (Sample.config .sqlite)) Sample.close
      (Sample.opening none)) (fun s => s.event.status = .closed) := by
    decide
  obtain ⟨s, hok, hclosed⟩ := hrun
  have hreach : Reachable (Sample.config .sqlite) s :=
    reachable_of_run Sample.opening_opening hok
  obtain ⟨s', hstep, hdone, _⟩ := (sealed_coherent hreach).2
    (Sample.byDean (.approveReopen (Sample.uid 60) (Sample.uid 61) "reason".toList)) _ _ _ rfl
    hclosed (.inl rfl) (by decide)
  exact ⟨s, s', hreach, hclosed, hstep, hdone⟩

/-- The only operation that reopens a closure. -/
theorem Op.move_reopened {op : Op} (h : op.move = .closeout .reopened) :
    ∃ newId revId reason, op = .approveReopen newId revId reason := by
  cases op with
  | approveReopen newId revId reason => exact ⟨newId, revId, reason, rfl⟩
  | _ => cases h

/-- **The sealed ledger.** On a CLOSED or ARCHIVED event no call but a reopening changes a row of
    the books, whoever makes it and with whatever arguments; and the operations that look at no
    event status find no advance and no income record to decide on. -/
theorem sealed_ledger {cfg : Config} {s : State} (h : Reachable cfg s) (hs : s.event.Sealed) :
    (∀ c s', (∀ newId revId reason, c.op ≠ .approveReopen newId revId reason) → Step cfg s c s' →
      SameBooks s s') ∧
    (∀ c s', c.op.move = .advance .rejected ∨ c.op.move = .advance .disbursed ∨
      c.op.move = .income .rejected → ¬ Step cfg s c s') ∧
    (∀ a, s.advance = some a → a.1.status ≠ .requested ∧ a.1.status ≠ .approved) ∧
    ∀ i ∈ s.incomes, i.status ≠ .recorded := by
  have hready : ClosureReady s := h.coherent.ready hs
  have henter : ∀ c : Call, ClosureReady (c.enter s) ∧ (c.enter s).event.Sealed :=
    fun c => ⟨hready.congr (sameBooks_enter c s), hs⟩
  refine ⟨?_, ?_, ?_, hready.resolved.2.1⟩
  · intro c s' hop hstep
    obtain ⟨hr, hse⟩ := henter c
    have hun : Untouched (c.enter s) s' := by
      refine sealed_effect hr hse hstep.effect ?_
      intro hm
      obtain ⟨newId, revId, reason, hc⟩ := Op.move_reopened hm
      exact hop newId revId reason hc
    exact (sameBooks_enter c s).trans hun.books
  · intro c s' hop hstep
    obtain ⟨hr, hse⟩ := henter c
    have heff : Effect cfg (c.enter s) c.op.move s' := hstep.effect
    rcases hop with hm | hm | hm
    · rw [hm] at heff
      cases heff with
      | advance m row entries hadv => exact hr.no_advanceStep hse hadv
    · rw [hm] at heff
      cases heff with
      | advance m row entries hadv => exact hr.no_advanceStep hse hadv
    · rw [hm] at heff
      cases heff with
      | income m t entries hinc => exact hr.no_incomeStep hse hinc
  · intro a ha
    have hp : ¬ a.1.Pending := hready.resolved.2.2 a ha
    unfold CashAdvance.Pending at hp
    rw [not_or] at hp
    exact hp

/-- Archiving the closed sample event leaves its books alone. -/
theorem sealed_ledger_archived :
    ∃ s s', Reachable (Sample.config .sqlite) s ∧ s.event.status = .closed ∧
      s'.event.status = .archived ∧ SameBooks s s' := by
  let admin : User := ⟨Sample.uid 4, "admin".toList, .systemAdmin⟩
  let call : Call := { env := Sample.env, actor := admin, op := .archiveEvent }
  have hrun : Runs.Ends (Runs.run (Call.exec (Sample.config .sqlite)) Sample.close
      (Sample.opening none)) (fun s => s.event.status = .closed ∧
        Runs.Ends (call.exec (Sample.config .sqlite) s) fun s' => s'.event.status = .archived) := by
    decide
  obtain ⟨s, hok, hclosed, s', hstep, harch⟩ := hrun
  have hreach : Reachable (Sample.config .sqlite) s :=
    reachable_of_run Sample.opening_opening hok
  refine ⟨s, s', hreach, hclosed, harch, ?_⟩
  refine (sealed_ledger hreach (.inl hclosed)).1 call s' ?_ hstep
  intro newId revId reason hop
  cases hop

end CampusConnect
