/-
  File:      CampusConnect/Guarantees/Resolution.lean
  Subject:   RESOLVING THE LEDGER: a secretary and a finance officer can always decide what is
             left open in it.

  * `Office`, `Office.Step`: who works on the settlement, and the calls they make, each in a
    session of its own;
  * `Resolving`: what the work leaves alone;
  * `work`: the open claims, income records and advances; `resolve_step` closes one of them;
  * `ledger_resolves`: the calls that leave nothing open.
-/
import CampusConnect.Guarantees.Pending

namespace CampusConnect

open Guarded Rows SettlementService

/-! ## 1. Who does it -/

/-- The actors of a settlement, what their calls read outside the event, and a payment proof. -/
structure Office where
  env : Env
  secretary : User
  officer : User
  proof : Uuid

/-- **The office is authorised**: the club's secretary, a finance officer who recorded none of the
    open income, and a payment proof of the event. -/
structure Office.Serves (o : Office) (s : State) : Prop where
  secretary : IsEventSecretary o.env s.event o.secretary
  officer : o.officer.role = .financeOfficer
  apart : ∀ i ∈ s.incomes, i.status = .recorded → o.officer.id ≠ i.recordedBy
  evidence : HasEvidence o.env s.event o.proof .settlementPaymentProof

/-- The moves of the settlement and expense services. -/
def Move.Financial : Move → Prop
  | .advance _ | .income _ | .expense _ | .settlement _ => True
  | _ => False

/-- The calls of the office: each opens a session, as every request does. -/
structure Office.Makes (o : Office) (c : Call) : Prop where
  env : c.env = o.env
  fresh : c.held = none
  actor : c.actor = o.secretary ∨ c.actor = o.officer
  financial : c.op.move.Financial

/-- The accepted calls of the office. -/
abbrev Office.Step (o : Office) (cfg : Config) : State → Call → State → Prop :=
  Runs.restrict (CampusConnect.Step cfg) fun _ c => o.Makes c

def Office.asSecretary (o : Office) (op : Op) : Call :=
  { env := o.env, actor := o.secretary, op := op }

def Office.asOfficer (o : Office) (op : Op) : Call :=
  { env := o.env, actor := o.officer, op := op }

theorem Office.makes_asSecretary (o : Office) {op : Op} (h : op.move.Financial) :
    o.Makes (o.asSecretary op) := ⟨rfl, rfl, .inl rfl, h⟩

theorem Office.makes_asOfficer (o : Office) {op : Op} (h : op.move.Financial) :
    o.Makes (o.asOfficer op) := ⟨rfl, rfl, .inr rfl, h⟩

/-! ## 2. Approved advances have their amount -/

/-- An approved advance has a positive amount to disburse. -/
def Granted (s : State) : Prop :=
  ∀ a, s.advance = some a → a.1.status = .approved →
    ∃ amount, a.1.amountApproved = some amount ∧ 0 < amount

theorem granted_effect {cfg : Config} {s s' : State} {m : Move} (h : Granted s)
    (heff : Effect cfg s m s') : Granted s' := by
  cases heff with
  | read => exact h
  | advance m row entries hstep =>
      intro a ha happ
      cases ha
      cases hstep with
      | requested _ hmut hnone hset hst hamt =>
          rw [hst] at happ
          cases happ
      | approved advance _ hmut hadv hfrom hst hamt hgrant => exact hgrant
      | rejected advance _ hadv hfrom hst hamt =>
          rw [hst] at happ
          cases happ
      | disbursed advance _ hadv hfrom hst hpos hamt =>
          rw [hst] at happ
          cases happ
  | income m t entries hstep => exact h
  | expense m t entries hstep => exact h
  | settlement m s' hstep => cases hstep <;> exact h
  | execution status report entries hstep => exact h
  | cancellation s' hstep =>
      cases hstep with
      | proposal entries hfrom => exact h
      | event event advance entries hfrom hid hreq hver hst hpend hadv =>
          intro a ha happ
          exact absurd (.inr happ) (hpend a ha)
  | closeout m s' hstep => cases hstep <;> exact h

theorem Reachable.granted {cfg : Config} {s : State} (h : Reachable cfg s) : Granted s :=
  h.invariant (fun _ _ hs => hs) (fun _ ho => ho.granted) fun _ _ _ hs heff => granted_effect hs heff

/-! ## 3. What the work leaves alone -/

/-- Event, report, proposal, settlement and payments are the same. -/
structure SameFile (s t : State) : Prop where
  event : t.event = s.event
  report : t.report = s.report
  proposal : t.proposal = s.proposal
  settlement : t.settlement = s.settlement
  payments : t.payments = s.payments

theorem SameFile.trans {s t u : State} (h : SameFile s t) (h' : SameFile t u) : SameFile s u where
  event := h'.event.trans h.event
  report := h'.report.trans h.report
  proposal := h'.proposal.trans h.proposal
  settlement := h'.settlement.trans h.settlement
  payments := h'.payments.trans h.payments

/-- No advance is approved and waits to be paid out. -/
def NoApproved (s : State) : Prop := ∀ a, s.advance = some a → a.1.status ≠ .approved

/-- `t` was reached from `s` by closing what was open: unless an advance had to be paid out, the
    figures are those of `s`. -/
structure Resolving (cfg : Config) (o : Office) (s t : State) : Prop where
  reachable : Reachable cfg t
  file : SameFile s t
  serves : o.Serves t
  figures : NoApproved s → t.figures = s.figures ∧ NoApproved t

/-- One call of the work. -/
theorem Resolving.next {cfg : Config} {o : Office} {s t u : State} {c : Call}
    (h : Resolving cfg o s t) (hstep : Step cfg t c u) (hfile : SameFile t u)
    (hinc : ∀ i ∈ u.incomes, i.status = .recorded → i ∈ t.incomes)
    (hadv : NoApproved t → NoApproved u) (hadds : NoApproved t → ¬ c.op.move.Adds) :
    Resolving cfg o s u where
  reachable := .next h.reachable hstep
  file := h.file.trans hfile
  serves := by
    obtain ⟨hsec, hfo, hapart, hdoc⟩ := h.serves
    refine ⟨?_, hfo, ?_, ?_⟩
    · rw [hfile.event]
      exact hsec
    · intro i hi hst
      exact hapart i (hinc i hi hst) hst
    · rw [hfile.event]
      exact hdoc
  figures := by
    intro hs
    obtain ⟨hfig, hno⟩ := h.figures hs
    have hkeep : u.figures = (c.enter t).figures :=
      (figures_effect hstep.effect).2.1 (hadds hno)
    have henter : (c.enter t).figures = t.figures := rfl
    exact ⟨hkeep.trans (henter.trans hfig), hadv hno⟩

/-! ## 4. Closing one thing -/

/-- Advances waiting for a decision or for their payment. -/
def openAdvances (s : State) : Int := if ∃ a ∈ s.advance, a.1.Pending then 1 else 0

/-- What is open in the ledger. -/
def work (s : State) : Nat :=
  (s.expenses.count ActualExpense.Unresolved + s.incomes.count (fun i => i.status = .recorded) +
    openAdvances s).toNat

theorem openAdvances_nonneg (s : State) : 0 ≤ openAdvances s := by
  unfold openAdvances
  split
  · exact Int.one_nonneg
  · exact le_refl 0

theorem openAdvances_of_pending {s : State} {a : Stored CashAdvance} (ha : s.advance = some a)
    (hp : a.1.Pending) : openAdvances s = 1 := if_pos ⟨a, ha, hp⟩

theorem openAdvances_of_decided {s : State} {a : Stored CashAdvance} (ha : s.advance = some a)
    (hp : ¬ a.1.Pending) : openAdvances s = 0 := by
  refine if_neg ?_
  intro h
  obtain ⟨b, hb, hpb⟩ := h
  have hsame : a = b := Option.some.inj (ha.symm.trans hb)
  rw [hsame] at hp
  exact hp hpb

theorem not_unresolved_disallowed {e : ActualExpense} (h : e.status = .disallowed) :
    ¬ e.Unresolved := by
  unfold ActualExpense.Unresolved
  rw [h]
  decide

section Steps

variable {cfg : Config} {o : Office} {s t : State}

/-- The reason given for what is turned down, and the reference of what is paid out. -/
def remark : Text := "Closed before the settlement".toList

theorem not_isBlank_remark : ¬ isBlank remark := by
  unfold remark
  decide

/-- Where one call leads, with less left open. -/
abbrev Lowers (cfg : Config) (o : Office) (s t : State) : Prop :=
  ∃ is u, Runs.Path (o.Step cfg) t is u ∧ Resolving cfg o s u ∧ work u < work t

theorem close_expense (h : Resolving cfg o s t) (hcomp : t.event.status = .completed)
    (hcert : ReportCertified t) {e : ActualExpense} (hmem : e ∈ t.expenses) (hopen : e.Unresolved) :
    Lowers cfg o s t := by
  have hmut : ¬ t.event.Sealed := by
    unfold Event.Sealed
    rw [hcomp]
    decide
  have hcount : 0 < t.expenses.count ActualExpense.Unresolved := Table.count_pos hmem hopen
  have hinc : 0 ≤ t.incomes.count (fun i => i.status = .recorded) := Table.count_nonneg _
  have hadv : 0 ≤ openAdvances t := openAdvances_nonneg t
  have hsame : ∀ u : State, u.incomes = t.incomes → ∀ i ∈ u.incomes, i.status = .recorded →
      i ∈ t.incomes := by
    intro u hu i hi _
    rw [← hu]
    exact hi
  -- a claim the secretary still holds is deleted, a submitted one disallowed
  have discard : ExpenseService.Editable e → Lowers cfg o s t := by
    intro hedit
    have hdel : ∃ entries, ExpenseService.deleteDraftExpense o.env o.secretary e.id
        { t with attached := none } = .ok
          ({ t with expenses := t.expenses.erase e.id, attached := none }.log entries) :=
      ExpenseService.deleteDraftExpense_of hmut h.serves.secretary.2 hmem hedit
    obtain ⟨entries, hok⟩ := hdel
    let c : Call := o.asSecretary (.deleteDraftExpense e.id)
    have hstep : Step cfg t c _ := hok
    refine ⟨[c], _, .single ⟨hstep, o.makes_asSecretary trivial⟩,
      h.next hstep (by constructor <;> rfl) (hsame _ rfl) (fun hno => hno) (fun _ => id), ?_⟩
    have hless : (t.expenses.erase e.id).count ActualExpense.Unresolved =
        t.expenses.count ActualExpense.Unresolved - 1 := Table.count_erase hmem hopen
    show ((t.expenses.erase e.id).count ActualExpense.Unresolved + _ + _).toNat < _
    unfold work
    rw [hless]
    show (_ + t.incomes.count (fun i => i.status = .recorded) + openAdvances t).toNat < _
    omega
  rcases hopen with hst | hst | hst
  · exact discard (.inl hst)
  · have hdis : ∃ row tab entries, ExpenseService.disallowExpense o.env o.officer e.id remark
        { t with attached := none } =
          .ok ({ t with expenses := tab, attached := none }.log entries) ∧
          t.expenses.replace row = some tab ∧ row.id = e.id ∧ row.status = .disallowed :=
      ExpenseService.disallowExpense_of h.serves.officer hmut hcert hmem hst
    obtain ⟨row, tab, entries, hok, hrep, hid, hrow⟩ := hdis
    let c : Call := o.asOfficer (.disallowExpense e.id remark)
    have hstep : Step cfg t c _ := hok
    refine ⟨[c], _, .single ⟨hstep, o.makes_asOfficer trivial⟩,
      h.next hstep (by constructor <;> rfl) (hsame _ rfl) (fun hno => hno) (fun _ => id), ?_⟩
    have hless : tab.count ActualExpense.Unresolved =
        t.expenses.count ActualExpense.Unresolved - 1 :=
      Table.count_replace hrep hmem hid (.inr (.inl hst)) (not_unresolved_disallowed hrow)
    show (tab.count ActualExpense.Unresolved + t.incomes.count (fun i => i.status = .recorded) +
      openAdvances t).toNat < _
    unfold work
    omega
  · exact discard (.inr hst)

theorem close_income (h : Resolving cfg o s t) {i : ActualIncome} (hmem : i ∈ t.incomes)
    (hopen : i.status = .recorded) : Lowers cfg o s t := by
  have hcount : 0 < t.incomes.count (fun i => i.status = .recorded) := Table.count_pos hmem hopen
  have hexp : 0 ≤ t.expenses.count ActualExpense.Unresolved := Table.count_nonneg _
  have hadv : 0 ≤ openAdvances t := openAdvances_nonneg t
  have hrej : ∃ row tab entries, rejectIncome o.env o.officer i.id remark none
      { t with attached := none } = .ok ({ t with incomes := tab, attached := none }.log entries) ∧
        t.incomes.replace row = some tab ∧ row.id = i.id ∧ row.status = .rejected :=
    rejectIncome_of h.serves.officer hmem (h.serves.apart i hmem hopen) hopen not_isBlank_remark
  obtain ⟨row, tab, entries, hok, hrep, hid, hrow⟩ := hrej
  let c : Call := o.asOfficer (.rejectIncome i.id remark none)
  have hstep : Step cfg t c _ := hok
  have hinc : ∀ j ∈ tab, j.status = .recorded → j ∈ t.incomes := by
    intro j hj hst
    rcases Table.mem_replace hrep hj with hnew | hold
    · rw [hnew, hrow] at hst
      cases hst
    · exact hold.1
  refine ⟨[c], _, .single ⟨hstep, o.makes_asOfficer trivial⟩,
    h.next hstep (by constructor <;> rfl) hinc (fun hno => hno) (fun _ => id), ?_⟩
  have hless : tab.count (fun i => i.status = .recorded) =
      t.incomes.count (fun i => i.status = .recorded) - 1 :=
    Table.count_replace hrep hmem hid hopen (by rw [hrow]; decide)
  show (t.expenses.count ActualExpense.Unresolved + tab.count (fun i => i.status = .recorded) +
    openAdvances t).toNat < _
  unfold work
  omega

theorem close_advance (h : Resolving cfg o s t) {a : Stored CashAdvance} (ha : t.advance = some a)
    (hopen : a.1.Pending) : Lowers cfg o s t := by
  have hone : openAdvances t = 1 := openAdvances_of_pending ha hopen
  have hexp : 0 ≤ t.expenses.count ActualExpense.Unresolved := Table.count_nonneg _
  have hinc : 0 ≤ t.incomes.count (fun i => i.status = .recorded) := Table.count_nonneg _
  -- both ways out leave a decided advance
  have decided : ∀ (row : Stored CashAdvance) (entries : List AuditEntry), ¬ row.1.Pending →
      work ({ t with advance := some row, attached := none }.log entries) < work t := by
    intro row entries hrow
    have hzero : openAdvances ({ t with advance := some row, attached := none }.log entries) = 0 :=
      openAdvances_of_decided rfl hrow
    show (t.expenses.count ActualExpense.Unresolved +
      t.incomes.count (fun i => i.status = .recorded) + openAdvances _).toNat < _
    unfold work
    omega
  rcases hopen with hst | hst
  · have hrej : ∃ row entries, rejectAdvance o.env o.officer a.1.id remark
        { t with attached := none } =
          .ok ({ t with advance := some row, attached := none }.log entries) ∧
          row.1.status = .rejected :=
      rejectAdvance_of h.serves.officer ha hst not_isBlank_remark
    obtain ⟨row, entries, hok, hrow⟩ := hrej
    let c : Call := o.asOfficer (.rejectAdvance a.1.id remark)
    have hstep : Step cfg t c _ := hok
    refine ⟨[c], _, .single ⟨hstep, o.makes_asOfficer trivial⟩,
      h.next hstep (by constructor <;> rfl) (fun _ hi _ => hi) ?_ (fun _ => id), decided row entries ?_⟩
    · intro _ b hb
      cases hb
      rw [hrow]
      decide
    · unfold CashAdvance.Pending
      rw [hrow]
      decide
  · obtain ⟨amount, happ, hpos⟩ := h.reachable.granted a ha hst
    have hdis : ∃ row entries, disburseAdvance o.env o.officer a.1.id amount remark none none
        { t with attached := none } =
          .ok ({ t with advance := some row, attached := none }.log entries) ∧
          row.1.status = .disbursed :=
      disburseAdvance_of h.serves.officer ha hst happ hpos not_isBlank_remark
    obtain ⟨row, entries, hok, hrow⟩ := hdis
    let c : Call := o.asOfficer (.disburseAdvance a.1.id amount remark none none)
    have hstep : Step cfg t c _ := hok
    refine ⟨[c], _, .single ⟨hstep, o.makes_asOfficer trivial⟩,
      h.next hstep (by constructor <;> rfl) (fun _ hi _ => hi) ?_ ?_, decided row entries ?_⟩
    · intro hno
      exact absurd hst (hno a ha)
    · intro hno
      exact absurd hst (hno a ha)
    · unfold CashAdvance.Pending
      rw [hrow]
      decide

end Steps

/-! ## 5. Closing everything -/

/-- **The ledger of a delivered event can be resolved** by its office, and unless an advance had to
    be paid out this keeps the figures. -/
theorem ledger_resolves {cfg : Config} {o : Office} {s : State} (h : Reachable cfg s)
    (ho : o.Serves s) (hcomp : s.event.status = .completed) (hcert : ReportCertified s) :
    ∃ calls t, Runs.Path (o.Step cfg) s calls t ∧ Resolving cfg o s t ∧ LedgerResolved t := by
  refine Runs.Path.exhaust work ?_ (s := s) ⟨h, by constructor <;> rfl, ho, fun hno => ⟨rfl, hno⟩⟩
  intro t ht hopen
  have hcompt : t.event.status = .completed := by
    rw [ht.file.event]
    exact hcomp
  have hcertt : ReportCertified t := by
    unfold ReportCertified
    rw [ht.file.report]
    exact hcert
  by_cases hexp : ∃ e ∈ t.expenses, e.Unresolved
  · obtain ⟨e, he, hu⟩ := hexp
    exact close_expense ht hcompt hcertt he hu
  · by_cases hinc : ∃ i ∈ t.incomes, i.status = .recorded
    · obtain ⟨i, hi, hst⟩ := hinc
      exact close_income ht hi hst
    · by_cases hadv : ∃ a, t.advance = some a ∧ a.1.Pending
      · obtain ⟨a, ha, hp⟩ := hadv
        exact close_advance ht ha hp
      · refine absurd ⟨?_, ?_, ?_⟩ hopen
        · exact fun e he hu => hexp ⟨e, he, hu⟩
        · exact fun i hi hst => hinc ⟨i, hi, hst⟩
        · exact fun a ha hp => hadv ⟨a, ha, hp⟩

end CampusConnect
