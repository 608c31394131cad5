/-
  File:      CampusConnect/Guarantees/Duties.lean
  Subject:   SEPARATION OF DUTIES: who decides the expenses somebody else has submitted, and who
             certifies the reports.

  * `Separated`, `Impartial`: no decided expense names its submitter as its verifier; a decision is
    made by another user than the submitter on record;
  * `expenses_separated_iff`: the first holds after a run exactly when the second holds of its steps,
    since no operation on an expense compares the two users;
  * `latestSubmitter`: who submitted a report last, which is not what the report records;
  * `certified_by_other_iff`: when a certifier is another user than the latest submitter.
-/
import CampusConnect.Guarantees.Stages

namespace CampusConnect

open Guarded Rows
open SettlementService (ReportCertified)

/-! ## 1. Decisions on expenses -/

/-- The expense an operation verifies, in full or in part, or disallows. -/
def Op.decidesExpense : Op → Option Uuid
  | .verifyExpense id _ => some id
  | .partialVerifyExpense id _ _ => some id
  | .disallowExpense id _ => some id
  | _ => none

/-- **Separated duties**: no decided expense names its submitter as its verifier. -/
def Separated (s : State) : Prop := ∀ e ∈ s.expenses, e.Decided → e.verifiedBy ≠ some e.submittedBy

instance (s : State) : Decidable (Separated s) :=
  inferInstanceAs (Decidable (∀ e ∈ s.expenses.rows, e.Decided → e.verifiedBy ≠ some e.submittedBy))

/-- The call decides no expense that its actor has submitted. -/
def Impartial (s : State) (c : Call) : Prop :=
  ∀ id, c.op.decidesExpense = some id → ∀ e, s.expenses.find id = some e →
    e.submittedBy ≠ c.actor.id

/-- What a decision makes of the row it finds. -/
structure DecidedBy (actor : User) (old row : ActualExpense) : Prop where
  from_submitted : old.status = .submitted
  id : row.id = old.id
  decided : row.Decided
  verifier : row.verifiedBy = some actor.id
  submitter : row.submittedBy = old.submittedBy
  bill : row.billDocumentId = old.billDocumentId

section Expenses

variable {cfg : Config} {s s' : State}

/-- **A decision records its actor as the verifier**, and keeps the submitter. -/
theorem Op.decides {env : Env} {actor : User} {op : Op} {id : Uuid}
    (hop : op.decidesExpense = some id) (h : op.exec cfg env actor s = .ok s') :
    ∃ old row t entries, s.expenses.find id = some old ∧ DecidedBy actor old row ∧
      s.expenses.replace row = some t ∧ s' = { s with expenses := t }.log entries := by
  cases op with
  | verifyExpense expenseId remarks =>
      cases hop
      simp only [Op.exec, ExpenseService.verifyExpense, bind_accepts,
        ExpenseService.loadSubmitted_accepts, ExpenseService.writeDecision_accepts] at h
      obtain ⟨old, ⟨_, _, _, hfind, hst⟩, t, hrep, rfl⟩ := h
      refine ⟨old, _, t, _, hfind, ?_, hrep, rfl⟩
      exact ⟨hst, rfl, .inl rfl, rfl, rfl, rfl⟩
  | partialVerifyExpense expenseId amount remarks =>
      cases hop
      simp only [Op.exec, ExpenseService.partialVerifyExpense, bind_accepts, exists_unit,
        ExpenseService.loadSubmitted_accepts, ExpenseService.writeDecision_accepts] at h
      obtain ⟨old, ⟨_, _, _, hfind, hst⟩, _, _, t, hrep, rfl⟩ := h
      refine ⟨old, _, t, _, hfind, ?_, hrep, rfl⟩
      exact ⟨hst, rfl, .inr (.inl rfl), rfl, rfl, rfl⟩
  | disallowExpense expenseId remarks =>
      cases hop
      simp only [Op.exec, ExpenseService.disallowExpense, bind_accepts,
        ExpenseService.loadSubmitted_accepts, ExpenseService.writeDecision_accepts] at h
      obtain ⟨old, ⟨_, _, _, hfind, hst⟩, t, hrep, rfl⟩ := h
      refine ⟨old, _, t, _, hfind, ?_, hrep, rfl⟩
      exact ⟨hst, rfl, .inr (.inr rfl), rfl, rfl, rfl⟩
  | _ => cases hop

theorem Op.move_undecided {op : Op} (h : op.decidesExpense = none) :
    op.move ≠ .expense .verified ∧ op.move ≠ .expense .disallowed := by
  cases op with
  | verifyExpense _ _ => cases h
  | partialVerifyExpense _ _ _ => cases h
  | disallowExpense _ _ => cases h
  | _ => exact ⟨nofun, nofun⟩

theorem ActualExpense.Decided.not_editable {e : ActualExpense} (h : e.Decided) :
    ¬ ExpenseService.Editable e := by
  unfold ActualExpense.Decided at h
  unfold ExpenseService.Editable
  rcases h with h | h | h <;> rw [h] <;> decide

theorem ActualExpense.Decided.not_submitted {e : ActualExpense} (h : e.Decided) :
    e.status ≠ .submitted := by
  rcases h with h | h | h <;> rw [h] <;> decide

/-- **What is decided was decided by a decision.** -/
theorem ExpenseStep.decided_old {m : ExpenseMove} {t : Table ActualExpense} (h : ExpenseStep s m t)
    (hv : m ≠ .verified) (hd : m ≠ .disallowed) {e : ActualExpense} (he : e ∈ t) (hdec : e.Decided) :
    e ∈ s.expenses := by
  cases h with
  | created row t hcomp hst hins =>
      rcases (Table.mem_insert hins).mp he with hold | rfl
      · exact hold
      · rcases hdec with h | h | h <;> rw [hst] at h <;> cases h
  | updated old row t hmut hfind hfrom hid hst hrep =>
      rcases Table.mem_replace hrep he with rfl | hold
      · refine (ActualExpense.Decided.not_editable (e := old) ?_ hfrom).elim
        unfold ActualExpense.Decided at hdec ⊢
        rw [← hst]
        exact hdec
      · exact hold.1
  | deleted old hmut hfind hfrom => exact (Table.mem_erase.mp he).1
  | submitted now u ids hcomp =>
      obtain ⟨old, hold, rfl⟩ := Table.mem_modify.mp he
      unfold ExpenseService.submitRow at hdec ⊢
      by_cases hsel : ExpenseService.Selected ids old
      · rw [if_pos hsel] at hdec
        exact (hdec.not_submitted rfl).elim
      · rw [if_neg hsel]
        exact hold
  | decided m old row t hmut hfind hfrom hid hclaim hm hrep =>
      cases hm with
      | verified row hst hamt => exact (hv rfl).elim
      | partiallyVerified row v hst hamt hpos hlt => exact (hv rfl).elim
      | disallowed row hst hamt => exact (hd rfl).elim
      | queried row hst hamt =>
          rcases Table.mem_replace hrep he with rfl | hold
          · rcases hdec with h | h | h <;> rw [hst] at h <;> cases h
          · exact hold.1

/-- No operation finds a decided row to write on. -/
theorem ActualExpense.Decided.key_ne {e old : ActualExpense} (hdec : e.Decided) (he : e ∈ s.expenses)
    (hfind : s.expenses.find old.id = some old)
    (hfrom : ExpenseService.Editable old ∨ old.status = .submitted) : e.id ≠ old.id := by
  intro hid
  have hsame : e = old := Table.eq_of_key_eq he (Table.mem_of_find hfind) hid
  rw [hsame] at hdec
  rcases hfrom with hfrom | hfrom
  · exact hdec.not_editable hfrom
  · exact hdec.not_submitted hfrom

/-- **A decision is final**: the decided row stays as it is. -/
theorem ExpenseStep.decided_kept {m : ExpenseMove} {t : Table ActualExpense} (h : ExpenseStep s m t)
    {e : ActualExpense} (he : e ∈ s.expenses) (hdec : e.Decided) : e ∈ t := by
  cases h with
  | created row t hcomp hst hins => exact (Table.mem_insert hins).mpr (.inl he)
  | updated old row t hmut hfind hfrom hid hst hrep =>
      refine Table.mem_replace_of_ne hrep he ?_
      have hne : e.id ≠ old.id := hdec.key_ne he hfind (.inl hfrom)
      rw [← hid] at hne
      exact hne
  | deleted old hmut hfind hfrom =>
      exact Table.mem_erase.mpr ⟨he, hdec.key_ne he hfind (.inl hfrom)⟩
  | submitted now u ids hcomp =>
      refine Table.mem_modify.mpr ⟨e, he, ?_⟩
      unfold ExpenseService.submitRow
      refine if_neg fun hsel => ?_
      exact hdec.not_editable hsel.1
  | decided m old row t hmut hfind hfrom hid hclaim hm hrep =>
      refine Table.mem_replace_of_ne hrep he ?_
      have hne : e.id ≠ old.id := hdec.key_ne he hfind (.inr hfrom)
      rw [← hid] at hne
      exact hne

theorem Effect.decided_old {m : Move} (h : Effect cfg s m s') (hv : m ≠ .expense .verified)
    (hd : m ≠ .expense .disallowed) {e : ActualExpense} (he : e ∈ s'.expenses) (hdec : e.Decided) :
    e ∈ s.expenses := by
  cases h with
  | expense m t entries hstep =>
      exact hstep.decided_old (fun hm => hv (congrArg _ hm)) (fun hm => hd (congrArg _ hm)) he hdec
  | settlement m s' hstep => cases hstep <;> exact he
  | cancellation s' hstep => cases hstep <;> exact he
  | closeout m s' hstep => cases hstep <;> exact he
  | _ => exact he

theorem Effect.decided_kept {m : Move} (h : Effect cfg s m s') {e : ActualExpense}
    (he : e ∈ s.expenses) (hdec : e.Decided) : e ∈ s'.expenses := by
  cases h with
  | expense m t entries hstep => exact hstep.decided_kept he hdec
  | settlement m s' hstep => cases hstep <;> exact he
  | cancellation s' hstep => cases hstep <;> exact he
  | closeout m s' hstep => cases hstep <;> exact he
  | _ => exact he

/-- **One accepted call** keeps every decided row. -/
theorem Step.decided_kept {c : Call} (h : CampusConnect.Step cfg s c s') {e : ActualExpense}
    (he : e ∈ s.expenses) (hdec : e.Decided) : e ∈ s'.expenses := by
  obtain ⟨a, _, heff⟩ := h.entered
  exact heff.decided_kept he hdec

/-- **One accepted call** decides an expense, or no expense is newly decided. -/
theorem Step.decides {c : Call} (h : CampusConnect.Step cfg s c s') :
    (∃ id old row, c.op.decidesExpense = some id ∧ s.expenses.find id = some old ∧
        DecidedBy c.actor old row ∧ row ∈ s'.expenses ∧
        ∀ e ∈ s'.expenses, e = row ∨ e ∈ s.expenses) ∨
      (c.op.decidesExpense = none ∧ ∀ e ∈ s'.expenses, e.Decided → e ∈ s.expenses) := by
  obtain ⟨a, hop, heff⟩ := h.entered
  cases hd : c.op.decidesExpense with
  | some id =>
      obtain ⟨old, row, t, entries, hfind, hrow, hrep, rfl⟩ := Op.decides hd hop
      refine .inl ⟨id, old, row, rfl, hfind, hrow, ?_, fun e he => ?_⟩
      · exact Table.mem_replace_self hrep (Table.mem_of_find hfind) hrow.id.symm
      · exact (Table.mem_replace hrep he).imp_right And.left
  | none =>
      obtain ⟨hv, hdis⟩ := Op.move_undecided hd
      exact .inr ⟨rfl, fun e he hdec => heff.decided_old hv hdis he hdec⟩

/-- A call has one outcome. -/
theorem Step.functional (s : State) (c : Call) (t u : State) (ht : CampusConnect.Step cfg s c t)
    (hu : CampusConnect.Step cfg s c u) : t = u :=
  Except.ok.inj (ht.symm.trans hu)

/-- A impartial call keeps duties separated. -/
theorem Step.separated {c : Call} (h : CampusConnect.Step cfg s c s') (hs : Separated s)
    (hc : Impartial s c) : Separated s' := by
  intro e he hdec hself
  rcases h.decides with ⟨id, old, row, hid, hfind, hrow, _, hrest⟩ | ⟨_, hrest⟩
  · rcases hrest e he with rfl | hold
    · refine hc id hid old hfind ?_
      rw [hrow.verifier, hrow.submitter] at hself
      exact (Option.some.inj hself).symm
    · exact hs e hold hdec hself
  · exact hs e (hrest e he hdec) hdec hself

/-- A call that is not impartial leaves a decided row that names its submitter as its verifier. -/
theorem Step.interested {c : Call} (h : CampusConnect.Step cfg s c s') (hc : ¬ Impartial s c) :
    ∃ e ∈ s'.expenses, e.Decided ∧ e.verifiedBy = some e.submittedBy := by
  unfold Impartial at hc
  push Not at hc
  obtain ⟨id, hid, e, he, hsub⟩ := hc
  rcases h.decides with ⟨id', old, row, hid', hfind, hrow, hmem, _⟩ | ⟨hnone, _⟩
  · rw [hid] at hid'
    cases hid'
    rw [he] at hfind
    cases hfind
    refine ⟨row, hmem, hrow.decided, ?_⟩
    rw [hrow.verifier, hrow.submitter, hsub]
  · rw [hid] at hnone
    cases hnone

/-- **Separation of duties on expenses.** Duties are separated after a run exactly when every decision
    of the run was made by another user than the submitter on record. -/
theorem expenses_separated_iff {s0 : State} {calls : List Call} (h0 : Separated s0)
    (hp : Runs.Path (CampusConnect.Step cfg) s0 calls s) :
    Separated s ↔
      Runs.Every (CampusConnect.Step cfg) (fun _ t c _ => Impartial t c) s0 calls := by
  constructor
  · intro hs
    refine hp.every_of_unmarked
      (M := fun t => ∃ e ∈ t.expenses, e.Decided ∧ e.verifiedBy = some e.submittedBy)
      Step.functional ?_ ?_ ?_
    · intro _ t c u hstep hc
      exact hstep.interested hc
    · intro t c u ⟨e, he, hdec, hself⟩ hstep
      exact ⟨e, hstep.decided_kept he hdec, hdec, hself⟩
    · intro h
      obtain ⟨e, he, hdec, hself⟩ := h
      exact hs e he hdec hself
  · intro hevery
    refine hp.preserves_every (P := Separated) ?_ hevery h0
    intro _ t c u ht hstep hc
    exact hstep.separated ht hc

end Expenses

namespace Sample

/-- The officer is a secretary of the club as well. -/
def clubOfficer (op : Op) : Call :=
  { env := { env with members := ⟨uid 13, uid 2, .secretary, true⟩ :: env.members }
    actor := officer
    op := op }

/-- An expense of 60.00 with the key 41. -/
def expenseIn : ActualExpenseCreate where
  category := .catering
  description := "food".toList
  vendorName := "vendor".toList
  vendorGstin := none
  invoiceNumber := some "second".toList
  invoiceDate := 0
  claimedAmount := 6000
  billDocumentId := uid 20
  budgetLineItemId := none

/-- The event is started, completed and certified, and the officer verifies a claim that an officer or a
    secretary has made. -/
def claimAndVerify (claimant : Op → Call) : List Call :=
  [byAdmin (.adminStartEvent []), complete, byAdvisor (.certifyReport none),
    claimant (.createDraftExpense (uid 41) expenseIn), claimant (.submitExpenses none),
    byOfficer (.verifyExpense (uid 41) none)]

end Sample

/-- The secretary claims an expense of the sample event, and the officer verifies it. -/
theorem expenses_separated_verified :
    ∃ s0 s, Created (Sample.config .sqlite) s0 ∧ (∃ e ∈ s.expenses, e.Decided) ∧
      Runs.Path (CampusConnect.Step (Sample.config .sqlite)) s0
        (Sample.claimAndVerify Sample.bySecretary) s ∧
      (Separated s ↔ Runs.Every (CampusConnect.Step (Sample.config .sqlite))
        (fun _ t c _ => Impartial t c) s0 (Sample.claimAndVerify Sample.bySecretary)) := by
  have hrun : Sample.Lives (Sample.claimAndVerify Sample.bySecretary) fun s0 s =>
      Separated s0 ∧ ∃ e ∈ s.expenses.rows, e.Decided := by
    decide
  obtain ⟨s0, s, h0, hpath, hsep, hdec⟩ := Sample.lifetime_of_lives hrun
  exact ⟨s0, s, h0, hdec, hpath, expenses_separated_iff hsep hpath⟩

/-- **An officer verifies his own claim**: he is a secretary of the club, and nothing compares him with
    the submitter. -/
theorem own_expense_verified :
    ∃ s0 s, Created (Sample.config .sqlite) s0 ∧
      Runs.Path (CampusConnect.Step (Sample.config .sqlite)) s0
        (Sample.claimAndVerify Sample.clubOfficer) s ∧
      ∃ e ∈ s.expenses, e.status = .verified ∧ e.verifiedBy = some e.submittedBy := by
  have hrun : Sample.Lives (Sample.claimAndVerify Sample.clubOfficer) fun _ s =>
      ∃ e ∈ s.expenses.rows, e.status = .verified ∧ e.verifiedBy = some e.submittedBy := by
    decide
  obtain ⟨s0, s, h0, hpath, hself⟩ := Sample.lifetime_of_lives hrun
  exact ⟨s0, s, h0, hpath, hself⟩

/-! ## 2. Certified reports -/

/-- The call submits the event's report, for the first time or again. -/
def Call.SubmitsReport (c : Call) : Bool :=
  match c.op with
  | .completeAndSubmitReport _ _ => true
  | .resubmitReport => true
  | _ => false

/-- The call certifies the event's report. -/
def Call.CertifiesReport (c : Call) : Prop := ∃ remarks, c.op = .certifyReport remarks

/-- Who submitted the report last. -/
def latestSubmitter (calls : List Call) : Option Uuid :=
  (calls.filter Call.SubmitsReport).getLast?.map fun c => c.actor.id

theorem latestSubmitter_append {calls : List Call} {c : Call} :
    latestSubmitter (calls ++ [c]) =
      if c.SubmitsReport then some c.actor.id else latestSubmitter calls := by
  unfold latestSubmitter
  rw [List.filter_append]
  by_cases hc : c.SubmitsReport = true
  · rw [List.filter_cons_of_pos hc, List.filter_nil, if_pos hc, List.getLast?_concat, Option.map_some]
  · rw [List.filter_cons_of_neg hc, List.filter_nil, if_neg hc, List.append_nil]

/-- A certification by another user than the latest submitter. -/
def CertifiedByOther (before : List Call) (c : Call) : Prop :=
  c.CertifiesReport → ∃ submitter, latestSubmitter before = some submitter ∧ submitter ≠ c.actor.id

/-- At a certification the latest submitter is the one on record, or not the club's advisor. -/
def SubmitterOnRecord (before : List Call) (s : State) (c : Call) : Prop :=
  c.CertifiesReport → ∀ submitter, latestSubmitter before = some submitter →
    (∃ r ∈ s.report, r.1.submittedBy = submitter) ∨ ¬ c.env.IsAdvisor s.event.clubId submitter

section Reports

variable {cfg : Config} {s s' : State}

/-- **A certification** is by the club's advisor, who is not the submitter on record. -/
theorem Step.certifiesReport {c : Call} {remarks : Option Text} (h : CampusConnect.Step cfg s c s')
    (hc : c.op = .certifyReport remarks) :
    ∃ r, s.report = some r ∧ r.1.submittedBy ≠ c.actor.id ∧
      ∃ club, c.env.clubs.find? (fun k => k.id = s.event.clubId) = some club ∧
        club.facultyAdvisorId = some c.actor.id := by
  obtain ⟨a, hop, _⟩ := h.entered
  rw [hc] at hop
  simp only [Op.exec, EventExecutionService.certifyReport, EventExecutionService.loadReport,
    EventExecutionService.verifyAdvisorEligibility, bind_accepts, fetch_accepts, exists_unit,
    refuse_accepts, not_not, ne_eq] at hop
  obtain ⟨_, r, hr, hsub, ⟨_, club, hclub, hadv⟩, _⟩ := hop
  exact ⟨r, hr, hsub, club, hclub, hadv⟩

/-- The advisor of a club is one. -/
theorem Env.advisor_unique {env : Env} {clubId u : Uuid} {club : Club}
    (hfind : env.clubs.find? (fun k => k.id = clubId) = some club) :
    env.IsAdvisor clubId u ↔ club.facultyAdvisorId = some u := by
  unfold Env.IsAdvisor
  rw [hfind]
  constructor
  · intro h
    obtain ⟨k, hk, hadv⟩ := h
    cases hk
    exact hadv
  · intro hadv
    exact ⟨club, rfl, hadv⟩

/-- What is not execution leaves the report. -/
theorem Effect.report_kept {m : Move} (h : Effect cfg s m s') (hm : m ≠ .execution) :
    s'.report = s.report := by
  cases h with
  | settlement m s' hstep => cases hstep <;> rfl
  | cancellation s' hstep => cases hstep <;> rfl
  | closeout m s' hstep => cases hstep <;> rfl
  | execution status report entries hstep => exact (hm rfl).elim
  | _ => rfl

/-- A report comes into being when it is submitted. -/
theorem Step.report_submitted {c : Call} (h : CampusConnect.Step cfg s c s') (hnone : s.report = none)
    (hsome : s'.report ≠ none) : c.SubmitsReport = true := by
  obtain ⟨a, hop, heff⟩ := h.entered
  by_cases hm : c.op.move = .execution
  · unfold Call.SubmitsReport
    cases hc : c.op with
    | completeAndSubmitReport newId reportIn => rfl
    | resubmitReport => rfl
    | startEvent =>
        rw [hc] at hop
        simp only [Op.exec, EventExecutionService.startEvent, bind_accepts, exists_unit,
          pure_accepts] at hop
        obtain ⟨_, _, _, _, rfl⟩ := hop
        exact (hsome hnone).elim
    | adminStartEvent reason =>
        rw [hc] at hop
        simp only [Op.exec, EventExecutionService.adminStartEvent, bind_accepts, exists_unit,
          pure_accepts] at hop
        obtain ⟨_, _, _, rfl⟩ := hop
        exact (hsome hnone).elim
    | updateReport updateIn =>
        rw [hc] at hop
        simp only [Op.exec, EventExecutionService.updateReport, EventExecutionService.loadReport,
          hnone, bind_accepts, fetch_accepts, reduceCtorEq, false_and, exists_false, and_false] at hop
    | certifyReport remarks =>
        obtain ⟨r, hr, _⟩ := h.certifiesReport hc
        rw [hnone] at hr
        cases hr
    | requestRevision remarks =>
        rw [hc] at hop
        simp only [Op.exec, EventExecutionService.requestRevision, EventExecutionService.loadReport,
          hnone, bind_accepts, fetch_accepts, reduceCtorEq, false_and, exists_false, and_false] at hop
    | _ =>
        rw [hc] at hm
        cases hm
  · exact (hsome ((heff.report_kept hm).trans hnone)).elim

/-- Where there is a report, somebody submitted it. -/
theorem submitted_before {s0 : State} {calls : List Call} (h0 : s0.report = none)
    (hp : Runs.Path (CampusConnect.Step cfg) s0 calls s) (hsome : s.report ≠ none) :
    latestSubmitter calls ≠ none := by
  refine hp.history (P := fun t taken => t.report ≠ none → latestSubmitter taken ≠ none) ?_ ?_ hsome
  · intro t taken c u ht hstep hu
    rw [latestSubmitter_append]
    by_cases hc : c.SubmitsReport = true
    · rw [if_pos hc]
      exact Option.some_ne_none _
    · rw [if_neg hc]
      refine ht fun hnone => ?_
      exact hc (hstep.report_submitted hnone hu)
  · intro hne
    exact (hne h0).elim

/-- **Who certifies a report.** In a run of an event without a report, every certification is by another
    user than the latest submitter exactly when at each of them the latest submitter is the one on record
    or not the club's advisor. -/
theorem certified_by_other_iff (cfg : Config) {s0 : State} (h0 : s0.report = none) (calls : List Call) :
    Runs.Every (CampusConnect.Step cfg) (fun before _ c _ => CertifiedByOther before c) s0 calls ↔
      Runs.Every (CampusConnect.Step cfg) (fun before t c _ => SubmitterOnRecord before t c)
        s0 calls := by
  refine Runs.Every.congr fun before t c u hbefore hstep => ?_
  constructor
  · intro hother hc submitter hlatest
    obtain ⟨remarks, hop⟩ := hc
    obtain ⟨r, hr, _, club, hclub, hadv⟩ := hstep.certifiesReport hop
    obtain ⟨submitter', hlatest', hne⟩ := hother ⟨remarks, hop⟩
    rw [hlatest] at hlatest'
    cases hlatest'
    refine .inr fun hsub => hne ?_
    rw [Env.advisor_unique hclub, hadv] at hsub
    exact (Option.some.inj hsub).symm
  · intro hrecord hc
    obtain ⟨remarks, hop⟩ := hc
    obtain ⟨r, hr, hsub, club, hclub, hadv⟩ := hstep.certifiesReport hop
    have hsome : latestSubmitter before ≠ none := by
      refine submitted_before h0 hbefore ?_
      rw [hr]
      exact Option.some_ne_none r
    obtain ⟨submitter, hlatest⟩ := Option.ne_none_iff_exists'.mp hsome
    refine ⟨submitter, hlatest, ?_⟩
    rintro rfl
    rcases hrecord ⟨remarks, hop⟩ _ hlatest with ⟨r', hr', hsame⟩ | hno
    · rw [hr] at hr'
      cases hr'
      exact hsub hsame
    · exact hno ((Env.advisor_unique hclub).mpr hadv)

end Reports

namespace Sample

/-- The advisor is a secretary of the club as well. -/
def clubAdvisor (op : Op) : Call :=
  { env := { env with members := ⟨uid 13, uid 5, .secretary, true⟩ :: env.members }
    actor := advisor
    op := op }

/-- The secretary submits the report, which is returned and submitted again. -/
def submitTwice (again : Op → Call) : List Call :=
  [byAdmin (.adminStartEvent []), complete, byAdvisor (.requestRevision []), again .resubmitReport]

/-- And the advisor certifies it. -/
def reviseAndCertify (again : Op → Call) : List Call :=
  submitTwice again ++ [clubAdvisor (.certifyReport none)]

end Sample

/-- The secretary submits the report of the sample event twice, and the advisor certifies it. -/
theorem certified_by_other_revised :
    ∃ s0 s, Created (Sample.config .sqlite) s0 ∧ ReportCertified s ∧
      Runs.Path (CampusConnect.Step (Sample.config .sqlite)) s0
        (Sample.reviseAndCertify Sample.bySecretary) s ∧
      (Runs.Every (CampusConnect.Step (Sample.config .sqlite))
          (fun before _ c _ => CertifiedByOther before c) s0
          (Sample.reviseAndCertify Sample.bySecretary) ↔
        Runs.Every (CampusConnect.Step (Sample.config .sqlite))
          (fun before t c _ => SubmitterOnRecord before t c) s0
          (Sample.reviseAndCertify Sample.bySecretary)) := by
  have hrun : Sample.Lives (Sample.reviseAndCertify Sample.bySecretary) fun s0 s =>
      s0.report = none ∧ ReportCertified s := by
    decide
  obtain ⟨s0, s, h0, hpath, hnone, hcert⟩ := Sample.lifetime_of_lives hrun
  exact ⟨s0, s, h0, hcert, hpath, certified_by_other_iff (Sample.config .sqlite) hnone _⟩

/-- **The advisor certifies what he submitted**: as a secretary of the club he has submitted the report
    again, and the record still names the first submitter. -/
theorem own_report_certified :
    ∃ s0 s, Created (Sample.config .sqlite) s0 ∧
      Runs.Path (CampusConnect.Step (Sample.config .sqlite)) s0
        (Sample.reviseAndCertify Sample.clubAdvisor) s ∧
      ¬ Runs.Every (CampusConnect.Step (Sample.config .sqlite))
        (fun before _ c _ => CertifiedByOther before c) s0
        (Sample.reviseAndCertify Sample.clubAdvisor) := by
  have hrun : Sample.Lives (Sample.reviseAndCertify Sample.clubAdvisor) fun _ s =>
      ReportCertified s := by
    decide
  obtain ⟨s0, s, h0, hpath, _⟩ := Sample.lifetime_of_lives hrun
  refine ⟨s0, s, h0, hpath, fun hevery => ?_⟩
  unfold Sample.reviseAndCertify at hpath
  obtain ⟨t, hbefore, hlast⟩ := hpath.split
  cases hlast with
  | @cons _ u _ _ _ hstep _ =>
      obtain ⟨submitter, hlatest, hne⟩ := hevery _ _ [] t u rfl hbefore hstep ⟨none, rfl⟩
      have hself : submitter = Sample.advisor.id := by
        have hsame : some submitter = some Sample.advisor.id := hlatest.symm.trans (by decide)
        exact Option.some.inj hsame
      exact hne hself

end CampusConnect
