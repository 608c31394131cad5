/-
  File:      CampusConnect/Guarantees/Stages.lean
  Subject:   The stages of an event, from its creation to its archive.

  * `Created`: an event as the last approval of its proposal leaves it;
  * `EventStatus.Moves`: where a status may move;
  * `Staged`: what each stage says about the report, the expenses and the settlement;
  * `stage_order`: every call is a move, keeps a certified report, and keeps the stages;
  * `Call.Starts`, `Call.CompletesUnstarted`: the two ways to a completed event, and `executed_first`: a
    completed event was started in time, or by an administrator, or it was never started.
-/
import CampusConnect.Review

namespace CampusConnect

open Guarded Rows EventService WorkflowService
open SettlementService (ReportCertified)

/-! ## 1. A new event -/

/-- The rows of an event that has just been created. Its key is new, so no audit row carries it. -/
inductive Created (cfg : Config) : State → Prop where
  | approved (d : Dossier) (r : Request) (s : State) (hstep : Dossier.Step cfg d r (.confirmed s))
      (hnone : d.event = none) (hfresh : ∀ l ∈ d.auditLogs, l.entityId ≠ s.event.id.str) :
      Created cfg s

/-- An approval that creates an event creates it from the rows of the proposal. -/
theorem approvedEvent_some {env : ReviewEnv} {actor : User} {newId : Uuid} {p : Proposal}
    {step : WorkflowInstanceStep} {e : Event}
    (h : (approvedEvent env actor newId none p step).1 = some e) :
    (approvedEvent env actor newId none p step).2 =
        (createConfirmedEvent env.toEnv actor newId none p).2 ∧
      e = (createConfirmedEvent env.toEnv actor newId none p).1 := by
  unfold approvedEvent at h ⊢
  cases hnext : nextStep p step with
  | some next =>
      rw [hnext] at h
      cases h
  | none =>
      rw [hnext] at h
      exact ⟨rfl, (Option.some.inj h).symm⟩

/-- **A creation**: the rows of the proposal, a SCHEDULED event, and two new audit entries. -/
theorem Created.opened {cfg : Config} {s : State} (h : Created cfg s) :
    ∃ env actor newId p q logs entry, s = Dossier.opened q
        (createConfirmedEvent env actor newId none p).1
        (logs ++ ((createConfirmedEvent env actor newId none p).2 ++ [entry]).map AuditEntry.row) ∧
      entry.entityType = "workflow_step" ∧ ∀ l ∈ logs, l.entityId ≠ s.event.id.str := by
  obtain ⟨d, r, s, hstep, hnone, hfresh⟩ := h
  cases d with
  | confirmed t => cases hnone
  | proposed p logs =>
      cases r with
      | event c =>
          simp only [Dossier.Step, Dossier.exec, bind_accepts, pure_accepts] at hstep
          obtain ⟨_, _, hproposed⟩ := hstep
          cases hproposed
      | review env actor op =>
          simp only [Dossier.Step, Dossier.exec, bind_accepts, pure_accepts] at hstep
          obtain ⟨f, hf, q, hq, hflushed⟩ := hstep
          obtain ⟨_, hev⟩ := ReviewOp.step hf hq
          cases he : f.event with
          | none =>
              rw [he] at hflushed
              cases hflushed
          | some e =>
              cases op with
              | approveStep stepId comments newBookingId newEventId =>
                  simp only [ReviewOp.flush, approveStep, bind_accepts, refuse_accepts, exists_unit,
                    pure_accepts] at hf
                  obtain ⟨⟨step, inst⟩, _, _, _, rfl⟩ := hf
                  have hone : (approvedEvent env actor newEventId none p step).1 = some e := he
                  obtain ⟨hentries, rfl⟩ := approvedEvent_some hone
                  simp only [Dossier.flushed, Dossier.proposal_proposed, Dossier.event_proposed,
                    hone, hentries] at hflushed
                  cases hflushed
                  exact ⟨env.toEnv, actor, newEventId, p, q, logs, _, rfl, rfl, hfresh⟩
              | _ =>
                  rw [hev] at he
                  cases he

/-! ## 2. Moves and stages -/

/-- Where a status may move. -/
inductive EventStatus.Moves : EventStatus → EventStatus → Prop where
  | started : Moves .scheduled .inProgress
  | completedUnstarted : Moves .scheduled .completed
  | cancelled : Moves .scheduled .cancelled
  | completed : Moves .inProgress .completed
  | interrupted : Moves .inProgress .cancelled
  | closureRequested : Moves .completed .closureRequested
  | closureRejected : Moves .closureRequested .completed
  | closed : Moves .closureRequested .closed
  | reopened : Moves .closed .completed
  | archived : Moves .closed .archived

/-- The four statuses from COMPLETED on. -/
def EventStatus.Executed (status : EventStatus) : Prop :=
  status = .completed ∨ status = .closureRequested ∨ status = .closed ∨ status = .archived

instance (status : EventStatus) : Decidable status.Executed :=
  inferInstanceAs (Decidable (_ ∨ _ ∨ _ ∨ _))

/-- **What the stage of an event says** about its report, its expenses and its settlement. -/
structure Staged (s : State) : Prop where
  report : s.report ≠ none ↔ s.event.status.Executed
  expenses : ∀ e ∈ s.expenses, s.event.status.Executed
  decided : ∀ e ∈ s.expenses, e.Decided → ReportCertified s
  settlement : s.settlement ≠ none → ReportCertified s

theorem Created.staged {cfg : Config} {s : State} (h : Created cfg s) :
    s.event.status = .scheduled ∧ Staged s := by
  obtain ⟨env, actor, newId, p, q, logs, entry, rfl, _, _⟩ := h.opened
  refine ⟨rfl, ?_⟩
  constructor
  · constructor
    · intro hr
      exact (hr rfl).elim
    · intro hor
      rcases hor with h | h | h | h <;> cases h
  · intro e he
    cases he
  · intro e he
    cases he
  · intro hr
    exact (hr rfl).elim

/-- The status stays, or moves. -/
def EventStatus.Follows (new old : EventStatus) : Prop := new = old ∨ old.Moves new

section Moves

variable {cfg : Config} {s s' : State} {m : Move}

/-- **Every effect moves the event as the stages are ordered.** -/
theorem Effect.follows (h : Effect cfg s m s') : s'.event.status.Follows s.event.status := by
  cases h with
  | settlement m s' hstep => cases hstep <;> exact .inl rfl
  | execution status report entries hstep =>
      cases hstep with
      | started hfrom =>
          show EventStatus.Follows .inProgress s.event.status
          rw [hfrom]
          exact .inr .started
      | completed row hfrom hnone hst =>
          show EventStatus.Follows .completed s.event.status
          rcases hfrom with hfrom | hfrom <;> rw [hfrom]
          · exact .inr .completed
          · exact .inr .completedUnstarted
      | revised report row hmut hrep hfrom hid => exact .inl rfl
  | cancellation s' hstep =>
      cases hstep with
      | proposal entries hfrom => exact .inl rfl
      | event event advance entries hfrom hid hreq hver hst hpend hadv =>
          show EventStatus.Follows event.status s.event.status
          rw [hst]
          rcases hfrom with hfrom | hfrom <;> rw [hfrom]
          · exact .inr .cancelled
          · exact .inr .interrupted
  | closeout m s' hstep =>
      cases hstep with
      | requestedAgain hfrom => exact .inl rfl
      | archivedAgain hfrom => exact .inl rfl
      | requested entries hfrom hready =>
          show EventStatus.Follows .closureRequested s.event.status
          rw [hfrom]
          exact .inr .closureRequested
      | certified r report closure entries hfrom hready hr hrep hset hrid =>
          show EventStatus.Follows .closed s.event.status
          rw [hfrom]
          exact .inr .closed
      | rejected entries hfrom =>
          show EventStatus.Follows .completed s.event.status
          rw [hfrom]
          exact .inr .closureRejected
      | petitioned entries hfrom => exact .inl rfl
      | reopened r row revision newId reason actor entries hfrom hnum hr hset hfig hst =>
          show EventStatus.Follows .completed s.event.status
          rw [hfrom]
          exact .inr .reopened
      | archived entries hfrom =>
          show EventStatus.Follows .archived s.event.status
          rw [hfrom]
          exact .inr .archived
  | _ => exact .inl rfl

/-- **What an effect does to the report**: it comes with the completion, and a certified one stays. -/
theorem Effect.report (h : Effect cfg s m s') :
    (s'.report = s.report ∧ (s'.event.status.Executed → s.event.status.Executed)) ∨
      (s.report = none ∧ s'.report ≠ none ∧ s'.event.status = .completed) ∨
      (s.report ≠ none ∧ s'.report ≠ none ∧ ¬ ReportCertified s ∧
        s'.event.status = s.event.status) := by
  cases h with
  | settlement m s' hstep => cases hstep <;> exact .inl ⟨rfl, id⟩
  | execution status report entries hstep =>
      cases hstep with
      | started hfrom =>
          refine .inl ⟨rfl, ?_⟩
          intro hor
          rcases hor with h | h | h | h <;> cases h
      | completed row hfrom hnone hst =>
          refine .inr (.inl ⟨hnone, ?_, rfl⟩)
          intro hn
          cases hn
      | revised report row hmut hrep hfrom hid =>
          refine .inr (.inr ⟨?_, ?_, ?_, rfl⟩)
          · rw [hrep]
            intro hn
            cases hn
          · intro hn
            cases hn
          · intro hex
            obtain ⟨r, hr, hcert⟩ := hex
            rw [hrep] at hr
            cases hr
            exact hfrom hcert
  | cancellation s' hstep =>
      cases hstep with
      | proposal entries hfrom => exact .inl ⟨rfl, id⟩
      | event event advance entries hfrom hid hreq hver hst hpend hadv =>
          refine .inl ⟨rfl, fun he => ?_⟩
          have hcan : event.status.Executed := he
          rw [hst] at hcan
          rcases hcan with h | h | h | h <;> cases h
  | closeout m s' hstep =>
      cases hstep with
      | requestedAgain hfrom => exact .inl ⟨rfl, id⟩
      | archivedAgain hfrom => exact .inl ⟨rfl, id⟩
      | requested entries hfrom hready => exact .inl ⟨rfl, fun _ => .inl hfrom⟩
      | certified r report closure entries hfrom hready hr hrep hset hrid =>
          exact .inl ⟨rfl, fun _ => .inr (.inl hfrom)⟩
      | rejected entries hfrom => exact .inl ⟨rfl, fun _ => .inr (.inl hfrom)⟩
      | petitioned entries hfrom => exact .inl ⟨rfl, id⟩
      | reopened r row revision newId reason actor entries hfrom hnum hr hset hfig hst =>
          exact .inl ⟨rfl, fun _ => .inr (.inr (.inl hfrom))⟩
      | archived entries hfrom => exact .inl ⟨rfl, fun _ => .inr (.inr (.inl hfrom))⟩
  | _ => exact .inl ⟨rfl, id⟩

theorem Effect.certified (h : Effect cfg s m s') (hc : ReportCertified s) : ReportCertified s' := by
  rcases h.report with ⟨hsame, _⟩ | ⟨hnone, _, _⟩ | ⟨_, _, hn, _⟩
  · unfold ReportCertified
    rw [hsame]
    exact hc
  · obtain ⟨r, hr, _⟩ := hc
    rw [hnone] at hr
    cases hr
  · exact (hn hc).elim

theorem EventStatus.Follows.executed {new old : EventStatus} (h : new.Follows old)
    (he : old.Executed) : new.Executed := by
  rcases h with rfl | hm
  · exact he
  · cases hm with
    | started => rcases he with h | h | h | h <;> cases h
    | completedUnstarted => exact .inl rfl
    | cancelled => rcases he with h | h | h | h <;> cases h
    | completed => exact .inl rfl
    | interrupted => rcases he with h | h | h | h <;> cases h
    | closureRequested => exact .inr (.inl rfl)
    | closureRejected => exact .inl rfl
    | closed => exact .inr (.inr (.inl rfl))
    | reopened => exact .inl rfl
    | archived => exact .inr (.inr (.inr rfl))

/-- **What an expense step leaves**: claims of an executed event, decided under a certified report. -/
theorem ExpenseStep.staged {m : ExpenseMove} {t : Table ActualExpense} (h : ExpenseStep s m t)
    (hs : Staged s) (hcert : m = .verified ∨ m = .disallowed → ReportCertified s) :
    ∀ e ∈ t, s.event.status.Executed ∧ (e.Decided → ReportCertified s) := by
  have hopen : ∀ e : ActualExpense, ExpenseService.Editable e → ¬ e.Decided := by
    rintro e (h | h) (hd | hd | hd) <;> rw [h] at hd <;> cases hd
  intro e he
  cases h with
  | created row t hcomp hst hins =>
      refine ⟨.inl hcomp, fun hd => ?_⟩
      rcases (Table.mem_insert hins).mp he with hold | rfl
      · exact hs.decided e hold hd
      · exact (hopen e (.inl hst) hd).elim
  | updated old row t hmut hfind hfrom hid hst hrep =>
      refine ⟨hs.expenses old (Table.mem_of_find hfind), fun hd => ?_⟩
      rcases Table.mem_replace hrep he with rfl | ⟨hold, _⟩
      · refine (hopen e ?_ hd).elim
        unfold ExpenseService.Editable
        rw [hst]
        exact hfrom
      · exact hs.decided e hold hd
  | deleted old hmut hfind hfrom =>
      have hold := (Table.mem_erase.mp he).1
      exact ⟨hs.expenses e hold, hs.decided e hold⟩
  | submitted now u ids hcomp =>
      refine ⟨.inl hcomp, fun hd => ?_⟩
      obtain ⟨old, hold, rfl⟩ := Table.mem_modify.mp he
      unfold ExpenseService.submitRow at hd
      by_cases hsel : ExpenseService.Selected ids old
      · rw [if_pos hsel] at hd
        rcases hd with hd | hd | hd <;> cases hd
      · rw [if_neg hsel] at hd
        exact hs.decided old hold hd
  | decided m old row t hmut hfind hfrom hid hclaim hdec hrep =>
      refine ⟨hs.expenses old (Table.mem_of_find hfind), fun hd => ?_⟩
      rcases Table.mem_replace hrep he with rfl | ⟨hold, _⟩
      · cases hdec with
        | verified row hst hamt => exact hcert (.inl rfl)
        | partiallyVerified row v hst hamt hpos hlt => exact hcert (.inl rfl)
        | queried row hst hamt => exact (hopen e (.inr hst) hd).elim
        | disallowed row hst hamt => exact hcert (.inr rfl)
      · exact hs.decided e hold hd

/-- Finance decides under a certified report. -/
theorem Op.decision_certified {env : Env} {actor : User} {op : Op}
    (h : op.exec cfg env actor s = .ok s')
    (hm : op.move = .expense .verified ∨ op.move = .expense .disallowed) : ReportCertified s := by
  have hload : ∀ verb id e, ExpenseService.loadSubmitted verb actor id s = .ok e →
      ReportCertified s := fun verb id e hok => (ExpenseService.loadSubmitted_accepts.mp hok).2.2.1
  cases op with
  | verifyExpense id remarks =>
      simp only [Op.exec, ExpenseService.verifyExpense, bind_accepts] at h
      obtain ⟨old, hok, _⟩ := h
      exact hload _ _ old hok
  | partialVerifyExpense id amount remarks =>
      simp only [Op.exec, ExpenseService.partialVerifyExpense, bind_accepts] at h
      obtain ⟨old, hok, _⟩ := h
      exact hload _ _ old hok
  | disallowExpense id remarks =>
      simp only [Op.exec, ExpenseService.disallowExpense, bind_accepts] at h
      obtain ⟨old, hok, _⟩ := h
      exact hload _ _ old hok
  | _ => rcases hm with hm | hm <;> cases hm

theorem Effect.settled (h : Effect cfg s m s') (hs : s.settlement ≠ none → ReportCertified s)
    (hset : s'.settlement ≠ none) : ReportCertified s := by
  have hfound : ∀ r, s.settlement = some r → ReportCertified s := by
    intro r hr
    refine hs ?_
    rw [hr]
    intro hn
    cases hn
  cases h with
  | settlement m s' hstep =>
      cases hstep with
      | prepared actor newId sanction row entries hcomp hcert hprev hsan hres hrow => exact hcert
      | submitted r row prepared sanction entries hr => exact hfound r hr
      | queried r row prepared sanction entries hr => exact hfound r hr
      | approved r row prepared sanction entries hr => exact hfound r hr
      | paid r row p entries hr => exact hfound r hr
      | reopened r row newId reason actor entries hr => exact hfound r hr
  | cancellation s' hstep => cases hstep <;> exact hs hset
  | closeout m s' hstep =>
      cases hstep with
      | reopened r row revision newId reason actor entries hfrom hnum hr => exact hfound r hr
      | _ => exact hs hset
  | _ => exact hs hset

/-- **The step lemma.** -/
theorem Effect.staged (h : Effect cfg s m s') (hs : Staged s)
    (hcert : m = .expense .verified ∨ m = .expense .disallowed → ReportCertified s) : Staged s' := by
  have hmoved := h.follows
  constructor
  · rcases h.report with ⟨hsame, hback⟩ | ⟨_, hsome, hcomp⟩ | ⟨hsome, hnew, _, hsame⟩
    · rw [hsame, hs.report]
      exact ⟨hmoved.executed, hback⟩
    · exact ⟨fun _ => .inl hcomp, fun _ => hsome⟩
    · rw [hsame]
      exact ⟨fun _ => hs.report.mp hsome, fun _ => hnew⟩
  · intro e he
    refine hmoved.executed ?_
    cases h with
    | expense m t entries hstep =>
        exact (hstep.staged hs (fun hm => hcert (hm.imp (congrArg _) (congrArg _))) e he).1
    | settlement m s' hstep => cases hstep <;> exact hs.expenses e he
    | cancellation s' hstep => cases hstep <;> exact hs.expenses e he
    | closeout m s' hstep => cases hstep <;> exact hs.expenses e he
    | _ => exact hs.expenses e he
  · intro e he hd
    refine h.certified ?_
    cases h with
    | expense m t entries hstep =>
        exact (hstep.staged hs (fun hm => hcert (hm.imp (congrArg _) (congrArg _))) e he).2 hd
    | settlement m s' hstep => cases hstep <;> exact hs.decided e he hd
    | cancellation s' hstep => cases hstep <;> exact hs.decided e he hd
    | closeout m s' hstep => cases hstep <;> exact hs.decided e he hd
    | _ => exact hs.decided e he hd
  · exact fun hset => h.certified (h.settled hs.settlement hset)

/-- **One accepted call.** -/
theorem Step.staged {c : Call} (hs : Staged s) (h : CampusConnect.Step cfg s c s') :
    s'.event.status.Follows s.event.status ∧ (ReportCertified s → ReportCertified s') ∧
      Staged s' := by
  obtain ⟨a, hop, heff⟩ := h.entered
  have hentered : Staged { s with attached := a } := ⟨hs.report, hs.expenses, hs.decided, hs.settlement⟩
  exact ⟨heff.follows, heff.certified, heff.staged hentered (Op.decision_certified hop)⟩

end Moves

/-! ## 3. The law of the stages -/

/-- The states of an event's life. -/
def Lifetime (cfg : Config) : State → Prop := Runs.Reach (Created cfg) (CampusConnect.Step cfg)

theorem Lifetime.staged {cfg : Config} {s : State} (h : Lifetime cfg s) : Staged s :=
  Runs.Reach.invariant (P := Staged) (fun _ h0 => h0.staged.2)
    (fun _ _ _ hs hstep => (Step.staged hs hstep).2.2) h

/-- An event outside the four stages has no report, no expense and no settlement. -/
theorem Staged.empty {s : State} (h : Staged s) (hn : ¬ s.event.status.Executed) :
    s.report = none ∧ s.expenses.rows = [] ∧ s.settlement = none := by
  have hreport : s.report = none := by
    by_contra hr
    exact hn (h.report.mp hr)
  refine ⟨hreport, ?_, ?_⟩
  · rw [List.eq_nil_iff_forall_not_mem]
    intro e he
    exact hn (h.expenses e he)
  · by_contra hset
    obtain ⟨r, hr, _⟩ := h.settlement hset
    rw [hreport] at hr
    cases hr

/-- **Stage order.** An event is created SCHEDULED, and every accepted call moves it as the stages are
    ordered, or leaves its status, and keeps a certified report certified. In every state of its life the
    report, the expenses and the settlement are those of its stage; a cancelled event has none. -/
theorem stage_order (cfg : Config) :
    (∀ s, Created cfg s → s.event.status = .scheduled) ∧
      ∀ s, Lifetime cfg s → Staged s ∧
        (s.event.status = .cancelled →
          s.report = none ∧ s.expenses.rows = [] ∧ s.settlement = none) ∧
        ∀ c s', CampusConnect.Step cfg s c s' → s'.event.status.Follows s.event.status ∧
          (ReportCertified s → ReportCertified s') := by
  refine ⟨fun s h => h.staged.1, fun s h => ⟨h.staged, fun hcan => ?_, fun c s' hstep => ?_⟩⟩
  · refine h.staged.empty ?_
    rw [hcan]
    intro hor
    rcases hor with h | h | h | h <;> cases h
  · obtain ⟨hmoved, hcert, _⟩ := Step.staged h.staged hstep
    exact ⟨hmoved, hcert⟩

namespace Sample

/-- The sample proposal, one approval before its event. -/
def awaitingSanction : List Request := plan ++ submit staff secretary 1 :: (approveAll 1).dropLast

/-- The last approval. -/
def sanction : Request := approve principal 1 6

/-- The calls on the sample event that is created by the last approval end in a state of the kind. -/
def Lives (calls : List Call) (P : State → State → Prop) : Prop :=
  Runs.Ends (after awaitingSanction) fun d => d.event = none ∧
    Runs.Ends (Dossier.exec (config .sqlite) sanction d) fun d' => ∃ s0 ∈ d'.state,
      (∀ l ∈ d.auditLogs, l.entityId ≠ s0.event.id.str) ∧
        Runs.Ends (Runs.run (Call.exec (config .sqlite)) calls s0) (P s0)

instance (calls : List Call) (P : State → State → Prop) [∀ s s', Decidable (P s s')] :
    Decidable (Lives calls P) :=
  inferInstanceAs (Decidable (Runs.Ends _ _))

theorem lifetime_of_lives {calls : List Call} {P : State → State → Prop} (h : Lives calls P) :
    ∃ s0 s, Created (config .sqlite) s0 ∧
      Runs.Path (CampusConnect.Step (config .sqlite)) s0 calls s ∧ P s0 s := by
  obtain ⟨d, _, hnone, d', hd', s0, hs0, hfresh, s, hrun, hP⟩ := h
  cases d' with
  | proposed p logs => cases hs0
  | confirmed t =>
      cases hs0
      exact ⟨s0, s, .approved d sanction s0 hd' hnone hfresh, Runs.path_of_run hrun, hP⟩

def byAdmin (op : Op) : Call := { env := env, actor := admin, op := op }

def byAdvisor (op : Op) : Call := { env := env, actor := advisor, op := op }

/-- The secretary completes the event. -/
def complete : Call :=
  bySecretary (.completeAndSubmitReport (uid 70)
    { actualAttendance := 1
      summary := []
      objectivesAchieved := []
      outcomes := none
      challenges := none })

/-- The event is started, completed and certified, and claims an expense. -/
def deliver : List Call :=
  byAdmin (.adminStartEvent []) :: complete :: byAdvisor (.certifyReport none) :: claim

end Sample

/-- The sample event has been delivered: its report is certified, and an expense is claimed. -/
theorem stage_order_delivered :
    ∃ s, Lifetime (Sample.config .sqlite) s ∧ s.event.status = .completed ∧
      s.expenses.rows ≠ [] ∧ ReportCertified s ∧ Staged s := by
  have hrun : Sample.Lives Sample.deliver fun _ s =>
      s.event.status = .completed ∧ s.expenses.rows ≠ [] ∧ ReportCertified s := by
    decide
  obtain ⟨s0, s, h0, hpath, hcomp, hexp, hcert⟩ := Sample.lifetime_of_lives hrun
  have hlife : Lifetime (Sample.config .sqlite) s := Runs.Reach.path (.start h0) hpath
  exact ⟨s, hlife, hcomp, hexp, hcert, ((stage_order (Sample.config .sqlite)).2 s hlife).1⟩

/-! ## 4. Execution before completion -/

/-- The call starts the event: an administrator's at any time, a secretary's from two hours before the
    start time on. -/
def Call.Starts (s : State) (c : Call) (s' : State) : Prop :=
  s.event.status = .scheduled ∧ s'.event.status = .inProgress ∧
    ((∃ reason, c.op = .adminStartEvent reason) ∨
      (c.op = .startEvent ∧
        s.event.startTime - EventExecutionService.startWindow ≤ c.env.now))

/-- The call completes an event that was never started. No clock is looked at. -/
def Call.CompletesUnstarted (s : State) (c : Call) (s' : State) : Prop :=
  s.event.status = .scheduled ∧ s'.event.status = .completed ∧
    ∃ newId reportIn, c.op = .completeAndSubmitReport newId reportIn

/-- What is not execution leaves a scheduled event, or cancels it. -/
theorem Effect.from_scheduled {cfg : Config} {s s' : State} {m : Move} (h : Effect cfg s m s')
    (hs : s.event.status = .scheduled) :
    s'.event.status = .scheduled ∨ s'.event.status = .cancelled ∨ m = .execution := by
  have hno : ∀ status, s.event.status = status → status ≠ .scheduled →
      s'.event.status = .scheduled ∨ s'.event.status = .cancelled ∨ m = .execution := by
    intro status hfrom hne
    exact (hne (hfrom.symm.trans hs)).elim
  cases h with
  | settlement m s' hstep => cases hstep <;> exact .inl hs
  | execution status report entries hstep => exact .inr (.inr rfl)
  | cancellation s' hstep =>
      cases hstep with
      | proposal entries hfrom => exact .inl hs
      | event event advance entries hfrom hid hreq hver hst hpend hadv => exact .inr (.inl hst)
  | closeout m s' hstep =>
      cases hstep with
      | requestedAgain hfrom => exact hno _ hfrom (by decide)
      | archivedAgain hfrom => exact hno _ hfrom (by decide)
      | requested entries hfrom hready => exact hno _ hfrom (by decide)
      | certified r report closure entries hfrom => exact hno _ hfrom (by decide)
      | rejected entries hfrom => exact hno _ hfrom (by decide)
      | petitioned entries hfrom => exact hno _ hfrom (by decide)
      | reopened r row revision newId reason actor entries hfrom => exact hno _ hfrom (by decide)
      | archived entries hfrom => exact hno _ hfrom (by decide)
  | _ => exact .inl hs

/-- A call on a scheduled event leaves it, cancels it, starts it or completes it. -/
theorem Step.from_scheduled {cfg : Config} {s s' : State} {c : Call}
    (h : CampusConnect.Step cfg s c s') (hs : s.event.status = .scheduled) :
    s'.event.status = .scheduled ∨ s'.event.status = .cancelled ∨ c.Starts s s' ∨
      c.CompletesUnstarted s s' := by
  obtain ⟨a, hop, heff⟩ := h.entered
  rcases heff.from_scheduled hs with hsame | hcan | hmove
  · exact .inl hsame
  · exact .inr (.inl hcan)
  · cases hc : c.op with
    | startEvent =>
        rw [hc] at hop
        simp only [Op.exec, EventExecutionService.startEvent, bind_accepts, exists_unit, pure_accepts,
          refuse_accepts, not_lt] at hop
        obtain ⟨_, _, _, htime, rfl⟩ := hop
        exact .inr (.inr (.inl ⟨hs, rfl, .inr ⟨hc, htime⟩⟩))
    | adminStartEvent reason =>
        rw [hc] at hop
        simp only [Op.exec, EventExecutionService.adminStartEvent, bind_accepts, exists_unit,
          pure_accepts] at hop
        obtain ⟨_, _, _, rfl⟩ := hop
        exact .inr (.inr (.inl ⟨hs, rfl, .inl ⟨reason, hc⟩⟩))
    | completeAndSubmitReport newId reportIn =>
        rw [hc] at hop
        simp only [Op.exec, EventExecutionService.completeAndSubmitReport, bind_accepts, exists_unit,
          pure_accepts, fetch_accepts] at hop
        obtain ⟨_, _, _, _, _, row, _, rfl⟩ := hop
        exact .inr (.inr (.inr ⟨hs, rfl, newId, reportIn, hc⟩))
    | updateReport updateIn =>
        rw [hc] at hop
        simp only [Op.exec, EventExecutionService.updateReport, bind_accepts, exists_unit,
          pure_accepts] at hop
        obtain ⟨_, _, _, _, _, _, _, rfl⟩ := hop
        exact .inl hs
    | resubmitReport =>
        rw [hc] at hop
        simp only [Op.exec, EventExecutionService.resubmitReport, bind_accepts, exists_unit,
          pure_accepts] at hop
        obtain ⟨_, _, _, _, _, _, _, rfl⟩ := hop
        exact .inl hs
    | certifyReport remarks =>
        rw [hc] at hop
        simp only [Op.exec, EventExecutionService.certifyReport, bind_accepts, exists_unit,
          pure_accepts] at hop
        obtain ⟨_, _, _, _, _, _, _, _, _, rfl⟩ := hop
        exact .inl hs
    | requestRevision remarks =>
        rw [hc] at hop
        simp only [Op.exec, EventExecutionService.requestRevision, bind_accepts, exists_unit,
          pure_accepts] at hop
        obtain ⟨_, _, _, _, _, _, _, _, rfl⟩ := hop
        exact .inl hs
    | _ =>
        rw [hc] at hmove
        cases hmove

/-- The event has left SCHEDULED, and not by a cancellation. -/
def EventStatus.Underway (status : EventStatus) : Prop := status = .inProgress ∨ status.Executed

theorem EventStatus.not_underway {status : EventStatus} (h : ¬ status.Underway) :
    status = .scheduled ∨ status = .cancelled := by
  unfold Underway Executed at h
  cases hst : status <;> simp_all

/-- **A completed event was executed first**, or it was never started. Some step of its life started it,
    as an administrator's override or not before its window; or some step completed it from SCHEDULED. -/
theorem executed_first (cfg : Config) {s0 s : State} {calls : List Call} (h0 : Created cfg s0)
    (h : Runs.Path (CampusConnect.Step cfg) s0 calls s) (hcomp : s.event.status = .completed) :
    Runs.Passed (CampusConnect.Step cfg)
      (fun t c u => c.Starts t u ∨ c.CompletesUnstarted t u) s0 calls s := by
  refine Runs.Path.passed (P := fun t => t.event.status.Underway) ?_ h ?_ (.inr (.inl hcomp))
  · intro t c u hstep hu
    by_cases ht : t.event.status.Underway
    · exact .inl ht
    · rcases EventStatus.not_underway ht with hsched | hcan
      · rcases hstep.from_scheduled hsched with hst | hst | hdone | hdone
        · rw [hst] at hu
          rcases hu with hu | hu | hu | hu | hu <;> cases hu
        · rw [hst] at hu
          rcases hu with hu | hu | hu | hu | hu <;> cases hu
        · exact .inr (.inl hdone)
        · exact .inr (.inr hdone)
      · have hstuck : u.event.status = .cancelled := by
          obtain ⟨a, _, heff⟩ := hstep.entered
          rcases heff.follows with hsame | hmoved
          · exact hsame.trans hcan
          · rw [show ({ t with attached := a } : State).event.status = .cancelled from hcan] at hmoved
            cases hmoved
        rw [hstuck] at hu
        rcases hu with hu | hu | hu | hu | hu <;> cases hu
  · rw [h0.staged.1]
    intro hor
    rcases hor with h | h | h | h | h <;> cases h

/-- The clock of a run does not go back. -/
def Chronological (calls : List Call) : Prop := calls.Pairwise fun c d => c.env.now ≤ d.env.now

/-- The sample event is started, completed and certified. -/
theorem executed_first_delivered :
    ∃ s0 s, Created (Sample.config .sqlite) s0 ∧ s.event.status = .completed ∧
      Runs.Passed (CampusConnect.Step (Sample.config .sqlite))
        (fun t c u => c.Starts t u ∨ c.CompletesUnstarted t u) s0 Sample.deliver s := by
  have hrun : Sample.Lives Sample.deliver fun _ s => s.event.status = .completed := by
    decide
  obtain ⟨s0, s, h0, hpath, hcomp⟩ := Sample.lifetime_of_lives hrun
  exact ⟨s0, s, h0, hcomp, executed_first (Sample.config .sqlite) h0 hpath hcomp⟩

/-- **Completed, and never started**: the secretary reports on an event that is still SCHEDULED. -/
theorem completed_unstarted :
    ∃ s0 calls s, Created (Sample.config .sqlite) s0 ∧ Chronological calls ∧
      Runs.Path (CampusConnect.Step (Sample.config .sqlite)) s0 calls s ∧
      s.event.status = .completed ∧
      ¬ Runs.Passed (CampusConnect.Step (Sample.config .sqlite)) (fun t c u => c.Starts t u)
        s0 calls s := by
  have hrun : Sample.Lives [Sample.complete] fun _ s => s.event.status = .completed := by
    decide
  obtain ⟨s0, s, h0, hpath, hcomp⟩ := Sample.lifetime_of_lives hrun
  refine ⟨s0, [Sample.complete], s, h0, List.pairwise_singleton _ _, hpath, hcomp, ?_⟩
  intro h
  obtain ⟨before, c, after, t, u, hcalls, _, _, ⟨_, _, hstart⟩, _⟩ := h
  have hc : c = Sample.complete := by
    have hmem : c ∈ [Sample.complete] := by
      rw [hcalls]
      exact List.mem_append_right _ List.mem_cons_self
    exact List.mem_singleton.mp hmem
  rw [hc] at hstart
  rcases hstart with ⟨reason, hop⟩ | ⟨hop, _⟩ <;> cases hop

end CampusConnect
