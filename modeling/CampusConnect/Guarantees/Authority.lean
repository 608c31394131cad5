/-
  File:      CampusConnect/Guarantees/Authority.lean
  Subject:   Who decides: the statutory steps and the conflict of interest, over whole runs.

  * `Request.decision`, `SameDuty`, `Traced.steps_of`: where the step rows of a state come from, and
    which of them a request decides;
  * `Follows`: a fixed set of users with their roles;
  * `statutory_steps_signed`: when every role is held at each submission, steps 2 and above are decided
    by their offices, `statutory_bypassed`: without, an administrator decides one;
  * `no_submitter_decides`: when nobody submits for the creator who can act on a step of what he
    submits, no submitter decides, `submitter_decides`: without, one does.
-/
import CampusConnect.Guarantees.Standing

namespace CampusConnect

open Guarded Rows EventService WorkflowService

/-! ## 1. Decisions of a run -/

/-- Who decides which step. -/
def Request.decision : Request → Option (User × Uuid)
  | .review _ actor op => op.decides.map fun stepId => (actor, stepId)
  | .event _ => none

/-- `APPROVED`, `REJECTED` or `REVISION_REQUESTED`. -/
def WorkflowStepStatus.Decided (status : WorkflowStepStatus) : Prop :=
  status = .approved ∨ status = .rejected ∨ status = .revisionRequested

/-- Two rows of one step: whose it is and what it asks for. -/
structure SameDuty (old st : WorkflowInstanceStep) : Prop where
  id : st.id = old.id
  own : st.instanceId = old.instanceId
  order : st.stepOrder = old.stepOrder
  role : st.requiredRole = old.requiredRole
  assignee : st.assignedTo = old.assignedTo
  reviewed : st.versionReviewed = old.versionReviewed

theorem SameDuty.refl (st : WorkflowInstanceStep) : SameDuty st st :=
  ⟨rfl, rfl, rfl, rfl, rfl, rfl⟩

theorem SameDuty.canAct {old st : WorkflowInstanceStep} (h : SameDuty old st) (actor : User) :
    CanAct actor st ↔ CanAct actor old := by
  unfold CanAct
  rw [h.order, h.role, h.assignee]

theorem sameDuty_skipPending (i : Uuid) (st : WorkflowInstanceStep) :
    SameDuty st (skipPending i st) := by
  unfold skipPending
  by_cases h : st.instanceId = i ∧ st.status = .pending
  · rw [if_pos h]
    exact ⟨rfl, rfl, rfl, rfl, rfl, rfl⟩
  · rw [if_neg h]
    exact .refl st

theorem decided_skipPending {i : Uuid} {st : WorkflowInstanceStep}
    (h : (skipPending i st).status.Decided) : st.status.Decided := by
  unfold skipPending at h
  by_cases hs : st.instanceId = i ∧ st.status = .pending
  · rw [if_pos hs] at h
    rcases h with he | he | he <;> cases he
  · rw [if_neg hs] at h
    exact h

/-- The request is a submission, and the step is one of those it starts. -/
def Request.Starts (r : Request) (p q : Proposal) (st : WorkflowInstanceStep) : Prop :=
  ∃ env actor summary key keys, r = .review env actor (.submitProposal summary key keys) ∧
    Submitted env actor summary key keys p q ∧
    st ∈ instanceSteps env p.request.clubId actor keys.inst keys.step (p.request.currentVersion + 1)

/-- **Where a step row comes from**: it was there, and if decided then before or now, or a submission
    starts it. -/
inductive Origin (p q : Proposal) (r : Request) (st : WorkflowInstanceStep) : Prop where
  | kept (old : WorkflowInstanceStep) (hm : old ∈ p.steps) (h : SameDuty old st)
      (hd : st.status.Decided → old.status.Decided ∨ ∃ actor, r.decision = some (actor, st.id))
  | started (h : r.Starts p q st) (hnew : ∀ old ∈ p.steps, old.id ≠ st.id)

section Origins

variable {env : ReviewEnv} {actor : User} {p q : Proposal} {op : ReviewOp} {cfg : Config}
variable {d d' : Dossier} {r : Request} {st : WorkflowInstanceStep}

/-- A row that did not change. -/
theorem Origin.same (h : st ∈ p.steps) : Origin p q r st := .kept st h (.refl st) .inl

/-- One row is decided. -/
theorem Origin.decided {step : WorkflowInstanceStep} {inst : WorkflowInstance} {stepId : Uuid}
    {status : WorkflowStepStatus} {comments : Option Text} {t : Table WorkflowInstanceStep}
    (h : Standing p) (hd : StepDecision actor stepId p step inst)
    (hr : r.decision = some (actor, stepId))
    (ht : p.steps.replace (decideStep env status comments step inst step) = some t)
    (hst : st ∈ t) : Origin p q r st := by
  rcases Table.mem_replace ht hst with rfl | ⟨hm, _⟩
  · have hsame : SameStep step (decideStep env status comments step inst step) :=
      (h.deciding hd).sameStep h status comments
    refine .kept step (Table.mem_of_find hd.stepFound)
      ⟨rfl, rfl, rfl, rfl, rfl, hsame.reviewed⟩ fun _ => .inr ?_
    rw [← hd.step_id] at hr
    exact ⟨actor, hr⟩
  · exact .same hm

theorem ReviewStep.origin (h : Standing p) (hs : ReviewStep env actor p op q)
    (hst : st ∈ q.steps) : Origin p q (.review env actor op) st := by
  cases hs with
  | submitted summary key keys _ hsub =>
      rcases (Table.mem_insertAll hsub.steps).mp hst with hm | hm
      · exact .same hm
      · refine .started ⟨env, actor, summary, key, keys, rfl, hsub, hm⟩ fun old hold he => ?_
        obtain ⟨t, ht, hins⟩ := hsub.instances
        have hnew : ∀ j ∈ t, j.id ≠ keys.inst := fun j hj he =>
          (Table.insert_eq_some.mp hins).1.2 (List.mem_map.mpr ⟨j, hj, he⟩)
        have hsame : old = st :=
          Table.eq_of_key_eq ((Table.mem_insertAll hsub.steps).mpr (.inl hold)) hst he
        rw [hsame] at hold
        exact h.apart (h.retired hsub.editable ht) hnew st hold (mem_instanceSteps hm).1
  | approved stepId comments newBookingId newEventId step inst _ hd happ =>
      exact .decided h hd rfl happ.steps hst
  | rejected stepId comments step inst _ hd hrej => exact .decided h hd rfl hrej.steps hst
  | revised stepId comments step inst t hd ht => exact .decided h hd rfl ht hst
  | _ => exact .same hst

/-- No step row is lost. -/
theorem ReviewStep.steps_stay (hs : ReviewStep env actor p op q) (hst : st ∈ p.steps) :
    ∃ st' ∈ q.steps, st'.id = st.id := by
  have hrep : ∀ {u : WorkflowInstanceStep} {t : Table WorkflowInstanceStep},
      p.steps.replace u = some t → ∃ st' ∈ t, st'.id = st.id := by
    intro u t ht
    by_cases he : st.id = u.id
    · exact ⟨u, Table.mem_replace_self ht hst he, he.symm⟩
    · exact ⟨st, Table.mem_replace_of_ne ht hst he, rfl⟩
  cases hs with
  | submitted summary key keys _ hsub =>
      exact ⟨st, (Table.mem_insertAll hsub.steps).mpr (.inl hst), rfl⟩
  | approved stepId comments newBookingId newEventId step inst _ hd happ => exact hrep happ.steps
  | rejected stepId comments step inst _ hd hrej => exact hrep hrej.steps
  | revised stepId comments step inst t hd ht => exact hrep ht
  | _ => exact ⟨st, hst, rfl⟩

theorem withdrawn_origin (hst : st ∈ (withdrawn p).steps) : Origin p q r st := by
  cases hprior : priorInstance p with
  | none =>
      rw [(withdrawn_idle hprior).2] at hst
      exact .same hst
  | some i =>
      obtain ⟨old, hold, rfl⟩ := (withdrawn_open hprior).2.mp hst
      exact .kept old hold (sameDuty_skipPending i.id old) fun hd => .inl (decided_skipPending hd)

theorem withdrawn_steps_stay (hst : st ∈ p.steps) : ∃ st' ∈ (withdrawn p).steps, st'.id = st.id := by
  cases hprior : priorInstance p with
  | none =>
      rw [(withdrawn_idle hprior).2]
      exact ⟨st, hst, rfl⟩
  | some i =>
      exact ⟨_, (withdrawn_open hprior).2.mpr ⟨st, hst, rfl⟩, (sameDuty_skipPending i.id st).id⟩

theorem Traced.origin (hin : InStanding d) (hs : Traced cfg d r d')
    (hst : st ∈ d'.proposal.steps) : Origin d.proposal d'.proposal r st := by
  cases hs with
  | review env actor op d q entries hstep =>
      rw [Dossier.proposal_flushed] at hst ⊢
      exact hstep.origin hin.rows hst
  | withdrawn c p logs entries hcan => exact withdrawn_origin hst
  | event c s s' hstep =>
      obtain ⟨booking, hrows⟩ := hin.event_rows hstep
      rw [Dossier.proposal_confirmed, hrows] at hst
      exact .same hst

theorem Traced.steps_stay (hin : InStanding d) (hs : Traced cfg d r d')
    (hst : st ∈ d.proposal.steps) : ∃ st' ∈ d'.proposal.steps, st'.id = st.id := by
  cases hs with
  | review env actor op d q entries hstep =>
      rw [Dossier.proposal_flushed]
      exact hstep.steps_stay hst
  | withdrawn c p logs entries hcan => exact withdrawn_steps_stay hst
  | event c s s' hstep =>
      obtain ⟨booking, hrows⟩ := hin.event_rows hstep
      rw [Dossier.proposal_confirmed, hrows]
      exact ⟨st, hst, rfl⟩

/-- A decision passes the guards. -/
theorem Traced.decides {stepId : Uuid} (hs : Traced cfg d r d')
    (hr : r.decision = some (actor, stepId)) :
    ∃ step inst, StepDecision actor stepId d.proposal step inst := by
  cases hs with
  | review env actor op d q entries hstep =>
      cases hstep with
      | approved stepId comments newBookingId newEventId step inst _ hd happ =>
          cases hr
          exact ⟨step, inst, hd⟩
      | rejected stepId comments step inst _ hd hrej =>
          cases hr
          exact ⟨step, inst, hd⟩
      | revised stepId comments step inst t hd ht =>
          cases hr
          exact ⟨step, inst, hd⟩
      | _ => cases hr
  | withdrawn c p logs entries hcan => cases hr
  | event c s s' hstep => cases hr

/-- The creator stays. -/
theorem Traced.submittedBy (hin : InStanding d) (hs : Traced cfg d r d') :
    d'.proposal.request.submittedBy = d.proposal.request.submittedBy := by
  cases hs with
  | review env actor op d q entries hstep =>
      rw [Dossier.proposal_flushed]
      cases hstep with
      | submitted summary key keys _ hsub => rw [hsub.request]; rfl
      | approved stepId comments newBookingId newEventId step inst _ hd happ => rw [happ.request]
      | rejected stepId comments step inst _ hd hrej => rw [hrej.request]
      | _ => rfl
  | withdrawn c p logs entries hcan =>
      rw [Dossier.proposal_proposed, (withdrawn_rows p).2.2.2]
      rfl
  | event c s s' hstep =>
      obtain ⟨booking, hrows⟩ := hin.event_rows hstep
      rw [Dossier.proposal_confirmed, hrows]
      rfl

/-- The decisions of a run are about steps there are, and every one of them meets `R`. -/
structure Answered (R : WorkflowInstanceStep → User → Prop) (p : Proposal) (taken : List Request) :
    Prop where
  known : ∀ r ∈ taken, ∀ actor stepId, r.decision = some (actor, stepId) →
    ∃ st ∈ p.steps, st.id = stepId
  decided : ∀ st ∈ p.steps, st.status.Decided →
    ∃ r ∈ taken, ∃ actor, r.decision = some (actor, st.id)
  meets : ∀ st ∈ p.steps, ∀ r ∈ taken, ∀ actor, r.decision = some (actor, st.id) → R st actor

/-- A request adds its own decision: it has to meet `R`, and `R` has to follow the rows. -/
theorem Answered.step {R R' : WorkflowInstanceStep → User → Prop} {taken : List Request}
    (hin : InStanding d) (h : Answered R d.proposal taken) (hs : Traced cfg d r d')
    (hkeep : ∀ old ∈ d.proposal.steps, ∀ st, SameDuty old st → ∀ actor, R old actor → R' st actor)
    (hnow : ∀ actor step inst, StepDecision actor step.id d.proposal step inst →
      r.decision = some (actor, step.id) → R step actor) :
    Answered R' d'.proposal (taken ++ [r]) := by
  have hknown : ∀ r' ∈ taken ++ [r], ∀ actor stepId, r'.decision = some (actor, stepId) →
      ∃ st ∈ d.proposal.steps, st.id = stepId := by
    intro r' hr' actor stepId hdec
    rcases List.mem_append.mp hr' with hr' | hr'
    · exact h.known r' hr' actor stepId hdec
    · obtain rfl := List.mem_singleton.mp hr'
      obtain ⟨step, inst, hd⟩ := hs.decides hdec
      exact ⟨step, Table.mem_of_find hd.stepFound, hd.step_id⟩
  refine ⟨?_, ?_, ?_⟩
  · intro r' hr' actor stepId hdec
    obtain ⟨st, hst, hid⟩ := hknown r' hr' actor stepId hdec
    obtain ⟨st', hst', hid'⟩ := hs.steps_stay hin hst
    exact ⟨st', hst', hid'.trans hid⟩
  · intro st hst hdec
    cases hs.origin hin hst with
    | kept old hm hsame hwhen =>
        rcases hwhen hdec with hold | ⟨actor, hr⟩
        · obtain ⟨r', hr', actor, hr⟩ := h.decided old hm hold
          rw [← hsame.id] at hr
          exact ⟨r', List.mem_append_left _ hr', actor, hr⟩
        · exact ⟨r, List.mem_append_right _ (List.mem_singleton.mpr rfl), actor, hr⟩
    | started hstart _ =>
        obtain ⟨_, _, _, _, _, _, _, hm⟩ := hstart
        rcases hdec with he | he | he <;> rw [(mem_instanceSteps hm).2.1] at he <;> cases he
  · intro st hst r' hr' actor hdec
    cases hs.origin hin hst with
    | kept old hm hsame _ =>
        rw [hsame.id] at hdec
        refine hkeep old hm st hsame actor ?_
        rcases List.mem_append.mp hr' with hr' | hr'
        · exact h.meets old hm r' hr' actor hdec
        · obtain rfl := List.mem_singleton.mp hr'
          obtain ⟨step, inst, hd⟩ := hs.decides hdec
          obtain rfl : step = old :=
            Table.eq_of_key_eq (Table.mem_of_find hd.stepFound) hm hd.step_id
          exact hnow actor step inst hd hdec
    | started hstart hnew =>
        -- a step just started was there for no decision
        obtain ⟨old, hm, hid⟩ := hknown r' hr' actor st.id hdec
        exact (hnew old hm hid).elim

theorem Drafted.answered {R : WorkflowInstanceStep → User → Prop} (h : Drafted d) :
    Answered R d.proposal [] := by
  refine ⟨?_, ?_, ?_⟩
  · intro r hr
    cases hr
  · intro st hst
    rw [h.steps] at hst
    cases hst
  · intro st _ r hr
    cases hr

end Origins

/-- What a submission request carries. -/
structure Submission where
  env : ReviewEnv
  actor : User
  key : Option Text
  keys : SubmissionKeys

def Request.submission : Request → Option Submission
  | .review env actor (.submitProposal _ key keys) => some ⟨env, actor, key, keys⟩
  | _ => none

/-- The request comes from a user of the directory and meets its active users. -/
def Request.Follows (roleOf : Uuid → UserRole) : Request → Prop
  | .review env actor _ => actor.role = roleOf actor.id ∧ ∀ u ∈ env.users, u.role = roleOf u.id
  | .event _ => True

instance (roleOf : Uuid → UserRole) : (r : Request) → Decidable (r.Follows roleOf)
  | .review _ _ _ => inferInstanceAs (Decidable (_ ∧ ∀ u ∈ _, _))
  | .event _ => isTrue trivial

/-! ## 2. Statutory steps -/

/-- A submission meets the default template. -/
def Request.OnStandard (r : Request) : Prop := ∀ t ∈ r.template, t = standardSteps

/-- A submission that starts steps finds an active user of the role of each step from the second on. -/
def Request.Staffed (d : Dossier) (r : Request) : Prop :=
  ∀ s ∈ r.submission, AlreadySubmitted s.key d.proposal.request ∨
    ∀ t ∈ ensureDefaultTemplate s.env, 2 ≤ t.stepOrder → ∃ u ∈ s.env.users, u.role = t.requiredRole

instance (r : Request) : Decidable r.OnStandard :=
  inferInstanceAs (Decidable (∀ t ∈ r.template, t = standardSteps))

instance (d : Dossier) (r : Request) : Decidable (r.Staffed d) :=
  inferInstanceAs (Decidable (∀ s ∈ r.submission, _ ∨ ∀ t ∈ ensureDefaultTemplate s.env, _ → _))

theorem standardSteps_offices : ∀ t ∈ standardSteps, 2 ≤ t.stepOrder →
    t.assignedUserId = none ∧ t.requiredRole ≠ .facultyAdvisor ∧ t.requiredRole ≠ .systemAdmin := by
  decide

/-- The step of a staffed office goes to one of its holders. -/
theorem resolveAssignee_staffed {env : ReviewEnv} {t : WorkflowTemplateStep} (clubId : Uuid)
    (actor : User) (hnone : t.assignedUserId = none)
    (hrole : t.requiredRole ≠ .facultyAdvisor) (h : ∃ u ∈ env.users, u.role = t.requiredRole) :
    ∃ u ∈ env.users, u.role = t.requiredRole ∧ resolveAssignee env clubId actor t = u.id := by
  obtain ⟨u, hu, hur⟩ := h
  have hsome : (env.users.find? (fun u => u.role = t.requiredRole)).isSome = true :=
    List.find?_isSome.mpr ⟨u, hu, by rw [decide_eq_true_eq]; exact hur⟩
  obtain ⟨v, hv⟩ := Option.isSome_iff_exists.mp hsome
  have hvr := List.find?_some hv
  rw [decide_eq_true_eq] at hvr
  refine ⟨v, List.mem_of_find?_eq_some hv, hvr, ?_⟩
  unfold resolveAssignee roleUser
  rw [hnone, hv]
  show (if t.requiredRole = .facultyAdvisor then _ else _) = v.id
  rw [if_neg hrole]
  rfl

/-- The statutory steps are assigned to their offices. -/
def Chartered (roleOf : Uuid → UserRole) (p : Proposal) : Prop :=
  ∀ st ∈ p.steps, 2 ≤ st.stepOrder →
    roleOf st.assignedTo = st.requiredRole ∧ st.requiredRole ≠ .systemAdmin

/-- The actor holds the role of a statutory step. -/
def HoldsOffice (st : WorkflowInstanceStep) (actor : User) : Prop :=
  2 ≤ st.stepOrder → actor.role = st.requiredRole

section Statutory

variable {cfg : Config} {roleOf : Uuid → UserRole} {d d' : Dossier} {r : Request}
variable {taken : List Request}

/-- The steps of a staffed submission on the default template are assigned to their offices. -/
theorem Request.Starts.duty {st : WorkflowInstanceStep} (h : r.Starts d.proposal d'.proposal st)
    (hf : r.Follows roleOf) (hstd : r.OnStandard) (hstaff : r.Staffed d) (h2 : 2 ≤ st.stepOrder) :
    roleOf st.assignedTo = st.requiredRole ∧ st.requiredRole ≠ .systemAdmin := by
  obtain ⟨env, actor, summary, key, keys, rfl, hsub, hm⟩ := h
  have htemplate : ensureDefaultTemplate env = standardSteps := hstd _ rfl
  obtain ⟨t, ht, rfl⟩ := List.mem_map.mp hm
  have htm : t ∈ ensureDefaultTemplate env := (List.perm_insertionSort _ _).mem_iff.mp ht
  have htmem : t ∈ standardSteps := htemplate ▸ htm
  obtain ⟨hnone, hadv, hadm⟩ := standardSteps_offices t htmem h2
  have hholder : ∃ u ∈ env.users, u.role = t.requiredRole := by
    rcases hstaff _ rfl with hdone | hall
    · have hst := hdone.2.2
      rcases hsub.editable with he | he <;> rw [hst] at he <;> cases he
    · exact hall t htm h2
  obtain ⟨u, hu, hur, has⟩ :=
    resolveAssignee_staffed d.proposal.request.clubId actor hnone hadv hholder
  refine ⟨?_, hadm⟩
  show roleOf (resolveAssignee env d.proposal.request.clubId actor t) = t.requiredRole
  rw [has, ← hf.2 u hu, hur]

/-- An accepted decision on a statutory step is its office's. -/
theorem office_decides {p : Proposal} {actor : User} {stepId : Uuid} {step : WorkflowInstanceStep}
    {inst : WorkflowInstance} (h : Chartered roleOf p)
    (hd : StepDecision actor stepId p step inst) (hrole : actor.role = roleOf actor.id) :
    HoldsOffice step actor := by
  intro h2
  have hcan := hd.canAct
  unfold CanAct at hcan
  rw [if_neg (by omega)] at hcan
  rcases hcan with has | hmatch
  · rw [hrole, ← has]
    exact (h step (Table.mem_of_find hd.stepFound) h2).1
  · exact hmatch.symm

/-- Decisions are made by users of the directory. -/
theorem Request.Follows.role {actor : User} {stepId : Uuid} (h : r.Follows roleOf)
    (hr : r.decision = some (actor, stepId)) : actor.role = roleOf actor.id := by
  cases r with
  | event c => cases hr
  | review env actor' op =>
      obtain ⟨id, _, heq⟩ := Option.map_eq_some_iff.mp hr
      cases heq
      exact h.1

theorem Chartered.step (hin : InStanding d) (h : Chartered roleOf d.proposal)
    (hs : Traced cfg d r d') (hf : r.Follows roleOf) (hstd : r.OnStandard) (hstaff : r.Staffed d) :
    Chartered roleOf d'.proposal := by
  intro st hst h2
  cases hs.origin hin hst with
  | kept old hm hsame _ =>
      rw [hsame.assignee, hsame.role]
      exact h old hm (hsame.order ▸ h2)
  | started hstart _ => exact hstart.duty hf hstd hstaff h2

/-- The requests of a run on the default template, by the users of the directory. -/
def Request.OnDefault (roleOf : Uuid → UserRole) (r : Request) : Prop :=
  r.Follows roleOf ∧ r.OnStandard

instance (roleOf : Uuid → UserRole) (r : Request) : Decidable (r.OnDefault roleOf) :=
  inferInstanceAs (Decidable (_ ∧ _))

/-- **Statutory steps are signed by their offices.** In every run on the default template whose
    submissions find every office from the second step on staffed, every step of order 2 or more that
    is decided was decided by the run, by a holder of its role and no administrator. -/
theorem statutory_steps_signed (cfg : Config) (roleOf : Uuid → UserRole) {d0 d : Dossier}
    {requests : List Request} (h0 : Drafted d0)
    (hp : Runs.Path (Runs.restrict (Dossier.Step cfg) fun d r => r.OnDefault roleOf ∧ r.Staffed d)
      d0 requests d) :
    ∀ st ∈ d.proposal.steps, 2 ≤ st.stepOrder →
      (st.status.Decided → ∃ r ∈ requests, ∃ actor, r.decision = some (actor, st.id)) ∧
      ∀ r ∈ requests, ∀ actor, r.decision = some (actor, st.id) →
        actor.role = st.requiredRole ∧ actor.role ≠ .systemAdmin := by
  have hrun := Runs.Path.history
    (P := fun e taken => InStanding e ∧ Chartered roleOf e.proposal ∧
      Answered HoldsOffice e.proposal taken) ?_ hp ⟨h0.inStanding, ?_, h0.answered⟩
  · obtain ⟨_, hduty, hans⟩ := hrun
    intro st hst h2
    refine ⟨hans.decided st hst, fun r hr actor hdec => ?_⟩
    have hrole := hans.meets st hst r hr actor hdec h2
    refine ⟨hrole, ?_⟩
    rw [hrole]
    exact (hduty st hst h2).2
  · rintro e taken r e' ⟨hin, hduty, hans⟩ ⟨hs, ⟨hf, hstd⟩, hstaff⟩
    refine ⟨hin.step hs.traced, hduty.step hin hs.traced hf hstd hstaff,
      hans.step hin hs.traced ?_ ?_⟩
    · intro old _ st hsame actor hold h2
      rw [hsame.role]
      exact hold (hsame.order ▸ h2)
    · intro actor step inst hd hdec
      exact office_decides hduty hd (hf.role hdec)
  · intro st hst
    rw [h0.steps] at hst
    cases hst

/-- The sample proposal, approved by its six offices. -/
theorem statutory_steps_signed_approved :
    ∃ d0 requests d, Drafted d0 ∧ Runs.Path (Dossier.Step (Sample.config .sqlite)) d0 requests d ∧
      ∃ st ∈ d.proposal.steps, st.stepOrder = 6 ∧ st.status = .approved ∧
        st.requiredRole = .principal ∧
        ∃ r ∈ requests, ∃ actor, r.decision = some (actor, st.id) ∧ actor.role = .principal := by
  have hrun : Runs.Ends (Sample.afterOnly (fun d r => r.OnDefault Sample.roleOf ∧ r.Staffed d)
      (Sample.plan ++ [Sample.submit Sample.staff Sample.secretary 1] ++ Sample.approveAll 1))
      fun d => ∃ st ∈ d.proposal.steps.rows, st.stepOrder = 6 ∧ st.status = .approved ∧
        st.requiredRole = .principal := by
    decide
  obtain ⟨d, hok, st, hst, horder, hstatus, hrole⟩ := hrun
  obtain ⟨d0, h0, hpath⟩ := Sample.path_of_afterOnly hok
  have hlaw := statutory_steps_signed (Sample.config .sqlite) Sample.roleOf h0 hpath st hst (by omega)
  obtain ⟨r, hr, actor, hdec⟩ := hlaw.1 (.inl hstatus)
  exact ⟨d0, _, d, h0, Runs.Path.of_restrict hpath, st, hst, horder, hstatus, hrole, r, hr, actor,
    hdec, (hlaw.2 r hr actor hdec).1.trans hrole⟩

/-- Nobody is hall in-charge: the second step goes to the administrator, who approves it. -/
theorem statutory_bypassed :
    ∃ d0 requests d, Drafted d0 ∧
      Runs.Path (Runs.restrict (Dossier.Step (Sample.config .sqlite)) fun _ r =>
        r.OnDefault Sample.roleOf) d0 requests d ∧
      ∃ st ∈ d.proposal.steps, st.stepOrder = 2 ∧ st.status = .approved ∧
        st.requiredRole = .hallIncharge ∧
        ∃ r ∈ requests, ∃ actor, r.decision = some (actor, st.id) ∧ actor.role = .systemAdmin := by
  let last := Sample.approveBy Sample.understaffed Sample.admin 1 2
  let requests := Sample.plan ++ [Sample.submit Sample.understaffed Sample.secretary 1,
    Sample.approveBy Sample.understaffed Sample.advisor 1 1, last]
  have hrun : Runs.Ends (Sample.afterOnly (fun _ r => r.OnDefault Sample.roleOf) requests)
      fun d => ∃ st ∈ d.proposal.steps.rows, st.stepOrder = 2 ∧ st.status = .approved ∧
        st.requiredRole = .hallIncharge ∧ st.id = Sample.uid 312 := by
    decide
  obtain ⟨d, hok, st, hst, horder, hstatus, hrole, hid⟩ := hrun
  obtain ⟨d0, h0, hpath⟩ := Sample.path_of_afterOnly hok
  refine ⟨d0, requests, d, h0, hpath, st, hst, horder, hstatus, hrole, last, ?_, Sample.admin, ?_, rfl⟩
  · exact List.mem_append_right _
      (List.mem_cons_of_mem _ (List.mem_cons_of_mem _ (List.mem_singleton.mpr rfl)))
  · rw [hid]
    rfl

end Statutory

/-! ## 3. Conflict of interest -/

/-- A submission that starts steps is the creator's, or of a user who can act on none of them. -/
def Request.Impartial (d : Dossier) (r : Request) : Prop :=
  ∀ s ∈ r.submission, AlreadySubmitted s.key d.proposal.request ∨
    s.actor.id = d.proposal.request.submittedBy ∨
    ∀ st ∈ instanceSteps s.env d.proposal.request.clubId s.actor s.keys.inst s.keys.step
      (d.proposal.request.currentVersion + 1), ¬ CanAct s.actor st

instance (d : Dossier) (r : Request) : Decidable (r.Impartial d) :=
  inferInstanceAs (Decidable (∀ s ∈ r.submission, _ ∨ _ ∨
    ∀ st ∈ instanceSteps s.env _ s.actor s.keys.inst s.keys.step _, ¬ CanAct s.actor st))

/-- Who submitted a version is the creator, or can act on no step that reviews it. -/
def Disinterested (roleOf : Uuid → UserRole) (p : Proposal) : Prop :=
  ∀ st ∈ p.steps, ∀ v ∈ p.versions, st.versionReviewed = some v.versionNumber →
    v.submittedBy = p.request.submittedBy ∨
      ∀ actor : User, actor.id = v.submittedBy → actor.role = roleOf actor.id → ¬ CanAct actor st

/-- The actor did not submit the version that the step reviews. -/
def OthersVersion (p : Proposal) (st : WorkflowInstanceStep) (actor : User) : Prop :=
  ∀ v ∈ p.versions, st.versionReviewed = some v.versionNumber → actor.id ≠ v.submittedBy

section Interest

variable {cfg : Config} {roleOf : Uuid → UserRole} {p : Proposal} {d d' : Dossier} {r : Request}

/-- A step reviews a version there is. -/
theorem Standing.reviewed_le (h : Standing p) {st : WorkflowInstanceStep} (hst : st ∈ p.steps)
    {n : Nat} (hn : st.versionReviewed = some n) : n ≤ p.request.currentVersion := by
  obtain ⟨i, hi, hid⟩ := h.belongs st hst
  have hrev := h.reviewed st hst i hi hid
  rw [hn] at hrev
  rw [Option.some.inj hrev]
  exact (h.instance_bounds hi).2

/-- A decision is not the submitter's. -/
theorem Disinterested.decides {stepId : Uuid} {actor : User} {step : WorkflowInstanceStep}
    {inst : WorkflowInstance} (h : Disinterested roleOf p)
    (hd : StepDecision actor stepId p step inst) (hrole : actor.role = roleOf actor.id) :
    OthersVersion p step actor := by
  intro v hv hn he
  rcases h step (Table.mem_of_find hd.stepFound) v hv hn with hcreator | hno
  · exact hd.other (hcreator.symm.trans he.symm)
  · exact hno actor he hrole hd.canAct

/-- The same user has the same powers. -/
theorem canAct_congr {actor other : User} {st : WorkflowInstanceStep} (hid : actor.id = other.id)
    (hrole : actor.role = other.role) : CanAct actor st ↔ CanAct other st := by
  unfold CanAct
  rw [hid, hrole]

theorem Disinterested.step (hin : InStanding d) (h : Disinterested roleOf d.proposal)
    (hs : Traced cfg d r d') (hf : r.Follows roleOf) (himp : r.Impartial d) :
    Disinterested roleOf d'.proposal := by
  intro st hst v hv hn
  rw [hs.submittedBy hin]
  cases hs.origin hin hst with
  | kept old hm hsame _ =>
      rw [hsame.reviewed] at hn
      rcases hs.version_origin hin hv with hv | ⟨_, _, _, _, _, _, _, rfl⟩
      · refine (h old hm v hv hn).imp_right fun hno actor hid hrole hcan => ?_
        exact hno actor hid hrole ((hsame.canAct actor).mp hcan)
      · -- an old step reviews no new version
        have hle := hin.rows.reviewed_le hm hn
        exact (Nat.not_succ_le_self _ hle).elim
  | started hstart _ =>
      obtain ⟨env, actor, summary, key, keys, rfl, hsub, hm⟩ := hstart
      rw [(mem_instanceSteps hm).2.2] at hn
      rcases hs.version_origin hin hv with hv | ⟨_, _, _, _, _, heq, _, rfl⟩
      · have hle := hin.rows.version_bounds hv
        rw [← Option.some.inj hn] at hle
        exact (Nat.not_succ_le_self _ hle).elim
      · cases heq
        rcases himp _ rfl with hdone | hcreator | hno
        · have hstatus := hdone.2.2
          rcases hsub.editable with he | he <;> rw [hstatus] at he <;> cases he
        · exact .inl hcreator
        · refine .inr fun actor' hid hrole hcan => hno st hm ?_
          refine (canAct_congr hid ?_).mp hcan
          rw [hrole, hid]
          exact hf.1.symm

/-- **No submitter decides.** In every run by fixed users whose submissions are the creator's, or of
    users who can act on no step they start, whoever decided a step of a version's instance did not
    submit that version. -/
theorem no_submitter_decides (cfg : Config) (roleOf : Uuid → UserRole) {d0 d : Dossier}
    {requests : List Request} (h0 : Drafted d0)
    (hp : Runs.Path (Runs.restrict (Dossier.Step cfg) fun d r => r.Follows roleOf ∧ r.Impartial d)
      d0 requests d) :
    ∀ v ∈ d.proposal.versions, ∀ i ∈ d.proposal.instances, i.versionNumber = v.versionNumber →
      ∀ st ∈ d.proposal.steps, st.instanceId = i.id →
        ∀ r ∈ requests, ∀ actor, r.decision = some (actor, st.id) → actor.id ≠ v.submittedBy := by
  have hrun := Runs.Path.history
    (P := fun e taken => InStanding e ∧ Disinterested roleOf e.proposal ∧
      Answered (OthersVersion e.proposal) e.proposal taken) ?_ hp ⟨h0.inStanding, ?_, h0.answered⟩
  · obtain ⟨hin, _, hans⟩ := hrun
    intro v hv i hi hnum st hst hown r hr actor hdec
    refine hans.meets st hst r hr actor hdec v hv ?_
    rw [hin.rows.reviewed st hst i hi hown.symm, hnum]
  · rintro e taken r e' ⟨hin, hdis, hans⟩ ⟨hs, hf, himp⟩
    refine ⟨hin.step hs.traced, hdis.step hin hs.traced hf himp, hans.step hin hs.traced ?_ ?_⟩
    · intro old hm st hsame actor hold v hv hn
      rw [hsame.reviewed] at hn
      rcases hs.traced.version_origin hin hv with hv | ⟨_, _, _, _, _, _, _, rfl⟩
      · exact hold v hv hn
      · have hle := hin.rows.reviewed_le hm hn
        exact (Nat.not_succ_le_self _ hle).elim
    · intro actor step inst hd hdec
      exact hdis.decides hd (hf.role hdec)
  · intro st hst
    rw [h0.steps] at hst
    cases hst

/-- The sample proposal, submitted by its creator and approved. -/
theorem no_submitter_decides_approved :
    ∃ d0 requests d, Drafted d0 ∧ Runs.Path (Dossier.Step (Sample.config .sqlite)) d0 requests d ∧
      d.proposal.request.status = .approved ∧
      ∀ v ∈ d.proposal.versions, ∀ i ∈ d.proposal.instances, i.versionNumber = v.versionNumber →
        ∀ st ∈ d.proposal.steps, st.instanceId = i.id →
          ∀ r ∈ requests, ∀ actor, r.decision = some (actor, st.id) → actor.id ≠ v.submittedBy := by
  have hrun : Runs.Ends (Sample.afterOnly (fun d r => r.Follows Sample.roleOf ∧ r.Impartial d)
      (Sample.plan ++ [Sample.submit Sample.staff Sample.secretary 1] ++ Sample.approveAll 1))
      fun d => d.proposal.request.status = .approved := by
    decide
  obtain ⟨d, hok, happ⟩ := hrun
  obtain ⟨d0, h0, hpath⟩ := Sample.path_of_afterOnly hok
  exact ⟨d0, _, d, h0, Runs.Path.of_restrict hpath, happ,
    no_submitter_decides (Sample.config .sqlite) Sample.roleOf h0 hpath⟩

/-- The administrator submits for the creator, and approves the first step. -/
theorem submitter_decides :
    ∃ d0 requests d, Drafted d0 ∧
      Runs.Path (Runs.restrict (Dossier.Step (Sample.config .sqlite)) fun _ r =>
        r.Follows Sample.roleOf) d0 requests d ∧
      ∃ v ∈ d.proposal.versions, ∃ i ∈ d.proposal.instances, i.versionNumber = v.versionNumber ∧
        ∃ st ∈ d.proposal.steps, st.instanceId = i.id ∧ st.status = .approved ∧
          ∃ r ∈ requests, ∃ actor, r.decision = some (actor, st.id) ∧ actor.id = v.submittedBy := by
  let last := Sample.approve Sample.admin 1 1
  let requests := Sample.plan ++ [Sample.submit Sample.staff Sample.admin 1, last]
  have hrun : Runs.Ends (Sample.afterOnly (fun _ r => r.Follows Sample.roleOf) requests)
      fun d => ∃ v ∈ d.proposal.versions, ∃ i ∈ d.proposal.instances.rows,
        i.versionNumber = v.versionNumber ∧ ∃ st ∈ d.proposal.steps.rows, st.instanceId = i.id ∧
          st.status = .approved ∧ st.id = Sample.uid 311 ∧ v.submittedBy = Sample.uid 4 := by
    decide
  obtain ⟨d, hok, v, hv, i, hi, hnum, st, hst, hown, happ, hid, hby⟩ := hrun
  obtain ⟨d0, h0, hpath⟩ := Sample.path_of_afterOnly hok
  refine ⟨d0, requests, d, h0, hpath, v, hv, i, hi, hnum, st, hst, hown, happ, last, ?_,
    Sample.admin, ?_, hby.symm⟩
  · exact List.mem_append_right _ (List.mem_cons_of_mem _ (List.mem_singleton.mpr rfl))
  · rw [hid]
    rfl

end Interest

end CampusConnect
