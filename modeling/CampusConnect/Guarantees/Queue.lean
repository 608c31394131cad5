/-
  File:      CampusConnect/Guarantees/Queue.lean
  Subject:   THE PENDING QUEUE lists exactly what its reader can decide, and the dashboard counts it.

  * `approveGuards`: the guards of `approve_step`;
  * `Reviewable`: what every run on the default template keeps of a proposal, it is not deleted, an
    administrator or a secretary has created it, and the advisor's role is that of the first step;
  * `awaits_iff_guards`: the queue and the guards write one policy, on such proposals;
  * `pending_queue_exact`: the queue against the guards, and the dashboard against the queue.
-/
import CampusConnect.Guarantees.Authority
import CampusConnect.Guarantees.Bills
import CampusConnect.Guarantees.Idempotence
import CampusConnect.Services.Queue

namespace CampusConnect

open Guarded Rows EventService WorkflowService DashboardService

/-! ## 1. The guards -/

/-- The guards of `approve_step`: the step is found, and may be decided by the actor. -/
def approveGuards (actor : User) (stepId : Uuid) (p : Proposal) : Result Unit := do
  let (step, inst) ← loadStep stepId p
  verifyDecision approveWords actor step inst p.request

section Guards

variable {actor : User} {p : Proposal}

theorem approveGuards_accepts {step : WorkflowInstanceStep} (hstep : step ∈ p.steps) :
    approveGuards actor step.id p = .ok () ↔ ∃ inst, p.instances.find step.instanceId = some inst ∧
      verifyDecision approveWords actor step inst p.request = .ok () := by
  have hfind : p.steps.find step.id = some step := Table.find_of_mem hstep
  simp only [approveGuards, loadStep, bind_accepts, fetch_accepts, pure_accepts, Prod.exists,
    Prod.mk.injEq, hfind, Option.some.injEq]
  constructor
  · rintro ⟨_, inst, ⟨_, rfl, _, hinst, rfl, rfl⟩, hverify⟩
    exact ⟨_, hinst, hverify⟩
  · rintro ⟨inst, hinst, hverify⟩
    exact ⟨step, inst, ⟨step, rfl, inst, hinst, rfl, rfl⟩, hverify⟩

end Guards

/-! ## 2. What a run keeps -/

/-- The visits of a run by fixed users on the default template. -/
def Visit.OnDefault (roleOf : Uuid → UserRole) : Visit → Prop
  | .draft _ actor _ _ => actor.role = roleOf actor.id
  | .request _ r => r.OnDefault roleOf
  | _ => True

instance (roleOf : Uuid → UserRole) : (v : Visit) → Decidable (v.OnDefault roleOf)
  | .draft _ actor _ _ => inferInstanceAs (Decidable (actor.role = roleOf actor.id))
  | .request _ r => inferInstanceAs (Decidable (r.OnDefault roleOf))
  | .upload _ _ _ _ _ => isTrue trivial
  | .deleteDocument _ _ _ _ => isTrue trivial

/-- A proposal that is not deleted, of an administrator or a secretary, with the advisor's role on
    its first steps and no others. -/
structure Reviewable (roleOf : Uuid → UserRole) (d : Dossier) : Prop where
  live : d.Live
  creator : roleOf d.proposal.request.submittedBy = .systemAdmin ∨
    roleOf d.proposal.request.submittedBy = .clubSecretary
  advised : ∀ st ∈ d.proposal.steps, st.requiredRole = .facultyAdvisor ↔ st.stepOrder = 1

section Reviews

variable {cfg : Config} {files : FileSettings} {roleOf : Uuid → UserRole} {d d' : Dossier}
variable {r : Request} {w w' : Registry} {v : Visit}

theorem standardSteps_advised : ∀ t ∈ standardSteps,
    t.requiredRole = .facultyAdvisor ↔ t.stepOrder = 1 := by
  decide

/-- The steps a submission on the default template starts. -/
theorem Request.Starts.advised {st : WorkflowInstanceStep} {p q : Proposal} (h : r.Starts p q st)
    (hstd : r.OnStandard) : st.requiredRole = .facultyAdvisor ↔ st.stepOrder = 1 := by
  obtain ⟨env, actor, summary, key, keys, rfl, _, hm⟩ := h
  have htemplate : ensureDefaultTemplate env = standardSteps := hstd _ rfl
  obtain ⟨t, ht, rfl⟩ := List.mem_map.mp hm
  rw [List.mem_insertionSort, htemplate] at ht
  exact standardSteps_advised t ht

theorem Reviewable.step (hin : InStanding d) (h : Reviewable roleOf d)
    (hs : Dossier.Step cfg d r d') (hstd : r.OnStandard) : Reviewable roleOf d' := by
  refine ⟨h.live.step hs, ?_, fun st hst => ?_⟩
  · rw [hs.traced.submittedBy hin]
    exact h.creator
  · cases hs.traced.origin hin hst with
    | kept old hm hsame _ =>
        rw [hsame.role, hsame.order]
        exact h.advised old hm
    | started hstart _ => exact hstart.advised hstd

/-- Only administrators and secretaries own a club's business. -/
theorem verifyClubOwnership_role {env : Env} {clubId : Uuid} {actor : User} {text : String}
    {club : Club} (h : verifyClubOwnership env clubId actor text = .ok club) :
    actor.role = .systemAdmin ∨ actor.role = .clubSecretary := by
  simp only [verifyClubOwnership, bind_accepts] at h
  obtain ⟨_, _, h⟩ := h
  by_cases hadmin : actor.role = .systemAdmin
  · exact .inl hadmin
  · rw [if_neg hadmin] at h
    by_cases hsecretary : actor.role = .clubSecretary
    · exact .inr hsecretary
    · rw [if_neg hsecretary] at h
      cases h

theorem Reviewable.created {env : Env} {actor : User} {newId : Uuid} {eventIn : EventRequestCreate}
    (h : Dossier.create env actor newId eventIn = .ok d) (hrole : actor.role = roleOf actor.id) :
    Reviewable roleOf d := by
  have hdraft : Drafted d := ⟨env, actor, newId, eventIn, h⟩
  simp only [Dossier.create, createDraft, verifyActiveClub, bind_accepts, pure_accepts] at h
  obtain ⟨_, ⟨_, ⟨_, howner, _⟩, rfl⟩, rfl⟩ := h
  refine ⟨hdraft.live, ?_, fun st hst => ?_⟩
  · rcases verifyClubOwnership_role howner with h | h
    · exact .inl (hrole.symm.trans h)
    · exact .inr (hrole.symm.trans h)
  · cases hst

/-- Every dossier is such a proposal. -/
def AllReviewable (roleOf : Uuid → UserRole) (w : Registry) : Prop :=
  ∀ (i : Nat) (d : Dossier), w.dossiers[i]? = some d → Reviewable roleOf d

/-- **The step lemma.** -/
theorem AllReviewable.step (hk : Keyed w) (h : AllReviewable roleOf w)
    (hs : Registry.Step cfg files w v w') (hv : v.OnDefault roleOf) : AllReviewable roleOf w' := by
  unfold Registry.Step Registry.exec at hs
  cases v with
  | draft env actor newId eventIn =>
      simp only [bind_accepts, exists_unit, pure_accepts] at hs
      obtain ⟨d, hd, _, rfl⟩ := hs
      intro j e he
      rcases Registry.get_add he with ⟨_, rfl⟩ | ⟨_, he⟩
      · exact .created hd hv
      · exact h j e he
  | request i r =>
      simp only [bind_accepts, fetch_accepts, exists_unit, pure_accepts] at hs
      obtain ⟨d, hd, d', hd', _, _, rfl⟩ := hs
      have hstd : (r.within w i).OnStandard := by
        cases r with
        | review env actor op => exact hv.2
        | event c => exact hv.2
      intro j e he
      rcases Registry.get_update hd he with ⟨_, rfl⟩ | ⟨_, he⟩
      · exact (h i d hd).step (hk.standing i d hd).1 hd' hstd
      · exact h j e he
  | upload env actor newId eventId u =>
      simp only [bind_accepts, pure_accepts] at hs
      obtain ⟨f, _, rfl⟩ := hs
      exact h
  | deleteDocument env actor eventId docId =>
      simp only [bind_accepts, pure_accepts] at hs
      obtain ⟨f, _, rfl⟩ := hs
      exact h

/-- **The run lemma.** -/
theorem allReviewable_of_reach
    (h : Runs.Reach Registry.Empty
      (Runs.restrict (Registry.Step cfg files) fun _ v => v.OnDefault roleOf) w) :
    Keyed w ∧ AllReviewable roleOf w := by
  refine Runs.Reach.invariant (P := fun w => Keyed w ∧ AllReviewable roleOf w) ?_ ?_ h
  · intro w hempty
    have hkeyed : Keyed w ∧ Ledgered files w := hempty.ledgered
    refine ⟨hkeyed.1, fun i d hd => ?_⟩
    rw [show w = Registry.empty from hempty] at hd
    cases hd
  · rintro w v w' ⟨hk, hall⟩ ⟨hstep, hv⟩
    exact ⟨hstep.step.keyed hk, hall.step hk hstep hv⟩

/-! ## 3. One policy, written three times -/

/-- The scope of the queries is the authority of the guards. -/
theorem inScope_iff_canAct {actor : User} {st : WorkflowInstanceStep}
    (hadvised : st.requiredRole = .facultyAdvisor ↔ st.stepOrder = 1)
    (hadmin : actor.role ≠ .systemAdmin) : InScope actor st ↔ CanAct actor st := by
  unfold InScope CanAct
  by_cases hadvisor : actor.role = .facultyAdvisor
  · rw [if_pos hadvisor]
    by_cases hfirst : st.stepOrder = 1
    · rw [if_pos hfirst]
      simp only [hadmin, or_false]
    · -- no later step requires the advisor's role
      have hother : st.requiredRole ≠ actor.role := by
        rw [hadvisor]
        exact fun hr => hfirst (hadvised.mp hr)
      rw [if_neg hfirst]
      simp only [hother, or_false]
  · rw [if_neg hadvisor]
    by_cases hfirst : st.stepOrder = 1
    · have hother : st.requiredRole ≠ actor.role := by
        rw [hadvised.mpr hfirst]
        exact fun hr => hadvisor hr.symm
      rw [if_pos hfirst]
      simp only [hadmin, hother, or_false]
    · rw [if_neg hfirst]

theorem verifyDecision_accepts {words : DecisionWords} {actor : User} {step : WorkflowInstanceStep}
    {inst : WorkflowInstance} {request : EventRequest} :
    verifyDecision words actor step inst request = .ok () ↔
      step.status = .pending ∧ inst.status = .inProgress ∧
        step.stepOrder = inst.currentStepOrder ∧ request.submittedBy ≠ actor.id ∧
        CanAct actor step := by
  simp only [verifyDecision, bind_accepts, refuse_accepts, exists_unit, not_not]

/-- The queue selects what the guards accept. -/
theorem awaits_iff_guards {actor : User} {row : StepRow} {words : DecisionWords}
    (hlive : row.proposal.request.deletedAt = none)
    (hadvised : row.step.requiredRole = .facultyAdvisor ↔ row.step.stepOrder = 1)
    (hadmin : actor.role ≠ .systemAdmin) :
    Awaits actor row ↔
      verifyDecision words actor row.step row.inst row.proposal.request = .ok () := by
  rw [verifyDecision_accepts, ← inScope_iff_canAct hadvised hadmin]
  unfold Awaits
  constructor
  · rintro ⟨hpending, horder, hprogress, _, hother, hscope⟩
    exact ⟨hpending, hprogress, horder, hother, hscope hadmin⟩
  · rintro ⟨hpending, hprogress, horder, hother, hscope⟩
    exact ⟨hpending, horder, hprogress, hlive, hother, fun _ => hscope⟩

/-- The dashboard counts what the queue selects, for who has created no proposal. -/
theorem awaits_iff_actionPending {actor : User} {row : StepRow}
    (hlive : row.proposal.request.deletedAt = none)
    (hother : row.proposal.request.submittedBy ≠ actor.id) (hadmin : actor.role ≠ .systemAdmin) :
    Awaits actor row ↔ ActionPending actor row := by
  unfold Awaits ActionPending
  constructor
  · rintro ⟨hpending, horder, hprogress, _, _, hscope⟩
    exact ⟨hpending, horder, hprogress, hscope hadmin⟩
  · rintro ⟨hpending, horder, hprogress, hscope⟩
    exact ⟨hpending, horder, hprogress, hlive, hother, fun _ => hscope⟩

/-! ## 4. The queue -/

/-- The proposals of the tables are those of the registry, each under one key. -/
theorem Keyed.proposal_unique {t : ReviewTables} (hk : Keyed w)
    (ht : t.proposals = w.dossiers.map Dossier.proposal) {p q : Proposal} (hp : p ∈ t.proposals)
    (hq : q ∈ t.proposals) (hid : p.request.id = q.request.id) : p = q := by
  rw [ht] at hp hq
  obtain ⟨d, hd, rfl⟩ := List.mem_map.mp hp
  obtain ⟨e, he, rfl⟩ := List.mem_map.mp hq
  obtain ⟨i, hi⟩ := List.mem_iff_getElem?.mp hd
  obtain ⟨j, hj⟩ := List.mem_iff_getElem?.mp he
  obtain rfl := hk.requests i j d e hi hj hid
  rw [Option.some.inj (hi.symm.trans hj)]

/-- What every joined row is about. -/
theorem AllReviewable.row {t : ReviewTables} (h : AllReviewable roleOf w)
    (ht : t.proposals = w.dossiers.map Dossier.proposal) {p : Proposal} (hp : p ∈ t.proposals) :
    p.request.deletedAt = none ∧
      (roleOf p.request.submittedBy = .systemAdmin ∨
        roleOf p.request.submittedBy = .clubSecretary) ∧
      ∀ st ∈ p.steps, st.requiredRole = .facultyAdvisor ↔ st.stepOrder = 1 := by
  rw [ht] at hp
  obtain ⟨d, hd, rfl⟩ := List.mem_map.mp hp
  obtain ⟨i, hi⟩ := List.mem_iff_getElem?.mp hd
  exact ⟨(h i d hi).live, (h i d hi).creator, (h i d hi).advised⟩

/-- A step is in the queue when the guards let the reader decide it. -/
theorem queued_iff_guards {t : ReviewTables} (hk : Keyed w) (hall : AllReviewable roleOf w)
    (ht : t.proposals = w.dossiers.map Dossier.proposal) {actor : User}
    (hadmin : actor.role ≠ .systemAdmin) {limit : Nat}
    (hpage : (pendingRows t actor).length ≤ limit) {p : Proposal} (hp : p ∈ t.proposals)
    {step : WorkflowInstanceStep} (hstep : step ∈ p.steps) :
    (∃ item ∈ getPendingQueue t actor 0 limit,
      item.eventRequestId = p.request.id ∧ item.stepId = step.id) ↔
      approveGuards actor step.id p = .ok () := by
  obtain ⟨hlive, _, hadvised⟩ := hall.row ht hp
  have hpolicy : ∀ inst, Awaits actor ⟨p, inst, step⟩ ↔
      verifyDecision approveWords actor step inst p.request = .ok () := fun inst =>
    awaits_iff_guards hlive (hadvised step hstep) hadmin
  rw [approveGuards_accepts hstep]
  constructor
  · rintro ⟨item, hitem, hrequest, hid⟩
    obtain ⟨row, hrow, c, _, hawaits, rfl⟩ := (mem_getPendingQueue hpage).mp hitem
    obtain ⟨q, inst, other⟩ := row
    obtain ⟨hq, hother, hinst⟩ := ReviewTables.mem_joinSteps.mp hrow
    obtain rfl : q = p := hk.proposal_unique ht hq hp hrequest
    obtain rfl : other = step := Table.eq_of_key_eq hother hstep hid
    exact ⟨inst, hinst, (hpolicy inst).mp hawaits⟩
  · rintro ⟨inst, hinst, hverify⟩
    have hrow : (⟨p, inst, step⟩ : StepRow) ∈ t.joinSteps :=
      ReviewTables.mem_joinSteps.mpr ⟨hp, hstep, hinst⟩
    obtain ⟨c, hclub⟩ := ReviewTables.club_of_mem hrow
    refine ⟨pendingItem t ⟨p, inst, step⟩ c, ?_, rfl, rfl⟩
    exact (mem_getPendingQueue hpage).mpr ⟨_, hrow, c, hclub, (hpolicy inst).mpr hverify, rfl⟩

/-- The dashboard of a reviewer counts the queue. -/
theorem pendingActions_eq_length {t : ReviewTables} (hall : AllReviewable roleOf w)
    (ht : t.proposals = w.dossiers.map Dossier.proposal) {actor : User}
    (hrole : actor.role = roleOf actor.id) (hadmin : actor.role ≠ .systemAdmin)
    (hsecretary : actor.role ≠ .clubSecretary) {limit : Nat}
    (hpage : (pendingRows t actor).length ≤ limit) :
    pendingActions t actor = some (getPendingQueue t actor 0 limit).length := by
  unfold pendingActions
  rw [if_neg hadmin, if_neg hsecretary, length_getPendingQueue hpage]
  refine congrArg some (List.countP_congr fun row hrow => ?_)
  obtain ⟨hlive, hcreator, _⟩ := hall.row ht (ReviewTables.mem_joinSteps.mp hrow).1
  -- the creator has another role
  have hother : row.proposal.request.submittedBy ≠ actor.id := by
    intro he
    rw [he, ← hrole] at hcreator
    rcases hcreator with h | h
    · exact hadmin h
    · exact hsecretary h
  rw [decide_eq_true_eq, decide_eq_true_eq]
  exact (awaits_iff_actionPending hlive hother hadmin).symm

/-- **The pending queue lists exactly what can be decided.** In every state that fixed users reach on
    the default template, for every actor who is no administrator and a page that holds the whole
    queue: a step is in the queue when and only when the guards of `approve_step` pass for him, and
    for who is no secretary either the dashboard shows the length of the queue. -/
theorem pending_queue_exact (cfg : Config) (files : FileSettings) (roleOf : Uuid → UserRole)
    (h : Runs.Reach Registry.Empty
      (Runs.restrict (Registry.Step cfg files) fun _ v => v.OnDefault roleOf) w)
    {t : ReviewTables} (ht : t.proposals = w.dossiers.map Dossier.proposal) {actor : User}
    (hrole : actor.role = roleOf actor.id) (hadmin : actor.role ≠ .systemAdmin) {limit : Nat}
    (hpage : (pendingRows t actor).length ≤ limit) :
    (∀ p ∈ t.proposals, ∀ step ∈ p.steps,
      (∃ item ∈ getPendingQueue t actor 0 limit,
        item.eventRequestId = p.request.id ∧ item.stepId = step.id) ↔
        approveGuards actor step.id p = .ok ()) ∧
    (actor.role ≠ .clubSecretary →
      pendingActions t actor = some (getPendingQueue t actor 0 limit).length) := by
  obtain ⟨hk, hall⟩ := allReviewable_of_reach h
  refine ⟨fun p hp step hstep => ?_, fun hsecretary => ?_⟩
  · exact queued_iff_guards hk hall ht hadmin hpage hp hstep
  · exact pendingActions_eq_length hall ht hrole hadmin hsecretary hpage

end Reviews

namespace Sample

/-- A proposal under the key 500 is drafted, planned and submitted. -/
def submittedOnly : List Visit :=
  .draft env secretary (uid 500)
      { clubId := uid 13
        title := "event".toList
        eventType := .workshop
        academicYear := "2025".toList } ::
    (plan ++ [submit staff secretary 1]).map (Visit.request 0)

/-- The tables of a registry of one club. -/
def tables (w : Registry) (h : ∀ d ∈ w.dossiers, d.proposal.request.clubId = uid 13) :
    ReviewTables where
  proposals := w.dossiers.map Dossier.proposal
  clubs := [⟨uid 13, "club".toList, none, true, none⟩]
  createdAt _ := 0
  clubExists := by
    intro p hp
    obtain ⟨d, hd, rfl⟩ := List.mem_map.mp hp
    exact ⟨_, List.mem_singleton.mpr rfl, (h d hd).symm⟩

end Sample

/-- The advisor's first step of a submitted proposal. -/
theorem pending_queue_exact_sample :
    ∃ (w : Registry) (t : ReviewTables) (limit : Nat),
      Registry.Reachable (Sample.config .sqlite) Sample.files w ∧
      t.proposals = w.dossiers.map Dossier.proposal ∧
      (∃ p ∈ t.proposals, ∃ step ∈ p.steps, approveGuards Sample.advisor step.id p = .ok () ∧
        ∃ item ∈ getPendingQueue t Sample.advisor 0 limit,
          item.eventRequestId = p.request.id ∧ item.stepId = step.id) ∧
      pendingActions t Sample.advisor
        = some (getPendingQueue t Sample.advisor 0 limit).length := by
  have hrun : Runs.Ends (Sample.registryOnly (fun _ v => v.OnDefault Sample.roleOf)
      Sample.submittedOnly)
      fun w => (∀ d ∈ w.dossiers, d.proposal.request.clubId = Sample.uid 13) ∧
        ∃ d ∈ w.dossiers, ∃ step ∈ d.proposal.steps.rows,
          approveGuards Sample.advisor step.id d.proposal = .ok () := by
    decide +kernel
  obtain ⟨w, hw, hclub, d, hd, step, hstep, hguards⟩ := hrun
  have hpath := Runs.path_of_run_only hw
  have hrole : Sample.advisor.role = Sample.roleOf Sample.advisor.id := by decide
  obtain ⟨hqueue, hcount⟩ := pending_queue_exact (Sample.config .sqlite) Sample.files Sample.roleOf
    (Runs.Reach.path (.start rfl) hpath) (t := Sample.tables w hclub) rfl hrole (by decide) le_rfl
  have hp : d.proposal ∈ (Sample.tables w hclub).proposals := List.mem_map_of_mem hd
  refine ⟨w, Sample.tables w hclub, _, ?_, rfl, ?_, hcount (by decide)⟩
  · exact Runs.Reach.path (.start rfl) (Runs.Path.of_restrict hpath)
  · exact ⟨d.proposal, hp, step, hstep, hguards,
      (hqueue d.proposal hp step hstep).mpr hguards⟩

end CampusConnect
