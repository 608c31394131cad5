/-
  File:      CampusConnect/Guarantees/Sequencing.lean
  Subject:   The review in order: versions, instances, steps, proposal and event fit together in
             every reachable state, for templates of any length.

  * `Orderly`: the invariant on the rows of a proposal, `Stage`: what the latest instance says;
  * `Orderly.underReview`: an accepted decision finds the latest instance under review, at its
    current step;
  * `Orderly.approved`, `Orderly.submitted`, ...: each operation keeps the invariant;
  * `workflow_sequencing`: the law over all runs, and that an end state is never left.
-/
import CampusConnect.Guarantees.Standing

namespace CampusConnect

open Guarded Rows EventService WorkflowService

/-! ## 1. The invariant -/

/-- The steps have orders 1, 2, .. in some sequence. -/
def InSequence (template : List WorkflowTemplateStep) : Prop :=
  ∃ n, 1 ≤ n ∧ (template.map WorkflowTemplateStep.stepOrder).Perm (List.range' 1 n)

/-- A submission meets a template whose steps are in sequence. -/
def Request.InSequence (r : Request) : Prop := ∀ t ∈ r.template, CampusConnect.InSequence t

/-- The step is approved, for the version of its instance. -/
def Signed (i : WorkflowInstance) (step : WorkflowInstanceStep) : Prop :=
  step.status = .approved ∧ step.versionReviewed = some i.versionNumber

/-- An instance under way: signed below its current step, pending above, and the current step has
    the given status. -/
structure UnderWay (p : Proposal) (i : WorkflowInstance) (at_ : WorkflowStepStatus) : Prop where
  status : i.status = .inProgress
  current : ∃ step ∈ p.steps, step.instanceId = i.id ∧ step.stepOrder = i.currentStepOrder
  below : ∀ step ∈ p.steps, step.instanceId = i.id → step.stepOrder < i.currentStepOrder →
    Signed i step
  here : ∀ step ∈ p.steps, step.instanceId = i.id → step.stepOrder = i.currentStepOrder →
    step.status = at_
  above : ∀ step ∈ p.steps, step.instanceId = i.id → i.currentStepOrder < step.stepOrder →
    step.status = .pending

/-- What the latest instance says of the proposal. -/
inductive Stage (p : Proposal) (i : WorkflowInstance) : Prop where
  | underReview (hreq : p.request.status = .submitted ∨ p.request.status = .inReview)
      (h : UnderWay p i .pending)
  | returned (hreq : p.request.status = .revisionRequired) (h : UnderWay p i .revisionRequested)
  | completed (hreq : p.request.status = .approved) (hst : i.status = .completed)
      (h : ∀ step ∈ p.steps, step.instanceId = i.id → Signed i step)
  | ended (hreq : (p.request.status = .rejected ∧ i.status = .rejected) ∨
        (p.request.status = .cancelled ∧ i.status = .cancelled))
      (h : ∃ step ∈ p.steps, step.instanceId = i.id ∧ step.status ≠ .approved)

/-- **The rows of a proposal are in order.** -/
structure Orderly (p : Proposal) : Prop extends Standing p where
  orders : ∀ i ∈ p.instances, ∃ n,
    (∀ step ∈ p.steps, step.instanceId = i.id → 1 ≤ step.stepOrder ∧ step.stepOrder ≤ n) ∧
    ∀ o, 1 ≤ o → o ≤ n → ∃ step ∈ p.steps, step.instanceId = i.id ∧ step.stepOrder = o
  superseded : ∀ i ∈ p.instances, i.versionNumber ≠ p.request.currentVersion →
    i.status = .superseded ∧ ∃ step ∈ p.steps, step.instanceId = i.id ∧ step.status ≠ .approved
  latest : ∀ i ∈ p.instances, i.versionNumber = p.request.currentVersion →
    p.request.workflowInstanceId = some i.id ∧ Stage p i
  unsubmitted : p.request.currentVersion = 0 →
    p.request.workflowInstanceId = none ∧
      (p.request.status = .draft ∨ p.request.status = .cancelled)
  draft : p.request.status = .draft → p.request.currentVersion = 0

namespace Orderly

variable {p q : Proposal}

/-- The invariant reads these columns only. -/
theorem congr (h : Orderly p) (hv : q.versions = p.versions) (hi : q.instances = p.instances)
    (hs : q.steps = p.steps) (hc : q.request.currentVersion = p.request.currentVersion)
    (hst : q.request.status = p.request.status)
    (hw : q.request.workflowInstanceId = p.request.workflowInstanceId) : Orderly q := by
  have hway : ∀ i st, UnderWay p i st → UnderWay q i st := by
    intro i st hu
    refine ⟨hu.status, ?_, ?_, ?_, ?_⟩
    · rw [hs]
      exact hu.current
    · rw [hs]
      exact hu.below
    · rw [hs]
      exact hu.here
    · rw [hs]
      exact hu.above
  have hstage : ∀ i, Stage p i → Stage q i := by
    intro i hi
    cases hi with
    | underReview hreq hu =>
        refine .underReview ?_ (hway i _ hu)
        rw [hst]
        exact hreq
    | returned hreq hu =>
        refine .returned ?_ (hway i _ hu)
        rw [hst]
        exact hreq
    | completed hreq hsti hall =>
        refine .completed ?_ hsti ?_
        · rw [hst]
          exact hreq
        · rw [hs]
          exact hall
    | ended hreq hex =>
        refine .ended ?_ ?_
        · rw [hst]
          exact hreq
        · rw [hs]
          exact hex
  refine ⟨h.toStanding.congr hv hi hs hc hst hw, ?_, ?_, ?_, ?_, ?_⟩
  · rw [hs, hi]
    exact h.orders
  · rw [hs, hi, hc]
    exact h.superseded
  · rw [hi, hc, hw]
    intro i hm hn
    obtain ⟨hlink, hstg⟩ := h.latest i hm hn
    exact ⟨hlink, hstage i hstg⟩
  · rw [hc, hw, hst]
    exact h.unsubmitted
  · rw [hst, hc]
    exact h.draft

/-- An instance that is not superseded is the latest. -/
theorem latest_of_ne (h : Orderly p) {i : WorkflowInstance} (hi : i ∈ p.instances)
    (hst : i.status ≠ .superseded) : i.versionNumber = p.request.currentVersion := by
  by_contra hn
  exact hst (h.superseded i hi hn).1

/-- There is a latest instance as soon as there is a version. -/
theorem exists_latest (h : Orderly p) (hc : p.request.currentVersion ≠ 0) :
    ∃ i ∈ p.instances, i.versionNumber = p.request.currentVersion := by
  have hm : p.request.currentVersion ∈ p.instances.rows.map WorkflowInstance.versionNumber := by
    rw [h.instances, List.mem_range'_1]
    omega
  obtain ⟨i, hi, hn⟩ := List.mem_map.mp hm
  exact ⟨i, hi, hn⟩

end Orderly

/-! ## 2. Decisions -/

/-- An accepted decision finds the latest instance under review, at its current step. -/
structure AtCurrentStep (p : Proposal) (step : WorkflowInstanceStep) (inst : WorkflowInstance) :
    Prop extends Deciding p step inst where
  number : inst.versionNumber = p.request.currentVersion
  way : UnderWay p inst .pending

theorem Orderly.underReview {actor : User} {stepId : Uuid} {p : Proposal}
    {step : WorkflowInstanceStep} {inst : WorkflowInstance} (h : Orderly p)
    (hd : StepDecision actor stepId p step inst) : AtCurrentStep p step inst := by
  have hat := h.toStanding.deciding hd
  have hnum := h.current inst hat.instMem hat.link
  refine ⟨hat, hnum, ?_⟩
  cases (h.latest inst hat.instMem hnum).2 with
  | underReview hreq hway => exact hway
  | returned hreq hway =>
      have hhere := hway.here step hat.stepMem hat.own hd.current
      rw [hd.pending] at hhere
      cases hhere
  | completed hreq hst hall =>
      rw [hd.inProgress] at hst
      cases hst
  | ended hreq hex =>
      rcases hreq with ⟨_, hst⟩ | ⟨_, hst⟩ <;> rw [hd.inProgress] at hst <;> cases hst

/-- A change of the latest instance and of its steps alone keeps the invariant when the new stage
    holds. -/
theorem Orderly.of_shape {p q : Proposal} {inst : WorkflowInstance} (h : Orderly p)
    (hs : SameShape p q) (hst : Standing q) (hi : inst ∈ p.instances)
    (hn : inst.versionNumber = p.request.currentVersion)
    (hother : ∀ step ∈ p.steps, step.instanceId ≠ inst.id → step ∈ q.steps)
    (hkept : ∀ j ∈ q.instances, j.id ≠ inst.id → j ∈ p.instances)
    (hstage : ∀ j ∈ q.instances, j.id = inst.id → Stage q j)
    (hdraft : q.request.status ≠ .draft) : Orderly q := by
  have hpos := (h.instance_bounds hi).1
  refine ⟨hst, ?_, ?_, ?_, ?_, ?_⟩
  · intro j hj
    obtain ⟨i, him, hid, _⟩ := hs.instances_of j hj
    obtain ⟨n, hle, hex⟩ := h.orders i him
    refine ⟨n, ?_, ?_⟩
    · intro step hstep hown
      obtain ⟨old, hold, _, hown1, hord1, _⟩ := hs.steps_of step hstep
      rw [← hord1]
      exact hle old hold (by rw [hown1, hown, hid])
    · intro o h1 h2
      obtain ⟨old, hold, hown, hord⟩ := hex o h1 h2
      obtain ⟨step, hstep, hown1, hord1⟩ := hs.steps_to old hold
      exact ⟨step, hstep, by rw [hown1, hown, hid], by rw [hord1, hord]⟩
  · intro j hj hne
    rw [hs.current] at hne
    have hjne : j.id ≠ inst.id := by
      intro he
      obtain ⟨i, him, hid, hnum⟩ := hs.instances_of j hj
      have heq : i = inst := Table.eq_of_key_eq him hi (hid.trans he)
      rw [← hnum, heq] at hne
      exact hne hn
    obtain ⟨hsup, step, hstep, hown, happ⟩ := h.superseded j (hkept j hj hjne) hne
    exact ⟨hsup, step, hother step hstep (by rw [hown]; exact hjne), hown, happ⟩
  · intro j hj hnum
    rw [hs.current] at hnum
    obtain ⟨i, him, hid, hnum'⟩ := hs.instances_of j hj
    have heq : i = inst := h.instance_unique him hi (by rw [hnum', hnum, hn])
    have hjid : j.id = inst.id := by rw [← hid, heq]
    refine ⟨?_, hstage j hj hjid⟩
    rw [hs.link, (h.latest inst hi hn).1, hjid]
  · intro h0
    rw [hs.current] at h0
    omega
  · intro hd
    exact (hdraft hd).elim

section Decisions

variable {actor : User} {stepId : Uuid} {p q : Proposal} {step d : WorkflowInstanceStep}
variable {inst i' : WorkflowInstance}

/-- A decided step of the current instance leaves the steps of the others. -/
theorem other_steps (hstep : step ∈ p.steps) (hown : step.instanceId = inst.id)
    (hsteps : p.steps.replace d = some q.steps) (hdid : d.id = step.id) :
    ∀ st ∈ p.steps, st.instanceId ≠ inst.id → st ∈ q.steps := by
  intro st hst hne
  refine Table.mem_replace_of_ne hsteps hst fun hk => hne ?_
  have heq : st = step := Table.eq_of_key_eq hst hstep (Eq.trans hk hdid)
  rw [heq]
  exact hown

/-- The steps of the latest instance after its current one is decided: below it and above it nothing
    moves. -/
theorem steps_after (h : Orderly p) (hat : AtCurrentStep p step inst)
    (hsteps : p.steps.replace d = some q.steps)
    (hd : d.id = step.id ∧ d.instanceId = step.instanceId ∧ d.stepOrder = step.stepOrder)
    {st : WorkflowInstanceStep} (hst : st ∈ q.steps) (hown : st.instanceId = inst.id) :
    st = d ∨ (st ∈ p.steps ∧ st.stepOrder < step.stepOrder ∧ Signed inst st) ∨
      (st ∈ p.steps ∧ step.stepOrder < st.stepOrder ∧ st.status = .pending) := by
  rcases Table.mem_replace hsteps hst with rfl | ⟨hm, hne⟩
  · exact .inl rfl
  · right
    rcases Nat.lt_trichotomy st.stepOrder step.stepOrder with hlt | heq | hgt
    · exact .inl ⟨hm, hlt, hat.way.below st hm hown (hat.current ▸ hlt)⟩
    · have hsame : st = step := h.distinct st hm step hat.stepMem (hown.trans hat.own.symm) heq
      exact (hne (by rw [hsame]; exact hd.1.symm)).elim
    · exact .inr ⟨hm, hgt, hat.way.above st hm hown (hat.current ▸ hgt)⟩

theorem Orderly.approved_step {env : ReviewEnv} {comments : Option Text} {newId : Uuid} (h : Orderly p)
    (hd : StepDecision actor stepId p step inst)
    (ha : Approved env actor comments newId p step inst q) : Orderly q := by
  have hat := h.underReview hd
  have hshape := approved_shape h.toStanding hat.toDeciding ha
  have hstand := h.toStanding.approved_step hd ha
  have hafter : ∀ st ∈ q.steps, st.instanceId = inst.id →
      (st.stepOrder = step.stepOrder ∧ Signed inst st) ∨
      (st ∈ p.steps ∧ st.stepOrder < step.stepOrder ∧ Signed inst st) ∨
      (st ∈ p.steps ∧ step.stepOrder < st.stepOrder ∧ st.status = .pending) := by
    intro st hst hown
    rcases steps_after h hat ha.steps ⟨rfl, rfl, rfl⟩ hst hown with rfl | hrest
    · exact .inl ⟨rfl, rfl, rfl⟩
    · exact .inr hrest
  have hother := other_steps hat.stepMem hat.own ha.steps rfl
  rcases ha.moved.cases with ⟨next, hnext, hinsts, hst⟩ | ⟨hnone, hinsts, hst⟩
  · -- the instance goes on to the next step
    obtain ⟨hnm, hnown, hnord⟩ := nextStep_eq_some hnext
    have hreq : q.request.status = .inReview := by
      rw [hst]
      rcases hat.request with hr | hr <;> rw [hr] <;> rfl
    refine h.of_shape hshape hstand hat.instMem hat.number hother (other_instances hinsts rfl) ?_ ?_
    · intro j hj hid
      obtain rfl := rewritten_instance hat.instMem hinsts rfl hj hid
      refine .underReview (.inr hreq) ?_
      have hkey : next.id ≠ step.id := by
        intro he
        have hsame : next = step := Table.eq_of_key_eq hnm hat.stepMem he
        rw [hsame] at hnord
        omega
      refine ⟨hat.way.status, ?_, ?_, ?_, ?_⟩
      · exact ⟨next, Table.mem_replace_of_ne ha.steps hnm hkey, hnown.trans hat.own, rfl⟩
      · intro st hstm hown hlt
        change st.stepOrder < next.stepOrder at hlt
        rcases hafter st hstm hown with ⟨_, hs⟩ | ⟨_, _, hs⟩ | ⟨_, hgt, _⟩
        · exact hs
        · exact hs
        · omega
      · intro st hstm hown heq
        change st.stepOrder = next.stepOrder at heq
        rcases hafter st hstm hown with ⟨heq', _⟩ | ⟨_, hlt, _⟩ | ⟨_, _, hp⟩
        · omega
        · omega
        · exact hp
      · intro st hstm hown hgt
        change next.stepOrder < st.stepOrder at hgt
        rcases hafter st hstm hown with ⟨heq', _⟩ | ⟨_, hlt, _⟩ | ⟨_, _, hp⟩
        · omega
        · omega
        · exact hp
    · rw [hreq]
      decide
  · -- the last step: nothing stands above it
    refine h.of_shape hshape hstand hat.instMem hat.number hother (other_instances hinsts rfl) ?_ ?_
    · intro j hj hid
      obtain rfl := rewritten_instance hat.instMem hinsts rfl hj hid
      refine .completed hst rfl ?_
      intro st hstm hown
      rcases hafter st hstm hown with ⟨_, hs⟩ | ⟨_, _, hs⟩ | ⟨hm, hgt, _⟩
      · exact hs
      · exact hs
      · -- orders have no gap, so a step above would have one right above the last
        obtain ⟨n, hle, hex⟩ := h.orders inst hat.instMem
        have hn := (hle st hm hown).2
        obtain ⟨st', hm', hown', hord'⟩ := hex (step.stepOrder + 1) (by omega) (by omega)
        exact (nextStep_eq_none hnone hm' (hown'.trans hat.own.symm) hord').elim
    · rw [hst]
      decide

theorem Orderly.rejected_step {env : ReviewEnv} {comments : Text} (h : Orderly p)
    (hd : StepDecision actor stepId p step inst) (hr : Rejected env comments p step inst q) :
    Orderly q := by
  have hat := h.underReview hd
  have hreq : q.request.status = .rejected := congrArg EventRequest.status hr.request
  refine h.of_shape (rejected_shape h.toStanding hat.toDeciding hr)
    (h.toStanding.rejected_step hd hr) hat.instMem hat.number
    (other_steps hat.stepMem hat.own hr.steps rfl) (other_instances hr.instances rfl) ?_ ?_
  · intro j hj hid
    obtain rfl := rewritten_instance hat.instMem hr.instances rfl hj hid
    refine .ended (.inl ⟨hreq, rfl⟩) ?_
    refine ⟨_, Table.mem_replace_self hr.steps hat.stepMem rfl, hat.own, ?_⟩
    intro he
    cases he
  · rw [hreq]
    decide

theorem Orderly.revised_step {env : ReviewEnv} {comments : Text} {t : Table WorkflowInstanceStep}
    (h : Orderly p) (hd : StepDecision actor stepId p step inst)
    (ht : p.steps.replace (decideStep env .revisionRequested (some comments) step inst step) =
      some t) :
    Orderly { p with steps := t, request := { p.request with status := .revisionRequired } } := by
  have hat := h.underReview hd
  refine h.of_shape (revised_shape h.toStanding hat.toDeciding ht)
    (h.toStanding.revised_step hd ht) hat.instMem hat.number
    (other_steps hat.stepMem hat.own ht rfl) (fun j hj _ => hj) ?_ (fun he => nomatch he)
  intro j hj hid
  obtain rfl : j = inst := Table.eq_of_key_eq hj hat.instMem hid
  have hmem := Table.mem_replace_self ht hat.stepMem rfl
  have hafter : ∀ st ∈ t, st.instanceId = j.id →
      (st.stepOrder = step.stepOrder ∧ st.status = .revisionRequested) ∨
      (st ∈ p.steps ∧ st.stepOrder < step.stepOrder ∧ Signed j st) ∨
      (st ∈ p.steps ∧ step.stepOrder < st.stepOrder ∧ st.status = .pending) := by
    intro st hst hown
    rcases steps_after h hat (q := { p with steps := t }) ht ⟨rfl, rfl, rfl⟩ hst hown with
      rfl | hrest
    · exact .inl ⟨rfl, rfl⟩
    · exact .inr hrest
  have hcur := hat.current
  refine .returned rfl ⟨hat.way.status, ⟨_, hmem, hat.own, hcur⟩, ?_, ?_, ?_⟩
  · intro st hst hown hlt
    rcases hafter st hst hown with ⟨heq, _⟩ | ⟨_, _, hs⟩ | ⟨_, hgt, _⟩
    · omega
    · exact hs
    · omega
  · intro st hst hown heq
    rcases hafter st hst hown with ⟨_, hs⟩ | ⟨_, hlt, _⟩ | ⟨_, hgt, _⟩
    · exact hs
    · omega
    · omega
  · intro st hst hown hgt
    rcases hafter st hst hown with ⟨heq, _⟩ | ⟨_, hlt, _⟩ | ⟨_, _, hp⟩
    · omega
    · omega
    · exact hp

end Decisions

/-! ## 3. Submissions -/

section Submissions

variable {env : ReviewEnv} {actor : User} {p q : Proposal}

/-- The orders of the new steps are those of the template, sorted. -/
theorem instanceSteps_orders (env : ReviewEnv) (actor : User) (clubId newId : Uuid)
    (newStepId : Nat → Uuid) (version : Nat) :
    ((instanceSteps env clubId actor newId newStepId version).map
      WorkflowInstanceStep.stepOrder).Perm
        ((ensureDefaultTemplate env).map WorkflowTemplateStep.stepOrder) := by
  unfold instanceSteps
  rw [List.map_map]
  exact (List.perm_insertionSort _ _).map WorkflowTemplateStep.stepOrder

/-- A draft points to no instance, and there is none. -/
theorem Orderly.no_instances (h : Orderly p) (hst : p.request.status = .draft) :
    p.instances.rows = [] ∧ priorInstance p = none := by
  have h0 := h.draft hst
  have hnil : p.instances.rows.map WorkflowInstance.versionNumber = [] := by
    rw [h.instances, h0]
    rfl
  refine ⟨List.map_eq_nil_iff.mp hnil, ?_⟩
  unfold priorInstance
  rw [(h.unsubmitted h0).1]
  rfl

/-- A proposal submitted and not at its end has its latest instance under way. -/
theorem Orderly.underWay (h : Orderly p)
    (hst : p.request.status = .submitted ∨ p.request.status = .inReview ∨
      p.request.status = .revisionRequired) :
    ∃ i ∈ p.instances, i.versionNumber = p.request.currentVersion ∧ priorInstance p = some i ∧
      UnderWay p i
        (if p.request.status = .revisionRequired then .revisionRequested else .pending) := by
  have h0 : p.request.currentVersion ≠ 0 := by
    intro h0
    rcases (h.unsubmitted h0).2 with hst' | hst' <;>
      rcases hst with hr | hr | hr <;> rw [hr] at hst' <;> cases hst'
  obtain ⟨i, hi, hn⟩ := h.exists_latest h0
  have hway : UnderWay p i
      (if p.request.status = .revisionRequired then .revisionRequested else .pending) := by
    cases (h.latest i hi hn).2 with
    | underReview hreq hway =>
        have hne : p.request.status ≠ .revisionRequired := by
          rcases hreq with hr | hr <;> rw [hr] <;> decide
        rw [if_neg hne]
        exact hway
    | returned hreq hway =>
        rw [if_pos hreq]
        exact hway
    | completed hreq hsti hall => rcases hst with hr | hr | hr <;> rw [hr] at hreq <;> cases hreq
    | ended hreq hex =>
        rcases hreq with ⟨hreq, _⟩ | ⟨hreq, _⟩ <;>
          rcases hst with hr | hr | hr <;> rw [hr] at hreq <;> cases hreq
  exact ⟨i, hi, hn, h.prior hi hway.status, hway⟩

/-- A proposal that may be edited has no version yet, or its latest instance was returned. -/
theorem Orderly.editable (h : Orderly p) (hed : p.request.Editable) :
    (p.instances.rows = [] ∧ priorInstance p = none) ∨
      ∃ i ∈ p.instances, i.versionNumber = p.request.currentVersion ∧ priorInstance p = some i ∧
        UnderWay p i .revisionRequested := by
  rcases hed with hst | hst
  · exact .inl (h.no_instances hst)
  · obtain ⟨i, hi, hn, hprior, hway⟩ := h.underWay (.inr (.inr hst))
    rw [if_pos hst] at hway
    exact .inr ⟨i, hi, hn, hprior, hway⟩

/-- The instances a submission finds are superseded, the last one by it. -/
theorem Orderly.allSuperseded (h : Orderly p) (hed : p.request.Editable)
    {t : Table WorkflowInstance} (ht : WorkflowService.superseded p = some t) :
    ∀ j ∈ t, j.status = .superseded ∧
      ∃ step ∈ p.steps, step.instanceId = j.id ∧ step.status ≠ .approved := by
  unfold WorkflowService.superseded at ht
  rcases h.editable hed with ⟨hnil, hprior⟩ | ⟨i, hi, hn, hprior, hway⟩
  · rw [hprior] at ht
    cases ht
    intro j hj
    rw [Table.mem_def, hnil] at hj
    cases hj
  · rw [hprior] at ht
    intro j hj
    rcases Table.mem_replace ht hj with rfl | ⟨hm, hne⟩
    · obtain ⟨step, hstep, hown, hord⟩ := hway.current
      refine ⟨rfl, step, hstep, hown, ?_⟩
      rw [hway.here step hstep hown hord]
      decide
    · refine h.superseded j hm fun hnum => hne ?_
      have heq : j = i := h.instance_unique hm hi (hnum.trans hn.symm)
      rw [heq]
      rfl

/-- Over a template in sequence, the orders of an instance's steps fill an interval from one. -/
theorem instanceSteps_fill (actor : User) (clubId newId : Uuid) (newStepId : Nat → Uuid)
    (version : Nat) (hseq : CampusConnect.InSequence (ensureDefaultTemplate env)) :
    ∃ n, 1 ≤ n ∧
      (∀ st ∈ instanceSteps env clubId actor newId newStepId version,
        1 ≤ st.stepOrder ∧ st.stepOrder ≤ n) ∧
      ∀ o, 1 ≤ o → o ≤ n →
        ∃ st ∈ instanceSteps env clubId actor newId newStepId version, st.stepOrder = o := by
  obtain ⟨n, hn, hperm⟩ := hseq
  have horders := (instanceSteps_orders env actor clubId newId newStepId version).trans hperm
  refine ⟨n, hn, ?_, ?_⟩
  · intro st hst
    have hmem := horders.subset (List.mem_map_of_mem hst)
    rw [List.mem_range'_1] at hmem
    omega
  · intro o h1 h2
    have hmem := horders.symm.subset (List.mem_range'_1.mpr ⟨h1, by omega⟩)
    exact List.mem_map.mp hmem

/-- The steps of the instance a submission opens are the ones it adds. -/
theorem steps_submitted {summary key : Option Text} {keys : SubmissionKeys}
    (hs : Submitted env actor summary key keys p q)
    (hfresh : ∀ st ∈ p.steps, st.instanceId ≠ keys.inst) {st : WorkflowInstanceStep} :
    st ∈ q.steps ∧ st.instanceId = keys.inst ↔
      st ∈ instanceSteps env p.request.clubId actor keys.inst keys.step
        (p.request.currentVersion + 1) := by
  have hmem := @Table.mem_insertAll _ _ _ _ _ _ hs.steps st
  constructor
  · intro ⟨hst, hown⟩
    rcases hmem.mp hst with hold | hnew
    · exact (hfresh st hold hown).elim
    · exact hnew
  · intro hst
    exact ⟨hmem.mpr (.inr hst), (mem_instanceSteps hst).1⟩

/-- The instance a submission opens is under way from its first step. -/
theorem underWay_submitted {summary key : Option Text} {keys : SubmissionKeys}
    (hs : Submitted env actor summary key keys p q)
    (hfresh : ∀ st ∈ p.steps, st.instanceId ≠ keys.inst)
    (hseq : CampusConnect.InSequence (ensureDefaultTemplate env)) :
    UnderWay q (WorkflowService.newInstance keys.inst (p.request.currentVersion + 1))
      .pending := by
  obtain ⟨n, hn, hle, hex⟩ := instanceSteps_fill actor p.request.clubId keys.inst keys.step
    (p.request.currentVersion + 1) hseq
  have hown : ∀ st ∈ q.steps, st.instanceId = keys.inst →
      st ∈ instanceSteps env p.request.clubId actor keys.inst keys.step
        (p.request.currentVersion + 1) :=
    fun st hst hid => (steps_submitted hs hfresh).mp ⟨hst, hid⟩
  refine ⟨rfl, ?_, ?_, ?_, ?_⟩
  · obtain ⟨st, hst, hord⟩ := hex 1 (Nat.le_refl 1) hn
    obtain ⟨hq, hid⟩ := (steps_submitted hs hfresh).mpr hst
    exact ⟨st, hq, hid, hord⟩
  · intro st hst hid hlt
    have hpos := (hle st (hown st hst hid)).1
    change st.stepOrder < 1 at hlt
    omega
  · intro st hst hid _
    exact (mem_instanceSteps (hown st hst hid)).2.1
  · intro st hst hid _
    exact (mem_instanceSteps (hown st hst hid)).2.1

theorem Orderly.submitted_step {summary key : Option Text} {keys : SubmissionKeys} (h : Orderly p)
    (hs : Submitted env actor summary key keys p q)
    (hseq : CampusConnect.InSequence (ensureDefaultTemplate env)) : Orderly q := by
  obtain ⟨t, ht, hins⟩ := hs.instances
  have hold := h.allSuperseded hs.editable ht
  have hret := h.toStanding.retired hs.editable ht
  have hnumbers := hret.numbers.trans h.instances
  have hc : q.request.currentVersion = p.request.currentVersion + 1 :=
    (congrArg EventRequest.currentVersion hs.request).trans rfl
  have hlink : q.request.workflowInstanceId = some keys.inst :=
    (congrArg EventRequest.workflowInstanceId hs.request).trans rfl
  have hst : q.request.status = .submitted :=
    (congrArg EventRequest.status hs.request).trans rfl
  have hnew : ∀ j ∈ t, j.id ≠ keys.inst := fun j hj he =>
    (Table.insert_eq_some.mp hins).1.2 (List.mem_map.mpr ⟨j, hj, he⟩)
  have hapart := h.toStanding.apart hret hnew
  have hkept : ∀ st ∈ p.steps, st ∈ q.steps :=
    fun st hm => (Table.mem_insertAll hs.steps).mpr (.inl hm)
  refine ⟨h.toStanding.submitted_step hs, ?_, ?_, ?_, ?_, ?_⟩
  · intro j hj
    rcases (Table.mem_insert hins).mp hj with hj | rfl
    · obtain ⟨i, hi, hid, _⟩ := hret.old j hj
      obtain ⟨m, hle, hex⟩ := h.orders i hi
      refine ⟨m, ?_, ?_⟩
      · intro st hst hown
        rcases (Table.mem_insertAll hs.steps).mp hst with hst | hst
        · exact hle st hst (hown.trans hid.symm)
        · exact (hnew j hj (hown.symm.trans (mem_instanceSteps hst).1)).elim
      · intro o h1 h2
        obtain ⟨st, hst, hown, hord⟩ := hex o h1 h2
        exact ⟨st, hkept st hst, hown.trans hid, hord⟩
    · obtain ⟨n, hn, hle, hex⟩ := instanceSteps_fill actor p.request.clubId keys.inst keys.step
        (p.request.currentVersion + 1) hseq
      refine ⟨n, ?_, ?_⟩
      · intro st hst hown
        exact hle st ((steps_submitted hs hapart).mp ⟨hst, hown⟩)
      · intro o h1 h2
        obtain ⟨st, hst, hord⟩ := hex o h1 h2
        obtain ⟨hq, hown⟩ := (steps_submitted hs hapart).mpr hst
        exact ⟨st, hq, hown, hord⟩
  · intro j hj hne
    rcases (Table.mem_insert hins).mp hj with hj | rfl
    · obtain ⟨hsup, st, hst, hown, happ⟩ := hold j hj
      exact ⟨hsup, st, hkept st hst, hown, happ⟩
    · exact (hne hc.symm).elim
  · intro j hj hnum
    rcases (Table.mem_insert hins).mp hj with hj | rfl
    · have hle : j.versionNumber ∈ List.range' 1 p.request.currentVersion := by
        rw [← hnumbers]
        exact List.mem_map_of_mem hj
      rw [List.mem_range'_1] at hle
      omega
    · exact ⟨hlink, .underReview (.inl hst) (underWay_submitted hs hapart hseq)⟩
  · intro h0
    rw [hc] at h0
    omega
  · intro hd
    rw [hst] at hd
    cases hd

end Submissions

/-! ## 4. Withdrawals -/

section Withdrawals

variable {p : Proposal}

theorem skipPending_other {i : Uuid} {step : WorkflowInstanceStep} (h : step.instanceId ≠ i) :
    skipPending i step = step := by
  unfold skipPending
  exact if_neg fun he => h he.1

theorem skipPending_open {i : Uuid} {step : WorkflowInstanceStep} (h : step.status ≠ .approved) :
    (skipPending i step).status ≠ .approved := by
  unfold skipPending
  by_cases hs : step.instanceId = i ∧ step.status = .pending
  · rw [if_pos hs]
    exact fun he => nomatch he
  · rw [if_neg hs]
    exact h

/-- A withdrawn draft: nothing but the status changes. -/
theorem Orderly.withdrawn_draft (h : Orderly p) (hst : p.request.status = .draft) :
    Orderly (EventService.withdrawn p) := by
  obtain ⟨_, _, _, hr⟩ := withdrawn_rows p
  have hc : (EventService.withdrawn p).request.currentVersion = p.request.currentVersion :=
    (congrArg EventRequest.currentVersion hr).trans rfl
  have hw : (EventService.withdrawn p).request.workflowInstanceId = p.request.workflowInstanceId :=
    (congrArg EventRequest.workflowInstanceId hr).trans rfl
  have hcan : (EventService.withdrawn p).request.status = .cancelled :=
    (congrArg EventRequest.status hr).trans rfl
  obtain ⟨hnil, hprior⟩ := h.no_instances hst
  have hne : p.request.status ≠ .approved := by
    rw [hst]
    decide
  have hno : ∀ j, j ∉ p.instances := by
    intro j hj
    rw [Table.mem_def, hnil] at hj
    cases hj
  obtain ⟨hi, hs⟩ := withdrawn_idle hprior
  refine ⟨h.toStanding.withdrawn_step hne, ?_, ?_, ?_, ?_, ?_⟩
  · rw [hi, hs]
    exact h.orders
  · rw [hi]
    intro j hj
    exact (hno j hj).elim
  · rw [hi]
    intro j hj
    exact (hno j hj).elim
  · intro _
    exact ⟨hw.trans (h.unsubmitted (h.draft hst)).1, .inr hcan⟩
  · intro hd
    rw [hcan] at hd
    cases hd

/-- A withdrawal of a proposal under way cancels its latest instance and skips the pending steps. -/
theorem Orderly.withdrawn_underWay (h : Orderly p)
    (hst : p.request.status = .submitted ∨ p.request.status = .inReview ∨
      p.request.status = .revisionRequired) : Orderly (EventService.withdrawn p) := by
  have hcan : (EventService.withdrawn p).request.status = .cancelled :=
    (congrArg EventRequest.status (withdrawn_rows p).2.2.2).trans rfl
  have hopen : p.request.status ≠ .approved := by
    rcases hst with hr | hr | hr <;> rw [hr] <;> decide
  obtain ⟨i, him, hn, hprior, hway⟩ := h.underWay hst
  obtain ⟨hinsts, hmem⟩ := withdrawn_open hprior
  refine h.of_shape (withdrawn_shape hprior) (h.toStanding.withdrawn_step hopen) him hn ?_
    (other_instances hinsts rfl) ?_ ?_
  · intro st hst hne
    exact hmem.mpr ⟨st, hst, skipPending_other hne⟩
  · intro j hj hid
    obtain rfl := rewritten_instance him hinsts rfl hj hid
    obtain ⟨st, hst, hown, hord⟩ := hway.current
    refine .ended (.inr ⟨hcan, rfl⟩) ⟨_, hmem.mpr ⟨st, hst, rfl⟩, ?_, skipPending_open ?_⟩
    · exact (skipPending_kept i.id st).1.trans hown
    · rw [hway.here st hst hown hord]
      by_cases hret : p.request.status = .revisionRequired
      · rw [if_pos hret]
        decide
      · rw [if_neg hret]
        decide
  · rw [hcan]
    decide

theorem Orderly.withdrawn_step (h : Orderly p)
    (hst : p.request.status ≠ .cancelled ∧ p.request.status ≠ .rejected ∧
      p.request.status ≠ .approved) : Orderly (EventService.withdrawn p) := by
  obtain ⟨hcan, hrej, happ⟩ := hst
  cases hreq : p.request.status with
  | draft => exact h.withdrawn_draft hreq
  | submitted => exact h.withdrawn_underWay (.inl hreq)
  | inReview => exact h.withdrawn_underWay (.inr (.inl hreq))
  | revisionRequired => exact h.withdrawn_underWay (.inr (.inr hreq))
  | approved => exact (happ hreq).elim
  | rejected => exact (hrej hreq).elim
  | cancelled => exact (hcan hreq).elim

end Withdrawals

/-! ## 5. Steps and runs -/

section Steps

variable {env : ReviewEnv} {actor : User} {p q : Proposal} {op : ReviewOp}

/-- **The step lemma**: every accepted operation keeps the rows in order. -/
theorem ReviewStep.orderly (h : Orderly p) (hs : ReviewStep env actor p op q)
    (hseq : (Request.review env actor op).InSequence) : Orderly q := by
  cases hs with
  | drafted eventIn hed => exact h.congr rfl rfl rfl rfl rfl rfl
  | repeated summary key keys ha => exact h
  | submitted summary key keys _ hsub => exact h.submitted_step hsub (hseq _ rfl)
  | approved stepId comments newBookingId newEventId step inst _ hd happ => exact h.approved_step hd happ
  | rejected stepId comments step inst _ hd hrej => exact h.rejected_step hd hrej
  | revised stepId comments step inst t hd ht => exact h.revised_step hd ht
  | venueCreated newId venueIn hall hed hnone hc => exact h.congr rfl rfl rfl rfl rfl rfl
  | venueUpdated venueIn vr hall hed hvr hc => exact h.congr rfl rfl rfl rfl rfl rfl
  | venueDeleted hed => exact h.congr rfl rfl rfl rfl rfl rfl
  | budgetCreated newId newItemId budgetIn items hed hnone hc =>
      exact h.congr rfl rfl rfl rfl rfl rfl
  | budgetUpdated budgetIn bp hed hbp hc => exact h.congr rfl rfl rfl rfl rfl rfl
  | budgetDeleted hed => exact h.congr rfl rfl rfl rfl rfl rfl
  | itemAdded newId itemIn bp total hed hbp => exact h.congr rfl rfl rfl rfl rfl rfl
  | itemUpdated itemId itemIn bp item total hed hbp hitem => exact h.congr rfl rfl rfl rfl rfl rfl
  | itemDeleted itemId bp item total hed hbp hitem => exact h.congr rfl rfl rfl rfl rfl rfl
  | verified verificationIn bp hbp => exact h.congr rfl rfl rfl rfl rfl rfl

end Steps

/-- **A dossier in order**: in standing, with its rows in order. -/
structure InOrder (d : Dossier) : Prop where
  standing : InStanding d
  rows : Orderly d.proposal

section Runs

variable {cfg : Config} {d d' : Dossier} {r : Request}

theorem InOrder.step (h : InOrder d) (hs : Traced cfg d r d') (hseq : r.InSequence) :
    InOrder d' := by
  refine ⟨h.standing.step hs, ?_⟩
  cases hs with
  | review env actor op d q entries hstep =>
      rw [Dossier.proposal_flushed]
      exact hstep.orderly h.rows hseq
  | withdrawn c p logs entries hst => exact h.rows.withdrawn_step hst
  | event c s s' hstep =>
      obtain ⟨booking, hrows⟩ := h.standing.event_rows hstep
      rw [Dossier.proposal_confirmed, hrows]
      exact h.rows.congr rfl rfl rfl rfl rfl rfl

theorem Drafted.inOrder (h : Drafted d) : InOrder d := by
  have hin := h.inStanding
  obtain ⟨request, logs, rfl, hdraft, hversion, hinst, _⟩ := h.row
  refine ⟨hin, hin.rows, ?_, ?_, ?_, ?_, ?_⟩
  · intro i hi
    cases hi
  · intro i hi
    cases hi
  · intro i hi
    cases hi
  · intro _
    exact ⟨hinst, .inl hdraft⟩
  · intro _
    exact hversion

/-- The states that runs reach whose submissions meet a template in sequence. -/
def Dossier.ReachableInSequence (cfg : Config) : Dossier → Prop :=
  Runs.Reach Drafted (Runs.restrict (Dossier.Step cfg) fun _ r => r.InSequence)

theorem Dossier.ReachableInSequence.inOrder (h : Dossier.ReachableInSequence cfg d) : InOrder d :=
  Runs.Reach.invariant (fun _ h0 => h0.inOrder)
    (fun _ _ _ hin hs => hin.step hs.1.traced hs.2) h

end Runs

/-! ## 6. The law -/

/-- **The workflow is in sequence.** -/
structure Sequencing (d : Dossier) : Prop where
  /-- The versions are numbered 1, 2, .. up to the current one. -/
  versions : d.proposal.versions.map EventRequestVersion.versionNumber =
    List.range' 1 d.proposal.request.currentVersion
  /-- Each version has exactly one instance, and each instance a version. -/
  oneInstance : ∀ v ∈ d.proposal.versions,
    ∃! i, i ∈ d.proposal.instances ∧ i.versionNumber = v.versionNumber
  oneVersion : ∀ i ∈ d.proposal.instances,
    ∃ v ∈ d.proposal.versions, v.versionNumber = i.versionNumber
  superseded : ∀ i ∈ d.proposal.instances,
    i.status = .superseded ↔ i.versionNumber ≠ d.proposal.request.currentVersion
  /-- An instance in progress belongs to a proposal under review or returned. -/
  inProgress : ∀ i ∈ d.proposal.instances, i.status = .inProgress →
    d.proposal.request.status = .submitted ∨ d.proposal.request.status = .inReview ∨
      d.proposal.request.status = .revisionRequired
  /-- Its steps below the current one are approved, those above are pending, and the current one
      waits, or was sent back exactly when the proposal was. -/
  current : ∀ i ∈ d.proposal.instances, i.status = .inProgress →
    (∃ step ∈ d.proposal.steps, step.instanceId = i.id ∧ step.stepOrder = i.currentStepOrder) ∧
    ∀ step ∈ d.proposal.steps, step.instanceId = i.id →
      (step.stepOrder < i.currentStepOrder → step.status = .approved) ∧
      (i.currentStepOrder < step.stepOrder → step.status = .pending) ∧
      (step.stepOrder = i.currentStepOrder →
        (step.status = .pending ∨ step.status = .revisionRequested) ∧
        (step.status = .revisionRequested ↔ d.proposal.request.status = .revisionRequired))
  /-- An instance is completed exactly when all its steps are approved, each for its version. -/
  completed : ∀ i ∈ d.proposal.instances,
    i.status = .completed ↔
      ∀ step ∈ d.proposal.steps, step.instanceId = i.id → step.status = .approved
  reviewed : ∀ i ∈ d.proposal.instances, i.status = .completed →
    ∀ step ∈ d.proposal.steps, step.instanceId = i.id → step.versionReviewed = some i.versionNumber
  /-- The proposal is approved exactly when its latest instance is completed, and then has its
      event. -/
  approved : d.proposal.request.status = .approved ↔
    ∃ i ∈ d.proposal.instances, i.versionNumber = d.proposal.request.currentVersion ∧
      i.status = .completed
  event : d.proposal.request.status = .approved ↔ d.event ≠ none

section Law

variable {p : Proposal} {i : WorkflowInstance}

/-- An instance in progress is under way, and was sent back exactly when the proposal was. -/
theorem Stage.inProgress (h : Stage p i) (hst : i.status = .inProgress) :
    (p.request.status = .submitted ∨ p.request.status = .inReview ∨
      p.request.status = .revisionRequired) ∧
    ∃ at_, UnderWay p i at_ ∧ (at_ = .pending ∨ at_ = .revisionRequested) ∧
      (at_ = .revisionRequested ↔ p.request.status = .revisionRequired) := by
  cases h with
  | underReview hreq hway =>
      have hnot : p.request.status ≠ .revisionRequired := by
        rcases hreq with hr | hr <;> rw [hr] <;> decide
      exact ⟨hreq.elim .inl fun hr => .inr (.inl hr), .pending, hway, .inl rfl,
        fun he => (nomatch he), fun he => (hnot he).elim⟩
  | returned hreq hway =>
      exact ⟨.inr (.inr hreq), .revisionRequested, hway, .inr rfl, fun _ => hreq, fun _ => rfl⟩
  | completed hreq hsti hall =>
      rw [hst] at hsti
      cases hsti
  | ended hreq hex =>
      rcases hreq with ⟨_, hsti⟩ | ⟨_, hsti⟩ <;> rw [hst] at hsti <;> cases hsti

/-- A completed instance has been signed step by step, and its proposal is approved. -/
theorem Stage.signed (h : Stage p i) (hst : i.status = .completed) :
    p.request.status = .approved ∧
      ∀ step ∈ p.steps, step.instanceId = i.id → Signed i step := by
  cases h with
  | underReview hreq hway =>
      have hway := hway.status
      rw [hst] at hway
      cases hway
  | returned hreq hway =>
      have hway := hway.status
      rw [hst] at hway
      cases hway
  | completed hreq _ hall => exact ⟨hreq, hall⟩
  | ended hreq hex =>
      rcases hreq with ⟨_, hsti⟩ | ⟨_, hsti⟩ <;> rw [hst] at hsti <;> cases hsti

/-- What is not completed has a step that is not approved. -/
theorem Stage.unsigned (h : Stage p i) :
    i.status = .completed ∨
      ∃ step ∈ p.steps, step.instanceId = i.id ∧ step.status ≠ .approved := by
  cases h with
  | underReview hreq hway =>
      obtain ⟨step, hstep, hown, hord⟩ := hway.current
      refine .inr ⟨step, hstep, hown, ?_⟩
      rw [hway.here step hstep hown hord]
      decide
  | returned hreq hway =>
      obtain ⟨step, hstep, hown, hord⟩ := hway.current
      refine .inr ⟨step, hstep, hown, ?_⟩
      rw [hway.here step hstep hown hord]
      decide
  | completed hreq hsti hall => exact .inl hsti
  | ended hreq hex => exact .inr hex

theorem Stage.not_superseded (h : Stage p i) : i.status ≠ .superseded := by
  intro hst
  rcases h with ⟨hreq, hway⟩ | ⟨hreq, hway⟩ | ⟨hreq, hsti, hall⟩ | ⟨hreq, hex⟩
  · have hway := hway.status
    rw [hst] at hway
    cases hway
  · have hway := hway.status
    rw [hst] at hway
    cases hway
  · rw [hst] at hsti
    cases hsti
  · rcases hreq with ⟨_, hsti⟩ | ⟨_, hsti⟩ <;> rw [hst] at hsti <;> cases hsti

/-- The latest instance of an approved proposal is completed. -/
theorem Stage.of_approved (h : Stage p i) (happ : p.request.status = .approved) :
    i.status = .completed := by
  cases h with
  | underReview hreq hway => rcases hreq with hr | hr <;> rw [happ] at hr <;> cases hr
  | returned hreq hway =>
      rw [happ] at hreq
      cases hreq
  | completed hreq hsti hall => exact hsti
  | ended hreq hex => rcases hreq with ⟨hr, _⟩ | ⟨hr, _⟩ <;> rw [happ] at hr <;> cases hr

theorem Orderly.stage (h : Orderly p) (hi : i ∈ p.instances) (hst : i.status ≠ .superseded) :
    Stage p i :=
  (h.latest i hi (h.latest_of_ne hi hst)).2

theorem Orderly.signed (h : Orderly p) (hi : i ∈ p.instances) (hst : i.status = .completed) :
    p.request.status = .approved ∧
      ∀ step ∈ p.steps, step.instanceId = i.id → Signed i step := by
  have hne : i.status ≠ .superseded := by
    rw [hst]
    decide
  exact (h.stage hi hne).signed hst

theorem Orderly.one_instance (h : Orderly p) :
    ∀ v ∈ p.versions, ∃! i, i ∈ p.instances ∧ i.versionNumber = v.versionNumber := by
  intro v hv
  have hm : v.versionNumber ∈ List.range' 1 p.request.currentVersion := by
    rw [← h.versions]
    exact List.mem_map_of_mem hv
  rw [← h.instances] at hm
  obtain ⟨i, hi, hn⟩ := List.mem_map.mp hm
  exact ⟨i, ⟨hi, hn⟩, fun j hj => h.instance_unique hj.1 hi (hj.2.trans hn.symm)⟩

theorem Orderly.one_version (h : Orderly p) :
    ∀ i ∈ p.instances, ∃ v ∈ p.versions, v.versionNumber = i.versionNumber := by
  intro i hi
  have hm : i.versionNumber ∈ List.range' 1 p.request.currentVersion := by
    rw [← h.instances]
    exact List.mem_map_of_mem hi
  rw [← h.versions] at hm
  exact List.mem_map.mp hm

theorem Orderly.superseded_iff (h : Orderly p) :
    ∀ i ∈ p.instances, i.status = .superseded ↔ i.versionNumber ≠ p.request.currentVersion := by
  intro i hi
  refine ⟨fun hst hn => ?_, fun hn => (h.superseded i hi hn).1⟩
  exact (h.latest i hi hn).2.not_superseded hst

theorem Orderly.completed_iff (h : Orderly p) :
    ∀ i ∈ p.instances, i.status = .completed ↔
      ∀ step ∈ p.steps, step.instanceId = i.id → step.status = .approved := by
  intro i hi
  refine ⟨fun hst step hstep hown => ((h.signed hi hst).2 step hstep hown).1, fun hall => ?_⟩
  have hopen : i.status = .completed ∨
      ∃ step ∈ p.steps, step.instanceId = i.id ∧ step.status ≠ .approved := by
    by_cases hn : i.versionNumber = p.request.currentVersion
    · exact (h.latest i hi hn).2.unsigned
    · exact .inr (h.superseded i hi hn).2
  rcases hopen with hst | ⟨step, hstep, hown, hne⟩
  · exact hst
  · exact (hne (hall step hstep hown)).elim

theorem Orderly.approved_iff (h : Orderly p) : p.request.status = .approved ↔
    ∃ i ∈ p.instances, i.versionNumber = p.request.currentVersion ∧ i.status = .completed := by
  refine ⟨fun happ => ?_, fun ⟨i, hi, _, hst⟩ => (h.signed hi hst).1⟩
  have hversion : p.request.currentVersion ≠ 0 := by
    intro h0
    rcases (h.unsubmitted h0).2 with hr | hr <;> rw [happ] at hr <;> cases hr
  obtain ⟨i, hi, hn⟩ := h.exists_latest hversion
  exact ⟨i, hi, hn, (h.latest i hi hn).2.of_approved happ⟩

end Law

theorem InOrder.sequencing {d : Dossier} (h : InOrder d) : Sequencing d := by
  have ho := h.rows
  have hprogress : ∀ i ∈ d.proposal.instances, i.status = .inProgress → Stage d.proposal i := by
    intro i hi hst
    refine ho.stage hi ?_
    rw [hst]
    decide
  constructor
  · exact ho.versions
  · exact ho.one_instance
  · exact ho.one_version
  · exact ho.superseded_iff
  · intro i hi hst
    exact ((hprogress i hi hst).inProgress hst).1
  · intro i hi hst
    obtain ⟨_, at_, hway, hat, hreturned⟩ := (hprogress i hi hst).inProgress hst
    refine ⟨hway.current, fun step hstep hown => ⟨fun hlt => ?_, ?_, fun heq => ?_⟩⟩
    · exact (hway.below step hstep hown hlt).1
    · exact hway.above step hstep hown
    · rw [hway.here step hstep hown heq]
      exact ⟨hat, hreturned⟩
  · exact ho.completed_iff
  · intro i hi hst step hstep hown
    exact ((ho.signed hi hst).2 step hstep hown).2
  · exact ho.approved_iff
  · exact h.standing.event

/-- **Workflow sequencing.** Over every run whose submissions meet a template with steps of orders
    1..n, any n, the versions, instances, steps, proposal and event fit together in every reachable
    state, and APPROVED, REJECTED and CANCELLED are never left. -/
theorem workflow_sequencing (cfg : Config) {d : Dossier} (h : Dossier.ReachableInSequence cfg d) :
    Sequencing d ∧
      ∀ requests d', Runs.Path (Runs.restrict (Dossier.Step cfg) fun _ r => r.InSequence) d requests
        d' → d.proposal.request.status.Ended →
          d'.proposal.request.status = d.proposal.request.status := by
  refine ⟨h.inOrder.sequencing, ?_⟩
  intro requests d' hpath hend
  have hkeep := Runs.Path.preserves
    (P := fun e => InOrder e ∧ e.proposal.request.status = d.proposal.request.status) ?_ hpath
    ⟨h.inOrder, rfl⟩
  · exact hkeep.2
  · intro e r e' he hs
    have hend' : e.proposal.request.status.Ended := by
      rw [he.2]
      exact hend
    exact ⟨he.1.step hs.1.traced hs.2,
      (he.1.standing.ended_step hs.1.traced hend').trans he.2⟩

theorem standardSteps_inSequence : InSequence standardSteps := ⟨6, by decide, by decide⟩

/-- A run whose submissions meet the standard template. -/
theorem inSequence_of_standard {requests : List Request}
    (h : ∀ r ∈ requests, r.template = none ∨ r.template = some standardSteps) :
    ∀ r ∈ requests, r.InSequence := by
  intro r hr t ht
  rcases h r hr with hn | hs
  · rw [hn] at ht
    cases ht
  · rw [hs] at ht
    cases ht
    exact standardSteps_inSequence

/-- The sample proposal, sent back once and approved in its second version. -/
theorem workflow_sequencing_approved :
    ∃ d, Dossier.ReachableInSequence (Sample.config .sqlite) d ∧ Sequencing d ∧
      d.proposal.request.status = .approved ∧ d.proposal.request.currentVersion = 2 := by
  let requests := Sample.plan ++ [Sample.submit Sample.staff Sample.secretary 1,
    Sample.approve Sample.advisor 1 1, Sample.revise Sample.warden 1 2,
    Sample.submit Sample.staff Sample.secretary 2] ++ Sample.approveAll 2
  have hrun : Runs.Ends (Sample.after requests) fun d =>
      d.proposal.request.status = .approved ∧ d.proposal.request.currentVersion = 2 := by
    decide
  obtain ⟨d, hok, happ, hver⟩ := hrun
  obtain ⟨d0, h0, hpath⟩ := Sample.path_of_after hok
  have hseq : ∀ r ∈ requests, r.InSequence := inSequence_of_standard (by decide)
  have hreach : Dossier.ReachableInSequence (Sample.config .sqlite) d :=
    Runs.Reach.path (.start h0) (hpath.under hseq)
  exact ⟨d, hreach, (workflow_sequencing (Sample.config .sqlite) hreach).1, happ, hver⟩

end CampusConnect
