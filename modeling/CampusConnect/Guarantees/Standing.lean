/-
  File:      CampusConnect/Guarantees/Standing.lean
  Subject:   Where a proposal stands, for any template: which decisions are open, and when.

  * `Standing`: the invariant that ties versions, instances, steps and the proposal's status;
  * `Standing.deciding`: an accepted decision finds the instance the proposal points to, under review;
  * `ReviewStep.standing`, `Standing.withdrawn`: every operation keeps it;
  * `ReviewStep.of_ended`, `Dossier.Reachable.inStanding`: what an ended proposal still takes, and that
    the event is there exactly for an approved proposal.
-/
import CampusConnect.Review

namespace CampusConnect

open Guarded Rows EventService WorkflowService

/-! ## 1. The invariant -/

/-- An instance in progress waits for a decision, or for a new version. -/
def Waiting (p : Proposal) (i : WorkflowInstance) : Prop :=
  p.request.status = .submitted ∨ p.request.status = .inReview ∨
    (p.request.status = .revisionRequired ∧
      ∀ step ∈ p.steps, step.instanceId = i.id → step.stepOrder = i.currentStepOrder →
        step.status ≠ .pending)

/-- **Where the rows of a proposal stand.** -/
structure Standing (p : Proposal) : Prop where
  versions : p.versions.map EventRequestVersion.versionNumber =
    List.range' 1 p.request.currentVersion
  instances : p.instances.rows.map WorkflowInstance.versionNumber =
    List.range' 1 p.request.currentVersion
  belongs : ∀ step ∈ p.steps, ∃ i ∈ p.instances, i.id = step.instanceId
  distinct : ∀ step ∈ p.steps, ∀ other ∈ p.steps, step.instanceId = other.instanceId →
    step.stepOrder = other.stepOrder → step = other
  reviewed : ∀ step ∈ p.steps, ∀ i ∈ p.instances, i.id = step.instanceId →
    step.versionReviewed = some i.versionNumber
  current : ∀ i ∈ p.instances, p.request.workflowInstanceId = some i.id →
    i.versionNumber = p.request.currentVersion
  inProgress : ∀ i ∈ p.instances, i.status = .inProgress →
    p.request.workflowInstanceId = some i.id ∧ Waiting p i
  completed : ∀ i ∈ p.instances, i.status = .completed →
    p.request.workflowInstanceId = some i.id ∧ p.request.status = .approved
  approved : p.request.status = .approved →
    ∃ i ∈ p.instances, p.request.workflowInstanceId = some i.id ∧ i.status = .completed

namespace Standing

variable {p q : Proposal}

/-- The invariant reads these columns only. -/
theorem congr (h : Standing p) (hv : q.versions = p.versions) (hi : q.instances = p.instances)
    (hs : q.steps = p.steps) (hc : q.request.currentVersion = p.request.currentVersion)
    (hst : q.request.status = p.request.status)
    (hw : q.request.workflowInstanceId = p.request.workflowInstanceId) : Standing q := by
  have hwait : ∀ i, Waiting p i → Waiting q i := by
    intro i hwi
    unfold Waiting at hwi ⊢
    rw [hst, hs]
    exact hwi
  refine ⟨?_, ?_, ?_, ?_, ?_, ?_, ?_, ?_, ?_⟩
  · rw [hv, hc]
    exact h.versions
  · rw [hi, hc]
    exact h.instances
  · rw [hs, hi]
    exact h.belongs
  · rw [hs]
    exact h.distinct
  · rw [hs, hi]
    exact h.reviewed
  · rw [hi, hw, hc]
    exact h.current
  · rw [hi, hw]
    intro i hm hp
    obtain ⟨hlink, hwi⟩ := h.inProgress i hm hp
    exact ⟨hlink, hwait i hwi⟩
  · rw [hi, hw, hst]
    exact h.completed
  · rw [hi, hw, hst]
    exact h.approved

/-- The instance in progress is the one a submission supersedes and a withdrawal cancels. -/
theorem prior (h : Standing p) {i : WorkflowInstance} (hi : i ∈ p.instances)
    (hst : i.status = .inProgress) : priorInstance p = some i := by
  have hfind : p.instances.find i.id = some i := Table.find_of_mem hi
  unfold priorInstance
  rw [(h.inProgress i hi hst).1, Option.bind_some, hfind]
  exact Option.filter_eq_some_iff.mpr ⟨rfl, by rw [decide_eq_true_eq]; exact hst⟩

/-- One instance for each version. -/
theorem instance_unique (h : Standing p) {i j : WorkflowInstance} (hi : i ∈ p.instances)
    (hj : j ∈ p.instances) (hn : i.versionNumber = j.versionNumber) : i = j := by
  have hnodup : (p.instances.rows.map WorkflowInstance.versionNumber).Nodup := by
    rw [h.instances]
    exact List.nodup_range'
  exact List.inj_on_of_nodup_map hnodup hi hj hn

theorem instance_bounds (h : Standing p) {i : WorkflowInstance} (hi : i ∈ p.instances) :
    1 ≤ i.versionNumber ∧ i.versionNumber ≤ p.request.currentVersion := by
  have hm : i.versionNumber ∈ List.range' 1 p.request.currentVersion := by
    rw [← h.instances]
    exact List.mem_map.mpr ⟨i, hi, rfl⟩
  rw [List.mem_range'_1] at hm
  omega

theorem version_bounds (h : Standing p) {v : EventRequestVersion} (hv : v ∈ p.versions) :
    v.versionNumber ≤ p.request.currentVersion := by
  have hm : v.versionNumber ∈ List.range' 1 p.request.currentVersion := by
    rw [← h.versions]
    exact List.mem_map_of_mem hv
  rw [List.mem_range'_1] at hm
  omega

/-- One version of each number. -/
theorem version_unique (h : Standing p) {v w : EventRequestVersion} (hv : v ∈ p.versions)
    (hw : w ∈ p.versions) (hn : v.versionNumber = w.versionNumber) : v = w := by
  have hnodup : (p.versions.map EventRequestVersion.versionNumber).Nodup := by
    rw [h.versions]
    exact List.nodup_range'
  exact List.inj_on_of_nodup_map hnodup hv hw hn

end Standing

/-- The prior instance is a row in progress, and the proposal points to it. -/
theorem priorInstance_mem {p : Proposal} {i : WorkflowInstance} (h : priorInstance p = some i) :
    i ∈ p.instances ∧ i.status = .inProgress ∧ p.request.workflowInstanceId = some i.id := by
  obtain ⟨hbind, hst⟩ := Option.filter_eq_some_iff.mp h
  obtain ⟨id, hlink, hfind⟩ := Option.bind_eq_some_iff.mp hbind
  have hid : i.id = id := Table.key_of_find hfind
  rw [decide_eq_true_eq] at hst
  exact ⟨Table.mem_of_find hfind, hst, by rw [hlink, hid]⟩

/-! ## 2. Decisions -/

/-- An accepted decision finds the instance the proposal points to, under review. -/
structure Deciding (p : Proposal) (step : WorkflowInstanceStep) (inst : WorkflowInstance) :
    Prop where
  stepMem : step ∈ p.steps
  instMem : inst ∈ p.instances
  own : step.instanceId = inst.id
  link : p.request.workflowInstanceId = some inst.id
  current : step.stepOrder = inst.currentStepOrder
  request : p.request.status = .submitted ∨ p.request.status = .inReview

theorem Standing.deciding {actor : User} {stepId : Uuid} {p : Proposal}
    {step : WorkflowInstanceStep} {inst : WorkflowInstance} (h : Standing p)
    (hd : StepDecision actor stepId p step inst) : Deciding p step inst := by
  have hstep : step ∈ p.steps := Table.mem_of_find hd.stepFound
  have hinst : inst ∈ p.instances := Table.mem_of_find hd.instFound
  have hown : step.instanceId = inst.id := hd.inst_id.symm
  obtain ⟨hlink, hwait⟩ := h.inProgress inst hinst hd.inProgress
  refine ⟨hstep, hinst, hown, hlink, hd.current, ?_⟩
  rcases hwait with hr | hr | ⟨_, hno⟩
  · exact .inl hr
  · exact .inr hr
  · exact (hno step hstep hown hd.current hd.pending).elim

/-- The rows of `q` are those of `p`, with the same keys, orders and numbers. -/
structure SameShape (p q : Proposal) : Prop where
  versions : q.versions = p.versions
  current : q.request.currentVersion = p.request.currentVersion
  link : q.request.workflowInstanceId = p.request.workflowInstanceId
  numbers : q.instances.rows.map WorkflowInstance.versionNumber =
    p.instances.rows.map WorkflowInstance.versionNumber
  instances_of : ∀ j ∈ q.instances, ∃ i ∈ p.instances, i.id = j.id ∧
    i.versionNumber = j.versionNumber
  instances_to : ∀ i ∈ p.instances, ∃ j ∈ q.instances, j.id = i.id
  steps_of : ∀ step ∈ q.steps, ∃ old ∈ p.steps, old.id = step.id ∧
    old.instanceId = step.instanceId ∧ old.stepOrder = step.stepOrder ∧
    old.versionReviewed = step.versionReviewed
  steps_to : ∀ old ∈ p.steps, ∃ step ∈ q.steps, step.instanceId = old.instanceId ∧
    step.stepOrder = old.stepOrder

/-- A change of the instance the proposal points to, and of steps, keeps the invariant when what it
    says of that instance does. -/
theorem Standing.of_shape {p q : Proposal} {inst : WorkflowInstance} (h : Standing p)
    (hs : SameShape p q) (hi : inst ∈ p.instances)
    (hlink : p.request.workflowInstanceId = some inst.id)
    (hkept : ∀ j ∈ q.instances, j.id ≠ inst.id → j ∈ p.instances)
    (hwait : ∀ j ∈ q.instances, j.id = inst.id → j.status = .inProgress → Waiting q j)
    (hdone : ∀ j ∈ q.instances, j.id = inst.id →
      (j.status = .completed ↔ q.request.status = .approved)) : Standing q := by
  have hother : ∀ j ∈ q.instances, j.status = .inProgress ∨ j.status = .completed →
      j.id = inst.id := by
    intro j hj hst
    by_contra hne
    have hlink' : p.request.workflowInstanceId = some j.id := by
      rcases hst with hst | hst
      · exact (h.inProgress j (hkept j hj hne) hst).1
      · exact (h.completed j (hkept j hj hne) hst).1
    exact hne (Option.some.inj (hlink'.symm.trans hlink))
  refine ⟨?_, ?_, ?_, ?_, ?_, ?_, ?_, ?_, ?_⟩
  · rw [hs.versions, hs.current]
    exact h.versions
  · rw [hs.numbers, hs.current]
    exact h.instances
  · intro step hstep
    obtain ⟨old, hold, _, hown, _⟩ := hs.steps_of step hstep
    obtain ⟨i, him, hid⟩ := h.belongs old hold
    obtain ⟨j, hj, hjid⟩ := hs.instances_to i him
    exact ⟨j, hj, by rw [hjid, hid, hown]⟩
  · intro step hstep other hoth hown hord
    obtain ⟨old, hold, hid, hown1, hord1, _⟩ := hs.steps_of step hstep
    obtain ⟨old', hold', hid', hown2, hord2, _⟩ := hs.steps_of other hoth
    have heq : old = old' := h.distinct old hold old' hold' (by rw [hown1, hown2, hown])
      (by rw [hord1, hord2, hord])
    have hkey : step.id = other.id := by rw [← hid, ← hid', heq]
    exact Table.eq_of_key_eq hstep hoth hkey
  · intro step hstep j hj hjid
    obtain ⟨old, hold, _, hown, _, hrev⟩ := hs.steps_of step hstep
    obtain ⟨i, him, hid, hnum⟩ := hs.instances_of j hj
    rw [← hrev, ← hnum]
    exact h.reviewed old hold i him (by rw [hid, hjid, hown])
  · intro j hj hl
    obtain ⟨i, him, hid, hnum⟩ := hs.instances_of j hj
    rw [hs.link] at hl
    rw [hs.current, ← hnum]
    exact h.current i him (by rw [hl, hid])
  · intro j hj hst
    have hid := hother j hj (.inl hst)
    exact ⟨by rw [hs.link, hlink, hid], hwait j hj hid hst⟩
  · intro j hj hst
    have hid := hother j hj (.inr hst)
    exact ⟨by rw [hs.link, hlink, hid], (hdone j hj hid).mp hst⟩
  · intro happ
    obtain ⟨j, hj, hid⟩ := hs.instances_to inst hi
    exact ⟨j, hj, by rw [hs.link, hlink, hid], (hdone j hj hid).mpr happ⟩

section Decisions

variable {env : ReviewEnv} {actor : User} {stepId : Uuid} {p q : Proposal}
variable {step d : WorkflowInstanceStep} {inst i' : WorkflowInstance}

/-- The decided row differs from the step in its decision only. -/
structure SameStep (step d : WorkflowInstanceStep) : Prop where
  id : d.id = step.id
  own : d.instanceId = step.instanceId
  order : d.stepOrder = step.stepOrder
  reviewed : d.versionReviewed = step.versionReviewed

theorem Deciding.sameStep (h : Standing p) (hat : Deciding p step inst)
    (status : WorkflowStepStatus) (comments : Option Text) :
    SameStep step (decideStep env status comments step inst step) :=
  ⟨rfl, rfl, rfl, (h.reviewed step hat.stepMem inst hat.instMem hat.own.symm).symm⟩

/-- The shape after one step row is rewritten. -/
theorem steps_of_replace (hstep : step ∈ p.steps) (hsteps : p.steps.replace d = some q.steps)
    (hd : SameStep step d) :
    (∀ st ∈ q.steps, ∃ old ∈ p.steps, old.id = st.id ∧ old.instanceId = st.instanceId ∧
      old.stepOrder = st.stepOrder ∧ old.versionReviewed = st.versionReviewed) ∧
    ∀ old ∈ p.steps, ∃ st ∈ q.steps, st.instanceId = old.instanceId ∧
      st.stepOrder = old.stepOrder := by
  refine ⟨?_, ?_⟩
  · intro st hst
    rcases Table.mem_replace hsteps hst with rfl | ⟨hm, _⟩
    · exact ⟨step, hstep, hd.id.symm, hd.own.symm, hd.order.symm, hd.reviewed.symm⟩
    · exact ⟨st, hm, rfl, rfl, rfl, rfl⟩
  · intro old hold
    by_cases he : old.id = d.id
    · have heq : old = step := Table.eq_of_key_eq hold hstep (he.trans hd.id)
      refine ⟨d, Table.mem_replace_self hsteps hold he, ?_, ?_⟩
      · rw [heq]
        exact hd.own
      · rw [heq]
        exact hd.order
    · exact ⟨old, Table.mem_replace_of_ne hsteps hold he, rfl, rfl⟩

/-- The shape after one instance row is rewritten. -/
theorem instances_of_replace (hinst : inst ∈ p.instances)
    (hinsts : p.instances.replace i' = some q.instances) (hid : i'.id = inst.id)
    (hnum : i'.versionNumber = inst.versionNumber) :
    (∀ j ∈ q.instances, ∃ i ∈ p.instances, i.id = j.id ∧ i.versionNumber = j.versionNumber) ∧
    ∀ i ∈ p.instances, ∃ j ∈ q.instances, j.id = i.id := by
  refine ⟨?_, ?_⟩
  · intro j hj
    rcases Table.mem_replace hinsts hj with rfl | ⟨hm, _⟩
    · exact ⟨inst, hinst, hid.symm, hnum.symm⟩
    · exact ⟨j, hm, rfl, rfl⟩
  · intro i hm
    by_cases he : i.id = i'.id
    · exact ⟨i', Table.mem_replace_self hinsts hm he, he.symm⟩
    · exact ⟨i, Table.mem_replace_of_ne hinsts hm he, rfl⟩

/-- The shape after one step row and one instance row are rewritten. -/
theorem SameShape.of_replace (hstep : step ∈ p.steps) (hinst : inst ∈ p.instances)
    (hsteps : p.steps.replace d = some q.steps) (hd : SameStep step d)
    (hinsts : p.instances.replace i' = some q.instances) (hid : i'.id = inst.id)
    (hnum : i'.versionNumber = inst.versionNumber) (hv : q.versions = p.versions)
    (hc : q.request.currentVersion = p.request.currentVersion)
    (hw : q.request.workflowInstanceId = p.request.workflowInstanceId) : SameShape p q := by
  obtain ⟨hof, hto⟩ := steps_of_replace hstep hsteps hd
  obtain ⟨hiof, hito⟩ := instances_of_replace hinst hinsts hid hnum
  exact ⟨hv, hc, hw, Table.map_replace hinsts hinst hid.symm hnum, hiof, hito, hof, hto⟩

theorem other_instances (hinsts : p.instances.replace i' = some q.instances)
    (hid : i'.id = inst.id) : ∀ j ∈ q.instances, j.id ≠ inst.id → j ∈ p.instances := by
  intro j hj hne
  rcases Table.mem_replace hinsts hj with rfl | ⟨hm, _⟩
  · exact (hne hid).elim
  · exact hm

/-- The rewritten row is the one of its key. -/
theorem rewritten_instance (hinst : inst ∈ p.instances)
    (hinsts : p.instances.replace i' = some q.instances) (hid : i'.id = inst.id)
    {j : WorkflowInstance} (hj : j ∈ q.instances) (hjid : j.id = inst.id) : j = i' :=
  Table.eq_of_key_eq hj (Table.mem_replace_self hinsts hinst hid.symm) (hjid.trans hid.symm)

theorem approved_shape {comments : Option Text} {newId : Uuid} (h : Standing p)
    (hat : Deciding p step inst) (ha : Approved env actor comments newId p step inst q) :
    SameShape p q := by
  have hc : q.request.currentVersion = p.request.currentVersion :=
    (congrArg EventRequest.currentVersion ha.request).trans rfl
  have hw : q.request.workflowInstanceId = p.request.workflowInstanceId :=
    (congrArg EventRequest.workflowInstanceId ha.request).trans rfl
  have hd : SameStep step (decideStep env .approved comments step inst step) :=
    hat.sameStep h .approved comments
  rcases ha.moved.cases with ⟨next, _, hinsts, _⟩ | ⟨_, hinsts, _⟩
  · exact .of_replace hat.stepMem hat.instMem ha.steps hd hinsts rfl rfl ha.versions hc hw
  · exact .of_replace hat.stepMem hat.instMem ha.steps hd hinsts rfl rfl ha.versions hc hw

theorem Standing.approved_step {comments : Option Text} {newId : Uuid} (h : Standing p)
    (hd : StepDecision actor stepId p step inst)
    (ha : Approved env actor comments newId p step inst q) : Standing q := by
  have hat := h.deciding hd
  rcases ha.moved.cases with ⟨next, _, hinsts, hst⟩ | ⟨_, hinsts, hst⟩
  · have hreq : q.request.status = .inReview := by
      rw [hst]
      rcases hat.request with hr | hr <;> rw [hr] <;> rfl
    refine h.of_shape (approved_shape h hat ha) hat.instMem hat.link (other_instances hinsts rfl) ?_ ?_
    · intro j hj hid _
      exact .inr (.inl hreq)
    · intro j hj hid
      obtain rfl := rewritten_instance hat.instMem hinsts rfl hj hid
      rw [hreq]
      refine ⟨fun he => ?_, fun he => nomatch he⟩
      have he' : inst.status = .completed := he
      rw [hd.inProgress] at he'
      cases he'
  · refine h.of_shape (approved_shape h hat ha) hat.instMem hat.link (other_instances hinsts rfl) ?_ ?_
    · intro j hj hid hp
      obtain rfl := rewritten_instance hat.instMem hinsts rfl hj hid
      cases hp
    · intro j hj hid
      obtain rfl := rewritten_instance hat.instMem hinsts rfl hj hid
      exact ⟨fun _ => hst, fun _ => rfl⟩

theorem rejected_shape {comments : Text} (h : Standing p) (hat : Deciding p step inst)
    (hr : Rejected env comments p step inst q) : SameShape p q :=
  .of_replace hat.stepMem hat.instMem hr.steps (hat.sameStep h .rejected (some comments))
    hr.instances rfl rfl hr.versions ((congrArg EventRequest.currentVersion hr.request).trans rfl)
    ((congrArg EventRequest.workflowInstanceId hr.request).trans rfl)

theorem Standing.rejected_step {comments : Text} (h : Standing p)
    (hd : StepDecision actor stepId p step inst) (hr : Rejected env comments p step inst q) :
    Standing q := by
  have hat := h.deciding hd
  have hst : q.request.status = .rejected :=
    (congrArg EventRequest.status hr.request).trans rfl
  refine h.of_shape (rejected_shape h hat hr) hat.instMem hat.link (other_instances hr.instances rfl) ?_ ?_
  · intro j hj hid hp
    obtain rfl := rewritten_instance hat.instMem hr.instances rfl hj hid
    cases hp
  · intro j hj hid
    obtain rfl := rewritten_instance hat.instMem hr.instances rfl hj hid
    rw [hst]
    exact ⟨fun he => (nomatch he), fun he => (nomatch he)⟩

theorem revised_shape {comments : Text} {t : Table WorkflowInstanceStep} (h : Standing p)
    (hat : Deciding p step inst)
    (ht : p.steps.replace (decideStep env .revisionRequested (some comments) step inst step) =
      some t) :
    SameShape p
      { p with steps := t, request := { p.request with status := .revisionRequired } } := by
  obtain ⟨hof, hto⟩ := steps_of_replace (q := { p with steps := t }) hat.stepMem ht
    (hat.sameStep h .revisionRequested (some comments))
  exact ⟨rfl, rfl, rfl, rfl, fun j hj => ⟨j, hj, rfl, rfl⟩, fun i hi => ⟨i, hi, rfl⟩, hof, hto⟩

theorem Standing.revised_step {comments : Text} {t : Table WorkflowInstanceStep} (h : Standing p)
    (hd : StepDecision actor stepId p step inst)
    (ht : p.steps.replace (decideStep env .revisionRequested (some comments) step inst step) =
      some t) :
    Standing { p with steps := t, request := { p.request with status := .revisionRequired } } := by
  have hat := h.deciding hd
  refine h.of_shape (revised_shape h hat ht) hat.instMem hat.link (fun j hj _ => hj) ?_ ?_
  · intro j hj hid _
    obtain rfl : j = inst := Table.eq_of_key_eq hj hat.instMem hid
    refine .inr (.inr ⟨rfl, ?_⟩)
    -- the one step of the current order is the decided one
    intro st hst hown hord hp
    rcases Table.mem_replace ht hst with rfl | ⟨hm, hne⟩
    · cases hp
    · have hsame : st = step := h.distinct st hm step hat.stepMem (hown.trans hat.own.symm)
        (hord.trans hat.current.symm)
      exact hne (by rw [hsame]; rfl)
  · intro j hj hid
    obtain rfl : j = inst := Table.eq_of_key_eq hj hat.instMem hid
    rw [hd.inProgress]
    exact ⟨fun he => (nomatch he), fun he => (nomatch he)⟩

end Decisions

/-! ## 3. Submissions and withdrawals -/

section Submissions

variable {env : ReviewEnv} {actor : User} {p q : Proposal}

theorem mem_instanceSteps {clubId newId : Uuid} {newStepId : Nat → Uuid} {version : Nat}
    {st : WorkflowInstanceStep} (h : st ∈ instanceSteps env clubId actor newId newStepId version) :
    st.instanceId = newId ∧ st.status = .pending ∧ st.versionReviewed = some version := by
  obtain ⟨t, _, rfl⟩ := List.mem_map.mp h
  exact ⟨rfl, rfl, rfl⟩

/-- The instances a submission finds: the one in progress is superseded, the rest are kept. -/
structure Retired (p : Proposal) (t : Table WorkflowInstance) : Prop where
  numbers : t.rows.map WorkflowInstance.versionNumber =
    p.instances.rows.map WorkflowInstance.versionNumber
  idle : ∀ j ∈ t, j.status ≠ .inProgress ∧ j.status ≠ .completed
  old : ∀ j ∈ t, ∃ i ∈ p.instances, i.id = j.id ∧ i.versionNumber = j.versionNumber
  kept : ∀ i ∈ p.instances, ∃ j ∈ t, j.id = i.id

theorem Standing.retired (h : Standing p) (hed : p.request.Editable) {t : Table WorkflowInstance}
    (ht : WorkflowService.superseded p = some t) : Retired p t := by
  have hdone : ∀ i ∈ p.instances, i.status ≠ .completed := by
    intro i hi hst
    have happ := (h.completed i hi hst).2
    rcases hed with hr | hr <;> rw [happ] at hr <;> cases hr
  unfold WorkflowService.superseded at ht
  cases hprior : priorInstance p with
  | none =>
      rw [hprior] at ht
      cases ht
      refine ⟨rfl, fun j hj => ⟨fun hst => ?_, hdone j hj⟩, fun j hj => ⟨j, hj, rfl, rfl⟩,
        fun i hi => ⟨i, hi, rfl⟩⟩
      have hsome := h.prior hj hst
      rw [hprior] at hsome
      cases hsome
  | some i =>
      rw [hprior] at ht
      obtain ⟨hi, _, hlink⟩ := priorInstance_mem hprior
      refine ⟨Table.map_replace ht hi rfl rfl, ?_, ?_, ?_⟩
      · intro j hj
        rcases Table.mem_replace ht hj with rfl | ⟨hm, hne⟩
        · exact ⟨fun he => (nomatch he), fun he => (nomatch he)⟩
        · refine ⟨fun hst => hne ?_, hdone j hm⟩
          have hid : j.id = i.id :=
            Option.some.inj ((h.inProgress j hm hst).1.symm.trans hlink)
          exact hid
      · intro j hj
        rcases Table.mem_replace ht hj with rfl | ⟨hm, _⟩
        · exact ⟨i, hi, rfl, rfl⟩
        · exact ⟨j, hm, rfl, rfl⟩
      · intro j hj
        by_cases he : j.id = i.id
        · exact ⟨_, Table.mem_replace_self ht hj he, he.symm⟩
        · exact ⟨j, Table.mem_replace_of_ne ht hj he, rfl⟩

/-- No old step belongs to the new instance. -/
theorem Standing.apart {newId : Uuid} {t : Table WorkflowInstance} (h : Standing p)
    (hret : Retired p t) (hnew : ∀ j ∈ t, j.id ≠ newId) :
    ∀ st ∈ p.steps, st.instanceId ≠ newId := by
  intro st hst he
  obtain ⟨i, hi, hid⟩ := h.belongs st hst
  obtain ⟨j, hj, hjid⟩ := hret.kept i hi
  exact hnew j hj (by rw [hjid, hid, he])

theorem Standing.submitted_step {summary key : Option Text} {keys : SubmissionKeys}
    (h : Standing p) (hs : Submitted env actor summary key keys p q) : Standing q := by
  obtain ⟨t, ht, hins⟩ := hs.instances
  have hret := h.retired hs.editable ht
  have hc : q.request.currentVersion = p.request.currentVersion + 1 :=
    (congrArg EventRequest.currentVersion hs.request).trans rfl
  have hlink : q.request.workflowInstanceId = some keys.inst :=
    (congrArg EventRequest.workflowInstanceId hs.request).trans rfl
  have hst : q.request.status = .submitted :=
    (congrArg EventRequest.status hs.request).trans rfl
  have hnew : ∀ j ∈ t, j.id ≠ keys.inst := fun j hj he =>
    (Table.insert_eq_some.mp hins).1.2 (List.mem_map.mpr ⟨j, hj, he⟩)
  have hapart := h.apart hret hnew
  have hmem : ∀ {st}, st ∈ q.steps ↔ st ∈ p.steps ∨ st ∈ instanceSteps env p.request.clubId actor
      keys.inst keys.step (p.request.currentVersion + 1) := Table.mem_insertAll hs.steps
  have hinst : ∀ {j}, j ∈ q.instances ↔
      j ∈ t ∨ j = newInstance keys.inst (p.request.currentVersion + 1) := Table.mem_insert hins
  refine ⟨?_, ?_, ?_, ?_, ?_, ?_, ?_, ?_, ?_⟩
  · rw [hs.versions, hc, List.map_append, h.versions, List.range'_1_concat, Nat.add_comm 1]
    rfl
  · rw [(Table.insert_eq_some.mp hins).2, hc, List.map_append, hret.numbers, h.instances,
      List.range'_1_concat, Nat.add_comm 1]
    rfl
  · intro st hstm
    rcases hmem.mp hstm with hstm | hstm
    · obtain ⟨i, hi, hid⟩ := h.belongs st hstm
      obtain ⟨j, hj, hjid⟩ := hret.kept i hi
      exact ⟨j, hinst.mpr (.inl hj), hjid.trans hid⟩
    · exact ⟨_, hinst.mpr (.inr rfl), (mem_instanceSteps hstm).1.symm⟩
  · intro st hstm other hoth hown hord
    rcases hmem.mp hstm with hstm | hstm <;> rcases hmem.mp hoth with hoth | hoth
    · exact h.distinct st hstm other hoth hown hord
    · exact (hapart st hstm (hown.trans (mem_instanceSteps hoth).1)).elim
    · exact (hapart other hoth (hown.symm.trans (mem_instanceSteps hstm).1)).elim
    · exact List.inj_on_of_nodup_map hs.orders hstm hoth hord
  · intro st hstm j hj hid
    rcases hmem.mp hstm with hstm | hstm <;> rcases hinst.mp hj with hj | rfl
    · obtain ⟨i, hi, hiid, hnum⟩ := hret.old j hj
      rw [← hnum]
      exact h.reviewed st hstm i hi (hiid.trans hid)
    · exact (hapart st hstm hid.symm).elim
    · exact (hnew j hj (hid.trans (mem_instanceSteps hstm).1)).elim
    · exact (mem_instanceSteps hstm).2.2
  · intro j hj hl
    rcases hinst.mp hj with hj | rfl
    · exact (hnew j hj (Option.some.inj (hl.symm.trans hlink))).elim
    · exact hc.symm
  · intro j hj hp
    rcases hinst.mp hj with hj | rfl
    · exact ((hret.idle j hj).1 hp).elim
    · exact ⟨hlink, .inl hst⟩
  · intro j hj hp
    rcases hinst.mp hj with hj | rfl
    · exact ((hret.idle j hj).2 hp).elim
    · cases hp
  · intro happ
    rw [hst] at happ
    cases happ

end Submissions

section Withdrawals

variable {p : Proposal}

theorem skipPending_kept (i : Uuid) (step : WorkflowInstanceStep) :
    (skipPending i step).instanceId = step.instanceId ∧
      (skipPending i step).stepOrder = step.stepOrder ∧
      (skipPending i step).versionReviewed = step.versionReviewed := by
  unfold skipPending
  by_cases h : step.instanceId = i ∧ step.status = .pending
  · rw [if_pos h]
    exact ⟨rfl, rfl, rfl⟩
  · rw [if_neg h]
    exact ⟨rfl, rfl, rfl⟩

/-- What a withdrawal leaves of the rows the invariant reads. -/
theorem withdrawn_rows (p : Proposal) :
    (withdrawn p).versions = p.versions ∧ (withdrawn p).instances = (cancelWorkflow p).instances ∧
      (withdrawn p).steps = (cancelWorkflow p).steps ∧
      (withdrawn p).request =
        { p.request with status := .cancelled, versionLock := p.request.versionLock + 1 } := by
  have hreq : (cancelWorkflow p).request = p.request := by
    unfold cancelWorkflow
    cases activeInstance p <;> rfl
  unfold withdrawn
  rw [releaseHall_eq]
  refine ⟨cancelWorkflow_versions p, rfl, rfl, ?_⟩
  show { (cancelWorkflow p).request with
    status := .cancelled
    versionLock := (cancelWorkflow p).request.versionLock + 1 } = _
  rw [hreq]

/-- A withdrawal of a proposal without an instance under way leaves instances and steps. -/
theorem withdrawn_idle (h : priorInstance p = none) :
    (withdrawn p).instances = p.instances ∧ (withdrawn p).steps = p.steps := by
  have hsame : cancelWorkflow p = p := by
    unfold cancelWorkflow
    rw [show activeInstance p = none from h]
  obtain ⟨_, hi, hs, _⟩ := withdrawn_rows p
  rw [hsame] at hi hs
  exact ⟨hi, hs⟩

/-- A withdrawal cancels the instance under way and skips its pending steps. -/
theorem withdrawn_open {i : WorkflowInstance} (h : priorInstance p = some i) :
    p.instances.replace { i with status := .cancelled } = some (withdrawn p).instances ∧
      ∀ {st}, st ∈ (withdrawn p).steps ↔ ∃ old ∈ p.steps, skipPending i.id old = st := by
  obtain ⟨t, ht⟩ := p.instances.replace_of_check (a := { i with status := .cancelled }) trivial
  have hflow : (cancelWorkflow p).instances = t ∧
      (cancelWorkflow p).steps =
        p.steps.modify (skipPending i.id) (skipPending_key _) (fun _ _ => trivial) := by
    unfold cancelWorkflow
    rw [show activeInstance p = some i from h]
    refine ⟨?_, rfl⟩
    show (p.instances.replace { i with status := .cancelled }).getD p.instances = t
    rw [ht]
    rfl
  obtain ⟨_, hi, hs, _⟩ := withdrawn_rows p
  refine ⟨?_, ?_⟩
  · rw [hi, hflow.1]
    exact ht
  · intro st
    rw [hs, hflow.2]
    exact Table.mem_modify

theorem withdrawn_shape {i : WorkflowInstance} (h : priorInstance p = some i) :
    SameShape p (withdrawn p) := by
  obtain ⟨hv, _, _, hr⟩ := withdrawn_rows p
  obtain ⟨hinsts, hmem⟩ := withdrawn_open h
  obtain ⟨hof, hto⟩ := instances_of_replace (priorInstance_mem h).1 hinsts rfl rfl
  refine ⟨hv, (congrArg EventRequest.currentVersion hr).trans rfl,
    (congrArg EventRequest.workflowInstanceId hr).trans rfl,
    Table.map_replace hinsts (priorInstance_mem h).1 rfl rfl, hof, hto, ?_, ?_⟩
  · intro st hst
    obtain ⟨old, hold, rfl⟩ := hmem.mp hst
    obtain ⟨hown, hord, hrev⟩ := skipPending_kept i.id old
    exact ⟨old, hold, (skipPending_key i.id old).symm, hown.symm, hord.symm, hrev.symm⟩
  · intro old hold
    obtain ⟨hown, hord, _⟩ := skipPending_kept i.id old
    exact ⟨_, hmem.mpr ⟨old, hold, rfl⟩, hown, hord⟩

theorem Standing.withdrawn_step (h : Standing p) (happ : p.request.status ≠ .approved) :
    Standing (withdrawn p) := by
  obtain ⟨hv, _, _, hr⟩ := withdrawn_rows p
  have hcan : (withdrawn p).request.status = .cancelled :=
    (congrArg EventRequest.status hr).trans rfl
  cases hprior : priorInstance p with
  | none =>
      obtain ⟨hi, hs⟩ := withdrawn_idle hprior
      have hc : (withdrawn p).request.currentVersion = p.request.currentVersion :=
        (congrArg EventRequest.currentVersion hr).trans rfl
      have hw : (withdrawn p).request.workflowInstanceId = p.request.workflowInstanceId :=
        (congrArg EventRequest.workflowInstanceId hr).trans rfl
      refine ⟨?_, ?_, ?_, ?_, ?_, ?_, ?_, ?_, ?_⟩
      · rw [hv, hc]
        exact h.versions
      · rw [hi, hc]
        exact h.instances
      · rw [hs, hi]
        exact h.belongs
      · rw [hs]
        exact h.distinct
      · rw [hs, hi]
        exact h.reviewed
      · rw [hi, hw, hc]
        exact h.current
      · rw [hi]
        intro i him hst
        have hsome := h.prior him hst
        rw [hprior] at hsome
        cases hsome
      · rw [hi]
        intro i him hst
        exact (happ (h.completed i him hst).2).elim
      · rw [hcan]
        exact fun he => nomatch he
  | some i =>
      obtain ⟨him, _, hlink⟩ := priorInstance_mem hprior
      obtain ⟨hinsts, _⟩ := withdrawn_open hprior
      refine h.of_shape (withdrawn_shape hprior) him hlink (other_instances hinsts rfl) ?_ ?_
      · intro j hj hid hp
        obtain rfl := rewritten_instance him hinsts rfl hj hid
        cases hp
      · intro j hj hid
        obtain rfl := rewritten_instance him hinsts rfl hj hid
        rw [hcan]
        exact ⟨fun he => (nomatch he), fun he => (nomatch he)⟩

end Withdrawals

/-! ## 4. Steps -/

/-- `APPROVED`, `REJECTED` and `CANCELLED`. -/
def EventRequestStatus.Ended (status : EventRequestStatus) : Prop :=
  status = .approved ∨ status = .rejected ∨ status = .cancelled

theorem EventRequestStatus.Ended.not_editable {r : EventRequest} (h : r.status.Ended) :
    ¬ r.Editable := by
  intro hed
  rcases hed with hr | hr <;> rcases h with he | he | he <;> rw [hr] at he <;> cases he

theorem EventRequestStatus.Ended.not_underReview {status : EventRequestStatus}
    (h : status.Ended) : ¬ (status = .submitted ∨ status = .inReview) := by
  intro hu
  rcases hu with hr | hr <;> rcases h with he | he | he <;> rw [hr] at he <;> cases he

section Steps

variable {env : ReviewEnv} {actor : User} {p q : Proposal} {op : ReviewOp}

/-- **The step lemma**: every accepted operation keeps the rows in standing. -/
theorem ReviewStep.standing (h : Standing p) (hs : ReviewStep env actor p op q) : Standing q := by
  cases hs with
  | drafted eventIn hed => exact h.congr rfl rfl rfl rfl rfl rfl
  | repeated summary key keys ha => exact h
  | submitted summary key keys _ hsub => exact h.submitted_step hsub
  | approved stepId comments newBookingId newEventId step inst _ hd happ => exact h.approved_step hd happ
  | rejected stepId comments step inst _ hd hrej => exact h.rejected_step hd hrej
  | revised stepId comments step inst t hd ht => exact h.revised_step hd ht
  | venueCreated newId venueIn hall hed hnone hc => exact h.congr rfl rfl rfl rfl rfl rfl
  | venueUpdated venueIn vr hall hed hvr hc => exact h.congr rfl rfl rfl rfl rfl rfl
  | venueDeleted hed => exact h.congr rfl rfl rfl rfl rfl rfl
  | budgetCreated newId newItemId budgetIn items hed hnone hc =>
      exact h.congr rfl rfl rfl rfl rfl rfl
  | budgetUpdated budgetIn bp hed hbp hc => exact h.congr rfl rfl rfl rfl rfl rfl
  | budgetDeleted hed => exact h.congr rfl rfl rfl rfl rfl rfl
  | itemAdded newId itemIn bp total hed hbp => exact h.congr rfl rfl rfl rfl rfl rfl
  | itemUpdated itemId itemIn bp item total hed hbp hitem => exact h.congr rfl rfl rfl rfl rfl rfl
  | itemDeleted itemId bp item total hed hbp hitem => exact h.congr rfl rfl rfl rfl rfl rfl
  | verified verificationIn bp hbp => exact h.congr rfl rfl rfl rfl rfl rfl

/-- An ended proposal takes nothing but a verification of its budget. -/
theorem ReviewStep.of_ended (h : Standing p) (hs : ReviewStep env actor p op q)
    (hend : p.request.status.Ended) :
    ∃ verificationIn bp, op = .verifyBudget verificationIn ∧ p.budgetProposal = some bp ∧
      q = { p with
        budgetProposal := some
          { bp with
            financeStatus := verificationIn.status
            financeVerifiedBy := some actor.id
            financeVerifiedAt := some env.now
            financeNotes := verificationIn.notes } } := by
  have hed := hend.not_editable
  have hrev := hend.not_underReview
  cases hs with
  | drafted eventIn hed' => exact (hed hed').elim
  | repeated summary key keys ha => exact (hrev (.inl ha.2.2)).elim
  | submitted summary key keys _ hsub => exact (hed hsub.editable).elim
  | approved stepId comments newBookingId newEventId step inst _ hd happ =>
      exact (hrev (h.deciding hd).request).elim
  | rejected stepId comments step inst _ hd hrej => exact (hrev (h.deciding hd).request).elim
  | revised stepId comments step inst t hd ht => exact (hrev (h.deciding hd).request).elim
  | venueCreated newId venueIn hall hed' hnone hc => exact (hed hed').elim
  | venueUpdated venueIn vr hall hed' hvr hc => exact (hed hed').elim
  | venueDeleted hed' => exact (hed hed').elim
  | budgetCreated newId newItemId budgetIn items hed' hnone hc => exact (hed hed').elim
  | budgetUpdated budgetIn bp hed' hbp hc => exact (hed hed').elim
  | budgetDeleted hed' => exact (hed hed').elim
  | itemAdded newId itemIn bp total hed' hbp => exact (hed hed').elim
  | itemUpdated itemId itemIn bp item total hed' hbp hitem => exact (hed hed').elim
  | itemDeleted itemId bp item total hed' hbp hitem => exact (hed hed').elim
  | verified verificationIn bp hbp => exact ⟨verificationIn, bp, rfl, hbp, rfl⟩

/-- The last approval, and nothing else, approves the proposal; it creates the event. -/
theorem ReviewStep.approves (h : Standing p) (hs : ReviewStep env actor p op q)
    (hopen : ¬ p.request.status.Ended) :
    q.request.status = .approved ↔ op.creates env actor none p ≠ none := by
  have hkeep : ∀ {r : Proposal}, r.request.status = p.request.status →
      op.creates env actor none p = none →
        (r.request.status = .approved ↔ op.creates env actor none p ≠ none) := by
    intro r hr hnone
    rw [hr, hnone]
    exact ⟨fun he => (hopen (.inl he)).elim, fun he => (he rfl).elim⟩
  have hmove : ∀ st : EventRequestStatus, q.request.status = st → st ≠ .approved →
      op.creates env actor none p = none →
      (q.request.status = .approved ↔ op.creates env actor none p ≠ none) := by
    intro st hst hne hnone
    rw [hst, hnone]
    exact ⟨fun he => (hne he).elim, fun he => (he rfl).elim⟩
  cases hs with
  | drafted eventIn hed => exact hkeep rfl rfl
  | repeated summary key keys ha => exact hkeep rfl rfl
  | submitted summary key keys _ hsub =>
      exact hmove .submitted ((congrArg EventRequest.status hsub.request).trans rfl)
        (by decide) rfl
  | approved stepId comments newBookingId newEventId step inst _ hd happ =>
      have hat := h.deciding hd
      have hcreates : (ReviewOp.approveStep stepId comments newBookingId newEventId).creates env actor
          none p = (approvedEvent env actor newEventId none p step).1 := by
        simp only [ReviewOp.creates, hd.stepFound, Option.bind_some]
      rw [hcreates]
      unfold approvedEvent
      rcases happ.moved.cases with ⟨next, hnext, _, hst⟩ | ⟨hnone, _, hst⟩
      · rw [hst, hnext]
        have hne : (if p.request.status = .submitted then .inReview else p.request.status) ≠
            EventRequestStatus.approved := by
          rcases hat.request with hr | hr <;> rw [hr] <;> decide
        exact ⟨fun he => (hne he).elim, fun he => (he rfl).elim⟩
      · rw [hst, hnone]
        exact ⟨fun _ => Option.some_ne_none _, fun _ => rfl⟩
  | rejected stepId comments step inst _ hd hrej =>
      exact hmove .rejected ((congrArg EventRequest.status hrej.request).trans rfl)
        (by decide) rfl
  | revised stepId comments step inst t hd ht => exact hmove .revisionRequired rfl (by decide) rfl
  | venueCreated newId venueIn hall hed hnone hc => exact hkeep rfl rfl
  | venueUpdated venueIn vr hall hed hvr hc => exact hkeep rfl rfl
  | venueDeleted hed => exact hkeep rfl rfl
  | budgetCreated newId newItemId budgetIn items hed hnone hc => exact hkeep rfl rfl
  | budgetUpdated budgetIn bp hed hbp hc => exact hkeep rfl rfl
  | budgetDeleted hed => exact hkeep rfl rfl
  | itemAdded newId itemIn bp total hed hbp => exact hkeep rfl rfl
  | itemUpdated itemId itemIn bp item total hed hbp hitem => exact hkeep rfl rfl
  | itemDeleted itemId bp item total hed hbp hitem => exact hkeep rfl rfl
  | verified verificationIn bp hbp => exact hkeep rfl rfl

end Steps

/-! ## 5. Runs -/

/-- The rows are in standing, and the event is there exactly for an approved proposal. -/
structure InStanding (d : Dossier) : Prop where
  rows : Standing d.proposal
  event : d.proposal.request.status = .approved ↔ d.event ≠ none

section Runs

variable {cfg : Config} {d d' : Dossier} {r : Request}

theorem InStanding.approved {s : State} (h : InStanding (.confirmed s)) :
    s.proposal.request.status = .approved :=
  h.event.mpr fun he => nomatch he

/-- **A call on the event writes no row of its proposal but the booking.** -/
theorem InStanding.event_rows {s s' : State} {c : Call} (h : InStanding (.confirmed s))
    (hstep : CampusConnect.Step cfg s c s') :
    ∃ booking, s'.proposal = { s.proposal with booking := booking } := by
  rcases hstep.proposal h.approved with hsame | ⟨_, hrel⟩
  · exact ⟨s.proposal.booking, hsame⟩
  · exact ⟨_, hrel.trans (releaseHall_eq s.proposal)⟩

theorem InStanding.step (h : InStanding d) (hs : Traced cfg d r d') : InStanding d' := by
  cases hs with
  | review env actor op d q entries hstep =>
      refine ⟨?_, ?_⟩
      · rw [Dossier.proposal_flushed]
        exact hstep.standing h.rows
      · rw [Dossier.proposal_flushed, Dossier.event_flushed]
        by_cases hend : d.proposal.request.status.Ended
        · obtain ⟨verificationIn, bp, rfl, _, rfl⟩ := hstep.of_ended h.rows hend
          show d.proposal.request.status = .approved ↔ d.event.or none ≠ none
          rw [Option.or_none]
          exact h.event
        · have hnone : d.event = none := by
            by_contra hne
            exact hend (.inl (h.event.mpr hne))
          rw [hnone, Option.none_or]
          exact hstep.approves h.rows hend
  | withdrawn c p logs entries hst =>
      refine ⟨h.rows.withdrawn_step hst.2.2, ?_⟩
      have hcan : (EventService.withdrawn p).request.status = .cancelled :=
        (congrArg EventRequest.status (withdrawn_rows p).2.2.2).trans rfl
      rw [Dossier.proposal_proposed, hcan]
      exact ⟨fun he => (nomatch he), fun he => (he rfl).elim⟩
  | event c s s' hstep =>
      obtain ⟨booking, hrows⟩ := h.event_rows hstep
      refine ⟨?_, ?_⟩
      · rw [Dossier.proposal_confirmed, hrows]
        exact h.rows.congr rfl rfl rfl rfl rfl rfl
      · rw [Dossier.proposal_confirmed, hrows]
        exact ⟨fun _ he => (nomatch he), fun _ => h.approved⟩

/-- A new draft has no versions, no instances and no steps. -/
theorem Drafted.inStanding (h : Drafted d) : InStanding d := by
  obtain ⟨request, logs, rfl, hdraft, hversion, _⟩ := h.row
  have happ : request.status ≠ .approved := by
    rw [hdraft]
    exact fun he => nomatch he
  have hnone : List.range' 1 request.currentVersion = [] := by
    rw [hversion]
    rfl
  refine ⟨⟨hnone.symm, hnone.symm, ?_, ?_, ?_, ?_, ?_, ?_, ?_⟩, ?_⟩
  · intro st hst
    cases hst
  · intro st hst
    cases hst
  · intro st hst
    cases hst
  · intro i hi
    cases hi
  · intro i hi
    cases hi
  · intro i hi
    cases hi
  · intro he
    exact (happ he).elim
  · exact ⟨fun he => (happ he).elim, fun he => (he rfl).elim⟩

theorem Drafted.versions (h : Drafted d) : d.proposal.versions = [] := by
  obtain ⟨request, logs, rfl, _⟩ := h.row
  rfl

theorem Drafted.steps (h : Drafted d) : d.proposal.steps = Table.empty := by
  obtain ⟨request, logs, rfl, _⟩ := h.row
  rfl

theorem Dossier.Reachable.inStanding (h : Dossier.Reachable cfg d) : InStanding d :=
  Runs.Reach.invariant (fun _ h0 => h0.inStanding)
    (fun _ _ _ hin hs => hin.step hs.traced) h

/-- An ended proposal stays as it ended, over every request. -/
theorem InStanding.ended_step (h : InStanding d) (hs : Traced cfg d r d')
    (hend : d.proposal.request.status.Ended) :
    d'.proposal.request.status = d.proposal.request.status := by
  cases hs with
  | review env actor op d q entries hstep =>
      obtain ⟨verificationIn, bp, _, _, rfl⟩ := hstep.of_ended h.rows hend
      rw [Dossier.proposal_flushed]
  | withdrawn c p logs entries hst =>
      obtain ⟨hcan, hrej, happ⟩ := hst
      rcases hend with he | he | he
      · exact (happ he).elim
      · exact (hrej he).elim
      · exact (hcan he).elim
  | event c s s' hstep =>
      obtain ⟨booking, hrows⟩ := h.event_rows hstep
      rw [Dossier.proposal_confirmed, hrows]
      rfl

/-- Where a version comes from: it was there, or a submission writes it. -/
theorem Traced.version_origin {v : EventRequestVersion} (hin : InStanding d)
    (hs : Traced cfg d r d') (hv : v ∈ d'.proposal.versions) :
    v ∈ d.proposal.versions ∨ ∃ env actor summary key keys,
      r = .review env actor (.submitProposal summary key keys) ∧
      Submitted env actor summary key keys d.proposal d'.proposal ∧
      v = submittedVersion env.toEnv actor summary keys.version d.proposal := by
  cases hs with
  | review env actor op d q entries hstep =>
      rw [Dossier.proposal_flushed] at hv ⊢
      cases hstep with
      | submitted summary key keys _ hsub =>
          rw [hsub.versions] at hv
          rcases List.mem_append.mp hv with hv | hv
          · exact .inl hv
          · exact .inr ⟨env, actor, summary, key, keys, rfl, hsub, List.mem_singleton.mp hv⟩
      | approved stepId comments newBookingId newEventId step inst _ hd happ =>
          rw [happ.versions] at hv
          exact .inl hv
      | rejected stepId comments step inst _ hd hrej =>
          rw [hrej.versions] at hv
          exact .inl hv
      | _ => exact .inl hv
  | withdrawn c p logs entries hcan =>
      rw [Dossier.proposal_proposed, (withdrawn_rows p).1] at hv
      exact .inl hv
  | event c s s' hstep =>
      obtain ⟨booking, hrows⟩ := hin.event_rows hstep
      rw [Dossier.proposal_confirmed, hrows] at hv
      exact .inl hv

end Runs

end CampusConnect
