/-
  File:      CampusConnect/Concurrency/Editing.lean
  Subject:   A proposal edited, submitted and withdrawn by any number of sessions.

  * `EditRequest.script`: `update_draft` and `cancel_proposal` lock the row of the proposal before they
    look at it, unless it is loaded already; a submission and the edits of the venue and the budget
    load it by a plain select;
  * `EditCommit`: what a commit has read, locked and written;
  * `UpToDate`: a request commits while what it has loaded is still committed;
  * `faithful_submission`: in every run of such commits no change is lost, a version says what is
    committed with it and a submitted proposal is not edited; `submission_overtaken`: an edit between
    the select of a submission and its commit.
-/
import CampusConnect.Concurrency.LineItems

namespace CampusConnect

open Guarded Rows Transactions EventService VenueService BudgetService WorkflowService

/-! ## 1. Requests -/

inductive VenueOp where
  | create (newId : Uuid) (venueIn : VenueRequestCreate)
  | update (venueIn : VenueRequestUpdate)
  | delete

inductive BudgetOp where
  | create (newId : Uuid) (newItemId : Nat → Uuid) (budgetIn : BudgetProposalCreate)
  | update (budgetIn : BudgetProposalUpdate)
  | delete

def VenueOp.review : VenueOp → ReviewOp
  | .create newId venueIn => .createVenueRequest newId venueIn
  | .update venueIn => .updateVenueRequest venueIn
  | .delete => .deleteVenueRequest

def BudgetOp.review : BudgetOp → ReviewOp
  | .create newId newItemId budgetIn => .createBudgetProposal newId newItemId budgetIn
  | .update budgetIn => .updateBudgetProposal budgetIn
  | .delete => .deleteBudgetProposal

theorem VenueOp.edits (op : VenueOp) : op.review.EditsContent := by
  cases op <;> exact trivial

theorem BudgetOp.edits (op : BudgetOp) : op.review.EditsContent := by
  cases op <;> exact trivial

/-- A cancellation is `preloaded` when `cancel_any_event` has selected the row before. -/
inductive EditRequest where
  | updateDraft (env : ReviewEnv) (actor : User) (eventIn : EventRequestUpdate)
  | submitProposal (env : ReviewEnv) (actor : User) (changeSummary idempotencyKey : Option Text)
      (keys : SubmissionKeys)
  | cancelProposal (env : Env) (actor : User) (reason : Text) (preloaded : Bool)
  | venue (env : ReviewEnv) (actor : User) (op : VenueOp)
  | budget (env : ReviewEnv) (actor : User) (op : BudgetOp)
  | lineItem (r : LineItemRequest)

/-- The venue request the session has loaded, while it is there. -/
def venueRows (seen : Proposal) (d : Dossier) : List DossierKey :=
  match seen.venueRequest with
  | none => []
  | some vr => if d.proposal.venueRequest.map VenueRequest.id = some vr.id then [.venue] else []

/-- The rows of a budget: a deletion takes the line items with it. -/
def budgetRows (op : BudgetOp) (seen : Proposal) (d : Dossier) : List DossierKey :=
  match op with
  | .create _ _ _ => []
  | .update _ => headerRows seen d
  | .delete => (itemsOf (underBudget seen d.proposal)).map (fun i => .item i.id) ++ headerRows seen d

namespace EditRequest

/-- `update_draft`. -/
def draftScript (env : ReviewEnv) (actor : User) (eventIn : EventRequestUpdate) :
    DossierProg (Dossier → Result Dossier) := do
  let held ← Prog.hold fun _ => [.request]
  let f ← Prog.lift (EventService.updateDraft env.toEnv actor eventIn held.proposal)
  return writeFlush f

/-- The rows a submission has loaded, by one select after the other. -/
def submissionSeen (request venue header items flow : Dossier) : Proposal :=
  { request.proposal with
    venueRequest := venue.proposal.venueRequest
    budgetProposal := loadBudget header items
    instances := flow.proposal.instances }

/-- The rows the flush of a submission updates. -/
def submittedRows (seen : Proposal) : List DossierKey :=
  .request :: (priorInstance seen).toList.map fun i => .workflow i.id

/-- A session that has nothing to commit. -/
def nothingToCommit : Failure := ⟨.conflict, "The proposal is submitted already.", []⟩

/-- `submit_proposal`. A repeated call returns the proposal; its session has nothing to commit. -/
def submitScript (env : ReviewEnv) (actor : User) (changeSummary idempotencyKey : Option Text)
    (keys : SubmissionKeys) : DossierProg (Dossier → Result Dossier) := do
  let request ← Prog.view
  let _ ← Prog.lift (refuse (AlreadySubmitted idempotencyKey request.proposal.request) nothingToCommit)
  let venue ← Prog.view
  let header ← Prog.view
  let items ← Prog.view
  let flow ← Prog.view
  let seen := submissionSeen request venue header items flow
  let f ← Prog.lift
    (EventService.submitProposal env actor changeSummary idempotencyKey keys seen)
  let _ ← Prog.hold fun _ => submittedRows seen
  return writeFlush f

/-- `cancel_proposal`. Its lock leaves the attributes of a row that is loaded already. -/
def withdrawalScript (env : Env) (actor : User) (reason : Text) (preloaded : Bool) :
    DossierProg (Dossier → Result Dossier) :=
  if preloaded then do
    let loaded ← Prog.view
    let _ ← Prog.hold fun _ => [.request]
    withdrawScript env actor reason loaded.proposal.request
  else do
    let held ← Prog.hold fun _ => [.request]
    withdrawScript env actor reason held.proposal.request

/-- The edits of the venue request. A deletion looks for no booking. -/
def venueScript (env : ReviewEnv) (actor : User) (op : VenueOp) :
    DossierProg (Dossier → Result Dossier) := do
  let request ← Prog.view
  let venue ← Prog.view
  let booking ← Prog.view
  let seen : Proposal := { request.proposal with
    venueRequest := venue.proposal.venueRequest
    booking := booking.proposal.booking }
  let f ← Prog.lift (op.review.flush env actor none seen seen)
  let _ ← Prog.hold fun d => if f.Unchanged seen then [] else venueRows seen d
  return writeEdit seen f

/-- The edits of the budget's header. -/
def budgetScript (env : ReviewEnv) (actor : User) (op : BudgetOp) :
    DossierProg (Dossier → Result Dossier) := do
  let request ← Prog.view
  let header ← Prog.view
  let items ← Prog.view
  let seen : Proposal := { request.proposal with budgetProposal := loadBudget header items }
  let f ← Prog.lift (op.review.flush env actor none seen seen)
  let _ ← Prog.hold fun d => if f.Unchanged seen then [] else budgetRows op seen d
  return writeEdit seen f

/-- The transaction of a request. -/
def script : EditRequest → DossierProg (Dossier → Result Dossier)
  | .updateDraft env actor eventIn => draftScript env actor eventIn
  | .submitProposal env actor changeSummary idempotencyKey keys =>
      submitScript env actor changeSummary idempotencyKey keys
  | .cancelProposal env actor reason preloaded => withdrawalScript env actor reason preloaded
  | .venue env actor op => venueScript env actor op
  | .budget env actor op => budgetScript env actor op
  | .lineItem r => r.script

/-- The requests that count up `version_lock`. -/
def CountsVersion : EditRequest → Prop
  | .updateDraft _ _ _ | .submitProposal _ _ _ _ _ | .cancelProposal _ _ _ _ => True
  | .venue _ _ _ | .budget _ _ _ | .lineItem _ => False

instance : (r : EditRequest) → Decidable r.CountsVersion
  | .updateDraft _ _ _ | .submitProposal _ _ _ _ _ | .cancelProposal _ _ _ _ => .isTrue trivial
  | .venue _ _ _ | .budget _ _ _ | .lineItem _ => .isFalse id

/-- The edits of the draft, the venue and the budget. -/
def Edits : EditRequest → Prop
  | .submitProposal _ _ _ _ _ | .cancelProposal _ _ _ _ => False
  | .updateDraft _ _ _ | .venue _ _ _ | .budget _ _ _ | .lineItem _ => True

end EditRequest

/-! ## 2. What a commit has read, locked and written -/

/-- **The commit of a request.** An `update_draft` writes the row its lock returned; a submission counts
    on from the row it has loaded, and so does a cancellation. -/
inductive EditCommit (r : EditRequest) (vs : List Dossier) (db db' : Dossier) : Prop where
  | drafted (env : ReviewEnv) (actor : User) (eventIn : EventRequestUpdate) (held : Dossier)
      (hr : r = .updateDraft env actor eventIn) (hlock : held ∈ r.script.since .request vs)
      (hed : held.proposal.request.Editable)
      (hrow : db'.proposal =
        db.proposal.updateRequest (editRequest eventIn held.proposal.request))
  | submitted (env : ReviewEnv) (actor : User) (changeSummary key : Option Text)
      (keys : SubmissionKeys) (request venue header items flow : Dossier) (rest : List Dossier)
      (hr : r = .submitProposal env actor changeSummary key keys)
      (hvs : vs = request :: venue :: header :: items :: flow :: rest)
      (hlock : r.script.since .request vs ≠ [])
      (hrow : db'.proposal.request =
        { submitRequest key request.proposal.request db.proposal.request with
          workflowInstanceId := some keys.inst })
      (hversions : db'.proposal.versions = db.proposal.versions ++
        [submittedVersion env.toEnv actor changeSummary keys.version
          (EditRequest.submissionSeen request venue header items flow)])
      (hvenue : db'.proposal.venueRequest = db.proposal.venueRequest)
      (hbudget : db'.proposal.budgetProposal = db.proposal.budgetProposal)
  | cancelled (env : Env) (actor : User) (reason : Text) (preloaded : Bool) (loaded : Dossier)
      (rest : List Dossier) (hr : r = .cancelProposal env actor reason preloaded)
      (hvs : vs = loaded :: rest) (hlock : r.script.since .request vs ≠ [])
      (hfresh : preloaded = false → loaded ∈ r.script.since .request vs)
      (hrow : db'.proposal.request = { db.proposal.request with
        status := .cancelled
        versionLock := loaded.proposal.request.versionLock + 1 })
      (hversions : db'.proposal.versions = db.proposal.versions)
  | edited (loaded : Dossier) (rest : List Dossier) (hcount : ¬ r.CountsVersion)
      (hvs : vs = loaded :: rest) (hed : loaded.proposal.request.Editable)
      (hrow : db'.proposal.request = db.proposal.request)
      (hversions : db'.proposal.versions = db.proposal.versions)

namespace EditRequest

section Commits

variable {vs : List Dossier} {write : Dossier → Result Dossier} {db db' : Dossier}

theorem draft_commit {env : ReviewEnv} {actor : User} {eventIn : EventRequestUpdate}
    (h : (draftScript env actor eventIn).after vs = .done write) (hw : write db = .ok db') :
    EditCommit (.updateDraft env actor eventIn) vs db db' := by
  unfold draftScript at h
  obtain ⟨held, rest, rfl, h1⟩ := Prog.after_hold.mp h
  obtain ⟨f, hf, h2⟩ := Prog.after_decision.mp h1
  obtain rfl := Prog.after_done.mp h2
  obtain ⟨hq, _⟩ := writeFlush_accepts hw
  simp only [EventService.updateDraft, bind_accepts, requireEditable_accepts, exists_unit,
    pure_accepts] at hf
  obtain ⟨_, _, hed, _, _, rfl⟩ := hf
  refine .drafted env actor eventIn held rfl ?_ hed (Except.ok.inj hq).symm
  have hlock : (draftScript env actor eventIn).since .request (held :: rest) = held :: rest :=
    Prog.since_hold_mem (List.mem_singleton.mpr rfl)
  show held ∈ (draftScript env actor eventIn).since .request (held :: rest)
  rw [hlock]
  exact List.mem_cons_self

/-- What a submission writes for rows it has loaded before. -/
theorem submit_flush {env : ReviewEnv} {actor : User} {changeSummary key : Option Text}
    {keys : SubmissionKeys} {seen p q : Proposal} {f : Flush}
    (h : EventService.submitProposal env actor changeSummary key keys seen = .ok f)
    (hfirst : ¬ AlreadySubmitted key seen.request) (hw : f.write p = .ok q) :
    q.request = { submitRequest key seen.request p.request with
        workflowInstanceId := some keys.inst } ∧
      q.versions = p.versions ++ [submittedVersion env.toEnv actor changeSummary keys.version seen] ∧
      q.venueRequest = p.venueRequest ∧ q.budgetProposal = p.budgetProposal := by
  simp only [EventService.submitProposal, bind_accepts, requireProposal_accepts, exists_unit] at h
  obtain ⟨_, h⟩ := h
  rw [if_neg hfirst] at h
  simp only [bind_accepts, requireEditable_accepts, refuse_accepts, exists_unit, pure_accepts] at h
  obtain ⟨_, _, _, _, rfl⟩ := h
  simp only [bind_accepts, refuse_accepts, exists_unit, instantiateWorkflow, fetch_accepts,
    pure_accepts] at hw
  obtain ⟨_, p1, hp1, instances, _, _, steps, _, rfl⟩ := hw
  unfold supersedePrior at hp1
  cases hprior : priorInstance seen with
  | none =>
      rw [hprior] at hp1
      cases hp1
      exact ⟨rfl, rfl, rfl, rfl⟩
  | some i =>
      rw [hprior] at hp1
      obtain ⟨_, _, _, _, rfl⟩ := Proposal.updateInstance_accepts.mp hp1
      exact ⟨rfl, rfl, rfl, rfl⟩

theorem submit_commit {env : ReviewEnv} {actor : User} {changeSummary key : Option Text}
    {keys : SubmissionKeys}
    (h : (submitScript env actor changeSummary key keys).after vs = .done write)
    (hw : write db = .ok db') :
    EditCommit (.submitProposal env actor changeSummary key keys) vs db db' := by
  unfold submitScript at h
  obtain ⟨request, vs1, rfl, h1⟩ := Prog.after_view.mp h
  obtain ⟨u, hfirst, h2⟩ := Prog.after_decision.mp h1
  obtain ⟨venue, vs2, rfl, h3⟩ := Prog.after_view.mp h2
  obtain ⟨header, vs3, rfl, h4⟩ := Prog.after_view.mp h3
  obtain ⟨items, vs4, rfl, h5⟩ := Prog.after_view.mp h4
  obtain ⟨flow, vs5, rfl, h6⟩ := Prog.after_view.mp h5
  obtain ⟨f, hf, h7⟩ := Prog.after_decision.mp h6
  obtain ⟨held, rest, rfl, h8⟩ := Prog.after_hold.mp h7
  obtain rfl := Prog.after_done.mp h8
  obtain ⟨hq, _⟩ := writeFlush_accepts hw
  obtain ⟨hrow, hversions, hvenue, hbudget⟩ := submit_flush hf (refuse_accepts.mp hfirst) hq
  refine .submitted env actor changeSummary key keys request venue header items flow _ rfl rfl ?_ hrow
    hversions hvenue hbudget
  unfold script submitScript
  rw [Prog.since_view, Prog.since_decision hfirst, Prog.since_view, Prog.since_view, Prog.since_view,
    Prog.since_view, Prog.since_decision hf]
  exact Prog.since_hold_taken List.mem_cons_self

theorem withdrawal_commit {env : Env} {actor : User} {reason : Text} {preloaded : Bool}
    (h : (withdrawalScript env actor reason preloaded).after vs = .done write)
    (hw : write db = .ok db') :
    EditCommit (.cancelProposal env actor reason preloaded) vs db db' := by
  cases preloaded with
  | true =>
      obtain ⟨loaded, vs1, rfl, h1⟩ := Prog.after_view.mp h
      obtain ⟨held, vs2, rfl, h2⟩ := Prog.after_hold.mp h1
      obtain ⟨_, _, seen, _, _, hrequest, _, _, hwrite, _⟩ := withdraw_commit h2 hw |>.rows
      obtain ⟨hrow, _, hversions, _⟩ := withdraw_writes hwrite
      rw [hrequest] at hrow
      refine .cancelled env actor reason true loaded _ rfl rfl ?_ (fun hno => nomatch hno) hrow
        hversions
      show (Prog.view >>= _ : DossierProg (Dossier → Result Dossier)).since .request _ ≠ []
      rw [Prog.since_view]
      exact Prog.since_hold_taken (List.mem_singleton.mpr rfl)
  | false =>
      obtain ⟨held, vs1, rfl, h1⟩ := Prog.after_hold.mp h
      obtain ⟨_, _, seen, _, _, hrequest, _, _, hwrite, _⟩ := withdraw_commit h1 hw |>.rows
      obtain ⟨hrow, _, hversions, _⟩ := withdraw_writes hwrite
      rw [hrequest] at hrow
      have hlock : (script (.cancelProposal env actor reason false)).since .request (held :: vs1) =
          held :: vs1 := Prog.since_hold_mem (List.mem_singleton.mpr rfl)
      refine .cancelled env actor reason false held _ rfl rfl ?_ (fun _ => ?_) hrow hversions
      · rw [hlock]
        exact List.cons_ne_nil _ _
      · rw [hlock]
        exact List.mem_cons_self

/-- The commit of an edit of the venue or the budget. -/
theorem content_commit {r : EditRequest} {op : ReviewOp} {env : ReviewEnv} {actor : User}
    {loaded : Dossier} {rest : List Dossier} {seen : Proposal} {f : Flush}
    (hcount : ¬ r.CountsVersion) (hop : op.EditsContent)
    (hseen : seen.request = loaded.proposal.request)
    (hf : op.flush env actor none seen seen = .ok f) (hw : writeEdit seen f db = .ok db') :
    EditCommit r (loaded :: rest) db db' := by
  have hedit := ReviewOp.contentEdit hop hf
  have hed := hedit.editable
  rw [hseen] at hed
  rcases writeEdit_accepts hw with hsame | hq
  · refine .edited loaded rest hcount rfl hed ?_ ?_
    · rw [hsame]
    · rw [hsame]
  · obtain ⟨hrow, hversions⟩ := hedit.kept _ _ hq
    exact .edited loaded rest hcount rfl hed hrow hversions

/-- **Every commit is one of these.** -/
theorem committed {r : EditRequest} (h : r.script.after vs = .done write) (hw : write db = .ok db') :
    EditCommit r vs db db' := by
  cases r with
  | updateDraft env actor eventIn => exact draft_commit h hw
  | submitProposal env actor changeSummary key keys => exact submit_commit h hw
  | cancelProposal env actor reason preloaded => exact withdrawal_commit h hw
  | venue env actor op =>
      obtain ⟨request, vs1, rfl, h1⟩ := Prog.after_view.mp h
      obtain ⟨venue, vs2, rfl, h2⟩ := Prog.after_view.mp h1
      obtain ⟨booking, vs3, rfl, h3⟩ := Prog.after_view.mp h2
      obtain ⟨f, hf, h4⟩ := Prog.after_decision.mp h3
      obtain ⟨held, rest, rfl, h5⟩ := Prog.after_hold.mp h4
      obtain rfl := Prog.after_done.mp h5
      refine content_commit id op.edits ?_ hf hw
      rfl
  | budget env actor op =>
      obtain ⟨request, vs1, rfl, h1⟩ := Prog.after_view.mp h
      obtain ⟨header, vs2, rfl, h2⟩ := Prog.after_view.mp h1
      obtain ⟨items, vs3, rfl, h3⟩ := Prog.after_view.mp h2
      obtain ⟨f, hf, h4⟩ := Prog.after_decision.mp h3
      obtain ⟨held, rest, rfl, h5⟩ := Prog.after_hold.mp h4
      obtain rfl := Prog.after_done.mp h5
      refine content_commit id op.edits ?_ hf hw
      rfl
  | lineItem r =>
      obtain ⟨⟨request, rest, rfl, hed⟩, hrows⟩ := LineItemRequest.commit h hw
      rcases hrows with hsame | ⟨_, _, bp, b, _, _, _, hrow⟩
      · refine .edited request rest id rfl hed ?_ ?_
        · rw [hsame]
        · rw [hsame]
      · refine .edited request rest id rfl hed ?_ ?_
        · rw [hrow]
        · rw [hrow]

end Commits

/-! ## 3. Alone -/

/-- The request at `d`. A withdrawal does not use the settlement object of its session. -/
def request (d : Dossier) : EditRequest → Request
  | .updateDraft env actor eventIn => .review env actor (.updateDraft eventIn)
  | .submitProposal env actor changeSummary key keys =>
      .review env actor (.submitProposal changeSummary key keys)
  | .cancelProposal env actor reason _ => .event ⟨env, actor, d.attached, .cancelProposal reason⟩
  | .venue env actor op => .review env actor op.review
  | .budget env actor op => .review env actor op.review
  | .lineItem r => .review r.env r.actor r.op.review

/-- A submission that is repeated. -/
def Repeated (d : Dossier) : EditRequest → Prop
  | .submitProposal _ _ _ key _ => AlreadySubmitted key d.proposal.request
  | _ => False

section Alone

variable {cfg : Config} {d d' : Dossier}

/-- An edit looks at no event. -/
theorem flush_existing {op : ReviewOp} (hop : op.EditsContent) (env : ReviewEnv) (actor : User)
    (existing : Option Event) (seen later : Proposal) :
    op.flush env actor existing seen later = op.flush env actor none seen later := by
  cases op with
  | approveStep stepId comments newBookingId newEventId => exact hop.elim
  | _ => rfl

theorem content_serial {op : ReviewOp} {env : ReviewEnv} {actor : User} (hop : op.EditsContent)
    (h : Dossier.Step cfg d (.review env actor op) d') :
    ∃ f, op.flush env actor none d.proposal d.proposal = .ok f ∧
      writeEdit d.proposal f d = .ok d' := by
  unfold Dossier.Step Dossier.exec at h
  simp only [bind_accepts, pure_accepts] at h
  obtain ⟨f, hf, q, hq, rfl⟩ := h
  rw [flush_existing hop] at hf
  exact ⟨f, hf, writeEdit_self (ReviewOp.contentEdit hop hf).event hq⟩

theorem withdrawal_serial {env : Env} {actor : User} {reason : Text} {preloaded : Bool}
    (hcheck : ∀ v ∈ d.proposal.venueRequest, v.Check)
    (h : Dossier.Step cfg d (.event ⟨env, actor, d.attached, .cancelProposal reason⟩) d') :
    (withdrawalScript env actor reason preloaded).serial d = .ok d' := by
  have main : (withdrawScript env actor reason d.proposal.request).serial d = .ok d' := by
    cases d with
    | proposed p logs =>
        simp only [Dossier.Step, Dossier.exec, bind_accepts, pure_accepts] at h
        obtain ⟨⟨q, entries⟩, hcan, rfl⟩ := h
        exact withdraw_serial hcheck hcan
    | confirmed s =>
        simp only [Dossier.Step, Dossier.exec, bind_accepts, pure_accepts] at h
        obtain ⟨s', hs', rfl⟩ := h
        have hs : (EventService.cancelProposal env actor reason s.proposal).map
            (fun r => ({ s with proposal := r.1 } : State).log r.2) = .ok s' := hs'
        cases hcan : EventService.cancelProposal env actor reason s.proposal with
        | error e =>
            rw [hcan] at hs
            cases hs
        | ok r =>
            rw [hcan] at hs
            cases hs
            exact withdraw_serial hcheck hcan
  cases preloaded with
  | true => exact main
  | false => exact main

/-- **Alone, each transaction is the request of the sequential system**, a repeated submission apart:
    it has nothing to commit. -/
theorem serial {r : EditRequest} (hcheck : ∀ v ∈ d.proposal.venueRequest, v.Check)
    (hfirst : ¬ r.Repeated d) (h : Dossier.Step cfg d (r.request d) d') :
    r.script.serial d = .ok d' := by
  cases r with
  | updateDraft env actor eventIn =>
      simp only [request, Dossier.Step, Dossier.exec, ReviewOp.flush, bind_accepts, pure_accepts] at h
      obtain ⟨f, hf, q, hq, rfl⟩ := h
      obtain ⟨_, hevent, _⟩ := updateDraft_writes hf hq
      show (draftScript env actor eventIn).serial d = _
      unfold draftScript
      rw [Prog.serial_hold, Prog.serial_decision hf, Prog.serial_done]
      simp only [writeFlush, bind_accepts, refuse_accepts, exists_unit, pure_accepts]
      exact ⟨fun hno => hno.1 hevent, q, hq, rfl⟩
  | submitProposal env actor changeSummary key keys =>
      simp only [request, Dossier.Step, Dossier.exec, ReviewOp.flush, bind_accepts, pure_accepts] at h
      obtain ⟨f, hf, q, hq, rfl⟩ := h
      obtain ⟨hevent, _⟩ := submitProposal_writes hf hq
      have hnew : ¬ AlreadySubmitted key d.proposal.request := hfirst
      have hseen : submissionSeen d d d d d = d.proposal := by
        unfold submissionSeen
        rw [loadBudget_self]
      show (submitScript env actor changeSummary key keys).serial d = _
      unfold submitScript
      rw [Prog.serial_view, Prog.serial_decision (b := ()) (refuse_accepts.mpr hnew),
        Prog.serial_view, Prog.serial_view, Prog.serial_view, Prog.serial_view, hseen,
        Prog.serial_decision hf, Prog.serial_hold, Prog.serial_done]
      simp only [writeFlush, bind_accepts, refuse_accepts, exists_unit, pure_accepts]
      exact ⟨fun hno => hno.1 hevent, q, hq, rfl⟩
  | cancelProposal env actor reason preloaded => exact withdrawal_serial hcheck h
  | venue env actor op =>
      obtain ⟨f, hf, hw⟩ := content_serial op.edits h
      show (venueScript env actor op).serial d = _
      unfold venueScript
      rw [Prog.serial_view, Prog.serial_view, Prog.serial_view, Prog.serial_decision hf,
        Prog.serial_hold, Prog.serial_done]
      exact hw
  | budget env actor op =>
      obtain ⟨f, hf, hw⟩ := content_serial op.edits h
      have hseen : ({ d.proposal with budgetProposal := loadBudget d d } : Proposal) = d.proposal := by
        rw [loadBudget_self]
      show (budgetScript env actor op).serial d = _
      unfold budgetScript
      rw [Prog.serial_view, Prog.serial_view, Prog.serial_view, hseen, Prog.serial_decision hf,
        Prog.serial_hold, Prog.serial_done]
      exact hw
  | lineItem r => exact LineItemRequest.serial h

end Alone

end EditRequest

/-! ## 4. Interleavings -/

section Runs

variable {s0 : Dossier} {ok : World Failure Dossier DossierKey EditRequest → Action EditRequest → Prop}
  {w : World Failure Dossier DossierKey EditRequest}

/-- The worlds of all interleavings of these requests from a state, under a condition on each step. -/
abbrev EditWorld (s0 : Dossier)
    (ok : World Failure Dossier DossierKey EditRequest → Action EditRequest → Prop)
    (w : World Failure Dossier DossierKey EditRequest) : Prop :=
  Transactions.Reachable EditRequest.script (fun d => d = s0) ok w

theorem EditRequest.commit {i : Nat} {t : Txn Failure Dossier DossierKey EditRequest} {s : Dossier}
    (h : Commit EditRequest.script w i t s) : EditCommit t.request t.views w.db s := by
  obtain ⟨write, hdone, hwrite⟩ := h.write
  exact EditRequest.committed hdone hwrite

/-- **A session that holds the proposal sees its committed row**: whoever writes it holds it. -/
theorem EditWorld.pinned (h : EditWorld s0 ok w) {i : Nat}
    {t : Txn Failure Dossier DossierKey EditRequest} (hi : w.running i = some t) {v : Dossier}
    (hv : v ∈ (t.request.script).since .request t.views) :
    v.proposal.request = w.db.proposal.request := by
  refine Transactions.Reachable.pinned (f := fun d : Dossier => d.proposal.request) ?_ h i t hi v hv
  intro w i t s _ _ hcommit
  cases EditRequest.commit hcommit with
  | drafted env actor eventIn held hr hlock hed hrow => exact .inr (List.ne_nil_of_mem hlock)
  | submitted env actor summary key keys request venue header items flow rest hr hvs hlock =>
      exact .inr hlock
  | cancelled env actor reason preloaded loaded rest hr hvs hlock => exact .inr hlock
  | edited loaded rest hcount hvs hed hrow hversions => exact .inl hrow

/-- The rows a submission has loaded. -/
def submissionReads : List Dossier → Option Proposal
  | request :: venue :: header :: items :: flow :: _ =>
      some (EditRequest.submissionSeen request venue header items flow)
  | _ => none

/-- **What a request has loaded without a lock is still committed**: the version of the proposal, and
    for a submission the venue and the budget as it writes them; for an edit the status it has checked,
    or the proposal is withdrawn. -/
def EditRequest.UpToDate (r : EditRequest) (vs : List Dossier) (db : Dossier) : Prop :=
  match r with
  | .updateDraft _ _ _ => True
  | .submitProposal _ _ _ _ _ => ∀ seen ∈ submissionReads vs,
      seen.request.versionLock = db.proposal.request.versionLock ∧
      seen.venueRequest.map venueContent = db.proposal.venueRequest.map venueContent ∧
      seen.budgetProposal.map budgetSnapshot = db.proposal.budgetProposal.map budgetSnapshot
  | .cancelProposal _ _ _ preloaded => preloaded = true → ∀ loaded ∈ vs.head?,
      loaded.proposal.request.versionLock = db.proposal.request.versionLock
  | .venue _ _ _ | .budget _ _ _ | .lineItem _ => ∀ loaded ∈ vs.head?,
      loaded.proposal.request.status = db.proposal.request.status ∨
        db.proposal.request.status = .cancelled

instance (r : EditRequest) (vs : List Dossier) (db : Dossier) : Decidable (r.UpToDate vs db) :=
  match r with
  | .updateDraft _ _ _ => .isTrue trivial
  | .submitProposal _ _ _ _ _ => inferInstanceAs (Decidable (∀ seen ∈ submissionReads vs, _ ∧ _ ∧ _))
  | .cancelProposal _ _ _ preloaded =>
      inferInstanceAs (Decidable (preloaded = true → ∀ loaded ∈ vs.head?, _))
  | .venue _ _ _ | .budget _ _ _ | .lineItem _ =>
      inferInstanceAs (Decidable (∀ loaded ∈ vs.head?, _ ∨ _))

/-- Every commit is of a request that is up to date. -/
abbrev UpToDateCommits : World Failure Dossier DossierKey EditRequest → Action EditRequest → Prop :=
  OnCommit EditRequest.UpToDate

/-- **The step lemma**: a commit counts up the version it found, or leaves the proposal's row. -/
theorem EditWorld.counts (h : EditWorld s0 UpToDateCommits w) {i : Nat}
    {t : Txn Failure Dossier DossierKey EditRequest} {s : Dossier}
    (hok : UpToDateCommits w (.run i)) (hcommit : Commit EditRequest.script w i t s) :
    (t.request.CountsVersion ∧
        s.proposal.request.versionLock = w.db.proposal.request.versionLock + 1) ∨
      (¬ t.request.CountsVersion ∧ s.proposal.request = w.db.proposal.request) := by
  have hcur := OnCommit.commit h hok hcommit
  cases EditRequest.commit hcommit with
  | drafted env actor eventIn held hr hlock hed hrow =>
      have hpin := EditWorld.pinned h hcommit.running hlock
      refine .inl ⟨?_, ?_⟩
      · rw [hr]
        exact trivial
      · rw [hrow, ← hpin]
        rfl
  | submitted env actor summary key keys request venue header items flow rest hr hvs hlock hrow =>
      rw [hr, hvs] at hcur
      obtain ⟨hversion, _, _⟩ := hcur _ rfl
      refine .inl ⟨?_, ?_⟩
      · rw [hr]
        exact trivial
      · rw [hrow, ← hversion]
        rfl
  | cancelled env actor reason preloaded loaded rest hr hvs hlock hfresh hrow =>
      have hversion : loaded.proposal.request.versionLock = w.db.proposal.request.versionLock := by
        cases preloaded with
        | true =>
            rw [hr, hvs] at hcur
            exact hcur rfl loaded rfl
        | false => rw [EditWorld.pinned h hcommit.running (hfresh rfl)]
      refine .inl ⟨?_, ?_⟩
      · rw [hr]
        exact trivial
      · rw [hrow, hversion]
  | edited loaded rest hcount hvs hed hrow hversions => exact .inr ⟨hcount, hrow⟩

/-- The version counts up, and tells the rows of the proposal apart. -/
def NoLater (d d' : Dossier) : Prop :=
  d.proposal.request.versionLock ≤ d'.proposal.request.versionLock ∧
    (d.proposal.request.versionLock = d'.proposal.request.versionLock →
      d.proposal.request = d'.proposal.request)

theorem NoLater.trans {a b c : Dossier} (h : NoLater a b) (h' : NoLater b c) : NoLater a c := by
  obtain ⟨hle, heq⟩ := h
  obtain ⟨hle', heq'⟩ := h'
  refine ⟨hle.trans hle', fun hac => ?_⟩
  have hab : a.proposal.request.versionLock = b.proposal.request.versionLock := by omega
  have hbc : b.proposal.request.versionLock = c.proposal.request.versionLock := by omega
  exact (heq hab).trans (heq' hbc)

/-- A row of the committed version is the committed row. -/
theorem EditWorld.noLater (h : EditWorld s0 UpToDateCommits w) {i : Nat}
    {t : Txn Failure Dossier DossierKey EditRequest} (hi : w.running i = some t) {v : Dossier}
    (hv : v ∈ t.views) : NoLater v w.db := by
  refine Transactions.Reachable.older (R := NoLater) ?_ (fun a b c => NoLater.trans) ?_ h i t hi v hv
  · intro d
    exact ⟨le_refl _, fun _ => rfl⟩
  · intro w i t s hw hok hcommit
    rcases EditWorld.counts hw hok hcommit with ⟨_, hnext⟩ | ⟨_, hsame⟩
    · refine ⟨?_, fun heq => ?_⟩
      · omega
      · omega
    · refine ⟨?_, fun _ => hsame.symm⟩
      rw [hsame]

/-! ## 5. Versions and edits -/

/-- A submission leaves the content: it assigns none of its columns. -/
theorem submitted_content {key : Option Text} {loaded : EventRequest} {inst : Uuid} {p q : Proposal}
    (hrow : q.request = { submitRequest key loaded p.request with workflowInstanceId := some inst })
    (hvenue : q.venueRequest = p.venueRequest) (hbudget : q.budgetProposal = p.budgetProposal) :
    q.content = p.content := by
  unfold Proposal.content
  rw [hrow, hvenue, hbudget]
  rfl

/-- The content is what a snapshot writes of the rows. -/
theorem content_of_snapshot (env : Env) (actor : User) {p q : Proposal}
    (hrequest : p.request = q.request)
    (hvenue : p.venueRequest.map venueContent = q.venueRequest.map venueContent)
    (hbudget : p.budgetProposal.map budgetSnapshot = q.budgetProposal.map budgetSnapshot) :
    p.content = q.content := by
  have hsame : proposalSnapshot env actor 0 p = proposalSnapshot env actor 0 q := by
    unfold proposalSnapshot
    rw [hrequest, hvenue, hbudget]
  have hdecode := decode_proposalSnapshot env actor 0 p
  rw [hsame, decode_proposalSnapshot] at hdecode
  exact (Option.some.inj hdecode).symm

/-- **What a step does to the versions and under which status it edits.** A version is added when the
    status SUBMITTED is committed, and says what is committed then; a proposal that is SUBMITTED,
    IN_REVIEW or APPROVED is not edited. -/
structure FaithfulStep (w w' : World Failure Dossier DossierKey EditRequest) : Prop where
  versions : w'.db.proposal.versions = w.db.proposal.versions ∨
    ∃ row, w'.db.proposal.versions = w.db.proposal.versions ++ [row] ∧
      w'.db.proposal.request.status = .submitted ∧ row.content = some w'.db.proposal.content
  edits : ∀ r, w'.log = w.log ++ [r] → r.Edits →
    w.db.proposal.request.status ≠ .submitted ∧ w.db.proposal.request.status ≠ .inReview ∧
      w.db.proposal.request.status ≠ .approved

theorem EventRequest.Editable.outside {r : EventRequest} (h : r.Editable) :
    r.status ≠ .submitted ∧ r.status ≠ .inReview ∧ r.status ≠ .approved := by
  rcases h with hst | hst
  · rw [hst]
    decide
  · rw [hst]
    decide

/-- **The step lemma** of the versions. -/
theorem EditWorld.versions (h : EditWorld s0 UpToDateCommits w) {i : Nat}
    {t : Txn Failure Dossier DossierKey EditRequest} {s : Dossier}
    (hok : UpToDateCommits w (.run i)) (hcommit : Commit EditRequest.script w i t s) :
    s.proposal.versions = w.db.proposal.versions ∨
      ∃ row, s.proposal.versions = w.db.proposal.versions ++ [row] ∧
        s.proposal.request.status = .submitted ∧ row.content = some s.proposal.content := by
  have hcur := OnCommit.commit h hok hcommit
  cases EditRequest.commit hcommit with
  | drafted env actor eventIn held hr hlock hed hrow =>
      refine .inl ?_
      rw [hrow]
      rfl
  | submitted env actor summary key keys request venue header items flow rest hr hvs hlock hrow
      hversions hvenue hbudget =>
      have hlater : NoLater request w.db := EditWorld.noLater h hcommit.running (by
        rw [hvs]
        exact List.mem_cons_self)
      rw [hr, hvs] at hcur
      obtain ⟨hversion, hvenue', hbudget'⟩ := hcur _ rfl
      refine .inr ⟨_, hversions, ?_, ?_⟩
      · rw [hrow]
        rfl
      · rw [content_submittedVersion, submitted_content hrow hvenue hbudget]
        exact congrArg some
          (content_of_snapshot env.toEnv actor (hlater.2 hversion) hvenue' hbudget')
  | cancelled env actor reason preloaded loaded rest hr hvs hlock hfresh hrow hversions =>
      exact .inl hversions
  | edited loaded rest hcount hvs hed hrow hversions => exact .inl hversions

/-- **The step lemma** of the edits. -/
theorem EditWorld.editable (h : EditWorld s0 UpToDateCommits w) {i : Nat}
    {t : Txn Failure Dossier DossierKey EditRequest} {s : Dossier}
    (hok : UpToDateCommits w (.run i)) (hcommit : Commit EditRequest.script w i t s)
    (hedits : t.request.Edits) :
    w.db.proposal.request.status ≠ .submitted ∧ w.db.proposal.request.status ≠ .inReview ∧
      w.db.proposal.request.status ≠ .approved := by
  have hcur := OnCommit.commit h hok hcommit
  cases EditRequest.commit hcommit with
  | drafted env actor eventIn held hr hlock hed hrow =>
      rw [← EditWorld.pinned h hcommit.running hlock]
      exact hed.outside
  | submitted env actor summary key keys request venue header items flow rest hr =>
      rw [hr] at hedits
      exact hedits.elim
  | cancelled env actor reason preloaded loaded rest hr =>
      rw [hr] at hedits
      exact hedits.elim
  | edited loaded rest hcount hvs hed hrow hversions =>
      have hstatus : loaded.proposal.request.status = w.db.proposal.request.status ∨
          w.db.proposal.request.status = .cancelled := by
        rw [hvs] at hcur
        cases hr : t.request with
        | updateDraft env actor eventIn =>
            rw [hr] at hcount
            exact (hcount trivial).elim
        | submitProposal env actor summary key keys =>
            rw [hr] at hedits
            exact hedits.elim
        | cancelProposal env actor reason preloaded =>
            rw [hr] at hedits
            exact hedits.elim
        | venue env actor op =>
            rw [hr] at hcur
            exact hcur loaded rfl
        | budget env actor op =>
            rw [hr] at hcur
            exact hcur loaded rfl
        | lineItem r =>
            rw [hr] at hcur
            exact hcur loaded rfl
      rcases hstatus with hsame | hcancelled
      · rw [← hsame]
        exact hed.outside
      · rw [hcancelled]
        decide

/-! ## 6. The law -/

/-- **Faithful submission under concurrent editing**, in every interleaving of any number of requests
    that commit while what they have loaded without a lock is still committed: `version_lock` counts
    the committed edits of the draft, submissions and cancellations; a version says what is committed
    with its SUBMITTED; and no edit commits while the proposal is SUBMITTED, IN_REVIEW or APPROVED. -/
theorem faithful_submission (s0 : Dossier) :
    (∀ w, EditWorld s0 UpToDateCommits w → w.db.proposal.request.versionLock =
      s0.proposal.request.versionLock + w.log.countP fun r => r.CountsVersion) ∧
    ∀ w a w', EditWorld s0 UpToDateCommits w → World.Step EditRequest.script w a w' →
      UpToDateCommits w a → FaithfulStep w w' := by
  refine ⟨fun w hw => ?_, fun w a w' hw hstep hok => ?_⟩
  · refine Transactions.Reachable.invariant
      (P := fun log (d : Dossier) => d.proposal.request.versionLock =
        s0.proposal.request.versionLock + log.countP fun r => r.CountsVersion) ?_ ?_ hw
    · intro s hs
      rw [hs]
      rfl
    · intro w i t s hw hok hcommit hcount
      rw [List.countP_append, List.countP_singleton]
      rcases EditWorld.counts hw hok hcommit with ⟨hcounts, hnext⟩ | ⟨hkeeps, hsame⟩
      · rw [hnext, hcount, if_pos (decide_eq_true hcounts)]
        omega
      · rw [hsame, hcount, if_neg (by rw [decide_eq_true_eq]; exact hkeeps)]
        omega
  · rcases Transactions.Reachable.step hw hstep with ⟨hsame, hlog⟩ | ⟨i, t, rfl, hcommit, hlog⟩
    · refine ⟨.inl ?_, fun r hr => ?_⟩
      · rw [hsame]
      · rw [hlog] at hr
        exact (List.cons_ne_nil r [] (List.append_right_eq_self.mp hr.symm)).elim
    · refine ⟨EditWorld.versions hw hok hcommit, fun r hr hedits => ?_⟩
      have hsame : t.request = r := by
        rw [hlog] at hr
        exact (List.cons.inj (List.append_cancel_left hr)).1
      rw [← hsame] at hedits
      exact EditWorld.editable hw hok hcommit hedits

end Runs

/-! ## 7. A submission that is overtaken -/

namespace Sample

def submission : EditRequest := .submitProposal (reviewEnv staff) secretary none none
  { version := uid 101, inst := uid 201, step := fun k => uid (310 + k) }

def retitle : EditRequest :=
  .updateDraft (reviewEnv staff) secretary { title := some "renamed".toList }

/-- The other hall. -/
def move : EditRequest := .venue (reviewEnv staff) secretary (.update { hallId := some (uid 61) })

end Sample

/-- A new title and another hall, at the same time, and then the submission. -/
theorem faithful_submission_edited :
    ∃ s0 w w', EditWorld s0 UpToDateCommits w ∧
      World.Step EditRequest.script w (.run 2) w' ∧ w.log.length = 2 ∧
      w'.db.proposal.request.status = .submitted ∧ w.db.proposal.request.versionLock =
        s0.proposal.request.versionLock + (w.log.countP fun r => r.CountsVersion) ∧
      FaithfulStep w w' := by
  have hrun : Runs.Ends (Sample.after Sample.plan) (fun s0 =>
      Runs.Ends (Runs.run (Runs.only UpToDateCommits .idle (World.next EditRequest.script))
        (.start 0 Sample.retitle :: .run 0 :: .start 1 Sample.move :: List.replicate 5 (.run 1) ++
          .run 0 :: .start 2 Sample.submission :: List.replicate 6 (.run 2)) (World.idle s0)) (fun w =>
        w.log.length = 2 ∧ UpToDateCommits w (.run 2) ∧
        Runs.Ends (World.next EditRequest.script (.run 2) w) (fun w' =>
          w'.db.proposal.request.status = .submitted))) := by
    decide
  obtain ⟨s0, _, w, hw, hlog, hok, w', hstep, hst⟩ := hrun
  have hreach : EditWorld s0 UpToDateCommits w :=
    Runs.Reach.path (.start ⟨s0, rfl, rfl⟩) (Runs.path_of_run_only hw)
  have hlaw := faithful_submission s0
  exact ⟨s0, w, w', hreach, hstep, hlog, hst, hlaw.1 w hreach,
    hlaw.2 w (.run 2) w' hreach hstep hok⟩

/-- An edit of the draft is committed between the select of a submission and its commit: the version
    counts one of the two. -/
theorem submission_overtaken :
    ¬ ∀ s0, (∀ w, EditWorld s0 (fun _ _ => True) w → w.db.proposal.request.versionLock =
        s0.proposal.request.versionLock + w.log.countP fun r => r.CountsVersion) ∧
      ∀ w a w', EditWorld s0 (fun _ _ => True) w → World.Step EditRequest.script w a w' →
        FaithfulStep w w' := by
  intro hall
  have hrun : Runs.Ends (Sample.after Sample.plan) (fun s0 =>
      s0.proposal.request.versionLock = 0 ∧
      Runs.Ends (Runs.run (World.next EditRequest.script)
        (.start 0 Sample.submission :: List.replicate 5 (.run 0) ++
          .start 1 Sample.retitle :: List.replicate 2 (.run 1) ++ List.replicate 2 (.run 0))
        (World.idle s0)) (fun w => w.db.proposal.request.versionLock = 1 ∧
          (w.log.countP fun r => r.CountsVersion) = 2)) := by
    decide
  obtain ⟨s0, _, hzero, w, hw, hone, htwo⟩ := hrun
  have hreach : EditWorld s0 (fun _ _ => True) w :=
    Runs.Reach.path (.start ⟨s0, rfl, rfl⟩) ((Runs.path_of_run hw).under fun _ _ => trivial)
  have hcount := (hall s0).1 w hreach
  rw [hone, hzero, htwo] at hcount
  omega

end CampusConnect
