/-
  File:      CampusConnect/Guarantees/Secretaries.lean
  Subject:   Who writes a proposal: administrators, and those whom the roster of its club seats.

  * `Authorised`: what `verify_club_ownership` and the check of an active club leave of an actor;
  * `ReviewOp.writer`: every operation that changes what a proposal says asks for it;
  * `Writes`, `CampusStep.writer`: the same over a call on the campus;
  * `secretaries_write`: the writer has a chain of enrolments, and who lost his seat writes nothing.
-/
import CampusConnect.Campus
import CampusConnect.Guarantees.Bills
import CampusConnect.Guarantees.Frozen

namespace CampusConnect

open Guarded Rows Runs EventService VenueService BudgetService WorkflowService

/-! ## 1. One operation -/

/-- The actor owns the business of the club, and the club is active. -/
def Authorised (env : Env) (clubId : Uuid) (actor : User) : Prop :=
  ∃ text inactive club, verifyActiveClub env clubId actor text inactive = .ok club

section Operations

variable {env : ReviewEnv} {actor : User} {p q : Proposal} {op : ReviewOp}

theorem openForEditing_authorised {env : Env} {r : EventRequest} {message action inactive : String}
    {u : Unit} (h : openForEditing env actor r message action inactive = .ok u) :
    Authorised env r.clubId actor := by
  simp only [openForEditing, bind_accepts, exists_unit] at h
  obtain ⟨_, _, club, hclub, _⟩ := h
  exact ⟨action, inactive, club, hclub⟩

/-- **An operation that changes what a proposal says, or submits it, is authorised**. -/
theorem ReviewOp.writer {existing : Option Event} {f : Flush}
    (h : op.flush env actor existing p p = .ok f) (hw : f.write p = .ok q) :
    (q.content = p.content ∧ q.versions = p.versions) ∨
      Authorised env.toEnv p.request.clubId actor := by
  obtain ⟨hstep, _⟩ := ReviewOp.step h hw
  cases op with
  | updateDraft eventIn =>
      simp only [ReviewOp.flush, EventService.updateDraft, bind_accepts, exists_unit] at h
      obtain ⟨_, _, _, club, hclub, _⟩ := h
      exact .inr ⟨_, _, club, hclub⟩
  | submitProposal summary key keys =>
      simp only [ReviewOp.flush, EventService.submitProposal, bind_accepts, exists_unit] at h
      obtain ⟨_, h⟩ := h
      by_cases ha : AlreadySubmitted key p.request
      · rw [if_pos ha] at h
        cases h
        cases hw
        exact .inl ⟨rfl, rfl⟩
      · rw [if_neg ha] at h
        simp only [bind_accepts, exists_unit] at h
        obtain ⟨_, club, hclub, _⟩ := h
        exact .inr ⟨_, _, club, hclub⟩
  | approveStep stepId comments newBookingId newEventId =>
      cases hstep with
      | approved _ _ _ _ step inst _ hd happ => exact .inl ⟨approved_content happ, happ.versions⟩
  | rejectStep stepId comments =>
      cases hstep with
      | rejected _ _ step inst _ hd hrej => exact .inl ⟨rejected_content hrej, hrej.versions⟩
  | requestRevision stepId comments =>
      cases hstep with
      | revised _ _ step inst t hd ht => exact .inl ⟨rfl, rfl⟩
  | verifyBudget verificationIn =>
      cases hstep with
      | verified _ bp hbp =>
          refine .inl ⟨content_congr rfl rfl ?_, rfl⟩
          rw [hbp]
          rfl
  | createVenueRequest newId venueIn =>
      simp only [ReviewOp.flush, VenueService.createVenueRequest, bind_accepts, exists_unit] at h
      exact .inr (openForEditing_authorised h.1)
  | updateVenueRequest venueIn =>
      simp only [ReviewOp.flush, VenueService.updateVenueRequest, bind_accepts, exists_unit] at h
      exact .inr (openForEditing_authorised h.1)
  | deleteVenueRequest =>
      simp only [ReviewOp.flush, VenueService.deleteVenueRequest, bind_accepts, exists_unit] at h
      exact .inr (openForEditing_authorised h.1)
  | createBudgetProposal newId newItemId budgetIn =>
      simp only [ReviewOp.flush, BudgetService.createBudgetProposal, bind_accepts, exists_unit] at h
      exact .inr (openForEditing_authorised h.1)
  | updateBudgetProposal budgetIn =>
      simp only [ReviewOp.flush, BudgetService.updateBudgetProposal, bind_accepts, exists_unit] at h
      exact .inr (openForEditing_authorised h.1)
  | deleteBudgetProposal =>
      simp only [ReviewOp.flush, BudgetService.deleteBudgetProposal, bind_accepts, exists_unit] at h
      exact .inr (openForEditing_authorised h.1)
  | addLineItem newId itemIn =>
      simp only [ReviewOp.flush, BudgetService.addLineItem, bind_accepts, exists_unit] at h
      exact .inr (openForEditing_authorised h.1)
  | updateLineItem itemId itemIn =>
      simp only [ReviewOp.flush, BudgetService.updateLineItem, bind_accepts, exists_unit] at h
      exact .inr (openForEditing_authorised h.1)
  | deleteLineItem itemId =>
      simp only [ReviewOp.flush, BudgetService.deleteLineItem, bind_accepts, exists_unit] at h
      exact .inr (openForEditing_authorised h.1)

/-- No withdrawal and no call on the event changes what the proposal says. -/
theorem Traced.event_content {cfg : Config} {d d' : Dossier} {c : Call} (hin : InStanding d)
    (hs : Traced cfg d (.event c) d') :
    d'.proposal.content = d.proposal.content ∧ d'.proposal.versions = d.proposal.versions := by
  cases hs with
  | withdrawn c p logs entries hst =>
      obtain ⟨hversions, _, _, hrequest⟩ := withdrawn_rows p
      have hterms : ∀ vr, (withdrawVenue vr).terms = vr.terms := by
        intro vr
        unfold withdrawVenue
        split <;> rfl
      refine ⟨?_, hversions⟩
      rw [Dossier.proposal_proposed, Dossier.proposal_proposed]
      unfold Proposal.content
      rw [hrequest, withdrawn_budget, withdrawn_venue, Option.map_map]
      have hsame : VenueRequest.terms ∘ withdrawVenue = VenueRequest.terms := funext hterms
      rw [hsame]
  | event c s s' hstep =>
      obtain ⟨booking, hrows⟩ := hin.event_rows hstep
      rw [Dossier.proposal_confirmed, Dossier.proposal_confirmed, hrows]
      exact ⟨rfl, rfl⟩

end Operations

/-! ## 2. One call -/

/-- Who asks. -/
def Request.actor : Request → User
  | .review _ actor _ => actor
  | .event c => c.actor

def Visit.actor : Visit → User
  | .draft _ actor _ _ => actor
  | .request _ r => r.actor
  | .upload _ actor _ _ _ => actor
  | .deleteDocument _ actor _ _ => actor

def CampusOp.actor : CampusOp → User
  | .visit v => v.actor
  | .govern op => op.actor
  | .createHall _ _ _ actor => actor

/-- The calls that seat a secretary of the club, and those of an administrator on it. -/
def CampusOp.Seats (clubId : Uuid) : CampusOp → Uuid → Prop
  | .govern op, u => op.Seats clubId u
  | _, _ => False

def CampusOp.ByAdmin (clubId : Uuid) : CampusOp → Prop
  | .govern op => op.ByAdmin clubId
  | _ => False

/-- **A proposal of the club is new, says something else or has one more version.** -/
inductive Writes (w w' : Registry) (clubId : Uuid) : Prop where
  | drafted (i : Nat) (d : Dossier) (hnew : w.dossiers[i]? = none) (hd : w'.dossiers[i]? = some d)
      (hclub : d.proposal.request.clubId = clubId) : Writes w w' clubId
  | changed (i : Nat) (d d' : Dossier) (hd : w.dossiers[i]? = some d) (hd' : w'.dossiers[i]? = some d')
      (hclub : d.proposal.request.clubId = clubId)
      (hdiff : ¬ (d'.proposal.content = d.proposal.content ∧
        d'.proposal.versions = d.proposal.versions)) : Writes w w' clubId

/-- The club is there and active. -/
def Governance.Active (g : Governance) (clubId : Uuid) : Prop :=
  ∃ club ∈ g.store.clubs, club.id = clubId ∧ club.deletedAt = none ∧ club.isActive = true

section Calls

variable {cfg : Config} {nfkd : Text → Text} {files : FileSettings} {c c' : Campus} {op : CampusOp}
  {clubId : Uuid} {actor : User} {w : Registry}

/-- The club the ownership guard returns. -/
theorem verifyClubOwnership_club {env : Env} {text : String} {club : Club}
    (h : verifyClubOwnership env clubId actor text = .ok club) :
    club ∈ env.clubs ∧ club.id = clubId ∧ club.deletedAt = none := by
  simp only [verifyClubOwnership, bind_accepts, fetch_accepts] at h
  obtain ⟨found, hfound, h⟩ := h
  have hmem := List.mem_of_find?_eq_some hfound
  have hkey := List.find?_some hfound
  rw [decide_eq_true_eq] at hkey
  have hsame : found = club := by
    by_cases hadmin : actor.role = .systemAdmin
    · rw [if_pos hadmin] at h
      exact pure_accepts.mp h
    · rw [if_neg hadmin] at h
      by_cases hsecretary : actor.role = .clubSecretary
      · simp only [if_pos hsecretary, bind_accepts, exists_unit, pure_accepts] at h
        exact h.2
      · rw [if_neg hsecretary] at h
        cases h
  rw [← hsame]
  exact ⟨hmem, hkey⟩

/-- The authority of a call, over the rows of the campus. -/
theorem Authorised.owns {env : Env}
    (hmembers : env.members = c.governance.members.map MemberRow.toClubMember)
    (hclubs : env.clubs = c.governance.store.clubs.map ClubRow.toClub)
    (h : Authorised env clubId actor) :
    c.governance.Owns clubId actor ∧ c.governance.Active clubId := by
  obtain ⟨text, inactive, club, h⟩ := h
  simp only [verifyActiveClub, bind_accepts, refuse_accepts, exists_unit, pure_accepts] at h
  obtain ⟨found, howner, hact, _⟩ := h
  refine ⟨verifyClubOwnership_owns hmembers howner, ?_⟩
  obtain ⟨hmem, hid, hlive⟩ := verifyClubOwnership_club howner
  rw [hclubs] at hmem
  obtain ⟨row, hrow, rfl⟩ := List.mem_map.mp hmem
  exact ⟨row, hrow, hid, hlive, (Bool.not_eq_false _).mp hact⟩

/-- **The step lemma**: who writes a proposal of a club owns its business at that time. -/
theorem Campus.Step.writer (hk : Keyed c.registry) (h : Campus.Step cfg nfkd files c op c')
    (hw : Writes c.registry c'.registry clubId) :
    c.governance.Owns clubId op.actor ∧ c.governance.Active clubId := by
  have hidle : ¬ Writes c.registry c.registry clubId := by
    intro hself
    cases hself with
    | drafted i d hnew hd hclub =>
        rw [hnew] at hd
        cases hd
    | changed i d d' hd hd' hclub hdiff =>
        rw [hd] at hd'
        cases hd'
        exact hdiff ⟨rfl, rfl⟩
  cases h.step with
  | governed op g hg => exact (hidle hw).elim
  | built now newId hallIn actor inventory hinv => exact (hidle hw).elim
  | visited v w hvisit =>
      rcases hvisit.dossiers with ⟨env, actor, newId, eventIn, d, hv, hd, rfl⟩ |
        ⟨i, r, d, d', hv, hd, hstep, rfl⟩ | hsame
      · -- the new draft is the only dossier that is new
        cases v with
        | draft env' actor' newId' eventIn' =>
            cases hv
            simp only [Dossier.create, createDraft, bind_accepts, pure_accepts] at hd
            obtain ⟨_, ⟨club, hclub, rfl⟩, rfl⟩ := hd
            have howner : Authorised (c.env env') eventIn.clubId actor := ⟨_, _, club, hclub⟩
            cases hw with
            | drafted j e hnew he hclubId =>
                rcases Registry.get_add he with ⟨_, rfl⟩ | ⟨_, hold⟩
                · have hid : eventIn.clubId = clubId := hclubId
                  rw [← hid]
                  exact howner.owns rfl rfl
                · rw [hnew] at hold
                  cases hold
            | changed j e e' he he' hclubId hdiff =>
                rcases Registry.get_add he' with ⟨hj, _⟩ | ⟨_, hold⟩
                · rw [hj, List.getElem?_eq_none (le_refl _)] at he
                  cases he
                · rw [he] at hold
                  cases hold
                  exact (hdiff ⟨rfl, rfl⟩).elim
        | request i r => cases hv
        | upload env actor newId eventId u => cases hv
        | deleteDocument env actor eventId docId => cases hv
      · cases v with
        | request k r' =>
            cases hv
            cases hw with
            | drafted j e hnew he hclubId =>
                rcases Registry.get_update hd he with ⟨hj, _⟩ | ⟨_, hold⟩
                · rw [hj, hd] at hnew
                  cases hnew
                · rw [hnew] at hold
                  cases hold
            | changed j e e' he he' hclubId hdiff =>
                rcases Registry.get_update hd he' with ⟨hj, rfl⟩ | ⟨_, hold⟩
                · rw [hj, hd] at he
                  cases he
                  rw [← hclubId]
                  cases r' with
                  | event call => exact (hdiff (hstep.traced.event_content (hk.standing _ _ hd).1)).elim
                  | review env actor op =>
                      obtain ⟨f, q, hf, hq, hrows⟩ := hstep.flush
                      rw [hrows] at hdiff
                      rcases ReviewOp.writer hf hq with hsame | howner
                      · exact (hdiff hsame).elim
                      · exact howner.owns rfl rfl
                · rw [he] at hold
                  cases hold
                  exact (hdiff ⟨rfl, rfl⟩).elim
        | draft env actor newId eventIn => cases hv
        | upload env actor newId eventId u => cases hv
        | deleteDocument env actor eventId docId => cases hv
      · cases hw with
        | drafted j e hnew he hclubId =>
            rw [hsame, hnew] at he
            cases he
        | changed j e e' he he' hclubId hdiff =>
            rw [hsame, he] at he'
            cases he'
            exact (hdiff ⟨rfl, rfl⟩).elim

/-- The rosters of a campus change as those of its clubs. -/
theorem Campus.Step.governs {userId : Uuid} (h : Campus.Step cfg nfkd files c op c')
    (hg : c'.governance.Governs clubId userId) :
    c.governance.Governs clubId userId ∨ (op.Seats clubId userId ∧
      (op.ByAdmin clubId ∨ c.governance.Governs clubId op.actor.id)) := by
  cases h.step with
  | visited v w hw => exact .inl hg
  | built now newId hallIn actor inventory hinv => exact .inl hg
  | governed op g hstep => exact hstep.roster.governs hg

end Calls

/-! ## 3. The law -/

/-- **Proposals are written by those their club has seated**: at any time of any run of the calls on the
    campus, whoever drafts a proposal of a club, changes what one says or submits it is an
    administrator, or a club secretary whom the roster has as an active one at that moment, and whose
    chain of enrolments begins with an administrator or with the roster the run began with; and the
    club is active. Who has no seat, and is not seated by an accepted call, writes none of its proposals
    later on either, however he once wrote them. -/
theorem secretaries_write (cfg : Config) (nfkd : Text → Text) (files : FileSettings) (clubId : Uuid)
    {c0 c c' : Campus} {ops : List CampusOp} {op : CampusOp}
    (h0 : Campus.Reachable cfg nfkd files c0) (hrun : Path (Campus.Step cfg nfkd files) c0 ops c)
    (hs : Campus.Step cfg nfkd files c op c') (hw : Writes c.registry c'.registry clubId) :
    c.governance.Active clubId ∧
      (op.actor.role = .systemAdmin ∨
        (op.actor.role = .clubSecretary ∧ c.governance.Governs clubId op.actor.id ∧
          Delegated (c0.governance.Governs clubId) (CampusOp.ByAdmin clubId) (fun o => o.actor.id)
            (CampusOp.Seats clubId) ops op.actor.id ∧
          (¬ c0.governance.Governs clubId op.actor.id → ∃ o ∈ ops, o.Seats clubId op.actor.id))) := by
  have hreach : Campus.Reachable cfg nfkd files c := h0.path hrun
  have hkeyed : Keyed c.registry := by
    refine Reach.invariant (P := Keyed) (fun w hempty => ?_) (fun w v w' hk hv => hv.step.keyed hk)
      hreach.registry
    have hk : Keyed w ∧ Ledgered files w := hempty.ledgered
    exact hk.1
  obtain ⟨howner, hactive⟩ := hs.writer hkeyed hw
  have hstep : ∀ s o s', Campus.Step cfg nfkd files s o s' → ∀ u, s'.governance.Governs clubId u →
      s.governance.Governs clubId u ∨ (CampusOp.Seats clubId o u ∧
        (CampusOp.ByAdmin clubId o ∨ s.governance.Governs clubId o.actor.id)) :=
    fun s o s' hstep u hu => Campus.Step.governs hstep hu
  refine ⟨hactive, howner.imp id fun ⟨hrole, hgoverns⟩ => ⟨hrole, hgoverns, ?_, ?_⟩⟩
  · exact hrun.granted hstep hgoverns
  · intro hnone
    by_contra hnever
    -- nobody seats him, so that he has no seat at the end
    have hseats : ∀ o ∈ ops, ¬ o.Seats clubId op.actor.id := fun o ho hseat => hnever ⟨o, ho, hseat⟩
    refine (hrun.under hseats).preserves (P := fun s => ¬ s.governance.Governs clubId op.actor.id)
      ?_ hnone hgoverns
    rintro s o s' hn ⟨hnext, ho⟩ hg
    rcases hstep s o s' hnext _ hg with hold | ⟨hseat, _⟩
    · exact hn hold
    · exact ho hseat

namespace Sample

def newcomer : User := ⟨uid 41, "newcomer".toList, .clubSecretary⟩

/-- The administrator seats the newcomer. -/
def seating : List CampusOp :=
  [.govern (.addMember ⟨100, uid 71, [⟨newcomer, true, none⟩], []⟩ (uid 13)
    ⟨newcomer.id, .secretary⟩ admin)]

/-- The newcomer drafts a proposal. -/
def newcomersDraft : CampusOp :=
  .visit (.draft env newcomer (uid 500)
    { clubId := uid 13
      title := "event".toList
      eventType := .workshop
      academicYear := "2025".toList })

end Sample

theorem secretaries_write_sample : ∃ c c',
    Path (Campus.Step (Sample.config .sqlite) id Sample.files) Sample.campus Sample.seating c ∧
      Campus.Step (Sample.config .sqlite) id Sample.files c Sample.newcomersDraft c' ∧
      Writes c.registry c'.registry (Sample.uid 13) ∧
      Delegated (Sample.campus.governance.Governs (Sample.uid 13)) (CampusOp.ByAdmin (Sample.uid 13))
        (fun o => o.actor.id) (CampusOp.Seats (Sample.uid 13)) Sample.seating Sample.newcomer.id := by
  obtain ⟨c, hc, c', hc', hnone, d, hd, hclub⟩ : Ends
      (run (Campus.exec (Sample.config .sqlite) id Sample.files) Sample.seating Sample.campus)
      (fun c => Ends (Campus.exec (Sample.config .sqlite) id Sample.files Sample.newcomersDraft c)
        fun c' => c.registry.dossiers[0]? = none ∧ ∃ d ∈ c'.registry.dossiers[0]?,
          d.proposal.request.clubId = Sample.uid 13) := by decide +kernel
  have hw : Writes c.registry c'.registry (Sample.uid 13) := .drafted 0 d hnone hd hclub
  have hlaw := secretaries_write _ id Sample.files (Sample.uid 13) (.start Sample.campus_opening)
    (path_of_run hc) hc' hw
  rcases hlaw.2 with hadmin | ⟨_, _, hgranted, _⟩
  · cases hadmin
  · exact ⟨c, c', path_of_run hc, hc', hw, hgranted⟩

end CampusConnect
