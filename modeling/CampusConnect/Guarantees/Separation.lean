/-
  File:      CampusConnect/Guarantees/Separation.lean
  Subject:   SEPARATION OF DUTIES at the endpoints: who asks and who decides, over whole runs of the
             server.

  * `Side`, `CampusOp.side`: which requests are the club's, and which are the offices';
  * `CampusOp.asks_role`, `Op.decides_office`: whom the gates and the services let through;
  * `Server.Manned`, `Server.Chartered`, `Chartered.step`: a submission that finds every office filled, and
    the invariant: advisors are advisors, and every step of every proposal is an office's;
  * `duties_apart`: no account is accepted on both sides.
-/
import CampusConnect.Guarantees.Authority
import CampusConnect.Guarantees.Bills
import CampusConnect.Guarantees.Endpoints

namespace CampusConnect

open Guarded Runs Rows WorkflowService

/-! ## 1. The two sides -/

/-- The club asks, the offices decide. -/
inductive Side where
  | asks
  | decides
  deriving DecidableEq, Repr

def ReviewOp.side : ReviewOp → Side
  | .approveStep _ _ _ _ => .decides
  | .rejectStep _ _ => .decides
  | .requestRevision _ _ => .decides
  | .verifyBudget _ => .decides
  | _ => .asks

/-- `none` where the roster of the club says who may call, an administrator may, or nothing is decided. -/
def Op.side : Op → Option Side
  | .requestAdvance _ _ _ => some .asks
  | .approveAdvance _ _ _ => some .decides
  | .rejectAdvance _ _ => some .decides
  | .disburseAdvance _ _ _ _ _ => some .decides
  | .recordIncome _ _ _ _ _ _ _ _ => some .asks
  | .verifyIncome _ _ => some .decides
  | .rejectIncome _ _ _ => some .decides
  | .verifyExpense _ _ => some .decides
  | .partialVerifyExpense _ _ _ => some .decides
  | .queryExpense _ _ => some .decides
  | .disallowExpense _ _ => some .decides
  | .prepareSettlement _ => some .asks
  | .submitSettlement _ => some .asks
  | .auditSettlement _ _ _ _ => some .decides
  | .recordPayment _ _ _ => some .decides
  | .reopenSettlement _ _ _ => some .decides
  | .certifyReport _ => some .decides
  | .requestRevision _ => some .decides
  | .requestCloseout _ => some .asks
  | .certifyCloseout _ _ _ => some .decides
  | .rejectCloseout _ => some .decides
  | .approveReopen _ _ _ => some .decides
  | _ => none

def Upload.side : Upload → Option Side
  | .incomeEvidence _ => some .asks
  | .settlementPaymentProof _ => some .decides
  | _ => none

def CampusOp.side : CampusOp → Option Side
  | .visit (.draft _ _ _ _) => some .asks
  | .visit (.request _ (.review _ _ op)) => some op.side
  | .visit (.request _ (.event c)) => c.op.side
  | .visit (.upload _ _ _ _ u) => u.side
  | _ => none

section Sides

variable {cfg : Config} {env : Env} {actor : User} {s s' : State} {role : UserRole} {gate : Gate}

theorem ReviewOp.asks_gate {op : ReviewOp} (h : op.side = .asks) :
    op.gate = .requirePermission .eventPropose ∨ op.gate = .requirePermission .eventEditDraft := by
  cases op with
  | submitProposal summary key keys => exact .inl rfl
  | createVenueRequest newId venueIn => exact .inl rfl
  | createBudgetProposal newId newItemId budgetIn => exact .inl rfl
  | approveStep stepId comments newBookingId newEventId => cases h
  | rejectStep stepId comments => cases h
  | requestRevision stepId comments => cases h
  | verifyBudget remarks => cases h
  | _ => exact .inr rfl

theorem Op.asks_gate {op : Op} (h : op.side = some .asks) :
    op.gate = some (.requireAnyRole [.clubSecretary]) := by
  cases op with
  | requestAdvance newId amount reason => rfl
  | recordIncome newId src amount description payer date doc reference => rfl
  | prepareSettlement newId => rfl
  | submitSettlement id => rfl
  | requestCloseout remarks => rfl
  | _ => cases h

/-- **Who asks is a club secretary.** -/
theorem CampusOp.asks_role {op : CampusOp} (h : op.side = some .asks) (hgate : op.gate = some gate)
    (hrole : gate.Admits role) : role = .clubSecretary := by
  have hclub : gate = .requirePermission .eventPropose ∨ gate = .requirePermission .eventEditDraft ∨
      gate = .requireAnyRole [.clubSecretary] := by
    cases op with
    | govern op => cases h
    | createHall now newId hallIn actor => cases h
    | visit v =>
        cases v with
        | draft env actor newId eventIn => exact .inl (Option.some.inj hgate).symm
        | deleteDocument env actor eventId docId => cases h
        | upload env actor newId eventId u =>
            cases u with
            | incomeEvidence file => exact .inr (.inr (Option.some.inj hgate).symm)
            | _ => cases h
        | request i r =>
            cases r with
            | review env actor op =>
                cases hgate
                rcases ReviewOp.asks_gate (Option.some.inj h) with he | he
                · exact .inl he
                · exact .inr (.inl he)
            | event c => exact .inr (.inr (Option.some.inj (hgate.symm.trans (Op.asks_gate h))))
  rcases hclub with rfl | rfl | rfl
  · exact List.mem_singleton.mp hrole
  · exact List.mem_singleton.mp hrole
  · exact List.mem_singleton.mp hrole

/-- The endpoints of the offices: a gate that keeps club secretaries out, or none. -/
theorem Op.decides_gate {op : Op} (h : op.side = some .decides) :
    (∃ roles, op.gate = some (.requireAnyRole roles) ∧ .clubSecretary ∉ roles) ∨
      op.gate = some .currentUser := by
  cases op with
  | approveAdvance id amount remarks => exact .inl ⟨_, rfl, by decide⟩
  | rejectAdvance id reason => exact .inl ⟨_, rfl, by decide⟩
  | disburseAdvance id amount reference date notes => exact .inl ⟨_, rfl, by decide⟩
  | verifyIncome id remarks => exact .inl ⟨_, rfl, by decide⟩
  | rejectIncome id reason remarks => exact .inl ⟨_, rfl, by decide⟩
  | auditSettlement id action remarks reason => exact .inl ⟨_, rfl, by decide⟩
  | recordPayment id newId args => exact .inl ⟨_, rfl, by decide⟩
  | reopenSettlement id newId reason => exact .inl ⟨_, rfl, by decide⟩
  | certifyCloseout newId notes cleared => exact .inl ⟨_, rfl, by decide⟩
  | rejectCloseout reason => exact .inl ⟨_, rfl, by decide⟩
  | approveReopen newId revId reason => exact .inl ⟨_, rfl, by decide⟩
  | verifyExpense id remarks => exact .inr rfl
  | partialVerifyExpense id amount remarks => exact .inr rfl
  | queryExpense id remarks => exact .inr rfl
  | disallowExpense id remarks => exact .inr rfl
  | certifyReport remarks => exact .inr rfl
  | requestRevision remarks => exact .inr rfl
  | _ => cases h

theorem verifyAdvisorEligibility_accepts {clubId : Uuid} {action : String} {u : Unit}
    (h : EventExecutionService.verifyAdvisorEligibility env clubId actor action = .ok u) :
    ∃ club ∈ env.clubs, club.facultyAdvisorId = some actor.id := by
  simp only [EventExecutionService.verifyAdvisorEligibility, bind_accepts, fetch_accepts, refuse_accepts,
    not_not] at h
  obtain ⟨_, _, club, hclub, hadvisor⟩ := h
  exact ⟨club, List.mem_of_find?_eq_some hclub, hadvisor⟩

/-- A decision on an expense begins with the officer's check. -/
theorem ExpenseService.officer_of_loaded {verb : String} {id : Uuid}
    {rest : ActualExpense → Result State}
    (h : (ExpenseService.loadSubmitted verb actor id s >>= rest) = .ok s') :
    actor.role = .financeOfficer := by
  obtain ⟨_, hload, _⟩ := bind_accepts.mp h
  exact (ExpenseService.loadSubmitted_accepts.mp hload).1

/-- **Who decides behind an open gate** is the finance officer, or the advisor of a club. -/
theorem Op.decides_office {op : Op} (h : op.side = some .decides) (hgate : op.gate = some .currentUser)
    (hexec : op.exec cfg env actor s = .ok s') :
    actor.role = .financeOfficer ∨ ∃ club ∈ env.clubs, club.facultyAdvisorId = some actor.id := by
  cases op with
  | verifyExpense _ _ => exact .inl (ExpenseService.officer_of_loaded hexec)
  | partialVerifyExpense _ _ _ => exact .inl (ExpenseService.officer_of_loaded hexec)
  | queryExpense _ _ => exact .inl (ExpenseService.officer_of_loaded hexec)
  | disallowExpense _ _ => exact .inl (ExpenseService.officer_of_loaded hexec)
  | certifyReport remarks =>
      simp only [Op.exec, EventExecutionService.certifyReport, bind_accepts, exists_unit] at hexec
      obtain ⟨_, _, _, _, hadvisor, _⟩ := hexec
      exact .inr (verifyAdvisorEligibility_accepts hadvisor)
  | requestRevision remarks =>
      simp only [Op.exec, EventExecutionService.requestRevision, bind_accepts, exists_unit] at hexec
      obtain ⟨_, _, _, _, hadvisor, _⟩ := hexec
      exact .inr (verifyAdvisorEligibility_accepts hadvisor)
  | _ =>
      first
      | cases hgate
        done
      | cases h

end Sides

/-! ## 2. The offices -/

/-- The key of an account that is no club secretary's. -/
def AccountStore.Office (s : AccountStore) (id : Uuid) : Prop :=
  ∃ u ∈ s.users, u.id = id ∧ u.role ≠ .clubSecretary

/-- The advisor of a club is one. -/
def Server.Advised (s : Server) : Prop :=
  ∀ club ∈ s.campus.governance.store.clubs, ∀ id ∈ club.facultyAdvisorId,
    ∃ u ∈ s.accounts.users, u.id = id ∧ u.role = .facultyAdvisor

/-- The step of a template is an office's, its user too where it names one, and an active user has the
    role or administers. -/
structure AccountStore.Fills (s : AccountStore) (t : WorkflowTemplateStep) : Prop where
  office : t.requiredRole ≠ .clubSecretary
  named : ∀ id ∈ t.assignedUserId, s.Office id
  held : ∃ u ∈ s.activeUsers, u.role = t.requiredRole ∨ u.role = .systemAdmin

instance (s : AccountStore) (id : Uuid) : Decidable (s.Office id) :=
  inferInstanceAs (Decidable (∃ u ∈ s.users, _))

instance (s : AccountStore) (t : WorkflowTemplateStep) : Decidable (s.Fills t) :=
  decidable_of_iff (t.requiredRole ≠ .clubSecretary ∧ (∀ id ∈ t.assignedUserId, s.Office id) ∧
      ∃ u ∈ s.activeUsers, u.role = t.requiredRole ∨ u.role = .systemAdmin)
    ⟨fun h => ⟨h.1, h.2.1, h.2.2⟩, fun h => ⟨h.office, h.named, h.held⟩⟩

/-- The template a submission meets. -/
def CampusOp.template : CampusOp → Option (List WorkflowTemplateStep)
  | .visit (.request _ r) => r.template
  | _ => none

/-- A submission finds every office filled. -/
def Server.Manned (s : Server) : ApiOp → Prop
  | .auth _ => True
  | .call c => ∀ steps ∈ c.op.template, ∀ t ∈ steps, s.accounts.Fills t

instance (s : Server) : (op : ApiOp) → Decidable (s.Manned op)
  | .auth _ => isTrue trivial
  | .call c => inferInstanceAs (Decidable (∀ steps ∈ c.op.template, ∀ t ∈ steps, s.accounts.Fills t))

section Offices

variable {s : Server} {env : ReviewEnv} {id : Uuid} {role : UserRole}

theorem roleUser_some (h : roleUser env role = some id) :
    ∃ u ∈ env.users, u.id = id ∧ u.role = role := by
  obtain ⟨u, hu, hid⟩ := Option.map_eq_some_iff.mp h
  have hrole := List.find?_some hu
  rw [decide_eq_true_eq] at hrole
  exact ⟨u, List.mem_of_find?_eq_some hu, hid, hrole⟩

theorem roleUser_none (h : roleUser env role = none) : ∀ u ∈ env.users, u.role ≠ role := by
  intro u hu hrole
  have hnot := List.find?_eq_none.mp (Option.map_eq_none_iff.mp h) u hu
  rw [decide_eq_true_eq] at hnot
  exact hnot hrole

/-- An active user other than a club secretary. -/
theorem AccountStore.office_of_active {accounts : AccountStore} {u : User}
    (hu : u ∈ accounts.activeUsers)
    (hrole : u.role ≠ .clubSecretary) : accounts.Office u.id := by
  obtain ⟨row, hrow, rfl⟩ := List.mem_map.mp hu
  exact ⟨row, (List.mem_filter.mp hrow).1, rfl, hrole⟩

/-- **Whom a step goes to**, where every office is filled. -/
theorem resolveAssignee_office {t : WorkflowTemplateStep} (clubId : Uuid) (actor : User)
    (hadvised : s.Advised) (hfills : s.accounts.Fills t) (husers : env.users = s.accounts.activeUsers)
    (hclubs : env.clubs = s.campus.governance.store.clubs.map ClubRow.toClub) :
    s.accounts.Office (resolveAssignee env clubId actor t) := by
  have hfallback : s.accounts.Office
      (((roleUser env t.requiredRole).or (roleUser env .systemAdmin)).getD actor.id) := by
    obtain ⟨u, hu, hrole⟩ := hfills.held
    rw [← husers] at hu
    have hof : ∀ role, role ≠ .clubSecretary → ∀ id, roleUser env role = some id →
        s.accounts.Office id := by
      intro role hrole id hid
      obtain ⟨v, hv, rfl, rfl⟩ := roleUser_some hid
      rw [husers] at hv
      exact AccountStore.office_of_active hv hrole
    cases hfirst : roleUser env t.requiredRole with
    | some id => exact hof _ hfills.office id hfirst
    | none =>
        cases hsecond : roleUser env .systemAdmin with
        | some id => exact hof _ (by decide) id hsecond
        | none =>
            rcases hrole with he | he
            · exact (roleUser_none hfirst u hu he).elim
            · exact (roleUser_none hsecond u hu he).elim
  unfold resolveAssignee
  cases hnamed : t.assignedUserId with
  | some id => exact hfills.named id hnamed
  | none =>
      simp only
      split
      · cases hclub : (env.clubs.find? fun c => c.id = clubId).bind Club.facultyAdvisorId with
        | none => exact hfallback
        | some id =>
            obtain ⟨club, hfound, hid⟩ := Option.bind_eq_some_iff.mp hclub
            have hmem := List.mem_of_find?_eq_some hfound
            rw [hclubs] at hmem
            obtain ⟨row, hrow, rfl⟩ := List.mem_map.mp hmem
            obtain ⟨u, hu, hkey, hrole⟩ := hadvised row hrow id hid
            exact ⟨u, hu, hkey, by rw [hrole]; decide⟩
      · exact hfallback

end Offices

/-! ## 3. What the calls keep -/

/-- The users a call on the clubs reads. -/
def GovernanceOp.users : GovernanceOp → List ClubUser
  | .club (.create env _ _) => env.users
  | .club (.update env _ _ _) => env.users
  | .addMember env _ _ _ => env.users
  | .updateMember env _ _ _ _ => env.users
  | .removeMember env _ _ _ => env.users

section Advisors

variable {cfg : Config} {nfkd : Text → Text} {env : ClubEnv} {current given : Option Uuid}
  {user : ClubUser} {g g' : Governance} {op : GovernanceOp} {club : ClubRow} {id : Uuid}

theorem newAdvisor_some (h : ClubService.newAdvisor env current given = .ok (some user)) :
    user ∈ env.users ∧ given = some user.id ∧ user.role = .facultyAdvisor := by
  unfold ClubService.newAdvisor at h
  split at h
  · cases h
  · rename_i advisorId
    split at h
    · cases h
    · simp only [ClubService.validateFacultyAdvisor, bind_accepts, fetch_accepts, refuse_accepts,
        exists_unit, pure_accepts] at h
      obtain ⟨_, ⟨found, hfound, _, hrole, rfl⟩, he⟩ := h
      obtain rfl : found = user := Option.some.inj he
      have hid := List.find?_some hfound
      rw [decide_eq_true_eq] at hid
      refine ⟨List.mem_of_find?_eq_some hfound, by rw [hid.1], ?_⟩
      rwa [not_not] at hrole

theorem newAdvisor_none (h : ClubService.newAdvisor env current given = .ok none) :
    given = none ∨ given = current := by
  unfold ClubService.newAdvisor at h
  split at h
  · exact .inl rfl
  · rename_i advisorId
    split at h
    · rename_i hsame
      exact .inr hsame
    · simp only [bind_accepts, pure_accepts] at h
      obtain ⟨_, _, he⟩ := h
      cases he

theorem createClub_advisors {s s' : ClubStore} {clubIn : ClubCreate} {actor : User}
    (h : ClubService.createClub cfg nfkd env s clubIn actor = .ok s') (hclub : club ∈ s'.clubs)
    (hid : club.facultyAdvisorId = some id) :
    (∃ old ∈ s.clubs, old.facultyAdvisorId = some id) ∨
      ∃ u ∈ env.users, u.id = id ∧ u.role = .facultyAdvisor := by
  simp only [ClubService.createClub, ClubService.prepareClub, bind_accepts, refuse_accepts,
    exists_unit, pure_accepts] at h
  obtain ⟨⟨row, entries⟩, ⟨_, advisor, hadvisor, hrow⟩, _, rfl⟩ := h
  obtain ⟨rfl, _⟩ := Prod.mk.inj hrow
  rcases List.mem_append.mp hclub with hold | hnew
  · exact .inl ⟨club, hold, hid⟩
  · obtain rfl := List.mem_singleton.mp hnew
    have hgiven : clubIn.facultyAdvisorId = some id := hid
    cases advisor with
    | none =>
        -- the club is new: no advisor is the one it has
        rcases newAdvisor_none hadvisor with he | he <;> rw [hgiven] at he <;> cases he
    | some user =>
        obtain ⟨hmem, he, hrole⟩ := newAdvisor_some hadvisor
        exact .inr ⟨user, hmem, Option.some.inj (he.symm.trans hgiven), hrole⟩

theorem updateClub_advisors {s s' : ClubStore} {clubIn : ClubUpdate} {clubId : Uuid} {actor : User}
    (h : ClubService.updateClub cfg nfkd env s clubId clubIn actor = .ok s') (hclub : club ∈ s'.clubs)
    (hid : club.facultyAdvisorId = some id) :
    (∃ old ∈ s.clubs, old.facultyAdvisorId = some id) ∨
      ∃ u ∈ env.users, u.id = id ∧ u.role = .facultyAdvisor := by
  simp only [ClubService.updateClub, ClubService.prepareUpdate, bind_accepts, refuse_accepts,
    exists_unit, pure_accepts, fetch_accepts] at h
  obtain ⟨⟨row, entries⟩, ⟨_, _, old, hold, advisor, hadvisor, renamed, _, hrow⟩, _, rfl⟩ := h
  obtain ⟨was, hwas, rfl⟩ := List.mem_map.mp hclub
  unfold ClubRow.overwrite at hid
  split at hid
  · rw [← (Prod.mk.inj hrow).1] at hid
    cases advisor with
    | none => exact .inl ⟨old, List.mem_of_find?_eq_some hold, hid⟩
    | some user =>
        obtain ⟨hmem, _, hrole⟩ := newAdvisor_some hadvisor
        exact .inr ⟨user, hmem, Option.some.inj hid, hrole⟩
  · exact .inl ⟨was, hwas, hid⟩

/-- **The advisors after a call** are those there were, and users whose role it is. -/
theorem Governance.Step.advisors (h : Governance.Step cfg nfkd g op g') (hclub : club ∈ g'.store.clubs)
    (hid : club.facultyAdvisorId = some id) :
    (∃ old ∈ g.store.clubs, old.facultyAdvisorId = some id) ∨
      ∃ u ∈ op.users, u.id = id ∧ u.role = .facultyAdvisor := by
  cases op with
  | addMember env c memberIn actor =>
      cases h.roster with
      | added => exact .inl ⟨club, hclub, hid⟩
      | restored => exact .inl ⟨club, hclub, hid⟩
  | updateMember env c target memberIn actor =>
      cases h.roster with
      | updated => exact .inl ⟨club, hclub, hid⟩
  | removeMember env c target actor =>
      cases h.roster with
      | removedAgain => exact .inl ⟨club, hclub, hid⟩
      | removed => exact .inl ⟨club, hclub, hid⟩
  | club op =>
      simp only [Governance.Step, GovernanceOp.exec, bind_accepts, pure_accepts] at h
      obtain ⟨store, h, rfl⟩ := h
      cases op with
      | create env clubIn actor => exact createClub_advisors h hclub hid
      | update env c clubIn actor =>
          have hupdate : ClubService.updateClub cfg nfkd (g.clubEnv env) g.store c clubIn actor =
            .ok store := h
          have hadvisors := updateClub_advisors hupdate hclub hid
          exact hadvisors

end Advisors

section Invariant

variable (cfg : Config)

/-- **The invariant**: accounts are told apart, advisors are advisors, and every step of every proposal is
    an office's. -/
structure Server.Chartered (s : Server) : Prop where
  accounts : s.accounts.Sound cfg
  advised : s.Advised
  keyed : Keyed s.campus.registry
  offices : ∀ d ∈ s.campus.registry.dossiers, ∀ st ∈ d.proposal.steps,
    st.requiredRole ≠ .clubSecretary ∧ s.accounts.Office st.assignedTo

end Invariant

section Charter

variable {cfg : Config} {auth : AuthSettings} {jwtDecode : JwtDecode} {nfkd : Text → Text}
  {files : FileSettings} {start s s' : Server} {ops : List ApiOp} {op : ApiOp} {u : AccountRow}

/-- The accounts after a call of the service: told apart, each with its key and its role. -/
theorem AuthOp.keeps_accounts (auth : AuthSettings) (o : AuthOp) {accounts : AccountStore}
    (hlower : ∀ t, cfg.sqlLower (cfg.lower t) = cfg.lower t) (hs : accounts.Sound cfg) :
    (o.apply cfg auth accounts).Sound cfg ∧ ∀ u ∈ accounts.users,
      ∃ v ∈ (o.apply cfg auth accounts).users, v.id = u.id ∧ v.role = u.role := by
  have hcall : Path (Accounts.Step cfg auth) accounts [o] (o.apply cfg auth accounts) := .single rfl
  refine ⟨(Accounts.sound hlower hs hcall).1, fun u hu => ?_⟩
  obtain ⟨v, hv, hsame⟩ := Accounts.kept hlower hs hcall hu
  exact ⟨v, hv, identity_column hsame (fun u => u.id) fun _ => rfl,
    identity_column hsame (fun u => u.role) fun _ => rfl⟩

/-- The step rows after a visit: as they were, or started by a submission. -/
theorem RegistryStep.duties {w w' : Registry} {v : Visit} (hk : Keyed w)
    (hs : RegistryStep cfg files w v w') {d : Dossier} (hd : d ∈ w'.dossiers)
    {st : WorkflowInstanceStep} (hst : st ∈ d.proposal.steps) :
    (∃ e ∈ w.dossiers, ∃ old ∈ e.proposal.steps, SameDuty old st) ∨
      ∃ (i : Nat) (r : Request) (e : Dossier), v = .request i r ∧
        (r.within w i).Starts e.proposal d.proposal st := by
  obtain ⟨j, hj⟩ := List.getElem?_of_mem hd
  cases hs with
  | drafted v d0 hd0 hfresh =>
      rcases Registry.get_add hj with ⟨_, rfl⟩ | ⟨_, hold⟩
      · rw [hd0.steps] at hst
        cases hst
      · exact .inl ⟨d, List.mem_of_getElem? hold, st, hst, .refl st⟩
  | requested i r d0 d' hd0 hstep hfresh hrows =>
      rcases Registry.get_update hd0 hj with ⟨_, rfl⟩ | ⟨_, hold⟩
      · cases hstep.origin (hk.standing i d0 hd0).1 hst with
        | kept old hm hsame _ => exact .inl ⟨d0, List.mem_of_getElem? hd0, old, hm, hsame⟩
        | started hstart _ => exact .inr ⟨i, r, d0, rfl, hstart⟩
      · exact .inl ⟨d, List.mem_of_getElem? hold, st, hst, .refl st⟩
  | filed v f hf => exact .inl ⟨d, hd, st, hst, .refl st⟩

/-- What a submission starts, on the rows of the server. -/
theorem CampusOp.starts {o : CampusOp} {user : User} {v : Visit} {w : Registry} {i : Nat} {r : Request}
    {p q : Proposal} {st : WorkflowInstanceStep} (hv : o.withUser s.accounts user = .visit v)
    (hr : v.among cfg s.campus = .request i r) (hst : (r.within w i).Starts p q st) :
    ∃ env, o.template = some (ensureDefaultTemplate env) ∧ env.users = s.accounts.activeUsers ∧
      env.clubs = s.campus.governance.store.clubs.map ClubRow.toClub ∧
      ∃ t ∈ ensureDefaultTemplate env, t.requiredRole = st.requiredRole ∧
        resolveAssignee env p.request.clubId user t = st.assignedTo := by
  obtain ⟨env, actor, summary, key, keys, hsubmit, _, hmem⟩ := hst
  cases o with
  | govern op => cases hv
  | createHall now newId hallIn actor => cases hv
  | visit v0 =>
      cases hv
      cases v0 with
      | draft env actor newId eventIn => cases hr
      | upload env actor newId eventId u => cases hr
      | deleteDocument env actor eventId docId => cases hr
      | request i r0 =>
          cases hr
          cases r0 with
          | event c => cases hsubmit
          | review env0 actor0 op0 =>
              cases hsubmit
              obtain ⟨t, ht, rfl⟩ := List.mem_map.mp hmem
              exact ⟨s.campus.reviewEnv cfg i { env0 with users := s.accounts.activeUsers }, rfl, rfl, rfl,
                t, (List.perm_insertionSort _ _).mem_iff.mp ht, rfl, rfl⟩

/-- A call on the clubs reads the users of the server. -/
theorem CampusOp.governs {o : CampusOp} {user : User} {op : GovernanceOp}
    (h : o.withUser s.accounts user = .govern op) : op.users = s.accounts.clubUsers := by
  cases o with
  | visit v => cases h
  | createHall now newId hallIn actor => cases h
  | govern op0 =>
      cases h
      cases op0 with
      | club op => cases op <;> rfl
      | _ => rfl

/-- **The step lemma.** -/
theorem Server.Chartered.step (hlower : ∀ t, cfg.sqlLower (cfg.lower t) = cfg.lower t)
    (h : s.Chartered cfg)
    (hs : restrict (Server.Step cfg auth jwtDecode nfkd files) Server.Manned s op s') :
    s'.Chartered cfg := by
  obtain ⟨hstep, hmanned⟩ := hs
  cases op with
  | auth o =>
      cases hstep
      obtain ⟨hsound, hkept⟩ := AuthOp.keeps_accounts auth o hlower h.accounts
      refine ⟨hsound, ?_, h.keyed, ?_⟩
      · intro club hclub id hid
        obtain ⟨u, hu, rfl, hrole⟩ := h.advised club hclub id hid
        obtain ⟨v, hv, hkey, hsame⟩ := hkept u hu
        exact ⟨v, hv, hkey, hsame.trans hrole⟩
      · intro d hd st hst
        obtain ⟨hoffice, u, hu, hid, hrole⟩ := h.offices d hd st hst
        obtain ⟨v, hv, hkey, hsame⟩ := hkept u hu
        exact ⟨hoffice, v, hv, hkey.trans hid, hsame ▸ hrole⟩
  | call c =>
      obtain ⟨gate, user, campus, hgate, huser, hrole, hcampus, rfl⟩ := Server.request_accepts.mp hstep
      have hdone := hcampus.step
      generalize hop : c.op.withUser s.accounts user.toUser = o at hdone
      cases hdone with
      | built now newId hallIn actor inventory hinv => exact ⟨h.accounts, h.advised, h.keyed, h.offices⟩
      | governed o g hg =>
          refine ⟨h.accounts, ?_, h.keyed, h.offices⟩
          intro club hclub id hid
          rcases hg.advisors hclub hid with ⟨old, hold, hadvisor⟩ | ⟨u, hu, hkey, hadvisor⟩
          · exact h.advised old hold id hadvisor
          · rw [CampusOp.governs hop] at hu
            obtain ⟨row, hrow, rfl⟩ := List.mem_map.mp hu
            exact ⟨row, hrow, hkey, hadvisor⟩
      | visited v w hw =>
          refine ⟨h.accounts, h.advised, hw.step.keyed h.keyed, ?_⟩
          intro d hd st hst
          rcases hw.step.duties h.keyed hd hst with ⟨e, he, old, hold, hsame⟩ | ⟨i, r, e, hv, hstart⟩
          · rw [hsame.role, hsame.assignee]
            exact h.offices e he old hold
          · obtain ⟨env, htemplate, husers, hclubs, t, ht, hsame, hassigned⟩ :=
              CampusOp.starts hop hv hstart
            have hfills := hmanned _ htemplate t ht
            rw [← hsame, ← hassigned]
            exact ⟨hfills.office, resolveAssignee_office _ _ h.advised hfills husers hclubs⟩

/-- An office decides on an event that is there. -/
theorem Dossier.Step.decided {d d' : Dossier} {c : Call} (h : Dossier.Step cfg d (.event c) d')
    (hside : c.op.side = some .decides) : ∃ s s', c.op.exec cfg c.env c.actor s = .ok s' := by
  unfold Dossier.Step Dossier.exec at h
  cases d with
  | proposed p logs =>
      simp only [bind_accepts] at h
      obtain ⟨out, hon, _⟩ := h
      unfold Call.onProposal at hon
      cases hop : c.op with
      | cancelProposal reason =>
          rw [hop] at hside
          cases hside
      | cancelAnyEvent identifier reason =>
          rw [hop] at hside
          cases hside
      | _ =>
          simp only [hop] at hon
          cases hon
  | confirmed s =>
      simp only [bind_accepts] at h
      obtain ⟨s', hs', _⟩ := h
      exact ⟨_, s', hs'⟩

/-- An account among the offices is no club secretary's. -/
theorem AccountStore.Sound.office {accounts : AccountStore} (hs : accounts.Sound cfg)
    (hu : u ∈ accounts.users) (h : accounts.Office u.id) : u.role ≠ .clubSecretary := by
  obtain ⟨v, hv, hid, hrole⟩ := h
  rw [← List.inj_on_of_nodup_map hs.ids hv hu hid]
  exact hrole

/-- An accepted request was accepted by its dossier. -/
theorem Registry.Step.request {w w' : Registry} {i : Nat} {r : Request}
    (h : Registry.Step cfg files w (.request i r) w') :
    ∃ d ∈ w.dossiers, ∃ d', Dossier.Step cfg d (r.within w i) d' := by
  simp only [Registry.Step, Registry.exec, bind_accepts, fetch_accepts] at h
  obtain ⟨d, hd, d', hd', _⟩ := h
  exact ⟨d, List.mem_of_getElem? hd, d', hd'⟩

/-- Who decides a step is no club secretary. -/
theorem Server.Chartered.signs {d : Dossier} {stepId : Uuid} {step : WorkflowInstanceStep}
    {inst : WorkflowInstance} (h : s.Chartered cfg) (hd : d ∈ s.campus.registry.dossiers)
    (hu : u ∈ s.accounts.users) (hdec : StepDecision u.toUser stepId d.proposal step inst) :
    u.role ≠ .clubSecretary := by
  obtain ⟨hoffice, hassigned⟩ := h.offices d hd step (Table.mem_of_find hdec.stepFound)
  have hnamed : step.assignedTo = u.id → u.role ≠ .clubSecretary := by
    intro hid
    rw [hid] at hassigned
    exact h.accounts.office hu hassigned
  have hcan := hdec.canAct
  unfold CanAct at hcan
  split at hcan
  · rcases hcan with hid | hadmin
    · exact hnamed hid
    · rw [show u.role = .systemAdmin from hadmin]
      decide
  · rcases hcan with hid | hsame
    · exact hnamed hid
    · rw [← show step.requiredRole = u.role from hsame]
      exact hoffice

/-- **Who decides is no club secretary.** -/
theorem Server.Chartered.decides_role {o : CampusOp} {gate : Gate} {campus : Campus}
    (h : s.Chartered cfg) (hside : o.side = some .decides) (hu : u ∈ s.accounts.users)
    (hgate : o.gate = some gate) (hrole : gate.Admits u.role)
    (hcampus : Campus.Step cfg nfkd files s.campus (o.withUser s.accounts u.toUser) campus) :
    u.role ≠ .clubSecretary := by
  cases o with
  | govern op => cases hside
  | createHall now newId hallIn actor => cases hside
  | visit v =>
      cases v with
      | draft env actor newId eventIn => cases hside
      | deleteDocument env actor eventId docId => cases hside
      | upload env actor newId eventId f =>
          cases f with
          | settlementPaymentProof file =>
              cases hgate
              rw [List.mem_singleton.mp hrole]
              decide
          | _ => cases hside
      | request i r =>
          cases hcampus.step with
          | visited v w hw =>
              obtain ⟨d, hd, d', hstep⟩ := hw.request
              cases r with
              | review env actor op =>
                  cases op with
                  | approveStep stepId comments newBookingId newEventId =>
                      obtain ⟨step, inst, hdec⟩ := hstep.traced.decides rfl
                      exact h.signs hd hu hdec
                  | rejectStep stepId comments =>
                      obtain ⟨step, inst, hdec⟩ := hstep.traced.decides rfl
                      exact h.signs hd hu hdec
                  | requestRevision stepId comments =>
                      obtain ⟨step, inst, hdec⟩ := hstep.traced.decides rfl
                      exact h.signs hd hu hdec
                  | verifyBudget remarks =>
                      cases hgate
                      have hout : UserRole.clubSecretary ∉ rolePermissions .budgetApprove := by decide
                      intro he
                      rw [he] at hrole
                      exact hout hrole
                  | _ => cases hside
              | event c =>
                  rcases Op.decides_gate hside with ⟨roles, hroles, hout⟩ | hopen
                  · -- the gate keeps him out
                    obtain rfl := Option.some.inj (hgate.symm.trans hroles)
                    intro he
                    rw [he] at hrole
                    exact hout hrole
                  · obtain ⟨t, t', hexec⟩ := hstep.decided hside
                    rcases Op.decides_office hside hopen hexec with hfinance | ⟨club, hclub, hadvisor⟩
                    · rw [show u.role = .financeOfficer from hfinance]
                      decide
                    · obtain ⟨row, hrow, rfl⟩ := List.mem_map.mp hclub
                      obtain ⟨v, hv, hid, hv'⟩ := h.advised row hrow u.id hadvisor
                      exact h.accounts.office hu ⟨v, hv, hid, by rw [hv']; decide⟩

end Charter

/-! ## 4. The law -/

section Law

variable (cfg : Config) (auth : AuthSettings) (jwtDecode : JwtDecode) (nfkd : Text → Text)
  (files : FileSettings)

/-- The run accepted the request, for the account. -/
def Requested (start : Server) (ops : List ApiOp) (c : ApiCall) (u : AccountRow) : Prop :=
  ∃ before after s, ops = before ++ .call c :: after ∧
    Path (Server.Step cfg auth jwtDecode nfkd files) start before s ∧
    getCurrentUser jwtDecode s.accounts c.credentials c.now = .ok u

end Law

section Runs

variable {cfg : Config} {auth : AuthSettings} {jwtDecode : JwtDecode} {nfkd : Text → Text}
  {files : FileSettings} {start s s' : Server} {ops : List ApiOp} {c c' : ApiCall} {u v : AccountRow}

/-- **An account keeps its key and its role**, whatever the server is asked. -/
theorem Server.keeps_account (hlower : ∀ t, cfg.sqlLower (cfg.lower t) = cfg.lower t)
    (hs : s.accounts.Sound cfg) (hu : u ∈ s.accounts.users)
    (hp : Path (Server.Step cfg auth jwtDecode nfkd files) s ops s') :
    ∃ v ∈ s'.accounts.users, v.id = u.id ∧ v.role = u.role := by
  refine (hp.preserves (P := fun t => t.accounts.Sound cfg ∧
    ∃ v ∈ t.accounts.users, v.id = u.id ∧ v.role = u.role) ?_ ⟨hs, u, hu, rfl, rfl⟩).2
  intro t op t' ht hstep
  obtain ⟨hsound, v, hv, hid, hrole⟩ := ht
  cases op with
  | auth o =>
      cases hstep
      obtain ⟨hsound', hkept⟩ := AuthOp.keeps_accounts auth o hlower hsound
      obtain ⟨w, hw, hid', hrole'⟩ := hkept v hv
      exact ⟨hsound', w, hw, hid'.trans hid, hrole'.trans hrole⟩
  | call c =>
      obtain ⟨_, _, _, _, _, _, _, rfl⟩ := Server.request_accepts.mp hstep
      exact ⟨hsound, v, hv, hid, hrole⟩

theorem Server.Opening.chartered (h : Server.Opening cfg s) (hadvised : s.Advised) :
    s.Chartered cfg := by
  have hkeyed : Keyed s.campus.registry := by
    rw [h.campus.registry]
    refine ⟨?_, ?_, ?_⟩
    · intro i d hd
      cases hd
    · intro i j d e hd
      cases hd
    · intro i j s t hs
      cases hs
  refine ⟨h.accounts, hadvised, hkeyed, fun d hd => ?_⟩
  rw [h.campus.registry] at hd
  cases hd

/-- The account of an accepted request, at the end of the run: with the role it had, which is a club
    secretary's where it asked and another's where it decided. -/
theorem Requested.account (hlower : ∀ t, cfg.sqlLower (cfg.lower t) = cfg.lower t)
    (hstart : start.Chartered cfg)
    (hp : Path (restrict (Server.Step cfg auth jwtDecode nfkd files) Server.Manned) start ops s)
    (h : Requested cfg auth jwtDecode nfkd files start ops c u) :
    ∃ v ∈ s.accounts.users, v.id = u.id ∧ (c.op.side = some .asks → v.role = .clubSecretary) ∧
      (c.op.side = some .decides → v.role ≠ .clubSecretary) := by
  obtain ⟨before, after, t, rfl, hbefore, huser⟩ := h
  obtain ⟨t0, hp0, hrest⟩ := hp.split
  -- the run has one state after these calls
  obtain rfl : t0 = t := hp0.of_restrict.functional
    (fun a op b b' hb hb' => Except.ok.inj (hb.symm.trans hb')) hbefore
  have ht := hp0.preserves (P := fun t => t.Chartered cfg) (fun a op b ha hs => ha.step hlower hs) hstart
  cases hrest with
  | cons hcall hafter =>
      have hwhole := (Path.cons hcall hafter).of_restrict
      obtain ⟨gate, user, campus, hgate, huser', hrole, hcampus, rfl⟩ := Server.request_accepts.mp hcall.1
      obtain rfl : user = u := Except.ok.inj (huser'.symm.trans huser)
      obtain ⟨_, _, _, _, _, _, _, hmem, _⟩ := getCurrentUser_accepts huser
      obtain ⟨v, hv, hid, hsame⟩ := Server.keeps_account hlower ht.accounts hmem hwhole
      refine ⟨v, hv, hid, fun hside => ?_, fun hside => ?_⟩
      · rw [hsame]
        exact CampusOp.asks_role hside hgate hrole
      · rw [hsame]
        exact ht.decides_role hside hmem hgate hrole hcampus

/-- **Duties are apart.** In every run of the server that starts with advisors who are advisors and whose
    submissions find every office filled, no account is accepted both with a request of the club's side and
    with one of the offices'. -/
theorem duties_apart (hlower : ∀ t, cfg.sqlLower (cfg.lower t) = cfg.lower t)
    (hopen : Server.Opening cfg start) (hadvised : start.Advised)
    (hp : Path (restrict (Server.Step cfg auth jwtDecode nfkd files) Server.Manned) start ops s)
    (hask : Requested cfg auth jwtDecode nfkd files start ops c u) (hside : c.op.side = some .asks)
    (hdecide : Requested cfg auth jwtDecode nfkd files start ops c' v)
    (hside' : c'.op.side = some .decides) : u.id ≠ v.id := by
  have hstart := hopen.chartered hadvised
  obtain ⟨a, ha, hida, hrole, _⟩ := hask.account hlower hstart hp
  obtain ⟨b, hb, hidb, _, hrole'⟩ := hdecide.account hlower hstart hp
  intro hid
  have hend := hp.preserves (P := fun t => t.Chartered cfg) (fun a op b ha hs => ha.step hlower hs) hstart
  have hsame : a = b :=
    List.inj_on_of_nodup_map hend.accounts.ids ha hb (hida.trans (hid.trans hidb.symm))
  exact hrole' hside' (hsame ▸ hrole hside)

end Runs

namespace Sample

/-- An account of the role, under the key. -/
def appoint (n : Nat) (email : Text) (role : UserRole) : AuthOp :=
  .register (uid n) [] { signUp email with role := role }

/-- The sample campus, with a secretary, an advisor and an administrator. -/
def chancery : Server where
  campus := campus
  accounts := afterCalls (config .sqlite) accountAuth noAccounts
    [appoint 1 ['m'] .clubSecretary, appoint 5 ['a'] .facultyAdvisor, appoint 4 ['b'] .systemAdmin]
  answered := []

/-- A request on the first proposal, with the token of the account. -/
def requestBy (n : Nat) (r : Request) : ApiCall where
  credentials := some (tally 60 ++ '.' :: (uid n).str)
  now := 30000000
  op := .visit (.request 0 r)

/-- The secretary and the advisor log in. -/
def bothLogIn : List ApiOp :=
  [.auth (.login (signIn ['m'] "secret".toList 1 0)), .auth (.login (signIn ['a'] "secret".toList 2 0))]

/-- The secretary drafts, plans and submits a proposal. -/
def untilSubmitted : List ApiOp :=
  bothLogIn ++ .call draftCall ::
    (plan ++ [submit staff secretary 1]).map fun r => .call (requestBy 1 r)

/-- The advisor approves the first step. -/
def approval : ApiCall := requestBy 5 (approve advisor 1 1)

/-- The sample server accepts the request, for an account. -/
theorem requested_of_run (before after : List ApiOp) (c : ApiCall)
    (h : Ends (run (Server.exec (config .sqlite) accountAuth decodeToken id files) before chancery)
      fun t => Ends (getCurrentUser decodeToken t.accounts c.credentials c.now) fun _ => True) :
    ∃ u, Requested (config .sqlite) accountAuth decodeToken id files chancery
      (before ++ .call c :: after) c u := by
  obtain ⟨t, ht, u, hu, _⟩ := h
  exact ⟨u, before, after, t, rfl, path_of_run ht, hu⟩

theorem chancery_opening : Server.Opening (config .sqlite) chancery :=
  ⟨campus_opening, ⟨by decide, by decide, fun _ _ => rfl⟩, rfl, rfl⟩

theorem chancery_advised : chancery.Advised := by
  unfold Server.Advised
  decide

end Sample

/-- The draft is the secretary's, the approval the advisor's. -/
theorem duties_apart_sample : ∃ u v,
    Requested (Sample.config .sqlite) Sample.accountAuth Sample.decodeToken id Sample.files
      Sample.chancery (Sample.untilSubmitted ++ [.call Sample.approval]) Sample.draftCall u ∧
    Requested (Sample.config .sqlite) Sample.accountAuth Sample.decodeToken id Sample.files
      Sample.chancery (Sample.untilSubmitted ++ [.call Sample.approval]) Sample.approval v ∧
    u.id ≠ v.id := by
  have hrun : Ends (run (only Server.Manned ⟨.raised .notFound, "", []⟩
      (Server.exec (Sample.config .sqlite) Sample.accountAuth Sample.decodeToken id Sample.files))
      (Sample.untilSubmitted ++ [.call Sample.approval]) Sample.chancery) fun _ => True := by
    decide +kernel
  obtain ⟨s, hs, _⟩ := hrun
  obtain ⟨u, hu⟩ := Sample.requested_of_run Sample.bothLogIn
    (((Sample.plan ++ [Sample.submit Sample.staff Sample.secretary 1]).map fun r =>
      .call (Sample.requestBy 1 r)) ++ [.call Sample.approval]) Sample.draftCall (by decide +kernel)
  obtain ⟨v, hv⟩ := Sample.requested_of_run Sample.untilSubmitted [] Sample.approval (by decide +kernel)
  exact ⟨u, v, hu, hv, duties_apart (fun _ => rfl) Sample.chancery_opening Sample.chancery_advised
    (path_of_run_only hs) hu rfl hv rfl⟩

end CampusConnect
