/-
  File:      CampusConnect/Api.lean
  Subject:   The endpoints (`api/v1/endpoints`, `permissions.py`, `deps.py`): which role each one asks for,
             and a request that carries a token to the service behind it.

  * `Permission`, `rolePermissions`, `Gate`: what an endpoint depends on;
  * `ReviewOp.gate`, `Op.gate`, `Upload.gate`, `GovernanceOp.gate`, `CampusOp.gate`: of which endpoint;
  * `CampusOp.withUser`: the service gets the user of the token, and the users there are;
  * `Server`, `ApiOp`, `Server.Step`: the campus and the accounts, a call of either, and what an accepted
    one leaves.
-/
import CampusConnect.Guarantees.Access
import CampusConnect.Guarantees.Secretaries

namespace CampusConnect

open Guarded

/-! ## 1. Gates -/

/-- The permissions that guard an endpoint which writes. -/
inductive Permission where
  | clubCreate
  | clubUpdate
  | clubManageMembers
  | eventPropose
  | eventEditDraft
  | eventCancel
  | hallCreate
  | budgetApprove
  deriving DecidableEq, Repr

/-- `ROLE_PERMISSIONS`. -/
def rolePermissions : Permission → List UserRole
  | .clubCreate => [.systemAdmin]
  | .clubUpdate => [.clubSecretary, .systemAdmin]
  | .clubManageMembers => [.clubSecretary, .systemAdmin]
  | .eventPropose => [.clubSecretary]
  | .eventEditDraft => [.clubSecretary]
  | .eventCancel => [.clubSecretary, .principal, .deanStudentAffairs, .systemAdmin]
  | .hallCreate => [.systemAdmin]
  | .budgetApprove => [.financeOfficer, .principal]

/-- What an endpoint depends on: `get_current_user` alone, `require_permission`, or `require_role` and
    `require_any_role`. -/
inductive Gate where
  | currentUser
  | requirePermission (permission : Permission)
  | requireAnyRole (roles : List UserRole)
  deriving DecidableEq, Repr

/-- The dependency, of the user of the token. -/
def Gate.check (gate : Gate) (currentUser : AccountRow) : AuthResult AccountRow :=
  match gate with
  | .currentUser => .ok currentUser
  | .requirePermission permission => CampusConnect.requireAnyRole (rolePermissions permission) currentUser
  | .requireAnyRole roles => CampusConnect.requireAnyRole roles currentUser

/-- The roles a gate opens for. -/
def Gate.Admits (gate : Gate) (role : UserRole) : Prop :=
  match gate with
  | .currentUser => True
  | .requirePermission permission => role ∈ rolePermissions permission
  | .requireAnyRole roles => role ∈ roles

def ReviewOp.gate : ReviewOp → Gate
  | .updateDraft _ => .requirePermission .eventEditDraft
  | .submitProposal _ _ _ => .requirePermission .eventPropose
  | .approveStep _ _ _ _ => .currentUser
  | .rejectStep _ _ => .currentUser
  | .requestRevision _ _ => .currentUser
  | .createVenueRequest _ _ => .requirePermission .eventPropose
  | .updateVenueRequest _ => .requirePermission .eventEditDraft
  | .deleteVenueRequest => .requirePermission .eventEditDraft
  | .createBudgetProposal _ _ _ => .requirePermission .eventPropose
  | .updateBudgetProposal _ => .requirePermission .eventEditDraft
  | .deleteBudgetProposal => .requirePermission .eventEditDraft
  | .addLineItem _ _ => .requirePermission .eventEditDraft
  | .updateLineItem _ _ => .requirePermission .eventEditDraft
  | .deleteLineItem _ => .requirePermission .eventEditDraft
  | .verifyBudget _ => .requirePermission .budgetApprove

/-- `none` where no endpoint calls the operation: the cancellation goes through `cancel_any_event`, and the
    eligibility for closeout is part of a read. -/
def Op.gate : Op → Option Gate
  | .requestAdvance _ _ _ => some (.requireAnyRole [.clubSecretary])
  | .approveAdvance _ _ _ => some (.requireAnyRole [.financeOfficer])
  | .rejectAdvance _ _ => some (.requireAnyRole [.financeOfficer])
  | .disburseAdvance _ _ _ _ _ => some (.requireAnyRole [.financeOfficer])
  | .recordIncome _ _ _ _ _ _ _ _ => some (.requireAnyRole [.clubSecretary])
  | .verifyIncome _ _ => some (.requireAnyRole [.financeOfficer])
  | .rejectIncome _ _ _ => some (.requireAnyRole [.financeOfficer])
  | .createDraftExpense _ _ => some .currentUser
  | .updateExpense _ _ => some .currentUser
  | .deleteDraftExpense _ => some .currentUser
  | .submitExpenses _ => some .currentUser
  | .verifyExpense _ _ => some .currentUser
  | .partialVerifyExpense _ _ _ => some .currentUser
  | .queryExpense _ _ => some .currentUser
  | .disallowExpense _ _ => some .currentUser
  | .prepareSettlement _ => some (.requireAnyRole [.clubSecretary])
  | .submitSettlement _ => some (.requireAnyRole [.clubSecretary])
  | .auditSettlement _ _ _ _ => some (.requireAnyRole [.financeOfficer])
  | .recordPayment _ _ _ => some (.requireAnyRole [.financeOfficer])
  | .reopenSettlement _ _ _ => some (.requireAnyRole [.financeOfficer, .principal])
  | .settlementEligibility => some .currentUser
  | .startEvent => some .currentUser
  | .adminStartEvent _ => some (.requireAnyRole [.systemAdmin])
  | .completeAndSubmitReport _ _ => some .currentUser
  | .updateReport _ => some .currentUser
  | .resubmitReport => some .currentUser
  | .certifyReport _ => some .currentUser
  | .requestRevision _ => some .currentUser
  | .cancelProposal _ => none
  | .cancelConfirmedEvent _ => none
  | .cancelAnyEvent _ _ => some (.requirePermission .eventCancel)
  | .closeoutEligibility => none
  | .requestCloseout _ => some (.requireAnyRole [.clubSecretary])
  | .certifyCloseout _ _ _ =>
      some (.requireAnyRole [.deanStudentAffairs, .principal, .facultyAdvisor])
  | .rejectCloseout _ => some (.requireAnyRole [.deanStudentAffairs, .principal, .facultyAdvisor])
  | .requestReopen _ => some (.requireAnyRole [.clubSecretary, .facultyAdvisor, .financeOfficer])
  | .approveReopen _ _ _ => some (.requireAnyRole [.deanStudentAffairs, .principal])
  | .archiveEvent => some (.requireAnyRole [.systemAdmin])

def Upload.gate : Upload → Gate
  | .document _ _ => .currentUser
  | .postEventEvidence _ _ _ => .currentUser
  | .expenseInvoice _ => .currentUser
  | .incomeEvidence _ => .requireAnyRole [.clubSecretary]
  | .settlementPaymentProof _ => .requireAnyRole [.financeOfficer]

def GovernanceOp.gate : GovernanceOp → Gate
  | .club (.create _ _ _) => .requirePermission .clubCreate
  | .club (.update _ _ _ _) => .requirePermission .clubUpdate
  | .addMember _ _ _ _ => .requirePermission .clubManageMembers
  | .updateMember _ _ _ _ _ => .requirePermission .clubManageMembers
  | .removeMember _ _ _ _ => .requirePermission .clubManageMembers

/-- The endpoint of a call. -/
def CampusOp.gate : CampusOp → Option Gate
  | .visit (.draft _ _ _ _) => some (.requirePermission .eventPropose)
  | .visit (.request _ (.review _ _ op)) => some op.gate
  | .visit (.request _ (.event c)) => c.op.gate
  | .visit (.upload _ _ _ _ u) => some u.gate
  | .visit (.deleteDocument _ _ _ _) => some .currentUser
  | .govern op => some op.gate
  | .createHall _ _ _ _ => some (.requirePermission .hallCreate)

/-! ## 2. The user of a request -/

/-- The user a service sees. -/
def AccountRow.toUser (u : AccountRow) : User := ⟨u.id, u.email, u.role⟩

/-- `select(User).where(User.is_active.is_(True), User.deleted_at.is_(None))`. -/
def AccountStore.activeUsers (s : AccountStore) : List User :=
  (s.users.filter fun u => u.isActive ∧ u.deletedAt = none).map AccountRow.toUser

/-- The users a call on the clubs reads. -/
def AccountStore.clubUsers (s : AccountStore) : List ClubUser :=
  s.users.map fun u => ⟨u.toUser, u.isActive, u.deletedAt⟩

def Request.withUser (s : AccountStore) (user : User) : Request → Request
  | .review env _ op => .review { env with users := s.activeUsers } user op
  | .event c => .event { c with actor := user }

def Visit.withUser (s : AccountStore) (user : User) : Visit → Visit
  | .draft env _ newId eventIn => .draft env user newId eventIn
  | .request i r => .request i (r.withUser s user)
  | .upload env _ newId eventId u => .upload env user newId eventId u
  | .deleteDocument env _ eventId docId => .deleteDocument env user eventId docId

def GovernanceOp.withUser (s : AccountStore) (user : User) : GovernanceOp → GovernanceOp
  | .club (.create env clubIn _) => .club (.create { env with users := s.clubUsers } clubIn user)
  | .club (.update env clubId clubIn _) =>
      .club (.update { env with users := s.clubUsers } clubId clubIn user)
  | .addMember env clubId memberIn _ =>
      .addMember { env with users := s.clubUsers } clubId memberIn user
  | .updateMember env clubId userId memberIn _ =>
      .updateMember { env with users := s.clubUsers } clubId userId memberIn user
  | .removeMember env clubId userId _ =>
      .removeMember { env with users := s.clubUsers } clubId userId user

/-- The call as the endpoint makes it: with `current_user`, and on the users of the database. -/
def CampusOp.withUser (s : AccountStore) (user : User) : CampusOp → CampusOp
  | .visit v => .visit (v.withUser s user)
  | .govern op => .govern (op.withUser s user)
  | .createHall now newId hallIn _ => .createHall now newId hallIn user

/-! ## 3. The server -/

/-- The database, and the sessions the service has answered with, with the second each one's access token
    expires at. -/
structure Server where
  campus : Campus
  accounts : AccountStore
  answered : List (Session × Instant)

/-- A request: its `Authorization` header, the clock, and what it asks for. -/
structure ApiCall where
  credentials : Option Text
  now : Moment
  op : CampusOp

/-- A call of the authentication service, or a request to any other endpoint. -/
inductive ApiOp where
  | auth (op : AuthOp)
  | call (c : ApiCall)

namespace Server

variable (cfg : Config) (auth : AuthSettings) (jwtDecode : JwtDecode) (nfkd : Text → Text)
  (files : FileSettings)

/-- A request: the token, the gate of the endpoint, and the service. -/
def request (c : ApiCall) (s : Server) : AuthResult Server := do
  let gate ← fetch c.op.gate ⟨.raised .notFound, "Not Found", []⟩
  let currentUser ← getCurrentUser jwtDecode s.accounts c.credentials c.now
  let currentUser ← gate.check currentUser
  let campus ← (Campus.exec cfg nfkd files (c.op.withUser s.accounts currentUser.toUser)
    s.campus).mapError Failure.ofService
  return { s with campus := campus }

/-- A call of the authentication service always leaves its rows; a refused request is rolled back. -/
def exec (op : ApiOp) (s : Server) : AuthResult Server :=
  match op with
  | .auth op => .ok
      { s with
        accounts := op.apply cfg auth s.accounts
        answered := s.answered ++
          (op.session cfg auth s.accounts).toList.map fun session => (session, op.expiry auth) }
  | .call c => request cfg jwtDecode nfkd files c s

/-- An accepted call. -/
def Step (s : Server) (op : ApiOp) (s' : Server) : Prop :=
  exec cfg auth jwtDecode nfkd files op s = .ok s'

/-- Nobody but the service has its key: a token that decodes is one it answered with. -/
def Unforged (s : Server) : ApiOp → Prop
  | .auth _ => True
  | .call c => ∀ token ∈ c.credentials,
      (∃ payload, jwtDecode token (Moment.instant c.now) = .payload payload) →
        ∃ a ∈ s.answered, a.1.accessToken = token

/-- **The states a run starts from**: the campus, accounts that are told apart, and no session. -/
structure Opening (s : Server) : Prop where
  campus : Campus.Opening s.campus
  accounts : s.accounts.Sound cfg
  tokens : s.accounts.tokens.tokens = []
  answered : s.answered = []

end Server

end CampusConnect
