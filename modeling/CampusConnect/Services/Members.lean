/-
  File:      CampusConnect/Services/Members.lean
  Subject:   The roster of a club (`club_service.py`): enrolment, change and removal of members.

  * `MemberRow`, `RosterLog`, `Governance`: the rows of `club_members`, the audit rows about them, and
    the clubs they belong to;
  * `addMember`, `updateMember`, `removeMember`: the operations; a removal is soft;
  * `GovernanceOp`, `GovernanceOp.exec`: every call on clubs and their rosters;
  * `RosterStep`, `Governance.Step.roster`: what an accepted call does to the roster.
-/
import CampusConnect.Services.Clubs

namespace CampusConnect

open Guarded

/-! ## 1. Rows -/

def ClubMemberRole.value : ClubMemberRole → String
  | .secretary => "SECRETARY"
  | .treasurer => "TREASURER"
  | .member => "MEMBER"

/-- A row of `club_members`. -/
structure MemberRow extends ClubMember where
  id : Uuid
  joinedAt : Instant
  deriving DecidableEq, Repr

/-- The row of the key is overwritten. -/
def MemberRow.overwrite (member m : MemberRow) : MemberRow := if m.id = member.id then member else m

/-- The audit actions about a member. -/
inductive RosterAction where
  | memberAdded
  | memberRemoved
  | clubUpdated
  deriving DecidableEq, Repr

/-- A row of `audit_logs` whose `entity_type` is `"club_member"`. -/
abbrev RosterLog := ServiceLog RosterAction

/-- The clubs, their rosters, and the audit rows about members. -/
structure Governance where
  store : ClubStore
  members : List MemberRow
  rosterLogs : List RosterLog
  deriving DecidableEq, Repr

namespace Governance

/-- What a call reads beside the clubs: its members are those of the roster. -/
def clubEnv (g : Governance) (env : ClubEnv) : ClubEnv :=
  { env with members := g.members.map MemberRow.toClubMember }

/-- What the shared guards read. -/
def env (g : Governance) (env : ClubEnv) : Env := (g.clubEnv env).toEnv g.store

/-- `select(ClubMember).where(club_id == …, user_id == …)`. -/
def member (g : Governance) (clubId userId : Uuid) : Option MemberRow :=
  g.members.find? fun m => m.clubId = clubId ∧ m.userId = userId

/-- The rows after a write of one of them, with its audit row. -/
def amend (g : Governance) (member : MemberRow) (log : RosterLog) : Governance :=
  { g with members := g.members.map member.overwrite, rosterLogs := g.rosterLogs ++ [log] }

/-- The rows with one more, and its audit row. -/
def enrol (g : Governance) (member : MemberRow) (log : RosterLog) : Governance :=
  { g with members := g.members ++ [member], rosterLogs := g.rosterLogs ++ [log] }

end Governance

/-- `ClubMemberAdd`. -/
structure ClubMemberAdd where
  userId : Uuid
  memberRole : ClubMemberRole := .member
  deriving DecidableEq, Repr

/-- `ClubMemberUpdate`. -/
structure ClubMemberUpdate where
  memberRole : Option ClubMemberRole := none
  isActive : Option Bool := none
  deriving DecidableEq, Repr

/-! ## 2. Operations -/

namespace ClubService

/-- The audit row of a call about a member. -/
def rosterLog (env : ClubEnv) (actor : User) (action : RosterAction) (memberId : Uuid)
    (previousState newState : Option StateDict) (reason : Option Text := none) : RosterLog where
  actorId := actor.id
  actorEmail := actor.email
  actorRole := actor.role
  action := action
  entityId := memberId.str
  previousState := previousState
  newState := newState
  reason := reason
  createdAt := env.now

/-- `new_state` of an enrolment. -/
def enrolledState (clubId : Uuid) (target : ClubUser) (memberRole : ClubMemberRole) : StateDict :=
  [("club_id", .uuid clubId), ("user_id", .uuid target.id), ("user_email", .text target.email),
    ("member_role", .name memberRole.value), ("is_active", .flag true)]

/-- `prev_state` and `new_state` of an update. -/
def standingState (member : MemberRow) : StateDict :=
  [("member_role", .name member.memberRole.value), ("is_active", .flag member.isActive)]

/-- The row of an enrolment. -/
def newMember (env : ClubEnv) (clubId : Uuid) (memberIn : ClubMemberAdd) : MemberRow where
  id := env.newId
  clubId := clubId
  userId := memberIn.userId
  memberRole := memberIn.memberRole
  isActive := true
  joinedAt := env.now

/-- The row of an enrolment of somebody who was a member before. -/
def restoredMember (memberIn : ClubMemberAdd) (existing : MemberRow) : MemberRow :=
  { existing with isActive := true, memberRole := memberIn.memberRole }

/-- `add_member`. A row that was deactivated is made active again, under the role given. -/
def addMember (env : ClubEnv) (g : Governance) (clubId : Uuid) (memberIn : ClubMemberAdd)
    (actor : User) : Result Governance := do
  let _ ← verifyClubOwnership (g.env env) clubId actor "add members"
  let target ← fetch ((env.users.find? fun u => u.id = memberIn.userId).filter fun u =>
      u.deletedAt = none)
    ⟨.notFound, "User with ID '%s' not found.", [.uuid memberIn.userId]⟩
  refuse (target.isActive = false)
    ⟨.badRequest, "Target user account is inactive and cannot be enrolled.", []⟩
  match g.member clubId memberIn.userId with
  | some existing => do
      refuse (existing.isActive = true)
        ⟨.conflict, "User '%s' is already an active member of this club.", [.text target.email]⟩
      return g.amend (restoredMember memberIn existing)
        (rosterLog env actor .memberAdded existing.id none
          (some (enrolledState clubId target memberIn.memberRole)))
  | none => do
      let member := newMember env clubId memberIn
      refuse (∃ m ∈ g.members, m.id = member.id ∨ (m.clubId = clubId ∧ m.userId = memberIn.userId))
        ⟨.conflict, "Membership record conflict for this club and user.", []⟩
      return g.enrol member (rosterLog env actor .memberAdded member.id none
        (some (enrolledState clubId target memberIn.memberRole)))

/-- The row after a removal. -/
def removedMember (member : MemberRow) : MemberRow := { member with isActive := false }

/-- The row after an update: a field that is not given stays. -/
def editMember (memberIn : ClubMemberUpdate) (member : MemberRow) : MemberRow :=
  { member with
    memberRole := memberIn.memberRole.getD member.memberRole
    isActive := memberIn.isActive.getD member.isActive }

/-- `update_member`. -/
def updateMember (env : ClubEnv) (g : Governance) (clubId targetUserId : Uuid)
    (memberIn : ClubMemberUpdate) (actor : User) : Result Governance := do
  let _ ← verifyClubOwnership (g.env env) clubId actor "modify member roles"
  let member ← fetch (g.member clubId targetUserId)
    ⟨.notFound, "Club member record was not found.", []⟩
  let updated := editMember memberIn member
  let action : RosterAction :=
    if memberIn.isActive = some false ∧ member.isActive = true then .memberRemoved else .clubUpdated
  return g.amend updated (rosterLog env actor action member.id (some (standingState member))
    (some (standingState updated)))

/-- `remove_member`: the row stays, inactive; one that is inactive already stays as it is. -/
def removeMember (env : ClubEnv) (g : Governance) (clubId targetUserId : Uuid) (actor : User) :
    Result Governance := do
  let _ ← verifyClubOwnership (g.env env) clubId actor "remove members"
  let member ← fetch (g.member clubId targetUserId)
    ⟨.notFound, "Club member record was not found.", []⟩
  if member.isActive = false then return g
  else do
    let log := rosterLog env actor .memberRemoved member.id (some [("is_active", .flag true)])
      (some [("is_active", .flag false)]) (some "Member removed by club governance".toList)
    return g.amend (removedMember member) log

end ClubService

/-! ## 3. Calls -/

/-- A call on the clubs or their rosters. -/
inductive GovernanceOp where
  | club (op : ClubOp)
  | addMember (env : ClubEnv) (clubId : Uuid) (memberIn : ClubMemberAdd) (actor : User)
  | updateMember (env : ClubEnv) (clubId targetUserId : Uuid) (memberIn : ClubMemberUpdate)
      (actor : User)
  | removeMember (env : ClubEnv) (clubId targetUserId : Uuid) (actor : User)
  deriving DecidableEq, Repr

/-- A call on the clubs reads the members of the roster. -/
def ClubOp.within (g : Governance) : ClubOp → ClubOp
  | .create env clubIn actor => .create (g.clubEnv env) clubIn actor
  | .update env clubId clubIn actor => .update (g.clubEnv env) clubId clubIn actor

def GovernanceOp.exec (cfg : Config) (nfkd : Text → Text) (op : GovernanceOp) (g : Governance) :
    Result Governance :=
  match op with
  | .club op => do
      let store ← (op.within g).exec cfg nfkd g.store
      return { g with store := store }
  | .addMember env clubId memberIn actor => ClubService.addMember env g clubId memberIn actor
  | .updateMember env clubId userId memberIn actor =>
      ClubService.updateMember env g clubId userId memberIn actor
  | .removeMember env clubId userId actor => ClubService.removeMember env g clubId userId actor

/-- An accepted call. -/
def Governance.Step (cfg : Config) (nfkd : Text → Text) (g : Governance) (op : GovernanceOp)
    (g' : Governance) : Prop :=
  op.exec cfg nfkd g = .ok g'

/-- The club a call is about; a new one has the key the call draws. -/
def ClubOp.clubId : ClubOp → Uuid
  | .create env _ _ => env.newId
  | .update _ clubId _ _ => clubId

def ClubOp.actor : ClubOp → User
  | .create _ _ actor => actor
  | .update _ _ _ actor => actor

def GovernanceOp.clubId : GovernanceOp → Uuid
  | .club op => op.clubId
  | .addMember _ clubId _ _ => clubId
  | .updateMember _ clubId _ _ _ => clubId
  | .removeMember _ clubId _ _ => clubId

def GovernanceOp.actor : GovernanceOp → User
  | .club op => op.actor
  | .addMember _ _ _ actor => actor
  | .updateMember _ _ _ _ actor => actor
  | .removeMember _ _ _ actor => actor

/-! ## 4. What an accepted call does to the roster -/

/-- The user is an active secretary of the club. -/
def Governance.Governs (g : Governance) (clubId userId : Uuid) : Prop :=
  ∃ m ∈ g.members, m.clubId = clubId ∧ m.userId = userId ∧ m.memberRole = .secretary ∧
    m.isActive = true

instance (g : Governance) (clubId userId : Uuid) : Decidable (g.Governs clubId userId) :=
  inferInstanceAs (Decidable (∃ m ∈ g.members, _))

/-- The authority `verify_club_ownership` asks for: an administrator's, or that of a secretary. -/
def Governance.Owns (g : Governance) (clubId : Uuid) (actor : User) : Prop :=
  actor.role = .systemAdmin ∨ (actor.role = .clubSecretary ∧ g.Governs clubId actor.id)

instance (g : Governance) (clubId : Uuid) (actor : User) : Decidable (g.Owns clubId actor) :=
  inferInstanceAs (Decidable (_ ∨ _))

/-- **One call on the roster.** -/
inductive RosterStep (g : Governance) : GovernanceOp → Governance → Prop where
  | clubs (op : ClubOp) (store : ClubStore) : RosterStep g (.club op) { g with store := store }
  | added (env : ClubEnv) (clubId : Uuid) (memberIn : ClubMemberAdd) (actor : User)
      (target : ClubUser) (howner : g.Owns clubId actor) (htarget : target.id = memberIn.userId)
      (hfresh : ∀ m ∈ g.members, m.id ≠ env.newId ∧
        ¬ (m.clubId = clubId ∧ m.userId = memberIn.userId)) :
      RosterStep g (.addMember env clubId memberIn actor)
        (g.enrol (ClubService.newMember env clubId memberIn)
          (ClubService.rosterLog env actor .memberAdded env.newId none
            (some (ClubService.enrolledState clubId target memberIn.memberRole))))
  | restored (env : ClubEnv) (clubId : Uuid) (memberIn : ClubMemberAdd) (actor : User)
      (target : ClubUser) (existing : MemberRow) (howner : g.Owns clubId actor)
      (htarget : target.id = memberIn.userId)
      (hm : g.member clubId memberIn.userId = some existing) (hout : existing.isActive = false) :
      RosterStep g (.addMember env clubId memberIn actor)
        (g.amend (ClubService.restoredMember memberIn existing)
          (ClubService.rosterLog env actor .memberAdded existing.id none
            (some (ClubService.enrolledState clubId target memberIn.memberRole))))
  | updated (env : ClubEnv) (clubId userId : Uuid) (memberIn : ClubMemberUpdate) (actor : User)
      (member : MemberRow) (action : RosterAction) (howner : g.Owns clubId actor)
      (hm : g.member clubId userId = some member) :
      RosterStep g (.updateMember env clubId userId memberIn actor)
        (g.amend (ClubService.editMember memberIn member)
          (ClubService.rosterLog env actor action member.id
            (some (ClubService.standingState member))
            (some (ClubService.standingState (ClubService.editMember memberIn member)))))
  | removedAgain (env : ClubEnv) (clubId userId : Uuid) (actor : User)
      (howner : g.Owns clubId actor) : RosterStep g (.removeMember env clubId userId actor) g
  | removed (env : ClubEnv) (clubId userId : Uuid) (actor : User) (member : MemberRow)
      (reason : Option Text) (howner : g.Owns clubId actor)
      (hm : g.member clubId userId = some member) (hin : member.isActive = true) :
      RosterStep g (.removeMember env clubId userId actor)
        (g.amend (ClubService.removedMember member)
          (ClubService.rosterLog env actor .memberRemoved member.id
            (some [("is_active", .flag true)]) (some [("is_active", .flag false)]) reason))

section Calls

variable {cfg : Config} {nfkd : Text → Text} {g g' : Governance} {env : ClubEnv} {clubId : Uuid}
  {actor : User} {text : String} {club : Club}

/-- Guards that read the members of the roster. -/
theorem Governance.isSecretary_iff {env : Env} {userId : Uuid}
    (hmembers : env.members = g.members.map MemberRow.toClubMember) :
    env.IsSecretary clubId userId ↔ g.Governs clubId userId := by
  unfold Env.IsSecretary Governance.Governs
  rw [hmembers]
  constructor
  · rintro ⟨m, hm, hmember⟩
    obtain ⟨row, hrow, rfl⟩ := List.mem_map.mp hm
    exact ⟨row, hrow, hmember⟩
  · rintro ⟨row, hrow, hmember⟩
    exact ⟨row.toClubMember, List.mem_map.mpr ⟨row, hrow, rfl⟩, hmember⟩

/-- **What the ownership guard lets pass**, over the members of the roster. -/
theorem verifyClubOwnership_owns {env : Env}
    (hmembers : env.members = g.members.map MemberRow.toClubMember)
    (h : verifyClubOwnership env clubId actor text = .ok club) : g.Owns clubId actor := by
  simp only [verifyClubOwnership, bind_accepts] at h
  obtain ⟨_, _, h⟩ := h
  by_cases hadmin : actor.role = .systemAdmin
  · exact .inl hadmin
  · rw [if_neg hadmin] at h
    by_cases hsecretary : actor.role = .clubSecretary
    · simp only [if_pos hsecretary, bind_accepts, refuse_accepts, exists_unit, not_not] at h
      exact .inr ⟨hsecretary, (Governance.isSecretary_iff hmembers).mp h.1⟩
    · rw [if_neg hsecretary] at h
      cases h

theorem addMember_step {memberIn : ClubMemberAdd}
    (h : ClubService.addMember env g clubId memberIn actor = .ok g') :
    RosterStep g (.addMember env clubId memberIn actor) g' := by
  simp only [ClubService.addMember, bind_accepts, refuse_accepts, exists_unit, fetch_accepts] at h
  obtain ⟨_, howner, target, hfound, _, h⟩ := h
  have htarget : target.id = memberIn.userId := by
    have hid := List.find?_some (Option.eq_some_of_filter_eq_some hfound)
    exact of_decide_eq_true hid
  split at h
  · rename_i existing hm
    simp only [bind_accepts, refuse_accepts, exists_unit, pure_accepts, Bool.not_eq_true] at h
    obtain ⟨hout, rfl⟩ := h
    exact .restored env clubId memberIn actor target existing (verifyClubOwnership_owns rfl howner)
      htarget hm hout
  · simp only [bind_accepts, refuse_accepts, exists_unit, pure_accepts] at h
    obtain ⟨hfresh, rfl⟩ := h
    refine .added env clubId memberIn actor target (verifyClubOwnership_owns rfl howner) htarget
      fun m hm => ?_
    exact ⟨fun hid => hfresh ⟨m, hm, .inl hid⟩, fun hsame => hfresh ⟨m, hm, .inr hsame⟩⟩

theorem updateMember_step {userId : Uuid} {memberIn : ClubMemberUpdate}
    (h : ClubService.updateMember env g clubId userId memberIn actor = .ok g') :
    RosterStep g (.updateMember env clubId userId memberIn actor) g' := by
  simp only [ClubService.updateMember, bind_accepts, fetch_accepts, pure_accepts] at h
  obtain ⟨_, howner, member, hm, rfl⟩ := h
  exact .updated env clubId userId memberIn actor member _ (verifyClubOwnership_owns rfl howner) hm

theorem removeMember_step {userId : Uuid}
    (h : ClubService.removeMember env g clubId userId actor = .ok g') :
    RosterStep g (.removeMember env clubId userId actor) g' := by
  simp only [ClubService.removeMember, bind_accepts, fetch_accepts] at h
  obtain ⟨_, howner, member, hm, h⟩ := h
  by_cases hout : member.isActive = false
  · rw [if_pos hout] at h
    cases h
    exact .removedAgain env clubId userId actor (verifyClubOwnership_owns rfl howner)
  · rw [if_neg hout] at h
    cases h
    rw [Bool.not_eq_false] at hout
    exact .removed env clubId userId actor member _ (verifyClubOwnership_owns rfl howner) hm hout

/-- **Every accepted call is one of these.** -/
theorem Governance.Step.roster {op : GovernanceOp} (h : Governance.Step cfg nfkd g op g') :
    RosterStep g op g' := by
  unfold Governance.Step GovernanceOp.exec at h
  cases op with
  | club op =>
      simp only [bind_accepts, pure_accepts] at h
      obtain ⟨store, _, rfl⟩ := h
      exact .clubs op store
  | addMember env clubId memberIn actor => exact addMember_step h
  | updateMember env clubId userId memberIn actor => exact updateMember_step h
  | removeMember env clubId userId actor => exact removeMember_step h

end Calls

end CampusConnect
