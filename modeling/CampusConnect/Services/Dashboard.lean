/-
  File:      CampusConnect/Services/Dashboard.lean
  Subject:   The dashboard (`dashboard_service.py`): what each role sees of the campus, as queries over
             the tables.

  * `CampusTables`: the rows the queries read, beside those of the pending queue;
  * `adminMetrics`, `secretaryMetrics`, `reviewerMetrics`: the three views;
  * `getDashboard`: which of them a user gets.
-/
import CampusConnect.Services.Clubs
import CampusConnect.Services.Queue

namespace CampusConnect

/-! ## 1. The rows -/

/-- What `get_dashboard` reads. `requestedAt` is the column `created_at` of a proposal. -/
structure CampusTables extends ReviewTables where
  users : List ClubUser
  members : List ClubMember
  auditLogs : List AuditLog
  requestedAt : Uuid → Instant

namespace DashboardService

/-! ## 2. What is shown -/

/-- An element of `recent_workflow_activity`. -/
structure Activity where
  action : AuditAction
  entityType : String
  entityId : Text
  createdAt : Instant
  deriving DecidableEq, Repr

/-- An element of the administrator's `recent_activity`. -/
structure CampusActivity extends Activity where
  actorEmail : Text
  deriving DecidableEq, Repr

/-- An element of `recent_events`. -/
structure RecentEvent where
  id : Uuid
  title : Text
  status : EventRequestStatus
  clubId : Uuid
  clubName : Option Text
  createdAt : Instant
  deriving DecidableEq, Repr

/-- The three figures of `system_counts` stand beside the others. -/
structure AdminDashboardMetrics where
  totalUsers : Nat
  totalClubs : Nat
  totalEvents : Nat
  pendingProposals : Nat
  activeUsers : Nat
  recentActivity : List CampusActivity
  deriving DecidableEq, Repr

structure SecretaryDashboardMetrics where
  draftCount : Nat
  submittedCount : Nat
  inReviewCount : Nat
  revisionRequiredCount : Nat
  approvedCount : Nat
  rejectedCount : Nat
  recentEvents : List RecentEvent
  deriving DecidableEq, Repr

structure ReviewerDashboardMetrics where
  pendingActions : Nat
  completedApprovals : Nat
  recentWorkflowActivity : List Activity
  deriving DecidableEq, Repr

structure DashboardResponse where
  role : UserRole
  userId : Uuid
  secretary : Option SecretaryDashboardMetrics := none
  reviewer : Option ReviewerDashboardMetrics := none
  admin : Option AdminDashboardMetrics := none
  deriving DecidableEq, Repr

/-- The ten latest of some rows. The database may order rows of one instant in any way. -/
def latest {α : Type} (createdAt : α → Instant) (rows : List α) : List α :=
  (rows.insertionSort fun a b => createdAt b ≤ createdAt a).take 10

def activity (log : AuditLog) : Activity where
  action := log.action
  entityType := log.entityType
  entityId := log.entityId
  createdAt := log.createdAt

variable (t : CampusTables)

/-! ## 3. The administrator -/

/-- The statuses `pending_proposals` counts. -/
def pendingStatuses : List EventRequestStatus := [.submitted, .inReview]

def adminMetrics : AdminDashboardMetrics where
  totalUsers := t.users.countP fun u => u.deletedAt = none
  totalClubs := t.clubs.countP fun c => c.deletedAt = none
  totalEvents := t.proposals.countP fun p => p.request.deletedAt = none
  pendingProposals := t.proposals.countP fun p =>
    p.request.status ∈ pendingStatuses ∧ p.request.deletedAt = none
  activeUsers := t.users.countP fun u => u.isActive = true ∧ u.deletedAt = none
  recentActivity := (latest AuditLog.createdAt t.auditLogs).map fun log =>
    { activity log with actorEmail := log.actorEmail }

/-! ## 4. A secretary -/

/-- `secretary_club_ids`. -/
def secretaryClubIds (actor : User) : List Uuid :=
  (t.members.filter fun m => m.userId = actor.id ∧ m.memberRole = .secretary ∧
    m.isActive = true).map ClubMember.clubId

/-- `filter_clause`: the proposals of his clubs, or his own if he has no club. -/
def Mine (actor : User) (r : EventRequest) : Prop :=
  if secretaryClubIds t actor ≠ [] then r.clubId ∈ secretaryClubIds t actor
  else r.submittedBy = actor.id

instance (actor : User) (r : EventRequest) : Decidable (Mine t actor r) :=
  inferInstanceAs (Decidable (if secretaryClubIds t actor ≠ [] then r.clubId ∈ secretaryClubIds t actor
    else r.submittedBy = actor.id))

/-- `count_status`. -/
def countStatus (actor : User) (status : EventRequestStatus) : Nat :=
  t.proposals.countP fun p => Mine t actor p.request ∧ p.request.status = status ∧
    p.request.deletedAt = none

def recentEvent (p : Proposal) : RecentEvent where
  id := p.request.id
  title := p.request.title
  status := p.request.status
  clubId := p.request.clubId
  clubName := (t.club p).map Club.name
  createdAt := t.requestedAt p.request.id

def secretaryMetrics (actor : User) : SecretaryDashboardMetrics where
  draftCount := countStatus t actor .draft
  submittedCount := countStatus t actor .submitted
  inReviewCount := countStatus t actor .inReview
  revisionRequiredCount := countStatus t actor .revisionRequired
  approvedCount := countStatus t actor .approved
  rejectedCount := countStatus t actor .rejected
  recentEvents := (latest (fun p : Proposal => t.requestedAt p.request.id) (t.proposals.filter fun p =>
    Mine t actor p.request ∧ p.request.deletedAt = none)).map (recentEvent t)

/-! ## 5. A reviewer -/

def reviewerMetrics (actor : User) : ReviewerDashboardMetrics where
  pendingActions := t.joinSteps.countP fun row => ActionPending actor row
  completedApprovals := t.auditLogs.countP fun log =>
    log.actorId = actor.id ∧ log.action = .proposalApproved ∧ log.entityType = "workflow_step"
  recentWorkflowActivity := (latest AuditLog.createdAt (t.auditLogs.filter fun log =>
    log.actorId = actor.id)).map activity

/-! ## 6. The service -/

/-- `get_dashboard`. -/
def getDashboard (actor : User) : DashboardResponse :=
  let resp : DashboardResponse := { role := actor.role, userId := actor.id }
  if actor.role = .systemAdmin then { resp with admin := some (adminMetrics t) }
  else if actor.role = .clubSecretary then { resp with secretary := some (secretaryMetrics t actor) }
  else { resp with reviewer := some (reviewerMetrics t actor) }

variable {t} {actor : User}

theorem admin_of_getDashboard {m : AdminDashboardMetrics} (h : (getDashboard t actor).admin = some m) :
    actor.role = .systemAdmin ∧ m = adminMetrics t := by
  unfold getDashboard at h
  by_cases hadmin : actor.role = .systemAdmin
  · rw [if_pos hadmin] at h
    exact ⟨hadmin, (Option.some.inj h).symm⟩
  · rw [if_neg hadmin] at h
    by_cases hsecretary : actor.role = .clubSecretary
    · rw [if_pos hsecretary] at h
      cases h
    · rw [if_neg hsecretary] at h
      cases h

theorem secretary_of_getDashboard {m : SecretaryDashboardMetrics}
    (h : (getDashboard t actor).secretary = some m) :
    actor.role = .clubSecretary ∧ m = secretaryMetrics t actor := by
  unfold getDashboard at h
  by_cases hadmin : actor.role = .systemAdmin
  · rw [if_pos hadmin] at h
    cases h
  · rw [if_neg hadmin] at h
    by_cases hsecretary : actor.role = .clubSecretary
    · rw [if_pos hsecretary] at h
      exact ⟨hsecretary, (Option.some.inj h).symm⟩
    · rw [if_neg hsecretary] at h
      cases h

/-- The count of the pending actions is the one beside the queue. -/
theorem reviewer_of_getDashboard {m : ReviewerDashboardMetrics}
    (h : (getDashboard t actor).reviewer = some m) :
    actor.role ≠ .systemAdmin ∧ actor.role ≠ .clubSecretary ∧
      some m.pendingActions = pendingActions t.toReviewTables actor := by
  unfold getDashboard at h
  by_cases hadmin : actor.role = .systemAdmin
  · rw [if_pos hadmin] at h
    cases h
  · rw [if_neg hadmin] at h
    by_cases hsecretary : actor.role = .clubSecretary
    · rw [if_pos hsecretary] at h
      cases h
    · rw [if_neg hsecretary] at h
      obtain rfl := Option.some.inj h
      refine ⟨hadmin, hsecretary, ?_⟩
      unfold pendingActions
      rw [if_neg hadmin, if_neg hsecretary]
      rfl

end DashboardService

end CampusConnect
