/-
  File:      CampusConnect/Services/Notifications.lean
  Subject:   The notifications (`notification_service.py`), and those the review of a proposal sends.

  * `createNotification`, `markAsRead`, `markAllAsRead`: the writes of `NotificationService`;
  * `getNotifications`, `getNotificationCounts`: its two queries, of one recipient;
  * `ReviewOp.notices`, `Call.notices`: whom a request on a proposal notifies, and of what.
-/
import CampusConnect.Review

namespace CampusConnect

open Guarded Rows

/-! ## 1. The rows -/

/-- The types that the review of a proposal and its cancellation send; `later` are those of the services
    after the approval. -/
inductive NotificationType where
  | actionRequired
  | stepApproved
  | proposalApproved
  | proposalRejected
  | revisionRequired
  | system
  | later (name : String)
  deriving DecidableEq, Repr

/-- A text with its arguments. -/
structure Wording where
  template : String
  args : List Value
  deriving DecidableEq, Repr

/-- What `create_notification` is called with. -/
structure Notice where
  recipientId : Uuid
  notificationType : NotificationType
  title : Wording
  message : Wording
  eventRequestId : Option Uuid
  deriving DecidableEq, Repr

structure Notification extends Notice where
  id : Uuid
  isRead : Bool
  readAt : Option Instant
  createdAt : Instant
  deriving DecidableEq, Repr

instance : Row Notification Uuid where
  key := Notification.id
  Check _ := True

/-- The row of a notice. -/
def Notice.row (n : Notice) (newId : Uuid) (now : Instant) : Notification where
  toNotice := n
  id := newId
  isRead := false
  readAt := none
  createdAt := now

/-! ## 2. `NotificationService` -/

namespace NotificationService

variable (t : Table Notification)

/-- `create_notification`. -/
def createNotification (newId : Uuid) (now : Instant) (n : Notice) : Result (Table Notification) :=
  fetch (t.insert (n.row newId now)) integrityError

/-- The rows of a recipient. -/
def inbox (recipientId : Uuid) : List Notification :=
  t.rows.filter fun n => n.recipientId = recipientId

/-- `get_notifications`: the newest first. -/
def getNotifications (recipientId : Uuid) (unreadOnly : Bool) (limit offset : Nat) :
    List Notification :=
  let rows := (inbox t recipientId).filter fun n => unreadOnly = true → n.isRead = false
  ((rows.insertionSort fun a b => a.createdAt ≥ b.createdAt).drop offset).take limit

structure NotificationCounts where
  unreadCount : Nat
  totalCount : Nat
  deriving DecidableEq, Repr

/-- `get_notification_counts`. -/
def getNotificationCounts (recipientId : Uuid) : NotificationCounts where
  unreadCount := t.rows.countP fun n => n.recipientId = recipientId ∧ n.isRead = false
  totalCount := t.rows.countP fun n => n.recipientId = recipientId

/-- The columns a reader's mark assigns; a row already read keeps its time. -/
def markRead (now : Instant) (n : Notification) : Notification :=
  if n.isRead = false then { n with isRead := true, readAt := some now } else n

/-- `mark_as_read`. -/
def markAsRead (notificationId recipientId : Uuid) (now : Instant) :
    Result (Table Notification × Notification) := do
  let notif ← fetch ((t.find notificationId).filter fun n => n.recipientId = recipientId)
    ⟨.notFound, "Notification not found.", []⟩
  let t ← fetch (t.replace (markRead now notif)) staleDataError
  return (t, markRead now notif)

/-- What `mark_all_as_read` does to a row. -/
def markReadBy (recipientId : Uuid) (now : Instant) (n : Notification) : Notification :=
  if n.recipientId = recipientId then markRead now n else n

theorem markRead_key (now : Instant) (n : Notification) : Row.key (markRead now n) = Row.key n := by
  unfold markRead
  by_cases hread : n.isRead = false
  · rw [if_pos hread]
    rfl
  · rw [if_neg hread]

theorem markReadBy_key (recipientId : Uuid) (now : Instant) (n : Notification) :
    Row.key (markReadBy recipientId now n) = Row.key n := by
  unfold markReadBy
  by_cases hown : n.recipientId = recipientId
  · rw [if_pos hown, markRead_key]
  · rw [if_neg hown]

/-- `mark_all_as_read`, with the number of rows it writes. -/
def markAllAsRead (recipientId : Uuid) (now : Instant) : Table Notification × Nat :=
  (t.modify (markReadBy recipientId now) (markReadBy_key recipientId now) (fun _ _ => trivial),
    (getNotificationCounts t recipientId).unreadCount)

end NotificationService

/-! ## 3. What the review of a proposal sends -/

namespace WorkflowService

/-- A notice about the proposal. -/
def noticeOf (r : EventRequest) (recipientId : Uuid) (notificationType : NotificationType)
    (title message : Wording) : Notice where
  recipientId := recipientId
  notificationType := notificationType
  title := title
  message := message
  eventRequestId := some r.id

/-- To the assignee of the first step. -/
def firstStepNotice (r : EventRequest) (first : WorkflowInstanceStep) : Notice :=
  noticeOf r first.assignedTo .actionRequired
    ⟨"Action Required: Proposal '%s' submitted", [.text r.title]⟩
    ⟨"Event proposal '%s' has been submitted and awaits your review as Step 1 (%s).",
      [.text r.title, .text first.stepName]⟩

/-- To the assignee of the step after an approved one. -/
def nextStepNotice (r : EventRequest) (next : WorkflowInstanceStep) : Notice :=
  noticeOf r next.assignedTo .actionRequired
    ⟨"Action Required: Step %s - %s", [.number next.stepOrder, .text next.stepName]⟩
    ⟨"Proposal '%s' has advanced to Step %s (%s) and requires your review.",
      [.text r.title, .number next.stepOrder, .text next.stepName]⟩

def stepApprovedNotice (r : EventRequest) (step : WorkflowInstanceStep) : Notice :=
  noticeOf r r.submittedBy .stepApproved
    ⟨"Step Approved: %s", [.text step.stepName]⟩
    ⟨"Step %s (%s) for proposal '%s' has been approved.",
      [.number step.stepOrder, .text step.stepName, .text r.title]⟩

def proposalApprovedNotice (r : EventRequest) : Notice :=
  noticeOf r r.submittedBy .proposalApproved
    ⟨"Proposal Approved: '%s'", [.text r.title]⟩
    ⟨"Your event proposal '%s' has received final sanction and is officially approved!",
      [.text r.title]⟩

def proposalRejectedNotice (r : EventRequest) (comments : Text) (step : WorkflowInstanceStep) :
    Notice :=
  noticeOf r r.submittedBy .proposalRejected
    ⟨"Proposal Rejected: '%s'", [.text r.title]⟩
    ⟨"Your proposal '%s' was rejected at Step %s (%s). Reason: %s",
      [.text r.title, .number step.stepOrder, .text step.stepName, .text comments]⟩

def revisionRequiredNotice (r : EventRequest) (comments : Text) (step : WorkflowInstanceStep) :
    Notice :=
  noticeOf r r.submittedBy .revisionRequired
    ⟨"Revision Required: '%s'", [.text r.title]⟩
    ⟨"Changes were requested at Step %s (%s) for proposal '%s'. Instructions: %s",
      [.number step.stepOrder, .text step.stepName, .text r.title, .text comments]⟩

/-- The notices of an approval: to the next assignee and to the submitter. -/
def approvalNotices (seen : Proposal) (step : WorkflowInstanceStep) : List Notice :=
  match nextStep seen step with
  | some next => [nextStepNotice seen.request next, stepApprovedNotice seen.request step]
  | none => [proposalApprovedNotice seen.request]

/-- The step of an order in an instance. -/
def stepAt (p : Proposal) (instanceId : Uuid) (order : Nat) : Option WorkflowInstanceStep :=
  p.steps.rows.find? fun s => s.instanceId = instanceId ∧ s.stepOrder = order

end WorkflowService

open WorkflowService

/-- The notices of an accepted operation, which read `seen` and left `q`. -/
def ReviewOp.notices (seen q : Proposal) : ReviewOp → List Notice
  | .submitProposal _ key keys =>
      if EventService.AlreadySubmitted key seen.request then []
      else (stepAt q keys.inst 1).toList.map (firstStepNotice seen.request)
  | .approveStep stepId _ _ _ => (seen.steps.find stepId).toList.flatMap (approvalNotices seen)
  | .rejectStep stepId comments =>
      (seen.steps.find stepId).toList.map (proposalRejectedNotice seen.request comments)
  | .requestRevision stepId comments =>
      (seen.steps.find stepId).toList.map (revisionRequiredNotice seen.request comments)
  | _ => []

/-- The notice of `cancel_proposal`: to the submitter if another cancels, else to who has the step
    under review. -/
def EventService.cancellationNotices (actor : User) (reason : Text) (p : Proposal) : List Notice :=
  if actor.id ≠ p.request.submittedBy then
    [noticeOf p.request p.request.submittedBy .system
      ⟨"Proposal Cancelled: '%s'", [.text p.request.title]⟩
      ⟨"Your proposal was cancelled by %s: %s", [.name actor.role.value, .text reason]⟩]
  else
    ((p.request.workflowInstanceId.bind p.instances.find).bind fun wf =>
        if wf.currentStepOrder = 0 then none else stepAt p wf.id wf.currentStepOrder).toList.map
      fun current => noticeOf p.request current.assignedTo .system
        ⟨"Proposal Withdrawn: '%s'", [.text p.request.title]⟩
        ⟨"Proposal '%s' awaiting your review has been cancelled by the club secretary: %s",
          [.text p.request.title, .text reason]⟩

/-- The notices of a call that reaches the proposal. -/
def Call.notices (c : Call) (p : Proposal) : List Notice :=
  match c.op with
  | .cancelProposal reason => EventService.cancellationNotices c.actor reason p
  | .cancelAnyEvent _ reason => EventService.cancellationNotices c.actor reason p
  | _ => []

/-- The notices of an accepted request on a proposal. Those of the services after its approval are
    left out: their types are others. -/
def Request.notices (d d' : Dossier) : Request → List Notice
  | .review _ _ op => op.notices d.proposal d'.proposal
  | .event c =>
      match d with
      | .proposed p _ => c.notices p
      | .confirmed _ => []

/-! ## 4. A proposal and the notifications -/

/-- A call of `NotificationService`, by a service or by a reader. -/
inductive InboxOp where
  | notify (newId : Uuid) (now : Instant) (n : Notice)
  | markAsRead (notificationId recipientId : Uuid) (now : Instant)
  | markAllAsRead (recipientId : Uuid) (now : Instant)

def InboxOp.exec (op : InboxOp) (t : Table Notification) : Result (Table Notification) :=
  match op with
  | .notify newId now n => NotificationService.createNotification t newId now n
  | .markAsRead notificationId recipientId now => do
      let (t, _) ← NotificationService.markAsRead t notificationId recipientId now
      return t
  | .markAllAsRead recipientId now =>
      return (NotificationService.markAllAsRead t recipientId now).1

/-- The calls that send the notices of one request, under the keys `newIds 0`, `newIds 1`, .. -/
def sending (newIds : Nat → Uuid) (now : Instant) (notices : List Notice) : List InboxOp :=
  notices.zipIdx.map fun (n, k) => .notify (newIds k) now n

/-- A proposal beside the table of all notifications. -/
structure Mailing where
  dossier : Dossier
  notifications : Table Notification

/-- What happens to them: a request on the proposal, or a call of a reader or of another service. -/
inductive MailingOp where
  | request (r : Request) (newIds : Nat → Uuid) (now : Instant)
  | inbox (op : InboxOp)

/-- One step of the two. The notices belong to the transaction of their request. -/
def Mailing.exec (cfg : Config) (op : MailingOp) (m : Mailing) : Result Mailing :=
  match op with
  | .request r newIds now => do
      let d ← Dossier.exec cfg r m.dossier
      let t ← Runs.run InboxOp.exec (sending newIds now (r.notices m.dossier d)) m.notifications
      return ⟨d, t⟩
  | .inbox op => do
      let t ← op.exec m.notifications
      return { m with notifications := t }

/-- An accepted step. -/
def Mailing.Step (cfg : Config) (m : Mailing) (op : MailingOp) (m' : Mailing) : Prop :=
  m.exec cfg op = .ok m'

end CampusConnect
