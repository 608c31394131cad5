/-
  File:      CampusConnect/Services/Queue.lean
  Subject:   What waits for a reviewer: `get_pending_queue` of the workflow service and the count
             of the dashboard (`dashboard_service.py`), as queries over the tables.

  * `ReviewTables`: the rows the queries join, the foreign key of a proposal to its club as a field;
  * `joinSteps`, `joinClubs`: every step with its instance and proposal, and with the club;
  * `Awaits`, `getPendingQueue`: the conditions of the queue and the page it returns;
  * `ActionPending`, `pendingActions`: the conditions of the dashboard and its count;
  * `mem_getPendingQueue`, `length_getPendingQueue`: a page that holds everything.
-/
import CampusConnect.Services.Workflow
import Mathlib.Data.List.Count

namespace CampusConnect

open Rows

/-! ## 1. The joined rows -/

/-- What the queries read. `createdAt` is the column of a step row that the database fills. -/
structure ReviewTables where
  proposals : List Proposal
  clubs : List Club
  createdAt : Uuid → Instant
  clubExists : ∀ p ∈ proposals, ∃ c ∈ clubs, c.id = p.request.clubId

/-- A step with the instance and the proposal it belongs to. Its template row is in the step. -/
structure StepRow where
  proposal : Proposal
  inst : WorkflowInstance
  step : WorkflowInstanceStep

namespace ReviewTables

/-- The steps joined with their instances and proposals. -/
def joinSteps (t : ReviewTables) : List StepRow :=
  t.proposals.flatMap fun p => p.steps.rows.filterMap fun step =>
    (p.instances.find step.instanceId).map fun inst => ⟨p, inst, step⟩

/-- The club of a proposal. -/
def club (t : ReviewTables) (p : Proposal) : Option Club :=
  t.clubs.find? (fun c => c.id = p.request.clubId)

/-- The steps joined with their clubs too. -/
def joinClubs (t : ReviewTables) : List (StepRow × Club) :=
  t.joinSteps.filterMap fun row => (t.club row.proposal).map fun c => (row, c)

theorem mem_joinSteps {t : ReviewTables} {row : StepRow} :
    row ∈ t.joinSteps ↔ row.proposal ∈ t.proposals ∧ row.step ∈ row.proposal.steps ∧
      row.proposal.instances.find row.step.instanceId = some row.inst := by
  simp only [joinSteps, List.mem_flatMap, List.mem_filterMap, Option.map_eq_some_iff]
  constructor
  · rintro ⟨p, hp, step, hstep, inst, hinst, rfl⟩
    exact ⟨hp, hstep, hinst⟩
  · rintro ⟨hp, hstep, hinst⟩
    exact ⟨row.proposal, hp, row.step, hstep, row.inst, hinst, rfl⟩

/-- The join with the clubs drops no row. -/
theorem club_of_mem {t : ReviewTables} {row : StepRow} (h : row ∈ t.joinSteps) :
    ∃ c, t.club row.proposal = some c := by
  obtain ⟨c, hc, hid⟩ := t.clubExists row.proposal (mem_joinSteps.mp h).1
  have hsome : (t.club row.proposal).isSome = true :=
    List.find?_isSome.mpr ⟨c, hc, by simpa using hid⟩
  exact Option.isSome_iff_exists.mp hsome

theorem mem_joinClubs {t : ReviewTables} {row : StepRow} {c : Club} :
    (row, c) ∈ t.joinClubs ↔ row ∈ t.joinSteps ∧ t.club row.proposal = some c := by
  simp only [joinClubs, List.mem_filterMap, Option.map_eq_some_iff]
  constructor
  · rintro ⟨r, hr, d, hd, he⟩
    cases he
    exact ⟨hr, hd⟩
  · rintro ⟨hr, hc⟩
    exact ⟨row, hr, c, hc, rfl⟩

end ReviewTables

/-- The scope both queries write out: an advisor sees the steps assigned to him, the other roles
    also those that require their role. -/
def InScope (actor : User) (step : WorkflowInstanceStep) : Prop :=
  if actor.role = .facultyAdvisor then step.assignedTo = actor.id
  else step.assignedTo = actor.id ∨ step.requiredRole = actor.role

instance (actor : User) (step : WorkflowInstanceStep) : Decidable (InScope actor step) :=
  inferInstanceAs (Decidable (if actor.role = .facultyAdvisor then step.assignedTo = actor.id
    else step.assignedTo = actor.id ∨ step.requiredRole = actor.role))

/-! ## 2. The pending queue -/

namespace WorkflowService

/-- The conditions of `get_pending_queue`. -/
def Awaits (actor : User) (row : StepRow) : Prop :=
  row.step.status = .pending ∧ row.step.stepOrder = row.inst.currentStepOrder ∧
    row.inst.status = .inProgress ∧ row.proposal.request.deletedAt = none ∧
    row.proposal.request.submittedBy ≠ actor.id ∧
    (actor.role ≠ .systemAdmin → InScope actor row.step)

instance (actor : User) (row : StepRow) : Decidable (Awaits actor row) :=
  inferInstanceAs (Decidable (_ ∧ _ ∧ _ ∧ _ ∧ _ ∧ (_ → _)))

/-- One item of the queue. -/
structure WorkflowPendingItemResponse where
  stepId : Uuid
  instanceId : Uuid
  eventRequestId : Uuid
  eventTitle : Text
  clubName : Text
  stepOrder : Nat
  stepName : Text
  versionNumber : Nat
  submittedAt : Instant
  assignedTo : Uuid
  deriving DecidableEq, Repr

def pendingItem (t : ReviewTables) (row : StepRow) (c : Club) : WorkflowPendingItemResponse where
  stepId := row.step.id
  instanceId := row.step.instanceId
  eventRequestId := row.proposal.request.id
  eventTitle := row.proposal.request.title
  clubName := c.name
  stepOrder := row.step.stepOrder
  stepName := row.step.stepName
  versionNumber := row.inst.versionNumber
  submittedAt := t.createdAt row.step.id
  assignedTo := row.step.assignedTo

/-- The rows of the queue, oldest first. The database may order rows of one instant in any way. -/
def pendingRows (t : ReviewTables) (actor : User) : List (StepRow × Club) :=
  (t.joinClubs.filter fun r => Awaits actor r.1).insertionSort
    fun a b => t.createdAt a.1.step.id ≤ t.createdAt b.1.step.id

/-- `get_pending_queue`. -/
def getPendingQueue (t : ReviewTables) (actor : User) (skip limit : Nat) :
    List WorkflowPendingItemResponse :=
  (((pendingRows t actor).drop skip).take limit).map fun r => pendingItem t r.1 r.2

theorem getPendingQueue_whole {t : ReviewTables} {actor : User} {limit : Nat}
    (h : (pendingRows t actor).length ≤ limit) :
    getPendingQueue t actor 0 limit = (pendingRows t actor).map fun r => pendingItem t r.1 r.2 := by
  unfold getPendingQueue
  rw [List.drop_zero, List.take_of_length_le h]

/-- **What is on a page that holds everything.** -/
theorem mem_getPendingQueue {t : ReviewTables} {actor : User} {limit : Nat}
    (h : (pendingRows t actor).length ≤ limit) {item : WorkflowPendingItemResponse} :
    item ∈ getPendingQueue t actor 0 limit ↔ ∃ row ∈ t.joinSteps, ∃ c,
      t.club row.proposal = some c ∧ Awaits actor row ∧ pendingItem t row c = item := by
  rw [getPendingQueue_whole h]
  simp only [List.mem_map, pendingRows, List.mem_insertionSort, List.mem_filter,
    decide_eq_true_eq]
  constructor
  · rintro ⟨⟨row, c⟩, ⟨hjoin, hawaits⟩, rfl⟩
    obtain ⟨hrow, hclub⟩ := ReviewTables.mem_joinClubs.mp hjoin
    exact ⟨row, hrow, c, hclub, hawaits, rfl⟩
  · rintro ⟨row, hrow, c, hclub, hawaits, rfl⟩
    exact ⟨(row, c), ⟨ReviewTables.mem_joinClubs.mpr ⟨hrow, hclub⟩, hawaits⟩, rfl⟩

theorem length_getPendingQueue {t : ReviewTables} {actor : User} {limit : Nat}
    (h : (pendingRows t actor).length ≤ limit) :
    (getPendingQueue t actor 0 limit).length
      = t.joinSteps.countP fun row => Awaits actor row := by
  rw [getPendingQueue_whole h, List.length_map, pendingRows, List.length_insertionSort,
    ← List.countP_eq_length_filter, ReviewTables.joinClubs, List.countP_filterMap]
  refine List.countP_congr fun row hrow => ?_
  obtain ⟨c, hclub⟩ := ReviewTables.club_of_mem hrow
  rw [hclub]
  rfl

end WorkflowService

/-! ## 3. The dashboard -/

namespace DashboardService

/-- The conditions of the count of pending actions. -/
def ActionPending (actor : User) (row : StepRow) : Prop :=
  row.step.status = .pending ∧ row.step.stepOrder = row.inst.currentStepOrder ∧
    row.inst.status = .inProgress ∧ InScope actor row.step

instance (actor : User) (row : StepRow) : Decidable (ActionPending actor row) :=
  inferInstanceAs (Decidable (_ ∧ _ ∧ _ ∧ _))

/-- `reviewer.pending_actions` of `get_dashboard`; administrators and secretaries get other figures
    in its place. -/
def pendingActions (t : ReviewTables) (actor : User) : Option Nat :=
  if actor.role = .systemAdmin then none
  else if actor.role = .clubSecretary then none
  else some (t.joinSteps.countP fun row => ActionPending actor row)

end DashboardService

end CampusConnect
