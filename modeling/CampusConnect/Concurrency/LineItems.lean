/-
  File:      CampusConnect/Concurrency/LineItems.lean
  Subject:   The line items of one budget, added, updated and deleted by any number of sessions.

  * `LineItemRequest.script`: the header and its items are loaded without a lock, the item is written,
    and a second select recounts the total;
  * `LineItemOp.change`, `LineItemOp.total`: what an operation does to the rows, and the total it
    computes; `LineItemOp.flush_writes`: what it leaves of the committed budget;
  * `Exact`: the total is the sum of the line items, `RecountsCommitted`: an operation commits while
    the rows it has counted are the committed ones;
  * `totals_exact`: in every run of such commits the total stays exact, `total_misses_an_item`: two
    additions that do not see each other.
-/
import CampusConnect.Concurrency.Dossiers
import CampusConnect.Guarantees.Stamps

namespace CampusConnect

open Guarded Rows Transactions EventService BudgetService

/-! ## 1. Operations -/

inductive LineItemOp where
  | add (newId : Uuid) (itemIn : BudgetLineItemCreate)
  | update (itemId : Uuid) (itemIn : BudgetLineItemUpdate)
  | delete (itemId : Uuid)

structure LineItemRequest where
  env : ReviewEnv
  actor : User
  op : LineItemOp

namespace LineItemOp

/-- The operation on the proposal. -/
def review : LineItemOp → ReviewOp
  | .add newId itemIn => .addLineItem newId itemIn
  | .update itemId itemIn => .updateLineItem itemId itemIn
  | .delete itemId => .deleteLineItem itemId

/-- The item the operation selects by its key. -/
def target : LineItemOp → Option Uuid
  | .add _ _ => none
  | .update itemId _ => some itemId
  | .delete itemId => some itemId

/-- What the operation does to the line items, for the rows it has loaded. -/
def change (op : LineItemOp) (seen : Proposal) (items : List BudgetLineItem) : List BudgetLineItem :=
  match op with
  | .add newId itemIn => items ++ [newItem newId itemIn]
  | .update itemId itemIn =>
      match (itemsOf seen).find? (fun i => i.id = itemId) with
      | none => items
      | some item => updateItem itemIn item items
  | .delete itemId => items.filter (fun i => i.id ≠ itemId)

/-- The objects of the session when it recounts: a deleted one is still there. -/
def session (op : LineItemOp) (seen : Proposal) : List BudgetLineItem :=
  match op with
  | .delete _ => itemsOf seen
  | _ => op.change seen (itemsOf seen)

/-- The total it writes, for the rows `later` of its second select. -/
def total (op : LineItemOp) (seen later : Proposal) : Int :=
  recount (op.session seen) (op.change seen (itemsOf later))

/-- The item rows its first flush writes: of an update, where it changes a column. -/
def written (op : LineItemOp) (seen : Proposal) : List Uuid :=
  match op with
  | .add _ _ => []
  | .update itemId itemIn =>
      ((itemsOf seen).filter fun i => i.id = itemId ∧ editItem itemIn i i ≠ i).map BudgetLineItem.id
  | .delete itemId => [itemId]

theorem edits (op : LineItemOp) : op.review.EditsContent := by
  cases op <;> exact trivial

/-- **What an accepted operation leaves of the committed budget.** -/
theorem flush_writes {env : ReviewEnv} {actor : User} {existing : Option Event} {op : LineItemOp}
    {seen later p q : Proposal} {f : Flush}
    (h : op.review.flush env actor existing seen later = .ok f) (hw : f.write p = .ok q) :
    f.event = none ∧ ∃ bp b, seen.budgetProposal = some bp ∧
      p.budgetProposal = some b ∧ q = { p with
        budgetProposal := some (changeItems bp (op.total seen later) (op.change seen) b) } := by
  cases op with
  | add newId itemIn =>
      have h : addLineItem env actor newId itemIn seen later = .ok f := h
      simp only [addLineItem, getBudgetProposal, bind_accepts, fetch_accepts, pure_accepts] at h
      obtain ⟨_, _, bp, hbp, rfl⟩ := h
      simp only [bind_accepts, refuse_accepts, exists_unit] at hw
      obtain ⟨b, hb, _, _, rfl⟩ := Proposal.updateBudget_accepts.mp hw.2
      refine ⟨rfl, bp, b, hbp, hb, ?_⟩
      unfold total session change
      rw [itemsOf_eq hbp]
  | update itemId itemIn =>
      have h : updateLineItem env actor itemId itemIn seen later = .ok f := h
      simp only [updateLineItem, getBudgetProposal, getLineItem, bind_accepts, fetch_accepts,
        pure_accepts] at h
      obtain ⟨_, _, bp, hbp, item, hitem, rfl⟩ := h
      simp only [bind_accepts, refuse_accepts, exists_unit] at hw
      obtain ⟨b, hb, _, _, rfl⟩ := Proposal.updateBudget_accepts.mp hw.2
      refine ⟨rfl, bp, b, hbp, hb, ?_⟩
      have hchange : ∀ items, change (.update itemId itemIn) seen items = updateItem itemIn item items := by
        intro items
        unfold change
        simp only [itemsOf_eq hbp, hitem]
      have htotal : total (.update itemId itemIn) seen later =
          recount (updateItem itemIn item bp.lineItems) (updateItem itemIn item (itemsOf later)) := by
        unfold total session
        rw [hchange, hchange, itemsOf_eq hbp]
      rw [htotal, funext hchange]
  | delete itemId =>
      have h : deleteLineItem env actor itemId seen later = .ok f := h
      simp only [deleteLineItem, getBudgetProposal, getLineItem, bind_accepts, fetch_accepts,
        pure_accepts] at h
      obtain ⟨_, _, bp, hbp, item, hitem, rfl⟩ := h
      obtain ⟨b, hb, _, _, rfl⟩ := Proposal.updateBudget_accepts.mp hw
      refine ⟨rfl, bp, b, hbp, hb, ?_⟩
      have hid := List.find?_some hitem
      rw [decide_eq_true_eq] at hid
      unfold total session change
      rw [itemsOf_eq hbp, hid]

end LineItemOp

/-! ## 2. The transaction -/

/-- `WHERE budget_proposal_id = …`, for the budget the session has loaded. -/
def underBudget (seen p : Proposal) : Proposal :=
  { p with
    budgetProposal :=
      p.budgetProposal.filter fun b => some b.id = seen.budgetProposal.map BudgetProposal.id }

/-- `get_budget_proposal`: the header, and its line items by a select of their own. -/
def loadBudget (header items : Dossier) : Option BudgetProposal :=
  header.proposal.budgetProposal.map fun b =>
    { b with lineItems := itemsOf (underBudget header.proposal items.proposal) }

/-- The items of the session after its select of one key: the object it has loaded before, or the row
    that is found now. Without a row the session has no such item. -/
def selectItem (itemId : Uuid) (found loaded : List BudgetLineItem) : List BudgetLineItem :=
  match found.find? (fun i => i.id = itemId) with
  | none => loaded.filter (fun i => i.id ≠ itemId)
  | some row => if itemId ∈ loaded.map BudgetLineItem.id then loaded else loaded ++ [row]

/-- The rows of the session after that select. -/
def withItem (itemId : Uuid) (found : Dossier) (loaded : Proposal) : Proposal :=
  { loaded with
    budgetProposal := loaded.budgetProposal.map fun b =>
      { b with lineItems := selectItem itemId (itemsOf (underBudget loaded found.proposal)) b.lineItems } }

/-- The rows of the keys that are still there. -/
def itemRows (ids : List Uuid) (d : Dossier) : List DossierKey :=
  (ids.filter fun id => id ∈ (itemsOf d.proposal).map BudgetLineItem.id).map .item

/-- The header the session has loaded, while it is there. -/
def headerRows (seen : Proposal) (d : Dossier) : List DossierKey :=
  if (underBudget seen d.proposal).budgetProposal = none then [] else [.budget]

namespace LineItemRequest

/-- From the second select on. The header is updated where the total is not the loaded one. -/
def recountScript (r : LineItemRequest) (seen : Proposal) : DossierProg (Dossier → Result Dossier) := do
  let later ← Prog.view
  let later := underBudget seen later.proposal
  let f ← Prog.lift (r.op.review.flush r.env r.actor none seen later)
  let _ ← Prog.hold fun d =>
    if seen.budgetProposal.map BudgetProposal.totalExpectedExpenditure = some (r.op.total seen later)
    then [] else headerRows seen d
  return writeEdit seen f

/-- `add_line_item`, `update_line_item` and `delete_line_item`. -/
def script (r : LineItemRequest) : DossierProg (Dossier → Result Dossier) := do
  let request ← Prog.view
  let header ← Prog.view
  let items ← Prog.view
  let loaded : Proposal := { request.proposal with budgetProposal := loadBudget header items }
  match r.op.target with
  | none => recountScript r loaded
  | some itemId => do
      let found ← Prog.view
      let seen := withItem itemId found loaded
      -- the guards, which do not look at the second select
      let _ ← Prog.lift (r.op.review.flush r.env r.actor none seen seen)
      let _ ← Prog.hold (itemRows (r.op.written seen))
      recountScript r seen

/-- The rows a session has loaded, and those of its second select. -/
def reads (r : LineItemRequest) : List Dossier → Option (Proposal × Proposal)
  | request :: header :: items :: rest =>
      let loaded : Proposal := { request.proposal with budgetProposal := loadBudget header items }
      match r.op.target, rest with
      | none, later :: _ => some (loaded, underBudget loaded later.proposal)
      | some itemId, found :: _ :: later :: _ =>
          let seen := withItem itemId found loaded
          some (seen, underBudget seen later.proposal)
      | _, _ => none
  | _ => none

/-- **What a commit has read and written.** -/
structure Committed (r : LineItemRequest) (vs : List Dossier) (db db' : Dossier) : Prop where
  loaded : ∃ request rest, vs = request :: rest ∧ request.proposal.request.Editable
  rows : db'.proposal = db.proposal ∨ ∃ seen later bp b, r.reads vs = some (seen, later) ∧
    seen.budgetProposal = some bp ∧ db.proposal.budgetProposal = some b ∧
    db'.proposal = { db.proposal with
      budgetProposal := some (changeItems bp (r.op.total seen later) (r.op.change seen) b) }

theorem recount_commit {r : LineItemRequest} {seen : Proposal} {vs : List Dossier}
    {write : Dossier → Result Dossier} (h : (r.recountScript seen).after vs = .done write)
    {db db' : Dossier} (hw : write db = .ok db') :
    ∃ later rest, vs = later :: rest ∧ seen.request.Editable ∧ (db'.proposal = db.proposal ∨
      ∃ bp b, seen.budgetProposal = some bp ∧ db.proposal.budgetProposal = some b ∧
        db'.proposal = { db.proposal with
          budgetProposal := some (changeItems bp (r.op.total seen (underBudget seen later.proposal))
            (r.op.change seen) b) }) := by
  unfold recountScript at h
  obtain ⟨later, rest, rfl, h1⟩ := Prog.after_view.mp h
  obtain ⟨f, hf, h2⟩ := Prog.after_decision.mp h1
  obtain ⟨last, _, rfl, h3⟩ := Prog.after_hold.mp h2
  obtain rfl := Prog.after_done.mp h3
  refine ⟨later, _, rfl, (ReviewOp.contentEdit r.op.edits hf).editable, ?_⟩
  rcases writeEdit_accepts hw with hsame | hq
  · exact .inl hsame
  · obtain ⟨_, bp, b, hbp, hb, hrow⟩ := LineItemOp.flush_writes hf hq
    exact .inr ⟨bp, b, hbp, hb, hrow⟩

theorem commit {r : LineItemRequest} {vs : List Dossier} {write : Dossier → Result Dossier}
    (h : r.script.after vs = .done write) {db db' : Dossier} (hw : write db = .ok db') :
    r.Committed vs db db' := by
  unfold script at h
  obtain ⟨request, vs1, rfl, h1⟩ := Prog.after_view.mp h
  obtain ⟨header, vs2, rfl, h2⟩ := Prog.after_view.mp h1
  obtain ⟨items, vs3, rfl, h3⟩ := Prog.after_view.mp h2
  cases htarget : r.op.target with
  | none =>
      rw [htarget] at h3
      obtain ⟨later, rest, rfl, hed, hrows⟩ := recount_commit h3 hw
      refine ⟨⟨request, _, rfl, hed⟩, hrows.imp id ?_⟩
      intro ⟨bp, b, hbp, hb, hrow⟩
      refine ⟨_, _, bp, b, ?_, hbp, hb, hrow⟩
      unfold reads
      rw [htarget]
  | some itemId =>
      rw [htarget] at h3
      obtain ⟨found, vs4, rfl, h4⟩ := Prog.after_view.mp h3
      obtain ⟨guard, _, h5⟩ := Prog.after_decision.mp h4
      obtain ⟨held, vs5, rfl, h6⟩ := Prog.after_hold.mp h5
      obtain ⟨later, rest, rfl, hed, hrows⟩ := recount_commit h6 hw
      refine ⟨⟨request, _, rfl, hed⟩, hrows.imp id ?_⟩
      intro ⟨bp, b, hbp, hb, hrow⟩
      refine ⟨_, _, bp, b, ?_, hbp, hb, hrow⟩
      unfold reads
      rw [htarget]

end LineItemRequest

/-! ## 3. Alone -/

theorem underBudget_self {seen p : Proposal} {bp b : BudgetProposal}
    (hseen : seen.budgetProposal = some bp) (hp : p.budgetProposal = some b) (hid : bp.id = b.id) :
    underBudget seen p = p := by
  unfold underBudget
  rw [hseen, hp, Option.filter_some, if_pos]
  · rw [← hp]
  · rw [Option.map_some, hid, decide_eq_true_eq]

theorem loadBudget_self (d : Dossier) : loadBudget d d = d.proposal.budgetProposal := by
  unfold loadBudget
  cases hb : d.proposal.budgetProposal with
  | none => rfl
  | some b =>
      rw [Option.map_some, underBudget_self hb hb rfl, itemsOf_eq hb]

theorem selectItem_self {itemId : Uuid} {items : List BudgetLineItem} {item : BudgetLineItem}
    (h : items.find? (fun i => i.id = itemId) = some item) : selectItem itemId items items = items := by
  have hid := List.find?_some h
  rw [decide_eq_true_eq] at hid
  unfold selectItem
  rw [h]
  exact if_pos (List.mem_map.mpr ⟨item, List.mem_of_find?_eq_some h, hid⟩)

/-- An accepted operation has found its item. -/
theorem LineItemOp.found {env : ReviewEnv} {actor : User} {existing : Option Event} {op : LineItemOp}
    {seen later : Proposal} {f : Flush} (h : op.review.flush env actor existing seen later = .ok f)
    {itemId : Uuid} (htarget : op.target = some itemId) :
    ∃ item, (itemsOf seen).find? (fun i => i.id = itemId) = some item := by
  cases op with
  | add newId itemIn => cases htarget
  | update id itemIn =>
      cases htarget
      have h : updateLineItem env actor itemId itemIn seen later = .ok f := h
      simp only [updateLineItem, getBudgetProposal, getLineItem, bind_accepts, fetch_accepts,
        pure_accepts] at h
      obtain ⟨_, _, bp, hbp, item, hitem, _⟩ := h
      rw [itemsOf_eq hbp]
      exact ⟨item, hitem⟩
  | delete id =>
      cases htarget
      have h : deleteLineItem env actor itemId seen later = .ok f := h
      simp only [deleteLineItem, getBudgetProposal, getLineItem, bind_accepts, fetch_accepts,
        pure_accepts] at h
      obtain ⟨_, _, bp, hbp, item, hitem, _⟩ := h
      rw [itemsOf_eq hbp]
      exact ⟨item, hitem⟩

namespace LineItemRequest

theorem recount_serial {r : LineItemRequest} {d : Dossier} {f : Flush} {q : Proposal}
    (hf : r.op.review.flush r.env r.actor none d.proposal d.proposal = .ok f)
    (hq : f.write d.proposal = .ok q) :
    (r.recountScript d.proposal).serial d = .ok (d.flushed q f.event f.entries) := by
  obtain ⟨hevent, bp, b, hbp, _, _⟩ := LineItemOp.flush_writes hf hq
  unfold recountScript
  rw [Prog.serial_view, underBudget_self hbp hbp rfl, Prog.serial_decision (b := f) hf,
    Prog.serial_hold, Prog.serial_done]
  exact writeEdit_self hevent hq

/-- **Alone, the transaction is the request.** -/
theorem serial {cfg : Config} {r : LineItemRequest} {d d' : Dossier}
    (h : Dossier.Step cfg d (.review r.env r.actor r.op.review) d') :
    r.script.serial d = .ok d' := by
  unfold Dossier.Step Dossier.exec at h
  simp only [bind_accepts, pure_accepts] at h
  obtain ⟨f, hf, q, hq, rfl⟩ := h
  have hf : r.op.review.flush r.env r.actor none d.proposal d.proposal = .ok f := by
    cases hop : r.op with
    | add newId itemIn => rw [hop] at hf; exact hf
    | update itemId itemIn => rw [hop] at hf; exact hf
    | delete itemId => rw [hop] at hf; exact hf
  have hloaded : ({ d.proposal with budgetProposal := loadBudget d d } : Proposal) = d.proposal := by
    rw [loadBudget_self]
  unfold script
  rw [Prog.serial_view, Prog.serial_view, Prog.serial_view, hloaded]
  cases htarget : r.op.target with
  | none => exact recount_serial hf hq
  | some itemId =>
      obtain ⟨_, bp, b, hbp, _, _⟩ := LineItemOp.flush_writes hf hq
      obtain ⟨item, hitem⟩ := LineItemOp.found hf htarget
      rw [itemsOf_eq hbp] at hitem
      have hseen : withItem itemId d d.proposal = d.proposal := by
        unfold withItem
        rw [underBudget_self hbp hbp rfl, itemsOf_eq hbp, hbp, Option.map_some, selectItem_self hitem,
          ← hbp]
      show (Prog.view >>= _ : DossierProg (Dossier → Result Dossier)).serial d = _
      rw [Prog.serial_view, hseen, Prog.serial_decision (b := f) hf, Prog.serial_hold]
      exact recount_serial hf hq

end LineItemRequest

/-! ## 4. Recounts -/

/-- The total is the sum of the line items. -/
def Exact (p : Proposal) : Prop :=
  ∀ bp, p.budgetProposal = some bp → bp.totalExpectedExpenditure = totalOf bp.lineItems

theorem Summed.exact {p : Proposal} (h : Summed p) : Exact p := fun bp hbp => (h bp hbp).total

/-- The amounts by key. -/
def amounts (items : List BudgetLineItem) : List (Uuid × Int) :=
  items.map fun i => (i.id, i.estimatedAmount)

/-- **A recount of committed rows**: the rows found are the committed ones, and so are those the
    session had loaded before. -/
theorem recount_committed {session later committed : List BudgetLineItem}
    (hfound : amounts later = amounts committed)
    (hheld : ∀ i ∈ session, ∀ j ∈ committed, i.id = j.id → i.estimatedAmount = j.estimatedAmount) :
    recount session later = totalOf committed := by
  unfold recount totalOf
  induction later generalizing committed with
  | nil =>
      cases committed with
      | nil => rfl
      | cons j js => cases hfound
  | cons i is ih =>
      cases committed with
      | nil => cases hfound
      | cons j js =>
          obtain ⟨hhead, htail⟩ := List.cons.inj hfound
          obtain ⟨hid, hamount⟩ := Prod.mk.inj hhead
          have hcounted : ((session.find? (fun k => k.id = i.id)).getD i).estimatedAmount =
              j.estimatedAmount := by
            cases hfind : session.find? (fun k => k.id = i.id) with
            | none => exact hamount
            | some k =>
                have hkey := List.find?_some hfind
                rw [decide_eq_true_eq] at hkey
                exact hheld k (List.mem_of_find?_eq_some hfind) j List.mem_cons_self
                  (hkey.trans hid)
          have hrest := ih htail fun k hk l hl => hheld k hk l (List.mem_cons_of_mem _ hl)
          rw [List.map_cons, List.map_cons, List.sum_cons, List.map_cons, List.sum_cons, hcounted,
            hrest]

namespace LineItemOp

variable (op : LineItemOp) (seen later : Proposal) (db : Dossier)

/-- The rows its second select has found are those of the committed budget. -/
def FoundCommitted : Prop :=
  amounts (op.change seen (itemsOf later)) = amounts (op.change seen (itemsOf db.proposal))

/-- The objects of the session have the amounts of the committed rows of their keys. -/
def HoldsCommitted : Prop :=
  ∀ i ∈ op.session seen, ∀ j ∈ op.change seen (itemsOf db.proposal), i.id = j.id →
    i.estimatedAmount = j.estimatedAmount

/-- The total it has loaded is the committed one, or not what the committed line items now add up to:
    an equal total is not written. -/
def TotalCommitted : Prop :=
  ∀ bp ∈ seen.budgetProposal, ∀ b ∈ db.proposal.budgetProposal,
    bp.totalExpectedExpenditure = b.totalExpectedExpenditure ∨
      bp.totalExpectedExpenditure ≠ totalOf (op.change seen (itemsOf db.proposal))

instance : Decidable (op.FoundCommitted seen later db) := inferInstanceAs (Decidable (_ = _))

instance : Decidable (op.HoldsCommitted seen db) :=
  inferInstanceAs (Decidable (∀ i ∈ op.session seen, ∀ j ∈ op.change seen (itemsOf db.proposal), _))

instance : Decidable (op.TotalCommitted seen db) :=
  inferInstanceAs (Decidable (∀ bp ∈ seen.budgetProposal, ∀ b ∈ db.proposal.budgetProposal, _))

end LineItemOp

/-- **The rows an operation has counted are the committed ones.** -/
def LineItemRequest.CountsCommitted (r : LineItemRequest) (vs : List Dossier) (db : Dossier) : Prop :=
  ∀ x ∈ r.reads vs, r.op.FoundCommitted x.1 x.2 db ∧ r.op.HoldsCommitted x.1 db ∧
    r.op.TotalCommitted x.1 db

instance (r : LineItemRequest) (vs : List Dossier) (db : Dossier) :
    Decidable (r.CountsCommitted vs db) :=
  inferInstanceAs (Decidable (∀ x ∈ r.reads vs, _ ∧ _ ∧ _))

/-- **The step lemma**: a commit that has counted the committed rows leaves an exact total. -/
theorem LineItemRequest.Committed.exact {r : LineItemRequest} {vs : List Dossier} {db db' : Dossier}
    (h : r.Committed vs db db') (hcounts : r.CountsCommitted vs db) (hdb : Exact db.proposal) :
    Exact db'.proposal := by
  rcases h.rows with hsame | ⟨seen, later, bp, b, hreads, hbp, hb, hrow⟩
  · rw [hsame]
    exact hdb
  obtain ⟨hfound, hheld, htotal⟩ := hcounts _ hreads
  intro c hc
  rw [hrow] at hc
  cases hc
  have hcount : r.op.total seen later = totalOf (r.op.change seen (itemsOf db.proposal)) :=
    recount_committed hfound hheld
  show assigned bp.totalExpectedExpenditure (r.op.total seen later) b.totalExpectedExpenditure =
    totalOf (r.op.change seen b.lineItems)
  rw [itemsOf_eq hb] at hcount
  rw [hcount]
  have hloaded := htotal bp hbp b hb
  rw [itemsOf_eq hb] at hloaded
  unfold assigned
  by_cases hsame : totalOf (r.op.change seen b.lineItems) = bp.totalExpectedExpenditure
  · rw [if_pos hsame]
    rcases hloaded with heq | hne
    · rw [← heq, hsame]
    · exact (hne hsame.symm).elim
  · rw [if_neg hsame]

/-! ## 5. The law -/

/-- The worlds of line-item requests on a budget whose total was exact. -/
abbrev LineItemWorld (ok : World Failure Dossier DossierKey LineItemRequest →
    Action LineItemRequest → Prop) : World Failure Dossier DossierKey LineItemRequest → Prop :=
  Transactions.Reachable LineItemRequest.script (fun d : Dossier => Exact d.proposal) ok

/-- Every commit has counted the committed rows. -/
abbrev RecountsCommitted : World Failure Dossier DossierKey LineItemRequest →
    Action LineItemRequest → Prop :=
  OnCommit LineItemRequest.CountsCommitted

/-- **The total stays exact** under any number of concurrent additions, updates and deletions of line
    items, as long as each commits while the rows it has counted are the committed ones. One after
    the other, requests leave an exact total to begin with. -/
theorem totals_exact (cfg : Config) :
    (∀ d, Dossier.Reachable cfg d → Exact d.proposal) ∧
      ∀ w, LineItemWorld RecountsCommitted w → Exact w.db.proposal := by
  refine ⟨fun d hd => ?_, fun w hw => ?_⟩
  · refine Summed.exact (Kept.summed (Runs.Reach.invariant (P := Kept) ?_ ?_ hd))
    · intro d hd
      exact hd.kept
    · intro d r d' hkept hstep
      exact hkept.step hstep.traced
  · refine Transactions.Reachable.invariant (P := fun _ (d : Dossier) => Exact d.proposal)
      (fun _ h => h) ?_ hw
    intro w i t s hw hok hcommit hexact
    obtain ⟨write, hdone, hwrite⟩ := hcommit.write
    have hcounts := OnCommit.commit hw hok hcommit
    exact (LineItemRequest.commit hdone hwrite).exact hcounts hexact

/-! ## 6. Additions that do not see each other -/

namespace Sample

def lineItem (newId : Uuid) (amount : Int) : LineItemRequest where
  env := reviewEnv staff
  actor := secretary
  op := .add newId { description := "prizes".toList, category := .catering, estimatedAmount := amount }

/-- The amount of the item 64 of the sample budget. -/
def reprice (amount : Int) : LineItemRequest where
  env := reviewEnv staff
  actor := secretary
  op := .update (uid 64) { estimatedAmount := some amount }

/-- The first session loads the budget and writes; the second one runs to its commit; then the first
    one goes on for some steps. -/
def overtaken (first second : LineItemRequest) (before last : Nat) : List (Action LineItemRequest) :=
  .start 0 first :: List.replicate before (.run 0) ++
    .start 1 second :: List.replicate 6 (.run 1) ++ List.replicate last (.run 0)

end Sample

/-- A new price waits for its second select until an addition is committed: both are counted. -/
theorem totals_exact_repriced :
    ∃ w, LineItemWorld RecountsCommitted w ∧ w.log.length = 2 ∧
      totalOf (itemsOf w.db.proposal) = 35000 ∧ Exact w.db.proposal := by
  have hrun : Runs.Ends (Sample.after Sample.plan) (fun d0 =>
      Runs.Ends (Runs.run (Runs.only RecountsCommitted .idle (World.next LineItemRequest.script))
        (Sample.overtaken (Sample.reprice 30000) (Sample.lineItem (Sample.uid 66) 5000) 5 3)
        (World.idle d0)) (fun w =>
          w.log.length = 2 ∧ totalOf (itemsOf w.db.proposal) = 35000)) := by
    decide
  obtain ⟨d0, hd0, w, hw, hlog, htotal⟩ := hrun
  obtain ⟨d, hdraft, hpath⟩ := Sample.path_of_after hd0
  have hexact := (totals_exact (Sample.config .sqlite)).1 d0 (Runs.Reach.path (.start hdraft) hpath)
  have hreach : LineItemWorld RecountsCommitted w :=
    Runs.Reach.path (.start ⟨d0, hexact, rfl⟩) (Runs.path_of_run_only hw)
  exact ⟨w, hreach, hlog, htotal, (totals_exact (Sample.config .sqlite)).2 w hreach⟩

/-- An addition recounts before another one is committed, and writes its total after it. -/
theorem total_misses_an_item :
    ¬ ∀ w, LineItemWorld (fun _ _ => True) w → (∀ i, w.running i = none) → Exact w.db.proposal := by
  intro hall
  have hrun : Runs.Ends (Sample.after Sample.plan) (fun d0 =>
      Runs.Ends (Runs.run (World.next LineItemRequest.script)
        (Sample.overtaken (Sample.lineItem (Sample.uid 65) 3000) (Sample.lineItem (Sample.uid 66) 5000) 4 2)
        (World.idle d0)) (fun w => (w.running 0).isNone = true ∧ (w.running 1).isNone = true ∧
          ∃ bp ∈ w.db.proposal.budgetProposal, bp.totalExpectedExpenditure = 23000 ∧
            totalOf bp.lineItems = 28000)) := by
    decide
  obtain ⟨d0, hd0, w, hw, hfirst, hsecond, bp, hbp, htotal, hsum⟩ := hrun
  obtain ⟨d, hdraft, hpath⟩ := Sample.path_of_after hd0
  have hexact := (totals_exact (Sample.config .sqlite)).1 d0 (Runs.Reach.path (.start hdraft) hpath)
  have hrun := Runs.path_of_run hw
  have hreach : LineItemWorld (fun _ _ => True) w :=
    Runs.Reach.path (.start ⟨d0, hexact, rfl⟩) (hrun.under fun _ _ => trivial)
  have hidle : ∀ i, w.running i = none := by
    intro i
    by_cases h0 : i = 0
    · rw [h0]
      exact Option.isNone_iff_eq_none.mp hfirst
    by_cases h1 : i = 1
    · rw [h1]
      exact Option.isNone_iff_eq_none.mp hsecond
    refine World.unstarted hrun ?_ rfl
    intro r hr
    simp only [Sample.overtaken, List.cons_append, List.mem_cons, List.mem_append, List.mem_replicate,
      Action.start.injEq, reduceCtorEq, and_false, or_false, false_or] at hr
    rcases hr with ⟨he, _⟩ | ⟨he, _⟩
    · exact h0 he
    · exact h1 he
  have hwrong := hall w hreach hidle bp hbp
  rw [htotal, hsum] at hwrong
  omega

end CampusConnect
