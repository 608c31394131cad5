/-
  File:      CampusConnect/Guarantees/Bills.lean
  Subject:   ONE BILL, ONE EVENT: the documents behind the expenses of different events.

  * `Dossier.Own`, `Traced.keys`: an event is its proposal's, and neither key changes;
  * `Op.attaches`, `Op.bills`: where the bill of an expense comes from;
  * `Bill`, `Filing`: an invoice with a digest, and what an accepted upload or deletion does to these;
  * `Ledgered`: every expense has such a bill of its own event, and no two events have one content;
  * `one_bill_one_event`: when every bill attached is such an invoice, no two events share a content;
    `one_bill_two_events`: without, they do.
-/
import CampusConnect.Guarantees.Duties
import CampusConnect.Guarantees.Standing
import CampusConnect.Registry

namespace CampusConnect

open Guarded Rows EventService WorkflowService

/-! ## 1. The keys of a dossier -/

/-- The event is the proposal's. -/
def Dossier.Own (d : Dossier) : Prop :=
  ∀ e, d.event = some e → e.eventRequestId = d.proposal.request.id

section Keys

variable {cfg : Config} {d d' : Dossier} {r : Request}

theorem ReviewStep.request_id {env : ReviewEnv} {actor : User} {p q : Proposal} {op : ReviewOp}
    (hs : ReviewStep env actor p op q) : q.request.id = p.request.id := by
  cases hs with
  | submitted summary key keys _ hsub => rw [hsub.request]; rfl
  | approved stepId comments newBookingId newEventId step inst _ hd happ => rw [happ.request]
  | rejected stepId comments step inst _ hd hrej => rw [hrej.request]
  | _ => rfl

theorem ReviewOp.creates_own {env : ReviewEnv} {actor : User} {existing : Option Event}
    {p : Proposal} {op : ReviewOp} {e : Event} (h : op.creates env actor existing p = some e) :
    e.eventRequestId = p.request.id := by
  obtain ⟨newId, rfl⟩ := ReviewOp.creates_some h
  rfl

/-- A call on the event leaves its keys. -/
theorem Step.event_keys {s s' : State} {c : Call} (h : CampusConnect.Step cfg s c s') :
    s'.event.id = s.event.id ∧ s'.event.eventRequestId = s.event.eventRequestId := by
  obtain ⟨a, _, heff⟩ := h.entered
  generalize c.op.move = m at heff
  cases heff with
  | settlement m s' hstep => cases hstep <;> exact ⟨rfl, rfl⟩
  | cancellation s' hstep =>
      cases hstep with
      | proposal entries hfrom => exact ⟨rfl, rfl⟩
      | event event advance entries hfrom hid hreq hver hst hpend hadv => exact ⟨hid, hreq⟩
  | closeout m s' hstep => cases hstep <;> exact ⟨rfl, rfl⟩
  | _ => exact ⟨rfl, rfl⟩

/-- **No request changes a key.** -/
theorem Traced.keys (hin : InStanding d) (h : d.Own) (hs : Traced cfg d r d') :
    d'.proposal.request.id = d.proposal.request.id ∧ d'.Own := by
  cases hs with
  | review env actor op d q entries hstep =>
      have hid : q.request.id = d.proposal.request.id := hstep.request_id
      rw [Dossier.proposal_flushed]
      refine ⟨hid, fun e he => ?_⟩
      rw [Dossier.event_flushed] at he
      rw [Dossier.proposal_flushed, hid]
      cases hev : d.event with
      | some e0 =>
          rw [hev, Option.some_or] at he
          cases he
          exact h e hev
      | none =>
          rw [hev, Option.none_or] at he
          exact ReviewOp.creates_own he
  | withdrawn c p logs entries hst =>
      refine ⟨?_, fun e he => nomatch he⟩
      rw [Dossier.proposal_proposed, (withdrawn_rows p).2.2.2]
      rfl
  | event c s s' hstep =>
      obtain ⟨booking, hrows⟩ := hin.event_rows hstep
      have hreq : s'.proposal.request = s.proposal.request := by rw [hrows]
      rw [Dossier.proposal_confirmed, hreq]
      refine ⟨rfl, fun e he => ?_⟩
      cases he
      rw [Dossier.proposal_confirmed, hreq, hstep.event_keys.2]
      exact h s.event rfl

theorem Drafted.own (h : Drafted d) : d.Own := by
  obtain ⟨request, logs, rfl, _⟩ := h.row
  intro e he
  cases he

/-- A draft has no event. -/
theorem Drafted.proposed (h : Drafted d) (s : State) : d ≠ .confirmed s := by
  obtain ⟨request, logs, rfl, _⟩ := h.row
  exact fun hs => nomatch hs

/-- A confirmed proposal cannot be edited. -/
theorem InStanding.not_editable {s : State} (h : InStanding (.confirmed s)) :
    ¬ s.proposal.request.Editable :=
  EventRequestStatus.Ended.not_editable (.inl h.approved)

end Keys

/-! ## 2. The bills of one event -/

/-- The bill an operation attaches to an expense. -/
def Op.attaches : Op → Option Uuid
  | .createDraftExpense _ payload => some payload.billDocumentId
  | .updateExpense _ payload => payload.billDocumentId
  | _ => none

section Bills

variable {cfg : Config} {env : Env} {actor : User} {s s' : State}

theorem verifyBillDocument_accepts {event : Event} {id : Uuid} {doc : Document} :
    ExpenseService.verifyBillDocument env event id = .ok doc ↔
      env.activeDocument id = some doc ∧ doc.BelongsTo event := by
  simp only [ExpenseService.verifyBillDocument, bind_accepts, fetch_accepts, refuse_accepts,
    exists_unit, pure_accepts, not_not]
  constructor
  · intro h
    obtain ⟨doc, hdoc, hown, rfl⟩ := h
    exact ⟨hdoc, hown⟩
  · intro h
    obtain ⟨hdoc, hown⟩ := h
    exact ⟨doc, hdoc, hown, rfl⟩

/-- The bill is one the event had, or the operation's, an active document that belongs to the event. -/
def BillFrom (env : Env) (op : Op) (s : State) (id : Uuid) : Prop :=
  (∃ old ∈ s.expenses, old.billDocumentId = id) ∨
    (op.attaches = some id ∧ ∃ doc, env.activeDocument id = some doc ∧ doc.BelongsTo s.event)

/-- A rewritten row that keeps its bill. -/
theorem BillFrom.replaced {op : Op} {old row : ActualExpense} {t : Table ActualExpense} {id : Uuid}
    (hfind : s.expenses.find id = some old) (hrep : s.expenses.replace row = some t)
    (hbill : row.billDocumentId = old.billDocumentId) {e : ActualExpense} (he : e ∈ t) :
    BillFrom env op s e.billDocumentId := by
  rcases Table.mem_replace hrep he with rfl | hold
  · exact .inl ⟨old, Table.mem_of_find hfind, hbill.symm⟩
  · exact .inl ⟨e, hold.1, rfl⟩

theorem createDraftExpense_bills {newId : Uuid} {payload : ActualExpenseCreate}
    (h : ExpenseService.createDraftExpense cfg env actor newId payload s = .ok s')
    {e : ActualExpense} (he : e ∈ s'.expenses) :
    BillFrom env (.createDraftExpense newId payload) s e.billDocumentId := by
  simp only [ExpenseService.createDraftExpense, bind_accepts, fetch_accepts, exists_unit,
    pure_accepts, verifyBillDocument_accepts] at h
  obtain ⟨_, _, _, doc, ⟨hdoc, hown⟩, _, _, t, hins, rfl⟩ := h
  have hid : doc.id = payload.billDocumentId := by
    have hsel := List.find?_some hdoc
    simp only [decide_eq_true_eq] at hsel
    exact hsel.1
  rcases (Table.mem_insert hins).mp he with hold | rfl
  · exact .inl ⟨e, hold, rfl⟩
  · refine .inr ⟨congrArg some hid.symm, doc, ?_, hown⟩
    rw [← hid] at hdoc
    exact hdoc

theorem verifyReplacementBill_accepts {event : Event} {expense : ActualExpense} {bill : Option Uuid}
    {u : Unit} (h : ExpenseService.verifyReplacementBill env event expense bill = .ok u) :
    bill.getD expense.billDocumentId = expense.billDocumentId ∨
      ∃ id, bill = some id ∧ ∃ doc, env.activeDocument id = some doc ∧ doc.BelongsTo event := by
  unfold ExpenseService.verifyReplacementBill at h
  cases bill with
  | none => exact .inl rfl
  | some id =>
      by_cases hid : id = expense.billDocumentId
      · exact .inl hid
      · rw [Option.filter_some_pos (by simp [hid])] at h
        simp only [bind_accepts, verifyBillDocument_accepts] at h
        obtain ⟨doc, hdoc, _⟩ := h
        exact .inr ⟨id, rfl, doc, hdoc⟩

theorem updateExpense_bills {expenseId : Uuid} {payload : ActualExpenseUpdate}
    (h : ExpenseService.updateExpense cfg env actor expenseId payload s = .ok s')
    {e : ActualExpense} (he : e ∈ s'.expenses) :
    BillFrom env (.updateExpense expenseId payload) s e.billDocumentId := by
  simp only [ExpenseService.updateExpense, bind_accepts, fetch_accepts, exists_unit,
    pure_accepts] at h
  obtain ⟨_, _, old, hfind, _, _, hbill, _, _, t, hrep, rfl⟩ := h
  rcases verifyReplacementBill_accepts hbill with hsame | ⟨id, hid, doc, hdoc⟩
  · exact BillFrom.replaced hfind hrep hsame he
  · rcases Table.mem_replace hrep he with rfl | hold
    · refine .inr ⟨hid.trans ?_, doc, ?_⟩
      · show some id = some (payload.billDocumentId.getD old.billDocumentId)
        rw [hid]
        rfl
      · show env.activeDocument (payload.billDocumentId.getD old.billDocumentId) = some doc ∧ _
        rw [hid]
        exact hdoc
    · exact .inl ⟨e, hold.1, rfl⟩

/-- **Where the bill of an expense comes from.** -/
theorem Op.bills {op : Op} (h : op.exec cfg env actor s = .ok s') {e : ActualExpense}
    (he : e ∈ s'.expenses) : BillFrom env op s e.billDocumentId := by
  have hrest : (∀ n, op.move ≠ .expense n) → BillFrom env op s e.billDocumentId := by
    intro hm
    rw [(Op.exec_effect h).expenses_kept hm] at he
    exact .inl ⟨e, he, rfl⟩
  have hdecided : ∀ id, op.decidesExpense = some id → BillFrom env op s e.billDocumentId := by
    intro id hid
    obtain ⟨old, row, t, entries, hfind, hrow, hrep, rfl⟩ := Op.decides hid h
    exact BillFrom.replaced hfind hrep hrow.bill he
  cases op with
  | createDraftExpense newId payload => exact createDraftExpense_bills h he
  | updateExpense expenseId payload => exact updateExpense_bills h he
  | deleteDraftExpense expenseId =>
      obtain ⟨_, _, old, _, _, rfl⟩ := ExpenseService.deleteDraftExpense_accepts.mp h
      exact .inl ⟨e, (Table.mem_erase.mp he).1, rfl⟩
  | submitExpenses ids =>
      simp only [Op.exec, ExpenseService.submitExpenses, bind_accepts, exists_unit,
        pure_accepts] at h
      obtain ⟨_, _, _, _, rfl⟩ := h
      have hmem : e ∈ s.expenses.rows.map (ExpenseService.submitRow env.now actor.id ids) := he
      obtain ⟨old, hold, rfl⟩ := List.mem_map.mp hmem
      refine .inl ⟨old, hold, ?_⟩
      unfold ExpenseService.submitRow
      by_cases hsel : ExpenseService.Selected ids old
      · rw [if_pos hsel]
      · rw [if_neg hsel]
  | verifyExpense id remarks => exact hdecided id rfl
  | partialVerifyExpense id amount remarks => exact hdecided id rfl
  | disallowExpense id remarks => exact hdecided id rfl
  | queryExpense id remarks =>
      simp only [Op.exec, ExpenseService.queryExpense, bind_accepts,
        ExpenseService.loadSubmitted_accepts, ExpenseService.writeDecision_accepts] at h
      obtain ⟨old, ⟨_, _, _, hfind, _⟩, t, hrep, rfl⟩ := h
      exact BillFrom.replaced hfind hrep rfl he
  | _ =>
      refine hrest ?_
      intro n hn
      cases hn

theorem Step.bills {c : Call} (h : CampusConnect.Step cfg s c s') {e : ActualExpense}
    (he : e ∈ s'.expenses) : BillFrom c.env c.op s e.billDocumentId := by
  obtain ⟨a, hop, _⟩ := h.entered
  exact Op.bills hop he

end Bills

/-! ## 3. Uploads -/

/-- An invoice with a digest. -/
def StoredDocument.Bill (doc : StoredDocument) : Prop :=
  doc.documentType = .expenseInvoice ∧ doc.fileHash ≠ none

instance (doc : StoredDocument) : Decidable doc.Bill := inferInstanceAs (Decidable (_ ∧ _))

/-- **What the document service does to the table.** A bill is added for an event when no other event
    has one of its content, and a document is retired while its proposal is edited. -/
inductive Filing (files : FileSettings) (requests : List EventRequest) (events : List Event)
    (t : Table StoredDocument) : Table StoredDocument → Prop where
  | kept : Filing files requests events t t
  | added (doc : StoredDocument) (t' : Table StoredDocument) (hbill : ¬ doc.Bill)
      (hins : t.insert doc = some t') : Filing files requests events t t'
  | billed (doc : StoredDocument) (event : Event) (t' : Table StoredDocument)
      (hev : event ∈ events) (hid : doc.eventId = some event.id)
      (hreq : doc.eventRequestId = some event.eventRequestId) (hactive : doc.isActive = true)
      (hhash : doc.fileHash = some (files.sha256 doc.content))
      (hfirst : ∀ other ∈ t, DocumentService.BillOf (files.sha256 doc.content) other →
        ∀ id ∈ other.eventId, id = event.id)
      (hins : t.insert doc = some t') : Filing files requests events t t'
  | retired (doc : StoredDocument) (request : EventRequest) (t' : Table StoredDocument)
      (hdoc : doc ∈ t) (hrequest : request ∈ requests) (hed : request.Editable)
      (hreq : doc.eventRequestId = some request.id)
      (hrep : t.replace { doc with isActive := false } = some t') :
      Filing files requests events t t'

section Uploads

variable {files : FileSettings} {env : Env} {actor : User} {newId eventId : Uuid} {f : Filed}
  {requests : List EventRequest} {events : List Event} {t : Table StoredDocument}

open DocumentService

theorem insertDocument_accepts {action : AuditAction} {newState : StateDict} {doc : StoredDocument}
    (h : insertDocument env actor action newState doc t = .ok f) : t.insert doc = some f.documents := by
  simp only [insertDocument, bind_accepts, fetch_accepts, pure_accepts] at h
  obtain ⟨t', hins, rfl⟩ := h
  exact hins

theorem uploadDocument_files {file : UploadFile} {documentType : DocumentType}
    (h : uploadDocument files env actor newId eventId file documentType requests t = .ok f) :
    Filing files requests events t f.documents := by
  simp only [uploadDocument, bind_accepts, exists_unit] at h
  obtain ⟨_, _, _, _, _, _, _, hstore⟩ := h
  exact .added _ f.documents (fun hbill => hbill.2 rfl) (insertDocument_accepts hstore)

theorem uploadPostEventEvidence_files {file : UploadFile} {documentType : DocumentType}
    {geo : GeoTag}
    (h : uploadPostEventEvidence files env actor newId eventId file documentType geo events t =
      .ok f) : Filing files requests events t f.documents := by
  simp only [uploadPostEventEvidence, bind_accepts, exists_unit] at h
  obtain ⟨_, _, _, _, _, _, _, _, _, hstore⟩ := h
  exact .added _ f.documents (fun hbill => hbill.2 rfl) (insertDocument_accepts hstore)

theorem confirmedEvent_mem {event : Event} (h : confirmedEvent events eventId = .ok event) :
    event ∈ events := by
  unfold confirmedEvent at h
  rw [fetch_accepts] at h
  exact List.mem_of_find?_eq_some h

theorem uploadExpenseInvoice_files {file : UploadFile}
    (h : uploadExpenseInvoice files env actor newId eventId file events t = .ok f) :
    Filing files requests events t f.documents := by
  simp only [uploadExpenseInvoice, bind_accepts, exists_unit, refuse_accepts] at h
  obtain ⟨event, hev, _, _, _, hother, h⟩ := h
  split at h
  · -- the event has the bill already
    cases h
    exact .kept
  · refine .billed _ event f.documents (confirmedEvent_mem hev) rfl rfl rfl rfl ?_
      (insertDocument_accepts h)
    intro other hmem hbill id hid
    by_contra hne
    exact hother ⟨other, hmem, hbill, id, hid, hne⟩

theorem uploadIncomeEvidence_files {file : UploadFile}
    (h : uploadIncomeEvidence files env actor newId eventId file events t = .ok f) :
    Filing files requests events t f.documents := by
  simp only [uploadIncomeEvidence, bind_accepts, exists_unit] at h
  obtain ⟨_, _, _, _, _, hstore⟩ := h
  refine .added _ f.documents ?_ (insertDocument_accepts hstore)
  intro hex
  obtain ⟨htype, _⟩ := hex
  cases htype

theorem uploadSettlementPaymentProof_files {file : UploadFile}
    (h : uploadSettlementPaymentProof files env actor newId eventId file events t = .ok f) :
    Filing files requests events t f.documents := by
  simp only [uploadSettlementPaymentProof, bind_accepts, exists_unit] at h
  obtain ⟨_, _, _, _, _, hstore⟩ := h
  refine .added _ f.documents ?_ (insertDocument_accepts hstore)
  intro hex
  obtain ⟨htype, _⟩ := hex
  cases htype

/-- A deletion retires a document of a proposal that is edited. -/
theorem deleteDocument_retires {docId : Uuid}
    (h : deleteDocument env actor eventId docId requests t = .ok f) :
    ∃ doc ∈ t, ∃ request ∈ requests, request.Editable ∧ doc.eventRequestId = some request.id ∧
      t.replace { doc with isActive := false } = some f.documents := by
  simp only [deleteDocument, eventRequest, verifyUploadPermission, bind_accepts, exists_unit,
    fetch_accepts, refuse_accepts, pure_accepts, not_not] at h
  obtain ⟨request, hrequest, ⟨hed, _⟩, doc, hdoc, t', hrep, rfl⟩ := h
  obtain ⟨hfind, hown⟩ := Option.filter_eq_some_iff.mp hdoc
  simp only [decide_eq_true_eq] at hown
  have hid : request.id = eventId := by
    have hsel := List.find?_some hrequest
    simpa using hsel
  refine ⟨doc, Table.mem_of_find hfind, request, List.mem_of_find?_eq_some hrequest, hed, ?_, hrep⟩
  rw [hid]
  exact hown.1

theorem deleteDocument_files {docId : Uuid}
    (h : deleteDocument env actor eventId docId requests t = .ok f) :
    Filing files requests events t f.documents := by
  obtain ⟨doc, hdoc, request, hrequest, hed, hreq, hrep⟩ := deleteDocument_retires h
  exact .retired doc request f.documents hdoc hrequest hed hreq hrep

/-- **Every accepted upload is one of these.** -/
theorem Upload.exec_files {u : Upload} {w : Registry}
    (h : u.exec files env actor newId eventId w = .ok f) :
    Filing files w.requests w.events w.documents f.documents := by
  cases u with
  | document file documentType => exact uploadDocument_files h
  | postEventEvidence file documentType geo => exact uploadPostEventEvidence_files h
  | expenseInvoice file => exact uploadExpenseInvoice_files h
  | incomeEvidence file => exact uploadIncomeEvidence_files h
  | settlementPaymentProof file => exact uploadSettlementPaymentProof_files h

end Uploads

/-! ## 4. The registry -/

/-- **The keys**: every dossier is in standing with its own event, and no two have a key in common. -/
structure Keyed (w : Registry) : Prop where
  standing : ∀ (i : Nat) (d : Dossier), w.dossiers[i]? = some d → InStanding d ∧ d.Own
  requests : ∀ (i j : Nat) (d e : Dossier), w.dossiers[i]? = some d → w.dossiers[j]? = some e →
    d.proposal.request.id = e.proposal.request.id → i = j
  events : ∀ (i j : Nat) (s t : State), w.dossiers[i]? = some (.confirmed s) →
    w.dossiers[j]? = some (.confirmed t) → s.event.id = t.event.id → i = j

/-- **The bills**: each is active, with its digest, and belongs to an event; those of two events differ
    in content; and every expense has a bill of its own event. -/
structure Ledgered (files : FileSettings) (w : Registry) : Prop where
  intact : ∀ doc ∈ w.documents, doc.Bill →
    doc.isActive = true ∧ doc.fileHash = some (files.sha256 doc.content)
  owned : ∀ doc ∈ w.documents, doc.Bill → ∃ (i : Nat) (s : State),
    w.dossiers[i]? = some (.confirmed s) ∧ doc.eventId = some s.event.id ∧
      doc.eventRequestId = some s.event.eventRequestId
  apart : ∀ doc ∈ w.documents, ∀ other ∈ w.documents, doc.Bill → other.Bill →
    doc.content = other.content → doc.eventId = other.eventId
  attached : ∀ (i : Nat) (s : State), w.dossiers[i]? = some (.confirmed s) → ∀ e ∈ s.expenses,
    ∃ doc ∈ w.documents, doc.id = e.billDocumentId ∧ doc.Bill ∧ doc.eventId = some s.event.id

/-- Every bill attached is an invoice with a digest. -/
def Visit.Invoiced (w : Registry) : Visit → Prop
  | .request _ (.event c) => ∀ id ∈ c.op.attaches, ∀ doc ∈ w.documents.rows, doc.id = id → doc.Bill
  | _ => True

instance (w : Registry) : (v : Visit) → Decidable (v.Invoiced w)
  | .request _ (.event c) =>
      inferInstanceAs (Decidable (∀ id ∈ c.op.attaches, ∀ doc ∈ w.documents.rows, _))
  | .request _ (.review _ _ _) => inferInstanceAs (Decidable True)
  | .draft _ _ _ _ => inferInstanceAs (Decidable True)
  | .upload _ _ _ _ _ => inferInstanceAs (Decidable True)
  | .deleteDocument _ _ _ _ => inferInstanceAs (Decidable True)

section Registries

variable {cfg : Config} {files : FileSettings} {w w' : Registry}

theorem Registry.mem_events {e : Event} (h : e ∈ w.events) :
    ∃ (i : Nat) (s : State), w.dossiers[i]? = some (.confirmed s) ∧ s.event = e := by
  obtain ⟨d, hd, he⟩ := List.mem_filterMap.mp h
  obtain ⟨i, hi⟩ := List.mem_iff_getElem?.mp hd
  cases d with
  | proposed p logs => cases he
  | confirmed s =>
      cases he
      exact ⟨i, s, hi, rfl⟩

theorem Registry.mem_requests {r : EventRequest} (h : r ∈ w.requests) :
    ∃ (i : Nat) (d : Dossier), w.dossiers[i]? = some d ∧ d.proposal.request = r := by
  obtain ⟨d, hd, hr⟩ := List.mem_map.mp h
  obtain ⟨i, hi⟩ := List.mem_iff_getElem?.mp hd
  exact ⟨i, d, hi, hr⟩

/-- A dossier of the registry after a change of the `i`-th. -/
theorem Registry.get_update {i j : Nat} {d d' e : Dossier} (hd : w.dossiers[i]? = some d)
    (h : (w.update i d').dossiers[j]? = some e) :
    (j = i ∧ e = d') ∨ (j ≠ i ∧ w.dossiers[j]? = some e) := by
  unfold Registry.update at h
  rw [List.getElem?_set] at h
  by_cases hij : i = j
  · rw [if_pos hij, if_pos (List.getElem?_eq_some_iff.mp hd).1] at h
    exact .inl ⟨hij.symm, (Option.some.inj h).symm⟩
  · rw [if_neg hij] at h
    exact .inr ⟨fun hji => hij hji.symm, h⟩

/-- A dossier of the registry with one more. -/
theorem Registry.get_add {j : Nat} {d e : Dossier} (h : (w.add d).dossiers[j]? = some e) :
    (j = w.dossiers.length ∧ e = d) ∨ (j ≠ w.dossiers.length ∧ w.dossiers[j]? = some e) := by
  unfold Registry.add at h
  rcases Nat.lt_trichotomy j w.dossiers.length with hlt | heq | hgt
  · rw [List.getElem?_append_left hlt] at h
    exact .inr ⟨by omega, h⟩
  · rw [heq, List.getElem?_concat_length] at h
    exact .inl ⟨heq, (Option.some.inj h).symm⟩
  · rw [List.getElem?_eq_none (by rw [List.length_append, List.length_singleton]; omega)] at h
    cases h

/-- **What an accepted visit does**: a new draft, a request on one dossier, or a filing. -/
inductive RegistryStep (cfg : Config) (files : FileSettings) (w : Registry) :
    Visit → Registry → Prop where
  | drafted (v : Visit) (d : Dossier) (hd : Drafted d)
      (hfresh : ∀ r ∈ w.requests, r.id ≠ d.proposal.request.id) :
      RegistryStep cfg files w v (w.add d)
  | requested (i : Nat) (r : Request) (d d' : Dossier) (hd : w.dossiers[i]? = some d)
      (hstep : Traced cfg d (r.within w i) d')
      (hfresh : ∀ (j : Nat) (s t : State), j ≠ i → w.dossiers[j]? = some (.confirmed t) →
        d' = .confirmed s → t.event.id ≠ s.event.id)
      (hrows : ∀ (j : Nat) (o : Dossier), j ≠ i → w.dossiers[j]? = some o →
        ∀ e ∈ Registry.expensesOf d', ∀ f ∈ Registry.expensesOf o, f.id ≠ e.id) :
      RegistryStep cfg files w (.request i r) (w.update i d')
  | filed (v : Visit) (f : Filed)
      (h : Filing files w.requests w.events w.documents f.documents) :
      RegistryStep cfg files w v (w.file f)

theorem Registry.Step.step {v : Visit} (h : Registry.Step cfg files w v w') :
    RegistryStep cfg files w v w' := by
  unfold Registry.Step Registry.exec at h
  cases v with
  | draft env actor newId eventIn =>
      simp only [bind_accepts, refuse_accepts, exists_unit, pure_accepts] at h
      obtain ⟨d, hd, hfresh, rfl⟩ := h
      refine .drafted _ d ⟨env, actor, newId, eventIn, hd⟩ fun r hr hid => ?_
      exact hfresh ⟨r, hr, hid⟩
  | request i r =>
      simp only [bind_accepts, fetch_accepts, refuse_accepts, exists_unit, pure_accepts] at h
      obtain ⟨d, hd, d', hd', hfresh, hrows, rfl⟩ := h
      refine .requested i r d d' hd (Dossier.Step.traced hd') ?_ ?_
      · intro j s t hj ht hs hid
        refine hfresh ⟨s.event, ?_, t.event, ?_, hid⟩
        · rw [hs]
          rfl
        · refine List.mem_filterMap.mpr ⟨.confirmed t, ?_, rfl⟩
          exact List.mem_eraseIdx_iff_getElem?.mpr ⟨j, hj, ht⟩
      · intro j o hj ho e he f hf hid
        refine hrows ⟨e, he, f, List.mem_flatMap.mpr ⟨o, ?_, hf⟩, hid⟩
        exact List.mem_eraseIdx_iff_getElem?.mpr ⟨j, hj, ho⟩
  | upload env actor newId eventId u =>
      simp only [bind_accepts, pure_accepts] at h
      obtain ⟨f, hf, rfl⟩ := h
      exact .filed _ f (Upload.exec_files hf)
  | deleteDocument env actor eventId docId =>
      simp only [bind_accepts, pure_accepts] at h
      obtain ⟨f, hf, rfl⟩ := h
      exact .filed _ f (deleteDocument_files hf)

/-- The keys of the `i`-th dossier are those it had. -/
theorem Keyed.updated {i : Nat} {r : Request} {d d' : Dossier} (h : Keyed w)
    (hd : w.dossiers[i]? = some d) (hstep : Traced cfg d r d')
    (hfresh : ∀ (j : Nat) (s t : State), j ≠ i → w.dossiers[j]? = some (.confirmed t) →
      d' = .confirmed s → t.event.id ≠ s.event.id) : Keyed (w.update i d') := by
  obtain ⟨hin, hown⟩ := h.standing i d hd
  obtain ⟨hid, hown'⟩ := hstep.keys hin hown
  -- each dossier has the proposal key of the one it was
  have hsame : ∀ (j : Nat) (e : Dossier), (w.update i d').dossiers[j]? = some e →
      ∃ e0, w.dossiers[j]? = some e0 ∧ e.proposal.request.id = e0.proposal.request.id := by
    intro j e he
    rcases Registry.get_update hd he with ⟨rfl, rfl⟩ | ⟨_, he⟩
    · exact ⟨d, hd, hid⟩
    · exact ⟨e, he, rfl⟩
  constructor
  · intro j e he
    rcases Registry.get_update hd he with ⟨rfl, rfl⟩ | ⟨_, he⟩
    · exact ⟨hin.step hstep, hown'⟩
    · exact h.standing j e he
  · intro j k e f he hf hkey
    obtain ⟨e0, he0, hide⟩ := hsame j e he
    obtain ⟨f0, hf0, hidf⟩ := hsame k f hf
    exact h.requests j k e0 f0 he0 hf0 (hide.symm.trans (hkey.trans hidf))
  · intro j k s t hs ht hkey
    rcases Registry.get_update hd hs with ⟨hj, hs⟩ | ⟨hj, hs⟩
    · rcases Registry.get_update hd ht with ⟨hk, ht⟩ | ⟨hk, ht⟩
      · exact hj.trans hk.symm
      · exact (hfresh k s t hk ht hs.symm hkey.symm).elim
    · rcases Registry.get_update hd ht with ⟨hk, ht⟩ | ⟨hk, ht⟩
      · exact (hfresh j t s hj hs ht.symm hkey).elim
      · exact h.events j k s t hs ht hkey

theorem Keyed.added {d : Dossier} (h : Keyed w) (hd : Drafted d)
    (hfresh : ∀ r ∈ w.requests, r.id ≠ d.proposal.request.id) : Keyed (w.add d) := by
  have hnew : ∀ (j : Nat) (e : Dossier), w.dossiers[j]? = some e →
      e.proposal.request.id ≠ d.proposal.request.id := by
    intro j e he
    exact hfresh _ (List.mem_map.mpr ⟨e, List.mem_of_getElem? he, rfl⟩)
  constructor
  · intro j e he
    rcases Registry.get_add he with ⟨_, rfl⟩ | ⟨_, he⟩
    · exact ⟨hd.inStanding, hd.own⟩
    · exact h.standing j e he
  · intro j k e f he hf hkey
    rcases Registry.get_add he with ⟨hj, hde⟩ | ⟨_, hold⟩
    · rcases Registry.get_add hf with ⟨hk, _⟩ | ⟨_, hold⟩
      · exact hj.trans hk.symm
      · rw [hde] at hkey
        exact (hnew k f hold hkey.symm).elim
    · rcases Registry.get_add hf with ⟨_, hdf⟩ | ⟨_, hold'⟩
      · rw [hdf] at hkey
        exact (hnew j e hold hkey).elim
      · exact h.requests j k e f hold hold' hkey
  · intro j k s t hs ht hkey
    rcases Registry.get_add hs with ⟨_, hs⟩ | ⟨_, hs⟩
    · exact (hd.proposed s hs.symm).elim
    · rcases Registry.get_add ht with ⟨_, ht⟩ | ⟨_, ht⟩
      · exact (hd.proposed t ht.symm).elim
      · exact h.events j k s t hs ht hkey

theorem RegistryStep.keyed {v : Visit} (h : Keyed w) (hs : RegistryStep cfg files w v w') :
    Keyed w' := by
  cases hs with
  | drafted v d hd hfresh => exact h.added hd hfresh
  | requested i r d d' hd hstep hfresh hrows => exact h.updated hd hstep hfresh
  | filed v f hf => exact ⟨h.standing, h.requests, h.events⟩

/-- A confirmed dossier stays confirmed, with its event's keys. -/
theorem Traced.confirmed {s : State} {r : Request} {d' : Dossier}
    (hs : Traced cfg (.confirmed s) r d') : ∃ s', d' = .confirmed s' ∧
      s'.event.id = s.event.id ∧ s'.event.eventRequestId = s.event.eventRequestId := by
  cases hs with
  | review env actor op _ q entries hstep => exact ⟨_, rfl, rfl, rfl⟩
  | event c _ s' hstep => exact ⟨s', rfl, hstep.event_keys⟩

/-- A flush leaves the expenses of an event, and opens a new one without any. -/
theorem Dossier.flushed_confirmed {d : Dossier} {q : Proposal} {event : Option Event}
    {entries : List AuditEntry} {s' : State} (h : d.flushed q event entries = .confirmed s') :
    (∃ s, d = .confirmed s ∧ s'.expenses = s.expenses ∧ s'.event = s.event) ∨
      s'.expenses = Table.empty := by
  cases d with
  | proposed p logs =>
      cases event with
      | none => cases h
      | some e =>
          cases h
          exact .inr rfl
  | confirmed s =>
      cases h
      exact .inl ⟨s, rfl, rfl, rfl⟩

/-- **The bills of a dossier after a request**: none on a new event; else its old ones, and what a call
    has attached. -/
theorem Traced.bills {d : Dossier} {r : Request} {s' : State} (hs : Traced cfg d r (.confirmed s'))
    {e : ActualExpense} (he : e ∈ s'.expenses) :
    ∃ s, d = .confirmed s ∧ s'.event.id = s.event.id ∧
      ((∃ old ∈ s.expenses, old.billDocumentId = e.billDocumentId) ∨
        ∃ c, r = .event c ∧ c.op.attaches = some e.billDocumentId ∧
          ∃ doc, c.env.activeDocument e.billDocumentId = some doc ∧ doc.BelongsTo s.event) := by
  generalize hd' : Dossier.confirmed s' = d' at hs
  cases hs with
  | review env actor op d q entries hstep =>
      rcases Dossier.flushed_confirmed hd'.symm with ⟨s, rfl, hexp, hev⟩ | hexp
      · rw [hexp] at he
        exact ⟨s, rfl, congrArg Event.id hev, .inl ⟨e, he, rfl⟩⟩
      · rw [hexp] at he
        cases he
  | withdrawn c p logs entries hst => cases hd'
  | event c s s'' hstep =>
      cases hd'
      refine ⟨s, rfl, hstep.event_keys.1, ?_⟩
      rcases hstep.bills he with hold | ⟨hatt, hdoc⟩
      · exact .inl hold
      · exact .inr ⟨c, rfl, hatt, hdoc⟩

theorem Ledgered.updated {i : Nat} {r : Request} {d d' : Dossier} (hk : Keyed w)
    (h : Ledgered files w) (hd : w.dossiers[i]? = some d)
    (hstep : Traced cfg d (r.within w i) d') (hv : (Visit.request i r).Invoiced w) :
    Ledgered files (w.update i d') := by
  constructor
  · exact h.intact
  · intro doc hdoc hbill
    obtain ⟨j, s, hs, hev, hreq⟩ := h.owned doc hdoc hbill
    by_cases hj : j = i
    · rw [hj, hd] at hs
      cases hs
      obtain ⟨s', rfl, hid, hrid⟩ := hstep.confirmed
      refine ⟨i, s', ?_, ?_, ?_⟩
      · exact List.getElem?_set_self (List.getElem?_eq_some_iff.mp hd).1
      · rw [hev, hid]
      · rw [hreq, hrid]
    · refine ⟨j, s, ?_, hev, hreq⟩
      unfold Registry.update
      rw [List.getElem?_set_ne (fun hij => hj hij.symm)]
      exact hs
  · exact h.apart
  · intro j s' hs' e he
    rcases Registry.get_update hd hs' with ⟨rfl, rfl⟩ | ⟨_, hs'⟩
    · obtain ⟨s, rfl, hid, hfrom⟩ := hstep.bills he
      rcases hfrom with ⟨old, hold, hbill⟩ | ⟨c, hc, hatt, doc, hdoc, hown⟩
      · obtain ⟨doc, hdoc, hkey, hb, hev⟩ := h.attached j s hd old hold
        exact ⟨doc, hdoc, hkey.trans hbill, hb, hev.trans (congrArg some hid.symm)⟩
      · cases r with
        | review env actor op => cases hc
        | event c0 =>
            cases hc
            -- the document read is a row of the table
            have hsel := List.find?_some hdoc
            simp only [decide_eq_true_eq] at hsel
            obtain ⟨stored, hstored, rfl⟩ := List.mem_map.mp (List.mem_of_find?_eq_some hdoc)
            have hb : stored.Bill := hv _ hatt stored hstored hsel.1
            obtain ⟨k, t, ht, hev, hreq⟩ := h.owned stored hstored hb
            have hjk : j = k := by
              rcases hown with hown | hown
              · refine hk.events j k s t hd ht ?_
                exact Option.some.inj (hown.symm.trans hev)
              · refine hk.requests j k _ _ hd ht ?_
                have hs := (hk.standing j _ hd).2 s.event rfl
                have ht := (hk.standing k _ ht).2 t.event rfl
                rw [← hs, ← ht]
                exact Option.some.inj (hown.symm.trans hreq)
            rw [hjk, ht] at hd
            cases hd
            exact ⟨stored, hstored, hsel.1, hb, hev.trans (congrArg some hid.symm)⟩
    · exact h.attached j s' hs' e he

theorem Ledgered.added {d : Dossier} (h : Ledgered files w) (hd : ∀ s, d ≠ .confirmed s) :
    Ledgered files (w.add d) := by
  constructor
  · exact h.intact
  · intro doc hdoc hbill
    obtain ⟨i, s, hs, hev, hreq⟩ := h.owned doc hdoc hbill
    refine ⟨i, s, ?_, hev, hreq⟩
    unfold Registry.add
    rw [List.getElem?_append_left (List.getElem?_eq_some_iff.mp hs).1]
    exact hs
  · exact h.apart
  · intro j s hs e he
    rcases Registry.get_add hs with ⟨_, hs⟩ | ⟨_, hs⟩
    · exact (hd s hs.symm).elim
    · exact h.attached j s hs e he

/-- A filing that leaves the bills. -/
theorem Ledgered.same_bills {f : Filed} (h : Ledgered files w)
    (hsame : ∀ doc : StoredDocument, doc.Bill → (doc ∈ f.documents ↔ doc ∈ w.documents)) :
    Ledgered files (w.file f) := by
  constructor
  · intro doc hdoc hbill
    exact h.intact doc ((hsame doc hbill).mp hdoc) hbill
  · intro doc hdoc hbill
    exact h.owned doc ((hsame doc hbill).mp hdoc) hbill
  · intro doc hdoc other hother hbill hbill'
    exact h.apart doc ((hsame doc hbill).mp hdoc) other ((hsame other hbill').mp hother) hbill hbill'
  · intro i s hs e he
    obtain ⟨doc, hdoc, hid, hbill, hev⟩ := h.attached i s hs e he
    exact ⟨doc, (hsame doc hbill).mpr hdoc, hid, hbill, hev⟩

/-- A document that can be retired is no bill: the proposal of a bill is approved. -/
theorem Ledgered.not_retired (hk : Keyed w) (h : Ledgered files w) {doc : StoredDocument}
    {request : EventRequest} (hdoc : doc ∈ w.documents) (hrequest : request ∈ w.requests)
    (hed : request.Editable) (hreq : doc.eventRequestId = some request.id) : ¬ doc.Bill := by
  intro hbill
  obtain ⟨i, s, hs, _, hown⟩ := h.owned doc hdoc hbill
  obtain ⟨j, d, hd, rfl⟩ := Registry.mem_requests hrequest
  obtain ⟨hin, hs'⟩ := hk.standing i _ hs
  have hij : i = j := by
    refine hk.requests i j _ _ hs hd ?_
    rw [← hs' s.event rfl]
    exact Option.some.inj (hown.symm.trans hreq)
  rw [← hij, hs] at hd
  cases hd
  exact hin.not_editable hed

/-- A new bill, of an event none of whose fellows has its content. -/
theorem Ledgered.billed {f : Filed} {doc : StoredDocument} {event : Event} (h : Ledgered files w)
    (hev : event ∈ w.events) (hid : doc.eventId = some event.id)
    (hreq : doc.eventRequestId = some event.eventRequestId) (hactive : doc.isActive = true)
    (hhash : doc.fileHash = some (files.sha256 doc.content))
    (hfirst : ∀ other ∈ w.documents, DocumentService.BillOf (files.sha256 doc.content) other →
      ∀ id ∈ other.eventId, id = event.id)
    (hins : w.documents.insert doc = some f.documents) : Ledgered files (w.file f) := by
  have hmem : ∀ other, other ∈ f.documents ↔ other ∈ w.documents ∨ other = doc := fun other =>
    Table.mem_insert hins
  -- an older bill of this content has the digest that was looked for
  have hsame : ∀ other ∈ w.documents, other.Bill → other.content = doc.content →
      other.eventId = doc.eventId := by
    intro other hother hbill hcontent
    obtain ⟨hact, hdigest⟩ := h.intact other hother hbill
    obtain ⟨i, s, _, hown, _⟩ := h.owned other hother hbill
    rw [hcontent] at hdigest
    have hfound := hfirst other hother ⟨hdigest, hbill.1, hact⟩ s.event.id hown
    rw [hown, hid, hfound]
  constructor
  · intro other hother hbill
    rcases (hmem other).mp hother with hold | rfl
    · exact h.intact other hold hbill
    · exact ⟨hactive, hhash⟩
  · intro other hother hbill
    rcases (hmem other).mp hother with hold | rfl
    · exact h.owned other hold hbill
    · obtain ⟨i, s, hs, rfl⟩ := Registry.mem_events hev
      exact ⟨i, s, hs, hid, hreq⟩
  · intro a ha b hb hbilla hbillb hcontent
    rcases (hmem a).mp ha with hola | rfl
    · rcases (hmem b).mp hb with holb | rfl
      · exact h.apart a hola b holb hbilla hbillb hcontent
      · exact hsame a hola hbilla hcontent
    · rcases (hmem b).mp hb with holb | rfl
      · exact (hsame b holb hbillb hcontent.symm).symm
      · rfl
  · intro i s hs e he
    obtain ⟨other, hother, hkey, hbill, hown⟩ := h.attached i s hs e he
    exact ⟨other, (hmem other).mpr (.inl hother), hkey, hbill, hown⟩

theorem Ledgered.filed {f : Filed} (hk : Keyed w) (h : Ledgered files w)
    (hf : Filing files w.requests w.events w.documents f.documents) : Ledgered files (w.file f) := by
  generalize ht : f.documents = t at hf
  cases hf with
  | kept =>
      refine h.same_bills fun doc _ => ?_
      rw [ht]
  | added doc t' hno hins =>
      refine h.same_bills fun other hbill => ?_
      rw [ht, Table.mem_insert hins]
      constructor
      · intro hor
        rcases hor with hold | rfl
        · exact hold
        · exact (hno hbill).elim
      · exact .inl
  | billed doc event t' hev hid hreq hactive hhash hfirst hins =>
      rw [← ht] at hins
      exact h.billed hev hid hreq hactive hhash hfirst hins
  | retired doc request t' hdoc hrequest hed hreq hrep =>
      have hno : ¬ doc.Bill := h.not_retired hk hdoc hrequest hed hreq
      refine h.same_bills fun other hbill => ?_
      rw [ht]
      constructor
      · intro hother
        rcases Table.mem_replace hrep hother with rfl | hold
        · exact (hno hbill).elim
        · exact hold.1
      · intro hold
        refine Table.mem_replace_of_ne hrep hold fun hkey => ?_
        have hsame : other = doc := Table.eq_of_key_eq hold hdoc hkey
        rw [hsame] at hbill
        exact hno hbill

/-- **The step lemma.** -/
theorem RegistryStep.ledgered {v : Visit} (hk : Keyed w) (h : Ledgered files w)
    (hv : v.Invoiced w) (hs : RegistryStep cfg files w v w') : Ledgered files w' := by
  cases hs with
  | drafted v d hd hfresh => exact h.added hd.proposed
  | requested i r d d' hd hstep hfresh hrows => exact h.updated hk hd hstep hv
  | filed v f hf => exact h.filed hk hf

theorem Registry.Empty.ledgered (h : Registry.Empty w) : Keyed w ∧ Ledgered files w := by
  unfold Registry.Empty at h
  rw [h]
  refine ⟨⟨?_, ?_, ?_⟩, ⟨?_, ?_, ?_, ?_⟩⟩
  · exact fun i d hd => nomatch hd
  · exact fun i j d e hd => nomatch hd
  · exact fun i j s t hs => nomatch hs
  · exact fun doc hdoc => nomatch hdoc
  · exact fun doc hdoc => nomatch hdoc
  · exact fun doc hdoc => nomatch hdoc
  · exact fun i s hs => nomatch hs

/-! ## 5. The law -/

/-- **No two events have an expense, not disallowed, on documents of one content.** -/
def OneBillOneEvent (w : Registry) : Prop :=
  ∀ (i j : Nat) (s t : State), w.dossiers[i]? = some (.confirmed s) →
    w.dossiers[j]? = some (.confirmed t) → ∀ e ∈ s.expenses, ∀ f ∈ t.expenses,
      e.status ≠ .disallowed → f.status ≠ .disallowed → ∀ a ∈ w.documents, ∀ b ∈ w.documents,
        a.id = e.billDocumentId → b.id = f.billDocumentId → a.content = b.content → i = j

theorem Ledgered.one_bill (hk : Keyed w) (h : Ledgered files w) : OneBillOneEvent w := by
  intro i j s t hs ht e he f hf _ _ a ha b hb hida hidb hcontent
  obtain ⟨doc, hdoc, hid, hbill, hown⟩ := h.attached i s hs e he
  obtain ⟨doc', hdoc', hid', hbill', hown'⟩ := h.attached j t ht f hf
  have hda : doc = a := Table.eq_of_key_eq hdoc ha (hid.trans hida.symm)
  have hdb : doc' = b := Table.eq_of_key_eq hdoc' hb (hid'.trans hidb.symm)
  rw [← hda, ← hdb] at hcontent
  have hsame := h.apart doc hdoc doc' hdoc' hbill hbill' hcontent
  refine hk.events i j s t hs ht ?_
  exact Option.some.inj (hown.symm.trans (hsame.trans hown'))

/-- **One bill, one event.** In every run from an empty database in which each bill attached to an
    expense is an invoice with a digest, as `upload_expense_invoice` stores it. -/
theorem one_bill_one_event (cfg : Config) (files : FileSettings) {w : Registry}
    (h : Runs.Reach Registry.Empty (Runs.restrict (Registry.Step cfg files) fun w v => v.Invoiced w)
      w) : OneBillOneEvent w := by
  have hboth : Keyed w ∧ Ledgered files w := by
    refine Runs.Reach.invariant (P := fun w => Keyed w ∧ Ledgered files w) ?_ ?_ h
    · intro w hw
      exact hw.ledgered
    · intro w v w' ⟨hk, hl⟩ ⟨hstep, hv⟩
      exact ⟨hstep.step.keyed hk, hstep.step.ledgered hk hl hv⟩
  exact hboth.2.one_bill hboth.1

end Registries

namespace Sample

/-- The digest keeps every byte. -/
def files : FileSettings where
  allowedExtensions := ["pdf".toList, "docx".toList]
  maxFileSizeBytes := 100
  lower := id
  sha256 content := content.map fun byte => Char.ofNat byte.toNat

/-- A PDF file of one more byte. -/
def pdf (byte : UInt8) : UploadFile where
  filename := some "bill.pdf".toList
  content := [0x25, 0x50, 0x44, 0x46, 0x2D, byte]

/-- The last approval creates the event `n`. -/
def sanctionAs (n : Nat) : Request :=
  .review (reviewEnv staff) principal (.approveStep (uid 316) none (uid 400) (uid n))

/-- The `i`-th proposal, with the key `n`, is approved, its event gets the key `n + 1` and is completed. -/
def hold (i n : Nat) : List Visit :=
  .draft env secretary (uid n)
      { clubId := uid 13
        title := "event".toList
        eventType := .workshop
        academicYear := "2025".toList } ::
    (plan ++ submit staff secretary 1 :: (approveAll 1).dropLast ++
      [sanctionAs (n + 1), .event complete]).map (Visit.request i)

/-- The secretary uploads a document, with the key `n + 2`, and claims an expense on it. -/
def claimOn (i n : Nat) (u : Upload) : List Visit :=
  [.upload env secretary (uid (n + 2)) (uid (n + 1)) u,
    .request i (.event (bySecretary (.createDraftExpense (uid (n + 3))
      { expenseIn with billDocumentId := uid (n + 2), invoiceNumber := none })))]

/-- Two events, each with an expense. -/
def twoClaims (first second : Upload) : List Visit :=
  hold 0 500 ++ hold 1 600 ++ claimOn 0 500 first ++ claimOn 1 600 second

/-- The expenses of the `i`-th event. -/
def expensesAt (w : Registry) (i : Nat) : List ActualExpense :=
  (w.dossiers[i]?.map Registry.expensesOf).getD []

theorem mem_expensesAt {w : Registry} {i : Nat} {e : ActualExpense} (h : e ∈ expensesAt w i) :
    ∃ s, w.dossiers[i]? = some (.confirmed s) ∧ e ∈ s.expenses := by
  unfold expensesAt at h
  cases hd : w.dossiers[i]? with
  | none =>
      rw [hd] at h
      cases h
  | some d =>
      rw [hd] at h
      cases d with
      | proposed p logs => cases h
      | confirmed s => exact ⟨s, rfl, h⟩

/-- Two expenses, not disallowed, on documents of one content. -/
def SameBill (documents : List StoredDocument) (x y : ActualExpense) : Prop :=
  x.status ≠ .disallowed ∧ y.status ≠ .disallowed ∧ ∃ a ∈ documents, ∃ b ∈ documents,
    a.id = x.billDocumentId ∧ b.id = y.billDocumentId ∧ a.content = b.content

instance (documents : List StoredDocument) (x y : ActualExpense) :
    Decidable (SameBill documents x y) :=
  inferInstanceAs (Decidable (_ ∧ _ ∧ ∃ a ∈ documents, ∃ b ∈ documents, _))

/-- The last state of a run from an empty database all of whose visits meet the condition. -/
def registryOnly (ok : Registry → Visit → Prop) [∀ w v, Decidable (ok w v)] (visits : List Visit) :
    Result Registry :=
  Runs.run (Runs.only ok noEvent (Registry.exec (config .sqlite) files)) visits Registry.empty

end Sample

/-- Two events claim expenses on two invoices. -/
theorem one_bill_one_event_claimed :
    ∃ w, Sample.expensesAt w 0 ≠ [] ∧ Sample.expensesAt w 1 ≠ [] ∧ OneBillOneEvent w := by
  have hrun : Runs.Ends (Sample.registryOnly (fun w v => v.Invoiced w)
      (Sample.twoClaims (.expenseInvoice (Sample.pdf 1)) (.expenseInvoice (Sample.pdf 2))))
      fun w => Sample.expensesAt w 0 ≠ [] ∧ Sample.expensesAt w 1 ≠ [] := by
    decide +kernel
  obtain ⟨w, hw, hfirst, hsecond⟩ := hrun
  have hreach : Runs.Reach Registry.Empty
      (Runs.restrict (Registry.Step (Sample.config .sqlite) Sample.files)
        fun w v => v.Invoiced w) w :=
    Runs.Reach.path (.start rfl) (Runs.path_of_run_only hw)
  exact ⟨w, hfirst, hsecond, one_bill_one_event (Sample.config .sqlite) Sample.files hreach⟩

/-- **The duplicate check is passed by**: the bill of one event is uploaded for another as evidence. -/
theorem one_bill_two_events :
    ∃ w, Registry.Reachable (Sample.config .sqlite) Sample.files w ∧ ¬ OneBillOneEvent w := by
  have hrun : Runs.Ends (Runs.run (Registry.exec (Sample.config .sqlite) Sample.files)
      (Sample.twoClaims (.expenseInvoice (Sample.pdf 1))
        (.postEventEvidence (Sample.pdf 1) .postEventPhoto {})) Registry.empty) fun w =>
      ∃ x ∈ Sample.expensesAt w 0, ∃ y ∈ Sample.expensesAt w 1,
        Sample.SameBill w.documents.rows x y := by
    decide +kernel
  obtain ⟨w, hw, x, hx, y, hy, hxd, hyd, a, ha, b, hb, hax, hby, hab⟩ := hrun
  refine ⟨w, Runs.Reach.path (.start rfl) (Runs.path_of_run hw), fun hone => ?_⟩
  obtain ⟨s, hs, hxs⟩ := Sample.mem_expensesAt hx
  obtain ⟨t, ht, hyt⟩ := Sample.mem_expensesAt hy
  cases hone 0 1 s t hs ht x hxs y hyt hxd hyd a ha b hb hax hby hab

end CampusConnect
