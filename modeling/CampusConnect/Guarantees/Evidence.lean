/-
  File:      CampusConnect/Guarantees/Evidence.lean
  Subject:   The PERMANENCE of the documents behind the ledger: bills, evidence of income and payment
             proofs.

  * `Refers`: the documents the rows of an event name, `Op.refers`: an operation names the documents it
    found named, or an active one of the event;
  * `Shelved`: what a visit does to the documents, with the place each new one gets;
  * `Evidenced`: each document lies where its event is, and each one named is active and belongs to the
    event that names it;
  * `evidence_permanence`: in every reachable state, and over everything that follows: a deletion asks
    for a proposal that can be edited, and a proposal with an event is approved.
-/
import CampusConnect.Guarantees.Bills

namespace CampusConnect

open Guarded Rows EventService SettlementService

/-! ## 1. References -/

/-- **A row of the event refers to the document.** -/
inductive Refers (s : State) : Uuid → Prop where
  | bill (e : ActualExpense) (he : e ∈ s.expenses) : Refers s e.billDocumentId
  | evidence (i : ActualIncome) (hi : i ∈ s.incomes) : Refers s i.evidenceDocumentId
  | proof (p : Stored SettlementPayment) (hp : p ∈ s.payments) : Refers s p.1.proofDocumentId

section References

variable {cfg : Config} {env : Env} {actor : User} {s s' : State} {id : Uuid}

theorem Refers.congr {t : State} (h : Refers s id) (he : s.expenses = t.expenses)
    (hi : s.incomes = t.incomes) (hp : s.payments = t.payments) : Refers t id := by
  cases h with
  | bill e hm => exact .bill e (he ▸ hm)
  | evidence i hm => exact .evidence i (hi ▸ hm)
  | proof p hm => exact .proof p (hp ▸ hm)

/-- An active document that belongs to the event. -/
def Filed.For (env : Env) (event : Event) (id : Uuid) : Prop :=
  ∃ doc, env.activeDocument id = some doc ∧ doc.BelongsTo event

/-- A rewritten income that keeps its evidence. -/
theorem evidence_replaced {old row : ActualIncome} {t : Table ActualIncome}
    (hold : old ∈ s.incomes) (hrep : s.incomes.replace row = some t)
    (hsame : row.evidenceDocumentId = old.evidenceDocumentId) {i : ActualIncome} (hi : i ∈ t) :
    Refers s i.evidenceDocumentId := by
  rcases Table.mem_replace hrep hi with rfl | hkept
  · rw [hsame]
    exact .evidence old hold
  · exact .evidence i hkept.1

/-- **Where the evidence of an income comes from.** -/
theorem Op.evidence {op : Op} (h : op.exec cfg env actor s = .ok s') {i : ActualIncome}
    (hi : i ∈ s'.incomes) :
    Refers s i.evidenceDocumentId ∨ Filed.For env s.event i.evidenceDocumentId := by
  have hrest : (∀ n, op.move ≠ .income n) → Refers s i.evidenceDocumentId := by
    intro hm
    rw [(Op.exec_effect h).incomes_kept hm] at hi
    exact .evidence i hi
  cases op with
  | recordIncome newId src amount description payer date documentId reference =>
      simp only [Op.exec, SettlementService.recordIncome, bind_accepts, refuse_accepts, fetch_accepts,
        exists_unit,
        pure_accepts, verifyEvidence_accepts] at h
      obtain ⟨_, _, _, _, _, _, _, ⟨doc, hdoc, _, hown⟩, t, hins, rfl⟩ := h
      rcases (Table.mem_insert hins).mp hi with hold | rfl
      · exact .inl (.evidence i hold)
      · exact .inr ⟨doc, hdoc, hown⟩
  | verifyIncome incomeId remarks =>
      simp only [Op.exec, SettlementService.verifyIncome, bind_accepts, refuse_accepts, fetch_accepts,
        exists_unit,
        pure_accepts] at h
      obtain ⟨_, income, hfind, _, _, _, t, hrep, rfl⟩ := h
      exact .inl (evidence_replaced (Table.mem_of_find hfind) hrep rfl hi)
  | rejectIncome incomeId reason remarks =>
      obtain ⟨_, income, hfind, _, _, _, t, hrep, rfl⟩ := rejectIncome_accepts.mp h
      exact .inl (evidence_replaced (Table.mem_of_find hfind) hrep rfl hi)
  | _ =>
      refine .inl (hrest ?_)
      intro n hn
      cases hn

theorem recordPayment_proof {settlementId newId : Uuid} {args : PaymentArgs}
    (h : recordPayment env actor settlementId newId args s = .ok s') :
    HasEvidence env s.event args.proofDocumentId .settlementPaymentProof := by
  simp only [recordPayment, bind_accepts, exists_unit, verifyEvidence_accepts] at h
  obtain ⟨_, _, _, _, _, _, _, _, _, _, hdoc, _⟩ := h
  exact hdoc

/-- **Where the proof of a payment comes from.** -/
theorem Op.proof {op : Op} (h : op.exec cfg env actor s = .ok s') {p : Stored SettlementPayment}
    (hp : p ∈ s'.payments) :
    Refers s p.1.proofDocumentId ∨ Filed.For env s.event p.1.proofDocumentId := by
  have hrest : op.move ≠ .settlement .paid → Refers s p.1.proofDocumentId := by
    intro hm
    rw [(Op.exec_effect h).payments_kept hm] at hp
    exact .proof p hp
  cases op with
  | recordPayment settlementId newId args =>
      obtain ⟨doc, hdoc, _, hown⟩ := recordPayment_proof h
      obtain ⟨r, row, paid, entries, _, _, _, _, _, _, _, hrow, _, rfl⟩ := recordPayment_paid h
      rcases List.mem_append.mp hp with hold | hnew
      · exact .inl (.proof p hold)
      · rw [List.mem_singleton.mp hnew, hrow]
        exact .inr ⟨doc, hdoc, hown⟩
  | _ =>
      refine .inl (hrest ?_)
      intro hm
      cases hm

/-- **The documents named after an operation** were named before, or are active and the event's own. -/
theorem Op.refers {op : Op} (h : op.exec cfg env actor s = .ok s') (hr : Refers s' id) :
    Refers s id ∨ Filed.For env s.event id := by
  cases hr with
  | bill e he =>
      rcases Op.bills h he with ⟨old, hold, hbill⟩ | ⟨_, hdoc⟩
      · exact .inl (hbill ▸ .bill old hold)
      · exact .inr hdoc
  | evidence i hi => exact Op.evidence h hi
  | proof p hp => exact Op.proof h hp

theorem Step.refers {c : Call} (h : CampusConnect.Step cfg s c s') (hr : Refers s' id) :
    Refers s id ∨ Filed.For c.env s.event id := by
  obtain ⟨a, hop, _⟩ := h.entered
  rcases Op.refers hop hr with hold | hdoc
  · exact .inl (hold.congr rfl rfl rfl)
  · exact .inr hdoc

/-- **The documents named after a request**: none by a new event; else those named before, and an active
    one of the event that a call names. -/
theorem Traced.refers {d : Dossier} {r : Request} (hs : Traced cfg d r (.confirmed s'))
    (hr : Refers s' id) : ∃ s, d = .confirmed s ∧
      (Refers s id ∨ ∃ c, r = .event c ∧ Filed.For c.env s.event id) := by
  generalize hd' : Dossier.confirmed s' = d' at hs
  cases hs with
  | review env actor op d q entries hstep =>
      cases d with
      | confirmed s =>
          cases hd'
          exact ⟨s, rfl, .inl (hr.congr rfl rfl rfl)⟩
      | proposed p logs =>
          unfold Dossier.flushed at hd'
          simp only at hd'
          split at hd'
          · cases hd'
          · cases hd'
            cases hr with
            | bill e he => cases he
            | evidence i hi => cases hi
            | proof p hp => cases hp
  | withdrawn c p logs entries hst => cases hd'
  | event c s s'' hstep =>
      cases hd'
      refine ⟨s, rfl, ?_⟩
      rcases hstep.refers hr with hold | hdoc
      · exact .inl hold
      · exact .inr ⟨c, rfl, hdoc⟩

end References

/-! ## 2. The shelf -/

/-- The document lies at an event: it names the event with its proposal. -/
def PlacedAt (events : List Event) (doc : StoredDocument) : Prop :=
  ∀ id, doc.eventId = some id →
    ∃ event ∈ events, event.id = id ∧ doc.eventRequestId = some event.eventRequestId

/-- **What a visit does to the documents**: nothing, one more in its place, or one of a proposal that is
    edited is retired. -/
inductive Shelved (w : Registry) : Table StoredDocument → Prop where
  | kept : Shelved w w.documents
  | added (doc : StoredDocument) (t : Table StoredDocument) (hplace : PlacedAt w.events doc)
      (hins : w.documents.insert doc = some t) : Shelved w t
  | retired (doc : StoredDocument) (request : EventRequest) (t : Table StoredDocument)
      (hdoc : doc ∈ w.documents) (hrequest : request ∈ w.requests) (hed : request.Editable)
      (hreq : doc.eventRequestId = some request.id)
      (hrep : w.documents.replace { doc with isActive := false } = some t) : Shelved w t

section Shelf

variable {cfg : Config} {files : FileSettings} {w w' : Registry} {env : Env} {actor : User}
  {newId eventId : Uuid} {f : Filed}

open DocumentService

/-- A row of an event. -/
theorem placedAt_own {events : List Event} {event : Event} {doc : StoredDocument} (h : event ∈ events)
    (hid : doc.eventId = some event.id) (hreq : doc.eventRequestId = some event.eventRequestId) :
    PlacedAt events doc := by
  intro id hdoc
  rw [hid] at hdoc
  cases hdoc
  exact ⟨event, h, rfl, hreq⟩

theorem storeFinance_shelves {kind : FinanceUpload} {file : UploadFile} {event : Event}
    (hev : event ∈ w.events)
    (h : storeFinance files env kind actor newId file event w.documents = .ok f) :
    Shelved w f.documents :=
  .added _ f.documents (placedAt_own hev rfl rfl) (insertDocument_accepts h)

/-- **Every accepted upload** puts its document in its place. -/
theorem Upload.exec_shelves {u : Upload} (h : u.exec files env actor newId eventId w = .ok f) :
    Shelved w f.documents := by
  cases u with
  | document file documentType =>
      simp only [Upload.exec, uploadDocument, bind_accepts, exists_unit] at h
      obtain ⟨_, _, _, _, _, _, _, hstore⟩ := h
      refine .added _ f.documents (fun id hid => ?_) (insertDocument_accepts hstore)
      cases hid
  | postEventEvidence file documentType geo =>
      simp only [Upload.exec, uploadPostEventEvidence, bind_accepts, exists_unit] at h
      obtain ⟨event, hev, _, _, _, _, _, _, _, hstore⟩ := h
      exact .added _ f.documents (placedAt_own (confirmedEvent_mem hev) rfl rfl)
        (insertDocument_accepts hstore)
  | expenseInvoice file =>
      simp only [Upload.exec, uploadExpenseInvoice, bind_accepts, exists_unit] at h
      obtain ⟨event, hev, _, _, _, _, h⟩ := h
      split at h
      · -- the event has the bill already
        cases h
        exact .kept
      · exact storeFinance_shelves (confirmedEvent_mem hev) h
  | incomeEvidence file =>
      simp only [Upload.exec, uploadIncomeEvidence, bind_accepts, exists_unit] at h
      obtain ⟨event, hev, _, _, _, hstore⟩ := h
      exact storeFinance_shelves (confirmedEvent_mem hev) hstore
  | settlementPaymentProof file =>
      simp only [Upload.exec, uploadSettlementPaymentProof, bind_accepts, exists_unit] at h
      obtain ⟨event, hev, _, _, _, hstore⟩ := h
      exact storeFinance_shelves (confirmedEvent_mem hev) hstore

/-- **What an accepted visit does**: a new draft, a request on one dossier, or something to the
    documents. -/
theorem Registry.Step.visited {v : Visit} (h : Registry.Step cfg files w v w') :
    (∃ d, Drafted d ∧ w' = w.add d) ∨
      (∃ i r d d', w.dossiers[i]? = some d ∧ Traced cfg d (Request.within w i r) d' ∧
        w' = w.update i d') ∨
      ∃ f : Filed, Shelved w f.documents ∧ w' = w.file f := by
  unfold Registry.Step Registry.exec at h
  cases v with
  | draft env actor newId eventIn =>
      simp only [bind_accepts, pure_accepts] at h
      obtain ⟨d, hd, _, _, rfl⟩ := h
      exact .inl ⟨d, ⟨env, actor, newId, eventIn, hd⟩, rfl⟩
  | request i r =>
      simp only [bind_accepts, fetch_accepts, pure_accepts] at h
      obtain ⟨d, hd, d', hd', _, _, _, _, rfl⟩ := h
      exact .inr (.inl ⟨i, r, d, d', hd, Dossier.Step.traced hd', rfl⟩)
  | upload env actor newId eventId u =>
      simp only [bind_accepts, pure_accepts] at h
      obtain ⟨f, hf, rfl⟩ := h
      exact .inr (.inr ⟨f, Upload.exec_shelves hf, rfl⟩)
  | deleteDocument env actor eventId docId =>
      simp only [bind_accepts, pure_accepts] at h
      obtain ⟨f, hf, rfl⟩ := h
      obtain ⟨doc, hdoc, request, hrequest, hed, hreq, hrep⟩ := deleteDocument_retires hf
      exact .inr (.inr ⟨f, .retired doc request f.documents hdoc hrequest hed hreq hrep, rfl⟩)

end Shelf

/-! ## 3. The invariant -/

/-- The `i`-th dossier has an event the document belongs to. -/
def HeldBy (w : Registry) (i : Nat) (doc : StoredDocument) : Prop :=
  ∃ s, w.dossiers[i]? = some (.confirmed s) ∧ doc.BelongsTo s.event

/-- **The documents**: each that names an event lies there, with the event's proposal; and each that an
    event names is active and belongs to it. -/
structure Evidenced (w : Registry) : Prop where
  placed : ∀ doc ∈ w.documents, PlacedAt w.events doc
  named : ∀ (i : Nat) (s : State), w.dossiers[i]? = some (.confirmed s) → ∀ id, Refers s id →
    ∃ doc ∈ w.documents, doc.id = id ∧ doc.isActive = true ∧ doc.BelongsTo s.event

section Invariant

variable {cfg : Config} {files : FileSettings} {w w' : Registry} {doc : StoredDocument}

theorem Registry.events_of_get {i : Nat} {s : State} (h : w.dossiers[i]? = some (.confirmed s)) :
    s.event ∈ w.events :=
  List.mem_filterMap.mpr ⟨.confirmed s, List.mem_of_getElem? h, rfl⟩

/-- The places are those of the keys of the events. -/
theorem PlacedAt.congr {events events' : List Event} (h : PlacedAt events doc)
    (hkeys : ∀ e ∈ events, ∃ e' ∈ events', e'.id = e.id ∧ e'.eventRequestId = e.eventRequestId) :
    PlacedAt events' doc := by
  intro id hid
  obtain ⟨e, he, hsame, hreq⟩ := h id hid
  obtain ⟨e', he', hid', hreq'⟩ := hkeys e he
  exact ⟨e', he', hid'.trans hsame, by rw [hreq, hreq']⟩

/-- A document that belongs to an event names the proposal of the event. -/
theorem Evidenced.request_of (hk : Keyed w) (h : Evidenced w) (hdoc : doc ∈ w.documents) {i : Nat}
    {s : State} (hs : w.dossiers[i]? = some (.confirmed s)) (hown : doc.BelongsTo s.event) :
    doc.eventRequestId = some s.proposal.request.id := by
  have hkey : s.event.eventRequestId = s.proposal.request.id := (hk.standing i _ hs).2 s.event rfl
  rcases hown with hid | hreq
  · obtain ⟨e, he, hsame, hreq⟩ := h.placed doc hdoc _ hid
    obtain ⟨j, t, ht, rfl⟩ := Registry.mem_events he
    have hij : i = j := hk.events i j s t hs ht hsame.symm
    rw [← hij, hs] at ht
    cases ht
    rw [hreq, hkey]
  · rw [hreq, hkey]

/-- **A document that belongs to an event stays**: its proposal is approved, and cannot be edited. -/
theorem Evidenced.kept (hk : Keyed w) (h : Evidenced w) {t : Table StoredDocument}
    (hs : Shelved w t) (hdoc : doc ∈ w.documents) {i : Nat} (hheld : HeldBy w i doc) : doc ∈ t := by
  cases hs with
  | kept => exact hdoc
  | added new t hplace hins => exact (Table.mem_insert hins).mpr (.inl hdoc)
  | retired old request t hold hrequest hed hreq hrep =>
      refine Table.mem_replace_of_ne hrep hdoc fun hkey => ?_
      have hsame : doc = old := Table.eq_of_key_eq hdoc hold hkey
      obtain ⟨s, hget, hown⟩ := hheld
      obtain ⟨j, d, hd, rfl⟩ := Registry.mem_requests hrequest
      have hown' := h.request_of hk hdoc hget hown
      rw [hsame, hreq] at hown'
      have hij : i = j := hk.requests i j _ d hget hd (Option.some.inj hown').symm
      rw [← hij, hget] at hd
      cases hd
      exact (hk.standing i _ hget).1.not_editable hed

/-- **An event stays where it is**, with its keys. -/
theorem Registry.Step.stays {v : Visit} (hs : Registry.Step cfg files w v w') {i : Nat} {s : State}
    (hget : w.dossiers[i]? = some (.confirmed s)) :
    ∃ s', w'.dossiers[i]? = some (.confirmed s') ∧ s'.event.id = s.event.id ∧
      s'.event.eventRequestId = s.event.eventRequestId := by
  rcases hs.visited with ⟨d, _, rfl⟩ | ⟨j, r, d, d', hd, hstep, rfl⟩ | ⟨f, _, rfl⟩
  · refine ⟨s, ?_, rfl, rfl⟩
    unfold Registry.add
    rw [List.getElem?_append_left (List.getElem?_eq_some_iff.mp hget).1]
    exact hget
  · by_cases hij : i = j
    · rw [hij, hd] at hget
      cases hget
      obtain ⟨s', rfl, hkeys⟩ := hstep.confirmed
      refine ⟨s', ?_, hkeys⟩
      rw [hij]
      exact List.getElem?_set_self (List.getElem?_eq_some_iff.mp hd).1
    · refine ⟨s, ?_, rfl, rfl⟩
      unfold Registry.update
      rw [List.getElem?_set_ne (fun hji => hij hji.symm)]
      exact hget
  · exact ⟨s, hget, rfl, rfl⟩

/-- An event keeps holding what belongs to it. -/
theorem Registry.Step.holds {v : Visit} (hs : Registry.Step cfg files w v w') {i : Nat}
    (h : HeldBy w i doc) : HeldBy w' i doc := by
  obtain ⟨s, hget, hown⟩ := h
  obtain ⟨s', hget', hid, hreq⟩ := hs.stays hget
  refine ⟨s', hget', ?_⟩
  unfold Document.BelongsTo
  rw [hid, hreq]
  exact hown

theorem Registry.Step.event_kept {v : Visit} (hs : Registry.Step cfg files w v w') {e : Event}
    (he : e ∈ w.events) : ∃ e' ∈ w'.events, e'.id = e.id ∧ e'.eventRequestId = e.eventRequestId := by
  obtain ⟨i, s, hget, rfl⟩ := Registry.mem_events he
  obtain ⟨s', hget', hkeys⟩ := hs.stays hget
  exact ⟨s'.event, Registry.events_of_get hget', hkeys⟩

/-- A document of the registry after a visit: its place is one of the events there are. -/
theorem Evidenced.placed_after (h : Evidenced w) {v : Visit} (hs : Registry.Step cfg files w v w') :
    ∀ doc ∈ w'.documents, PlacedAt w'.events doc := by
  have hmoved : ∀ doc : StoredDocument, PlacedAt w.events doc → PlacedAt w'.events doc :=
    fun doc hplace => hplace.congr fun e he => hs.event_kept he
  intro doc hdoc
  rcases hs.visited with ⟨d, _, rfl⟩ | ⟨j, r, d, d', hd, hstep, rfl⟩ | ⟨f, hf, rfl⟩
  · exact hmoved doc (h.placed doc hdoc)
  · exact hmoved doc (h.placed doc hdoc)
  · have hmem : doc ∈ f.documents := hdoc
    generalize hft : f.documents = t at hf hmem
    cases hf with
    | kept => exact hmoved doc (h.placed doc hmem)
    | added new t hplace hins =>
        rcases (Table.mem_insert hins).mp hmem with hold | rfl
        · exact hmoved doc (h.placed doc hold)
        · exact hmoved doc hplace
    | retired old request t hold hrequest hed hreq hrep =>
        rcases Table.mem_replace hrep hmem with rfl | hkept
        · exact hmoved _ (h.placed old hold)
        · exact hmoved doc (h.placed doc hkept.1)

/-- **A document that belongs to an event stays in the registry**, over every visit. -/
theorem Evidenced.stays (hk : Keyed w) (h : Evidenced w) {v : Visit}
    (hs : Registry.Step cfg files w v w') (hdoc : doc ∈ w.documents) {i : Nat}
    (hheld : HeldBy w i doc) : doc ∈ w'.documents := by
  rcases hs.visited with ⟨d, _, rfl⟩ | ⟨j, r, d, d', hd, hstep, rfl⟩ | ⟨f, hf, rfl⟩
  · exact hdoc
  · exact hdoc
  · exact h.kept hk hf hdoc hheld

/-- **The step lemma.** -/
theorem Registry.Step.evidenced {v : Visit} (hk : Keyed w) (h : Evidenced w)
    (hs : Registry.Step cfg files w v w') : Evidenced w' := by
  refine ⟨h.placed_after hs, fun i s' hget' id hr => ?_⟩
  -- what the event named before is still there
  have hold : ∀ s, w.dossiers[i]? = some (.confirmed s) → Refers s id →
      ∃ doc ∈ w'.documents, doc.id = id ∧ doc.isActive = true ∧ doc.BelongsTo s'.event := by
    intro s hget href
    obtain ⟨doc, hdoc, hid, hactive, hown⟩ := h.named i s hget id href
    obtain ⟨t, ht, hown'⟩ := hs.holds ⟨s, hget, hown⟩
    rw [hget'] at ht
    cases ht
    exact ⟨doc, h.stays hk hs hdoc ⟨s, hget, hown⟩, hid, hactive, hown'⟩
  rcases hs.visited with ⟨d, hd, hw⟩ | ⟨j, r, d, d', hd, hstep, hw⟩ | ⟨f, hf, hw⟩
  · rw [hw] at hget'
    rcases Registry.get_add hget' with ⟨_, hnew⟩ | ⟨_, hget⟩
    · exact (hd.proposed s' hnew.symm).elim
    · exact hold s' hget hr
  · rw [hw] at hget'
    rcases Registry.get_update hd hget' with ⟨rfl, rfl⟩ | ⟨_, hget⟩
    · obtain ⟨s, rfl, href | ⟨c, hc, doc, hdoc, hown⟩⟩ := hstep.refers hr
      · exact hold s hd href
      · cases r with
        | review env actor op => cases hc
        | event c0 =>
            cases hc
            -- the document read is a row of the table
            have hsel := List.find?_some hdoc
            simp only [decide_eq_true_eq] at hsel
            obtain ⟨stored, hstored, rfl⟩ := List.mem_map.mp (List.mem_of_find?_eq_some hdoc)
            have hheld : HeldBy w i stored := ⟨s, hd, hown⟩
            obtain ⟨t, ht, hown'⟩ := hs.holds hheld
            rw [hw] at ht ⊢
            rw [hget'] at ht
            cases ht
            exact ⟨stored, hstored, hsel.1, hsel.2, hown'⟩
    · exact hold s' hget hr
  · rw [hw] at hget'
    exact hold s' hget' hr

theorem Registry.Empty.evidenced (h : Registry.Empty w) : Evidenced w := by
  unfold Registry.Empty at h
  rw [h]
  constructor
  · intro doc hdoc
    cases hdoc
  · intro i s hget
    cases hget

theorem Registry.Reachable.evidenced (h : Registry.Reachable cfg files w) : Keyed w ∧ Evidenced w := by
  refine Runs.Reach.invariant (P := fun w => Keyed w ∧ Evidenced w) ?_ ?_ h
  · intro w hw
    have hboth : Keyed w ∧ Ledgered files w := hw.ledgered
    exact ⟨hboth.1, hw.evidenced⟩
  · intro w v w' hold hs
    exact ⟨hs.step.keyed hold.1, hs.evidenced hold.1 hold.2⟩

/-! ## 4. The law -/

/-- **The documents behind the ledger are permanent.** In every reachable state, each document an
    expense, an income or a payment names is active and belongs to the event or its proposal, and its
    row is still there after every further run. -/
theorem evidence_permanence (cfg : Config) (files : FileSettings)
    (h : Registry.Reachable cfg files w) :
    ∀ (i : Nat) (s : State), w.dossiers[i]? = some (.confirmed s) → ∀ id, Refers s id →
      ∃ doc ∈ w.documents, doc.id = id ∧ doc.isActive = true ∧ doc.BelongsTo s.event ∧
        ∀ visits w', Runs.Path (Registry.Step cfg files) w visits w' → doc ∈ w'.documents := by
  intro i s hget id hr
  obtain ⟨hk, hev⟩ := h.evidenced
  obtain ⟨doc, hdoc, hid, hactive, hown⟩ := hev.named i s hget id hr
  refine ⟨doc, hdoc, hid, hactive, hown, fun visits w' hp => ?_⟩
  have hrun := hp.preserves
    (P := fun w => Keyed w ∧ Evidenced w ∧ doc ∈ w.documents ∧ HeldBy w i doc) ?_
    ⟨hk, hev, hdoc, s, hget, hown⟩
  · exact hrun.2.2.1
  · intro w v w' hold hs
    obtain ⟨hk, hev, hdoc, hheld⟩ := hold
    exact ⟨hs.step.keyed hk, hs.evidenced hk hev, hev.stays hk hs hdoc hheld, hs.holds hheld⟩

end Invariant

/-- The bill of an expense claimed in the sample is there for good. -/
theorem evidence_permanence_claimed :
    ∃ w, Registry.Reachable (Sample.config .sqlite) Sample.files w ∧
      ∃ e ∈ Sample.expensesAt w 0, ∃ doc ∈ w.documents, doc.id = e.billDocumentId ∧
        doc.isActive = true ∧
        ∀ visits w', Runs.Path (Registry.Step (Sample.config .sqlite) Sample.files) w visits w' →
          doc ∈ w'.documents := by
  have hrun : Runs.Ends (Runs.run (Registry.exec (Sample.config .sqlite) Sample.files)
      (Sample.hold 0 500 ++ Sample.claimOn 0 500 (.expenseInvoice (Sample.pdf 1)))
      Registry.empty) fun w => Sample.expensesAt w 0 ≠ [] := by
    decide +kernel
  obtain ⟨w, hw, hne⟩ := hrun
  have hreach : Registry.Reachable (Sample.config .sqlite) Sample.files w :=
    Runs.Reach.path (.start rfl) (Runs.path_of_run hw)
  obtain ⟨e, he⟩ := List.exists_mem_of_ne_nil _ hne
  obtain ⟨s, hget, hexp⟩ := Sample.mem_expensesAt he
  obtain ⟨doc, hdoc, hid, hactive, _, hkept⟩ :=
    evidence_permanence (Sample.config .sqlite) Sample.files hreach 0 s hget _ (.bill e hexp)
  exact ⟨w, hreach, e, he, doc, hdoc, hid, hactive, hkept⟩

end CampusConnect
