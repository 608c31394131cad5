/-
  File:      CampusConnect/Guarantees/Filing.lean
  Subject:   The documents and their files: what is FILED IS SERVED, to whom it may be, until it is deleted.

  * `Upload.exec_returns`: an accepted upload gives back the bill the event has already, or inserts a
    document of its proposal, of an extension the settings or the service name;
  * `FilePlace.Located`: the columns of a row lead to its file, `Archive.Sound`: of every row, and of its
    own; `ArchiveStep.sound`: every call keeps it;
  * `downloadDocument_iff`: a download answers with a document that the list shows, and its file;
  * `ArchiveStep.kept`, `ArchiveStep.deleted`: a row stays as it is until it is deleted, and is inactive
    after; `Archive.later`, `Archive.request_later`: over a run; `Upload.exec_filed`: what an upload gives
    back is in the list of its proposal;
  * `filed_is_served`: over whole runs.
-/
import CampusConnect.Guarantees.Evidence
import CampusConnect.Services.Storage

namespace CampusConnect

open Guarded Rows Runs Files DocumentService

/-! ## 1. Names -/

theorem hexDigits_apart (k n : Nat) : ∀ c ∈ hexDigits k n, c ≠ '/' ∧ c ≠ '.' ∧ c ≠ '\\' := by
  have key : ∀ i : Fin 16, hexDigit i ≠ '/' ∧ hexDigit i ≠ '.' ∧ hexDigit i ≠ '\\' := by decide
  induction k generalizing n with
  | zero =>
      intro c hc
      cases hc
  | succ k ih =>
      intro c hc
      rcases List.mem_append.mp hc with hc | hc
      · exact ih _ c hc
      · rw [List.mem_singleton.mp hc]
        exact key ⟨n % 16, Nat.mod_lt n (by omega)⟩

theorem Uuid.hex_apart (u : Uuid) : ∀ c ∈ u.hex, c ≠ '/' ∧ c ≠ '.' ∧ c ≠ '\\' :=
  hexDigits_apart 32 _

theorem Uuid.str_apart (u : Uuid) : ∀ c ∈ u.str, c ≠ '/' ∧ c ≠ '.' ∧ c ≠ '\\' := by
  have hhyphen : '-' ≠ '/' ∧ '-' ≠ '.' ∧ '-' ≠ '\\' := by decide
  intro c hc
  unfold Uuid.str at hc
  simp only [List.mem_append, List.mem_cons] at hc
  rcases hc with ((((hc | rfl | hc) | rfl | hc) | rfl | hc) | rfl | hc)
  · exact u.hex_apart c (List.mem_of_mem_take hc)
  · exact hhyphen
  · exact u.hex_apart c (List.mem_of_mem_drop (List.mem_of_mem_take hc))
  · exact hhyphen
  · exact u.hex_apart c (List.mem_of_mem_drop (List.mem_of_mem_take hc))
  · exact hhyphen
  · exact u.hex_apart c (List.mem_of_mem_drop (List.mem_of_mem_take hc))
  · exact hhyphen
  · exact u.hex_apart c (List.mem_of_mem_drop hc)

/-- A text without separators and dots that is not empty is the name of a directory. -/
theorem plain_of_apart {t : Text} (hne : t ≠ []) (h : ∀ c ∈ t, c ≠ '/' ∧ c ≠ '.' ∧ c ≠ '\\') :
    Plain t ∧ '\\' ∉ t := by
  have hdot : ∀ rest, t ≠ '.' :: rest := by
    rintro rest rfl
    exact (h '.' (List.mem_cons_self ..)).2.1 rfl
  exact ⟨⟨hne, hdot _, hdot _, fun hc => (h '/' hc).1 rfl⟩, fun hc => (h '\\' hc).2.2 rfl⟩

theorem Uuid.plain_str (u : Uuid) : Plain u.str ∧ '\\' ∉ u.str := by
  refine plain_of_apart (fun he => ?_) u.str_apart
  have hl := u.length_str
  rw [he] at hl
  cases hl

/-- The extensions an upload may have. -/
def FileSettings.extensions (files : FileSettings) : List Text :=
  files.allowedExtensions ++ ["pdf".toList, "png".toList, "jpg".toList, "jpeg".toList]

/-- No extension of the settings has a separator in it. -/
def FileSettings.PlainExtensions (files : FileSettings) : Prop :=
  ∀ ext ∈ files.allowedExtensions, '/' ∉ ext ∧ '\\' ∉ ext

theorem FileSettings.PlainExtensions.all {files : FileSettings} (h : files.PlainExtensions) :
    ∀ ext ∈ files.extensions, '/' ∉ ext ∧ '\\' ∉ ext := by
  have hfixed : ∀ ext ∈ ["pdf".toList, "png".toList, "jpg".toList, "jpeg".toList],
      '/' ∉ ext ∧ '\\' ∉ ext := by
    decide
  intro ext hext
  rcases List.mem_append.mp hext with hext | hext
  · exact h ext hext
  · exact hfixed ext hext

/-- The file of an upload. -/
def Upload.file : Upload → UploadFile
  | .document file _ => file
  | .postEventEvidence file _ _ => file
  | .expenseInvoice file => file
  | .incomeEvidence file => file
  | .settlementPaymentProof file => file

/-- The proposal an upload is for: the one it names, or that of the event it names. -/
def Upload.proposal (u : Upload) (eventId : Uuid) (w : Registry) : Option Uuid :=
  match u with
  | .document _ _ => some eventId
  | _ => (w.events.find? fun e => e.id = eventId ∨ e.eventRequestId = eventId).map Event.eventRequestId

section Uploads

variable {files : FileSettings} {env : Env} {actor : User} {newId eventId drawn : Uuid} {f : Filed}
  {w : Registry} {u : Upload}

/-- What an upload gives back. -/
inductive Returned (files : FileSettings) (w : Registry) (newId : Uuid) (proposal : Option Uuid)
    (file : UploadFile) (f : Filed) : Prop where
  | again (event : Event) (hev : event ∈ w.events) (hproposal : proposal = some event.eventRequestId)
      (hdoc : f.returned ∈ w.documents) (hsame : f.documents = w.documents)
      (hactive : f.returned.isActive = true) (hown : f.returned.eventId = some event.id)
      (hhash : f.returned.fileHash = some (files.sha256 file.content))
  | inserted (request : Uuid) (hproposal : proposal = some request)
      (hrequest : (∃ r ∈ w.requests, r.id = request) ∨ ∃ e ∈ w.events, e.eventRequestId = request)
      (hins : w.documents.insert f.returned = some f.documents)
      (hext : extension files f.returned.originalFilename ∈ files.extensions)
      (hactive : f.returned.isActive = true) (hid : f.returned.id = newId)
      (hcontent : f.returned.content = file.content)
      (hunder : f.returned.eventRequestId = some request)

/-- The event an upload finds is that of its proposal. -/
theorem proposal_of_confirmed {event : Event} (h : confirmedEvent w.events eventId = .ok event) :
    ((w.events.find? fun e => e.id = eventId ∨ e.eventRequestId = eventId).map Event.eventRequestId) =
      some event.eventRequestId := by
  unfold confirmedEvent at h
  rw [fetch_accepts] at h
  rw [h]
  rfl

theorem insertDocument_returned {action : AuditAction} {newState : StateDict} {doc : StoredDocument}
    {t : Table StoredDocument} (h : insertDocument env actor action newState doc t = .ok f) :
    f.returned = doc := by
  simp only [insertDocument, bind_accepts, fetch_accepts, pure_accepts] at h
  obtain ⟨t', _, rfl⟩ := h
  rfl

theorem storeFinance_returns {kind : FinanceUpload} {file : UploadFile} {event : Event}
    (hev : event ∈ w.events) (hfile : verifyFinanceFile files kind file = .ok ())
    (h : storeFinance files env kind actor newId file event w.documents = .ok f) :
    Returned files w newId (some event.eventRequestId) file f := by
  have hret : f.returned = financeDocument files kind actor newId file event :=
    insertDocument_returned h
  have hins := insertDocument_accepts h
  simp only [verifyFinanceFile, bind_accepts, refuse_accepts, exists_unit, not_not] at hfile
  refine .inserted _ rfl (.inr ⟨event, hev, rfl⟩) (hret ▸ hins) ?_ (by rw [hret]; rfl) (by rw [hret]; rfl)
    (by rw [hret]; rfl) (by rw [hret]; rfl)
  rw [hret]
  exact List.mem_append_right _ hfile.2.2.1

/-- **What an accepted upload gives back**: a document there is, or the one it inserts. -/
theorem Upload.exec_returns (h : u.exec files env actor newId eventId w = .ok f) :
    Returned files w newId (u.proposal eventId w) u.file f := by
  cases u with
  | document file documentType =>
      simp only [Upload.exec, uploadDocument, bind_accepts, exists_unit, refuse_accepts, not_not] at h
      obtain ⟨request, hrequest, _, hext, _, _, _, hstore⟩ := h
      have hret := insertDocument_returned hstore
      unfold eventRequest at hrequest
      rw [fetch_accepts] at hrequest
      have hnamed := List.find?_some hrequest
      rw [decide_eq_true_eq] at hnamed
      refine .inserted eventId rfl (.inl ⟨request, List.mem_of_find?_eq_some hrequest, hnamed⟩)
        (hret ▸ insertDocument_accepts hstore) ?_ (by rw [hret]) (by rw [hret]) (by rw [hret]; rfl)
        (by rw [hret])
      rw [hret]
      exact List.mem_append_left _ hext
  | postEventEvidence file documentType geo =>
      simp only [Upload.exec, uploadPostEventEvidence, bind_accepts, exists_unit, refuse_accepts,
        not_not] at h
      obtain ⟨event, hev, _, _, _, hext, _, _, _, hstore⟩ := h
      have hret := insertDocument_returned hstore
      refine .inserted _ (proposal_of_confirmed hev) (.inr ⟨event, confirmedEvent_mem hev, rfl⟩)
        (hret ▸ insertDocument_accepts hstore) ?_ (by rw [hret]) (by rw [hret]) (by rw [hret]; rfl)
        (by rw [hret])
      rw [hret]
      exact List.mem_append_left _ hext
  | expenseInvoice file =>
      simp only [Upload.exec, uploadExpenseInvoice, bind_accepts, exists_unit] at h
      obtain ⟨event, hev, _, _, hfile, _, h⟩ := h
      have hproposal := proposal_of_confirmed hev
      split at h
      · rename_i doc hfound
        cases h
        have hbill := List.find?_some hfound
        simp only [decide_eq_true_eq] at hbill
        exact .again event (confirmedEvent_mem hev) hproposal (List.mem_of_find?_eq_some hfound) rfl
          hbill.1.2.2 hbill.2 hbill.1.1
      · have hret := storeFinance_returns (confirmedEvent_mem hev) hfile h
        rw [← hproposal] at hret
        exact hret
  | incomeEvidence file =>
      simp only [Upload.exec, uploadIncomeEvidence, bind_accepts, exists_unit] at h
      obtain ⟨event, hev, _, _, hfile, hstore⟩ := h
      have hret := storeFinance_returns (confirmedEvent_mem hev) hfile hstore
      rw [← proposal_of_confirmed hev] at hret
      exact hret
  | settlementPaymentProof file =>
      simp only [Upload.exec, uploadSettlementPaymentProof, bind_accepts, exists_unit] at h
      obtain ⟨event, hev, _, _, hfile, hstore⟩ := h
      have hret := storeFinance_returns (confirmedEvent_mem hev) hfile hstore
      rw [← proposal_of_confirmed hev] at hret
      exact hret

/-- The directories are plain. -/
theorem Upload.folder_plain {folder : Location} (h : u.folder eventId w = .ok folder) :
    ∀ n ∈ folder, Plain n ∧ '\\' ∉ n := by
  have hfixed : ∀ n ∈ ["events".toList, "expenses".toList, "incomes".toList, "settlement".toList],
      n ≠ [] ∧ ∀ c ∈ n, c ≠ '/' ∧ c ≠ '.' ∧ c ≠ '\\' := by
    have hall : (["events".toList, "expenses".toList, "incomes".toList, "settlement".toList].all fun n =>
        !n.isEmpty && n.all fun c => c != '/' && c != '.' && c != '\\') = true := by
      decide
    intro n hn
    have h := List.all_eq_true.mp hall n hn
    rw [Bool.and_eq_true, List.all_eq_true] at h
    exact ⟨by simpa using h.1, fun c hc => by simpa [and_assoc] using h.2 c hc⟩
  have hevents : ∀ {id : Uuid},
      ∀ last ∈ ["events".toList, "expenses".toList, "incomes".toList, "settlement".toList],
        ∀ n ∈ ["events".toList, id.str, last], Plain n ∧ '\\' ∉ n := by
    intro id last hlast n hn
    rcases List.mem_cons.mp hn with he | hn
    · rw [he]
      exact plain_of_apart (hfixed _ (by decide)).1 (hfixed _ (by decide)).2
    rcases List.mem_cons.mp hn with he | hn
    · rw [he]
      exact id.plain_str
    · rw [List.mem_singleton.mp hn]
      exact plain_of_apart (hfixed last hlast).1 (hfixed last hlast).2
  cases u with
  | document file documentType =>
      cases h
      intro n hn
      rw [List.mem_singleton.mp hn]
      exact eventId.plain_str
  | postEventEvidence file documentType geo =>
      simp only [Upload.folder, bind_accepts, pure_accepts] at h
      obtain ⟨event, _, rfl⟩ := h
      intro n hn
      rw [List.mem_singleton.mp hn]
      exact event.eventRequestId.plain_str
  | expenseInvoice file =>
      simp only [Upload.folder, bind_accepts, pure_accepts] at h
      obtain ⟨event, _, rfl⟩ := h
      exact hevents _ (by decide)
  | incomeEvidence file =>
      simp only [Upload.folder, bind_accepts, pure_accepts] at h
      obtain ⟨event, _, rfl⟩ := h
      exact hevents _ (by decide)
  | settlementPaymentProof file =>
      simp only [Upload.folder, bind_accepts, pure_accepts] at h
      obtain ⟨event, _, rfl⟩ := h
      exact hevents _ (by decide)

/-- The name of a file is plain, and no `\` stands in it. -/
theorem Upload.storedFilename_plain (u : Upload) (drawn : Uuid) {rawFilename : Text}
    (hext : '/' ∉ extension files rawFilename ∧ '\\' ∉ extension files rawFilename) :
    Plain (u.storedFilename files drawn rawFilename) ∧
      '\\' ∉ u.storedFilename files drawn rawFilename := by
  have hname : ∀ t : Text, t ≠ [] → (∀ c ∈ t, c ≠ '/' ∧ c ≠ '.' ∧ c ≠ '\\') →
      Plain (t ++ '.' :: extension files rawFilename) ∧
        '\\' ∉ t ++ '.' :: extension files rawFilename := by
    intro t hne h
    refine ⟨Plain.of_extension hne (fun hc => (h _ hc).2.1 rfl) (fun hc => (h _ hc).1 rfl) hext.1, ?_⟩
    intro hc
    rcases List.mem_append.mp hc with hc | hc
    · exact (h _ hc).2.2 rfl
    · rcases List.mem_cons.mp hc with hc | hc
      · cases hc
      · exact hext.2 hc
  have hhex := hname drawn.hex (fun he => by have hl := drawn.length_hex; rw [he] at hl; cases hl)
    drawn.hex_apart
  have hstr := hname drawn.str (fun he => by have hl := drawn.length_str; rw [he] at hl; cases hl)
    drawn.str_apart
  cases u with
  | document file documentType => exact hhex
  | postEventEvidence file documentType geo => exact hhex
  | expenseInvoice file => exact hstr
  | incomeEvidence file => exact hstr
  | settlementPaymentProof file => exact hstr

end Uploads

/-! ## 2. Every row has its file -/

/-- **The columns lead to the file**: the path below the storage root, in plain names, and its content. -/
def FilePlace.Located (storageRoot : Location) (disk : Disk Bytes) (p : FilePlace) (content : Bytes) :
    Prop :=
  ∃ folder : Location, (∀ n ∈ folder ++ [p.storedFilename], Plain n) ∧
    p.storagePath = render (folder ++ [p.storedFilename]) ∧
    disk.read (storageRoot ++ (folder ++ [p.storedFilename])) = some content

/-- **The files are in their places**: every document has one, with what was uploaded, and no place is
    of two documents. -/
structure Archive.Sound (storageRoot : Location) (a : Archive) : Prop where
  held : ∀ doc ∈ a.registry.documents, ∃ p ∈ a.places, p.docId = doc.id ∧
    p.Located storageRoot a.disk doc.content
  known : ∀ p ∈ a.places, ∃ doc ∈ a.registry.documents, doc.id = p.docId
  apart : (a.places.map FilePlace.docId).Nodup

/-- What an accepted call does to the archive. -/
inductive ArchiveStep (cfg : Config) (files : FileSettings) (storageRoot : Location) (a : Archive) :
    ArchiveOp → Archive → Prop where
  | visited (v : Visit) (drawn : Uuid) (w : Registry) (hv : ∀ env actor newId eventId u,
      v ≠ .upload env actor newId eventId u) (hw : Registry.Step cfg files a.registry v w) :
      ArchiveStep cfg files storageRoot a (.visit v drawn) { a with registry := w }
  | again (env : Env) (actor : User) (newId eventId drawn : Uuid) (u : Upload) (f : Filed)
      (hf : u.exec files env actor newId eventId a.registry = .ok f)
      (hdoc : f.returned ∈ a.registry.documents) (hsame : f.documents = a.registry.documents)
      (hactive : f.returned.isActive = true) :
      ArchiveStep cfg files storageRoot a (.visit (.upload env actor newId eventId u) drawn)
        { a with registry := a.registry.file f }
  | placed (env : Env) (actor : User) (newId eventId drawn : Uuid) (u : Upload) (f : Filed)
      (folder : Location) (a' : Archive)
      (hf : u.exec files env actor newId eventId a.registry = .ok f)
      (hins : a.registry.documents.insert f.returned = some f.documents)
      (hactive : f.returned.isActive = true) (hcontent : f.returned.content = u.file.content)
      (hfolder : ∀ n ∈ folder ++ [u.storedFilename files drawn f.returned.originalFilename], Plain n)
      (hpath : u.storagePath folder (u.storedFilename files drawn f.returned.originalFilename) =
        render (folder ++ [u.storedFilename files drawn f.returned.originalFilename]))
      (hnew : ∀ p ∈ a.places,
        p.storedFilename ≠ u.storedFilename files drawn f.returned.originalFilename)
      (ha' : a' = { a with
        registry := a.registry.file f
        places := a.places ++ [⟨f.returned.id, u.storedFilename files drawn f.returned.originalFilename,
          u.storagePath folder (u.storedFilename files drawn f.returned.originalFilename)⟩]
        disk := a.disk.write
          (storageRoot ++ (folder ++ [u.storedFilename files drawn f.returned.originalFilename]))
          f.returned.content }) :
      ArchiveStep cfg files storageRoot a (.visit (.upload env actor newId eventId u) drawn) a'
  | downloaded (env : Env) (actor : User) (eventId docId : Uuid) (log : DownloadLog) :
      ArchiveStep cfg files storageRoot a (.download env actor eventId docId)
        { a with downloadLogs := a.downloadLogs ++ [log] }

section Steps

variable {cfg : Config} {files : FileSettings} {storageRoot : Location} {a a' : Archive} {op : ArchiveOp}

/-- In a path of plain names nothing is replaced. -/
theorem Upload.storagePath_plain {u : Upload} {folder : Location} {storedFilename : Text}
    (h : ∀ n ∈ folder ++ [storedFilename], '\\' ∉ n) :
    u.storagePath folder storedFilename = render (folder ++ [storedFilename]) := by
  have hsame : (render (folder ++ [storedFilename])).map (fun c => if c = '\\' then '/' else c) =
      render (folder ++ [storedFilename]) := by
    refine (List.map_congr_left fun c hc => ?_).trans (List.map_id _)
    refine if_neg ?_
    rintro rfl
    rcases mem_render hc with hsep | ⟨n, hn, hmem⟩
    · cases hsep
    · exact h n hn hmem
  cases u with
  | document file documentType => exact hsame
  | _ => rfl

/-- **What an accepted call does.** -/
theorem Archive.Step.step (hext : files.PlainExtensions) (hroot : ∀ n ∈ storageRoot, Plain n)
    (h : Archive.Step cfg files storageRoot a op a') : ArchiveStep cfg files storageRoot a op a' := by
  unfold Archive.Step at h
  cases op with
  | download env actor eventId docId =>
      simp only [Archive.exec, bind_accepts, pure_accepts] at h
      obtain ⟨⟨doc, path, log⟩, _, rfl⟩ := h
      exact .downloaded env actor eventId docId log
  | visit v drawn =>
      cases v with
      | upload env actor newId eventId u =>
          simp only [Archive.exec, bind_accepts] at h
          obtain ⟨f, hf, h⟩ := h
          have hret := Upload.exec_returns hf
          by_cases hold : f.returned ∈ a.registry.documents.rows
          · rw [if_pos hold, pure_accepts] at h
            subst h
            cases hret with
            | again _ _ _ hdoc hsame hactive _ _ =>
                exact .again env actor newId eventId drawn u f hf hdoc hsame hactive
            | inserted _ _ _ hins _ _ _ _ _ =>
                exact ((Table.insert_eq_some.mp hins).1.2 (List.mem_map_of_mem hold)).elim
          · rw [if_neg hold] at h
            cases hret with
            | again _ _ _ hdoc _ _ _ _ => exact (hold hdoc).elim
            | inserted _ _ _ hins hmem hactive _ hcontent _ =>
                simp only [Archive.place, bind_accepts, refuse_accepts, exists_unit, pure_accepts,
                  not_not] at h
                obtain ⟨folder, hfolder, _, hunique, rfl⟩ := h
                have hname := u.storedFilename_plain drawn (hext.all _ hmem)
                have hplain : ∀ n ∈ folder ++
                    [u.storedFilename files drawn f.returned.originalFilename],
                      Plain n ∧ '\\' ∉ n := by
                  intro n hn
                  rcases List.mem_append.mp hn with hn | hn
                  · exact Upload.folder_plain hfolder n hn
                  · rw [List.mem_singleton.mp hn]
                    exact hname
                refine .placed env actor newId eventId drawn u f folder _ hf hins hactive hcontent
                  (fun n hn => (hplain n hn).1) (Upload.storagePath_plain fun n hn => (hplain n hn).2)
                  (fun p hp he => hunique ⟨p, hp, he⟩) ?_
                have hdestination : resolve (storageRoot ++ folder ++
                    [u.storedFilename files drawn f.returned.originalFilename]) = storageRoot ++
                      (folder ++ [u.storedFilename files drawn f.returned.originalFilename]) := by
                  rw [List.append_assoc]
                  refine resolve_plain fun n hn => ?_
                  rcases List.mem_append.mp hn with hn | hn
                  · exact hroot n hn
                  · exact (hplain n hn).1
                rw [hdestination]
      | draft env actor newId eventIn =>
          simp only [Archive.exec, bind_accepts, pure_accepts] at h
          obtain ⟨w, hw, rfl⟩ := h
          exact .visited _ drawn w (fun _ _ _ _ _ he => by cases he) hw
      | request i r =>
          simp only [Archive.exec, bind_accepts, pure_accepts] at h
          obtain ⟨w, hw, rfl⟩ := h
          exact .visited _ drawn w (fun _ _ _ _ _ he => by cases he) hw
      | deleteDocument env actor eventId docId =>
          simp only [Archive.exec, bind_accepts, pure_accepts] at h
          obtain ⟨w, hw, rfl⟩ := h
          exact .visited _ drawn w (fun _ _ _ _ _ he => by cases he) hw

/-- **What a visit without an upload does to the documents**: nothing, or one is deleted while its
    proposal is edited, by an administrator, the submitter or a secretary of the club. -/
theorem Registry.Step.retires {w w' : Registry} {v : Visit}
    (hv : ∀ env actor newId eventId u, v ≠ .upload env actor newId eventId u)
    (h : Registry.Step cfg files w v w') :
    (w'.documents = w.documents ∧
        ∀ env actor eventId docId, v ≠ .deleteDocument env actor eventId docId) ∨
      ∃ env actor eventId doc request, v = .deleteDocument env actor eventId doc.id ∧
        doc ∈ w.documents ∧ doc.isActive = true ∧ request ∈ w.requests ∧
        doc.eventRequestId = some request.id ∧ verifyUploadPermission env request actor = .ok () ∧
        w.documents.replace { doc with isActive := false } = some w'.documents := by
  unfold Registry.Step Registry.exec at h
  cases v with
  | draft env actor newId eventIn =>
      simp only [bind_accepts, pure_accepts] at h
      obtain ⟨d, _, _, _, rfl⟩ := h
      exact .inl ⟨rfl, fun _ _ _ _ he => by cases he⟩
  | request i r =>
      simp only [bind_accepts, pure_accepts] at h
      obtain ⟨d, _, d', _, _, _, _, _, rfl⟩ := h
      exact .inl ⟨rfl, fun _ _ _ _ he => by cases he⟩
  | upload env actor newId eventId u => exact (hv _ _ _ _ _ rfl).elim
  | deleteDocument env actor eventId docId =>
      simp only [bind_accepts, pure_accepts] at h
      obtain ⟨f, hf, rfl⟩ := h
      simp only [deleteDocument, eventRequest, bind_accepts, exists_unit, fetch_accepts,
        pure_accepts] at hf
      obtain ⟨request, hrequest, hpermit, doc, hdoc, t, hrep, rfl⟩ := hf
      obtain ⟨hfind, hown⟩ := Option.filter_eq_some_iff.mp hdoc
      rw [decide_eq_true_eq] at hown
      have hid : request.id = eventId := by
        have hsel := List.find?_some hrequest
        rwa [decide_eq_true_eq] at hsel
      have hkey : doc.id = docId := Table.key_of_find hfind
      refine .inr ⟨env, actor, eventId, doc, request, by rw [hkey], Table.mem_of_find hfind, hown.2,
        List.mem_of_find?_eq_some hrequest, ?_, hpermit, hrep⟩
      rw [hid]
      exact hown.1

/-- A file of another name is not written over. -/
theorem FilePlace.Located.write {p : FilePlace} {disk : Disk Bytes} {content other : Bytes}
    {folder : Location} {storedFilename : Text} (h : p.Located storageRoot disk content)
    (hne : p.storedFilename ≠ storedFilename) :
    p.Located storageRoot (disk.write (storageRoot ++ (folder ++ [storedFilename])) other) content := by
  obtain ⟨own, hplain, hpath, hread⟩ := h
  refine ⟨own, hplain, hpath, ?_⟩
  rw [Disk.read_write_of_ne _ _ fun he => ?_]
  · exact hread
  · have hlast := congrArg List.getLast? (List.append_cancel_left he)
    rw [List.getLast?_concat, List.getLast?_concat] at hlast
    exact hne (Option.some.inj hlast).symm

/-- A deleted document keeps its key and its content. -/
theorem Archive.Sound.retired {doc : StoredDocument} {w : Registry} (h : a.Sound storageRoot)
    (hdoc : doc ∈ a.registry.documents)
    (hrep : a.registry.documents.replace { doc with isActive := false } = some w.documents) :
    Archive.Sound storageRoot { a with registry := w } := by
  refine ⟨fun row hrow => ?_, fun p hp => ?_, h.apart⟩
  · rcases Table.mem_replace hrep hrow with rfl | ⟨hold, _⟩
    · exact h.held doc hdoc
    · exact h.held row hold
  · obtain ⟨row, hrow, hid⟩ := h.known p hp
    by_cases hkey : row.id = doc.id
    · refine ⟨{ doc with isActive := false }, Table.mem_replace_self hrep hdoc rfl, ?_⟩
      exact hkey.symm.trans hid
    · exact ⟨row, Table.mem_replace_of_ne hrep hrow hkey, hid⟩

/-- **The step lemma.** -/
theorem ArchiveStep.sound (h : a.Sound storageRoot) (hs : ArchiveStep cfg files storageRoot a op a') :
    a'.Sound storageRoot := by
  have hcongr : ∀ {w : Registry}, w.documents = a.registry.documents →
      Archive.Sound storageRoot { a with registry := w } := by
    intro w hw
    refine ⟨fun doc hdoc => h.held doc ?_, fun p hp => ?_, h.apart⟩
    · rw [← hw]
      exact hdoc
    · obtain ⟨doc, hdoc, hid⟩ := h.known p hp
      exact ⟨doc, hw ▸ hdoc, hid⟩
  cases hs with
  | visited v drawn w hv hw =>
      rcases hw.retires hv with ⟨hsame, _⟩ | ⟨_, _, _, doc, _, _, hdoc, _, _, _, _, hrep⟩
      · exact hcongr hsame
      · exact h.retired hdoc hrep
  | again env actor newId eventId drawn u f hf hdoc hsame hactive => exact hcongr hsame
  | downloaded env actor eventId docId log => exact ⟨h.held, h.known, h.apart⟩
  | placed env actor newId eventId drawn u f folder a' hf hins hactive hcontent hfolder hpath hnew ha' =>
      subst ha'
      have hfresh := (Table.insert_eq_some.mp hins).1.2
      refine ⟨fun doc hdoc => ?_, fun p hp => ?_, ?_⟩
      · rcases (Table.mem_insert hins).mp hdoc with hold | rfl
        · obtain ⟨p, hp, hid, hlocated⟩ := h.held doc hold
          exact ⟨p, List.mem_append_left _ hp, hid, hlocated.write (hnew p hp)⟩
        · refine ⟨_, List.mem_append_right _ (List.mem_singleton.mpr rfl), rfl, folder, hfolder, hpath, ?_⟩
          exact Disk.read_write _ _ _
      · rcases List.mem_append.mp hp with hp | hp
        · obtain ⟨doc, hdoc, hid⟩ := h.known p hp
          exact ⟨doc, (Table.mem_insert hins).mpr (.inl hdoc), hid⟩
        · rw [List.mem_singleton.mp hp]
          exact ⟨f.returned, (Table.mem_insert hins).mpr (.inr rfl), rfl⟩
      · rw [List.map_append, List.nodup_append_comm]
        refine List.nodup_cons.mpr ⟨fun hmem => ?_, h.apart⟩
        obtain ⟨p, hp, hid⟩ := List.mem_map.mp hmem
        obtain ⟨doc, hdoc, hkey⟩ := h.known p hp
        exact hfresh (List.mem_map.mpr ⟨doc, hdoc, hkey.trans hid⟩)

/-- A document that is not deleted stays as it is. -/
theorem ArchiveStep.kept {doc : StoredDocument} (hs : ArchiveStep cfg files storageRoot a op a')
    (hdoc : doc ∈ a.registry.documents) (hno : doc.isActive = true → ¬ op.Deletes doc.id) :
    doc ∈ a'.registry.documents := by
  cases hs with
  | visited v drawn w hv hw =>
      rcases hw.retires hv with ⟨hsame, _⟩ |
        ⟨env, actor, eventId, old, _, rfl, hold, hactive, _, _, _, hrep⟩
      · show doc ∈ w.documents
        rw [hsame]
        exact hdoc
      · refine Table.mem_replace_of_ne hrep hdoc fun hkey => ?_
        obtain rfl : doc = old := Table.eq_of_key_eq hdoc hold hkey
        exact hno hactive rfl
  | again env actor newId eventId drawn u f hf hret hsame hactive =>
      show doc ∈ f.documents
      rw [hsame]
      exact hdoc
  | downloaded env actor eventId docId log => exact hdoc
  | placed env actor newId eventId drawn u f folder a' hf hins hactive hcontent hfolder hpath hnew ha' =>
      subst ha'
      exact (Table.mem_insert hins).mpr (.inl hdoc)

/-- **A deletion** asks for a proposal that is edited, and leaves the document inactive. -/
theorem ArchiveStep.deleted {doc : StoredDocument} (hs : ArchiveStep cfg files storageRoot a op a')
    (hdoc : doc ∈ a.registry.documents) (hdel : op.Deletes doc.id) :
    { doc with isActive := false } ∈ a'.registry.documents ∧
      ∃ request ∈ a.registry.requests, doc.eventRequestId = some request.id ∧ request.Editable := by
  cases hs with
  | visited v drawn w hv hw =>
      rcases hw.retires hv with ⟨_, hnone⟩ | ⟨env, actor, eventId, old, request, rfl, hold, hactive, hreq,
        hown, hpermit, hrep⟩
      · cases v with
        | deleteDocument env actor eventId docId => exact (hnone _ _ _ _ rfl).elim
        | _ => cases hdel
      · have hkey : old.id = doc.id := hdel
        obtain rfl : old = doc := Table.eq_of_key_eq hold hdoc hkey
        refine ⟨Table.mem_replace_self hrep hold rfl, request, hreq, hown, ?_⟩
        simp only [verifyUploadPermission, bind_accepts, refuse_accepts, exists_unit, not_not] at hpermit
        exact hpermit.1
  | again env actor newId eventId drawn u f hf hret hsame hactive => cases hdel
  | downloaded env actor eventId docId log => cases hdel
  | placed env actor newId eventId drawn u f folder a' hf hins hactive hcontent hfolder hpath hnew ha' =>
      cases hdel

end Steps

/-! ## 3. Downloads -/

/-- What the download of a document answers. -/
def StoredDocument.response (doc : StoredDocument) : FileResponse where
  filename := doc.originalFilename
  mediaType := doc.mimeType
  content := doc.content

section Downloads

variable {storageRoot : Location} {a : Archive} {env : Env} {actor : User} {eventId docId : Uuid}

/-- The list: the active documents of a proposal, to whom it may be shown. -/
theorem listDocuments_accepts {shown : List StoredDocument} :
    listDocuments env actor eventId a = .ok shown ↔
      ∃ request, eventRequest a.registry.requests eventId = .ok request ∧
        VerifyDocumentAccess env request actor ∧
        (a.registry.documents.rows.filter fun doc =>
          doc.eventRequestId = some eventId ∧ doc.isActive = true) = shown := by
  simp only [listDocuments, bind_accepts, refuse_accepts, exists_unit, pure_accepts, not_not]

/-- The place a row's key finds leads to its file. -/
theorem Archive.Sound.find {doc : StoredDocument} (h : a.Sound storageRoot)
    (hdoc : doc ∈ a.registry.documents) :
    ∃ p, a.places.find? (fun p => p.docId = doc.id) = some p ∧
      p.Located storageRoot a.disk doc.content := by
  obtain ⟨p, hp, hid, hlocated⟩ := h.held doc hdoc
  have hsome : (a.places.find? fun p => p.docId = doc.id).isSome = true :=
    List.find?_isSome.mpr ⟨p, hp, decide_eq_true hid⟩
  obtain ⟨q, hq⟩ := Option.isSome_iff_exists.mp hsome
  have hqid := List.find?_some hq
  rw [decide_eq_true_eq] at hqid
  obtain rfl : q = p :=
    List.inj_on_of_nodup_map h.apart (List.mem_of_find?_eq_some hq) hp (hqid.trans hid.symm)
  exact ⟨q, hq, hlocated⟩

/-- The path of the columns leads to the file, inside the storage root. -/
theorem FilePlace.Located.opened {p : FilePlace} {disk : Disk Bytes} {content : Bytes}
    (hroot : ∀ n ∈ storageRoot, Plain n) (h : p.Located storageRoot disk content) :
    storageRoot <+: resolve (join storageRoot p.storagePath) ∧
      disk.read (resolve (join storageRoot p.storagePath)) = some content := by
  obtain ⟨folder, hplain, hpath, hread⟩ := h
  have hresolve : resolve (join storageRoot p.storagePath) =
      storageRoot ++ (folder ++ [p.storedFilename]) := by
    rw [hpath, join_render storageRoot (by simp) hplain]
    refine resolve_plain fun n hn => ?_
    rcases List.mem_append.mp hn with hn | hn
    · exact hroot n hn
    · exact hplain n hn
  rw [hresolve]
  exact ⟨List.prefix_append _ _, hread⟩

/-- **A download answers with a document that the list shows, and with its file.** -/
theorem downloadDocument_iff (hroot : ∀ n ∈ storageRoot, Plain n) (h : a.Sound storageRoot)
    {response : FileResponse} :
    downloadDocument storageRoot env actor eventId docId a = .ok response ↔
      ∃ shown, listDocuments env actor eventId a = .ok shown ∧
        ∃ doc ∈ shown, doc.id = docId ∧ response = doc.response := by
  simp only [listDocuments_accepts, downloadDocument, getDocumentForDownload, bind_accepts,
    refuse_accepts, exists_unit, fetch_accepts, pure_accepts, not_not, not_or]
  constructor
  · rintro ⟨_, ⟨request, hrequest, haccess, doc, hdoc, p, hp, hopen, rfl⟩, rfl⟩
    obtain ⟨hfind, hown⟩ := Option.filter_eq_some_iff.mp hdoc
    have hmem : doc ∈ a.registry.documents := Table.mem_of_find hfind
    obtain ⟨q, hq, hlocated⟩ := h.find hmem
    obtain rfl : p = q := Option.some.inj (hp.symm.trans hq)
    refine ⟨_, ⟨request, hrequest, haccess, rfl⟩, doc, List.mem_filter.mpr ⟨hmem, hown⟩,
      Table.key_of_find hfind, ?_⟩
    rw [(hlocated.opened hroot).2]
    rfl
  · rintro ⟨_, ⟨request, hrequest, haccess, rfl⟩, doc, hdoc, rfl, rfl⟩
    obtain ⟨hmem, hown⟩ := List.mem_filter.mp hdoc
    obtain ⟨p, hp, hlocated⟩ := h.find hmem
    obtain ⟨hinside, hread⟩ := hlocated.opened hroot
    refine ⟨_, ⟨request, hrequest, haccess, doc, ?_, p, hp, ⟨hinside, ?_⟩, rfl⟩, ?_⟩
    · exact Option.filter_eq_some_iff.mpr ⟨Table.find_of_mem hmem, hown⟩
    · rw [hread]
      exact Option.some_ne_none _
    · rw [hread]
      rfl

end Downloads

/-! ## 4. Later states -/

section Runs

variable {cfg : Config} {files : FileSettings} {storageRoot : Location} {a a' : Archive}
  {ops : List ArchiveOp}

/-- A document is as it was until it is deleted, and deleted from then on. -/
theorem Archive.later (hext : files.PlainExtensions) (hroot : ∀ n ∈ storageRoot, Plain n)
    {doc : StoredDocument} (hdoc : doc ∈ a.registry.documents)
    (h : Path (Archive.Step cfg files storageRoot) a ops a') :
    ((∀ op ∈ ops, ¬ op.Deletes doc.id) → doc ∈ a'.registry.documents) ∧
      ((∃ op ∈ ops, op.Deletes doc.id) → { doc with isActive := false } ∈ a'.registry.documents) := by
  refine h.history (P := fun s taken =>
    ((∀ op ∈ taken, ¬ op.Deletes doc.id) → doc ∈ s.registry.documents) ∧
      ((∃ op ∈ taken, op.Deletes doc.id) → { doc with isActive := false } ∈ s.registry.documents))
    ?_ ⟨fun _ => hdoc, ?_⟩
  · rintro s taken op s' ⟨hstays, hgone⟩ hs
    have hstep := hs.step hext hroot
    refine ⟨fun hno => ?_, ?_⟩
    · have hbefore : ∀ o ∈ taken, ¬ o.Deletes doc.id := fun o ho => hno o (List.mem_append_left _ ho)
      exact hstep.kept (hstays hbefore) fun _ =>
        hno op (List.mem_append_right _ (List.mem_singleton.mpr rfl))
    · rintro ⟨o, ho, hdel⟩
      by_cases hearlier : ∃ o ∈ taken, o.Deletes doc.id
      · -- nobody deletes it twice
        exact hstep.kept (hgone hearlier) fun hactive => Bool.noConfusion hactive
      · have hnone : ∀ o ∈ taken, ¬ o.Deletes doc.id := fun o ho hd => hearlier ⟨o, ho, hd⟩
        rcases List.mem_append.mp ho with hin | hlast
        · exact (hnone o hin hdel).elim
        · rw [List.mem_singleton.mp hlast] at hdel
          exact (hstep.deleted (hstays hnone) hdel).1
  · rintro ⟨op, hop, _⟩
    cases hop

/-- **Every reachable archive is sound.** -/
theorem Archive.sound (hext : files.PlainExtensions) (hroot : ∀ n ∈ storageRoot, Plain n)
    (h : Reach Archive.Empty (Archive.Step cfg files storageRoot) a) : a.Sound storageRoot := by
  refine Reach.invariant ?_ (fun s op s' hs hstep => (hstep.step hext hroot).sound hs) h
  rintro s rfl
  refine ⟨fun doc hdoc => ?_, fun p hp => ?_, List.nodup_nil⟩
  · cases hdoc
  · cases hp

/-- A call changes the registry by a visit, or not at all. -/
theorem ArchiveStep.registry {op : ArchiveOp} (hs : ArchiveStep cfg files storageRoot a op a') :
    a'.registry = a.registry ∨ ∃ v, Registry.Step cfg files a.registry v a'.registry := by
  have hvisit : ∀ env actor newId eventId u f, u.exec files env actor newId eventId a.registry = .ok f →
      Registry.Step cfg files a.registry (.upload env actor newId eventId u) (a.registry.file f) := by
    intro env actor newId eventId u f hf
    unfold Registry.Step Registry.exec
    simp only [bind_accepts, pure_accepts]
    exact ⟨f, hf, rfl⟩
  cases hs with
  | visited v drawn w hv hw => exact .inr ⟨v, hw⟩
  | again env actor newId eventId drawn u f hf hret hsame hactive =>
      exact .inr ⟨_, hvisit env actor newId eventId u f hf⟩
  | placed env actor newId eventId drawn u f folder a' hf hins hactive hcontent hfolder hpath hnew ha' =>
      subst ha'
      exact .inr ⟨_, hvisit env actor newId eventId u f hf⟩
  | downloaded env actor eventId docId log => exact .inl rfl

/-- The keys and the documents of every reachable archive. -/
theorem Archive.evidenced (hext : files.PlainExtensions) (hroot : ∀ n ∈ storageRoot, Plain n)
    (h : Reach Archive.Empty (Archive.Step cfg files storageRoot) a) :
    Keyed a.registry ∧ Evidenced a.registry := by
  refine Reach.invariant (P := fun a => Keyed a.registry ∧ Evidenced a.registry) ?_ ?_ h
  · rintro s rfl
    have hempty : Registry.Empty Archive.empty.registry := rfl
    have hboth : Keyed Archive.empty.registry ∧ Ledgered files Archive.empty.registry := hempty.ledgered
    exact ⟨hboth.1, hempty.evidenced⟩
  · intro s op s' hold hstep
    rcases (hstep.step hext hroot).registry with hsame | ⟨v, hs⟩
    · rw [hsame]
      exact hold
    · exact ⟨hs.step.keyed hold.1, hs.evidenced hold.1 hold.2⟩

/-- A visit deletes no proposal. -/
theorem Registry.Step.request_kept {w w' : Registry} {v : Visit} (hk : Keyed w)
    (hs : Registry.Step cfg files w v w') {id : Uuid} (h : ∃ r ∈ w.requests, r.id = id) :
    ∃ r ∈ w'.requests, r.id = id := by
  obtain ⟨r, hr, rfl⟩ := h
  obtain ⟨i, d, hd, rfl⟩ := Registry.mem_requests hr
  have hof : ∀ {w : Registry} {j : Nat} {e : Dossier}, w.dossiers[j]? = some e →
      e.proposal.request ∈ w.requests :=
    fun he => List.mem_map.mpr ⟨_, List.mem_of_getElem? he, rfl⟩
  rcases hs.visited with ⟨new, _, rfl⟩ | ⟨j, q, e, e', he, hstep, rfl⟩ | ⟨f, _, rfl⟩
  · refine ⟨_, hof (j := i) ?_, rfl⟩
    unfold Registry.add
    rw [List.getElem?_append_left (List.getElem?_eq_some_iff.mp hd).1]
    exact hd
  · by_cases hij : i = j
    · rw [hij, he] at hd
      cases hd
      refine ⟨_, hof (j := j) (List.getElem?_set_self (List.getElem?_eq_some_iff.mp he).1), ?_⟩
      exact (hstep.keys (hk.standing j _ he).1 (hk.standing j _ he).2).1
    · refine ⟨_, hof (j := i) ?_, rfl⟩
      unfold Registry.update
      rw [List.getElem?_set_ne (fun hji => hij hji.symm)]
      exact hd
  · exact ⟨_, hof (j := i) hd, rfl⟩

/-- A proposal is there for good. -/
theorem Archive.request_later (hext : files.PlainExtensions) (hroot : ∀ n ∈ storageRoot, Plain n)
    (h : Reach Archive.Empty (Archive.Step cfg files storageRoot) a) {id : Uuid}
    (hid : ∃ r ∈ a.registry.requests, r.id = id) {ops : List ArchiveOp}
    (hp : Path (Archive.Step cfg files storageRoot) a ops a') :
    ∃ request, eventRequest a'.registry.requests id = .ok request := by
  have hkept := hp.preserves
    (P := fun a => Reach Archive.Empty (Archive.Step cfg files storageRoot) a ∧
      ∃ r ∈ a.registry.requests, r.id = id) ?_ ⟨h, hid⟩
  · obtain ⟨r, hr, hkey⟩ := hkept.2
    have hsome : (a'.registry.requests.find? fun r => r.id = id).isSome = true :=
      List.find?_isSome.mpr ⟨r, hr, decide_eq_true hkey⟩
    obtain ⟨request, hfind⟩ := Option.isSome_iff_exists.mp hsome
    refine ⟨request, ?_⟩
    unfold eventRequest
    rw [fetch_accepts]
    exact hfind
  · intro s op s' hold hs
    obtain ⟨hreach, hmem⟩ := hold
    refine ⟨.next hreach hs, ?_⟩
    rcases (hs.step hext hroot).registry with hsame | ⟨v, hv⟩
    · rw [hsame]
      exact hmem
    · exact hv.request_kept (Archive.evidenced hext hroot hreach).1 hmem

/-- **What an upload gives back** is active, in the list of its proposal, which there is: the row it
    inserts, or the bill of the same content the event has already. -/
theorem Upload.exec_filed {env : Env} {actor : User} {newId eventId : Uuid} {u : Upload} {f : Filed}
    {w : Registry} (hk : Keyed w) (hev : Evidenced w)
    (h : u.exec files env actor newId eventId w = .ok f) :
    ∃ proposal, u.proposal eventId w = some proposal ∧ (∃ r ∈ w.requests, r.id = proposal) ∧
      f.returned ∈ f.documents ∧ f.returned.isActive = true ∧
      f.returned.eventRequestId = some proposal ∧
      (f.returned.id = newId ∧ f.returned.content = u.file.content ∨
        f.returned ∈ w.documents ∧ f.returned.fileHash = some (files.sha256 u.file.content)) := by
  -- the proposal of an event is there
  have hthere : ∀ event ∈ w.events, ∃ r ∈ w.requests, r.id = event.eventRequestId := by
    intro event hmem
    obtain ⟨i, s, hget, rfl⟩ := Registry.mem_events hmem
    exact ⟨_, List.mem_map.mpr ⟨_, List.mem_of_getElem? hget, rfl⟩,
      ((hk.standing i _ hget).2 s.event rfl).symm⟩
  cases Upload.exec_returns h with
  | again event hmem hproposal hdoc hsame hactive hown hhash =>
      refine ⟨event.eventRequestId, hproposal, hthere event hmem, ?_, hactive, ?_, .inr ⟨hdoc, hhash⟩⟩
      · rw [hsame]
        exact hdoc
      · obtain ⟨other, hother, hid, hreq⟩ := hev.placed f.returned hdoc _ hown
        obtain ⟨i, s, hs, rfl⟩ := Registry.mem_events hmem
        obtain ⟨j, t, ht, rfl⟩ := Registry.mem_events hother
        obtain rfl : i = j := hk.events i j s t hs ht hid.symm
        rw [hs] at ht
        cases ht
        exact hreq
  | inserted request hproposal hrequest hins hext hactive hid hcontent hunder =>
      refine ⟨request, hproposal, ?_, (Table.mem_insert hins).mpr (.inr rfl), hactive, hunder,
        .inl ⟨hid, hcontent⟩⟩
      rcases hrequest with hr | ⟨event, hmem, rfl⟩
      · exact hr
      · exact hthere event hmem

/-- The registry after an upload. -/
theorem ArchiveStep.uploaded {env : Env} {actor : User} {newId eventId drawn : Uuid} {u : Upload}
    (hs : ArchiveStep cfg files storageRoot a (.visit (.upload env actor newId eventId u) drawn) a') :
    ∃ f, u.exec files env actor newId eventId a.registry = .ok f ∧
      a'.registry = a.registry.file f := by
  cases hs with
  | visited v drawn w hv hw => exact (hv _ _ _ _ _ rfl).elim
  | again env actor newId eventId drawn u f hf hdoc hsame hactive => exact ⟨f, hf, rfl⟩
  | placed env actor newId eventId drawn u f folder a' hf hins hactive hcontent hfolder hpath hnew ha' =>
      subst ha'
      exact ⟨f, hf, rfl⟩

/-! ## 5. The law -/

/-- **What is filed is served, to whom it may be, until it is deleted.** In every state that drafts,
    requests, uploads, deletions and downloads reach, a download answers exactly with what the list of the
    proposal shows to the same user, and with the file that was uploaded. What an upload gives back, the
    row it inserts or the bill of the same content, is in the list of its proposal from then on, for
    everybody it may be shown to and until somebody deletes it; whatever follows, a document that nobody
    deletes is served as it was filed, one that somebody deletes is served to nobody any more, and a
    deletion asks for a proposal that is edited. -/
theorem filed_is_served (cfg : Config) (files : FileSettings) (storageRoot : Location)
    (hext : files.PlainExtensions) (hroot : ∀ n ∈ storageRoot, Plain n)
    (h : Reach Archive.Empty (Archive.Step cfg files storageRoot) a) :
    (∀ env actor eventId docId response,
      downloadDocument storageRoot env actor eventId docId a = .ok response ↔
        ∃ shown, listDocuments env actor eventId a = .ok shown ∧
          ∃ doc ∈ shown, doc.id = docId ∧ response = doc.response) ∧
    (∀ env actor newId eventId u drawn a',
      Archive.Step cfg files storageRoot a (.visit (.upload env actor newId eventId u) drawn) a' →
        ∃ f proposal, u.exec files env actor newId eventId a.registry = .ok f ∧
          u.proposal eventId a.registry = some proposal ∧
          (f.returned.id = newId ∧ f.returned.content = u.file.content ∨
            f.returned ∈ a.registry.documents ∧
              f.returned.fileHash = some (files.sha256 u.file.content)) ∧
          ∀ ops a'', Path (Archive.Step cfg files storageRoot) a' ops a'' →
            (∀ op ∈ ops, ¬ op.Deletes f.returned.id) →
              ∃ request, eventRequest a''.registry.requests proposal = .ok request ∧
                ∀ env actor, VerifyDocumentAccess env request actor →
                  ∃ shown, listDocuments env actor proposal a'' = .ok shown ∧ f.returned ∈ shown) ∧
    (∀ docId op a', Archive.Step cfg files storageRoot a op a' → op.Deletes docId →
      ∀ doc ∈ a.registry.documents, doc.id = docId → ∃ request ∈ a.registry.requests,
        doc.eventRequestId = some request.id ∧ request.Editable) ∧
    ∀ doc ∈ a.registry.documents, doc.isActive = true → ∀ ops a',
      Path (Archive.Step cfg files storageRoot) a ops a' →
        ((∀ op ∈ ops, ¬ op.Deletes doc.id) → ∀ env actor eventId request,
          doc.eventRequestId = some eventId →
          eventRequest a'.registry.requests eventId = .ok request →
          VerifyDocumentAccess env request actor →
          downloadDocument storageRoot env actor eventId doc.id a' = .ok doc.response) ∧
        ((∃ op ∈ ops, op.Deletes doc.id) → ∀ env actor eventId response,
          downloadDocument storageRoot env actor eventId doc.id a' ≠ .ok response) := by
  have hsound := Archive.sound hext hroot h
  refine ⟨fun env actor eventId docId response => downloadDocument_iff hroot hsound, ?_, ?_, ?_⟩
  · intro env actor newId eventId u drawn a' hs
    obtain ⟨hk, hev⟩ := Archive.evidenced hext hroot h
    obtain ⟨f, hf, hafter⟩ := (hs.step hext hroot).uploaded
    obtain ⟨proposal, hproposal, hthere, hmem, hactive, hunder, hwhich⟩ := Upload.exec_filed hk hev hf
    refine ⟨f, proposal, hf, hproposal, hwhich, fun ops a'' hp hno => ?_⟩
    have hshelved : f.returned ∈ a'.registry.documents := by
      rw [hafter]
      exact hmem
    have hkept := (Archive.later hext hroot hshelved hp).1 hno
    obtain ⟨request, hrequest⟩ := Archive.request_later hext hroot h hthere (.cons hs hp)
    refine ⟨request, hrequest, fun env actor haccess => ⟨_, listDocuments_accepts.mpr
      ⟨request, hrequest, haccess, rfl⟩, ?_⟩⟩
    exact List.mem_filter.mpr ⟨hkept, decide_eq_true ⟨hunder, hactive⟩⟩
  · rintro docId op a' hs hdel doc hdoc rfl
    exact ((hs.step hext hroot).deleted hdoc hdel).2
  · intro doc hdoc hactive ops a' hp
    obtain ⟨hstays, hgone⟩ := Archive.later hext hroot hdoc hp
    have hsound' := Archive.sound hext hroot (h.path hp)
    refine ⟨fun hno env actor eventId request hown hrequest haccess => ?_,
      fun hdel env actor eventId response hserved => ?_⟩
    · refine (downloadDocument_iff hroot hsound').mpr ⟨_, listDocuments_accepts.mpr
        ⟨request, hrequest, haccess, rfl⟩, doc, ?_, rfl, rfl⟩
      exact List.mem_filter.mpr ⟨hstays hno, decide_eq_true ⟨hown, hactive⟩⟩
    · obtain ⟨shown, hlist, row, hrow, hid, _⟩ := (downloadDocument_iff hroot hsound').mp hserved
      obtain ⟨_, _, _, rfl⟩ := listDocuments_accepts.mp hlist
      obtain ⟨hmem, hshown⟩ := List.mem_filter.mp hrow
      rw [decide_eq_true_eq] at hshown
      obtain rfl := Table.eq_of_key_eq hmem (hgone hdel) hid
      cases hshown.2

end Runs

namespace Sample

/-- `/app/uploads`. -/
def storageRoot : Location := ["app".toList, "uploads".toList]

/-- A draft. -/
def drafted : ArchiveOp :=
  .visit (.draft env secretary (uid 1)
    { clubId := uid 13
      title := "event".toList
      eventType := .workshop
      academicYear := "2025".toList }) (uid 0)

/-- A document for it. -/
def filed : ArchiveOp :=
  .visit (.upload env secretary (uid 2) (uid 1) (.document (pdf 1) .supporting)) (uid 3)

end Sample

/-- The document of a draft is in the list of the warden of the halls, who gets the file. -/
theorem filed_is_served_sample : ∃ a a',
    Reach Archive.Empty (Archive.Step (Sample.config .sqlite) Sample.files Sample.storageRoot) a ∧
      Archive.Step (Sample.config .sqlite) Sample.files Sample.storageRoot a Sample.filed a' ∧
      (∃ shown, listDocuments Sample.env Sample.warden (Sample.uid 1) a' = .ok shown ∧
        ∃ doc ∈ shown, doc.content = (Sample.pdf 1).content) ∧
      downloadDocument Sample.storageRoot Sample.env Sample.warden (Sample.uid 1) (Sample.uid 2) a' =
        .ok ⟨"bill.pdf".toList, "application/pdf".toList, (Sample.pdf 1).content⟩ := by
  have hrun : Ends (Archive.empty.exec (Sample.config .sqlite) Sample.files Sample.storageRoot
      Sample.drafted) fun a => a.registry.documents.rows = [] ∧
      Ends (a.exec (Sample.config .sqlite) Sample.files Sample.storageRoot Sample.filed) fun a' =>
        Ends (listDocuments Sample.env Sample.warden (Sample.uid 1) a') fun shown => ∃ doc ∈ shown,
          doc.id = Sample.uid 2 ∧
            (⟨"bill.pdf".toList, "application/pdf".toList, (Sample.pdf 1).content⟩ : FileResponse) =
              doc.response := by
    decide +kernel
  obtain ⟨a, ha, hnone, a', ha', shown, hlist, hdoc⟩ := hrun
  have hreach : Reach Archive.Empty
      (Archive.Step (Sample.config .sqlite) Sample.files Sample.storageRoot) a :=
    .next (.start rfl) ha
  have hplain : ∀ n ∈ Sample.storageRoot, Plain n := by
    intro n hn
    rcases List.mem_cons.mp hn with rfl | hn
    · constructor <;> decide
    · rw [List.mem_singleton.mp hn]
      constructor <;> decide
  have hext : Sample.files.PlainExtensions := by
    unfold FileSettings.PlainExtensions
    decide
  refine ⟨a, a', hreach, ha', ?_, ?_⟩
  · obtain ⟨f, proposal, _, hproposal, hwhich, hshown⟩ := (filed_is_served (Sample.config .sqlite)
      Sample.files Sample.storageRoot hext hplain hreach).2.1 _ _ _ _ _ _ a' ha'
    cases hproposal
    obtain ⟨request, _, hserves⟩ := hshown [] a' (.nil a') fun op hop => by cases hop
    obtain ⟨shown, hlist, hmem⟩ := hserves Sample.env Sample.warden (.inr (.inl (by decide)))
    rcases hwhich with ⟨_, hcontent⟩ | ⟨hold, _⟩
    · exact ⟨shown, hlist, f.returned, hmem, hcontent⟩
    · have hrow : f.returned ∈ a.registry.documents.rows := hold
      rw [hnone] at hrow
      cases hrow
  · obtain ⟨hserved, _⟩ := filed_is_served (Sample.config .sqlite) Sample.files Sample.storageRoot hext
      hplain (hreach.next ha')
    exact (hserved _ _ _ _ _).mpr ⟨shown, hlist, hdoc⟩

end CampusConnect
