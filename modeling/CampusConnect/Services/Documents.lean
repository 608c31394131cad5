/-
  File:      CampusConnect/Services/Documents.lean
  Subject:   The document service (`document_service.py`): five uploads and a deletion.

  * `StoredDocument`: a row of `documents` with the file at its path, `fileSizeBytes`;
  * `uploadDocument`, `uploadPostEventEvidence`: uploads that store no digest of the file;
  * `uploadExpenseInvoice`: the one that looks for another event's bill of the same digest;
  * `uploadIncomeEvidence`, `uploadSettlementPaymentProof`: the two that store a digest and look for
    nothing;
  * `deleteDocument`: the soft deletion, which the file survives.

  Every upload writes its file under a name of its own inside the storage root.
-/
import CampusConnect.Services.Drafting

namespace CampusConnect

open Guarded Rows

/-! ## 1. Files and their rows -/

abbrev Bytes := List UInt8

/-- `UploadFile`. -/
structure UploadFile where
  filename : Option Text := none
  contentType : Option Text := none
  content : Bytes
  deriving DecidableEq, Repr

/-- The settings and the library functions of the service. -/
structure FileSettings where
  /-- `settings.ALLOWED_EXTENSIONS`. -/
  allowedExtensions : List Text
  /-- `settings.MAX_FILE_SIZE_BYTES`. -/
  maxFileSizeBytes : Nat
  /-- `str.lower`. -/
  lower : Text → Text
  /-- `hashlib.sha256(content).hexdigest()`. -/
  sha256 : Bytes → Text

/-- A row of `documents`, with the content of its file. A coordinate counts millionths of a degree. -/
structure StoredDocument extends Document where
  uploadedBy : Uuid
  originalFilename : Text
  mimeType : Text
  geoLatitude : Option Int := none
  geoLongitude : Option Int := none
  geoSource : Option Text := none
  fileHash : Option Text := none
  content : Bytes
  deriving DecidableEq, Repr

def StoredDocument.fileSizeBytes (doc : StoredDocument) : Nat := doc.content.length

instance : Row StoredDocument Uuid where
  key doc := doc.id
  Check doc := 0 < doc.fileSizeBytes
  decCheck doc := inferInstanceAs (Decidable (0 < doc.fileSizeBytes))

/-- What an upload or a deletion leaves: the table, the row it returns and its audit entries. -/
structure Filed where
  documents : Table StoredDocument
  returned : StoredDocument
  entries : List AuditEntry

namespace DocumentService

/-- `a or b` for a form field. -/
def orDefault (field : Option Text) (default : String) : Text :=
  (field.filter (fun t => t ≠ [])).getD default.toList

/-- `Path(name).name`: the last component. -/
def pathName (name : Text) : Text :=
  ((name.splitOn '/').filter (fun part => part ≠ [] ∧ part ≠ ['.'])).getLast?.getD []

/-- `raw_filename.rsplit(".", 1)[-1].lower() if "." in raw_filename else ""`. -/
def extension (files : FileSettings) (rawFilename : Text) : Text :=
  if '.' ∈ rawFilename then
    files.lower (rawFilename.reverse.takeWhile (fun c => c ≠ '.')).reverse
  else []

/-- `MAGIC_SIGNATURES.get(ext, [])`. -/
def magicSignatures (ext : Text) : List Bytes :=
  if ext = "pdf".toList then [[0x25, 0x50, 0x44, 0x46, 0x2D]]
  else if ext = "png".toList then [[0x89, 0x50, 0x4E, 0x47, 0x0D, 0x0A, 0x1A, 0x0A]]
  else if ext = "jpg".toList ∨ ext = "jpeg".toList then [[0xFF, 0xD8, 0xFF]]
  else if ext = "docx".toList then [[0x50, 0x4B, 0x03, 0x04]]
  else []

/-- `any(content.startswith(sig) for sig in signatures)`. -/
def MatchesMagic (ext : Text) (content : Bytes) : Prop :=
  ∃ sig ∈ magicSignatures ext, sig <+: content

instance (ext : Text) (content : Bytes) : Decidable (MatchesMagic ext content) :=
  inferInstanceAs (Decidable (∃ sig ∈ magicSignatures ext, _))

/-- `MIME_TYPE_MAP.get(ext, default)`. -/
def mimeType (ext default : Text) : Text :=
  if ext = "pdf".toList then "application/pdf".toList
  else if ext = "png".toList then "image/png".toList
  else if ext = "jpg".toList ∨ ext = "jpeg".toList then "image/jpeg".toList
  else if ext = "docx".toList then
    "application/vnd.openxmlformats-officedocument.wordprocessingml.document".toList
  else default

/-- `1024 * 1024`. -/
def megabyte : Nat := 1024 * 1024

/-- `f"{size / (1024 * 1024):.1f}"`: tenths, rounded half to even. -/
def tenths (size : Nat) : Text :=
  let q := size * 10 / megabyte
  let r := size * 10 % megabyte
  let t := if megabyte < 2 * r ∨ (megabyte = 2 * r ∧ q % 2 = 1) then q + 1 else q
  (toString (t / 10)).toList ++ '.' :: (toString (t % 10)).toList

/-- `", ".join(settings.ALLOWED_EXTENSIONS)`. -/
def joined (extensions : List Text) : Text := ", ".toList.intercalate extensions

/-- The event a path names, by its own key or by its proposal's. -/
def confirmedEvent (events : List Event) (eventId : Uuid) : Result Event :=
  fetch (events.find? (fun e => e.id = eventId ∨ e.eventRequestId = eventId))
    ⟨.notFound, "Confirmed event '%s' not found.", [.uuid eventId]⟩

/-- The proposal a path names. -/
def eventRequest (requests : List EventRequest) (eventId : Uuid) : Result EventRequest :=
  fetch (requests.find? (fun r => r.id = eventId))
    ⟨.notFound, "Event request '%s' not found.", [.uuid eventId]⟩

/-! ## 2. Documents of a proposal -/

/-- `verify_upload_permission`. -/
def verifyUploadPermission (env : Env) (event : EventRequest) (actor : User) : Result Unit := do
  refuse (¬ event.Editable)
    ⟨.workflowState, "Documents can only be uploaded in DRAFT or REVISION_REQUIRED status. " ++
      "Current status is '%s'.", [.name event.status.value]⟩
  refuse (actor.role ≠ .systemAdmin ∧ event.submittedBy ≠ actor.id ∧
      ¬ env.IsSecretary event.clubId actor.id)
    ⟨.forbidden, "Only club secretary or proposal submitter may modify documents.", []⟩

/-- The `INSERT` and the audit entry of an upload. -/
def insertDocument (env : Env) (actor : User) (action : AuditAction) (newState : StateDict)
    (doc : StoredDocument) (documents : Table StoredDocument) : Result Filed := do
  let documents ← fetch (documents.insert doc) integrityError
  return ⟨documents, doc, [createAuditEntry env actor action "document" doc.id none (some newState)]⟩

/-- `upload_document`; the type is the caller's, and no digest is stored. -/
def uploadDocument (files : FileSettings) (env : Env) (actor : User) (newId eventId : Uuid)
    (file : UploadFile) (documentType : DocumentType) (requests : List EventRequest)
    (documents : Table StoredDocument) : Result Filed := do
  let event ← eventRequest requests eventId
  verifyUploadPermission env event actor
  let rawFilename := orDefault file.filename "file.pdf"
  let ext := extension files rawFilename
  refuse (ext ∉ files.allowedExtensions)
    ⟨.badRequest, "Extension '%s' is not allowed. Allowed extensions: %s",
      [.text ext, .text (joined files.allowedExtensions)]⟩
  let fileSize := file.content.length
  refuse (fileSize = 0) ⟨.badRequest, "Cannot upload an empty file.", []⟩
  refuse (files.maxFileSizeBytes < fileSize)
    ⟨.badRequest, "File size exceeds maximum limit of %s MB.",
      [.text (tenths files.maxFileSizeBytes)]⟩
  refuse (¬ MatchesMagic ext file.content)
    ⟨.badRequest, "File content does not match expected signature for extension '%s'.",
      [.text ext]⟩
  insertDocument env actor .fileUploaded
    [("event_request_id", .uuid eventId), ("original_filename", .text rawFilename),
      ("document_type", .name documentType.value), ("file_size_bytes", .number fileSize)]
    { id := newId
      isActive := true
      documentType := documentType
      eventId := none
      eventRequestId := some eventId
      uploadedBy := actor.id
      originalFilename := rawFilename
      mimeType := mimeType ext (orDefault file.contentType "application/octet-stream")
      content := file.content } documents

/-- `delete_document`: the row becomes inactive. -/
def deleteDocument (env : Env) (actor : User) (eventId docId : Uuid) (requests : List EventRequest)
    (documents : Table StoredDocument) : Result Filed := do
  let event ← eventRequest requests eventId
  verifyUploadPermission env event actor
  let doc ← fetch ((documents.find docId).filter fun d =>
      d.eventRequestId = some eventId ∧ d.isActive = true)
    ⟨.notFound, "Document not found or already inactive.", []⟩
  let row : StoredDocument := { doc with isActive := false }
  let documents ← fetch (documents.replace row) integrityError
  return ⟨documents, row,
    [createAuditEntry env actor .fileDeleted "document" doc.id (some [("is_active", .flag true)])
      (some [("is_active", .flag false)])]⟩

/-! ## 3. Evidence of an event -/

/-- The coordinates a client declares. -/
structure GeoTag where
  latitude : Option Int := none
  longitude : Option Int := none
  source : Option Text := none
  deriving DecidableEq, Repr

/-- `geo_source or ("CLIENT_DECLARED" if geo_latitude is not None else None)`. -/
def GeoTag.declared (geo : GeoTag) : Option Text :=
  (geo.source.filter (fun t => t ≠ [])).or (geo.latitude.map fun _ => "CLIENT_DECLARED".toList)

/-- The refusal of a document of a sealed event. -/
def requireUnsealed (event : Event) : Result Unit :=
  refuse event.Sealed
    ⟨.conflict, "Event '%s' is in terminal status '%s' and cannot accept documents.",
      [.uuid event.id, .name event.status.value]⟩

/-- `upload_post_event_evidence`; the type is the caller's, and no digest is stored. -/
def uploadPostEventEvidence (files : FileSettings) (env : Env) (actor : User)
    (newId eventId : Uuid) (file : UploadFile) (documentType : DocumentType) (geo : GeoTag)
    (events : List Event) (documents : Table StoredDocument) : Result Filed := do
  let event ← confirmedEvent events eventId
  requireUnsealed event
  refuse (¬ (event.status = .inProgress ∨ event.status = .completed))
    ⟨.workflowState, "Cannot upload evidence for event in '%s' status. Must be " ++
      "IN_PROGRESS/COMPLETED.", [.name event.status.value]⟩
  refuse (¬ env.IsSecretary event.clubId actor.id ∧ actor.role ≠ .systemAdmin)
    ⟨.forbidden, "Only the active Club Secretary can upload post-event evidence.", []⟩
  let rawFilename := orDefault file.filename "photo.jpg"
  let ext := extension files rawFilename
  refuse (ext ∉ files.allowedExtensions)
    ⟨.badRequest, "Extension '.%s' not allowed. Allowed: %s",
      [.text ext, .text (joined files.allowedExtensions)]⟩
  let fileSize := file.content.length
  refuse (files.maxFileSizeBytes < fileSize)
    ⟨.badRequest, "File size (%s bytes) exceeds %s MB limit.",
      [.number fileSize, .number (files.maxFileSizeBytes / megabyte)]⟩
  refuse (fileSize = 0) ⟨.badRequest, "Cannot upload an empty file.", []⟩
  refuse (¬ MatchesMagic ext file.content)
    ⟨.badRequest, "File content does not match expected magic bytes signature for extension " ++
      "'%s'.", [.text ext]⟩
  insertDocument env actor .postEventEvidenceUploaded
    [("event_id", .uuid event.id), ("original_filename", .text rawFilename),
      ("document_type", .name documentType.value), ("file_size_bytes", .number fileSize),
      ("has_geo", .flag geo.latitude.isSome)]
    { id := newId
      isActive := true
      documentType := documentType
      eventId := some event.id
      eventRequestId := some event.eventRequestId
      uploadedBy := actor.id
      originalFilename := rawFilename
      mimeType := (file.contentType.filter (fun t => t ≠ [])).getD ("image/".toList ++ ext)
      geoLatitude := geo.latitude
      geoLongitude := geo.longitude
      geoSource := geo.declared
      content := file.content } documents

/-! ## 4. Financial documents -/

/-- What the three uploads of a financial document differ in. -/
structure FinanceUpload where
  documentType : DocumentType
  action : AuditAction
  emptyText : String
  formatText : String
  defaultName : String

/-- The checks of the file, in their order. -/
def verifyFinanceFile (files : FileSettings) (kind : FinanceUpload) (file : UploadFile) :
    Result Unit := do
  let ext := extension files (pathName (orDefault file.filename kind.defaultName))
  refuse (file.content.length = 0) ⟨.badRequest, kind.emptyText, []⟩
  refuse (files.maxFileSizeBytes < file.content.length)
    ⟨.badRequest, "File size exceeds maximum permitted limit of %s MB.",
      [.number (files.maxFileSizeBytes / megabyte)]⟩
  refuse (ext ∉ ["pdf".toList, "png".toList, "jpg".toList, "jpeg".toList])
    ⟨.badRequest, kind.formatText, [.text ext]⟩
  refuse (magicSignatures ext ≠ [] ∧ ¬ MatchesMagic ext file.content)
    ⟨.badRequest, "File content does not match declared format '%s' (magic signature mismatch).",
      [.text ext]⟩

/-- The row of a financial document. -/
def financeDocument (files : FileSettings) (kind : FinanceUpload) (actor : User) (newId : Uuid)
    (file : UploadFile) (event : Event) : StoredDocument :=
  let rawFilename := pathName (orDefault file.filename kind.defaultName)
  { id := newId
    isActive := true
    documentType := kind.documentType
    eventId := some event.id
    eventRequestId := some event.eventRequestId
    uploadedBy := actor.id
    originalFilename := rawFilename
    mimeType := mimeType (extension files rawFilename) "application/octet-stream".toList
    fileHash := some (files.sha256 file.content)
    content := file.content }

/-- The row and its audit entry. -/
def storeFinance (files : FileSettings) (env : Env) (kind : FinanceUpload) (actor : User)
    (newId : Uuid) (file : UploadFile) (event : Event) (documents : Table StoredDocument) :
    Result Filed :=
  let doc := financeDocument files kind actor newId file event
  insertDocument env actor kind.action
    [("event_id", .uuid event.id), ("original_filename", .text doc.originalFilename),
      ("document_type", .name kind.documentType.value),
      ("file_size_bytes", .number doc.fileSizeBytes), ("file_hash", Value.ofText doc.fileHash)]
    doc documents

/-- The refusal of anybody but a secretary of the event's club or an administrator. -/
def requireSecretary (env : Env) (event : Event) (actor : User) (text : String) : Result Unit :=
  refuse (actor.role ≠ .systemAdmin ∧ ¬ env.IsSecretary event.clubId actor.id)
    ⟨.forbidden, text, []⟩

def expenseInvoice : FinanceUpload where
  documentType := .expenseInvoice
  action := .expenseDocumentAttached
  emptyText := "Uploaded bill file is empty."
  formatText := "Unsupported bill format '%s'. Allowed formats: PDF, PNG, JPG, JPEG."
  defaultName := "invoice.pdf"

/-- A bill of this digest that an upload has stored. -/
def BillOf (fileHash : Text) (doc : StoredDocument) : Prop :=
  doc.fileHash = some fileHash ∧ doc.documentType = .expenseInvoice ∧ doc.isActive = true

instance (fileHash : Text) (doc : StoredDocument) : Decidable (BillOf fileHash doc) :=
  inferInstanceAs (Decidable (_ ∧ _ ∧ _))

/-- `upload_expense_invoice`. A bill of the same digest that the event has already is used again; SQL's
    `!=` leaves rows without an event out of the search for another event's. -/
def uploadExpenseInvoice (files : FileSettings) (env : Env) (actor : User) (newId eventId : Uuid)
    (file : UploadFile) (events : List Event) (documents : Table StoredDocument) :
    Result Filed := do
  let event ← confirmedEvent events eventId
  refuse (event.status ≠ .completed)
    ⟨.workflowState, "Expenses and bills can only be uploaded for COMPLETED events (current " ++
      "status: '%s').", [.name event.status.value]⟩
  requireSecretary env event actor
    "Only the designated Club Secretary can upload bills for this event."
  verifyFinanceFile files expenseInvoice file
  let fileHash := files.sha256 file.content
  refuse (∃ doc ∈ documents.rows, BillOf fileHash doc ∧ ∃ other ∈ doc.eventId, other ≠ event.id)
    ⟨.conflict, "Duplicate bill detected: this document has already been submitted for another " ++
      "event (SHA-256: %s...).", [.text (fileHash.take 12)]⟩
  match documents.rows.find? (fun doc => BillOf fileHash doc ∧ doc.eventId = some event.id) with
  | some doc => return ⟨documents, doc, []⟩
  | none => storeFinance files env expenseInvoice actor newId file event documents

def incomeEvidence : FinanceUpload where
  documentType := .incomeEvidence
  action := .fileUploaded
  emptyText := "Uploaded evidence file is empty."
  formatText := "Unsupported format '%s'. Allowed formats: PDF, PNG, JPG, JPEG."
  defaultName := "income_evidence.pdf"

/-- `upload_income_evidence`. -/
def uploadIncomeEvidence (files : FileSettings) (env : Env) (actor : User) (newId eventId : Uuid)
    (file : UploadFile) (events : List Event) (documents : Table StoredDocument) :
    Result Filed := do
  let event ← confirmedEvent events eventId
  refuse (event.status ≠ .completed)
    ⟨.workflowState, "Income evidence can only be uploaded for COMPLETED events (current " ++
      "status: '%s').", [.name event.status.value]⟩
  requireSecretary env event actor
    "Only the designated Club Secretary can upload income evidence for this event."
  verifyFinanceFile files incomeEvidence file
  storeFinance files env incomeEvidence actor newId file event documents

def settlementPaymentProof : FinanceUpload where
  documentType := .settlementPaymentProof
  action := .fileUploaded
  emptyText := "Uploaded proof file is empty."
  formatText := "Unsupported format '%s'. Allowed formats: PDF, PNG, JPG, JPEG."
  defaultName := "payment_proof.pdf"

/-- `upload_settlement_payment_proof`. -/
def uploadSettlementPaymentProof (files : FileSettings) (env : Env) (actor : User)
    (newId eventId : Uuid) (file : UploadFile) (events : List Event)
    (documents : Table StoredDocument) : Result Filed := do
  let event ← confirmedEvent events eventId
  requireUnsealed event
  refuse (actor.role ≠ .financeOfficer)
    ⟨.forbidden, "Only Finance Officers can upload settlement payment proof documents.", []⟩
  verifyFinanceFile files settlementPaymentProof file
  storeFinance files env settlementPaymentProof actor newId file event documents

end DocumentService

end CampusConnect
