/-
  File:      CampusConnect/Services/Storage.lean
  Subject:   The files behind the documents (`document_service.py`): where an upload puts its file, and who
             is shown which.

  * `Upload.folder`, `Upload.storedFilename`, `Upload.storagePath`: the place of a file;
  * `Archive`: the registry with the columns of the places, the disk and the log of the downloads;
  * `DocumentService.VerifyDocumentAccess`, `listDocuments`, `getDocumentForDownload`, `downloadDocument`;
  * `Archive.exec`, `Archive.Step`: a visit of the registry, whose upload writes a file, or a download.
-/
import CampusConnect.Base.Files
import CampusConnect.Registry

namespace CampusConnect

open Guarded Rows Files DocumentService

/-! ## 1. The place of a file -/

/-- The directory of the file below the storage root. -/
def Upload.folder (u : Upload) (eventId : Uuid) (w : Registry) : Result Location :=
  match u with
  | .document _ _ => return [eventId.str]
  | .postEventEvidence _ _ _ => do
      let event ← confirmedEvent w.events eventId
      return [event.eventRequestId.str]
  | .expenseInvoice _ => do
      let event ← confirmedEvent w.events eventId
      return ["events".toList, event.id.str, "expenses".toList]
  | .incomeEvidence _ => do
      let event ← confirmedEvent w.events eventId
      return ["events".toList, event.id.str, "incomes".toList]
  | .settlementPaymentProof _ => do
      let event ← confirmedEvent w.events eventId
      return ["events".toList, event.id.str, "settlement".toList]

/-- `f"{uuid4}.{ext}"`, by the digits alone or in their groups. -/
def Upload.storedFilename (u : Upload) (files : FileSettings) (drawn : Uuid) (rawFilename : Text) :
    Text :=
  let ext := extension files rawFilename
  match u with
  | .document _ _ => drawn.hex ++ '.' :: ext
  | .postEventEvidence _ _ _ => drawn.hex ++ '.' :: ext
  | .expenseInvoice _ => drawn.str ++ '.' :: ext
  | .incomeEvidence _ => drawn.str ++ '.' :: ext
  | .settlementPaymentProof _ => drawn.str ++ '.' :: ext

/-- `storage_path`; that of a proposal's document is the text of a `Path`, with `\` replaced. -/
def Upload.storagePath (u : Upload) (folder : Location) (storedFilename : Text) : Text :=
  let path := render (folder ++ [storedFilename])
  match u with
  | .document _ _ => path.map fun c => if c = '\\' then '/' else c
  | _ => path

/-- What a destination outside the storage root raises. -/
def Upload.traversal : Upload → Failure
  | .document _ _ => ⟨.badRequest, "Path traversal detected.", []⟩
  | .postEventEvidence _ _ _ => ⟨.forbidden, "Path traversal detected.", []⟩
  | _ => ⟨.badRequest, "Invalid file path (directory traversal attempted).", []⟩

/-! ## 2. The archive -/

/-- The columns of a row of `documents` that say where its file is. -/
structure FilePlace where
  docId : Uuid
  storedFilename : Text
  storagePath : Text
  deriving DecidableEq, Repr

/-- The `FILE_DOWNLOADED` entry of the audit log. -/
structure DownloadLog where
  actorId : Uuid
  actorEmail : Text
  actorRole : UserRole
  entityId : Uuid
  originalFilename : Text
  deriving DecidableEq, Repr

/-- The registry, the places of its documents, the disk, and who downloaded what. -/
structure Archive where
  registry : Registry
  places : List FilePlace
  disk : Disk Bytes
  downloadLogs : List DownloadLog

/-- Nothing is there yet. -/
def Archive.empty : Archive := ⟨Registry.empty, [], [], []⟩

/-- The file of an accepted upload, and the columns of its row; `stored_filename` is unique. -/
def Archive.place (files : FileSettings) (storageRoot : Location) (u : Upload) (eventId drawn : Uuid)
    (f : Filed) (a : Archive) : Result Archive := do
  let folder ← u.folder eventId a.registry
  let storedFilename := u.storedFilename files drawn f.returned.originalFilename
  let destination := resolve (storageRoot ++ folder ++ [storedFilename])
  refuse (¬ storageRoot <+: destination) u.traversal
  refuse (∃ p ∈ a.places, p.storedFilename = storedFilename) integrityError
  return { a with
    registry := a.registry.file f
    places := a.places ++
      [⟨f.returned.id, storedFilename, u.storagePath folder storedFilename⟩]
    disk := a.disk.write destination f.returned.content }

/-! ## 3. What is shown -/

namespace DocumentService

/-- The offices of the review. -/
def reviewerRoles : List UserRole :=
  [.hallIncharge, .financeOfficer, .advisorStudentsUnion, .deanStudentAffairs, .principal]

/-- `verify_document_access`. -/
def VerifyDocumentAccess (env : Env) (event : EventRequest) (actor : User) : Prop :=
  actor.role = .systemAdmin ∨ actor.role ∈ reviewerRoles ∨ env.IsAdvisor event.clubId actor.id ∨
    event.submittedBy = actor.id ∨ env.IsMember event.clubId actor.id

instance (env : Env) (event : EventRequest) (actor : User) :
    Decidable (VerifyDocumentAccess env event actor) :=
  inferInstanceAs (Decidable (_ ∨ _ ∨ _ ∨ _ ∨ _))

/-- `list_documents`. -/
def listDocuments (env : Env) (actor : User) (eventId : Uuid) (a : Archive) :
    Result (List StoredDocument) := do
  let event ← eventRequest a.registry.requests eventId
  refuse (¬ VerifyDocumentAccess env event actor)
    ⟨.forbidden, "Access denied: You do not have permission to view event documents.", []⟩
  return a.registry.documents.rows.filter fun doc =>
    doc.eventRequestId = some eventId ∧ doc.isActive = true

/-- `get_document_for_download`: the row, the file and the audit entry. -/
def getDocumentForDownload (storageRoot : Location) (env : Env) (actor : User)
    (eventId docId : Uuid) (a : Archive) : Result (StoredDocument × Location × DownloadLog) := do
  let event ← eventRequest a.registry.requests eventId
  refuse (¬ VerifyDocumentAccess env event actor)
    ⟨.forbidden, "Access denied to download this document.", []⟩
  let doc ← fetch ((a.registry.documents.find docId).filter fun doc =>
      doc.eventRequestId = some eventId ∧ doc.isActive = true)
    ⟨.notFound, "Document not found or inactive.", []⟩
  let place ← fetch (a.places.find? fun p => p.docId = doc.id)
    ⟨.notFound, "Document not found or inactive.", []⟩
  let fullPath := resolve (join storageRoot place.storagePath)
  refuse (¬ storageRoot <+: fullPath ∨ a.disk.read fullPath = none)
    ⟨.notFound, "Stored physical file not found.", []⟩
  return (doc, fullPath, ⟨actor.id, actor.email, actor.role, doc.id, doc.originalFilename⟩)

/-- `FileResponse`. -/
structure FileResponse where
  filename : Text
  mediaType : Text
  content : Bytes
  deriving DecidableEq, Repr

/-- `download_document`: the endpoint streams the file it is given. -/
def downloadDocument (storageRoot : Location) (env : Env) (actor : User) (eventId docId : Uuid)
    (a : Archive) : Result FileResponse := do
  let (doc, fullPath, _) ← getDocumentForDownload storageRoot env actor eventId docId a
  return ⟨doc.originalFilename, doc.mimeType, (a.disk.read fullPath).getD []⟩

end DocumentService

/-! ## 4. Calls -/

/-- A visit, with the name `uuid4` draws for the file of an upload, or a download. -/
inductive ArchiveOp where
  | visit (v : Visit) (drawn : Uuid)
  | download (env : Env) (actor : User) (eventId docId : Uuid)

/-- One call. The bill an event has already is used again, and no file is written. `uuid4` repeats nothing,
    so a refused upload leaves at most a file that no row names. -/
def Archive.exec (cfg : Config) (files : FileSettings) (storageRoot : Location) (op : ArchiveOp)
    (a : Archive) : Result Archive :=
  match op with
  | .visit (.upload env actor newId eventId u) drawn => do
      let f ← u.exec files env actor newId eventId a.registry
      if f.returned ∈ a.registry.documents.rows then
        return { a with registry := a.registry.file f }
      else a.place files storageRoot u eventId drawn f
  | .visit v _ => do
      let w ← Registry.exec cfg files v a.registry
      return { a with registry := w }
  | .download env actor eventId docId => do
      let (_, _, log) ← getDocumentForDownload storageRoot env actor eventId docId a
      return { a with downloadLogs := a.downloadLogs ++ [log] }

/-- An accepted call. -/
def Archive.Step (cfg : Config) (files : FileSettings) (storageRoot : Location) (a : Archive)
    (op : ArchiveOp) (a' : Archive) : Prop :=
  a.exec cfg files storageRoot op = .ok a'

/-- **The states a run starts from**. -/
def Archive.Empty (a : Archive) : Prop := a = Archive.empty

/-- An accepted deletion of a document. -/
def ArchiveOp.Deletes (docId : Uuid) : ArchiveOp → Prop
  | .visit (.deleteDocument _ _ _ id) _ => id = docId
  | _ => False

end CampusConnect
