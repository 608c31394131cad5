/-
  File:      CampusConnect/Registry.lean
  Subject:   The system of all proposals, their events and the documents filed with them.

  * `Registry`: every dossier, the document table, and what the document service logs;
  * `Registry.env`: what a call on one event reads of the others and of the documents;
  * `Upload`, `Visit`, `Registry.exec`: a new draft, a request on one dossier, an upload or the deletion
    of a document;
  * `Registry.Step`, `Registry.Reachable`: the accepted visits and the states they reach from an empty
    database.
-/
import CampusConnect.Review
import CampusConnect.Services.Documents

namespace CampusConnect

open Guarded Rows EventService

/-! ## 1. Everything together -/

/-- All dossiers, all documents, and the audit entries of the document service. -/
structure Registry where
  dossiers : List Dossier
  documents : Table StoredDocument
  documentLogs : List AuditLog

namespace Registry

/-- The rows of `event_requests`. -/
def requests (w : Registry) : List EventRequest := w.dossiers.map fun d => d.proposal.request

/-- The rows of `events`. -/
def events (w : Registry) : List Event := w.dossiers.filterMap Dossier.event

/-- The rows of `actual_expenses` of a dossier. -/
def expensesOf (d : Dossier) : List ActualExpense :=
  match d.state with
  | none => []
  | some s => s.expenses.rows

/-- What a call on the `i`-th dossier reads outside it. -/
def env (w : Registry) (i : Nat) (env : Env) : Env :=
  { env with
    documents := w.documents.rows.map StoredDocument.toDocument
    otherExpenses := (w.dossiers.eraseIdx i).flatMap expensesOf }

/-- A new dossier, and a changed one. -/
def add (w : Registry) (d : Dossier) : Registry := { w with dossiers := w.dossiers ++ [d] }

def update (w : Registry) (i : Nat) (d : Dossier) : Registry :=
  { w with dossiers := w.dossiers.set i d }

/-- The document service's result. -/
def file (w : Registry) (f : Filed) : Registry :=
  { w with documents := f.documents, documentLogs := w.documentLogs ++ f.entries.map AuditEntry.row }

end Registry

/-- A request on the `i`-th dossier reads the documents and the other expenses of the registry. -/
def Request.within (w : Registry) (i : Nat) : Request → Request
  | .event c => .event { c with env := w.env i c.env }
  | .review env actor op => .review env actor op

/-! ## 2. Visits -/

/-- The five uploads, with their arguments. -/
inductive Upload where
  | document (file : UploadFile) (documentType : DocumentType)
  | postEventEvidence (file : UploadFile) (documentType : DocumentType)
      (geo : DocumentService.GeoTag)
  | expenseInvoice (file : UploadFile)
  | incomeEvidence (file : UploadFile)
  | settlementPaymentProof (file : UploadFile)
  deriving DecidableEq, Repr

def Upload.exec (files : FileSettings) (env : Env) (actor : User) (newId eventId : Uuid)
    (u : Upload) (w : Registry) : Result Filed :=
  match u with
  | .document file documentType =>
      DocumentService.uploadDocument files env actor newId eventId file documentType w.requests
        w.documents
  | .postEventEvidence file documentType geo =>
      DocumentService.uploadPostEventEvidence files env actor newId eventId file documentType geo
        w.events w.documents
  | .expenseInvoice file =>
      DocumentService.uploadExpenseInvoice files env actor newId eventId file w.events w.documents
  | .incomeEvidence file =>
      DocumentService.uploadIncomeEvidence files env actor newId eventId file w.events w.documents
  | .settlementPaymentProof file =>
      DocumentService.uploadSettlementPaymentProof files env actor newId eventId file w.events
        w.documents

/-- What somebody asks of the system. A `newId` is the key a new row gets. -/
inductive Visit where
  | draft (env : Env) (actor : User) (newId : Uuid) (eventIn : EventRequestCreate)
  | request (i : Nat) (r : Request)
  | upload (env : Env) (actor : User) (newId eventId : Uuid) (u : Upload)
  | deleteDocument (env : Env) (actor : User) (eventId docId : Uuid)

/-- One visit. A refused one is rolled back. Two proposals never have one key, nor two events, nor two
    expenses. -/
def Registry.exec (cfg : Config) (files : FileSettings) (v : Visit) (w : Registry) :
    Result Registry :=
  match v with
  | .draft env actor newId eventIn => do
      let d ← Dossier.create env actor newId eventIn
      refuse (∃ r ∈ w.requests, r.id = d.proposal.request.id) integrityError
      return w.add d
  | .request i r => do
      let d ← fetch w.dossiers[i]? noEvent
      let d' ← Dossier.exec cfg (r.within w i) d
      refuse (∃ e ∈ d'.event, ∃ o ∈ (w.dossiers.eraseIdx i).filterMap Dossier.event, o.id = e.id)
        integrityError
      refuse (∃ e ∈ expensesOf d', ∃ o ∈ (w.dossiers.eraseIdx i).flatMap expensesOf, o.id = e.id)
        integrityError
      return w.update i d'
  | .upload env actor newId eventId u => do
      let f ← u.exec files env actor newId eventId w
      return w.file f
  | .deleteDocument env actor eventId docId => do
      let f ← DocumentService.deleteDocument env actor eventId docId w.requests w.documents
      return w.file f

namespace Registry

/-- An accepted visit. -/
def Step (cfg : Config) (files : FileSettings) (w : Registry) (v : Visit) (w' : Registry) : Prop :=
  exec cfg files v w = .ok w'

/-- Nothing is there yet. -/
def empty : Registry := ⟨[], Table.empty, []⟩

/-- **The states a run starts from**. -/
def Empty (w : Registry) : Prop := w = empty

/-- The states of all runs. -/
def Reachable (cfg : Config) (files : FileSettings) : Registry → Prop :=
  Runs.Reach Empty (Step cfg files)

end Registry

end CampusConnect
