/-
  File:      CampusConnect/Guarantees/Invoices.lean
  Subject:   NO INVOICE CLAIMED TWICE: the normalised invoices of all expenses of all events.

  * `InvoiceKey`, `ActualExpense.invoice`: vendor, number and date as the duplicate check compares
    them; a row without a number that is not blank has none;
  * `InvoiceCleared`: what `_check_duplicate_invoice` has looked for; `InvoiceChange`: each row an operation
    leaves has the invoice of a row before it, or is the one row that was checked;
  * `ClaimedOnce`: the invariant over all pairs of rows; `no_invoice_claimed_twice`.

  The query reads the stored text through SQL `trim` and `lower`; `ActualExpense.Agrees` says that they
  agree with Python's on it.
-/
import CampusConnect.Guarantees.Bills
import CampusConnect.Guarantees.Expenses

namespace CampusConnect

open Guarded Rows ExpenseService

/-! ## 1. Keys -/

/-- What two claims on one invoice share. -/
structure InvoiceKey where
  vendor : Text
  number : Text
  date : Date
  deriving DecidableEq, Repr

/-- Vendor and number stripped and in lower case, with the date. -/
def invoiceKey (cfg : Config) (vendor : Text) (number : Option Text) (date : Date) :
    Option InvoiceKey :=
  (number.filter fun n => ¬ isBlank n).map fun n =>
    ⟨cfg.lower (strip vendor), cfg.lower (strip n), date⟩

def ActualExpense.invoice (cfg : Config) (e : ActualExpense) : Option InvoiceKey :=
  invoiceKey cfg e.vendorName e.invoiceNumber e.invoiceDate

/-- SQL `trim` and `lower` agree with Python's on the stored text. -/
structure ActualExpense.Agrees (cfg : Config) (e : ActualExpense) : Prop where
  vendor : cfg.sqlLower (sqlTrim e.vendorName) = cfg.lower (strip e.vendorName)
  number : ∀ n ∈ e.invoiceNumber, cfg.sqlLower (sqlTrim n) = cfg.lower (strip n)

instance (cfg : Config) (e : ActualExpense) : Decidable (e.Agrees cfg) :=
  decidable_of_iff (cfg.sqlLower (sqlTrim e.vendorName) = cfg.lower (strip e.vendorName) ∧
      ∀ n ∈ e.invoiceNumber, cfg.sqlLower (sqlTrim n) = cfg.lower (strip n))
    ⟨fun h => ⟨h.1, h.2⟩, fun h => ⟨h.vendor, h.number⟩⟩

section Keys

variable {cfg : Config}

theorem invoiceKey_eq_some {vendor : Text} {number : Option Text} {date : Date} {k : InvoiceKey} :
    invoiceKey cfg vendor number date = some k ↔ ∃ n, number = some n ∧ ¬ isBlank n ∧
      k = ⟨cfg.lower (strip vendor), cfg.lower (strip n), date⟩ := by
  unfold invoiceKey
  simp only [Option.map_eq_some_iff, Option.filter_eq_some_iff, decide_eq_true_eq, and_assoc]
  constructor
  · intro h
    obtain ⟨n, hn, hblank, rfl⟩ := h
    exact ⟨n, hn, hblank, rfl⟩
  · intro h
    obtain ⟨n, hn, hblank, rfl⟩ := h
    exact ⟨n, hn, hblank, rfl⟩

/-- The query finds the rows of an invoice. -/
theorem ActualExpense.Agrees.found {e : ActualExpense} {k : InvoiceKey} {exclude : Option Uuid}
    (h : e.Agrees cfg) (hk : e.invoice cfg = some k) (hopen : e.status ≠ .disallowed)
    (hne : exclude ≠ some e.id) : MatchesInvoice cfg k.vendor k.number k.date exclude e := by
  obtain ⟨n, hn, _, rfl⟩ := invoiceKey_eq_some.mp hk
  exact ⟨h.vendor, ⟨n, hn, h.number n hn⟩, rfl, hopen, hne⟩

/-- **The invoice an edit leaves is the one it has checked.** -/
theorem invoice_applyUpdate {payload : ActualExpenseUpdate} {flagged : Bool}
    {notes : Option String} {old : ActualExpense} (h : ∀ v ∈ payload.vendorName, v ≠ []) :
    (applyUpdate payload flagged notes old).invoice cfg =
      invoiceKey cfg ((payload.vendorName.filter fun v => v ≠ []).getD old.vendorName)
        (payload.invoiceNumber.or old.invoiceNumber)
        (payload.invoiceDate.getD old.invoiceDate) := by
  have hvendor : strip (applyUpdate payload flagged notes old).vendorName =
      strip ((payload.vendorName.filter fun v => v ≠ []).getD old.vendorName) := by
    unfold applyUpdate
    cases hv : payload.vendorName with
    | none => rfl
    | some v =>
        have hne : v ≠ [] := h v hv
        simp only [Option.map_some, Option.getD_some, strip_strip, Option.filter_some, hne, ne_eq,
          not_false_eq_true, decide_true, if_true]
  have hnumber : ((applyUpdate payload flagged notes old).invoiceNumber.filter
        fun n => ¬ isBlank n).map strip =
      ((payload.invoiceNumber.or old.invoiceNumber).filter fun n => ¬ isBlank n).map strip := by
    unfold applyUpdate
    cases hn : payload.invoiceNumber with
    | none => rfl
    | some n =>
        by_cases hblank : isBlank n
        · simp [strippedOrNone, hblank]
        · have hstripped : ¬ isBlank (strip n) := not_isBlank_strip hblank
          simp only [strippedOrNone, hblank, if_false, Option.map_some, Option.getD_some,
            Option.some_or, Option.filter_some, hstripped, not_false_eq_true, decide_true, if_true,
            strip_strip]
  have hkey : ∀ (vendor : Text) (number : Option Text) (date : Date),
      invoiceKey cfg vendor number date =
        ((number.filter fun n => ¬ isBlank n).map strip).map fun n =>
          ⟨cfg.lower (strip vendor), cfg.lower n, date⟩ := by
    intro vendor number date
    rw [Option.map_map]
    rfl
  unfold ActualExpense.invoice
  rw [hkey, hkey, hvendor, hnumber]
  rfl

end Keys

/-! ## 2. What an operation does to the invoices -/

/-- **What the check has looked for**: no row of another event with the invoice, and none of this event
    on another bill. -/
structure InvoiceCleared (cfg : Config) (others rows : List ActualExpense) (k : InvoiceKey)
    (bill : Uuid)
    (exclude : Option Uuid) : Prop where
  others : ∀ o ∈ others, ¬ MatchesInvoice cfg k.vendor k.number k.date exclude o
  own : ∀ o ∈ rows, MatchesInvoice cfg k.vendor k.number k.date exclude o → o.billDocumentId = bill

/-- The row claims what the old one did, unless it is disallowed. -/
structure SameClaim (cfg : Config) (old e : ActualExpense) : Prop where
  id : e.id = old.id
  invoice : e.invoice cfg = old.invoice cfg
  bill : e.billDocumentId = old.billDocumentId
  allowed : e.status ≠ .disallowed → old.status ≠ .disallowed

theorem SameClaim.refl (cfg : Config) (e : ActualExpense) : SameClaim cfg e e :=
  ⟨rfl, rfl, rfl, fun h => h⟩

/-- **Where the invoice of a row comes from**: from a row before, or from the check of the one row
    `target`. -/
inductive InvoiceChange (cfg : Config) (others rows : List ActualExpense) (target : Uuid)
    (e : ActualExpense) : Prop where
  | kept (old : ActualExpense) (hold : old ∈ rows) (hsame : SameClaim cfg old e)
  | checked (exclude : Option Uuid) (hid : e.id = target) (hself : ∀ id ∈ exclude, id = e.id)
      (hclear : ∀ k, e.invoice cfg = some k → InvoiceCleared cfg others rows k e.billDocumentId exclude)

section Operations

variable {cfg : Config} {env : Env} {actor : User} {s s' : State}

theorem checkDuplicateInvoice_cleared {vendor : Text} {number : Option Text} {date : Date}
    {bill : Uuid} {exclude : Option Uuid} {r : Bool × Option String}
    (h : checkDuplicateInvoice cfg env s vendor number date bill exclude = .ok r) {k : InvoiceKey}
    (hk : invoiceKey cfg vendor number date = some k) :
    InvoiceCleared cfg env.otherExpenses s.expenses.rows k bill exclude := by
  obtain ⟨n, hn, hblank, rfl⟩ := invoiceKey_eq_some.mp hk
  have hfilter : number.filter (fun n => ¬ isBlank n) = some n := by
    rw [hn, Option.filter_some, if_pos (decide_eq_true hblank)]
  unfold checkDuplicateInvoice at h
  rw [hfilter] at h
  simp only [bind_accepts, refuse_accepts, exists_unit] at h
  obtain ⟨hothers, hown, _⟩ := h
  refine ⟨fun o ho hmatch => hothers ⟨o, ho, hmatch⟩, fun o ho hmatch => ?_⟩
  by_contra hne
  exact hown ⟨o, ho, hmatch, hne⟩

theorem createDraftExpense_invoices {newId : Uuid} {payload : ActualExpenseCreate}
    (h : createDraftExpense cfg env actor newId payload s = .ok s') :
    ∀ e ∈ s'.expenses, InvoiceChange cfg env.otherExpenses s.expenses.rows newId e := by
  simp only [createDraftExpense, bind_accepts, fetch_accepts, exists_unit, pure_accepts,
    verifyBillDocument_accepts] at h
  obtain ⟨_, _, _, doc, ⟨hdoc, _⟩, ⟨flagged, notes⟩, hcheck, t, hins, rfl⟩ := h
  have hbill : doc.id = payload.billDocumentId := by
    have hsel := List.find?_some hdoc
    simp only [decide_eq_true_eq] at hsel
    exact hsel.1
  intro e he
  rcases (Table.mem_insert hins).mp he with hold | rfl
  · exact .kept e hold (.refl cfg e)
  · refine .checked none rfl ?_ fun k hk => ?_
    · intro id hid
      cases hid
    · have hclear := checkDuplicateInvoice_cleared hcheck hk
      rw [← hbill] at hclear
      exact hclear

theorem updateExpense_invoices {id : Uuid} {payload : ActualExpenseUpdate}
    (hnamed : ∀ v ∈ payload.vendorName, v ≠ [])
    (h : updateExpense cfg env actor id payload s = .ok s') :
    ∀ e ∈ s'.expenses, InvoiceChange cfg env.otherExpenses s.expenses.rows id e := by
  simp only [updateExpense, bind_accepts, fetch_accepts, exists_unit, pure_accepts] at h
  obtain ⟨_, _, old, hfind, _, _, _, ⟨flagged, notes⟩, hcheck, t, hrep, rfl⟩ := h
  intro e he
  rcases Table.mem_replace hrep he with rfl | hold
  · refine .checked (some old.id) (Table.key_of_find hfind) ?_ fun k hk => ?_
    · intro id hid
      exact (Option.some.inj hid).symm
    · rw [invoice_applyUpdate hnamed] at hk
      exact checkDuplicateInvoice_cleared hcheck hk
  · exact .kept e hold.1 (.refl cfg e)

theorem submitExpenses_invoices {ids : Option (List Uuid)} (target : Uuid)
    (h : submitExpenses env actor ids s = .ok s') :
    ∀ e ∈ s'.expenses, InvoiceChange cfg env.otherExpenses s.expenses.rows target e := by
  simp only [submitExpenses, bind_accepts, exists_unit, pure_accepts, refuse_accepts] at h
  obtain ⟨_, _, _, _, rfl⟩ := h
  intro e he
  have hmem : e ∈ s.expenses.rows.map (submitRow env.now actor.id ids) := he
  obtain ⟨old, hold, rfl⟩ := List.mem_map.mp hmem
  refine .kept old hold ?_
  unfold submitRow
  by_cases hsel : ExpenseService.Selected ids old
  · rw [if_pos hsel]
    refine ⟨rfl, rfl, rfl, fun _ => ?_⟩
    rcases hsel.1 with hst | hst <;> rw [hst] <;> decide
  · rw [if_neg hsel]
    exact .refl cfg old

/-- A decision leaves what is claimed. -/
theorem decision_invoices {verb : String} {id : Uuid} {old row : ActualExpense}
    {action : AuditAction} {previous new : StateDict} {reason : Text}
    (hload : loadSubmitted verb actor id s = .ok old)
    (hwrite : writeDecision env actor action row previous new reason s = .ok s')
    (hid : row.id = old.id) (hinvoice : row.invoice cfg = old.invoice cfg)
    (hbill : row.billDocumentId = old.billDocumentId) (target : Uuid) :
    ∀ e ∈ s'.expenses, InvoiceChange cfg env.otherExpenses s.expenses.rows target e := by
  obtain ⟨hold, hst, hrows⟩ := decision_written hload hwrite
  intro e he
  rcases hrows e he with rfl | hkept
  · refine .kept old hold ⟨hid, hinvoice, hbill, fun _ => ?_⟩
    rw [hst]
    decide
  · exact .kept e hkept (.refl cfg e)

/-- The edit an operation makes. -/
def Op.edit : Op → Option ActualExpenseUpdate
  | .updateExpense _ payload => some payload
  | _ => none

/-- An edit that sends a vendor names one: `vendor_name: Field(min_length=2)`. -/
def Op.VendorNamed (op : Op) : Prop :=
  ∀ payload ∈ op.edit, ∀ v ∈ payload.vendorName, 2 ≤ v.length

instance (op : Op) : Decidable op.VendorNamed :=
  inferInstanceAs (Decidable (∀ payload ∈ op.edit, ∀ v ∈ payload.vendorName, _))

/-- The row an operation has checked. -/
def Op.claims : Op → Uuid
  | .createDraftExpense newId _ => newId
  | .updateExpense expenseId _ => expenseId
  | _ => ⟨0⟩

/-- **Every accepted operation** leaves invoices that were there, and at most one it has checked. -/
theorem Op.invoices {op : Op} (hnamed : op.VendorNamed) (h : op.exec cfg env actor s = .ok s') :
    ∀ e ∈ s'.expenses,
      InvoiceChange cfg env.otherExpenses s.expenses.rows op.claims e := by
  have heff : Effect cfg s op.move s' := Op.exec_effect h
  cases op with
  | createDraftExpense newId payload => exact createDraftExpense_invoices h
  | updateExpense expenseId payload =>
      refine updateExpense_invoices (fun v hv hnil => ?_) h
      have hlen : 2 ≤ v.length := hnamed payload rfl v hv
      rw [hnil, List.length_nil] at hlen
      omega
  | deleteDraftExpense expenseId =>
      obtain ⟨_, _, _, _, _, rfl⟩ := deleteDraftExpense_accepts.mp h
      intro e he
      exact .kept e (Table.mem_erase.mp he).1 (.refl cfg e)
  | submitExpenses ids => exact submitExpenses_invoices _ h
  | verifyExpense expenseId remarks =>
      simp only [Op.exec, ExpenseService.verifyExpense, bind_accepts] at h
      obtain ⟨old, hload, hwrite⟩ := h
      exact decision_invoices hload hwrite rfl rfl rfl _
  | partialVerifyExpense expenseId amount remarks =>
      simp only [Op.exec, ExpenseService.partialVerifyExpense, bind_accepts, refuse_accepts,
        exists_unit] at h
      obtain ⟨old, hload, _, _, hwrite⟩ := h
      exact decision_invoices hload hwrite rfl rfl rfl _
  | queryExpense expenseId remarks =>
      simp only [Op.exec, ExpenseService.queryExpense, bind_accepts] at h
      obtain ⟨old, hload, hwrite⟩ := h
      exact decision_invoices hload hwrite rfl rfl rfl _
  | disallowExpense expenseId remarks =>
      simp only [Op.exec, ExpenseService.disallowExpense, bind_accepts] at h
      obtain ⟨old, hload, hwrite⟩ := h
      exact decision_invoices hload hwrite rfl rfl rfl _
  | _ =>
      have hkept := heff.expenses_kept fun k he => by cases he
      intro e he
      rw [hkept] at he
      exact .kept e he (.refl cfg e)

end Operations

/-! ## 3. The registry -/

/-- The database reads every stored vendor and number as Python does. -/
def Registry.Agrees (cfg : Config) (w : Registry) : Prop :=
  ∀ d ∈ w.dossiers, ∀ e ∈ Registry.expensesOf d, e.Agrees cfg

/-- **No invoice is claimed twice**: two rows with one invoice, neither disallowed, are of one event and on
    one bill. -/
def ClaimedOnce (cfg : Config) (w : Registry) : Prop :=
  ∀ (i j : Nat) (d d' : Dossier), w.dossiers[i]? = some d → w.dossiers[j]? = some d' →
    ∀ e ∈ Registry.expensesOf d, ∀ f ∈ Registry.expensesOf d',
      e.status ≠ .disallowed → f.status ≠ .disallowed → ∀ k, e.invoice cfg = some k →
        f.invoice cfg = some k → i = j ∧ e.billDocumentId = f.billDocumentId

instance (cfg : Config) (w : Registry) : Decidable (w.Agrees cfg) :=
  inferInstanceAs (Decidable (∀ d ∈ w.dossiers, ∀ e ∈ Registry.expensesOf d, _))

def Visit.VendorNamed : Visit → Prop
  | .request _ (.event c) => c.op.VendorNamed
  | _ => True

instance : (v : Visit) → Decidable v.VendorNamed
  | .request _ (.event c) => inferInstanceAs (Decidable c.op.VendorNamed)
  | .request _ (.review _ _ _) => inferInstanceAs (Decidable True)
  | .draft _ _ _ _ => inferInstanceAs (Decidable True)
  | .upload _ _ _ _ _ => inferInstanceAs (Decidable True)
  | .deleteDocument _ _ _ _ => inferInstanceAs (Decidable True)

section Registries

variable {cfg : Config} {files : FileSettings} {w w' : Registry}

theorem Registry.mem_others {i j : Nat} {o : Dossier} {e : ActualExpense} (hne : j ≠ i)
    (ho : w.dossiers[j]? = some o) (he : e ∈ Registry.expensesOf o) :
    e ∈ (w.dossiers.eraseIdx i).flatMap Registry.expensesOf :=
  List.mem_flatMap.mpr ⟨o, List.mem_eraseIdx_iff_getElem?.mpr ⟨j, hne, ho⟩, he⟩

/-- An operation on the proposal leaves the expenses; a new event has none. -/
theorem Registry.expensesOf_flushed (d : Dossier) (q : Proposal) (event : Option Event)
    (entries : List AuditEntry) :
    Registry.expensesOf (d.flushed q event entries) = Registry.expensesOf d := by
  cases d with
  | proposed p logs => cases event <;> rfl
  | confirmed s => rfl

/-- The rows of a dossier after a request. -/
theorem Traced.invoices {i : Nat} {r : Request} {d d' : Dossier}
    (hs : Traced cfg d (r.within w i) d') (hnamed : (Visit.request i r).VendorNamed) :
    ∃ target, ∀ e ∈ Registry.expensesOf d', InvoiceChange cfg
      ((w.dossiers.eraseIdx i).flatMap Registry.expensesOf) (Registry.expensesOf d) target e := by
  cases r with
  | review env actor op =>
      refine ⟨⟨0⟩, fun e he => ?_⟩
      cases hs with
      | review _ _ _ _ q entries hstep =>
          rw [Registry.expensesOf_flushed] at he
          exact .kept e he (.refl cfg e)
  | event c =>
      cases hs with
      | withdrawn _ p logs entries hst => exact ⟨⟨0⟩, fun e he => nomatch he⟩
      | event _ s s' hstep =>
          obtain ⟨a, hexec, _⟩ := hstep.entered
          exact ⟨c.op.claims, Op.invoices (s := { s with attached := a }) hnamed hexec⟩

/-- **A changed row against one of another event**: an old row was apart from it, and the checked row
    has been compared with it. -/
theorem ClaimedOnce.apart {i j : Nat} {d o : Dossier} {target : Uuid} {e f : ActualExpense}
    (h : ClaimedOnce cfg w) (hagree : w.Agrees cfg) (hd : w.dossiers[i]? = some d) (hne : j ≠ i)
    (ho : w.dossiers[j]? = some o) (hf : f ∈ Registry.expensesOf o) (hid : f.id ≠ e.id)
    (hchange : InvoiceChange cfg ((w.dossiers.eraseIdx i).flatMap Registry.expensesOf)
      (Registry.expensesOf d) target e)
    (he : e.status ≠ .disallowed) (hf' : f.status ≠ .disallowed) {k : InvoiceKey}
    (hk : e.invoice cfg = some k) (hk' : f.invoice cfg = some k) : False := by
  cases hchange with
  | kept old hold hsame =>
      rw [hsame.invoice] at hk
      obtain ⟨hij, _⟩ := h i j d o hd ho old hold f hf (hsame.allowed he) hf' k hk hk'
      exact hne hij.symm
  | checked exclude htarget hself hclear =>
      have hnot : exclude ≠ some f.id := fun hx => hid (hself f.id hx)
      have hread : f.Agrees cfg := hagree o (List.mem_of_getElem? ho) f hf
      exact (hclear k hk).others f (Registry.mem_others hne ho hf) (hread.found hk' hf' hnot)

/-- **Two changed rows of one event**: at most one of them has been checked, against the row the other
    one was. -/
theorem ClaimedOnce.one_bill {i : Nat} {d : Dossier} {target : Uuid} {e f : ActualExpense}
    (h : ClaimedOnce cfg w) (hagree : w.Agrees cfg) (hd : w.dossiers[i]? = some d)
    (hid : f.id ≠ e.id)
    (hchange : InvoiceChange cfg ((w.dossiers.eraseIdx i).flatMap Registry.expensesOf)
      (Registry.expensesOf d) target e)
    (hchange' : InvoiceChange cfg ((w.dossiers.eraseIdx i).flatMap Registry.expensesOf)
      (Registry.expensesOf d) target f)
    (he : e.status ≠ .disallowed) (hf : f.status ≠ .disallowed) {k : InvoiceKey}
    (hk : e.invoice cfg = some k) (hk' : f.invoice cfg = some k) :
    e.billDocumentId = f.billDocumentId := by
  have hcompared : ∀ {x old : ActualExpense} {y : ActualExpense} {exclude : Option Uuid},
      old ∈ Registry.expensesOf d → SameClaim cfg old x → x.status ≠ .disallowed →
      x.invoice cfg = some k → x.id ≠ y.id → (∀ id ∈ exclude, id = y.id) →
      InvoiceCleared cfg ((w.dossiers.eraseIdx i).flatMap Registry.expensesOf) (Registry.expensesOf d) k
        y.billDocumentId exclude → x.billDocumentId = y.billDocumentId := by
    intro x old y exclude hold hsame hx hkx hne hself hclear
    have hnot : exclude ≠ some old.id := by
      intro hex
      rw [← hsame.id] at hex
      exact hne (hself x.id hex)
    have hread : old.Agrees cfg := hagree d (List.mem_of_getElem? hd) old hold
    rw [hsame.invoice] at hkx
    rw [hsame.bill]
    exact hclear.own old hold (hread.found hkx (hsame.allowed hx) hnot)
  cases hchange with
  | kept old hold hsame =>
      cases hchange' with
      | kept old' hold' hsame' =>
          rw [hsame.invoice] at hk
          rw [hsame'.invoice] at hk'
          obtain ⟨_, hbill⟩ := h i i d d hd hd old hold old' hold' (hsame.allowed he)
            (hsame'.allowed hf) k hk hk'
          rw [hsame.bill, hsame'.bill, hbill]
      | checked exclude htarget hself hclear =>
          exact hcompared hold hsame he hk (fun hx => hid hx.symm) hself (hclear k hk')
  | checked exclude htarget hself hclear =>
      cases hchange' with
      | kept old' hold' hsame' =>
          exact (hcompared hold' hsame' hf hk' hid hself (hclear k hk)).symm
      | checked exclude' htarget' hself' hclear' => exact (hid (htarget'.trans htarget.symm)).elim

theorem Registry.expense_of_id {d : Dossier} {e f : ActualExpense}
    (he : e ∈ Registry.expensesOf d) (hf : f ∈ Registry.expensesOf d) (hid : f.id = e.id) : f = e := by
  cases d with
  | proposed p logs => cases he
  | confirmed s =>
      have he : e ∈ s.expenses := he
      have hf : f ∈ s.expenses := hf
      exact Table.eq_of_key_eq hf he hid

/-- **The step lemma.** -/
theorem RegistryStep.claimedOnce {v : Visit} (h : ClaimedOnce cfg w) (hagree : w.Agrees cfg)
    (hnamed : v.VendorNamed) (hs : RegistryStep cfg files w v w') : ClaimedOnce cfg w' := by
  cases hs with
  | drafted v d hd hfresh =>
      have hnone : Registry.expensesOf d = [] := by
        cases d with
        | proposed p logs => rfl
        | confirmed s => exact (hd.proposed s rfl).elim
      intro j l x y hx hy e he f hf
      rcases Registry.get_add hx with ⟨_, rfl⟩ | ⟨_, hx⟩
      · rw [hnone] at he
        cases he
      · rcases Registry.get_add hy with ⟨_, rfl⟩ | ⟨_, hy⟩
        · rw [hnone] at hf
          cases hf
        · exact h j l x y hx hy e he f hf
  | requested i r d d' hd hstep hfresh hrows =>
      obtain ⟨target, hchange⟩ := hstep.invoices hnamed
      intro j l x y hx hy e he f hf hest hfst k hek hfk
      rcases Registry.get_update hd hx with ⟨rfl, rfl⟩ | ⟨hj, hold⟩
      · rcases Registry.get_update hd hy with ⟨rfl, rfl⟩ | ⟨hl, hy⟩
        · by_cases hid : f.id = e.id
          · rw [Registry.expense_of_id he hf hid]
            exact ⟨rfl, rfl⟩
          · exact ⟨rfl, h.one_bill hagree hd hid (hchange e he) (hchange f hf) hest hfst hek hfk⟩
        · have hne : f.id ≠ e.id := hrows l y hl hy e he f hf
          exact (h.apart hagree hd hl hy hf hne (hchange e he) hest hfst hek hfk).elim
      · rcases Registry.get_update hd hy with ⟨rfl, rfl⟩ | ⟨_, hold'⟩
        · have hne : e.id ≠ f.id := hrows j x hj hold f hf e he
          exact (h.apart hagree hd hj hold he hne (hchange f hf) hfst hest hfk hek).elim
        · exact h j l x y hold hold' e he f hf hest hfst k hek hfk
  | filed v f hf => exact h

/-- **No invoice is claimed twice.** In every run from an empty database whose stored vendors and numbers
    the database reads as Python does: two expenses that are not DISALLOWED and have one normalised vendor,
    number and date belong to one event and refer to one bill. -/
theorem no_invoice_claimed_twice (cfg : Config) (files : FileSettings) {w : Registry}
    (h : Runs.Reach Registry.Empty
      (Runs.restrict (Registry.Step cfg files) fun w v => w.Agrees cfg ∧ v.VendorNamed) w) :
    ClaimedOnce cfg w := by
  refine Runs.Reach.invariant (P := ClaimedOnce cfg) ?_ ?_ h
  · intro w hw
    unfold Registry.Empty at hw
    rw [hw]
    exact fun i j d d' hd => nomatch hd
  · intro w v w' hw ⟨hstep, hagree, hnamed⟩
    exact hstep.step.claimedOnce hw hagree hnamed

end Registries

namespace Sample

/-- A claim on the `i`-th event, with the key `n`, on a bill and with an invoice number. -/
def invoiced (i n bill : Nat) (number : String) : Visit :=
  .request i (.event (bySecretary (.createDraftExpense (uid n)
    { expenseIn with billDocumentId := uid bill, invoiceNumber := some number.toList })))

/-- Two events; the first claims two items of one invoice, the second another invoice. -/
def splitInvoice : List Visit :=
  hold 0 500 ++ hold 1 600 ++
    [.upload env secretary (uid 502) (uid 501) (.expenseInvoice (pdf 1)),
      .upload env secretary (uid 602) (uid 601) (.expenseInvoice (pdf 2)),
      invoiced 0 503 502 "first", invoiced 0 504 502 " first ", invoiced 1 603 602 "second"]

end Sample

/-- Two items of one invoice: one bill, and the other event has another invoice. -/
theorem no_invoice_claimed_twice_split :
    ∃ w, ClaimedOnce (Sample.config .sqlite) w ∧ Sample.expensesAt w 1 ≠ [] ∧
      ∃ e ∈ Sample.expensesAt w 0, ∃ f ∈ Sample.expensesAt w 0, e.id ≠ f.id ∧
        e.invoice (Sample.config .sqlite) = f.invoice (Sample.config .sqlite) ∧
        e.invoice (Sample.config .sqlite) ≠ none := by
  have hrun : Runs.Ends (Sample.registryOnly
      (fun w v => w.Agrees (Sample.config .sqlite) ∧ v.VendorNamed) Sample.splitInvoice) fun w =>
      Sample.expensesAt w 1 ≠ [] ∧
      ∃ e ∈ Sample.expensesAt w 0, ∃ f ∈ Sample.expensesAt w 0, e.id ≠ f.id ∧
        e.invoice (Sample.config .sqlite) = f.invoice (Sample.config .sqlite) ∧
        e.invoice (Sample.config .sqlite) ≠ none := by
    decide +kernel
  obtain ⟨w, hw, hrows⟩ := hrun
  have hreach : Runs.Reach Registry.Empty
      (Runs.restrict (Registry.Step (Sample.config .sqlite) Sample.files)
        fun w v => w.Agrees (Sample.config .sqlite) ∧ v.VendorNamed) w :=
    Runs.Reach.path (.start rfl) (Runs.path_of_run_only hw)
  exact ⟨w, no_invoice_claimed_twice (Sample.config .sqlite) Sample.files hreach, hrows⟩

end CampusConnect
