/-
  File:      CampusConnect/Services/Fingerprint.lean
  Subject:   `_compute_source_fingerprint`: the canonical JSON text of a settlement's sources and
             its digest.

  * `fixed2`: an amount as `f"{x:.2f}"` prints it, injective (`fixed2_injective`);
  * `sourceJson`, `computeSourceFingerprint`: the object that is hashed, its lists sorted by
    `str(id)`, and the digest of its text;
  * `Sources`: what the fingerprint is about, the version, the grant and the components of the
    expenses, incomes and advance, regardless of the order of the rows;
  * `sources_eq_of_fingerprint_eq`: under an injective digest equal fingerprints mean equal
    sources.
-/
import CampusConnect.Base.CanonicalJson
import CampusConnect.Services.Advance
import Mathlib.Data.Char
import Mathlib.Data.List.Lex
import Mathlib.Data.List.Sort
import Mathlib.Data.Set.Basic

namespace CampusConnect

open Guarded Rows CanonicalJson

namespace SettlementService

/-! ## 1. Amounts -/

/-- `f"{x:.2f}"` of an amount in hundredths. -/
def fixed2 (c : Int) : Text :=
  (if c < 0 then ['-'] else []) ++ Nat.toDigits 10 (c.natAbs / 100) ++
    ['.', Nat.digitChar (c.natAbs / 10 % 10), Nat.digitChar (c.natAbs % 10)]

theorem digitChar_injective {a b : Nat} (ha : a < 10) (hb : b < 10)
    (h : Nat.digitChar a = Nat.digitChar b) : a = b := by
  have key : ∀ i : Fin 10, ∀ j : Fin 10, Nat.digitChar i = Nat.digitChar j → i = j := by decide
  exact congrArg Fin.val (key ⟨a, ha⟩ ⟨b, hb⟩ h)

/-- The digits of a number never start with a sign. -/
theorem toDigits_ne_sign {a : Nat} {t : Text} : Nat.toDigits 10 a ≠ '-' :: t := by
  intro h
  have hd : '-'.isDigit = true :=
    Nat.isDigit_of_mem_toDigits (b := 10) (n := a) (by decide) (by decide) (by rw [h]; simp)
  exact absurd hd (by decide)

theorem fixed2_injective {a b : Int} (h : fixed2 a = fixed2 b) : a = b := by
  unfold fixed2 at h
  obtain ⟨hinit, hlast⟩ := List.append_inj' h rfl
  simp only [List.cons.injEq, true_and, and_true] at hlast
  have h10 : a.natAbs / 10 % 10 = b.natAbs / 10 % 10 :=
    digitChar_injective (Nat.mod_lt _ (by omega)) (Nat.mod_lt _ (by omega)) hlast.1
  have h1 : a.natAbs % 10 = b.natAbs % 10 :=
    digitChar_injective (Nat.mod_lt _ (by omega)) (Nat.mod_lt _ (by omega)) hlast.2
  -- the three groups of digits make up the magnitude
  have cut : ∀ x : Nat, x = 100 * (x / 100) + 10 * (x / 10 % 10) + x % 10 := by
    intro x
    omega
  have habs : a.natAbs / 100 = b.natAbs / 100 → a.natAbs = b.natAbs := by
    intro h100
    rw [cut a.natAbs, cut b.natAbs, h100, h10, h1]
  by_cases ha : a < 0 <;> by_cases hb : b < 0
  · simp only [ha, hb, if_true, List.cons_append, List.nil_append, List.cons.injEq,
      true_and] at hinit
    have := habs (toDigits_injective hinit)
    omega
  · simp only [ha, hb, if_true, if_false, List.cons_append, List.nil_append] at hinit
    exact (toDigits_ne_sign hinit.symm).elim
  · simp only [ha, hb, if_true, if_false, List.cons_append, List.nil_append] at hinit
    exact (toDigits_ne_sign hinit).elim
  · simp only [ha, hb, if_false, List.nil_append] at hinit
    have := habs (toDigits_injective hinit)
    omega

/-! ## 2. The hashed object -/

/-- A JSON string or null. -/
def jsonOfText : Option Text → Json
  | none => .null
  | some t => .str t

/-- An object from its members in key order. -/
def jsonObject (members : List (String × Json)) : Json :=
  .obj (Members.ofList (members.map fun m => (m.1.toList, m.2)))

def expenseJson (e : ActualExpense) : Json :=
  jsonObject
    [("claimed_amount", .str (fixed2 e.claimedAmount)), ("id", .str e.id.str),
      ("status", .str e.status.value.toList),
      ("verified_amount", jsonOfText (e.verifiedAmount.map fixed2))]

def incomeJson (i : ActualIncome) : Json :=
  jsonObject
    [("amount", .str (fixed2 i.amount)), ("id", .str i.id.str),
      ("status", .str i.status.value.toList)]

def advanceJson (a : CashAdvance) : Json :=
  jsonObject
    [("amount_approved", jsonOfText (a.amountApproved.map fixed2)),
      ("amount_disbursed", .str (fixed2 a.amountDisbursed)), ("id", .str a.id.str),
      ("status", .str a.status.value.toList)]

/-- Rows in the order of `str(id)`. -/
def sortById {α : Type} [Row α Uuid] (rows : List α) : List α :=
  rows.insertionSort (fun a b => (Row.key a : Uuid).str ≤ (Row.key b : Uuid).str)

/-- The object `_compute_source_fingerprint` dumps with sorted keys. -/
def sourceJson (versionId : Uuid) (grant : Int) (expenses : List ActualExpense)
    (incomes : List ActualIncome) (advance : Option CashAdvance) : Json :=
  jsonObject
    [("advance", (advance.map advanceJson).getD .null),
      ("approved_version_id", .str versionId.str),
      ("expenses", .arr (Items.ofList ((sortById expenses).map expenseJson))),
      ("incomes", .arr (Items.ofList ((sortById incomes).map incomeJson))),
      ("sanctioned_grant", .str (fixed2 grant))]

/-- `_compute_source_fingerprint`. -/
def computeSourceFingerprint (cfg : Config) (versionId : Uuid) (grant : Int)
    (expenses : List ActualExpense) (incomes : List ActualIncome)
    (advance : Option CashAdvance) : Text :=
  cfg.sha256 (sourceJson versionId grant expenses incomes advance).render

/-! ## 3. What the fingerprint is about -/

/-- The parts of an expense the fingerprint covers. -/
def expenseSource (e : ActualExpense) : Uuid × ActualExpenseStatus × Int × Option Int :=
  (e.id, e.status, e.claimedAmount, e.verifiedAmount)

/-- The parts of an income record the fingerprint covers. -/
def incomeSource (i : ActualIncome) : Uuid × ActualIncomeStatus × Int :=
  (i.id, i.status, i.amount)

/-- The parts of an advance the fingerprint covers. -/
def advanceSource (a : CashAdvance) : Uuid × CashAdvanceStatus × Option Int × Int :=
  (a.id, a.status, a.amountApproved, a.amountDisbursed)

/-- The sources of a settlement, as sets. -/
structure Sources where
  approvedVersionId : Uuid
  sanctionedGrant : Int
  expenses : Set (Uuid × ActualExpenseStatus × Int × Option Int)
  incomes : Set (Uuid × ActualIncomeStatus × Int)
  advance : Option (Uuid × CashAdvanceStatus × Option Int × Int)

def sourcesOf (versionId : Uuid) (grant : Int) (expenses : List ActualExpense)
    (incomes : List ActualIncome) (advance : Option CashAdvance) : Sources where
  approvedVersionId := versionId
  sanctionedGrant := grant
  expenses := {x | ∃ e ∈ expenses, expenseSource e = x}
  incomes := {x | ∃ i ∈ incomes, incomeSource i = x}
  advance := advance.map advanceSource

/-! ## 4. Every hashed string is plain -/

instance (t : Text) : Decidable (PlainText t) := List.decidableBAll PlainChar t

theorem plainText_append {t u : Text} : PlainText (t ++ u) ↔ PlainText t ∧ PlainText u :=
  List.forall_mem_append

theorem plainChar_hexDigit (n : Nat) (h : n < 16) : PlainChar (hexDigit n) := by
  have key : ∀ i : Fin 16, PlainChar (hexDigit i) := by decide
  exact key ⟨n, h⟩

theorem plainText_hexDigits (k n : Nat) : PlainText (hexDigits k n) := by
  induction k generalizing n with
  | zero => exact fun c hc => (List.not_mem_nil hc).elim
  | succ k ih =>
      refine plainText_append.mpr ⟨ih _, fun c hc => ?_⟩
      rw [List.mem_singleton.mp hc]
      exact plainChar_hexDigit _ (Nat.mod_lt _ (by omega))

theorem plainText_str (u : Uuid) : PlainText u.str := by
  have hx : PlainText u.hex := plainText_hexDigits 32 _
  have hd : PlainChar '-' := by decide
  intro c hc
  simp only [Uuid.str, List.mem_append, List.mem_cons] at hc
  rcases hc with ((((h | h | h) | h | h) | h | h) | h | h)
  · exact hx c (List.mem_of_mem_take h)
  · rw [h]; exact hd
  · exact hx c (List.mem_of_mem_drop (List.mem_of_mem_take h))
  · rw [h]; exact hd
  · exact hx c (List.mem_of_mem_drop (List.mem_of_mem_take h))
  · rw [h]; exact hd
  · exact hx c (List.mem_of_mem_drop (List.mem_of_mem_take h))
  · rw [h]; exact hd
  · exact hx c (List.mem_of_mem_drop h)

theorem plainChar_of_isDigit {c : Char} (h : c.isDigit = true) : PlainChar c := by
  simp only [Char.isDigit, Bool.and_eq_true, decide_eq_true_iff] at h
  have h1 : 48 ≤ c.toNat := h.1
  have h2 : c.toNat ≤ 57 := h.2
  refine ⟨?_, ?_, by omega, by omega⟩
  · rintro rfl
    exact absurd h1 (by decide)
  · rintro rfl
    exact absurd h2 (by decide)

theorem plainChar_digitChar (n : Nat) (h : n < 10) : PlainChar (Nat.digitChar n) := by
  have key : ∀ i : Fin 10, PlainChar (Nat.digitChar i) := by decide
  exact key ⟨n, h⟩

theorem plainText_fixed2 (c : Int) : PlainText (fixed2 c) := by
  unfold fixed2
  refine plainText_append.mpr ⟨plainText_append.mpr ⟨?_, ?_⟩, ?_⟩
  · by_cases h : c < 0
    · rw [if_pos h]; decide
    · rw [if_neg h]; decide
  · intro d hd
    exact plainChar_of_isDigit (Nat.isDigit_of_mem_toDigits (by decide) (by decide) hd)
  · intro d hd
    simp only [List.mem_cons, List.not_mem_nil, or_false] at hd
    rcases hd with rfl | rfl | rfl
    · decide
    · exact plainChar_digitChar _ (Nat.mod_lt _ (by omega))
    · exact plainChar_digitChar _ (Nat.mod_lt _ (by omega))

theorem plain_jsonOfText {t : Option Text} (h : ∀ u ∈ t, PlainText u) :
    (jsonOfText t).Plain := by
  cases t with
  | none => simp [jsonOfText, Json.Plain]
  | some u => simpa [jsonOfText, Json.Plain] using h u rfl

theorem plain_amount (o : Option Int) : (jsonOfText (o.map fixed2)).Plain := by
  refine plain_jsonOfText fun u hu => ?_
  obtain ⟨c, _, rfl⟩ := Option.mem_map.mp hu
  exact plainText_fixed2 c

theorem plain_nil : (jsonObject []).Plain := by
  simp [jsonObject, Members.ofList, Json.Plain, Members.Plain]

/-- An object is plain when its keys and its values are. -/
theorem plain_cons {k : String} {v : Json} {members : List (String × Json)}
    (hk : PlainText k.toList) (hv : v.Plain) (h : (jsonObject members).Plain) :
    (jsonObject ((k, v) :: members)).Plain := by
  simp only [jsonObject, List.map_cons, Members.ofList, Json.Plain, Members.Plain] at h ⊢
  exact ⟨hk, hv, h⟩

theorem plain_str {t : Text} (h : PlainText t) : (Json.str t).Plain := by
  rw [Json.Plain]
  exact h

theorem plain_array {α : Type} {rows : List α} {toJson : α → Json}
    (h : ∀ a, (toJson a).Plain) : (Json.arr (Items.ofList (rows.map toJson))).Plain := by
  rw [Json.Plain, Items.plain_ofList]
  intro x hx
  obtain ⟨a, _, rfl⟩ := List.mem_map.mp hx
  exact h a

theorem plain_expenseJson (e : ActualExpense) : (expenseJson e).Plain := by
  have hst : PlainText e.status.value.toList := by cases e.status <;> decide
  exact plain_cons (by decide) (plain_str (plainText_fixed2 _)) <|
    plain_cons (by decide) (plain_str (plainText_str _)) <|
    plain_cons (by decide) (plain_str hst) <|
    plain_cons (by decide) (plain_amount _) plain_nil

theorem plain_incomeJson (i : ActualIncome) : (incomeJson i).Plain := by
  have hst : PlainText i.status.value.toList := by cases i.status <;> decide
  exact plain_cons (by decide) (plain_str (plainText_fixed2 _)) <|
    plain_cons (by decide) (plain_str (plainText_str _)) <|
    plain_cons (by decide) (plain_str hst) plain_nil

theorem plain_advanceJson (a : CashAdvance) : (advanceJson a).Plain := by
  have hst : PlainText a.status.value.toList := by cases a.status <;> decide
  exact plain_cons (by decide) (plain_amount _) <|
    plain_cons (by decide) (plain_str (plainText_fixed2 _)) <|
    plain_cons (by decide) (plain_str (plainText_str _)) <|
    plain_cons (by decide) (plain_str hst) plain_nil

theorem plain_sourceJson (v : Uuid) (g : Int) (es : List ActualExpense)
    (is : List ActualIncome) (a : Option CashAdvance) : (sourceJson v g es is a).Plain := by
  have hadv : ((a.map advanceJson).getD .null).Plain := by
    cases a with
    | none => simp [Json.Plain]
    | some a => exact plain_advanceJson a
  exact plain_cons (by decide) hadv <|
    plain_cons (by decide) (plain_str (plainText_str _)) <|
    plain_cons (by decide) (plain_array plain_expenseJson) <|
    plain_cons (by decide) (plain_array plain_incomeJson) <|
    plain_cons (by decide) (plain_str (plainText_fixed2 _)) plain_nil

/-! ## 5. Equal fingerprints, equal sources -/

theorem jsonOfText_amount_injective {a b : Option Int}
    (h : jsonOfText (a.map fixed2) = jsonOfText (b.map fixed2)) : a = b := by
  cases a with
  | none =>
      cases b with
      | none => rfl
      | some b => simp [jsonOfText] at h
  | some a =>
      cases b with
      | none => simp [jsonOfText] at h
      | some b =>
          simp only [Option.map_some, jsonOfText, Json.str.injEq] at h
          rw [fixed2_injective h]

theorem toList_injective {a b : String} (h : a.toList = b.toList) : a = b :=
  String.toList_inj.mp h

theorem expenseStatus_value_injective {a b : ActualExpenseStatus}
    (h : a.value.toList = b.value.toList) : a = b := by
  cases a <;> cases b <;> first | rfl | exact absurd (toList_injective h) (by decide)

theorem incomeStatus_value_injective {a b : ActualIncomeStatus}
    (h : a.value.toList = b.value.toList) : a = b := by
  cases a <;> cases b <;> first | rfl | exact absurd (toList_injective h) (by decide)

theorem advanceStatus_value_injective {a b : CashAdvanceStatus}
    (h : a.value.toList = b.value.toList) : a = b := by
  cases a <;> cases b <;> first | rfl | exact absurd (toList_injective h) (by decide)

theorem expenseSource_of_json {e e' : ActualExpense} (h : expenseJson e = expenseJson e') :
    expenseSource e = expenseSource e' := by
  simp only [expenseJson, jsonObject, List.map_cons, List.map_nil, Members.ofList, Json.obj.injEq,
    Members.cons.injEq, Json.str.injEq, true_and, and_true] at h
  obtain ⟨hc, hi, hs, hv⟩ := h
  unfold expenseSource
  rw [fixed2_injective hc, Uuid.str_injective hi, expenseStatus_value_injective hs,
    jsonOfText_amount_injective hv]

theorem incomeSource_of_json {i i' : ActualIncome} (h : incomeJson i = incomeJson i') :
    incomeSource i = incomeSource i' := by
  simp only [incomeJson, jsonObject, List.map_cons, List.map_nil, Members.ofList, Json.obj.injEq,
    Members.cons.injEq, Json.str.injEq, true_and, and_true] at h
  obtain ⟨ha, hi, hs⟩ := h
  unfold incomeSource
  rw [fixed2_injective ha, Uuid.str_injective hi, incomeStatus_value_injective hs]

theorem advanceSource_of_json {a a' : CashAdvance} (h : advanceJson a = advanceJson a') :
    advanceSource a = advanceSource a' := by
  simp only [advanceJson, jsonObject, List.map_cons, List.map_nil, Members.ofList, Json.obj.injEq,
    Members.cons.injEq, Json.str.injEq, true_and, and_true] at h
  obtain ⟨hp, hd, hi, hs⟩ := h
  unfold advanceSource
  rw [jsonOfText_amount_injective hp, fixed2_injective hd, Uuid.str_injective hi,
    advanceStatus_value_injective hs]

/-- Where one reading of a value decides another, so it does of an optional value. -/
theorem optional_map_eq {α β γ : Type} {f : α → β} {g : α → γ}
    (h : ∀ a b, f a = f b → g a = g b) {o p : Option α} (heq : o.map f = p.map f) :
    o.map g = p.map g := by
  cases o with
  | none =>
      cases p with
      | none => rfl
      | some b => simp at heq
  | some a =>
      cases p with
      | none => simp at heq
      | some b => exact congrArg some (h a b (Option.some.inj heq))

/-- Row lists with the same sorted texts have the same components, as sets. -/
theorem components_eq_of_sorted {α β : Type} [Row α Uuid] {toJson : α → Json} {part : α → β}
    (hpart : ∀ a b, toJson a = toJson b → part a = part b) {l l' : List α}
    (h : (sortById l).map toJson = (sortById l').map toJson) :
    {x | ∃ a ∈ l, part a = x} = {x | ∃ a ∈ l', part a = x} := by
  have sub : ∀ m m' : List α, (sortById m).map toJson = (sortById m').map toJson →
      ∀ x, (∃ a ∈ m, part a = x) → ∃ a ∈ m', part a = x := by
    intro m m' hm x hex
    obtain ⟨a, ha, rfl⟩ := hex
    have hs : toJson a ∈ (sortById m).map toJson :=
      List.mem_map_of_mem ((List.mem_insertionSort _).mpr ha)
    rw [hm] at hs
    obtain ⟨b, hb, e⟩ := List.mem_map.mp hs
    exact ⟨b, (List.mem_insertionSort _).mp hb, hpart b a e⟩
  ext x
  exact ⟨sub l l' h x, sub l' l h.symm x⟩

/-- The hashed object tells its five members apart. -/
theorem sourceJson_eq_iff {v v' : Uuid} {g g' : Int} {es es' : List ActualExpense}
    {is is' : List ActualIncome} {a a' : Option CashAdvance} :
    sourceJson v g es is a = sourceJson v' g' es' is' a' ↔
      v = v' ∧ g = g' ∧
      (sortById es).map expenseJson = (sortById es').map expenseJson ∧
      (sortById is).map incomeJson = (sortById is').map incomeJson ∧
      a.map advanceJson = a'.map advanceJson := by
  constructor
  · intro h
    simp only [sourceJson, jsonObject, List.map_cons, List.map_nil, Members.ofList,
      Json.obj.injEq, Members.cons.injEq, Json.str.injEq, Json.arr.injEq, true_and, and_true] at h
    obtain ⟨hadv, hv, hes, his, hg⟩ := h
    -- an advance is an object, its absence is null
    have hadv' : a.map advanceJson = a'.map advanceJson := by
      cases a with
      | none =>
          cases a' with
          | none => rfl
          | some a' => simp [advanceJson, jsonObject] at hadv
      | some a =>
          cases a' with
          | none => simp [advanceJson, jsonObject] at hadv
          | some a' => exact congrArg some hadv
    exact ⟨Uuid.str_injective hv, fixed2_injective hg, Items.ofList_injective hes,
      Items.ofList_injective his, hadv'⟩
  · rintro ⟨rfl, rfl, hes, his, hadv⟩
    unfold sourceJson
    rw [hes, his, hadv]

/-- **Equal fingerprints mean equal sources**, when the digest is injective. -/
theorem sources_eq_of_fingerprint_eq {cfg : Config} (hsha : Function.Injective cfg.sha256)
    {v v' : Uuid} {g g' : Int} {es es' : List ActualExpense} {is is' : List ActualIncome}
    {a a' : Option CashAdvance}
    (h : computeSourceFingerprint cfg v g es is a = computeSourceFingerprint cfg v' g' es' is' a') :
    sourcesOf v g es is a = sourcesOf v' g' es' is' a' := by
  have hj : sourceJson v g es is a = sourceJson v' g' es' is' a' :=
    render_injective (plain_sourceJson _ _ _ _ _) (plain_sourceJson _ _ _ _ _) (hsha h)
  obtain ⟨hv, hg, hes, his, hadv⟩ := sourceJson_eq_iff.mp hj
  have hadv' : a.map advanceSource = a'.map advanceSource :=
    optional_map_eq (fun _ _ => advanceSource_of_json) hadv
  unfold sourcesOf
  rw [hv, hg, hadv', components_eq_of_sorted (fun _ _ => expenseSource_of_json) hes,
    components_eq_of_sorted (fun _ _ => incomeSource_of_json) his]

end SettlementService

end CampusConnect
