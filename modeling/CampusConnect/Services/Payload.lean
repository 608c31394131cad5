/-
  File:      CampusConnect/Services/Payload.lean
  Subject:   `_compute_source_fingerprint` over the amounts as Python holds them: `Decimal`s, which
             spell one amount in many ways.

  * `format2`: `f"{Decimal(str(x)):.2f}"`;
  * `Amount`: the decimal of a `Numeric(12, 2)` column with the hundredths it stands for;
  * `WrittenExpense`, `WrittenIncome`, `WrittenAdvance`: rows with their amounts as decimals, and
    the components the fingerprint is about, amounts by value;
  * `payload`, `canonicalJson`: the object and the text that are hashed;
  * `payload_eq_sourceJson`: the object is the one of the rows in hundredths.
-/
import CampusConnect.Base.Decimals
import CampusConnect.Services.Fingerprint

namespace CampusConnect

open Rows CanonicalJson Decimals

namespace SettlementService

/-! ## 1. Amounts -/

/-- `f"{Decimal(str(d)):.2f}"`: the sign as it is written, the digits rescaled to two places. -/
def format2 (d : Decimal) : Text :=
  (if d.negative then ['-'] else []) ++ fixed2 d.hundredths

/-- What Python holds for a `Numeric(12, 2)` column: whole hundredths in any spelling, and no
    signed zero, which no column stores. -/
structure Amount where
  decimal : Decimal
  cents : Int
  value_eq : decimal.value = cents / 100
  zero_unsigned : decimal.digits = 0 → decimal.negative = false

/-- The amount as a rational: Python's `==` on decimals. -/
def Amount.value (a : Amount) : ℚ := a.decimal.value

theorem Amount.value_eq_iff {a b : Amount} : a.value = b.value ↔ a.cents = b.cents := by
  unfold Amount.value
  rw [a.value_eq, b.value_eq, div_left_inj' (by norm_num), Int.cast_inj]

/-- **The text of an amount depends on its value alone.** -/
theorem format2_amount (a : Amount) : format2 a.decimal = fixed2 a.cents := by
  have hdigits : a.decimal.hundredths = a.cents.natAbs := Decimal.hundredths_eq a.value_eq
  have hsign : a.decimal.negative = decide (a.cents < 0) :=
    Decimal.negative_eq a.value_eq a.zero_unsigned
  unfold format2 fixed2
  rw [hdigits, hsign]
  have hnonneg : ¬ ((a.cents.natAbs : Int) < 0) := by omega
  simp only [Int.natAbs_natCast, if_neg hnonneg, List.nil_append, decide_eq_true_eq,
    List.append_assoc]

/-! ## 2. Rows -/

/-- An expense with its amounts as decimals. -/
structure WrittenExpense where
  row : ActualExpense
  claimedAmount : Amount
  verifiedAmount : Option Amount
  claimed_eq : claimedAmount.cents = row.claimedAmount
  verified_eq : verifiedAmount.map Amount.cents = row.verifiedAmount

/-- An income record with its amount as a decimal. -/
structure WrittenIncome where
  row : ActualIncome
  amount : Amount
  amount_eq : amount.cents = row.amount

/-- An advance with its amounts as decimals. -/
structure WrittenAdvance where
  row : CashAdvance
  amountApproved : Option Amount
  amountDisbursed : Amount
  approved_eq : amountApproved.map Amount.cents = row.amountApproved
  disbursed_eq : amountDisbursed.cents = row.amountDisbursed

instance : Row WrittenExpense Uuid where
  key e := e.row.id
  Check e := e.row.Check

instance : Row WrittenIncome Uuid where
  key i := i.row.id
  Check i := 0 < i.row.amount
  decCheck i := inferInstanceAs (Decidable (0 < i.row.amount))

/-- `(id, status, claimed amount, optional verified amount)`. -/
def WrittenExpense.source (e : WrittenExpense) : Uuid × ActualExpenseStatus × ℚ × Option ℚ :=
  (e.row.id, e.row.status, e.claimedAmount.value, e.verifiedAmount.map Amount.value)

/-- `(id, status, amount)`. -/
def WrittenIncome.source (i : WrittenIncome) : Uuid × ActualIncomeStatus × ℚ :=
  (i.row.id, i.row.status, i.amount.value)

/-- `(id, status, optional approved amount, disbursed amount)`. -/
def WrittenAdvance.source (a : WrittenAdvance) : Uuid × CashAdvanceStatus × Option ℚ × ℚ :=
  (a.row.id, a.row.status, a.amountApproved.map Amount.value, a.amountDisbursed.value)

/-! ## 3. The payload -/

def WrittenExpense.json (e : WrittenExpense) : Json :=
  jsonObject
    [("claimed_amount", .str (format2 e.claimedAmount.decimal)), ("id", .str e.row.id.str),
      ("status", .str e.row.status.value.toList),
      ("verified_amount", jsonOfText (e.verifiedAmount.map fun v => format2 v.decimal))]

def WrittenIncome.json (i : WrittenIncome) : Json :=
  jsonObject
    [("amount", .str (format2 i.amount.decimal)), ("id", .str i.row.id.str),
      ("status", .str i.row.status.value.toList)]

def WrittenAdvance.json (a : WrittenAdvance) : Json :=
  jsonObject
    [("amount_approved", jsonOfText (a.amountApproved.map fun p => format2 p.decimal)),
      ("amount_disbursed", .str (format2 a.amountDisbursed.decimal)), ("id", .str a.row.id.str),
      ("status", .str a.row.status.value.toList)]

/-- `payload`, its keys sorted as the dump sorts them. -/
def payload (approvedVersionId : Uuid) (sanctionedGrant : Amount)
    (expenses : List WrittenExpense) (incomes : List WrittenIncome)
    (advance : Option WrittenAdvance) : Json :=
  jsonObject
    [("advance", (advance.map WrittenAdvance.json).getD .null),
      ("approved_version_id", .str approvedVersionId.str),
      ("expenses", .arr (Items.ofList ((sortById expenses).map WrittenExpense.json))),
      ("incomes", .arr (Items.ofList ((sortById incomes).map WrittenIncome.json))),
      ("sanctioned_grant", .str (format2 sanctionedGrant.decimal))]

/-- `canonical_json`: the text whose digest `_compute_source_fingerprint` returns. -/
def canonicalJson (approvedVersionId : Uuid) (sanctionedGrant : Amount)
    (expenses : List WrittenExpense) (incomes : List WrittenIncome)
    (advance : Option WrittenAdvance) : Text :=
  (payload approvedVersionId sanctionedGrant expenses incomes advance).render

/-! ## 4. The rows in hundredths -/

theorem format2_optional (o : Option Amount) :
    (o.map fun a => format2 a.decimal) = (o.map Amount.cents).map fixed2 := by
  cases o with
  | none => rfl
  | some a => exact congrArg some (format2_amount a)

theorem WrittenExpense.json_eq (e : WrittenExpense) : e.json = expenseJson e.row := by
  unfold WrittenExpense.json expenseJson
  rw [format2_amount, format2_optional, e.claimed_eq, e.verified_eq]

theorem WrittenIncome.json_eq (i : WrittenIncome) : i.json = incomeJson i.row := by
  unfold WrittenIncome.json incomeJson
  rw [format2_amount, i.amount_eq]

theorem WrittenAdvance.json_eq (a : WrittenAdvance) : a.json = advanceJson a.row := by
  unfold WrittenAdvance.json advanceJson
  rw [format2_amount, format2_optional, a.approved_eq, a.disbursed_eq]

/-- Sorting rows by their identifier commutes with forgetting how the amounts are written. -/
theorem sortById_map {α β : Type} [Row α Uuid] [Row β Uuid] (f : α → β)
    (hkey : ∀ a, (Row.key (f a) : Uuid) = Row.key a) (l : List α) :
    sortById (l.map f) = (sortById l).map f := by
  unfold sortById
  refine (List.map_insertionSort _ _ f l fun a _ b _ => ?_).symm
  rw [hkey a, hkey b]

theorem sorted_expenses (es : List WrittenExpense) :
    (sortById es).map WrittenExpense.json
      = (sortById (es.map WrittenExpense.row)).map expenseJson := by
  rw [sortById_map WrittenExpense.row fun _ => rfl, List.map_map]
  exact List.map_congr_left fun e _ => e.json_eq

theorem sorted_incomes (is : List WrittenIncome) :
    (sortById is).map WrittenIncome.json
      = (sortById (is.map WrittenIncome.row)).map incomeJson := by
  rw [sortById_map WrittenIncome.row fun _ => rfl, List.map_map]
  exact List.map_congr_left fun i _ => i.json_eq

theorem map_advance (a : Option WrittenAdvance) :
    a.map WrittenAdvance.json = (a.map WrittenAdvance.row).map advanceJson := by
  cases a with
  | none => rfl
  | some a => exact congrArg some a.json_eq

/-- **The hashed object is the one of the rows in hundredths.** -/
theorem payload_eq_sourceJson (v : Uuid) (g : Amount) (es : List WrittenExpense)
    (is : List WrittenIncome) (a : Option WrittenAdvance) :
    payload v g es is a = sourceJson v g.cents (es.map WrittenExpense.row)
      (is.map WrittenIncome.row) (a.map WrittenAdvance.row) := by
  unfold payload sourceJson
  rw [sorted_expenses, sorted_incomes, map_advance, format2_amount]

end SettlementService

end CampusConnect
