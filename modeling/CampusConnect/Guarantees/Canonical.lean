/-
  File:      CampusConnect/Guarantees/Canonical.lean
  Subject:   CANONICAL FINGERPRINT: two lists of sources are hashed as one text exactly when they
             are the same sources.

  * `sorted_eq_iff`: rows with distinct identifiers, sorted by them, agree in their texts exactly
    when they have the same components as sets;
  * `WrittenExpense.json_iff`, `WrittenIncome.json_iff`, `WrittenAdvance.json_iff`: the text of a
    row says its components and no more;
  * `fingerprint_canonical`: the hashed texts agree exactly when version, grant, components and
    advance do, so the order of the rows and the spelling of the amounts do not matter.
-/
import CampusConnect.Services.Payload
import CampusConnect.System
import Mathlib.Tactic.NormNum

namespace CampusConnect

open Rows CanonicalJson Decimals

namespace SettlementService

/-! ## 1. Sorted rows -/

theorem map_eq_of_map_eq {α β γ : Type} {part : α → β} {toJson : α → γ}
    (h : ∀ a b, part a = part b → toJson a = toJson b) {l m : List α}
    (heq : l.map part = m.map part) : l.map toJson = m.map toJson := by
  induction l generalizing m with
  | nil =>
      rw [List.map_nil, eq_comm, List.map_eq_nil_iff] at heq
      rw [heq]
  | cons a l ih =>
      cases m with
      | nil => exact absurd heq (by simp)
      | cons b m =>
          have hhead : toJson a = toJson b := h a b (List.cons.inj heq).1
          have htail : l.map toJson = m.map toJson := ih (List.cons.inj heq).2
          rw [List.map_cons, List.map_cons, hhead, htail]

section SortedParts

variable {α β : Type} [Row α Uuid] {part : α → β} {ident : β → Uuid}

theorem pairwise_sorted_parts (hident : ∀ a, ident (part a) = Row.key a) (l : List α) :
    ((sortById l).map part).Pairwise (fun x y => (ident x).str ≤ (ident y).str) := by
  rw [List.pairwise_map]
  have hsorted : (sortById l).Pairwise
      (fun a b => (Row.key a : Uuid).str ≤ (Row.key b : Uuid).str) := by
    have htotal : Std.Total
        (fun a b : α => (Row.key a : Uuid).str ≤ (Row.key b : Uuid).str) :=
      ⟨fun a b => le_total _ _⟩
    have htrans : IsTrans α (fun a b => (Row.key a : Uuid).str ≤ (Row.key b : Uuid).str) :=
      ⟨fun a b c => le_trans⟩
    exact List.pairwise_insertionSort _ l
  refine hsorted.imp fun {a b} hab => ?_
  rw [hident a, hident b]
  exact hab

theorem mem_sorted_parts {l : List α} {x : β} :
    x ∈ (sortById l).map part ↔ ∃ a ∈ l, part a = x := by
  unfold sortById
  simp only [List.mem_map, List.mem_insertionSort]

theorem nodup_sorted_parts (hident : ∀ a, ident (part a) = Row.key a) {l : List α}
    (hl : (l.map (Row.key : α → Uuid)).Nodup) : (((sortById l).map part).map ident).Nodup := by
  have hkeys : ((sortById l).map part).map ident = (sortById l).map Row.key := by
    rw [List.map_map]
    exact List.map_congr_left fun a _ => hident a
  rw [hkeys]
  exact ((List.perm_insertionSort _ l).map _).nodup_iff.mpr hl

/-- Rows with distinct identifiers are sorted into one order, however they came. -/
theorem sorted_parts_eq (hident : ∀ a, ident (part a) = Row.key a) {l m : List α}
    (hl : (l.map (Row.key : α → Uuid)).Nodup) (hm : (m.map (Row.key : α → Uuid)).Nodup)
    (h : {x | ∃ a ∈ l, part a = x} = {x | ∃ a ∈ m, part a = x}) :
    (sortById l).map part = (sortById m).map part := by
  have hmem : ∀ x, x ∈ (sortById l).map part ↔ x ∈ (sortById m).map part := by
    intro x
    rw [mem_sorted_parts, mem_sorted_parts]
    exact Set.ext_iff.mp h x
  have hperm : ((sortById l).map part).Perm ((sortById m).map part) :=
    (List.perm_ext_iff_of_nodup (nodup_sorted_parts hident hl).of_map
      (nodup_sorted_parts hident hm).of_map).mpr hmem
  refine hperm.eq_of_pairwise ?_ (pairwise_sorted_parts hident l) (pairwise_sorted_parts hident m)
  -- two components with one identifier are one component
  intro x y hx hy hxy hyx
  have hid : ident x = ident y := Uuid.str_injective (le_antisymm hxy hyx)
  exact List.inj_on_of_nodup_map (nodup_sorted_parts hident hl) hx ((hmem y).mpr hy) hid

/-- **The sorted texts agree exactly when the sets of components do.** -/
theorem sorted_eq_iff {toJson : α → Json} (ident : β → Uuid)
    (hident : ∀ a, ident (part a) = Row.key a)
    (hjson : ∀ a b, toJson a = toJson b ↔ part a = part b) {l m : List α}
    (hl : (l.map (Row.key : α → Uuid)).Nodup) (hm : (m.map (Row.key : α → Uuid)).Nodup) :
    (sortById l).map toJson = (sortById m).map toJson ↔
      {x | ∃ a ∈ l, part a = x} = {x | ∃ a ∈ m, part a = x} := by
  constructor
  · exact components_eq_of_sorted fun a b => (hjson a b).mp
  · intro h
    exact map_eq_of_map_eq (fun a b => (hjson a b).mpr) (sorted_parts_eq hident hl hm h)

end SortedParts

/-! ## 2. The text of a row -/

theorem optional_value_iff {o p : Option Amount} :
    o.map Amount.value = p.map Amount.value ↔ o.map Amount.cents = p.map Amount.cents := by
  constructor
  · exact optional_map_eq fun _ _ => Amount.value_eq_iff.mp
  · exact optional_map_eq fun _ _ => Amount.value_eq_iff.mpr

theorem WrittenExpense.source_iff {e f : WrittenExpense} :
    e.source = f.source ↔ expenseSource e.row = expenseSource f.row := by
  unfold WrittenExpense.source expenseSource
  simp only [Prod.mk.injEq, Amount.value_eq_iff, optional_value_iff, e.claimed_eq,
    f.claimed_eq, e.verified_eq, f.verified_eq]

theorem WrittenIncome.source_iff {i j : WrittenIncome} :
    i.source = j.source ↔ incomeSource i.row = incomeSource j.row := by
  unfold WrittenIncome.source incomeSource
  simp only [Prod.mk.injEq, Amount.value_eq_iff, i.amount_eq, j.amount_eq]

theorem WrittenAdvance.source_iff {a b : WrittenAdvance} :
    a.source = b.source ↔ advanceSource a.row = advanceSource b.row := by
  unfold WrittenAdvance.source advanceSource
  simp only [Prod.mk.injEq, Amount.value_eq_iff, optional_value_iff, a.approved_eq,
    b.approved_eq, a.disbursed_eq, b.disbursed_eq]

theorem expenseJson_of_source {e f : ActualExpense} (h : expenseSource e = expenseSource f) :
    expenseJson e = expenseJson f := by
  simp only [expenseSource, Prod.mk.injEq] at h
  obtain ⟨hid, hstatus, hclaimed, hverified⟩ := h
  unfold expenseJson
  rw [hid, hstatus, hclaimed, hverified]

theorem incomeJson_of_source {i j : ActualIncome} (h : incomeSource i = incomeSource j) :
    incomeJson i = incomeJson j := by
  simp only [incomeSource, Prod.mk.injEq] at h
  obtain ⟨hid, hstatus, hamount⟩ := h
  unfold incomeJson
  rw [hid, hstatus, hamount]

theorem advanceJson_of_source {a b : CashAdvance} (h : advanceSource a = advanceSource b) :
    advanceJson a = advanceJson b := by
  simp only [advanceSource, Prod.mk.injEq] at h
  obtain ⟨hid, hstatus, happroved, hdisbursed⟩ := h
  unfold advanceJson
  rw [hid, hstatus, happroved, hdisbursed]

theorem WrittenExpense.json_iff (e f : WrittenExpense) :
    e.json = f.json ↔ e.source = f.source := by
  rw [e.json_eq, f.json_eq, WrittenExpense.source_iff]
  exact ⟨expenseSource_of_json, expenseJson_of_source⟩

theorem WrittenIncome.json_iff (i j : WrittenIncome) : i.json = j.json ↔ i.source = j.source := by
  rw [i.json_eq, j.json_eq, WrittenIncome.source_iff]
  exact ⟨incomeSource_of_json, incomeJson_of_source⟩

theorem WrittenAdvance.json_iff (a b : WrittenAdvance) :
    a.json = b.json ↔ a.source = b.source := by
  rw [a.json_eq, b.json_eq, WrittenAdvance.source_iff]
  exact ⟨advanceSource_of_json, advanceJson_of_source⟩

theorem optional_json_iff {a b : Option WrittenAdvance} :
    a.map WrittenAdvance.json = b.map WrittenAdvance.json ↔
      a.map WrittenAdvance.source = b.map WrittenAdvance.source := by
  constructor
  · exact optional_map_eq fun a b => (WrittenAdvance.json_iff a b).mp
  · exact optional_map_eq fun a b => (WrittenAdvance.json_iff a b).mpr

/-! ## 3. The whole text -/

theorem canonicalJson_eq_iff {v v' : Uuid} {g g' : Amount} {es es' : List WrittenExpense}
    {is is' : List WrittenIncome} {a a' : Option WrittenAdvance} :
    canonicalJson v g es is a = canonicalJson v' g' es' is' a' ↔
      v = v' ∧ g.cents = g'.cents ∧
      (sortById es).map WrittenExpense.json = (sortById es').map WrittenExpense.json ∧
      (sortById is).map WrittenIncome.json = (sortById is').map WrittenIncome.json ∧
      a.map WrittenAdvance.json = a'.map WrittenAdvance.json := by
  have hpayload : canonicalJson v g es is a = canonicalJson v' g' es' is' a' ↔
      payload v g es is a = payload v' g' es' is' a' := by
    constructor
    · intro h
      refine render_injective ?_ ?_ h
      · rw [payload_eq_sourceJson]; exact plain_sourceJson _ _ _ _ _
      · rw [payload_eq_sourceJson]; exact plain_sourceJson _ _ _ _ _
    · intro h
      unfold canonicalJson
      rw [h]
  rw [hpayload, payload_eq_sourceJson, payload_eq_sourceJson, sourceJson_eq_iff,
    sorted_expenses, sorted_expenses, sorted_incomes, sorted_incomes, map_advance, map_advance]

/-- Rows in another order have the same components. -/
theorem components_eq_of_perm {α β : Type} {part : α → β} {l m : List α}
    (h : (l.map part).Perm (m.map part)) :
    {x | ∃ a ∈ l, part a = x} = {x | ∃ a ∈ m, part a = x} := by
  ext x
  simpa only [List.mem_map, Set.mem_ofPred_eq] using h.mem_iff (a := x)

/-- **The fingerprint is canonical**: the hashed texts agree exactly when the version, the grant,
    the components of the rows, as sets, and those of the advance agree. In particular the rows may
    come in any order and the amounts in any spelling. -/
theorem fingerprint_canonical {v v' : Uuid} {g g' : Amount} {es es' : List WrittenExpense}
    {is is' : List WrittenIncome} {a a' : Option WrittenAdvance}
    (hes : (es.map fun e => e.row.id).Nodup) (hes' : (es'.map fun e => e.row.id).Nodup)
    (his : (is.map fun i => i.row.id).Nodup) (his' : (is'.map fun i => i.row.id).Nodup) :
    (canonicalJson v g es is a = canonicalJson v' g' es' is' a' ↔
      v = v' ∧ g.value = g'.value ∧
      {x | ∃ e ∈ es, e.source = x} = {x | ∃ e ∈ es', e.source = x} ∧
      {x | ∃ i ∈ is, i.source = x} = {x | ∃ i ∈ is', i.source = x} ∧
      a.map WrittenAdvance.source = a'.map WrittenAdvance.source) ∧
    (v = v' → g.value = g'.value →
      (es.map WrittenExpense.source).Perm (es'.map WrittenExpense.source) →
      (is.map WrittenIncome.source).Perm (is'.map WrittenIncome.source) →
      a.map WrittenAdvance.source = a'.map WrittenAdvance.source →
      canonicalJson v g es is a = canonicalJson v' g' es' is' a') := by
  have hiff : canonicalJson v g es is a = canonicalJson v' g' es' is' a' ↔
      v = v' ∧ g.value = g'.value ∧
      {x | ∃ e ∈ es, e.source = x} = {x | ∃ e ∈ es', e.source = x} ∧
      {x | ∃ i ∈ is, i.source = x} = {x | ∃ i ∈ is', i.source = x} ∧
      a.map WrittenAdvance.source = a'.map WrittenAdvance.source := by
    rw [canonicalJson_eq_iff, Amount.value_eq_iff, optional_json_iff,
      sorted_eq_iff Prod.fst (fun _ => rfl) WrittenExpense.json_iff hes hes',
      sorted_eq_iff Prod.fst (fun _ => rfl) WrittenIncome.json_iff his his']
  refine ⟨hiff, fun hv hg hexp hinc hadv => ?_⟩
  exact hiff.mpr ⟨hv, hg, components_eq_of_perm hexp, components_eq_of_perm hinc, hadv⟩

end SettlementService

/-! ## 4. A sample -/

namespace Sample

open SettlementService

/-- Sixty written `60.00`. -/
def sixtyPadded : Amount where
  decimal := ⟨false, 6000, -2⟩
  cents := 6000
  value_eq := by decide +kernel
  zero_unsigned := by decide

/-- Sixty written `6E+1`. -/
def sixtyScaled : Amount where
  decimal := ⟨false, 6, 1⟩
  cents := 6000
  value_eq := by decide +kernel
  zero_unsigned := by decide

/-- A verified expense of sixty under the key `n`, its amounts written as given. -/
def writtenExpense (n : Nat) (amount : Amount) (h : amount.cents = 6000) : WrittenExpense where
  row := expense n .verified (some 6000)
  claimedAmount := amount
  verifiedAmount := some amount
  claimed_eq := h
  verified_eq := congrArg some h

theorem fingerprint_canonical_sample :
    canonicalJson (uid 12) sixtyPadded
        [writtenExpense 40 sixtyPadded rfl, writtenExpense 41 sixtyScaled rfl] [] none
      = canonicalJson (uid 12) sixtyScaled
        [writtenExpense 41 sixtyPadded rfl, writtenExpense 40 sixtyScaled rfl] [] none := by
  have hvalue : sixtyPadded.value = sixtyScaled.value := Amount.value_eq_iff.mpr rfl
  refine (fingerprint_canonical (by decide) (by decide) (by decide) (by decide)).2 rfl hvalue ?_
    List.Perm.nil rfl
  have hsource : ∀ n, (writtenExpense n sixtyPadded rfl).source
      = (writtenExpense n sixtyScaled rfl).source := by
    intro n
    exact WrittenExpense.source_iff.mpr rfl
  simp only [List.map_cons, List.map_nil, hsource]
  exact List.Perm.swap _ _ _

end Sample

end CampusConnect
