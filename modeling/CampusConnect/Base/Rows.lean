/-
  File:      CampusConnect/Base/Rows.lean
  Subject:   Database rows that meet their table's CHECK constraints, and tables of them.

  * `Row`: the primary key of a row type and the CHECK constraints of its table;
  * `Stored α`: a row the database accepted, so its constraints hold; `store` is the flush that
    writes one and refuses a row that violates them;
  * `Table α`: the rows of a table, every one within its constraints and no key twice;
    `insert`, `replace`, `erase` keep both by construction;
  * `sum_replace`, `sum_insert`, `mem_replace`, ...: what each write does to the members and to
    a sum over the table;
  * `count`: how many rows meet a predicate.
-/
import Mathlib.Data.List.Nodup
import Mathlib.Data.List.Perm.Basic
import Mathlib.Algebra.BigOperators.Group.List.Basic
import Mathlib.Algebra.Order.BigOperators.Group.List
import Mathlib.Algebra.Order.Group.Int
import Mathlib.Tactic.Abel

namespace Rows

/-- A row type: its primary key and the CHECK constraints of its table. -/
class Row (α : Type) (κ : outParam Type) where
  key : α → κ
  Check : α → Prop
  [decCheck : DecidablePred Check]
  [decKey : DecidableEq κ]

attribute [reducible, instance] Row.decCheck Row.decKey

variable {α κ : Type} [Row α κ]

/-! ## 1. Single rows -/

/-- A row as the database holds it: within its CHECK constraints. -/
abbrev Stored (α : Type) {κ : Type} [Row α κ] : Type := {a : α // Row.Check a}

/-- Flush one row; `none` when a CHECK constraint refuses it. -/
def store (a : α) : Option (Stored α) :=
  if h : Row.Check a then some ⟨a, h⟩ else none

@[simp] theorem store_eq_some {a : α} {r : Stored α} : store a = some r ↔ a = r.1 := by
  unfold store
  by_cases h : Row.Check a
  · rw [dif_pos h, Option.some.injEq]
    exact ⟨fun e => by rw [← e], fun e => Subtype.ext e⟩
  · rw [dif_neg h]
    exact ⟨fun e => (nomatch e), fun e => (h (e ▸ r.2)).elim⟩

/-- A sum to which only some members add is the sum over these. -/
theorem sum_map_ite {β M : Type} [AddCommMonoid M] (l : List β) (p : β → Prop) [DecidablePred p]
    (f : β → M) :
    (l.map fun b => if p b then f b else 0).sum = ((l.filter fun b => p b).map f).sum := by
  induction l with
  | nil => rfl
  | cons b l ih =>
      by_cases hb : p b
      · simp [hb, ih]
      · simp [hb, ih]

/-! ## 2. Tables -/

/-- The rows of one table, in insertion order. -/
structure Table (α : Type) {κ : Type} [Row α κ] where
  rows : List α
  checked : ∀ a ∈ rows, Row.Check a
  distinct : (rows.map Row.key).Nodup

namespace Table

instance [DecidableEq α] : DecidableEq (Table α) := fun s t =>
  decidable_of_iff (s.rows = t.rows) (by
    cases s
    cases t
    simp)

instance : Membership α (Table α) := ⟨fun t a => a ∈ t.rows⟩

theorem mem_def {t : Table α} {a : α} : a ∈ t ↔ a ∈ t.rows := Iff.rfl

/-- The empty table. -/
def empty : Table α := ⟨[], by simp, by simp⟩

/-- `SELECT … WHERE id = k`. -/
def find (t : Table α) (k : κ) : Option α := t.rows.find? (fun a => Row.key a = k)

/-- `INSERT`; `none` when the key is taken or a CHECK constraint refuses the row. -/
def insert (t : Table α) (a : α) : Option (Table α) :=
  if h : Row.Check a ∧ Row.key a ∉ t.rows.map Row.key then
    some
      { rows := t.rows ++ [a]
        checked := by
          intro b hb
          rcases List.mem_append.mp hb with hb | hb
          · exact t.checked b hb
          · rw [List.mem_singleton.mp hb]
            exact h.1
        distinct := by
          rw [List.map_append, List.map_singleton, List.nodup_append_comm]
          exact List.nodup_cons.mpr ⟨h.2, t.distinct⟩ }
  else none

/-- The rows with the one of `a`'s key overwritten by `a`. -/
def overwrite (rows : List α) (a : α) : List α :=
  rows.map (fun b => if Row.key b = Row.key a then a else b)

theorem map_key_overwrite (rows : List α) (a : α) :
    (overwrite rows a).map Row.key = rows.map Row.key := by
  unfold overwrite
  rw [List.map_map]
  refine List.map_congr_left fun b _ => ?_
  by_cases h : Row.key b = Row.key a <;> simp [h]

/-- `UPDATE … WHERE id = a.id`; `none` when a CHECK constraint refuses the new row. -/
def replace (t : Table α) (a : α) : Option (Table α) :=
  if h : Row.Check a then
    some
      { rows := overwrite t.rows a
        checked := by
          intro b hb
          obtain ⟨c, hc, rfl⟩ := List.mem_map.mp hb
          by_cases e : Row.key c = Row.key a
          · simpa only [e, if_true] using h
          · simpa only [e, if_false] using t.checked c hc
        distinct := by
          rw [map_key_overwrite]
          exact t.distinct }
  else none

/-- `UPDATE … SET … WHERE id = k`; `none` when no row has the key or a CHECK constraint refuses. -/
def update (t : Table α) (k : κ) (f : α → α) : Option (Table α) :=
  (t.find k).bind fun a => t.replace (f a)

/-- `INSERT` of rows one after the other. -/
def insertAll (t : Table α) : List α → Option (Table α)
  | [] => some t
  | a :: rest => (t.insert a).bind fun u => u.insertAll rest

/-- `DELETE … WHERE id = k`. -/
def erase (t : Table α) (k : κ) : Table α where
  rows := t.rows.filter (fun a => Row.key a ≠ k)
  checked := fun a ha => t.checked a (List.mem_of_mem_filter ha)
  distinct := t.distinct.sublist (List.Sublist.map Row.key List.filter_sublist)

/-- `UPDATE` of many rows by a change that keeps keys and CHECK constraints. -/
def modify (t : Table α) (f : α → α) (hkey : ∀ a, Row.key (f a) = Row.key a)
    (hcheck : ∀ a : α, Row.Check a → Row.Check (f a)) : Table α where
  rows := t.rows.map f
  checked := by
    intro b hb
    obtain ⟨a, ha, rfl⟩ := List.mem_map.mp hb
    exact hcheck a (t.checked a ha)
  distinct := by
    rw [List.map_map]
    have e : Row.key ∘ f = (Row.key : α → κ) := funext hkey
    rw [e]
    exact t.distinct

/-! ## 3. Lookups -/

theorem mem_of_find {t : Table α} {k : κ} {a : α} (h : t.find k = some a) : a ∈ t :=
  List.mem_of_find?_eq_some h

theorem key_of_find {t : Table α} {k : κ} {a : α} (h : t.find k = some a) : Row.key a = k := by
  simpa using List.find?_some h

/-- Keys are distinct, so a member is the row its key finds. -/
theorem eq_of_key_eq {t : Table α} {a b : α} (ha : a ∈ t) (hb : b ∈ t)
    (h : (Row.key a : κ) = Row.key b) : a = b :=
  List.inj_on_of_nodup_map t.distinct ha hb h

theorem find_of_mem {t : Table α} {a : α} (ha : a ∈ t) : t.find (Row.key a) = some a := by
  cases hf : t.find (Row.key a) with
  | none =>
      have h := List.find?_eq_none.mp hf a ha
      simp at h
  | some b => rw [eq_of_key_eq (mem_of_find hf) ha (key_of_find hf)]

/-! ## 4. Members after a write -/

/-- A write that is guarded, by the rows it leaves. -/
theorem guarded_eq_some {p : Prop} [Decidable p] {write : p → Table α} {rows : List α}
    (hrows : ∀ h, (write h).rows = rows) {t' : Table α} :
    (if h : p then some (write h) else none) = some t' ↔ p ∧ t'.rows = rows := by
  by_cases h : p
  · rw [dif_pos h, Option.some.injEq]
    constructor
    · intro e
      exact ⟨h, e ▸ hrows h⟩
    · intro e
      have hwrite := hrows h
      cases t'
      cases hw : write h
      rw [hw] at hwrite
      simp only at e hwrite
      simp [e.2, hwrite]
  · rw [dif_neg h]
    exact ⟨fun e => (nomatch e), fun e => (h e.1).elim⟩

theorem insert_eq_some {t t' : Table α} {a : α} :
    t.insert a = some t' ↔
      (Row.Check a ∧ Row.key a ∉ t.rows.map Row.key) ∧ t'.rows = t.rows ++ [a] := by
  unfold insert
  refine guarded_eq_some ?_
  intro _
  rfl

theorem mem_insert {t t' : Table α} {a b : α} (h : t.insert a = some t') :
    b ∈ t' ↔ b ∈ t ∨ b = a := by
  rw [mem_def, (insert_eq_some.mp h).2]
  simp [mem_def]

theorem replace_eq_some {t t' : Table α} {a : α} :
    t.replace a = some t' ↔ Row.Check a ∧ t'.rows = overwrite t.rows a := by
  unfold replace
  refine guarded_eq_some ?_
  intro _
  rfl

/-- After an update a member is the new row or an old one of another key. -/
theorem mem_replace {t t' : Table α} {a b : α} (h : t.replace a = some t') (hb : b ∈ t') :
    b = a ∨ (b ∈ t ∧ (Row.key b : κ) ≠ Row.key a) := by
  rw [mem_def, (replace_eq_some.mp h).2] at hb
  obtain ⟨c, hc, rfl⟩ := List.mem_map.mp hb
  by_cases e : Row.key c = Row.key a
  · left
    rw [if_pos e]
  · right
    rw [if_neg e]
    exact ⟨hc, e⟩

theorem mem_replace_of_ne {t t' : Table α} {a b : α} (h : t.replace a = some t') (hb : b ∈ t)
    (hk : (Row.key b : κ) ≠ Row.key a) : b ∈ t' := by
  rw [mem_def, (replace_eq_some.mp h).2]
  exact List.mem_map.mpr ⟨b, hb, if_neg hk⟩

theorem mem_replace_self {t t' : Table α} {a b : α} (h : t.replace a = some t') (hb : b ∈ t)
    (hk : (Row.key b : κ) = Row.key a) : a ∈ t' := by
  rw [mem_def, (replace_eq_some.mp h).2]
  exact List.mem_map.mpr ⟨b, hb, if_pos hk⟩

/-- A column the update leaves alone reads the same in every row, in the same order. -/
theorem map_replace {β : Type} {f : α → β} {t t' : Table α} {a old : α} (h : t.replace a = some t')
    (ho : old ∈ t) (hk : (Row.key old : κ) = Row.key a) (hf : f a = f old) :
    t'.rows.map f = t.rows.map f := by
  rw [(replace_eq_some.mp h).2]
  unfold overwrite
  rw [List.map_map]
  refine List.map_congr_left fun b hb => ?_
  by_cases e : Row.key b = Row.key a
  · have hbo : b = old := eq_of_key_eq hb ho (e.trans hk.symm)
    simp only [Function.comp_apply, if_pos e]
    rw [hf, hbo]
  · simp only [Function.comp_apply, if_neg e]

/-- The rows inserted one after the other stand behind the old ones. -/
theorem rows_insertAll {t t' : Table α} {rows : List α} (h : t.insertAll rows = some t') :
    t'.rows = t.rows ++ rows := by
  induction rows generalizing t with
  | nil =>
      cases h
      exact (List.append_nil _).symm
  | cons a rest ih =>
      obtain ⟨u, hu, hrest⟩ := Option.bind_eq_some_iff.mp h
      rw [ih hrest, (insert_eq_some.mp hu).2, List.append_assoc, List.singleton_append]

theorem mem_insertAll {t t' : Table α} {rows : List α} (h : t.insertAll rows = some t') {b : α} :
    b ∈ t' ↔ b ∈ t ∨ b ∈ rows := by
  rw [mem_def, rows_insertAll h, List.mem_append, mem_def]

theorem mem_erase {t : Table α} {k : κ} {a : α} : a ∈ t.erase k ↔ a ∈ t ∧ Row.key a ≠ k := by
  rw [mem_def]
  unfold erase
  simp [mem_def]

theorem mem_modify {t : Table α} {f : α → α} {hkey : ∀ a, Row.key (f a) = Row.key a}
    {hcheck : ∀ a : α, Row.Check a → Row.Check (f a)} {b : α} :
    b ∈ t.modify f hkey hcheck ↔ ∃ a ∈ t, f a = b := List.mem_map

theorem update_eq_some {t t' : Table α} {k : κ} {f : α → α} :
    t.update k f = some t' ↔ ∃ a, t.find k = some a ∧ t.replace (f a) = some t' := by
  unfold update
  exact Option.bind_eq_some_iff

/-- A change of the rows that keeps the keys is seen through the lookup. -/
theorem find_map {t t' : Table α} {f : α → α} (hkey : ∀ a, Row.key (f a) = Row.key a)
    (h : t'.rows = t.rows.map f) (k : κ) : t'.find k = (t.find k).map f := by
  unfold find
  rw [h, List.find?_map]
  have hsame : (fun a => decide (Row.key a = k)) ∘ f = fun a => decide (Row.key a = k) := by
    funext a
    rw [Function.comp_apply, hkey]
  rw [hsame]

theorem find_replace {t t' : Table α} {a : α} (h : t.replace a = some t') (k : κ) :
    t'.find k = (t.find k).map fun b => if Row.key b = Row.key a then a else b := by
  refine find_map (fun b => ?_) (replace_eq_some.mp h).2 k
  by_cases e : Row.key b = Row.key a
  · rw [if_pos e, e]
  · rw [if_neg e]

/-- Writing a row back changes nothing. -/
theorem replace_self {t : Table α} {a : α} (h : a ∈ t) : t.replace a = some t := by
  refine replace_eq_some.mpr ⟨t.checked a h, ?_⟩
  have hsame : t.rows.map (fun b => if Row.key b = Row.key a then a else b) = t.rows.map id := by
    refine List.map_congr_left fun b hb => ?_
    by_cases e : Row.key b = Row.key a
    · rw [if_pos e, eq_of_key_eq hb h e]
      rfl
    · rw [if_neg e]
      rfl
  unfold overwrite
  rw [hsame, List.map_id]

/-- An update changes the row of its key only. -/
theorem find_update {t t' : Table α} {k : κ} {f : α → α} (h : t.update k f = some t')
    (hkey : ∀ a, Row.key (f a) = Row.key a) (j : κ) :
    t'.find j = if j = k then (t.find j).map f else t.find j := by
  obtain ⟨a, ha, hrep⟩ := update_eq_some.mp h
  have hka : Row.key a = k := key_of_find ha
  rw [find_replace hrep, hkey, hka]
  by_cases hj : j = k
  · rw [if_pos hj, hj, ha, Option.map_some, Option.map_some, if_pos hka]
  · rw [if_neg hj]
    cases hb : t.find j with
    | none => rfl
    | some b =>
        have hkb : Row.key b = j := key_of_find hb
        rw [Option.map_some, if_neg]
        rw [hkb]
        exact hj

theorem find_modify {t : Table α} {f : α → α} {hkey : ∀ a, Row.key (f a) = Row.key a}
    {hcheck : ∀ a : α, Row.Check a → Row.Check (f a)} (k : κ) :
    (t.modify f hkey hcheck).find k = (t.find k).map f := find_map hkey rfl k

/-- A row within its constraints can be written. -/
theorem replace_of_check (t : Table α) {a : α} (h : Row.Check a) : ∃ t', t.replace a = some t' := by
  unfold replace
  rw [dif_pos h]
  exact ⟨_, rfl⟩

/-! ## 5. Sums over a table -/

section Sums

variable {M : Type} [AddCommGroup M]

/-- The sum of `f` over the rows. -/
def sum (t : Table α) (f : α → M) : M := (t.rows.map f).sum

theorem sum_insert {t t' : Table α} {a : α} (h : t.insert a = some t') (f : α → M) :
    t'.sum f = t.sum f + f a := by
  unfold sum
  rw [(insert_eq_some.mp h).2]
  simp

/-- Overwriting a row moves a sum by the difference the row makes. -/
theorem sum_overwrite (f : α → M) {a old : α} (hk : (Row.key a : κ) = Row.key old) :
    ∀ rows : List α, (rows.map Row.key).Nodup → old ∈ rows →
      ((overwrite rows a).map f).sum = (rows.map f).sum - f old + f a
  | [], _, hm => (List.not_mem_nil hm).elim
  | b :: rest, hn, hm => by
      rw [List.map_cons, List.nodup_cons] at hn
      by_cases e : Row.key b = Row.key a
      · -- the head is the row itself; keys are distinct, so nothing behind it changes
        have hb : b = old := by
          rcases List.mem_cons.mp hm with h | h
          · exact h.symm
          · exact (hn.1 (List.mem_map.mpr ⟨old, h, by rw [← hk, e]⟩)).elim
        have hrest : overwrite rest a = rest := by
          unfold overwrite
          refine (List.map_congr_left fun c hc => ?_).trans (List.map_id rest)
          exact if_neg fun ec => hn.1 (List.mem_map.mpr ⟨c, hc, by rw [ec, e]⟩)
        have hcons : overwrite (b :: rest) a = a :: overwrite rest a := by
          simp only [overwrite, List.map_cons, e, if_true]
        rw [hcons, hrest, hb]
        simp only [List.map_cons, List.sum_cons]
        abel
      · have hm' : old ∈ rest := by
          rcases List.mem_cons.mp hm with h | h
          · exact (e (by rw [hk, h])).elim
          · exact h
        have ih := sum_overwrite f hk rest hn.2 hm'
        have hcons : overwrite (b :: rest) a = b :: overwrite rest a := by
          simp only [overwrite, List.map_cons, e, if_false]
        rw [hcons]
        simp only [List.map_cons, List.sum_cons]
        rw [ih]
        abel

theorem sum_replace {t t' : Table α} {a old : α} (h : t.replace a = some t') (hm : old ∈ t)
    (hk : (Row.key a : κ) = Row.key old) (f : α → M) :
    t'.sum f = t.sum f - f old + f a := by
  unfold sum
  rw [(replace_eq_some.mp h).2]
  exact sum_overwrite f hk t.rows t.distinct hm

theorem sum_modify {t : Table α} {f : α → α} {hkey : ∀ a, Row.key (f a) = Row.key a}
    {hcheck : ∀ a : α, Row.Check a → Row.Check (f a)} (g : α → M) :
    (t.modify f hkey hcheck).sum g = t.sum (fun a => g (f a)) := by
  unfold sum modify
  rw [List.map_map]
  rfl

theorem sum_congr {t : Table α} {f g : α → M} (h : ∀ a ∈ t, f a = g a) : t.sum f = t.sum g := by
  unfold sum
  rw [List.map_congr_left h]

theorem sum_add (t : Table α) (f g : α → M) : t.sum f + t.sum g = t.sum fun a => f a + g a :=
  List.sum_map_add.symm

/-- A sum does not see the order of the rows. -/
theorem sum_perm {t t' : Table α} (h : t.rows.Perm t'.rows) (f : α → M) : t.sum f = t'.sum f :=
  (h.map f).sum_eq

/-- What only some rows add to is a sum over these. -/
theorem sum_filter (t : Table α) (p : α → Prop) [DecidablePred p] (f : α → M) :
    (t.sum fun a => if p a then f a else 0) = ((t.rows.filter fun a => p a).map f).sum :=
  sum_map_ite t.rows p f

/-- Deleting a row takes away what it adds. -/
theorem sum_erase {t : Table α} {a : α} (hm : a ∈ t) (f : α → M) :
    (t.erase (Row.key a)).sum f = t.sum f - f a := by
  have key : ∀ rows : List α, (rows.map Row.key).Nodup → a ∈ rows →
      ((rows.filter (fun b => Row.key b ≠ Row.key a)).map f).sum = (rows.map f).sum - f a := by
    intro rows
    induction rows with
    | nil => intro _ h; exact (List.not_mem_nil h).elim
    | cons b rest ih =>
        intro hn hmem
        rw [List.map_cons, List.nodup_cons] at hn
        by_cases e : Row.key b = Row.key a
        · have hb : b = a := by
            rcases List.mem_cons.mp hmem with h | h
            · exact h.symm
            · exact (hn.1 (List.mem_map.mpr ⟨a, h, e.symm⟩)).elim
          have hrest : rest.filter (fun c => Row.key c ≠ Row.key a) = rest := by
            refine List.filter_eq_self.mpr fun c hc => ?_
            rw [decide_eq_true_iff]
            intro ec
            exact hn.1 (List.mem_map.mpr ⟨c, hc, by rw [ec, e]⟩)
          rw [List.filter_cons_of_neg (by simp [e]), hrest, hb]
          simp
        · have hm' : a ∈ rest := by
            rcases List.mem_cons.mp hmem with h | h
            · exact (e (by rw [h])).elim
            · exact h
          rw [List.filter_cons_of_pos (by simp [e])]
          simp only [List.map_cons, List.sum_cons]
          rw [ih hn.2 hm']
          abel
  exact key t.rows t.distinct hm

end Sums

/-! ## 6. Integer sums and counts -/

section Counts

theorem sum_nonneg {t : Table α} {f : α → Int} (h : ∀ a ∈ t, 0 ≤ f a) : 0 ≤ t.sum f := by
  refine List.sum_nonneg fun x hx => ?_
  obtain ⟨a, ha, rfl⟩ := List.mem_map.mp hx
  exact h a ha

variable (p : α → Prop) [DecidablePred p]

/-- How many rows meet `p`. -/
def count (t : Table α) : Int := t.sum fun a => if p a then 1 else 0

variable {p}

theorem count_nonneg (t : Table α) : 0 ≤ t.count p := by
  refine sum_nonneg fun a _ => ?_
  by_cases ha : p a
  · rw [if_pos ha]
    exact Int.one_nonneg
  · rw [if_neg ha]

theorem count_pos {t : Table α} {a : α} (hm : a ∈ t) (ha : p a) : 0 < t.count p := by
  have hone : (if p a then (1 : Int) else 0) ≤ t.count p := by
    refine List.single_le_sum ?_ _ (List.mem_map.mpr ⟨a, hm, rfl⟩)
    intro x hx
    obtain ⟨b, _, rfl⟩ := List.mem_map.mp hx
    by_cases hb : p b
    · rw [if_pos hb]
      exact Int.one_nonneg
    · rw [if_neg hb]
  rw [if_pos ha] at hone
  omega

theorem count_eq_zero {t : Table α} (h : ∀ a ∈ t, ¬ p a) : t.count p = 0 := by
  unfold count sum
  refine List.sum_eq_zero fun x hx => ?_
  obtain ⟨a, ha, rfl⟩ := List.mem_map.mp hx
  exact if_neg (h a ha)

theorem count_congr {q : α → Prop} [DecidablePred q] {t : Table α} (h : ∀ a ∈ t, p a ↔ q a) :
    t.count p = t.count q := by
  refine sum_congr fun a ha => ?_
  simp only [h a ha]

theorem count_erase {t : Table α} {a : α} (hm : a ∈ t) (ha : p a) :
    (t.erase (Row.key a)).count p = t.count p - 1 := by
  unfold count
  rw [sum_erase hm, if_pos ha]

theorem count_replace {t t' : Table α} {a old : α} (h : t.replace a = some t') (hm : old ∈ t)
    (hk : (Row.key a : κ) = Row.key old) (hold : p old) (ha : ¬ p a) :
    t'.count p = t.count p - 1 := by
  unfold count
  rw [sum_replace h hm hk, if_pos hold, if_neg ha, add_zero]

end Counts

end Table

end Rows
