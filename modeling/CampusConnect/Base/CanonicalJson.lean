/-
  File:      CampusConnect/Base/CanonicalJson.lean
  Subject:   Compact JSON text (separators `,` and `:`, no blanks) and why it can be read back.

  * `Json`, `Json.render`: the values such a text is made of and the text itself. Strings are
    written as they are, so the printer is the standard one on strings that need no escape;
  * `Json.Plain`: no string in the value needs an escape;
  * `render_append_injective`: on plain values the printer is a prefix code, so a text that starts
    with a value's text determines the value and the rest;
  * `render_injective`: two plain values with the same text are the same value.
-/
import Mathlib.Data.List.Basic

namespace CanonicalJson

mutual

/-- A JSON value without numbers. -/
inductive Json where
  | null
  | bool (b : Bool)
  | str (t : List Char)
  | arr (items : Items)
  | obj (members : Members)

inductive Items where
  | nil
  | cons (head : Json) (tail : Items)

inductive Members where
  | nil
  | cons (key : List Char) (value : Json) (tail : Members)

end

/-- `[a, b, …]` as items. -/
def Items.ofList : List Json → Items
  | [] => .nil
  | x :: xs => .cons x (Items.ofList xs)

/-- `[(k, v), …]` as members. -/
def Members.ofList : List (List Char × Json) → Members
  | [] => .nil
  | (k, v) :: ms => .cons k v (Members.ofList ms)

/-- A quoted string. -/
def quoted (t : List Char) : List Char := '"' :: (t ++ ['"'])

mutual

/-- The compact text of a value. -/
def Json.render : Json → List Char
  | .null => ['n', 'u', 'l', 'l']
  | .bool true => ['t', 'r', 'u', 'e']
  | .bool false => ['f', 'a', 'l', 's', 'e']
  | .str t => quoted t
  | .arr items => '[' :: items.render true
  | .obj members => '\x7b' :: members.render true

/-- The items of an array up to its bracket; all but the first are led by a comma. -/
def Items.render : Items → Bool → List Char
  | .nil, _ => [']']
  | .cons x xs, first => (if first then [] else [',']) ++ (x.render ++ xs.render false)

/-- The members of an object up to its brace; all but the first are led by a comma. -/
def Members.render : Members → Bool → List Char
  | .nil, _ => ['\x7d']
  | .cons k v ms, first =>
      (if first then [] else [',']) ++ (quoted k ++ ':' :: (v.render ++ ms.render false))

end

/-- A character that stands for itself inside a JSON string. -/
def PlainChar (c : Char) : Prop := c ≠ '"' ∧ c ≠ '\\' ∧ 32 ≤ c.toNat ∧ c.toNat < 127

instance (c : Char) : Decidable (PlainChar c) := inferInstanceAs (Decidable (_ ∧ _ ∧ _ ∧ _))

/-- A text that stands for itself inside a JSON string. -/
def PlainText (t : List Char) : Prop := ∀ c ∈ t, PlainChar c

mutual

/-- No string of the value needs an escape. -/
def Json.Plain : Json → Prop
  | .null => True
  | .bool _ => True
  | .str t => PlainText t
  | .arr items => items.Plain
  | .obj members => members.Plain

def Items.Plain : Items → Prop
  | .nil => True
  | .cons x xs => x.Plain ∧ xs.Plain

def Members.Plain : Members → Prop
  | .nil => True
  | .cons k v ms => PlainText k ∧ v.Plain ∧ ms.Plain

end

/-! ## Reading a text back -/

/-- A quoted plain text ends at its own closing quote. -/
theorem quoted_append_injective {t u : List Char} (ht : PlainText t) (hu : PlainText u)
    {r r' : List Char} (h : quoted t ++ r = quoted u ++ r') : t = u ∧ r = r' := by
  simp only [quoted, List.cons_append, List.append_assoc, List.nil_append, List.cons.injEq,
    true_and] at h
  induction t generalizing u with
  | nil =>
      cases u with
      | nil => exact ⟨rfl, (List.cons.inj h).2⟩
      | cons c u =>
          have hc := (List.cons.inj h).1
          exact ((hu c (by simp)).1 hc.symm).elim
  | cons d t ih =>
      cases u with
      | nil =>
          have hd := (List.cons.inj h).1
          exact ((ht d (by simp)).1 hd).elim
      | cons c u =>
          obtain ⟨hcd, h⟩ := List.cons.inj h
          obtain ⟨e, hr⟩ := ih (fun x hx => ht x (by simp [hx]))
            (fun x hx => hu x (by simp [hx])) h
          exact ⟨by rw [hcd, e], hr⟩

/-- A value's text does not start with a bracket, brace or comma that closes or separates. -/
theorem Json.render_head (j : Json) :
    ∃ c rest, j.render = c :: rest ∧ c ≠ ']' ∧ c ≠ '\x7d' ∧ c ≠ ',' := by
  cases j with
  | null => exact ⟨_, _, by rw [Json.render], by decide, by decide, by decide⟩
  | bool b =>
      cases b
      · exact ⟨_, _, by rw [Json.render], by decide, by decide, by decide⟩
      · exact ⟨_, _, by rw [Json.render], by decide, by decide, by decide⟩
  | str t => exact ⟨'"', _, by rw [Json.render, quoted], by decide, by decide, by decide⟩
  | arr items => exact ⟨'[', _, by rw [Json.render], by decide, by decide, by decide⟩
  | obj members => exact ⟨'\x7b', _, by rw [Json.render], by decide, by decide, by decide⟩

mutual

/-- **The printer is a prefix code on plain values.** -/
theorem Json.render_append_injective (j j' : Json) (hj : j.Plain) (hj' : j'.Plain)
    (r r' : List Char) (h : j.render ++ r = j'.render ++ r') : j = j' ∧ r = r' := by
  cases j with
  | null =>
      cases j' with
      | null => exact ⟨rfl, by simpa only [Json.render, List.cons_append, List.nil_append,
          List.cons.injEq, true_and] using h⟩
      | bool b => cases b <;> simp [Json.render] at h
      | str t => simp [Json.render, quoted] at h
      | arr items => simp [Json.render] at h
      | obj members => simp [Json.render] at h
  | bool b =>
      cases j' with
      | null => cases b <;> simp [Json.render] at h
      | bool c => cases b <;> cases c <;> simp_all [Json.render]
      | str t => cases b <;> simp [Json.render, quoted] at h
      | arr items => cases b <;> simp [Json.render] at h
      | obj members => cases b <;> simp [Json.render] at h
  | str t =>
      cases j' with
      | null => simp [Json.render, quoted] at h
      | bool b => cases b <;> simp [Json.render, quoted] at h
      | str u =>
          simp only [Json.render] at h
          simp only [Json.Plain] at hj hj'
          obtain ⟨rfl, hr⟩ := quoted_append_injective hj hj' h
          exact ⟨rfl, hr⟩
      | arr items => simp [Json.render, quoted] at h
      | obj members => simp [Json.render, quoted] at h
  | arr items =>
      cases j' with
      | null => simp [Json.render] at h
      | bool b => cases b <;> simp [Json.render] at h
      | str t => simp [Json.render, quoted] at h
      | arr items' =>
          simp only [Json.render, List.cons_append, List.cons.injEq, true_and] at h
          simp only [Json.Plain] at hj hj'
          obtain ⟨rfl, hr⟩ := items.render_append_injective items' true hj hj' r r' h
          exact ⟨rfl, hr⟩
      | obj members => simp [Json.render] at h
  | obj members =>
      cases j' with
      | null => simp [Json.render] at h
      | bool b => cases b <;> simp [Json.render] at h
      | str t => simp [Json.render, quoted] at h
      | arr items => simp [Json.render] at h
      | obj members' =>
          simp only [Json.render, List.cons_append, List.cons.injEq, true_and] at h
          simp only [Json.Plain] at hj hj'
          obtain ⟨rfl, hr⟩ := members.render_append_injective members' true hj hj' r r' h
          exact ⟨rfl, hr⟩

theorem Items.render_append_injective (xs xs' : Items) (first : Bool) (hx : xs.Plain)
    (hx' : xs'.Plain) (r r' : List Char)
    (h : xs.render first ++ r = xs'.render first ++ r') : xs = xs' ∧ r = r' := by
  cases xs with
  | nil =>
      cases xs' with
      | nil => exact ⟨rfl, by simpa only [Items.render, List.cons_append, List.nil_append,
          List.cons.injEq, true_and] using h⟩
      | cons y ys =>
          -- a closing bracket against a comma or the head of a value
          obtain ⟨c, rest, he, hc, _, _⟩ := y.render_head
          cases first with
          | true => simp [Items.render, he, hc.symm] at h
          | false => simp [Items.render] at h
  | cons x xs =>
      cases xs' with
      | nil =>
          obtain ⟨c, rest, he, hc, _, _⟩ := x.render_head
          cases first with
          | true => simp [Items.render, he, hc] at h
          | false => simp [Items.render] at h
      | cons y ys =>
          simp only [Items.render, List.append_assoc] at h
          simp only [Items.Plain] at hx hx'
          obtain ⟨rfl, htail⟩ :=
            x.render_append_injective y hx.1 hx'.1 _ _ (List.append_cancel_left h)
          obtain ⟨rfl, hr⟩ := xs.render_append_injective ys false hx.2 hx'.2 r r' htail
          exact ⟨rfl, hr⟩

theorem Members.render_append_injective (ms ms' : Members) (first : Bool) (hm : ms.Plain)
    (hm' : ms'.Plain) (r r' : List Char)
    (h : ms.render first ++ r = ms'.render first ++ r') : ms = ms' ∧ r = r' := by
  cases ms with
  | nil =>
      cases ms' with
      | nil => exact ⟨rfl, by simpa only [Members.render, List.cons_append, List.nil_append,
          List.cons.injEq, true_and] using h⟩
      | cons k v ms =>
          cases first with
          | true => simp [Members.render, quoted] at h
          | false => simp [Members.render] at h
  | cons k v ms =>
      cases ms' with
      | nil =>
          cases first with
          | true => simp [Members.render, quoted] at h
          | false => simp [Members.render] at h
      | cons k' v' ms' =>
          simp only [Members.render, List.append_assoc, List.cons_append] at h
          simp only [Members.Plain] at hm hm'
          obtain ⟨rfl, hcolon⟩ :=
            quoted_append_injective hm.1 hm'.1 (List.append_cancel_left h)
          obtain ⟨rfl, htail⟩ :=
            v.render_append_injective v' hm.2.1 hm'.2.1 _ _ (List.cons.inj hcolon).2
          obtain ⟨rfl, hr⟩ := ms.render_append_injective ms' false hm.2.2 hm'.2.2 r r' htail
          exact ⟨rfl, hr⟩

end

/-- **Two plain values with the same text are the same value.** -/
theorem render_injective {j j' : Json} (hj : j.Plain) (hj' : j'.Plain)
    (h : j.render = j'.render) : j = j' :=
  (j.render_append_injective j' hj hj' [] [] (by rw [h])).1

/-! ## Values built from lists -/

@[simp] theorem Items.plain_ofList {l : List Json} :
    (Items.ofList l).Plain ↔ ∀ x ∈ l, x.Plain := by
  induction l with
  | nil => simp [Items.ofList, Items.Plain]
  | cons x xs ih => simp [Items.ofList, Items.Plain, ih]

@[simp] theorem Members.plain_ofList {l : List (List Char × Json)} :
    (Members.ofList l).Plain ↔ ∀ m ∈ l, PlainText m.1 ∧ m.2.Plain := by
  induction l with
  | nil => simp [Members.ofList, Members.Plain]
  | cons m ms ih =>
      obtain ⟨k, v⟩ := m
      simp [Members.ofList, Members.Plain, ih, and_assoc]

theorem Items.ofList_injective {l l' : List Json} (h : Items.ofList l = Items.ofList l') :
    l = l' := by
  induction l generalizing l' with
  | nil =>
      cases l' with
      | nil => rfl
      | cons y ys => simp [Items.ofList] at h
  | cons x xs ih =>
      cases l' with
      | nil => simp [Items.ofList] at h
      | cons y ys =>
          simp only [Items.ofList, Items.cons.injEq] at h
          rw [h.1, ih h.2]

end CanonicalJson
