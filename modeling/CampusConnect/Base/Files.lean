/-
  File:      CampusConnect/Base/Files.lean
  Subject:   Paths of names, and a disk that holds a content at each of some paths.

  * `components`, `render`, `join`, `resolve`: a path as text and as the names on the way from the root
    of the file system, and `..` followed back;
  * `Plain`: a name that no reader of a path takes for anything else, `join_render`: a path of plain names
    is read back below every directory, `resolve_plain`: and leads where it says;
  * `Disk.read`, `Disk.write`: a write is read back, and every other file stays.
-/
import Mathlib.Data.List.Basic

namespace Files

/-- A name of a directory entry. -/
abbrev Name := List Char

/-- The names on the way from the root of the file system. -/
abbrev Location := List Name

/-! ## 1. Paths -/

/-- The names a text of a path consists of; an empty one and `.` stand for no step. -/
def components (text : List Char) : Location :=
  (text.splitOn '/').filter fun n => n ≠ [] ∧ n ≠ ['.']

/-- The text of a relative path. -/
def render (l : Location) : List Char := ['/'].intercalate l

/-- The path a text names from a directory; an absolute one forgets the directory. -/
def join (base : Location) (text : List Char) : Location :=
  if text.head? = some '/' then components text else base ++ components text

/-- One step of a path: `..` goes back. -/
def follow (l : Location) (n : Name) : Location :=
  if n = ['.', '.'] then l.dropLast else l ++ [n]

/-- The location a path leads to, where no link is on the way. -/
def resolve (l : Location) : Location := l.foldl follow []

/-- The name is a step down, and one name only. -/
structure Plain (n : Name) : Prop where
  nonempty : n ≠ []
  here : n ≠ ['.']
  up : n ≠ ['.', '.']
  single : '/' ∉ n

theorem foldl_follow (base l : Location) (h : ∀ n ∈ l, n ≠ ['.', '.']) :
    l.foldl follow base = base ++ l := by
  induction l generalizing base with
  | nil => exact (List.append_nil base).symm
  | cons n l ih =>
      have hn : follow base n = base ++ [n] := if_neg (h n (List.mem_cons_self ..))
      rw [List.foldl_cons, hn, ih _ fun m hm => h m (List.mem_cons_of_mem n hm),
        List.append_assoc, List.singleton_append]

theorem resolve_plain {l : Location} (h : ∀ n ∈ l, Plain n) : resolve l = l :=
  foldl_follow [] l fun n hn => (h n hn).up

theorem components_render {l : Location} (hne : l ≠ []) (h : ∀ n ∈ l, Plain n) :
    components (render l) = l := by
  unfold components render
  rw [List.splitOn_intercalate '/' (fun n hn => (h n hn).single) hne]
  refine List.filter_eq_self.mpr fun n hn => ?_
  rw [decide_eq_true_eq]
  exact ⟨(h n hn).nonempty, (h n hn).here⟩

/-- A character of the text is a separator or one of a name. -/
theorem mem_render {l : Location} {c : Char} (h : c ∈ render l) : c = '/' ∨ ∃ n ∈ l, c ∈ n := by
  unfold render at h
  induction l with
  | nil => cases h
  | cons n l ih =>
      cases l with
      | nil =>
          rw [List.intercalate_singleton] at h
          exact .inr ⟨n, List.mem_cons_self .., h⟩
      | cons m l =>
          rw [List.intercalate_cons_cons, List.mem_append, List.mem_append] at h
          rcases h with (h | h) | h
          · exact .inr ⟨n, List.mem_cons_self .., h⟩
          · exact .inl (List.mem_singleton.mp h)
          · rcases ih h with hsep | ⟨k, hk, hmem⟩
            · exact .inl hsep
            · exact .inr ⟨k, List.mem_cons_of_mem n hk, hmem⟩

/-- The text of plain names is no absolute path. -/
theorem head_render {l : Location} (h : ∀ n ∈ l, Plain n) : (render l).head? ≠ some '/' := by
  cases l with
  | nil =>
      intro hc
      cases hc
  | cons n l =>
      have hn := h n (List.mem_cons_self ..)
      cases n with
      | nil => exact (hn.nonempty rfl).elim
      | cons c n =>
          intro hc
          refine hn.single ?_
          have hhead : (render ((c :: n) :: l)).head? = some c := by
            unfold render List.intercalate
            cases l <;> rfl
          rw [hhead] at hc
          cases hc
          exact List.mem_cons_self ..

/-- **A path of plain names is read back**, below every directory. -/
theorem join_render {l : Location} (base : Location) (hne : l ≠ []) (h : ∀ n ∈ l, Plain n) :
    join base (render l) = base ++ l := by
  unfold join
  rw [if_neg (head_render h), components_render hne h]

/-- A stem without dots, a dot and an extension are a plain name. -/
theorem Plain.of_extension {stem ext : List Char} (hne : stem ≠ []) (hdot : '.' ∉ stem)
    (hstem : '/' ∉ stem) (hext : '/' ∉ ext) : Plain (stem ++ '.' :: ext) := by
  cases stem with
  | nil => exact (hne rfl).elim
  | cons c stem =>
      have hc : c ≠ '.' := fun he => hdot (he ▸ List.mem_cons_self ..)
      constructor
      · intro he
        cases he
      · intro he
        exact hc (List.cons.inj he).1
      · intro he
        exact hc (List.cons.inj he).1
      · intro hmem
        rcases List.mem_append.mp hmem with h | h
        · exact hstem h
        · rcases List.mem_cons.mp h with h | h
          · cases h
          · exact hext h

/-! ## 2. The disk -/

/-- The files that were written, the last one first. -/
abbrev Disk (β : Type) := List (Location × β)

namespace Disk

variable {β : Type}

/-- The content of the file at a location. -/
def read (d : Disk β) (l : Location) : Option β :=
  (d.find? fun file => file.1 = l).map Prod.snd

/-- Write a file, over the one there is. -/
def write (d : Disk β) (l : Location) (content : β) : Disk β := (l, content) :: d

theorem read_write (d : Disk β) (l : Location) (content : β) :
    (d.write l content).read l = some content := by
  unfold read write
  rw [List.find?_cons_of_pos (by exact decide_eq_true rfl)]
  rfl

theorem read_write_of_ne (d : Disk β) {l k : Location} (content : β) (h : l ≠ k) :
    (d.write l content).read k = d.read k := by
  unfold read write
  rw [List.find?_cons_of_neg (by simpa using h)]

end Disk

end Files
