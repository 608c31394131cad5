/-
  File:      CampusConnect/Guarantees/Slugs.lean
  Subject:   Slugs: their CANONICAL FORM, and that no two clubs ever have one slug.

  * `SlugCanonical`: the form a slug should have; `slugify_eq_self`: a tidy slug is left as it is;
  * **`slugify_canonical_iff`**: the cut at 80 characters comes after the trim, so that the form fails
    exactly when the cut falls right behind a hyphen (`slugify_cuts` is such a name);
  * `generateUniqueSlug_spec`: the numbered slug is the first that no other club holds;
  * `ClubStore.Distinct`: the INVARIANT of the table, kept by every call; **`club_slugs_distinct`**.
-/
import CampusConnect.Services.Clubs

namespace CampusConnect

open Guarded Runs Words

/-! ## 1. Characters -/

/-- A lower-case ASCII letter, a digit, an underscore or a hyphen. -/
def isSlugChar (c : Char) : Bool :=
  ('a' ≤ c ∧ c ≤ 'z') || ('0' ≤ c ∧ c ≤ '9') || c = '_' || c = '-'

/-- What holds of the characters up to 127 holds of every ASCII character. -/
theorem ascii_all {P : Char → Prop} (h : ∀ i : Fin 128, P (Char.ofNat i)) {c : Char}
    (hc : c.toNat < 128) : P c := by
  have hp := h ⟨c.toNat, hc⟩
  simp only [Char.ofNat_toNat] at hp
  exact hp

/-- A kept character in lower case is one of a slug, or white space. -/
theorem slugChar_of_lowerChar {c : Char} (hc : c.toNat < 128) :
    (isWord (lowerChar c) || isSlugSep (lowerChar c)) = true →
      isSlugChar (lowerChar c) = true ∨ isSpace (lowerChar c) = true :=
  ascii_all (P := fun c => (isWord (lowerChar c) || isSlugSep (lowerChar c)) = true →
    isSlugChar (lowerChar c) = true ∨ isSpace (lowerChar c) = true) (by decide) hc

theorem toNat_lt_of_slugChar {c : Char} (h : isSlugChar c = true) : c.toNat < 128 := by
  have hle : c ≤ 'z' := by
    simp only [isSlugChar, Bool.or_eq_true, decide_eq_true_eq] at h
    rcases h with ((h | h) | h) | h
    · exact h.2
    · exact Char.le_trans h.2 (by decide)
    · rw [h]
      decide
    · rw [h]
      decide
  have hval : c.val.toNat ≤ 'z'.val.toNat := UInt32.le_iff_toNat_le.mp (Char.le_def.mp hle)
  exact Nat.lt_of_le_of_lt hval (by decide)

/-- Nothing happens to a character of a slug. -/
theorem lowerChar_of_slugChar {c : Char} (h : isSlugChar c = true) :
    lowerChar c = c ∧ isSpace c = false ∧ (isWord c || isSlugSep c) = true :=
  ascii_all (P := fun c => isSlugChar c = true →
    lowerChar c = c ∧ isSpace c = false ∧ (isWord c || isSlugSep c) = true) (by decide)
    (toNat_lt_of_slugChar h) h

/-- The only separator among the characters of a slug is the hyphen. -/
theorem eq_hyphen_of_slugSep {c : Char} (h : isSlugChar c = true) (hsep : isSlugSep c = true) :
    c = '-' := by
  unfold isSlugSep at hsep
  rw [(lowerChar_of_slugChar h).2.1, Bool.or_false, decide_eq_true_eq] at hsep
  exact hsep

/-! ## 2. The slug before the cut -/

/-- `slug` in the source: the slug before it is cut at 80 characters. -/
def fullSlug (nfkd : Text → Text) (text : Text) : Text :=
  trim '-' (squeeze isSlugSep '-' (slugText nfkd text))

/-- The words of a name: of its text without other characters, between hyphens and white space. -/
def slugWords (nfkd : Text → Text) (text : Text) : List Text :=
  words isSlugSep (slugText nfkd text)

section Uncut

variable {nfkd : Text → Text} {text : Text}

theorem slugify_eq :
    slugify nfkd text =
      if (fullSlug nfkd text).take 80 = [] then "club".toList else (fullSlug nfkd text).take 80 :=
  rfl

theorem mem_of_mem_strip {t : Text} {c : Char} (h : c ∈ strip t) : c ∈ t :=
  (List.dropWhile_sublist _).mem ((List.rdropWhile_prefix isSpace (t.dropWhile isSpace)).mem h)

/-- **The slug before the cut joins the words of the name.** -/
theorem fullSlug_eq_join : fullSlug nfkd text = join '-' (slugWords nfkd text) :=
  trim_squeeze (by decide)

theorem slugChar_of_mem_fullSlug {c : Char} (h : c ∈ fullSlug nfkd text) :
    isSlugChar c = true := by
  rcases mem_squeezeFrom (mem_of_mem_trim h) with rfl | ⟨hmem, hsep⟩
  · decide
  · obtain ⟨hstrip, hkept⟩ := List.mem_filter.mp hmem
    obtain ⟨b, hb, rfl⟩ := List.mem_map.mp (mem_of_mem_strip hstrip)
    have hascii : b.toNat < 128 := of_decide_eq_true (List.mem_filter.mp hb).2
    have hspace : isSpace (lowerChar b) = false := by
      unfold isSlugSep at hsep
      exact (Bool.or_eq_false_iff.mp hsep).2
    refine (slugChar_of_lowerChar hascii hkept).resolve_right fun hs => ?_
    rw [hspace] at hs
    cases hs

theorem tidy_fullSlug : Tidy '-' (fullSlug nfkd text) := tidy_trim_squeeze (by decide)

theorem getLast?_fullSlug : (fullSlug nfkd text).getLast? ≠ some '-' := getLast?_trim

/-- Some first words of the name, and not all of them, come to 79 characters: the 80th is the hyphen
    that follows. -/
def CutsAtHyphen (nfkd : Text → Text) (text : Text) : Prop :=
  ∃ k, k + 1 < (slugWords nfkd text).length ∧
    (join '-' ((slugWords nfkd text).take (k + 1))).length = 79

theorem cutsAtHyphen_iff :
    CutsAtHyphen nfkd text ↔ ((fullSlug nfkd text).take 80).getLast? = some '-' := by
  have hwords : ∀ w ∈ slugWords nfkd text, '-' ∉ w := by
    intro w hw hmem
    have hsep := sep_eq_false_of_mem_words hw hmem
    exact absurd hsep (by decide)
  rw [getLast?_take_iff getLast?_fullSlug 79, fullSlug_eq_join, getElem?_join_eq_iff hwords]
  exact Iff.rfl

end Uncut

/-! ## 3. The canonical form -/

/-- **What a slug should be**: neither empty nor longer than 80 characters, over lower-case ASCII
    letters, digits, underscores and hyphens, with no hyphen at an end and no two in a row, and a slug
    of its own. -/
structure SlugCanonical (nfkd : Text → Text) (slug : Text) : Prop where
  nonempty : slug ≠ []
  short : slug.length ≤ 80
  chars : ∀ c ∈ slug, isSlugChar c = true
  first : slug.head? ≠ some '-'
  last : slug.getLast? ≠ some '-'
  single : ¬ ['-', '-'] <:+: slug
  stable : slugify nfkd slug = slug

section Canonical

variable {nfkd : Text → Text} {text slug : Text}

theorem strip_of_no_space (h : ∀ c ∈ slug, isSpace c = false) : strip slug = slug := by
  have hdrop : ∀ l : Text, (∀ c ∈ l, isSpace c = false) → l.dropWhile isSpace = l := by
    intro l hl
    cases l with
    | nil => rfl
    | cons c l => rw [List.dropWhile_cons_of_neg (by simp [hl c List.mem_cons_self])]
  have hreverse : ∀ c ∈ slug.reverse, isSpace c = false := fun c hc => h c (List.mem_reverse.mp hc)
  unfold strip
  rw [hdrop slug h, hdrop slug.reverse hreverse, List.reverse_reverse]

/-- **A tidy slug is left as it is.** -/
theorem slugify_eq_self (hnfkd : ∀ t : Text, (∀ c ∈ t, c.toNat < 128) → toAscii nfkd t = t)
    (hne : slug ≠ []) (hshort : slug.length ≤ 80) (hchars : ∀ c ∈ slug, isSlugChar c = true)
    (htidy : Tidy '-' slug) (hlast : slug.getLast? ≠ some '-') : slugify nfkd slug = slug := by
  have hascii : toAscii nfkd slug = slug := hnfkd slug fun c hc => toNat_lt_of_slugChar (hchars c hc)
  have hlower : slug.map lowerChar = slug := by
    refine (List.map_congr_left fun c hc => ?_).trans (List.map_id slug)
    exact (lowerChar_of_slugChar (hchars c hc)).1
  have hstrip : strip slug = slug :=
    strip_of_no_space fun c hc => (lowerChar_of_slugChar (hchars c hc)).2.1
  have htext : slugText nfkd slug = slug := by
    unfold slugText
    rw [hascii, hlower, hstrip]
    exact List.filter_eq_self.mpr fun c hc => (lowerChar_of_slugChar (hchars c hc)).2.2
  have hfull : fullSlug nfkd slug = slug := by
    unfold fullSlug
    rw [htext, squeeze_eq_self htidy fun c hc => eq_hyphen_of_slugSep (hchars c hc),
      trim_eq_self htidy hlast]
  rw [slugify_eq, hfull, List.take_of_length_le hshort, if_neg hne]

/-- No two hyphens in a row. -/
theorem not_infix_of_tidy (h : Tidy '-' slug) : ¬ ['-', '-'] <:+: slug := by
  intro hinfix
  have hpair := h.chain.infix hinfix
  rw [List.isChain_pair] at hpair
  exact hpair ⟨rfl, rfl⟩

/-- A tidy slug has the form. -/
theorem slugCanonical_of_tidy (hnfkd : ∀ t : Text, (∀ c ∈ t, c.toNat < 128) → toAscii nfkd t = t)
    (hne : slug ≠ []) (hshort : slug.length ≤ 80) (hchars : ∀ c ∈ slug, isSlugChar c = true)
    (htidy : Tidy '-' slug) (hlast : slug.getLast? ≠ some '-') : SlugCanonical nfkd slug where
  nonempty := hne
  short := hshort
  chars := hchars
  first := htidy.head
  last := hlast
  single := not_infix_of_tidy htidy
  stable := slugify_eq_self hnfkd hne hshort hchars htidy hlast

/-- **When a slug is canonical**: exactly when the cut at 80 characters does not fall behind a
    hyphen. -/
theorem slugify_canonical_iff
    (hnfkd : ∀ t : Text, (∀ c ∈ t, c.toNat < 128) → toAscii nfkd t = t) (text : Text) :
    SlugCanonical nfkd (slugify nfkd text) ↔ ¬ CutsAtHyphen nfkd text := by
  rw [cutsAtHyphen_iff]
  by_cases hempty : (fullSlug nfkd text).take 80 = []
  · -- nothing is left of the name
    have hclub : slugify nfkd text = "club".toList := by rw [slugify_eq, if_pos hempty]
    have hchars : ∀ c ∈ "club".toList, isSlugChar c = true := List.all_eq_true.mp (by decide)
    rw [hclub, hempty]
    refine iff_of_true (slugCanonical_of_tidy hnfkd ?_ ?_ hchars ⟨?_, ?_⟩ ?_) ?_
    all_goals decide
  · have hcut : slugify nfkd text = (fullSlug nfkd text).take 80 := by
      rw [slugify_eq, if_neg hempty]
    rw [hcut]
    constructor
    · intro h
      exact h.last
    · intro hlast
      refine slugCanonical_of_tidy hnfkd hempty ?_ (fun c hc => ?_) (tidy_fullSlug.take 80) hlast
      · rw [List.length_take]
        omega
      · exact slugChar_of_mem_fullSlug (List.mem_of_mem_take hc)

end Canonical

/-- Normalisation that changes nothing, as it does on ASCII. -/
theorem toAscii_id (t : Text) (h : ∀ c ∈ t, c.toNat < 128) : toAscii id t = t :=
  List.filter_eq_self.mpr fun c hc => decide_eq_true (h c hc)

theorem slugify_canonical_iff_sample :
    SlugCanonical id (slugify id "Robotics & AI  Club".toList) :=
  (slugify_canonical_iff toAscii_id _).mpr (by rw [cutsAtHyphen_iff]; decide)

/-- **A slug that is not canonical**: the name of a word of 79 letters and one more ends in a hyphen
    when cut. -/
theorem slugify_cuts :
    ¬ ∀ nfkd : Text → Text, (∀ t : Text, (∀ c ∈ t, c.toNat < 128) → toAscii nfkd t = t) →
      ∀ text, SlugCanonical nfkd (slugify nfkd text) := by
  intro hclaim
  have hlast := (hclaim id toAscii_id (List.replicate 79 'a' ++ [' ', 'b'])).last
  have hhyphen : (slugify id (List.replicate 79 'a' ++ [' ', 'b'])).getLast? = some '-' := by
    decide +kernel
  exact hlast hhyphen

/-! ## 4. The numbered slug -/

section Numbered

variable (nfkd : Text → Text) (clubs : List ClubRow) (baseName : Text)
  (excludeClubId : Option Uuid)

/-- What is generated is found by the search of the numbered slugs. -/
theorem search_eq_generateUniqueSlug {fuel : Nat} (hfuel : clubs.length < fuel) :
    FirstFree.search (fun t => decide (SlugHeld clubs excludeClubId t))
      (numbered (slugify nfkd baseName)) fuel 1 =
        some (generateUniqueSlug nfkd clubs baseName excludeClubId) := by
  have hfound : slugLoop (fun t => decide (SlugHeld clubs excludeClubId t)) (slugify nfkd baseName)
      (clubs.length + 1) 1 (numbered (slugify nfkd baseName) 1) =
        some (generateUniqueSlug nfkd clubs baseName excludeClubId) :=
    (Option.some_get _).symm
  rw [slugLoop_eq_search _ _ _ (le_refl 1)] at hfound
  exact FirstFree.search_mono hfound hfuel

/-- The loop ends within one candidate more than there are clubs. -/
theorem slugLoop_eq_generateUniqueSlug {fuel : Nat} (hfuel : clubs.length < fuel) :
    slugLoop (fun t => decide (SlugHeld clubs excludeClubId t)) (slugify nfkd baseName) fuel 1
      (slugify nfkd baseName) = some (generateUniqueSlug nfkd clubs baseName excludeClubId) := by
  have hloop := slugLoop_eq_search (fun t => decide (SlugHeld clubs excludeClubId t))
    (slugify nfkd baseName) fuel (le_refl 1)
  have hone : numbered (slugify nfkd baseName) 1 = slugify nfkd baseName := rfl
  rw [hone] at hloop
  rw [hloop, search_eq_generateUniqueSlug nfkd clubs baseName excludeClubId hfuel]

/-- **The first free one**: what is generated no other club holds, and all slugs before it in the
    sequence are held. -/
theorem generateUniqueSlug_spec :
    ∃ n, 1 ≤ n ∧
      generateUniqueSlug nfkd clubs baseName excludeClubId = numbered (slugify nfkd baseName) n ∧
      ¬ SlugHeld clubs excludeClubId (numbered (slugify nfkd baseName) n) ∧
      ∀ m, 1 ≤ m → m < n → SlugHeld clubs excludeClubId (numbered (slugify nfkd baseName) m) := by
  have hsearch := search_eq_generateUniqueSlug nfkd clubs baseName excludeClubId
    (Nat.lt_succ_self clubs.length)
  obtain ⟨n, hn, heq, hfree, hbefore⟩ := FirstFree.search_spec hsearch
  exact ⟨n, hn, heq, of_decide_eq_false hfree, fun m hm hmn => of_decide_eq_true (hbefore m hm hmn)⟩

theorem generateUniqueSlug_free :
    ¬ SlugHeld clubs excludeClubId (generateUniqueSlug nfkd clubs baseName excludeClubId) := by
  obtain ⟨n, _, heq, hfree, _⟩ := generateUniqueSlug_spec nfkd clubs baseName excludeClubId
  rw [heq]
  exact hfree

end Numbered

/-! ## 5. The table of clubs -/

/-- No two clubs have one key, and no two have one slug. -/
structure ClubStore.Distinct (s : ClubStore) : Prop where
  ids : (s.clubs.map fun c => c.id).Nodup
  slugs : (s.clubs.map fun c => c.slug).Nodup

section Calls

variable {cfg : Config} {nfkd : Text → Text} {env : ClubEnv} {s s' : ClubStore} {actor : User}
  {club : ClubRow} {entries : List AuditEntry}

/-- **The slug of a new club is free** when the row reaches the database. -/
theorem slug_of_prepareClub {clubIn : ClubCreate}
    (h : ClubService.prepareClub cfg nfkd env s clubIn actor = .ok (club, entries)) :
    ∀ c ∈ s.clubs, c.slug ≠ club.slug := by
  unfold ClubService.prepareClub at h
  simp only [bind_accepts, pure_accepts, refuse_accepts, exists_unit] at h
  obtain ⟨_, advisor, _, hrow⟩ := h
  have hslug : club.slug = generateUniqueSlug nfkd s.clubs (cleanName clubIn.name) none := by
    rw [← (Prod.mk.inj hrow).1]
  intro c hc heq
  refine generateUniqueSlug_free nfkd s.clubs (cleanName clubIn.name) none ⟨c, hc, ?_, ?_⟩
  · rw [heq, hslug]
  · intro hid
    cases hid

/-- A renamed club keeps its key, and its slug is kept or free. -/
theorem rename_accepts {old : ClubRow} {name : Option Text}
    (h : ClubService.rename cfg nfkd s old name = .ok club) :
    club.id = old.id ∧ (club.slug = old.slug ∨ ¬ SlugHeld s.clubs (some old.id) club.slug) := by
  cases name with
  | none =>
      cases h
      exact ⟨rfl, .inl rfl⟩
  | some name =>
      unfold ClubService.rename at h
      simp only at h
      by_cases hsame : name = old.name
      · rw [if_pos hsame] at h
        cases h
        exact ⟨rfl, .inl rfl⟩
      · rw [if_neg hsame] at h
        simp only [bind_accepts, pure_accepts, refuse_accepts, exists_unit] at h
        obtain ⟨_, rfl⟩ := h
        exact ⟨rfl, .inr (generateUniqueSlug_free nfkd s.clubs (cleanName name) (some old.id))⟩

/-- An update is of a row there is, and its slug is kept or free. -/
theorem prepareUpdate_accepts {clubId : Uuid} {clubIn : ClubUpdate}
    (h : ClubService.prepareUpdate cfg nfkd env s clubId clubIn actor = .ok (club, entries)) :
    ∃ old ∈ s.clubs, club.id = old.id ∧
      (club.slug = old.slug ∨ ¬ SlugHeld s.clubs (some old.id) club.slug) := by
  unfold ClubService.prepareUpdate at h
  simp only [bind_accepts, pure_accepts, fetch_accepts] at h
  obtain ⟨_, _, old, hold, advisor, _, renamed, hrenamed, hrow⟩ := h
  have hclub := (Prod.mk.inj hrow).1
  have hid : club.id = renamed.id := by rw [← hclub]
  have hslug : club.slug = renamed.slug := by rw [← hclub]
  have hname := rename_accepts hrenamed
  rw [hid, hslug]
  exact ⟨old, List.mem_of_find?_eq_some hold, hname⟩

/-- **The slug of an updated club is no other club's** when the row reaches the database. -/
theorem slug_of_prepareUpdate {clubId : Uuid} {clubIn : ClubUpdate} (hs : s.Distinct)
    (h : ClubService.prepareUpdate cfg nfkd env s clubId clubIn actor = .ok (club, entries)) :
    ∀ c ∈ s.clubs, c.id ≠ club.id → c.slug ≠ club.slug := by
  obtain ⟨old, hold, hid, hslug⟩ := prepareUpdate_accepts h
  intro c hc hne heq
  rcases hslug with hkept | hfree
  · have hsame : c = old := List.inj_on_of_nodup_map hs.slugs hc hold (heq.trans hkept)
    exact hne (by rw [hsame, hid])
  · refine hfree ⟨c, hc, heq, fun hex => hne ?_⟩
    rw [hid]
    exact (Option.some.inj hex).symm

theorem overwrite_id (c : ClubRow) : (club.overwrite c).id = c.id := by
  unfold ClubRow.overwrite
  by_cases h : c.id = club.id
  · rw [if_pos h, h]
  · rw [if_neg h]

/-- A row with a new key and a new slug. -/
theorem ClubStore.Distinct.insert (hs : s.Distinct) (hid : ∀ c ∈ s.clubs, c.id ≠ club.id)
    (hslug : ∀ c ∈ s.clubs, c.slug ≠ club.slug) (hclubs : s'.clubs = s.clubs ++ [club]) :
    s'.Distinct := by
  refine ⟨?_, ?_⟩
  · rw [hclubs, List.map_append, List.map_singleton]
    refine List.Nodup.append hs.ids (List.nodup_singleton _) ?_
    intro i hi hmem
    obtain ⟨c, hc, rfl⟩ := List.mem_map.mp hi
    exact hid c hc (List.mem_singleton.mp hmem)
  · rw [hclubs, List.map_append, List.map_singleton]
    refine List.Nodup.append hs.slugs (List.nodup_singleton _) ?_
    intro t ht hmem
    obtain ⟨c, hc, rfl⟩ := List.mem_map.mp ht
    exact hslug c hc (List.mem_singleton.mp hmem)

/-- A row overwritten by one whose slug no other row has. -/
theorem ClubStore.Distinct.overwrite (hs : s.Distinct)
    (hslug : ∀ c ∈ s.clubs, c.id ≠ club.id → c.slug ≠ club.slug)
    (hclubs : s'.clubs = s.clubs.map club.overwrite) : s'.Distinct := by
  refine ⟨?_, ?_⟩
  · have hids : s'.clubs.map (fun c => c.id) = s.clubs.map fun c => c.id := by
      rw [hclubs, List.map_map]
      exact List.map_congr_left fun c _ => overwrite_id c
    rw [hids]
    exact hs.ids
  · rw [hclubs, List.map_map]
    refine List.Nodup.map_on (fun c hc d hd heq => ?_) hs.ids.of_map
    simp only [Function.comp_apply, ClubRow.overwrite] at heq
    by_cases hcid : c.id = club.id
    · by_cases hdid : d.id = club.id
      · exact List.inj_on_of_nodup_map hs.ids hc hd (hcid.trans hdid.symm)
      · rw [if_pos hcid, if_neg hdid] at heq
        exact absurd heq.symm (hslug d hd hdid)
    · by_cases hdid : d.id = club.id
      · rw [if_neg hcid, if_pos hdid] at heq
        exact absurd heq (hslug c hc hcid)
      · rw [if_neg hcid, if_neg hdid] at heq
        exact List.inj_on_of_nodup_map hs.slugs hc hd heq

/-- An accepted call keeps keys and slugs distinct. -/
theorem ClubStore.Distinct.exec {op : ClubOp} (hs : s.Distinct)
    (h : op.exec cfg nfkd s = .ok s') : s'.Distinct := by
  cases op with
  | create env clubIn actor =>
      unfold ClubOp.exec ClubService.createClub at h
      simp only [bind_accepts, pure_accepts, refuse_accepts, exists_unit, Prod.exists] at h
      obtain ⟨club, entries, hrow, hunique, rfl⟩ := h
      exact hs.insert (fun c hc hid => hunique ⟨c, hc, .inl hid⟩) (slug_of_prepareClub hrow) rfl
  | update env clubId clubIn actor =>
      unfold ClubOp.exec ClubService.updateClub at h
      simp only [bind_accepts, pure_accepts, refuse_accepts, exists_unit, Prod.exists] at h
      obtain ⟨club, entries, hrow, _, rfl⟩ := h
      exact hs.overwrite (slug_of_prepareUpdate hs hrow) rfl

/-- **Every call keeps keys and slugs distinct.** -/
theorem ClubStore.Distinct.step {op : ClubOp} (hs : s.Distinct) (h : ClubStep cfg nfkd s op s') :
    s'.Distinct := by
  unfold ClubStep ClubOp.apply at h
  cases hexec : op.exec cfg nfkd s with
  | error e =>
      rw [hexec] at h
      exact h ▸ hs
  | ok t =>
      rw [hexec] at h
      exact h ▸ hs.exec hexec

end Calls

/-- **Slugs are unique**: the loop of `generate_unique_slug` ends, for every table, name and excluded
    club, with the first slug of the sequence that no other club holds; so in every run of
    `create_club` and `update_club` the stored slugs are pairwise distinct, and no row reaches the
    database with a slug that another row has. -/
theorem club_slugs_distinct (cfg : Config) (nfkd : Text → Text) :
    (∀ (clubs : List ClubRow) (baseName : Text) (excludeClubId : Option Uuid),
      (∀ fuel, clubs.length < fuel →
        slugLoop (fun t => decide (SlugHeld clubs excludeClubId t)) (slugify nfkd baseName) fuel 1
          (slugify nfkd baseName) = some (generateUniqueSlug nfkd clubs baseName excludeClubId)) ∧
      ∃ n, 1 ≤ n ∧
        generateUniqueSlug nfkd clubs baseName excludeClubId = numbered (slugify nfkd baseName) n ∧
        ¬ SlugHeld clubs excludeClubId (numbered (slugify nfkd baseName) n) ∧
        ∀ m, 1 ≤ m → m < n → SlugHeld clubs excludeClubId (numbered (slugify nfkd baseName) m)) ∧
    ∀ (s s' : ClubStore) (ops : List ClubOp), s.Distinct → Path (ClubStep cfg nfkd) s ops s' →
      (s'.clubs.map fun c => c.slug).Nodup ∧
      (∀ env clubIn actor club entries,
        ClubService.prepareClub cfg nfkd env s' clubIn actor = .ok (club, entries) →
          ∀ c ∈ s'.clubs, c.slug ≠ club.slug) ∧
      ∀ env clubId clubIn actor club entries,
        ClubService.prepareUpdate cfg nfkd env s' clubId clubIn actor = .ok (club, entries) →
          ∀ c ∈ s'.clubs, c.id ≠ club.id → c.slug ≠ club.slug := by
  refine ⟨fun clubs baseName excludeClubId => ⟨fun fuel hfuel => ?_, ?_⟩, fun s s' ops hs h => ?_⟩
  · exact slugLoop_eq_generateUniqueSlug nfkd clubs baseName excludeClubId hfuel
  · exact generateUniqueSlug_spec nfkd clubs baseName excludeClubId
  · have hdistinct : s'.Distinct := h.preserves (fun s op s' hs hstep => hs.step hstep) hs
    refine ⟨hdistinct.slugs, fun env clubIn actor club entries hrow => ?_,
      fun env clubId clubIn actor club entries hrow => ?_⟩
    · exact slug_of_prepareClub hrow
    · exact slug_of_prepareUpdate hdistinct hrow

/-- The clubs after the calls. -/
def afterClubOps (cfg : Config) (nfkd : Text → Text) (s : ClubStore) (ops : List ClubOp) :
    ClubStore :=
  ops.foldl (fun s op => op.apply cfg nfkd s) s

theorem path_afterClubOps (cfg : Config) (nfkd : Text → Text) (s : ClubStore) (ops : List ClubOp) :
    Path (ClubStep cfg nfkd) s ops (afterClubOps cfg nfkd s ops) := by
  induction ops generalizing s with
  | nil => exact .nil s
  | cons op ops ih => exact .cons rfl (ih _)

/-- Two clubs whose names differ in a hyphen, and the second renamed. -/
def sampleClubOps : List ClubOp :=
  let env : Nat → ClubEnv := fun n => ⟨0, ⟨n⟩, [], []⟩
  let admin : User := ⟨⟨9⟩, ['a'], .systemAdmin⟩
  [.create (env 1) ⟨"AI Club".toList, none, none, "2026".toList, none⟩ admin,
    .create (env 2) ⟨"AI-Club".toList, none, none, "2026".toList, none⟩ admin,
    .update (env 3) ⟨2⟩ ⟨some "Art".toList, none, none, none, none, none⟩ admin]

theorem club_slugs_distinct_sample :
    ((afterClubOps ⟨.sqlite, id, id, id, false⟩ id ⟨[], []⟩ sampleClubOps).clubs.map
      fun c => c.slug).Nodup :=
  ((club_slugs_distinct _ id).2 ⟨[], []⟩ _ sampleClubOps ⟨List.nodup_nil, List.nodup_nil⟩
    (path_afterClubOps _ id _ _)).1

example : (afterClubOps ⟨.sqlite, id, id, id, false⟩ id ⟨[], []⟩ (sampleClubOps.take 2)).clubs.map
    (fun c => c.slug) = ["ai-club".toList, "ai-club-2".toList] := by decide

end CampusConnect
