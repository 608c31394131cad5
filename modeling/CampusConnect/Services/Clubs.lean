/-
  File:      CampusConnect/Services/Clubs.lean
  Subject:   The club service: slugs, the charter of a club and the update of its profile.

  * `slugify`, `generateUniqueSlug`: a slug from a name, and the loop that numbers it until it is free;
  * `ClubRow`, `ClubStore`, `ClubEnv`: the rows of `clubs`, and what a call reads beside them;
  * `validateFacultyAdvisor`, `verifyClubOwnership`, `createClub`, `updateClub`: the operations;
  * `ClubOp`, `ClubStep`: the calls of a run, accepted or refused and rolled back.
-/
import CampusConnect.Base.FirstFree
import CampusConnect.Base.Runs
import CampusConnect.Base.Words
import CampusConnect.Services.Common

namespace CampusConnect

open Guarded Words

/-! ## 1. Slugs -/

/-- `\w`, of a text that is ASCII. -/
def isWord (c : Char) : Bool := c.isAlphanum || c = '_'

/-- `[-\s]`. -/
def isSlugSep (c : Char) : Bool := c = '-' || isSpace c

/-- `unicodedata.normalize("NFKD", text).encode("ascii", "ignore").decode("ascii")`. -/
def toAscii (nfkd : Text → Text) (text : Text) : Text :=
  (nfkd text).filter fun c => decide (c.toNat < 128)

/-- `str.lower()` on one ASCII character. -/
def lowerChar (c : Char) : Char :=
  if 'A' ≤ c ∧ c ≤ 'Z' then Char.ofNat (c.toNat + 32) else c

/-- A name before its separators are looked at: lower case, without `[^\w\s-]`. -/
def slugText (nfkd : Text → Text) (text : Text) : Text :=
  (strip ((toAscii nfkd text).map lowerChar)).filter fun c => isWord c || isSlugSep c

/-- `slugify`. -/
def slugify (nfkd : Text → Text) (text : Text) : Text :=
  let text := slugText nfkd text
  let text := squeeze isSlugSep '-' text
  let slug := (trim '-' text).take 80
  if slug = [] then "club".toList else slug

/-- The `n`th slug tried for a base: itself, then `base-2`, `base-3`, and so on. -/
def numbered (baseSlug : Text) (n : Nat) : Text :=
  if n ≤ 1 then baseSlug else baseSlug ++ '-' :: Nat.toDigits 10 n

/-- The loop of `generate_unique_slug`, for at most `fuel` candidates. -/
def slugLoop (existing : Text → Bool) (baseSlug : Text) : Nat → Nat → Text → Option Text
  | 0, _, _ => none
  | fuel + 1, counter, candidate =>
      if existing candidate then
        let counter := counter + 1
        slugLoop existing baseSlug fuel counter (baseSlug ++ '-' :: Nat.toDigits 10 counter)
      else some candidate

/-! ## 2. Rows -/

/-- A row of `clubs`. -/
structure ClubRow extends Club where
  slug : Text
  description : Option Text
  academicYear : Text
  logoUrl : Option Text
  createdBy : Uuid
  deriving DecidableEq, Repr

/-- The row of the key is overwritten. -/
def ClubRow.overwrite (club c : ClubRow) : ClubRow := if c.id = club.id then club else c

/-- Some club other than the excluded one has the slug; deleted clubs count. -/
def SlugHeld (clubs : List ClubRow) (excludeClubId : Option Uuid) (slug : Text) : Prop :=
  ∃ c ∈ clubs, c.slug = slug ∧ excludeClubId ≠ some c.id

instance (clubs : List ClubRow) (excludeClubId : Option Uuid) (slug : Text) :
    Decidable (SlugHeld clubs excludeClubId slug) :=
  inferInstanceAs (Decidable (∃ c ∈ clubs, _))

/-! ## 3. The loop ends -/

section Numbering

variable {baseSlug : Text}

theorem numbered_succ {n : Nat} (hn : 1 ≤ n) :
    numbered baseSlug (n + 1) = baseSlug ++ '-' :: Nat.toDigits 10 (n + 1) :=
  if_neg (by omega)

/-- **No two numbers give one slug.** -/
theorem numbered_injective {i j : Nat} (hi : 1 ≤ i) (hj : 1 ≤ j)
    (h : numbered baseSlug i = numbered baseSlug j) : i = j := by
  unfold numbered at h
  by_cases hi1 : i ≤ 1
  · by_cases hj1 : j ≤ 1
    · omega
    · rw [if_pos hi1, if_neg hj1] at h
      have hlen := congrArg List.length h
      simp at hlen
  · by_cases hj1 : j ≤ 1
    · rw [if_neg hi1, if_pos hj1] at h
      have hlen := congrArg List.length h
      simp at hlen
    · rw [if_neg hi1, if_neg hj1] at h
      exact toDigits_injective (List.cons.inj (List.append_cancel_left h)).2

/-- The loop is the search of the numbered slugs. -/
theorem slugLoop_eq_search (existing : Text → Bool) (baseSlug : Text) (fuel : Nat) {counter : Nat}
    (hc : 1 ≤ counter) :
    slugLoop existing baseSlug fuel counter (numbered baseSlug counter) =
      FirstFree.search existing (numbered baseSlug) fuel counter := by
  induction fuel generalizing counter with
  | zero => rfl
  | succ fuel ih =>
      have hnext : 1 ≤ counter + 1 := by omega
      unfold slugLoop FirstFree.search
      simp only [← numbered_succ hc, ih hnext]

/-- One candidate more than there are clubs is enough. -/
theorem slugLoop_isSome (clubs : List ClubRow) (excludeClubId : Option Uuid) (baseSlug : Text)
    {fuel : Nat} (hfuel : clubs.length < fuel) :
    (slugLoop (fun t => decide (SlugHeld clubs excludeClubId t)) baseSlug fuel 1 baseSlug).isSome := by
  have hloop := slugLoop_eq_search (fun t => decide (SlugHeld clubs excludeClubId t)) baseSlug fuel
    (le_refl 1)
  have hone : numbered baseSlug 1 = baseSlug := rfl
  rw [hone] at hloop
  rw [hloop]
  refine FirstFree.search_isSome (fun i j hi hj hij => numbered_injective hi hj hij)
    (clubs.map ClubRow.slug) (fun t ht => ?_) (by rw [List.length_map]; exact hfuel)
  obtain ⟨c, hc, hslug, _⟩ := of_decide_eq_true ht
  exact List.mem_map.mpr ⟨c, hc, hslug⟩

end Numbering

/-- `generate_unique_slug`: what the loop returns, given as many candidates as it needs. -/
def generateUniqueSlug (nfkd : Text → Text) (clubs : List ClubRow) (baseName : Text)
    (excludeClubId : Option Uuid) : Text :=
  (slugLoop (fun t => decide (SlugHeld clubs excludeClubId t)) (slugify nfkd baseName)
    (clubs.length + 1) 1 (slugify nfkd baseName)).get
    (slugLoop_isSome clubs excludeClubId (slugify nfkd baseName) (Nat.lt_succ_self _))

/-! ## 4. Calls -/

/-- A user, as the check of an advisor reads it. -/
structure ClubUser extends User where
  isActive : Bool
  deletedAt : Option Instant
  deriving DecidableEq, Repr

/-- What a call reads beside the clubs, and the key it draws. -/
structure ClubEnv where
  now : Instant
  newId : Uuid
  users : List ClubUser
  members : List ClubMember
  deriving DecidableEq, Repr

/-- The clubs and their audit log. -/
structure ClubStore where
  clubs : List ClubRow
  auditLogs : List AuditLog
  deriving DecidableEq, Repr

/-- `ClubCreate`. -/
structure ClubCreate where
  name : Text
  description : Option Text
  facultyAdvisorId : Option Uuid
  academicYear : Text
  logoUrl : Option Text
  deriving DecidableEq, Repr

/-- `ClubUpdate`. -/
structure ClubUpdate where
  name : Option Text
  description : Option Text
  logoUrl : Option Text
  isActive : Option Bool
  facultyAdvisorId : Option Uuid
  academicYear : Option Text
  deriving DecidableEq, Repr

/-- What the shared guards and audit entries read. -/
def ClubEnv.toEnv (env : ClubEnv) (s : ClubStore) : Env where
  now := env.now
  members := env.members
  clubs := s.clubs.map ClubRow.toClub
  documents := []
  otherExpenses := []

def ClubStore.log (s : ClubStore) (entries : List AuditEntry) : ClubStore :=
  { s with auditLogs := s.auditLogs ++ entries.map AuditEntry.row }

/-- `" ".join(name.strip().split())`. -/
def cleanName (name : Text) : Text := join ' ' (words isSpace (strip name))

/-- A live club other than the excluded one has the name, up to case. -/
def NameTaken (cfg : Config) (clubs : List ClubRow) (excludeClubId : Option Uuid) (name : Text) :
    Prop :=
  ∃ c ∈ clubs, cfg.sqlLower c.name = cfg.sqlLower name ∧ excludeClubId ≠ some c.id ∧
    c.deletedAt = none

instance (cfg : Config) (clubs : List ClubRow) (excludeClubId : Option Uuid) (name : Text) :
    Decidable (NameTaken cfg clubs excludeClubId name) :=
  inferInstanceAs (Decidable (∃ c ∈ clubs, _))

/-- `str(club.faculty_advisor_id) if club.faculty_advisor_id else None`. -/
def ClubRow.advisorValue (club : ClubRow) : Value := .ofText (club.facultyAdvisorId.map Uuid.str)

/-- The state object of `CLUB_CREATED`. -/
def ClubRow.charter (club : ClubRow) : StateDict :=
  [("name", .text club.name), ("slug", .text club.slug),
    ("academic_year", .text club.academicYear), ("faculty_advisor_id", club.advisorValue),
    ("description", .ofText club.description), ("logo_url", .ofText club.logoUrl),
    ("is_active", .flag club.isActive)]

/-- The state objects of `CLUB_UPDATED`. -/
def ClubRow.profile (club : ClubRow) : StateDict :=
  [("name", .text club.name), ("slug", .text club.slug),
    ("description", .ofText club.description), ("faculty_advisor_id", club.advisorValue),
    ("academic_year", .text club.academicYear), ("is_active", .flag club.isActive),
    ("logo_url", .ofText club.logoUrl)]

namespace ClubService

/-- `validate_faculty_advisor`. -/
def validateFacultyAdvisor (env : ClubEnv) (advisorId : Uuid) : Result ClubUser := do
  let user ← fetch (env.users.find? fun u => u.id = advisorId ∧ u.deletedAt = none)
    ⟨.badRequest, "Faculty advisor with ID '%s' was not found.", [.uuid advisorId]⟩
  refuse (user.isActive = false) ⟨.badRequest, "Assigned faculty advisor account is inactive.", []⟩
  refuse (user.role ≠ .facultyAdvisor)
    ⟨.badRequest, "User '%s' has role '%s', but FACULTY_ADVISOR is required.",
      [.text user.email, .name user.role.value]⟩
  return user

/-- The advisor a call assigns: the one it names, unless the club has this one. -/
def newAdvisor (env : ClubEnv) (current : Option Uuid) : Option Uuid → Result (Option ClubUser)
  | none => .ok none
  | some advisorId =>
      if some advisorId = current then .ok none
      else do
        let user ← validateFacultyAdvisor env advisorId
        return some user

/-- The `ADVISOR_ASSIGNED` entry of a call that assigned an advisor. -/
def advisorEntries (env : Env) (actor : User) (clubId : Uuid) (previous : Option StateDict) :
    Option ClubUser → List AuditEntry
  | none => []
  | some advisor =>
      [createAuditEntry env actor .advisorAssigned "club" clubId previous
        (some [("faculty_advisor_id", .text advisor.id.str),
          ("faculty_advisor_email", .text advisor.email)])]

/-- `create_club`, up to its commit: the row and the audit entries added to the session. -/
def prepareClub (cfg : Config) (nfkd : Text → Text) (env : ClubEnv) (s : ClubStore)
    (clubIn : ClubCreate) (actor : User) : Result (ClubRow × List AuditEntry) := do
  let name := cleanName clubIn.name
  refuse (NameTaken cfg s.clubs none name)
    ⟨.conflict, "A club with name '%s' already exists.", [.text name]⟩
  let advisor ← newAdvisor env none clubIn.facultyAdvisorId
  let slug := generateUniqueSlug nfkd s.clubs name none
  let club : ClubRow :=
    { id := env.newId
      name := name
      slug := slug
      description := clubIn.description
      facultyAdvisorId := clubIn.facultyAdvisorId
      academicYear := clubIn.academicYear
      logoUrl := clubIn.logoUrl
      isActive := true
      createdBy := actor.id }
  let created := createAuditEntry (env.toEnv s) actor .clubCreated "club" club.id none
    (some club.charter)
  return (club, created :: advisorEntries (env.toEnv s) actor club.id none advisor)

/-- `create_club`: the key, the name and the slug are unique among all rows. -/
def createClub (cfg : Config) (nfkd : Text → Text) (env : ClubEnv) (s : ClubStore)
    (clubIn : ClubCreate) (actor : User) : Result ClubStore := do
  let (club, entries) ← prepareClub cfg nfkd env s clubIn actor
  refuse (∃ c ∈ s.clubs, c.id = club.id ∨ c.name = club.name ∨ c.slug = club.slug)
    ⟨.conflict, "A club with this name or slug already exists in the system.", []⟩
  return { s with clubs := s.clubs ++ [club] }.log entries

/-- The name of an update, with the slug regenerated. A name given as it stands changes nothing. -/
def rename (cfg : Config) (nfkd : Text → Text) (s : ClubStore) (club : ClubRow) :
    Option Text → Result ClubRow
  | none => .ok club
  | some name =>
      if name = club.name then .ok club
      else do
        let cleanedName := cleanName name
        refuse (NameTaken cfg s.clubs (some club.id) cleanedName)
          ⟨.conflict, "A club with name '%s' already exists.", [.text cleanedName]⟩
        return { club with
          name := cleanedName
          slug := generateUniqueSlug nfkd s.clubs cleanedName (some club.id) }

/-- `update_club`, up to its commit. The session does not autoflush, so that its queries see the rows
    as committed. -/
def prepareUpdate (cfg : Config) (nfkd : Text → Text) (env : ClubEnv) (s : ClubStore)
    (clubId : Uuid) (clubIn : ClubUpdate) (actor : User) : Result (ClubRow × List AuditEntry) := do
  let _ ← verifyClubOwnership (env.toEnv s) clubId actor "update club profile"
  -- the row of the club it returns
  let club ← fetch (s.clubs.find? fun c => c.id = clubId ∧ c.deletedAt = none)
    ⟨.notFound, "Club with ID '%s' not found.", [.uuid clubId]⟩
  let advisor ← newAdvisor env club.facultyAdvisorId clubIn.facultyAdvisorId
  let renamed ← rename cfg nfkd s club clubIn.name
  let updated : ClubRow :=
    { renamed with
      facultyAdvisorId :=
        match advisor with
        | some user => some user.id
        | none => club.facultyAdvisorId
      description := clubIn.description <|> club.description
      academicYear := clubIn.academicYear.getD club.academicYear
      isActive := clubIn.isActive.getD club.isActive
      logoUrl := clubIn.logoUrl <|> club.logoUrl }
  let entry := createAuditEntry (env.toEnv s) actor .clubUpdated "club" updated.id
    (some club.profile) (some updated.profile)
  return (updated, entry :: advisorEntries (env.toEnv s) actor updated.id
    (some [("faculty_advisor_id", club.advisorValue)]) advisor)

/-- `update_club`. -/
def updateClub (cfg : Config) (nfkd : Text → Text) (env : ClubEnv) (s : ClubStore)
    (clubId : Uuid) (clubIn : ClubUpdate) (actor : User) : Result ClubStore := do
  let (club, entries) ← prepareUpdate cfg nfkd env s clubId clubIn actor
  refuse (∃ c ∈ s.clubs, c.id ≠ club.id ∧ (c.name = club.name ∨ c.slug = club.slug))
    ⟨.conflict, "A club with this name or slug already exists.", []⟩
  return { s with clubs := s.clubs.map club.overwrite }.log entries

end ClubService

/-- A call on the clubs. -/
inductive ClubOp where
  | create (env : ClubEnv) (clubIn : ClubCreate) (actor : User)
  | update (env : ClubEnv) (clubId : Uuid) (clubIn : ClubUpdate) (actor : User)
  deriving DecidableEq, Repr

def ClubOp.exec (cfg : Config) (nfkd : Text → Text) : ClubOp → ClubStore → Result ClubStore
  | .create env clubIn actor, s => ClubService.createClub cfg nfkd env s clubIn actor
  | .update env clubId clubIn actor, s => ClubService.updateClub cfg nfkd env s clubId clubIn actor

/-- The clubs after a call: a refused one is rolled back. -/
def ClubOp.apply (cfg : Config) (nfkd : Text → Text) (op : ClubOp) (s : ClubStore) : ClubStore :=
  match op.exec cfg nfkd s with
  | .ok s' => s'
  | .error _ => s

/-- One call. -/
def ClubStep (cfg : Config) (nfkd : Text → Text) (s : ClubStore) (op : ClubOp) (s' : ClubStore) :
    Prop :=
  op.apply cfg nfkd s = s'

end CampusConnect
