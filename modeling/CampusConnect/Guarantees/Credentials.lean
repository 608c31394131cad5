/-
  File:      CampusConnect/Guarantees/Credentials.lean
  Subject:   The accounts over a whole run of the authentication service.

  * `Rewritten`, `UsersEffect`: what a login does to its account, and a call to the rows of `users`;
  * `AccountRow.identity`, `AccountStore.Sound`, `UsersEffect.sound`: what no call changes of a row,
    and the invariant;
  * `one_address_one_account`: an address is registered once, for ever;
  * `Hashing`, `Holds`, `password_kept`: an account opens with the password it was registered with,
    and with no other.
-/
import CampusConnect.Accounts

namespace CampusConnect

open Guarded Runs

/-! ## 1. What a call does to the accounts -/

/-- **What a login does to its account**: nothing; it counts a failure, and may lock; or the password
    was right. -/
inductive Rewritten (auth : AuthSettings) (user : LoginUser) (c : LoginCall) : LoginUser → Prop where
  | same : Rewritten auth user c user
  | failed (lock : Option Moment) : Rewritten auth user c { user.failed with lockedUntil := lock }
  | loggedIn (hright : verifyPassword auth c.password user.passwordHash = true) :
      Rewritten auth user c (user.loggedIn auth c)

/-- **What a call does to `users`.** -/
inductive UsersEffect (cfg : Config) (auth : AuthSettings) (s : AccountStore) :
    AuthOp → List AccountRow → Prop where
  | kept (op : AuthOp) : UsersEffect cfg auth s op s.users
  | registered (newId : Uuid) (salt : Text) (data : UserRegisterRequest)
      (hnew : ¬ (newAccount cfg auth newId salt data).Clashes s.users) :
      UsersEffect cfg auth s (.register newId salt data)
        (s.users ++ [newAccount cfg auth newId salt data])
  | visited (c : LoginCall) (row : AccountRow) (user : LoginUser)
      (hrow : s.select cfg c.email = [row]) (huser : Rewritten auth row.toLoginUser c user) :
      UsersEffect cfg auth s (.login c) (s.users.map (AccountRow.withLogin user))

section Effects

variable {cfg : Config} {auth : AuthSettings} {s : AccountStore}

theorem authenticateUser_rewrites (l : LoginState) (c : LoginCall) :
    Rewritten auth l.user c (authenticateUser cfg auth l c).state.user := by
  unfold authenticateUser
  simp only
  split
  · exact .same
  split
  · exact .same
  split
  · exact .same
  split
  · split
    · exact .failed _
    · exact .failed l.user.lockedUntil
  · rename_i hverify
    rw [Bool.not_eq_false] at hverify
    split
    · exact .same
    · exact .loggedIn hverify

theorem scalarOneOrNone_some {α : Type} {l : List α} {a : α}
    (h : scalarOneOrNone l = .ok (some a)) : l = [a] := by
  unfold scalarOneOrNone at h
  split at h
  · cases h
  · cases h
    rfl
  · cases h

theorem registerUser_accepts {newId : Uuid} {salt : Text} {data : UserRegisterRequest}
    {r : AccountRow × AccountStore} :
    registerUser cfg auth newId salt data s = .ok r ↔
      scalarOneOrNone (s.select cfg data.email) = .ok none ∧ data.password ≠ [] ∧
        ¬ (newAccount cfg auth newId salt data).Clashes s.users ∧
        r = (newAccount cfg auth newId salt data,
          { s with users := s.users ++ [newAccount cfg auth newId salt data] }) := by
  simp only [registerUser, bind_accepts, refuse_accepts, exists_unit, pure_accepts]
  constructor
  · intro hex
    obtain ⟨existing, hselect, hnone, hpassword, hclash, hr⟩ := hex
    rw [not_not] at hnone
    rw [hnone] at hselect
    exact ⟨hselect, hpassword, hclash, hr.symm⟩
  · intro hall
    obtain ⟨hselect, hpassword, hclash, hr⟩ := hall
    exact ⟨none, hselect, not_not.mpr rfl, hpassword, hclash, hr.symm⟩

/-- **The step lemma** of the accounts. -/
theorem AuthOp.writesUsers (op : AuthOp) : UsersEffect cfg auth s op (op.apply cfg auth s).users := by
  cases op with
  | register newId salt data =>
      unfold AuthOp.apply
      simp only
      split
      · rename_i row s' h
        obtain ⟨_, _, hclash, hr⟩ := registerUser_accepts.mp h
        rw [(Prod.mk.inj hr).2]
        exact .registered newId salt data hclash
      · exact .kept _
  | login c =>
      unfold AuthOp.apply loginUser
      simp only
      split
      · exact .kept _
      · exact .kept _
      · rename_i row h
        exact .visited c row _ (scalarOneOrNone_some h)
          (authenticateUser_rewrites ⟨row.toLoginUser, s.tokens⟩ c)
  | rotate c =>
      unfold AuthOp.apply rotateToken
      simp only
      repeat' split
      all_goals exact .kept _
  | revoke raw now =>
      unfold AuthOp.apply revokeToken
      simp only
      repeat' split
      all_goals exact .kept _
  | revokeAll userId now => exact .kept _

end Effects

/-! ## 2. What no call changes -/

/-- A row without the columns that logins write. -/
def AccountRow.identity (u : AccountRow) : AccountRow :=
  { u with passwordHash := [], failedLoginAttempts := 0, lockedUntil := none, lastLoginAt := none }

/-- **The invariant of the accounts**: keys and addresses are unique, and addresses lower-case. -/
structure AccountStore.Sound (cfg : Config) (s : AccountStore) : Prop where
  ids : (s.users.map fun u => u.id).Nodup
  emails : (s.users.map fun u => u.email).Nodup
  lowered : ∀ u ∈ s.users, cfg.sqlLower u.email = u.email

section Identities

variable {cfg : Config} {auth : AuthSettings} {s s' : AccountStore} {users : List AccountRow}
  {op : AuthOp} {ops : List AuthOp} {u row : AccountRow} {c : LoginCall} {user : LoginUser}

theorem Rewritten.id (h : Rewritten auth row.toLoginUser c user) : user.id = row.id := by
  cases h with
  | same => rfl
  | failed => rfl
  | loggedIn => rfl

theorem Rewritten.identity (h : Rewritten auth row.toLoginUser c user) :
    (row.withLogin user).identity = row.identity := by
  unfold AccountRow.withLogin
  rw [if_pos h.id.symm]
  cases h with
  | same => rfl
  | failed => rfl
  | loggedIn => rfl

theorem AccountRow.withLogin_other (h : u.id ≠ user.id) : u.withLogin user = u := if_neg h

theorem mem_select (h : s.select cfg c.email = [row]) :
    row ∈ s.users ∧ row.toLoginUser.Found cfg c.email := by
  have hmem : row ∈ s.select cfg c.email := by
    rw [h]
    exact List.mem_singleton_self row
  obtain ⟨hrow, hfound⟩ := List.mem_filter.mp hmem
  exact ⟨hrow, of_decide_eq_true hfound⟩

/-- A login leaves the identity of every row. -/
theorem Rewritten.identities (h : Rewritten auth row.toLoginUser c user)
    (hids : (s.users.map fun u => u.id).Nodup) (hrow : row ∈ s.users) :
    (s.users.map (AccountRow.withLogin user)).map AccountRow.identity =
      s.users.map AccountRow.identity := by
  rw [List.map_map]
  refine List.map_congr_left fun u hu => ?_
  rw [Function.comp_apply]
  by_cases hid : u.id = user.id
  · rw [List.inj_on_of_nodup_map hids hu hrow (hid.trans h.id)]
    exact h.identity
  · rw [AccountRow.withLogin_other hid]

/-- **No call renames, promotes, deactivates or deletes an account**: a registration adds one. -/
theorem UsersEffect.identities (h : UsersEffect cfg auth s op users) (hs : s.Sound cfg) :
    users.map AccountRow.identity = s.users.map AccountRow.identity ∨
      ∃ row : AccountRow, ¬ row.Clashes s.users ∧
        users.map AccountRow.identity = s.users.map AccountRow.identity ++ [row.identity] ∧
        ∃ t, row.email = cfg.lower t := by
  cases h with
  | kept op => exact .inl rfl
  | registered newId salt data hnew =>
      refine .inr ⟨newAccount cfg auth newId salt data, hnew, ?_, _, rfl⟩
      rw [List.map_append, List.map_singleton]
  | visited c row user hrow huser => exact .inl (huser.identities hs.ids (mem_select hrow).1)

/-- A column of the identity. -/
theorem identity_column {α : Type} (h : u.identity = row.identity) (f : AccountRow → α)
    (hf : ∀ u, f u.identity = f u) : f u = f row := by
  rw [← hf u, h, hf row]

/-- A column of the identity, over all rows. -/
theorem map_identity {α : Type} (f : AccountRow → α) (hf : ∀ u, f u.identity = f u)
    (users : List AccountRow) : users.map f = (users.map AccountRow.identity).map f := by
  rw [List.map_map]
  exact List.map_congr_left fun u _ => (hf u).symm

theorem nodup_concat {α : Type} {l : List α} {a : α} (h : l.Nodup) (ha : a ∉ l) :
    (l ++ [a]).Nodup := by
  rw [← List.concat_eq_append]
  exact List.Nodup.concat ha h

theorem UsersEffect.sound (hlower : ∀ t, cfg.sqlLower (cfg.lower t) = cfg.lower t)
    (h : UsersEffect cfg auth s op users) (hs : s.Sound cfg) (husers : s'.users = users) :
    s'.Sound cfg := by
  have hkept := fun {α : Type} (f : AccountRow → α) (hf : ∀ u, f u.identity = f u)
      (l : List AccountRow) => map_identity f hf l
  have hmem : ∀ l : List AccountRow,
      (∀ u ∈ l.map AccountRow.identity, cfg.sqlLower u.email = u.email) ↔
        ∀ u ∈ l, cfg.sqlLower u.email = u.email := by
    intro l
    exact List.forall_mem_map
  rcases h.identities hs with hsame | ⟨row, hnew, happend, t, ht⟩
  · refine ⟨?_, ?_, (hmem _).mp ?_⟩
    · rw [husers, hkept (fun u => u.id) (fun _ => rfl), hsame, ← hkept (fun u => u.id) fun _ => rfl]
      exact hs.ids
    · rw [husers, hkept (fun u => u.email) (fun _ => rfl), hsame,
        ← hkept (fun u => u.email) fun _ => rfl]
      exact hs.emails
    · rw [husers, hsame]
      exact (hmem _).mpr hs.lowered
  · unfold AccountRow.Clashes at hnew
    rw [not_or] at hnew
    refine ⟨?_, ?_, (hmem _).mp ?_⟩
    · rw [husers, hkept (fun u => u.id) (fun _ => rfl), happend, List.map_append,
        ← hkept (fun u => u.id) fun _ => rfl]
      refine nodup_concat hs.ids fun hin => ?_
      obtain ⟨u, hu, hid⟩ := List.mem_map.mp hin
      exact hnew.1 ⟨u, hu, .inl hid⟩
    · rw [husers, hkept (fun u => u.email) (fun _ => rfl), happend, List.map_append,
        ← hkept (fun u => u.email) fun _ => rfl]
      refine nodup_concat hs.emails fun hin => ?_
      obtain ⟨u, hu, hemail⟩ := List.mem_map.mp hin
      exact hnew.1 ⟨u, hu, .inr hemail⟩
    · rw [husers, happend]
      intro u hu
      rcases List.mem_append.mp hu with hold | hrow
      · exact (hmem _).mpr hs.lowered u hold
      · rw [List.mem_singleton.mp hrow]
        change cfg.sqlLower row.email = row.email
        rw [ht]
        exact hlower t

/-- **The run lemma** of the accounts. -/
theorem Accounts.sound (hlower : ∀ t, cfg.sqlLower (cfg.lower t) = cfg.lower t) (hs : s.Sound cfg)
    (hp : Path (Accounts.Step cfg auth) s ops s') :
    s'.Sound cfg ∧ s.users.map AccountRow.identity <+: s'.users.map AccountRow.identity := by
  induction hp with
  | nil s => exact ⟨hs, List.prefix_rfl⟩
  | @cons s t u op ops hstep _ ih =>
      have heffect : UsersEffect cfg auth s op t.users := by
        rw [← hstep]
        exact AuthOp.writesUsers op
      obtain ⟨hsound, hpre⟩ := ih (heffect.sound hlower hs rfl)
      refine ⟨hsound, List.IsPrefix.trans ?_ hpre⟩
      rcases heffect.identities hs with hsame | ⟨row, _, happend, _⟩
      · rw [hsame]
      · rw [happend]
        exact List.prefix_append _ _

/-- An account of the start is there at the end. -/
theorem Accounts.kept (hlower : ∀ t, cfg.sqlLower (cfg.lower t) = cfg.lower t) (hs : s.Sound cfg)
    (hp : Path (Accounts.Step cfg auth) s ops s') (hu : u ∈ s.users) :
    ∃ u' ∈ s'.users, u'.identity = u.identity := by
  have hmem := (Accounts.sound hlower hs hp).2.subset (List.mem_map_of_mem hu)
  exact List.mem_map.mp hmem

end Identities

/-! ## 3. Addresses -/

section Addresses

variable {cfg : Config} {auth : AuthSettings} {s s' : AccountStore} {ops : List AuthOp}
  {email : Text} {u : AccountRow}

theorem AccountStore.Sound.found (hs : s.Sound cfg) (hu : u ∈ s.users) :
    u.toLoginUser.Found cfg email ↔ u.email = cfg.lower (strip email) ∧ u.deletedAt = none := by
  unfold LoginUser.Found
  rw [hs.lowered u hu]

/-- The select of an address finds one account at most. -/
theorem AccountStore.Sound.select_le (hs : s.Sound cfg) (email : Text) :
    s.select cfg email = [] ∨ ∃ row, s.select cfg email = [row] := by
  have hnodup : ((s.select cfg email).map fun u => u.email).Nodup :=
    List.Nodup.sublist (List.Sublist.map _ List.filter_sublist) hs.emails
  have hsame : ∀ u ∈ s.select cfg email, u.email = cfg.lower (strip email) := by
    intro u hu
    obtain ⟨hmem, hfound⟩ := List.mem_filter.mp hu
    exact ((hs.found hmem).mp (of_decide_eq_true hfound)).1
  match hl : s.select cfg email with
  | [] => exact .inl rfl
  | [row] => exact .inr ⟨row, rfl⟩
  | a :: b :: rest =>
      rw [hl] at hnodup hsame
      have ha := hsame a (List.mem_cons_self ..)
      have hb := hsame b (List.mem_cons_of_mem _ (List.mem_cons_self ..))
      rw [List.map_cons, List.map_cons, List.nodup_cons] at hnodup
      exact (hnodup.1 (by rw [ha, hb]; exact List.mem_cons_self ..)).elim

/-- The select of an address that an account has, and that is not deleted. -/
theorem AccountStore.Sound.select_eq (hs : s.Sound cfg) (hu : u ∈ s.users)
    (hemail : u.email = cfg.lower (strip email)) (hlive : u.deletedAt = none) :
    s.select cfg email = [u] := by
  have hmem : u ∈ s.select cfg email := by
    refine List.mem_filter.mpr ⟨hu, decide_eq_true ?_⟩
    exact (hs.found hu).mpr ⟨hemail, hlive⟩
  rcases hs.select_le email with hnil | ⟨row, hrow⟩
  · rw [hnil] at hmem
    cases hmem
  · rw [hrow] at hmem ⊢
    rw [List.mem_singleton.mp hmem]

/-- What a registration of an unused key answers. -/
theorem AccountStore.Sound.registers (hs : s.Sound cfg) {newId : Uuid} {salt : Text}
    {data : UserRegisterRequest} (hpassword : data.password ≠ []) (hname : data.fullName ≠ [])
    (haddress : cfg.lower (strip data.email) ≠ []) (hid : ∀ u ∈ s.users, u.id ≠ newId) :
    ((∃ u ∈ s.users, u.email = cfg.lower (strip data.email)) →
        registerUser cfg auth newId salt data s = .error emailTaken) ∧
      ((∀ u ∈ s.users, u.email ≠ cfg.lower (strip data.email)) →
        registerUser cfg auth newId salt data s = .ok (newAccount cfg auth newId salt data,
          { s with users := s.users ++ [newAccount cfg auth newId salt data] })) := by
  constructor
  · intro htaken
    obtain ⟨u, hu, hemail⟩ := htaken
    unfold registerUser
    by_cases hlive : u.deletedAt = none
    · -- the select finds it
      rw [hs.select_eq hu hemail hlive]
      rfl
    · -- the account is deleted: the address clashes all the same, unless another account is found
      have hclash : (newAccount cfg auth newId salt data).Clashes s.users :=
        .inl ⟨u, hu, .inr hemail⟩
      rcases hs.select_le data.email with hnil | ⟨row, hrow⟩
      · rw [hnil]
        simp only [scalarOneOrNone, refuse, if_neg hpassword, if_pos hclash]
        rfl
      · rw [hrow]
        rfl
  · intro hfree
    refine registerUser_accepts.mpr ⟨?_, hpassword, ?_, rfl⟩
    · rcases hs.select_le data.email with hnil | ⟨row, hrow⟩
      · rw [hnil]
        rfl
      · have hmem : row ∈ s.select cfg data.email := by
          rw [hrow]
          exact List.mem_singleton_self row
        obtain ⟨hin, hfound⟩ := List.mem_filter.mp hmem
        exact (hfree row hin ((hs.found hin).mp (of_decide_eq_true hfound)).1).elim
    · intro hclash
      rcases hclash with ⟨u, hu, hkey | hemail⟩ | hnone | hnone
      · exact hid u hu hkey
      · exact hfree u hu hemail
      · exact haddress hnone
      · exact hname hnone

/-- **ONE ADDRESS, ONE ACCOUNT**: after every run no select of an address finds two accounts, every
    account of the start has kept its identity, and a registration is accepted exactly when no account
    has the address, be it deleted or deactivated. -/
theorem one_address_one_account (hlower : ∀ t, cfg.sqlLower (cfg.lower t) = cfg.lower t)
    (hs : s.Sound cfg) (hp : Path (Accounts.Step cfg auth) s ops s') :
    s'.Sound cfg ∧ (∀ email, ∃ found, scalarOneOrNone (s'.select cfg email) = .ok found) ∧
      (∀ u ∈ s.users, ∃ u' ∈ s'.users, u'.identity = u.identity) ∧
      ∀ (newId : Uuid) (salt : Text) (data : UserRegisterRequest), data.password ≠ [] →
        data.fullName ≠ [] → cfg.lower (strip data.email) ≠ [] → (∀ u ∈ s'.users, u.id ≠ newId) →
        ((∃ u ∈ s'.users, u.email = cfg.lower (strip data.email)) →
            registerUser cfg auth newId salt data s' = .error emailTaken) ∧
          ((∀ u ∈ s'.users, u.email ≠ cfg.lower (strip data.email)) →
            registerUser cfg auth newId salt data s' = .ok (newAccount cfg auth newId salt data,
              { s' with users := s'.users ++ [newAccount cfg auth newId salt data] })) := by
  have hsound := (Accounts.sound hlower hs hp).1
  refine ⟨hsound, fun email => ?_, fun u hu => Accounts.kept hlower hs hp hu,
    fun newId salt data hpassword hname haddress hid =>
      hsound.registers hpassword hname haddress hid⟩
  rcases hsound.select_le email with hnil | ⟨row, hrow⟩
  · rw [hnil]
    exact ⟨none, rfl⟩
  · rw [hrow]
    exact ⟨some row, rfl⟩

end Addresses

/-- An account that was deleted, and one that registers after it. -/
def Sample.onceDeleted : AccountStore where
  users := [{ newAccount (Sample.config .sqlite) Sample.accountAuth (Sample.uid 1) []
    (Sample.signUp ['m']) with deletedAt := some 5 }]
  tokens := ⟨[], [], []⟩

theorem one_address_one_account_sample :
    registerUser (Sample.config .sqlite) Sample.accountAuth (Sample.uid 3) [] (Sample.signUp ['m'])
      (afterCalls (Sample.config .sqlite) Sample.accountAuth Sample.onceDeleted
        [Sample.signed 2 ['n']]) = .error emailTaken := by
  have hs : Sample.onceDeleted.Sound (Sample.config .sqlite) :=
    ⟨by decide, by decide, fun _ _ => rfl⟩
  have h := one_address_one_account (fun _ => rfl) hs
    (path_afterCalls (Sample.config .sqlite) Sample.accountAuth Sample.onceDeleted
      [Sample.signed 2 ['n']])
  exact (h.2.2.2 (Sample.uid 3) [] (Sample.signUp ['m']) (by decide) (by decide) (by decide)
    (by decide)).1 (by decide)

/-! ## 4. Passwords -/

/-- What `argon2` promises: a hash is not empty, and verifies its own password and no other. -/
structure Hashing (auth : AuthSettings) : Prop where
  nonempty : ∀ salt password, auth.hasherHash salt password ≠ []
  verify : ∀ salt password given,
    auth.hasherVerify (auth.hasherHash salt password) given = true ↔ given = password

/-- The account of the identity opens with the password: some hash of it is stored. -/
def Holds (auth : AuthSettings) (row : AccountRow) (password : Text) (s : AccountStore) : Prop :=
  ∃ u ∈ s.users, u.identity = row.identity ∧
    ∃ salt, u.passwordHash = auth.hasherHash salt password

section Passwords

variable {cfg : Config} {auth : AuthSettings} {s s' s'' : AccountStore} {op : AuthOp}
  {ops : List AuthOp} {row u : AccountRow} {password : Text} {users : List AccountRow}

theorem Hashing.verifyPassword (h : Hashing auth) {salt given : Text} (hpassword : password ≠ []) :
    verifyPassword auth given (auth.hasherHash salt password) = true ↔ given = password := by
  unfold CampusConnect.verifyPassword
  by_cases hempty : given = []
  · rw [if_pos (.inl hempty)]
    constructor
    · intro hfalse
      cases hfalse
    · intro hsame
      exact (hpassword (hsame.symm.trans hempty)).elim
  · rw [if_neg (not_or.mpr ⟨hempty, h.nonempty salt password⟩)]
    exact h.verify salt password given

/-- A login changes a hash for one of the same password. -/
theorem Rewritten.holds (hh : Hashing auth) (hpassword : password ≠ []) {c : LoginCall}
    {user : LoginUser} (h : Rewritten auth row.toLoginUser c user)
    (hhash : ∃ salt, row.passwordHash = auth.hasherHash salt password) :
    ∃ salt, user.passwordHash = auth.hasherHash salt password := by
  obtain ⟨salt, hsalt⟩ := hhash
  cases h with
  | same => exact ⟨salt, hsalt⟩
  | failed lock => exact ⟨salt, hsalt⟩
  | loggedIn hright =>
      rw [hsalt] at hright
      have hsame := (hh.verifyPassword hpassword).mp hright
      by_cases hold : passwordNeedsRehash auth row.passwordHash
      · refine ⟨c.salt, ?_⟩
        unfold LoginUser.loggedIn
        rw [hsame]
        exact if_pos hold
      · refine ⟨salt, Eq.trans ?_ hsalt⟩
        unfold LoginUser.loggedIn
        exact if_neg hold

theorem UsersEffect.holds (hh : Hashing auth) (hpassword : password ≠ []) (hs : s.Sound cfg)
    (h : UsersEffect cfg auth s op users) (husers : s'.users = users)
    (hholds : Holds auth row password s) :
    Holds auth row password s' := by
  obtain ⟨u, hu, hid, hhash⟩ := hholds
  unfold Holds
  rw [husers]
  cases h with
  | kept op => exact ⟨u, hu, hid, hhash⟩
  | registered newId salt data hnew => exact ⟨u, List.mem_append_left _ hu, hid, hhash⟩
  | visited c visited user hrow huser =>
      refine ⟨u.withLogin user, List.mem_map_of_mem hu, ?_⟩
      by_cases hsame : u.id = user.id
      · have he := List.inj_on_of_nodup_map hs.ids hu (mem_select hrow).1 (hsame.trans huser.id)
        subst he
        refine ⟨huser.identity.trans hid, ?_⟩
        unfold AccountRow.withLogin
        rw [if_pos hsame]
        exact huser.holds hh hpassword hhash
      · rw [AccountRow.withLogin_other hsame]
        exact ⟨hid, hhash⟩

theorem Accounts.holds (hlower : ∀ t, cfg.sqlLower (cfg.lower t) = cfg.lower t) (hh : Hashing auth)
    (hpassword : password ≠ []) (hs : s.Sound cfg) (hp : Path (Accounts.Step cfg auth) s ops s')
    (hholds : Holds auth row password s) : Holds auth row password s' := by
  induction hp with
  | nil s => exact hholds
  | @cons s t u op ops hstep _ ih =>
      have heffect : UsersEffect cfg auth s op t.users := by
        rw [← hstep]
        exact AuthOp.writesUsers op
      exact ih (heffect.sound hlower hs rfl) (heffect.holds hh hpassword hs rfl hholds)

/-- The row of `refresh_tokens` that a login of the user inserts. -/
def loginToken (cfg : Config) (auth : AuthSettings) (userId : Uuid) (c : LoginCall) : RefreshToken where
  id := c.newId
  userId := userId
  tokenHash := cfg.sha256 c.rawRefreshToken
  expiresAt := c.now + days auth.refreshTokenExpireDays
  revokedAt := none

/-- What the login of an active account answers, when it draws fresh. -/
theorem loginUser_answers {c : LoginCall} (hselect : s.select cfg c.email = [u])
    (hactive : u.isActive = true) (hfresh : DrawsFresh cfg ⟨u.toLoginUser, s.tokens⟩ c) :
    (∃ session, (loginUser cfg auth s c).answer = .ok session ∧ session.user.id = u.id) ↔
      ¬ u.toLoginUser.Locked c.now ∧ verifyPassword auth c.password u.passwordHash = true := by
  have hfound := (mem_select hselect).2
  have hinsert := insert_of_fresh (t := loginToken cfg auth u.id c) hfresh
  unfold loginUser
  rw [hselect]
  simp only [scalarOneOrNone, authenticateUser]
  rw [if_neg (not_not.mpr hfound), if_neg (by rw [hactive]; exact Bool.noConfusion)]
  by_cases hlocked : u.toLoginUser.Locked c.now
  · rw [if_pos hlocked]
    constructor
    · intro hex
      obtain ⟨session, hanswer, _⟩ := hex
      cases hanswer
    · intro hboth
      exact (hboth.1 hlocked).elim
  · rw [if_neg hlocked]
    cases hverify : verifyPassword auth c.password u.passwordHash with
    | false =>
        rw [if_pos rfl]
        constructor
        · intro hex
          obtain ⟨session, hanswer, _⟩ := hex
          split at hanswer <;> cases hanswer
        · intro hboth
          cases hboth.2
    | true =>
        rw [if_neg Bool.noConfusion]
        unfold loginToken at hinsert
        simp only [LoginUser.loggedIn]
        rw [hinsert]
        exact ⟨fun _ => ⟨hlocked, trivial⟩, fun _ => ⟨_, rfl, rfl⟩⟩

/-- **THE PASSWORD OF AN ACCOUNT**: after an accepted registration and any calls, a login with the
    address that draws fresh is answered with a session of that account exactly when the password is
    the one registered, and the account is not locked. -/
theorem password_kept (hlower : ∀ t, cfg.sqlLower (cfg.lower t) = cfg.lower t) (hh : Hashing auth)
    (hs : s.Sound cfg) {newId : Uuid} {salt : Text} {data : UserRegisterRequest}
    (hreg : registerUser cfg auth newId salt data s = .ok (row, s'))
    (hp : Path (Accounts.Step cfg auth) s' ops s'') :
    ∃ u ∈ s''.users, u.identity = row.identity ∧ ∀ c : LoginCall,
      cfg.lower (strip c.email) = cfg.lower (strip data.email) →
      DrawsFresh cfg ⟨u.toLoginUser, s''.tokens⟩ c →
      ((∃ session, (loginUser cfg auth s'' c).answer = .ok session ∧ session.user.id = newId) ↔
        c.password = data.password ∧ ¬ u.toLoginUser.Locked c.now) := by
  obtain ⟨_, hpassword, hclash, hr⟩ := registerUser_accepts.mp hreg
  obtain ⟨rfl, rfl⟩ := Prod.mk.inj hr
  have heffect : UsersEffect cfg auth s _ _ := .registered newId salt data hclash
  have hsound : AccountStore.Sound cfg
      { s with users := s.users ++ [newAccount cfg auth newId salt data] } :=
    heffect.sound hlower hs rfl
  have hholds : Holds auth (newAccount cfg auth newId salt data) data.password
      { s with users := s.users ++ [newAccount cfg auth newId salt data] } :=
    ⟨_, List.mem_append_right _ (List.mem_singleton_self _), rfl, salt, rfl⟩
  obtain ⟨u, hu, hid, salt', hhash⟩ := Accounts.holds hlower hh hpassword hsound hp hholds
  have hsound' := (Accounts.sound hlower hsound hp).1
  have hemail : u.email = cfg.lower (strip data.email) :=
    identity_column hid (fun u => u.email) fun _ => rfl
  have hlive : u.deletedAt = none := identity_column hid (fun u => u.deletedAt) fun _ => rfl
  have hactive : u.isActive = true := identity_column hid (fun u => u.isActive) fun _ => rfl
  have hkey : u.id = newId := identity_column hid (fun u => u.id) fun _ => rfl
  refine ⟨u, hu, hid, fun c haddress hfresh => ?_⟩
  have hselect := hsound'.select_eq hu (hemail.trans haddress.symm) hlive
  rw [← hkey, loginUser_answers hselect hactive hfresh, hhash, hh.verifyPassword hpassword]
  exact And.comm

end Passwords

theorem Sample.hashing : Hashing Sample.accountAuth where
  nonempty := fun _ _ => List.cons_ne_nil _ _
  verify := by
    intro salt password given
    change decide ('$' :: password = '$' :: given) = true ↔ given = password
    rw [decide_eq_true_eq, List.cons_inj_right]
    exact eq_comm

theorem password_kept_sample : ∃ session,
    (loginUser (Sample.config .sqlite) Sample.accountAuth
      (afterCalls (Sample.config .sqlite) Sample.accountAuth Sample.noAccounts
        [Sample.signed 1 ['m'], .login (Sample.signIn ['m'] ['x'] 1 0)])
      (Sample.signIn ['m'] "secret".toList 2 60)).answer = .ok session ∧
      session.user.id = Sample.uid 1 := by
  have hs : Sample.noAccounts.Sound (Sample.config .sqlite) :=
    ⟨List.nodup_nil, List.nodup_nil, fun _ _ => rfl⟩
  have hreg : registerUser (Sample.config .sqlite) Sample.accountAuth (Sample.uid 1) []
      (Sample.signUp ['m']) Sample.noAccounts = .ok (_, _) := rfl
  obtain ⟨u, hu, _, hc⟩ := password_kept (fun _ => rfl) Sample.hashing hs hreg
    (path_afterCalls (Sample.config .sqlite) Sample.accountAuth _
      [.login (Sample.signIn ['m'] ['x'] 1 0)])
  -- one wrong password has not locked the account
  rw [List.mem_singleton.mp hu] at hc
  exact (hc (Sample.signIn ['m'] "secret".toList 2 60) rfl (by decide)).mpr ⟨rfl, by decide⟩

end CampusConnect
