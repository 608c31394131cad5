/-
  File:      CampusConnect/Guarantees/Roster.lean
  Subject:   Who may govern a club, and what the audit trail says of its members.

  * `GovernanceOp.Seats`, `ByAdmin`: the calls that make a secretary, and those of an administrator;
  * `RosterStep.governs`, `authority_traced`: every secretary has a chain of enrolments, and a club nobody
    governs stays as it is until an administrator comes;
  * `latest`, `Recorded`, `RosterStep.recorded`: the invariant that ties roster and audit trail;
  * `roster_replayed`: the trail replays the roster, and no row of it is ever lost.
-/
import CampusConnect.Base.Delegation
import CampusConnect.Guarantees.Slugs
import CampusConnect.Services.Members

namespace CampusConnect

open Guarded Runs ClubService

/-! ## 1. Rows of the roster -/

section Rows

variable {g g' : Governance} {op : GovernanceOp} {clubId userId : Uuid} {member row : MemberRow}
  {log : RosterLog}

theorem Governance.member_eq (h : g.member clubId userId = some member) :
    member ∈ g.members ∧ member.clubId = clubId ∧ member.userId = userId := by
  have hm := List.mem_of_find?_eq_some h
  have hp := List.find?_some h
  rw [decide_eq_true_eq] at hp
  exact ⟨hm, hp⟩

/-- A row after a write: the one written, or one that was there. -/
theorem Governance.mem_amend (h : row ∈ (g.amend member log).members) :
    row = member ∨ (row ∈ g.members ∧ row.id ≠ member.id) := by
  obtain ⟨m, hm, rfl⟩ := List.mem_map.mp h
  unfold MemberRow.overwrite
  by_cases hid : m.id = member.id
  · rw [if_pos hid]
    exact .inl rfl
  · rw [if_neg hid]
    exact .inr ⟨hm, hid⟩

/-- A row written in the place of one of its key is there, and so are the others. -/
theorem Governance.amend_mem {old : MemberRow} (hold : old ∈ g.members) (hid : old.id = member.id) :
    member ∈ (g.amend member log).members := by
  refine List.mem_map.mpr ⟨old, hold, ?_⟩
  unfold MemberRow.overwrite
  rw [if_pos hid]

theorem Governance.mem_enrol :
    row ∈ (g.enrol member log).members ↔ row ∈ g.members ∨ row = member := by
  unfold Governance.enrol
  rw [List.mem_append, List.mem_singleton]

end Rows

/-! ## 2. Authority -/

/-- The call makes the user an active secretary of the club, or leaves him one. -/
def GovernanceOp.Seats (clubId : Uuid) : GovernanceOp → Uuid → Prop
  | .addMember _ c memberIn _, u =>
      c = clubId ∧ memberIn.userId = u ∧ memberIn.memberRole = .secretary
  | .updateMember _ c userId memberIn _, u =>
      c = clubId ∧ userId = u ∧
        (memberIn.memberRole = some .secretary ∨ memberIn.isActive = some true)
  | _, _ => False

/-- The call of an administrator on the club. -/
def GovernanceOp.ByAdmin (clubId : Uuid) (op : GovernanceOp) : Prop :=
  op.clubId = clubId ∧ op.actor.role = .systemAdmin

instance (clubId : Uuid) (op : GovernanceOp) : Decidable (op.ByAdmin clubId) :=
  inferInstanceAs (Decidable (_ ∧ _))

section Authority

variable {cfg : Config} {nfkd : Text → Text} {g g' : Governance} {op : GovernanceOp}
  {clubId userId : Uuid} {actor : User}

/-- The authority of an accepted call, as the delegation rule has it. -/
theorem Governance.Owns.granter (h : g.Owns clubId actor) :
    actor.role = .systemAdmin ∨ g.Governs clubId actor.id := by
  rcases h with hadmin | ⟨_, hgoverns⟩
  · exact .inl hadmin
  · exact .inr hgoverns

/-- A secretary of the roster after a write that is no secretary's row was one before. -/
theorem Governance.Governs.of_amend {member : MemberRow} {log : RosterLog}
    (h : (g.amend member log).Governs clubId userId) :
    g.Governs clubId userId ∨ (member.clubId = clubId ∧ member.userId = userId ∧
      member.memberRole = .secretary ∧ member.isActive = true) := by
  obtain ⟨row, hrow, hseat⟩ := h
  rcases Governance.mem_amend hrow with rfl | ⟨hold, _⟩
  · exact .inr hseat
  · exact .inl ⟨row, hold, hseat⟩

/-- **The step lemma**: a new secretary was seated, by an administrator or by a secretary of the club. -/
theorem RosterStep.governs (hs : RosterStep g op g') (h : g'.Governs clubId userId) :
    g.Governs clubId userId ∨
      (op.Seats clubId userId ∧ (op.ByAdmin clubId ∨ g.Governs clubId op.actor.id)) := by
  have hby : ∀ {c : Uuid} {actor : User}, g.Owns c actor → c = clubId →
      actor.role = .systemAdmin ∨ g.Governs clubId actor.id := by
    intro c actor howner hc
    rw [hc] at howner
    exact howner.granter
  cases hs with
  | clubs op store => exact .inl h
  | added env c memberIn actor target howner htarget hfresh =>
      obtain ⟨row, hrow, hclub, huser, hrole, hact⟩ := h
      rcases Governance.mem_enrol.mp hrow with hold | rfl
      · exact .inl ⟨row, hold, hclub, huser, hrole, hact⟩
      · refine .inr ⟨⟨hclub, huser, hrole⟩, (hby howner hclub).imp (fun hadmin => ⟨hclub, hadmin⟩) id⟩
  | restored env c memberIn actor target existing howner htarget hm hout =>
      obtain ⟨_, hclub, huser⟩ := Governance.member_eq hm
      rcases h.of_amend with hold | ⟨hc, hu, hrole, _⟩
      · exact .inl hold
      · have hcid : c = clubId := hclub.symm.trans hc
        exact .inr ⟨⟨hcid, huser.symm.trans hu, hrole⟩,
          (hby howner hcid).imp (fun hadmin => ⟨hcid, hadmin⟩) id⟩
  | updated env c target memberIn actor member action howner hm =>
      obtain ⟨hmem, hclub, huser⟩ := Governance.member_eq hm
      rcases h.of_amend with hold | ⟨hc, hu, hrole, hact⟩
      · exact .inl hold
      · have hcid : c = clubId := hclub.symm.trans hc
        have huid : target = userId := huser.symm.trans hu
        -- the row was a secretary's already, or the call has made it one
        by_cases hseat : memberIn.memberRole = some .secretary ∨ memberIn.isActive = some true
        · exact .inr ⟨⟨hcid, huid, hseat⟩, (hby howner hcid).imp (fun hadmin => ⟨hcid, hadmin⟩) id⟩
        · rw [not_or] at hseat
          refine .inl ⟨member, hmem, hclub.trans hcid, huser.trans huid, ?_, ?_⟩
          · cases hr : memberIn.memberRole with
            | none => simpa [editMember, hr] using hrole
            | some role =>
                simp only [editMember, hr, Option.getD_some] at hrole
                exact (hseat.1 (by rw [hr, hrole])).elim
          · cases ha : memberIn.isActive with
            | none => simpa [editMember, ha] using hact
            | some active =>
                simp only [editMember, ha, Option.getD_some] at hact
                exact (hseat.2 (by rw [ha, hact])).elim
  | removedAgain env c target actor howner => exact .inl h
  | removed env c target actor member reason howner hm hin =>
      rcases h.of_amend with hold | ⟨_, _, _, hact⟩
      · exact .inl hold
      · cases hact

/-- The authority of an accepted call that creates no club. -/
theorem Governance.Step.owner (h : Governance.Step cfg nfkd g op g')
    (hop : ∀ env clubIn actor, op ≠ .club (.create env clubIn actor)) : g.Owns op.clubId op.actor := by
  cases op with
  | club op =>
      cases op with
      | create env clubIn actor => exact (hop env clubIn actor rfl).elim
      | update env c clubIn actor =>
          simp only [Governance.Step, GovernanceOp.exec, ClubOp.within, ClubOp.exec,
            ClubService.updateClub, ClubService.prepareUpdate, bind_accepts] at h
          obtain ⟨_, ⟨_, ⟨_, howner, _⟩, _⟩, _⟩ := h
          exact verifyClubOwnership_owns rfl howner
  | addMember env c memberIn actor =>
      cases h.roster with
      | added _ _ _ _ target howner => exact howner
      | restored _ _ _ _ target existing howner => exact howner
  | updateMember env c target memberIn actor =>
      cases h.roster with
      | updated _ _ _ _ _ member action howner => exact howner
  | removeMember env c target actor =>
      cases h.roster with
      | removedAgain _ _ _ _ howner => exact howner
      | removed _ _ _ _ member reason howner => exact howner

end Authority

/-! ## 3. What a call leaves -/

/-- What no call changes of a row. -/
def MemberRow.seat (m : MemberRow) : Uuid × Uuid × Uuid × Instant :=
  (m.id, m.clubId, m.userId, m.joinedAt)

/-- The constraints of the table: the key, and one row for a club and a user. -/
structure Governance.Keyed (g : Governance) : Prop where
  ids : (g.members.map MemberRow.id).Nodup
  seats : (g.members.map fun m => (m.clubId, m.userId)).Nodup

/-- The row of a club, deleted or not. -/
def Governance.club (g : Governance) (clubId : Uuid) : Option ClubRow :=
  g.store.clubs.find? fun c => c.id = clubId

/-- The rows of `club_members` of a club. -/
def Governance.roster (g : Governance) (clubId : Uuid) : List MemberRow :=
  g.members.filter fun m => m.clubId = clubId

section Frame

variable {cfg : Config} {nfkd : Text → Text} {g g' : Governance} {op : GovernanceOp}
  {clubId : Uuid} {old member : MemberRow} {log : RosterLog}

theorem MemberRow.seat_id {m n : MemberRow} (h : m.seat = n.seat) : m.id = n.id :=
  congrArg Prod.fst h

theorem MemberRow.seat_clubId {m n : MemberRow} (h : m.seat = n.seat) : m.clubId = n.clubId :=
  congrArg (fun t => t.2.1) h

theorem MemberRow.seat_userId {m n : MemberRow} (h : m.seat = n.seat) : m.userId = n.userId :=
  congrArg (fun t => t.2.2.1) h

/-- A write changes of the roster what it changes of the row it is for. -/
theorem MemberRow.overwrite_keeps {α : Type} (f : MemberRow → α)
    (hids : (g.members.map MemberRow.id).Nodup) (hold : old ∈ g.members) (hid : member.id = old.id)
    (hf : f member = f old) {m : MemberRow} (hm : m ∈ g.members) : f (member.overwrite m) = f m := by
  unfold MemberRow.overwrite
  by_cases h : m.id = member.id
  · have hmo : m = old := List.inj_on_of_nodup_map hids hm hold (h.trans hid)
    rw [if_pos h, hmo, hf]
  · rw [if_neg h]

theorem Governance.amend_map {α : Type} (f : MemberRow → α)
    (hids : (g.members.map MemberRow.id).Nodup) (hold : old ∈ g.members) (hid : member.id = old.id)
    (hf : f member = f old) : (g.amend member log).members.map f = g.members.map f := by
  unfold Governance.amend
  rw [List.map_map]
  exact List.map_congr_left fun m hm => MemberRow.overwrite_keeps f hids hold hid hf hm

/-- **Every call on the roster** leaves it, adds a row of its club at its end, or writes a row of its club
    whose seat it keeps. -/
theorem RosterStep.shape (hs : RosterStep g op g') :
    (g'.members = g.members ∧ g'.rosterLogs = g.rosterLogs) ∨
      (∃ member log, g' = g.enrol member log ∧ member.clubId = op.clubId ∧
        ∀ m ∈ g.members, m.id ≠ member.id ∧ ¬ (m.clubId = member.clubId ∧ m.userId = member.userId)) ∨
      ∃ old ∈ g.members, ∃ member log, g' = g.amend member log ∧ member.seat = old.seat ∧
        old.clubId = op.clubId := by
  cases hs with
  | clubs op store => exact .inl ⟨rfl, rfl⟩
  | removedAgain env c target actor howner => exact .inl ⟨rfl, rfl⟩
  | added env c memberIn actor target howner htarget hfresh =>
      exact .inr (.inl ⟨_, _, rfl, rfl, hfresh⟩)
  | restored env c memberIn actor target existing howner htarget hm hout =>
      obtain ⟨hmem, hclub, _⟩ := Governance.member_eq hm
      exact .inr (.inr ⟨existing, hmem, _, _, rfl, rfl, hclub⟩)
  | updated env c target memberIn actor member action howner hm =>
      obtain ⟨hmem, hclub, _⟩ := Governance.member_eq hm
      exact .inr (.inr ⟨member, hmem, _, _, rfl, rfl, hclub⟩)
  | removed env c target actor member reason howner hm hin =>
      obtain ⟨hmem, hclub, _⟩ := Governance.member_eq hm
      exact .inr (.inr ⟨member, hmem, _, _, rfl, rfl, hclub⟩)

/-- The seats of the roster only grow, at their end. -/
theorem RosterStep.seats (hs : RosterStep g op g') (hk : g.Keyed) :
    g.members.map MemberRow.seat <+: g'.members.map MemberRow.seat := by
  rcases hs.shape with ⟨hsame, _⟩ | ⟨member, log, rfl, _⟩ | ⟨old, hold, member, log, rfl, hseat, _⟩
  · rw [hsame]
  · unfold Governance.enrol
    rw [List.map_append]
    exact List.prefix_append _ _
  · rw [Governance.amend_map MemberRow.seat hk.ids hold (MemberRow.seat_id hseat) hseat]

theorem RosterStep.keyed (hs : RosterStep g op g') (hk : g.Keyed) : g'.Keyed := by
  rcases hs.shape with ⟨hsame, _⟩ | ⟨member, log, rfl, _, hfresh⟩ |
    ⟨old, hold, member, log, rfl, hseat, _⟩
  · exact ⟨by rw [hsame]; exact hk.ids, by rw [hsame]; exact hk.seats⟩
  · constructor
    · unfold Governance.enrol
      rw [List.map_append, List.nodup_append]
      refine ⟨hk.ids, List.nodup_singleton _, ?_⟩
      intro a ha b hb hab
      obtain ⟨m, hm, rfl⟩ := List.mem_map.mp ha
      rw [List.map_singleton, List.mem_singleton] at hb
      exact (hfresh m hm).1 (hab.trans hb)
    · unfold Governance.enrol
      rw [List.map_append, List.nodup_append]
      refine ⟨hk.seats, List.nodup_singleton _, ?_⟩
      intro a ha b hb hab
      obtain ⟨m, hm, rfl⟩ := List.mem_map.mp ha
      rw [List.map_singleton, List.mem_singleton] at hb
      have hpair := hab.trans hb
      exact (hfresh m hm).2 ⟨congrArg Prod.fst hpair, congrArg Prod.snd hpair⟩
  · have hid := MemberRow.seat_id hseat
    constructor
    · rw [Governance.amend_map MemberRow.id hk.ids hold hid hid]
      exact hk.ids
    · rw [Governance.amend_map (fun m => (m.clubId, m.userId)) hk.ids hold hid
        (by rw [MemberRow.seat_clubId hseat, MemberRow.seat_userId hseat])]
      exact hk.seats

/-- **The frame of a roster**: a call leaves the rosters of the other clubs. -/
theorem RosterStep.roster_other (hs : RosterStep g op g') (hk : g.Keyed) (hc : op.clubId ≠ clubId) :
    g'.roster clubId = g.roster clubId := by
  unfold Governance.roster
  rcases hs.shape with ⟨hsame, _⟩ | ⟨member, log, rfl, hclub, _⟩ |
    ⟨old, hold, member, log, rfl, hseat, hclub⟩
  · rw [hsame]
  · unfold Governance.enrol
    rw [List.filter_append, List.filter_cons_of_neg (by simpa [hclub] using hc), List.filter_nil,
      List.append_nil]
  · have hkept : ∀ m ∈ g.members, (member.overwrite m).clubId = m.clubId := fun m hm =>
      MemberRow.overwrite_keeps (fun m => m.clubId) hk.ids hold (MemberRow.seat_id hseat)
        (MemberRow.seat_clubId hseat) hm
    have hfix : ∀ m ∈ g.members, m.clubId = clubId → member.overwrite m = m := by
      intro m hm hmc
      unfold MemberRow.overwrite
      refine if_neg fun h => hc ?_
      have hmo : m = old :=
        List.inj_on_of_nodup_map hk.ids hm hold (h.trans (MemberRow.seat_id hseat))
      rw [← hclub, ← hmo, hmc]
    have main : ∀ l : List MemberRow, (∀ m ∈ l, m ∈ g.members) →
        (l.map member.overwrite).filter (fun m => decide (m.clubId = clubId)) =
          l.filter fun m => decide (m.clubId = clubId) := by
      intro l
      induction l with
      | nil => exact fun _ => rfl
      | cons m l ih =>
          intro hl
          have hm := hl m (List.mem_cons_self ..)
          rw [List.map_cons, List.filter_cons, List.filter_cons, hkept m hm,
            ih fun n hn => hl n (List.mem_cons_of_mem _ hn)]
          by_cases hmc : m.clubId = clubId
          · rw [hfix m hm hmc]
          · rw [if_neg (by simpa using hmc), if_neg (by simpa using hmc)]
    exact main g.members fun m hm => hm

/-- An update of another club leaves a club's row. -/
theorem find_overwrite {clubs : List ClubRow} {club : ClubRow} (h : club.id ≠ clubId) :
    (clubs.map club.overwrite).find? (fun c => c.id = clubId) =
      clubs.find? fun c => c.id = clubId := by
  induction clubs with
  | nil => rfl
  | cons c clubs ih =>
      rw [List.map_cons, List.find?_cons, List.find?_cons, overwrite_id, ih]
      by_cases hc : c.id = clubId
      · have hkept : club.overwrite c = c := by
          unfold ClubRow.overwrite
          rw [if_neg fun he => h (he.symm.trans hc)]
        rw [hkept]
      · rw [decide_eq_false hc]

/-- What `create_club` does to the rows: one more, under a key no row has. -/
theorem createClub_clubs {env : ClubEnv} {s s' : ClubStore} {clubIn : ClubCreate} {actor : User}
    (h : ClubService.createClub cfg nfkd env s clubIn actor = .ok s') :
    ∃ club : ClubRow, club.id = env.newId ∧ s'.clubs = s.clubs ++ [club] ∧
      ∀ c ∈ s.clubs, c.id ≠ env.newId := by
  simp only [ClubService.createClub, ClubService.prepareClub, bind_accepts, refuse_accepts,
    exists_unit, pure_accepts] at h
  obtain ⟨⟨club, entries⟩, ⟨_, advisor, _, hrow⟩, hfresh, rfl⟩ := h
  have hid : club.id = env.newId := by rw [← (Prod.mk.inj hrow).1]
  exact ⟨club, hid, rfl, fun c hc he => hfresh ⟨c, hc, .inl (he.trans hid.symm)⟩⟩

/-- What `update_club` does to the rows: it writes that of the club. -/
theorem updateClub_clubs {env : ClubEnv} {s s' : ClubStore} {clubIn : ClubUpdate} {actor : User}
    (h : ClubService.updateClub cfg nfkd env s clubId clubIn actor = .ok s') :
    ∃ club : ClubRow, club.id = clubId ∧ s'.clubs = s.clubs.map club.overwrite := by
  simp only [ClubService.updateClub, ClubService.prepareUpdate, bind_accepts, refuse_accepts,
    exists_unit, pure_accepts, fetch_accepts] at h
  obtain ⟨⟨club, entries⟩, ⟨_, _, row, hrow, advisor, _, renamed, hrenamed, hclub⟩, _, rfl⟩ := h
  have hfound := List.find?_some hrow
  rw [decide_eq_true_eq] at hfound
  have hid : row.id = clubId := hfound.1
  refine ⟨club, ?_, rfl⟩
  rw [← (Prod.mk.inj hclub).1]
  exact (rename_accepts hrenamed).1.trans hid

/-- **The frame of a club**: a call leaves the rows of the other clubs, and a club there is is not
    created again. -/
theorem Governance.Step.club_other (h : Governance.Step cfg nfkd g op g')
    (hc : op.clubId ≠ clubId) : g'.club clubId = g.club clubId := by
  cases op with
  | club op =>
      simp only [Governance.Step, GovernanceOp.exec, bind_accepts, pure_accepts] at h
      obtain ⟨store, h, rfl⟩ := h
      unfold Governance.club
      cases op with
      | create env clubIn actor =>
          obtain ⟨club, hid, hclubs, _⟩ := createClub_clubs h
          have hnot : club.id ≠ clubId := fun he => hc (hid.symm.trans he)
          rw [hclubs, List.find?_append, List.find?_cons_of_neg (by simpa using hnot), List.find?_nil,
            Option.or_none]
      | update env c clubIn actor =>
          obtain ⟨club, hid, hclubs⟩ := updateClub_clubs h
          rw [hclubs, find_overwrite fun he => hc (hid.symm.trans he)]
  | addMember env c memberIn actor =>
      cases h.roster with
      | added => rfl
      | restored => rfl
  | updateMember env c target memberIn actor =>
      cases h.roster with
      | updated => rfl
  | removeMember env c target actor =>
      cases h.roster with
      | removedAgain => rfl
      | removed => rfl

theorem Governance.Step.not_created {env : ClubEnv} {clubIn : ClubCreate} {actor : User}
    (h : Governance.Step cfg nfkd g (.club (.create env clubIn actor)) g') :
    g.club env.newId = none := by
  simp only [Governance.Step, GovernanceOp.exec, bind_accepts, pure_accepts] at h
  obtain ⟨store, h, rfl⟩ := h
  obtain ⟨club, hid, hclubs, hfresh⟩ := createClub_clubs h
  refine List.find?_eq_none.mpr fun c hmem => ?_
  rw [decide_eq_true_eq]
  exact hfresh c hmem

end Frame

/-! ## 4. Authority is handed on -/

section Handed

variable {cfg : Config} {nfkd : Text → Text} {g g' : Governance} {clubId : Uuid}

/-- A club there is, which nobody governs, is left by every call that is no administrator's on it. -/
theorem Governance.Step.unattended {op : GovernanceOp} (h : Governance.Step cfg nfkd g op g')
    (hclub : (g.club clubId).isSome) (hnone : ∀ u, ¬ g.Governs clubId u)
    (hop : ¬ op.ByAdmin clubId) : op.clubId ≠ clubId := by
  intro hc
  by_cases hcreate : ∃ env clubIn actor, op = .club (.create env clubIn actor)
  · obtain ⟨env, clubIn, actor, rfl⟩ := hcreate
    have habsent := h.not_created
    have hkey : env.newId = clubId := hc
    rw [hkey] at habsent
    rw [habsent] at hclub
    cases hclub
  · have howner := h.owner fun env clubIn actor he => hcreate ⟨env, clubIn, actor, he⟩
    rw [hc] at howner
    rcases howner with hadmin | ⟨_, hgoverns⟩
    · exact hop ⟨hc, hadmin⟩
    · exact hnone _ hgoverns

/-- **Authority over a club is handed on, never taken**: in every run of the calls on clubs and rosters,
    whoever governs a club at the end governed it at the start, or was seated by an accepted call of an
    administrator or of somebody with such a chain before that call; and where an existing club has no
    governor and no administrator comes to it, its profile and its roster stay, whatever the other
    users call. -/
theorem authority_traced (cfg : Config) (nfkd : Text → Text) (clubId : Uuid) {g g' : Governance}
    {ops : List GovernanceOp} (hk : g.Keyed) (h : Path (Governance.Step cfg nfkd) g ops g') :
    (∀ u, g'.Governs clubId u →
      Delegated (g.Governs clubId) (GovernanceOp.ByAdmin clubId) (fun op => op.actor.id)
        (GovernanceOp.Seats clubId) ops u) ∧
      ((g.club clubId).isSome → (∀ u, ¬ g.Governs clubId u) → (∀ op ∈ ops, ¬ op.ByAdmin clubId) →
        g'.club clubId = g.club clubId ∧ g'.roster clubId = g.roster clubId ∧
          ∀ u, ¬ g'.Governs clubId u) := by
  have hstep : ∀ s op s', Governance.Step cfg nfkd s op s' → ∀ u, s'.Governs clubId u →
      s.Governs clubId u ∨ (op.Seats clubId u ∧ (op.ByAdmin clubId ∨ s.Governs clubId op.actor.id)) :=
    fun s op s' hs u hu => hs.roster.governs hu
  refine ⟨fun u hu => h.granted hstep hu, fun hclub hnone hops => ?_⟩
  -- under the condition on the calls, the club is a trap
  have hkept := (h.under hops).preserves (P := fun s => s.Keyed ∧ s.club clubId = g.club clubId ∧
    s.roster clubId = g.roster clubId ∧ ∀ u, ¬ s.Governs clubId u) ?_ ⟨hk, rfl, rfl, hnone⟩
  · exact hkept.2
  · intro s op s' ⟨hks, hc, hr, hn⟩ ⟨hs, hop⟩
    have hother := hs.unattended (hc ▸ hclub) hn hop
    refine ⟨hs.roster.keyed hks, (hs.club_other hother).trans hc,
      (hs.roster.roster_other hks hother).trans hr, fun u hu => ?_⟩
    rcases hstep s op s' hs u hu with hold | ⟨_, hadmin | hby⟩
    · exact hn u hold
    · exact hop hadmin
    · exact hn _ hby

end Handed

/-- Two clubs without members, their administrator, and two users. -/
def sampleGovernance : Governance where
  store :=
    { clubs := [(13, 'c'), (14, 'd')].map fun p =>
        { id := ⟨p.1⟩, name := [p.2], facultyAdvisorId := none, isActive := true, slug := [p.2],
          description := none, academicYear := [], logoUrl := none, createdBy := ⟨9⟩ }
      auditLogs := [] }
  members := []
  rosterLogs := []

/-- The administrator seats the first user, who seats the second, who removes the first. -/
def sampleGovernanceOps : List GovernanceOp :=
  let env : Nat → ClubEnv := fun n =>
    ⟨n, ⟨n⟩, [⟨⟨⟨1⟩, ['a'], .clubSecretary⟩, true, none⟩, ⟨⟨⟨2⟩, ['b'], .clubSecretary⟩, true, none⟩],
      []⟩
  [.addMember (env 21) ⟨13⟩ ⟨⟨1⟩, .secretary⟩ ⟨⟨9⟩, ['z'], .systemAdmin⟩,
    .addMember (env 22) ⟨13⟩ ⟨⟨2⟩, .secretary⟩ ⟨⟨1⟩, ['a'], .clubSecretary⟩,
    .removeMember (env 23) ⟨13⟩ ⟨1⟩ ⟨⟨2⟩, ['b'], .clubSecretary⟩]

theorem authority_traced_sample : ∃ g',
    Path (Governance.Step ⟨.sqlite, id, id, id, false⟩ id) sampleGovernance sampleGovernanceOps g' ∧
      Delegated (sampleGovernance.Governs ⟨13⟩) (GovernanceOp.ByAdmin ⟨13⟩) (fun op => op.actor.id)
        (GovernanceOp.Seats ⟨13⟩) sampleGovernanceOps ⟨2⟩ ∧
      g'.roster ⟨14⟩ = [] ∧ ∀ u, ¬ g'.Governs ⟨14⟩ u := by
  obtain ⟨g', hrun, hgoverns⟩ : Ends (run (fun op g => op.exec ⟨.sqlite, id, id, id, false⟩ id g)
      sampleGovernanceOps sampleGovernance) (fun g => g.Governs ⟨13⟩ ⟨2⟩) := by decide
  have hpath := path_of_run hrun
  have hk : sampleGovernance.Keyed := ⟨List.nodup_nil, List.nodup_nil⟩
  have hseated := (authority_traced _ id ⟨13⟩ hk hpath).1 ⟨2⟩ hgoverns
  have hother := (authority_traced _ id ⟨14⟩ hk hpath).2 (by decide)
    (fun u ⟨m, hm, _⟩ => by cases hm) (by decide)
  exact ⟨g', hpath, hseated, hother.2⟩

/-! ## 5. The audit trail replays the roster -/

/-- What an entry says of a field. -/
def RosterLog.field (log : RosterLog) (key : String) : Option Value :=
  log.newState.bind fun d => d.get key

/-- The value of a field of a row by the latest entry that names it. -/
def latest (logs : List RosterLog) (entityId : Text) (key : String) : Option Value :=
  logs.foldl (fun value log =>
    if log.entityId = entityId then log.field key <|> value else value) none

/-- The fields of a row that the trail speaks of. -/
def MemberRow.fields (m : MemberRow) : StateDict :=
  [("club_id", .uuid m.clubId), ("user_id", .uuid m.userId),
    ("member_role", .name m.memberRole.value), ("is_active", .flag m.isActive)]

/-- **The trail and the roster agree**: every entry is about a row; the latest values of a row's fields are
    those it has; and the state an entry gives as the previous one is what the entries before it say. -/
structure Governance.Recorded (g : Governance) : Prop where
  named : ∀ log ∈ g.rosterLogs, ∃ m ∈ g.members, log.entityId = m.id.str
  replayed : ∀ m ∈ g.members, ∀ p ∈ m.fields, latest g.rosterLogs m.id.str p.1 = some p.2
  chained : ∀ before log after, g.rosterLogs = before ++ log :: after →
    ∀ d, log.previousState = some d → ∀ p ∈ d, latest before log.entityId p.1 = some p.2

section Replay

variable {cfg : Config} {nfkd : Text → Text} {g g' : Governance} {op : GovernanceOp}
  {member : MemberRow} {log : RosterLog}

theorem MemberRow.forall_fields {P : String × Value → Prop} :
    (∀ p ∈ member.fields, P p) ↔
      P ("club_id", .uuid member.clubId) ∧ P ("user_id", .uuid member.userId) ∧
        P ("member_role", .name member.memberRole.value) ∧ P ("is_active", .flag member.isActive) := by
  simp [MemberRow.fields]

theorem latest_concat {logs : List RosterLog} {entityId : Text} {key : String} :
    latest (logs ++ [log]) entityId key =
      if log.entityId = entityId then log.field key <|> latest logs entityId key
      else latest logs entityId key := by
  unfold latest
  rw [List.foldl_append]
  rfl

/-- **One more entry**, about a row that is written or added with it. -/
theorem Governance.Recorded.extend (hr : g.Recorded) (member : MemberRow)
    (hlogs : g'.rosterLogs = g.rosterLogs ++ [log]) (hentity : log.entityId = member.id.str)
    (hmem : member ∈ g'.members)
    (hrows : ∀ m ∈ g'.members, m = member ∨ (m ∈ g.members ∧ m.id ≠ member.id))
    (hkept : ∀ m ∈ g.members, ∃ m' ∈ g'.members, m'.id = m.id)
    (hfields : ∀ p ∈ member.fields,
      (log.field p.1 <|> latest g.rosterLogs member.id.str p.1) = some p.2)
    (hprevious : ∀ d, log.previousState = some d →
      ∀ p ∈ d, latest g.rosterLogs member.id.str p.1 = some p.2) : g'.Recorded := by
  constructor
  · intro l hl
    rw [hlogs] at hl
    rcases List.mem_append.mp hl with hold | hnew
    · obtain ⟨m, hm, he⟩ := hr.named l hold
      obtain ⟨m', hm', hid⟩ := hkept m hm
      exact ⟨m', hm', by rw [he, hid]⟩
    · rw [List.mem_singleton.mp hnew]
      exact ⟨member, hmem, hentity⟩
  · intro m hm p hp
    rw [hlogs, latest_concat]
    rcases hrows m hm with rfl | ⟨hold, hne⟩
    · rw [if_pos hentity]
      exact hfields p hp
    · rw [if_neg fun he => hne (Uuid.str_injective (he.symm.trans hentity))]
      exact hr.replayed m hold p hp
  · intro before l after hsplit d hd p hp
    rw [hlogs] at hsplit
    rcases List.eq_nil_or_concat after with rfl | ⟨rest, last, rfl⟩
    · obtain ⟨hbefore, hl⟩ := List.append_inj' hsplit rfl
      have hlog : log = l := List.singleton_injective hl
      rw [← hbefore, ← hlog, hentity]
      exact hprevious d (by rw [hlog, hd]) p hp
    · have hinit : g.rosterLogs = before ++ l :: rest := by
        rw [List.concat_eq_append, ← List.cons_append, ← List.append_assoc] at hsplit
        exact (List.append_inj' hsplit rfl).1
      exact hr.chained before l rest hinit d hd p hp

theorem Governance.Recorded.amend (hr : g.Recorded) (hk : g.Keyed) {old : MemberRow}
    (hold : old ∈ g.members) (hid : member.id = old.id) (hentity : log.entityId = member.id.str)
    (hfields : ∀ p ∈ member.fields, (log.field p.1 <|> old.fields.get p.1) = some p.2)
    (hprevious : ∀ d, log.previousState = some d → ∀ p ∈ d, old.fields.get p.1 = some p.2) :
    (g.amend member log).Recorded := by
  -- the latest values of the row are those it has
  have hlatest : ∀ key value, old.fields.get key = some value →
      latest g.rosterLogs member.id.str key = some value := by
    intro key value hget
    obtain ⟨⟨k, v⟩, hfind, hv⟩ := Option.map_eq_some_iff.mp hget
    have hkey := List.find?_some hfind
    rw [decide_eq_true_eq] at hkey
    have hvalue : v = value := hv
    rw [hid, ← hkey, ← hvalue]
    exact hr.replayed old hold (k, v) (List.mem_of_find?_eq_some hfind)
  refine hr.extend member rfl hentity (Governance.amend_mem hold hid.symm)
    (fun m hm => Governance.mem_amend hm)
    (fun m hm => ⟨_, List.mem_map_of_mem hm, ?_⟩) (fun p hp => ?_) fun d hd p hp => ?_
  · exact MemberRow.overwrite_keeps MemberRow.id hk.ids hold hid hid hm
  · have hf := hfields p hp
    cases hlog : log.field p.1 with
    | some value =>
        rw [hlog] at hf
        exact hf
    | none =>
        rw [hlog] at hf
        exact hlatest p.1 p.2 hf
  · exact hlatest p.1 p.2 (hprevious d hd p hp)

/-- **The step lemma of the trail.** -/
theorem RosterStep.recorded (hs : RosterStep g op g') (hk : g.Keyed) (hr : g.Recorded) :
    g'.Recorded := by
  cases hs with
  | clubs op store => exact ⟨hr.named, hr.replayed, hr.chained⟩
  | removedAgain env c target actor howner => exact hr
  | added env c memberIn actor target howner htarget hfresh =>
      refine hr.extend (newMember env c memberIn) rfl rfl (Governance.mem_enrol.mpr (.inr rfl))
        (fun m hm => ?_) (fun m hm => ⟨m, Governance.mem_enrol.mpr (.inl hm), rfl⟩)
        (MemberRow.forall_fields.mpr ?_) fun d hd => ?_
      · rcases Governance.mem_enrol.mp hm with hold | rfl
        · exact .inr ⟨hold, (hfresh m hold).1⟩
        · exact .inl rfl
      · simp [RosterLog.field, newMember, rosterLog, enrolledState, StateDict.get, htarget]
      · cases hd
  | restored env c memberIn actor target existing howner htarget hm hout =>
      obtain ⟨hmem, hclub, huser⟩ := Governance.member_eq hm
      refine hr.amend hk hmem rfl rfl (MemberRow.forall_fields.mpr ?_) fun d hd => ?_
      · simp [RosterLog.field, restoredMember, rosterLog, enrolledState, StateDict.get, htarget, hclub,
          huser]
      · cases hd
  | updated env c target memberIn actor member action howner hm =>
      obtain ⟨hmem, _⟩ := Governance.member_eq hm
      refine hr.amend hk hmem rfl rfl (MemberRow.forall_fields.mpr ?_) fun d hd => ?_
      · simp [RosterLog.field, editMember, rosterLog, standingState, StateDict.get, MemberRow.fields]
      · cases hd
        simp [standingState, StateDict.get, MemberRow.fields]
  | removed env c target actor member reason howner hm hin =>
      obtain ⟨hmem, _⟩ := Governance.member_eq hm
      refine hr.amend hk hmem rfl rfl (MemberRow.forall_fields.mpr ?_) fun d hd => ?_
      · simp [RosterLog.field, removedMember, rosterLog, StateDict.get, MemberRow.fields]
      · cases hd
        simp [StateDict.get, MemberRow.fields, hin]

end Replay

/-- **The audit trail replays the roster**: in every run from an empty roster the latest entries give the
    club, the user, the role and the standing of every row, every entry continues the ones before it,
    and whatever is called next, no row is lost or changes its seat and no entry is rewritten. -/
theorem roster_replayed (cfg : Config) (nfkd : Text → Text) {g g' : Governance}
    {ops : List GovernanceOp} (hempty : g.members = [] ∧ g.rosterLogs = [])
    (h : Path (Governance.Step cfg nfkd) g ops g') :
    g'.Recorded ∧ ∀ g'' more, Path (Governance.Step cfg nfkd) g' more g'' →
      g'.members.map MemberRow.seat <+: g''.members.map MemberRow.seat ∧
        g'.rosterLogs <+: g''.rosterLogs := by
  have hstart : g.Keyed ∧ g.Recorded := by
    refine ⟨⟨by rw [hempty.1]; exact List.nodup_nil, by rw [hempty.1]; exact List.nodup_nil⟩, ?_⟩
    refine ⟨fun log hlog => ?_, fun m hm => ?_, fun before log after hsplit => ?_⟩
    · rw [hempty.2] at hlog
      cases hlog
    · rw [hempty.1] at hm
      cases hm
    · rw [hempty.2] at hsplit
      exact (List.append_ne_nil_of_right_ne_nil before (List.cons_ne_nil log after) hsplit.symm).elim
  have hend : g'.Keyed ∧ g'.Recorded := h.preserves (P := fun s => s.Keyed ∧ s.Recorded)
    (fun s op s' hs hstep => ⟨hstep.roster.keyed hs.1, hstep.roster.recorded hs.1 hs.2⟩) hstart
  refine ⟨hend.2, fun g'' more hmore => ?_⟩
  have hkept := hmore.preserves (P := fun s => s.Keyed ∧
    g'.members.map MemberRow.seat <+: s.members.map MemberRow.seat ∧
      g'.rosterLogs <+: s.rosterLogs) ?_ ⟨hend.1, List.prefix_rfl, List.prefix_rfl⟩
  · exact hkept.2
  · intro s op s' ⟨hk, hseats, hlogs⟩ hstep
    refine ⟨hstep.roster.keyed hk, hseats.trans (hstep.roster.seats hk), hlogs.trans ?_⟩
    rcases hstep.roster.shape with ⟨_, hsame⟩ | ⟨member, log, rfl, _⟩ | ⟨old, _, member, log, rfl, _⟩
    · rw [hsame]
    · exact List.prefix_append _ _
    · exact List.prefix_append _ _

theorem roster_replayed_sample : ∃ g',
    Path (Governance.Step ⟨.sqlite, id, id, id, false⟩ id) sampleGovernance sampleGovernanceOps g' ∧
      g'.Recorded ∧ g'.rosterLogs.length = 3 := by
  obtain ⟨g', hrun, hlogs⟩ : Ends (run (fun op g => op.exec ⟨.sqlite, id, id, id, false⟩ id g)
      sampleGovernanceOps sampleGovernance) (fun g => g.rosterLogs.length = 3) := by decide
  exact ⟨g', path_of_run hrun, (roster_replayed _ id ⟨rfl, rfl⟩ (path_of_run hrun)).1, hlogs⟩

end CampusConnect
