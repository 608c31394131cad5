/-
  File:      CampusConnect/Guarantees/Inbox.lean
  Subject:   EVERYBODY'S INBOX IS HIS OWN: what he is sent and what he marks make it, and nothing else.

  * `InboxOp.Concerns`, `onInbox`: the calls that are about a user, and what they make of his inbox;
  * `InboxOp.inbox`: the step lemma, any call is one of these or leaves the inbox;
  * `Evolved`: nothing is lost, and what has been read stays as it was;
  * `inbox_isolated`: the inbox after a run is a fold over the user's own calls, and so are the answers
    he gets.
-/
import CampusConnect.Services.Notifications

namespace CampusConnect

open Guarded Rows Runs NotificationService

/-! ## 1. One call -/

/-- The call sends the user a notice, or is his own. -/
def InboxOp.Concerns (u : Uuid) : InboxOp → Prop
  | .notify _ _ n => n.recipientId = u
  | .markAsRead _ recipientId _ => recipientId = u
  | .markAllAsRead recipientId _ => recipientId = u

instance (u : Uuid) : (op : InboxOp) → Decidable (op.Concerns u)
  | .notify _ _ n => inferInstanceAs (Decidable (n.recipientId = u))
  | .markAsRead _ recipientId _ => inferInstanceAs (Decidable (recipientId = u))
  | .markAllAsRead recipientId _ => inferInstanceAs (Decidable (recipientId = u))

/-- What the call makes of the inbox it concerns. -/
def InboxOp.onInbox (op : InboxOp) (l : List Notification) : List Notification :=
  match op with
  | .notify newId now n => l ++ [n.row newId now]
  | .markAsRead notificationId _ now =>
      l.map fun n => if n.id = notificationId then markRead now n else n
  | .markAllAsRead _ now => l.map (markRead now)

/-- An accepted call. -/
def InboxOp.Step (t : Table Notification) (op : InboxOp) (t' : Table Notification) : Prop :=
  op.exec t = .ok t'

section Calls

variable {t t' : Table Notification} {op : InboxOp} {u : Uuid} {now : Instant} {n : Notification}

@[simp] theorem markRead_notice : (markRead now n).toNotice = n.toNotice := by
  unfold markRead
  split <;> rfl

theorem markRead_recipient : (markRead now n).recipientId = n.recipientId :=
  congrArg Notice.recipientId markRead_notice

theorem mem_inbox : n ∈ inbox t u ↔ n ∈ t ∧ n.recipientId = u := by
  unfold inbox
  rw [List.mem_filter, decide_eq_true_eq]
  exact Iff.rfl

/-- A change of the rows that leaves their recipients changes the inboxes row by row. -/
theorem inbox_map {f : Notification → Notification} (hf : ∀ n, (f n).recipientId = n.recipientId)
    (h : t'.rows = t.rows.map f) : inbox t' u = (inbox t u).map f := by
  unfold inbox
  rw [h, List.filter_map]
  congr 1
  refine List.filter_congr fun n _ => ?_
  rw [Function.comp_apply, hf]

/-- The rows after `mark_as_read`, which finds a row of the reader. -/
theorem markAsRead_accepts {notificationId recipientId : Uuid} {r : Table Notification × Notification}
    (h : markAsRead t notificationId recipientId now = .ok r) :
    (∃ notif ∈ t, notif.id = notificationId ∧ notif.recipientId = recipientId) ∧
      r.1.rows = t.rows.map fun n => if n.id = notificationId then markRead now n else n := by
  simp only [markAsRead, bind_accepts, fetch_accepts, pure_accepts, Option.filter_eq_some_iff,
    decide_eq_true_eq] at h
  obtain ⟨notif, ⟨hfind, hown⟩, t', hwrite, rfl⟩ := h
  have hm : notif ∈ t := Table.mem_of_find hfind
  have hid : notif.id = notificationId := Table.key_of_find hfind
  have hkey : (markRead now notif).id = notif.id := markRead_key now notif
  refine ⟨⟨notif, hm, hid, hown⟩, ?_⟩
  rw [(Table.replace_eq_some.mp hwrite).2]
  refine List.map_congr_left fun b hb => ?_
  show (if b.id = (markRead now notif).id then markRead now notif else b) = _
  rw [hkey, hid]
  by_cases he : b.id = notificationId
  · -- keys are distinct, so the row overwritten is the one found
    rw [if_pos he, if_pos he, Table.eq_of_key_eq hb hm (he.trans hid.symm)]
  · rw [if_neg he, if_neg he]

/-- **The step lemma**: a call changes the inboxes it concerns, and no others. -/
theorem InboxOp.Step.inbox (h : InboxOp.Step t op t') (u : Uuid) :
    inbox t' u = if op.Concerns u then op.onInbox (inbox t u) else inbox t u := by
  unfold InboxOp.Step InboxOp.exec at h
  cases op with
  | notify newId now n =>
      simp only [createNotification, fetch_accepts] at h
      unfold NotificationService.inbox
      rw [(Table.insert_eq_some.mp h).2, List.filter_append]
      by_cases hu : n.recipientId = u
      · have hone : [n.row newId now].filter (fun n => n.recipientId = u) = [n.row newId now] :=
          List.filter_eq_self.mpr fun m hm => by
            rw [List.mem_singleton.mp hm]
            exact decide_eq_true hu
        rw [if_pos (show (InboxOp.notify newId now n).Concerns u from hu), hone]
        rfl
      · have hnone : [n.row newId now].filter (fun n => n.recipientId = u) = [] :=
          List.filter_eq_nil_iff.mpr fun m hm => by
            rw [List.mem_singleton.mp hm, decide_eq_true_eq]
            exact hu
        rw [if_neg (show ¬ (InboxOp.notify newId now n).Concerns u from hu), hnone, List.append_nil]
  | markAsRead notificationId recipientId now =>
      simp only [bind_accepts, pure_accepts] at h
      obtain ⟨r, hr, rfl⟩ := h
      obtain ⟨⟨notif, hm, hid, hown⟩, hrows⟩ := markAsRead_accepts hr
      have hmap : NotificationService.inbox r.1 u = (NotificationService.inbox t u).map
          fun n => if n.id = notificationId then markRead now n else n := by
        refine inbox_map (fun n => ?_) hrows
        by_cases he : n.id = notificationId
        · rw [if_pos he, markRead_recipient]
        · rw [if_neg he]
      rw [hmap]
      by_cases hu : recipientId = u
      · rw [if_pos (show (InboxOp.markAsRead notificationId recipientId now).Concerns u from hu)]
        rfl
      · rw [if_neg (show ¬ (InboxOp.markAsRead notificationId recipientId now).Concerns u from hu)]
        refine (List.map_congr_left fun b hb => if_neg fun he => hu ?_).trans (List.map_id _)
        obtain ⟨hbm, hbu⟩ := mem_inbox.mp hb
        rw [← hown, ← hbu, Table.eq_of_key_eq hbm hm (he.trans hid.symm)]
  | markAllAsRead recipientId now =>
      simp only [pure_accepts] at h
      subst h
      have hmap : NotificationService.inbox (NotificationService.markAllAsRead t recipientId now).1 u =
          (NotificationService.inbox t u).map (markReadBy recipientId now) := by
        refine inbox_map (fun n => ?_) rfl
        unfold markReadBy
        by_cases he : n.recipientId = recipientId
        · rw [if_pos he, markRead_recipient]
        · rw [if_neg he]
      rw [hmap]
      by_cases hu : recipientId = u
      · rw [if_pos (show (InboxOp.markAllAsRead recipientId now).Concerns u from hu)]
        refine List.map_congr_left fun b hb => if_pos ?_
        rw [(mem_inbox.mp hb).2, hu]
      · rw [if_neg (show ¬ (InboxOp.markAllAsRead recipientId now).Concerns u from hu)]
        refine (List.map_congr_left fun b hb => if_neg fun he => hu ?_).trans (List.map_id _)
        rw [← he, (mem_inbox.mp hb).2]

end Calls

/-! ## 2. What a run makes of an inbox -/

/-- Two states of one row: what was sent stays, and a row that was read stays as it is. -/
structure SameNotice (n n' : Notification) : Prop where
  id : n'.id = n.id
  notice : n'.toNotice = n.toNotice
  createdAt : n'.createdAt = n.createdAt
  read : n.isRead = true → n' = n

/-- No row is lost. -/
def Evolved (l l' : List Notification) : Prop := ∀ n ∈ l, ∃ n' ∈ l', SameNotice n n'

def unread (l : List Notification) : Nat := l.countP fun n => n.isRead = false

section Evolution

variable {t t' : Table Notification} {l l' l'' : List Notification} {op : InboxOp} {u : Uuid}
variable {ops : List InboxOp}

theorem SameNotice.refl (n : Notification) : SameNotice n n := ⟨rfl, rfl, rfl, fun _ => rfl⟩

theorem SameNotice.trans {n n' n'' : Notification} (h : SameNotice n n') (h' : SameNotice n' n'') :
    SameNotice n n'' := by
  refine ⟨h'.id.trans h.id, h'.notice.trans h.notice, h'.createdAt.trans h.createdAt, fun hr => ?_⟩
  have hsame : n' = n := h.read hr
  rw [h'.read (by rw [hsame]; exact hr), hsame]

theorem sameNotice_markRead (now : Instant) (n : Notification) : SameNotice n (markRead now n) := by
  refine ⟨markRead_key now n, markRead_notice, ?_, fun hread => ?_⟩
  · unfold markRead
    by_cases h : n.isRead = false
    · rw [if_pos h]
    · rw [if_neg h]
  · unfold markRead
    rw [if_neg (by rw [hread]; decide)]

theorem evolved_map {f : Notification → Notification} (hf : ∀ n, SameNotice n (f n)) :
    Evolved l (l.map f) := fun n hn => ⟨f n, List.mem_map_of_mem hn, hf n⟩

theorem Evolved.trans (h : Evolved l l') (h' : Evolved l' l'') : Evolved l l'' := by
  intro n hn
  obtain ⟨n', hn', hsame⟩ := h n hn
  obtain ⟨n'', hn'', hsame'⟩ := h' n' hn'
  exact ⟨n'', hn'', hsame.trans hsame'⟩

theorem InboxOp.evolved (op : InboxOp) (l : List Notification) : Evolved l (op.onInbox l) := by
  cases op with
  | notify newId now n => exact fun m hm => ⟨m, List.mem_append_left _ hm, .refl m⟩
  | markAsRead notificationId recipientId now =>
      refine evolved_map fun n => ?_
      by_cases he : n.id = notificationId
      · rw [if_pos he]
        exact sameNotice_markRead now n
      · rw [if_neg he]
        exact .refl n
  | markAllAsRead recipientId now => exact evolved_map (sameNotice_markRead now)

theorem evolved_foldl (ops : List InboxOp) (l : List Notification) :
    Evolved l (ops.foldl (fun l op => op.onInbox l) l) := by
  induction ops generalizing l with
  | nil => exact fun n hn => ⟨n, hn, .refl n⟩
  | cons op ops ih => exact (op.evolved l).trans (ih (op.onInbox l))

/-- Notices add their number to what is unread. -/
theorem unread_foldl (hnotify : ∀ op ∈ ops, ∃ newId now n, op = InboxOp.notify newId now n) :
    unread (ops.foldl (fun l op => op.onInbox l) l) = unread l + ops.length := by
  induction ops generalizing l with
  | nil => rfl
  | cons op ops ih =>
      obtain ⟨newId, now, n, rfl⟩ := hnotify op (List.mem_cons_self ..)
      have hone : unread ((InboxOp.notify newId now n).onInbox l) = unread l + 1 := by
        unfold unread InboxOp.onInbox
        rw [List.countP_append]
        rfl
      rw [List.foldl_cons, ih fun op hop => hnotify op (List.mem_cons_of_mem _ hop), hone,
        List.length_cons]
      omega

/-- After `mark_all_as_read` nothing is unread. -/
theorem unread_markAll (l : List Notification) (now : Instant) : unread (l.map (markRead now)) = 0 := by
  unfold unread
  rw [List.countP_eq_zero]
  intro n hn
  obtain ⟨m, _, rfl⟩ := List.mem_map.mp hn
  rw [decide_eq_true_eq]
  unfold markRead
  by_cases h : m.isRead = false
  · rw [if_pos h]
    exact fun he => nomatch he
  · rw [if_neg h]
    exact h

/-- **The inbox after a run**, from the calls that concern it. -/
theorem inbox_run (u : Uuid) (h : Path InboxOp.Step t ops t') :
    inbox t' u = (ops.filter fun op => op.Concerns u).foldl (fun l op => op.onInbox l) (inbox t u) :=
  h.view (fun t => inbox t u) (fun op => op.Concerns u) (fun op l => op.onInbox l) fun _ _ _ hs =>
    hs.inbox u

/-! ## 3. The answers -/

theorem getNotificationCounts_eq (t : Table Notification) (u : Uuid) :
    getNotificationCounts t u = ⟨unread (inbox t u), (inbox t u).length⟩ := by
  unfold getNotificationCounts unread inbox
  congr 1
  · rw [List.countP_filter]
    refine List.countP_congr fun n _ => ?_
    rw [decide_eq_true_eq, Bool.and_eq_true, decide_eq_true_eq, decide_eq_true_eq]
    exact And.comm
  · exact List.countP_eq_length_filter

/-- A page of unread rows: as many as the badge counts, but no more than the page takes. -/
theorem length_unreadPage (t : Table Notification) (u : Uuid) (limit offset : Nat) :
    (getNotifications t u true limit offset).length =
      min limit ((getNotificationCounts t u).unreadCount - offset) := by
  rw [getNotificationCounts_eq]
  unfold getNotifications unread
  rw [List.length_take, List.length_drop, List.length_insertionSort, List.countP_eq_length_filter]
  simp only [forall_const]

/-- **Everybody's inbox is his own.** In every run of the notifications, by any services and readers,
what a user finds in his inbox is what the notices sent to him and his own marks make of it, in their
order: two runs that agree on these give him the same answers. Nothing he was sent is lost or changed,
what he has read stays read since the same time, the unread page shows what the badge counts, and the
badge counts the notices sent to him since he last marked them all, while he marks none of them alone. -/
theorem inbox_isolated (u : Uuid) (h : Path InboxOp.Step t ops t') :
    inbox t' u = (ops.filter fun op => op.Concerns u).foldl (fun l op => op.onInbox l) (inbox t u) ∧
    (∀ s s' others, Path InboxOp.Step s others s' → inbox s u = inbox t u →
      (others.filter fun op => op.Concerns u) = (ops.filter fun op => op.Concerns u) →
        getNotificationCounts s' u = getNotificationCounts t' u ∧
          ∀ unreadOnly limit offset, getNotifications s' u unreadOnly limit offset =
            getNotifications t' u unreadOnly limit offset) ∧
    Evolved (inbox t u) (inbox t' u) ∧
    (∀ limit offset, (getNotifications t' u true limit offset).length =
      min limit ((getNotificationCounts t' u).unreadCount - offset)) ∧
    ∀ before now after, ops = before ++ .markAllAsRead u now :: after →
      (∀ op ∈ after, op.Concerns u → ∃ newId now n, op = .notify newId now n) →
        (getNotificationCounts t' u).unreadCount = (after.filter fun op => op.Concerns u).length := by
  have hrun := inbox_run u h
  refine ⟨hrun, ?_, ?_, length_unreadPage t' u, ?_⟩
  · intro s s' others hs hstart hsame
    have hinbox : inbox s' u = inbox t' u := by
      rw [hrun, inbox_run u hs, hstart, hsame]
    refine ⟨?_, fun unreadOnly limit offset => ?_⟩
    · rw [getNotificationCounts_eq, getNotificationCounts_eq, hinbox]
    · unfold getNotifications
      rw [hinbox]
  · rw [hrun]
    exact evolved_foldl _ _
  · rintro before now after rfl hnotify
    have hown : (InboxOp.markAllAsRead u now).Concerns u := rfl
    have hafter : ∀ op ∈ after.filter fun op => op.Concerns u, ∃ newId now n,
        op = InboxOp.notify newId now n := by
      intro op hop
      obtain ⟨hm, hc⟩ := List.mem_filter.mp hop
      exact hnotify op hm (of_decide_eq_true hc)
    rw [getNotificationCounts_eq, hrun, List.filter_append, List.foldl_append,
      List.filter_cons_of_pos (p := fun op : InboxOp => decide (op.Concerns u)) (decide_eq_true hown),
      List.foldl_cons]
    show unread _ = _
    rw [unread_foldl hafter]
    show unread (List.map (markRead now) _) + _ = _
    rw [unread_markAll, Nat.zero_add]

end Evolution

namespace Sample

/-- Two readers: the first is told twice and reads one, the second tries to read the other. -/
def letter (u : Uuid) : Notice where
  recipientId := u
  notificationType := .system
  title := ⟨"letter", []⟩
  message := ⟨"letter", []⟩
  eventRequestId := none

def letters : List InboxOp :=
  [.notify (uid 700) 1 (letter (uid 1)), .notify (uid 701) 2 (letter (uid 1)),
    .markAllAsRead (uid 1) 3, .notify (uid 702) 4 (letter (uid 2)),
    .notify (uid 703) 5 (letter (uid 1)), .markAsRead (uid 702) (uid 2) 6]

end Sample

/-- The first reader has marked all and been told once more since. -/
theorem inbox_isolated_sample :
    ∃ t : Table Notification, Path InboxOp.Step Table.empty Sample.letters t ∧
    (getNotificationCounts t (Sample.uid 1)).unreadCount = 1 := by
  have hrun : Ends (run InboxOp.exec Sample.letters Table.empty) fun _ => True := by
    decide
  obtain ⟨t, hok, _⟩ := hrun
  have hpath := path_of_run hok
  refine ⟨t, hpath, ?_⟩
  refine ((inbox_isolated (Sample.uid 1) hpath).2.2.2.2 (Sample.letters.take 2) 3
    (Sample.letters.drop 3) rfl fun op hop hc => ?_).trans (by decide)
  rcases List.mem_cons.mp hop with rfl | hop
  · exact ⟨_, _, _, rfl⟩
  · rcases List.mem_cons.mp hop with rfl | hop
    · exact ⟨_, _, _, rfl⟩
    · rw [List.mem_singleton.mp hop] at hc
      exact absurd hc (by decide)

end CampusConnect
