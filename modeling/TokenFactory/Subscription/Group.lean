import TokenFactory.Subscription.Bounds

namespace TokenFactory.Subscription

open Data Go

/-! The group of one user while upgrades come and go. -/

inductive GroupEvent where
  | purchase (env : Env) (userId : Int) (plan : SubscriptionPlan) (source : String)
  | expire (env : Env) (limit : Int)
  | invalidate (env : Env) (id : Int)
  | delete (env : Env) (id : Int)

namespace GroupEvent

def now : GroupEvent → Int
  | purchase env _ _ _ | expire env _ | invalidate env _ | delete env _ => env.now

def transaction : GroupEvent → Transaction
  | purchase env userId plan source => .createUserSubscriptionFromPlan env userId plan source
  | expire env limit => .expireDueSubscriptions env limit
  | invalidate env id => .adminInvalidateUserSubscription env id
  | delete env id => .adminDeleteUserSubscription env id

end GroupEvent

structure Timeline where
  db : Database
  clock : Int

def Timeline.step (timeline : Timeline) (event : GroupEvent) : Timeline :=
  ⟨commit timeline.db event.transaction, event.now⟩

def UserSubscription.upgrades (user : Int) (sub : UserSubscription) : Prop :=
  sub.userId = user ∧ sub.upgradeGroup ≠ ""

variable {user : Int} {group : String} {db after : Database} {clock now : Int}
  {sub holder : UserSubscription}

/-- The one upgrade that keeps the user out of their own group. -/
structure Holder (user : Int) (group : String) (db : Database) (holder : UserSubscription) : Prop where
  member : holder ∈ db.subscriptions
  upgrades : holder.upgrades user
  active : holder.status = .active
  current : db.group user = some holder.upgradeGroup
  displaced : holder.prevUserGroup = group
  different : holder.upgradeGroup ≠ group
  valid : 0 < user
  ends : 0 < holder.endTime
  only : ∀ sub ∈ db.subscriptions, sub.upgrades user → sub.status = .active → sub = holder
  latest : ∀ sub ∈ db.subscriptions, sub.upgrades user → sub.status = .expired →
    sub.endTime < holder.endTime

structure Restorable (user : Int) (group : String) (timeline : Timeline) : Prop where
  trimmed : ∀ sub ∈ timeline.db.subscriptions, sub.upgrades user →
    trimSpace sub.upgradeGroup = sub.upgradeGroup
  stored : ∀ sub ∈ timeline.db.subscriptions, sub.upgrades user →
    sub.prevUserGroup = "" ∨ sub.prevUserGroup = group
  past : ∀ sub ∈ timeline.db.subscriptions, sub.upgrades user → sub.status = .expired →
    sub.endTime ≤ timeline.clock
  home : timeline.db.group user = some group ∨ ∃ holder, Holder user group timeline.db holder

variable {userId : Int}

theorem setGroup_other (other : user ≠ userId) (db : Database) (target : String) :
    (db.setGroup userId target).group user = db.group user := by
  simp [Database.setGroup, other]

theorem setGroup_self {old : String} (known : db.group user = some old) (target : String) :
    (db.setGroup user target).group user = some target := by
  simp [Database.setGroup, known]

theorem downgrade_group (db : Database) (sub : UserSubscription) (now user : Int) :
    (downgradeUserGroupForSubscriptionTx db sub now).2.group user = db.group user ∨
      (sub.userId = user ∧ trimSpace sub.upgradeGroup ≠ "" ∧ trimSpace sub.prevUserGroup ≠ "" ∧
        (downgradeUserGroupForSubscriptionTx db sub now).2.group user =
          (db.setGroup user (trimSpace sub.prevUserGroup)).group user) := by
  simp only [downgradeUserGroupForSubscriptionTx]
  split
  · exact .inl rfl
  rename_i named
  split
  · exact .inl rfl
  split
  · exact .inl rfl
  split
  · exact .inl rfl
  rename_i displaced
  by_cases own : sub.userId = user
  · exact .inr ⟨own, named, fun blank => displaced (.inl blank), by rw [own]⟩
  · exact .inl (setGroup_other (fun same => own same.symm) db _)

theorem downgrade_restores (trimmedGroup : trimSpace group = group) (named : group ≠ "")
    (upgrades : sub.upgrades user) (trimmed : trimSpace sub.upgradeGroup = sub.upgradeGroup)
    (current : db.group user = some sub.upgradeGroup) (displaced : sub.prevUserGroup = group)
    (different : sub.upgradeGroup ≠ group)
    (alone : ∀ other ∈ db.subscriptions, other.upgrades user → other.status = .active →
      other.id = sub.id) :
    (downgradeUserGroupForSubscriptionTx db sub now).2.group user = some group := by
  obtain ⟨rfl, upgraded⟩ := upgrades
  have reads : getUserGroupByIdTx db sub.userId = sub.upgradeGroup := by
    simp [getUserGroupByIdTx, current]
  have alone : ¬ (db.subscriptions.rows.any fun other =>
      other.userId = sub.userId && activeAt now other && other.id ≠ sub.id && other.upgradeGroup ≠ "") := by
    intro found
    obtain ⟨other, member, holds⟩ := List.any_eq_true.mp found
    simp only [Bool.and_eq_true, decide_eq_true_eq, activeAt] at holds
    exact holds.1.2 (alone other member ⟨holds.1.1.1, holds.2⟩ holds.1.1.2.1)
  simp only [downgradeUserGroupForSubscriptionTx, trimmed, upgraded, reads, displaced, trimmedGroup, named,
    different.symm, alone, ne_eq, not_true_eq_false, ↓reduceIte, or_self, Bool.false_eq_true]
  exact setGroup_self current group

/-- `row` is `old`, or what an expiry or a cancellation made of it. -/
structure Descends (now : Int) (old row : UserSubscription) : Prop where
  owner : old.userId = row.userId
  upgrade : old.upgradeGroup = row.upgradeGroup
  previous : old.prevUserGroup = row.prevUserGroup
  active : row.status = .active → row = old
  expired : row.status = .expired → row.id = old.id ∧ row.endTime = old.endTime ∧
    ((old.status = .active ∧ old.endTime ≤ now) ∨ old.status = .expired)

theorem Descends.refl (now : Int) (sub : UserSubscription) : Descends now sub sub :=
  ⟨rfl, rfl, rfl, fun _ => rfl, fun expired => ⟨rfl, rfl, .inr expired⟩⟩

theorem Descends.upgrades {old row : UserSubscription} (descends : Descends now old row)
    (upgrades : row.upgrades user) : old.upgrades user :=
  ⟨descends.owner.trans upgrades.1, descends.upgrade ▸ upgrades.2⟩

/-- A row is taken out of service, by a cancelled copy or altogether. -/
structure Ends (sub : UserSubscription) (before after : Database) : Prop where
  member : sub ∈ before.subscriptions
  kept : ∀ row ∈ before.subscriptions, row.id ≠ sub.id → row ∈ after.subscriptions
  rest : ∀ row ∈ after.subscriptions, (row ∈ before.subscriptions ∧ row.id ≠ sub.id) ∨
    (row.userId = sub.userId ∧ row.upgradeGroup = sub.upgradeGroup ∧
      row.prevUserGroup = sub.prevUserGroup ∧ row.status = .cancelled)

section

variable {timeline : Timeline} (restorable : Restorable user group timeline) (later : timeline.clock ≤ now)
include restorable later

/-- Rows that descend from earlier ones keep what is known of the user, with the same holder if it is
still there. -/
theorem Restorable.descend (origin : ∀ row ∈ after.subscriptions, row.upgrades user →
      ∃ old ∈ timeline.db.subscriptions, Descends now old row)
    (home : after.group user = some group ∨ ∃ holder, Holder user group timeline.db holder ∧
      holder ∈ after.subscriptions ∧ after.group user = timeline.db.group user) :
    Restorable user group ⟨after, now⟩ := by
  refine ⟨?_, ?_, ?_, home.imp_right fun ⟨holder, holds, kept, same⟩ => ⟨holder, { holds with
    member := kept, current := same.trans holds.current, only := ?_, latest := ?_ }⟩⟩
  all_goals
    intro row member upgrades
    obtain ⟨old, present, descends⟩ := origin row member upgrades
    have own := descends.upgrades upgrades
  · rw [← descends.upgrade]
    exact restorable.trimmed old present own
  · rw [← descends.previous]
    exact restorable.stored old present own
  · intro expired
    obtain ⟨-, sameEnd, ⟨_, due⟩ | before⟩ := descends.expired expired <;> rw [sameEnd]
    · exact due
    · exact Int.le_trans (restorable.past old present own before) later
  · intro active
    obtain rfl := descends.active active
    exact holds.only row present own active
  · intro expired
    obtain ⟨sameKey, sameEnd, ⟨active, _⟩ | before⟩ := descends.expired expired
    · obtain rfl := holds.only old present own active
      rw [Table.eq_of_key member kept sameKey, active] at expired
      cases expired
    · exact sameEnd ▸ holds.latest old present own before

theorem ends_preserves_restorable (ends : Ends sub timeline.db after)
    (moved : after.group user = timeline.db.group user ∨ after.group user = some group)
    (restored : Holder user group timeline.db sub → after.group user = some group) :
    Restorable user group ⟨after, now⟩ := by
  refine restorable.descend later (fun row member _ => ?_) ?_
  · rcases ends.rest row member with ⟨present, _⟩ | ⟨userId, upgrade, previous, cancelled⟩
    · exact ⟨row, present, .refl now row⟩
    · exact ⟨sub, ends.member, userId.symm, upgrade.symm, previous.symm, by simp [cancelled], by simp [cancelled]⟩
  · rcases moved with same | own
    · rcases restorable.home with home | ⟨holder, holds⟩
      · exact .inl (same.trans home)
      · by_cases ended : holder.id = sub.id
        · obtain rfl := Table.eq_of_key holds.member ends.member ended
          exact .inl (restored holds)
        · exact .inr ⟨holder, holds, ends.kept holder holds.member ended, same⟩
    · exact .inl own

theorem Restorable.wait : Restorable user group ⟨timeline.db, now⟩ :=
  restorable.descend later (fun row member _ => ⟨row, member, .refl now row⟩)
    (restorable.home.imp_right fun ⟨holder, holds⟩ => ⟨holder, holds, holds.member, rfl⟩)

end

/-- The condition on a purchase with an upgrade group: the user is in their own
group with no upgrade still marked active, and the subscription ends after it
starts. -/
def Apart (user : Int) (group : String) (db : Database) (env : Env) (userId : Int)
    (plan : SubscriptionPlan) : Prop :=
  userId = user → trimSpace plan.upgradeGroup ≠ "" →
    db.group user = some group ∧
    (∀ sub ∈ db.subscriptions, sub.userId = user → sub.upgradeGroup ≠ "" → sub.status ≠ .active) ∧
    0 ≤ env.now ∧ ∀ endUnix ∈ (calcPlanEndTime env.location env.now plan).toOption, env.now < endUnix

instance (user : Int) (group : String) (db : Database) (env : Env) (userId : Int)
    (plan : SubscriptionPlan) : Decidable (Apart user group db env userId plan) :=
  inferInstanceAs (Decidable (_ → _ → _ ∧ _ ∧ _ ∧ _))

section

variable {timeline : Timeline} {env : Env} {plan : SubscriptionPlan} (restorable : Restorable user group timeline)
  (later : timeline.clock ≤ env.now) (apart : Apart user group timeline.db env userId plan)
include restorable later apart

theorem upgrade_preserves_restorable (opened : Opened env timeline.db userId plan sub after)
    (upgrades : sub.upgrades user) :
    Restorable user group ⟨after, env.now⟩ := by
  obtain ⟨owner, upgraded⟩ := upgrades
  have user_eq : userId = user := opened.owner.symm.trans owner
  subst user_eq
  obtain ⟨home, idle, started, bound⟩ := apart rfl (opened.upgrade ▸ upgraded)
  have ends : env.now < sub.endTime := bound sub.endTime (by rw [opened.ends]; rfl)
  have reads : getUserGroupByIdTx timeline.db userId = group := by simp [getUserGroupByIdTx, home]
  have previous := opened.previous
  rw [reads] at previous
  have past : ∀ row ∈ after.subscriptions, row.upgrades userId → row.status = .expired →
      row.endTime ≤ timeline.clock := by
    intro row member own expired
    rcases (opened.rows row).mp member with present | rfl
    · exact restorable.past row present own expired
    · rw [opened.active] at expired
      cases expired
  refine ⟨?_, ?_, fun row member own expired => Int.le_trans (past row member own expired) later, ?_⟩
  · intro row member own
    rcases (opened.rows row).mp member with present | rfl
    · exact restorable.trimmed row present own
    · rw [opened.upgrade, trimSpace_idempotent]
  · intro row member own
    rcases (opened.rows row).mp member with present | rfl
    · exact restorable.stored row present own
    · rw [previous]
      split
      · exact .inr rfl
      · exact .inl rfl
  · cases moves : displaces timeline.db userId plan with
    | false =>
      refine .inl ?_
      simpa [opened.group, moves] using home
    | true =>
      simp only [displaces, reads, decide_eq_true_eq] at moves
      have displaced : displaces timeline.db userId plan = true := by simp [displaces, reads, moves]
      refine .inr ⟨sub, {
        member := (opened.rows sub).mpr (.inr rfl)
        upgrades := ⟨owner, upgraded⟩
        active := opened.active
        current := ?_
        displaced := by simpa [displaced] using previous
        different := opened.upgrade ▸ fun same => moves.2 same.symm
        valid := opened.valid
        ends := Int.lt_of_le_of_lt started ends
        only := ?_
        latest := ?_ }⟩
      · have group := setGroup_self home (trimSpace plan.upgradeGroup)
        simpa [opened.group, displaced, opened.upgrade] using group
      · intro row member own active
        rcases (opened.rows row).mp member with present | same
        · exact absurd active (idle row present own.1 own.2)
        · exact same
      · intro row member own expired
        have := past row member own expired
        omega

theorem purchase_preserves_restorable (source : String) :
    Restorable user group
      ⟨(createUserSubscriptionFromPlanTx env timeline.db userId plan source).2, env.now⟩ := by
  cases done : createUserSubscriptionFromPlanTx env timeline.db userId plan source with
  | mk answer after =>
    rcases create_cases done with rfl | ⟨sub, opened⟩
    · exact restorable.wait later
    by_cases upgrades : sub.upgrades user
    · exact upgrade_preserves_restorable restorable later apart opened upgrades
    -- a row without an upgrade, or of another user, is not looked at
    have old : ∀ row ∈ after.subscriptions, row.upgrades user → row ∈ timeline.db.subscriptions := by
      intro row member own
      rcases (opened.rows row).mp member with present | rfl
      · exact present
      · exact absurd own upgrades
    have same : after.group user = timeline.db.group user := by
      rw [opened.group]
      by_cases owner : userId = user
      · have blank : trimSpace plan.upgradeGroup = "" := by
          by_contra upgraded
          exact upgrades ⟨opened.owner.trans owner, opened.upgrade ▸ upgraded⟩
        simp [displaces, blank]
      · split
        · exact setGroup_other (fun same => owner same.symm) _ _
        · rfl
    exact restorable.descend later (fun row member own => ⟨row, old row member own, .refl _ row⟩)
      (restorable.home.imp same.trans fun ⟨holder, holds⟩ =>
        ⟨holder, holds, (opened.rows holder).mpr (.inl holds.member), same⟩)

end

instance : Std.Total fun left right => byEndTime right left where
  total left right := by
    simp only [byEndTime]
    omega

instance : IsTrans UserSubscription fun left right => byEndTime right left where
  trans left middle right := by
    simp only [byEndTime]
    omega

theorem lastExpired_mem {last : UserSubscription} (found : lastExpired db user = some last) :
    last ∈ db.subscriptions ∧ last.upgrades user ∧ last.status = .expired := by
  have present := List.mem_of_head? found
  rw [List.mem_insertionSort, List.mem_filter] at present
  simp only [Bool.and_eq_true, decide_eq_true_eq] at present
  exact ⟨present.1, ⟨present.2.1.1, present.2.2⟩, present.2.1.2⟩

theorem exists_head?_insertionSort {Item : Type} (before : Item → Item → Prop) [DecidableRel before]
    [Std.Total before] [IsTrans Item before] {items : List Item} {item : Item} (member : item ∈ items) :
    ∃ first, (items.insertionSort before).head? = some first ∧ (first = item ∨ before first item) := by
  have among := (List.mem_insertionSort before).mpr member
  have ordered := List.pairwise_insertionSort before items
  cases sorted : items.insertionSort before with
  | nil =>
    rw [sorted] at among
    cases among
  | cons first rest =>
    rw [sorted] at among ordered
    exact ⟨first, rfl, (List.mem_cons.mp among).imp Eq.symm ((List.pairwise_cons.mp ordered).1 item)⟩

theorem lastExpired_eq (member : sub ∈ db.subscriptions) (upgrades : sub.upgrades user)
    (expired : sub.status = .expired)
    (latest : ∀ other ∈ db.subscriptions, other.upgrades user → other.status = .expired →
      other = sub ∨ other.endTime < sub.endTime) : lastExpired db user = some sub := by
  have among : sub ∈ db.subscriptions.rows.filter fun sub =>
      sub.userId = user && sub.status = .expired && sub.upgradeGroup ≠ "" :=
    List.mem_filter.mpr ⟨member, by simp [upgrades.1, upgrades.2, expired]⟩
  obtain ⟨first, found, order⟩ := exists_head?_insertionSort (fun left right => byEndTime right left) among
  obtain ⟨present, own, ended⟩ := lastExpired_mem found
  rcases order with rfl | order
  · exact found
  · rcases latest first present own ended with rfl | earlier
    · exact found
    · simp only [byEndTime] at order
      omega

theorem expireRow_other (other : sub.userId ≠ userId) : expireRow now userId sub = sub := by
  simp [expireRow, other]

theorem expireRow_running (running : now < sub.endTime) : expireRow now userId sub = sub := by
  have : ¬ sub.endTime ≤ now := by omega
  simp [expireRow, expiryDue, this]

theorem expireRow_descends (now userId : Int) (sub : UserSubscription) :
    Descends now sub (expireRow now userId sub) := by
  unfold expireRow
  split
  · rename_i due
    have due : sub.status = .active ∧ sub.endTime > 0 ∧ sub.endTime ≤ now := of_decide_eq_true due.2
    exact ⟨rfl, rfl, rfl, by simp, fun _ => ⟨rfl, rfl, .inl ⟨due.1, due.2.2⟩⟩⟩
  · exact .refl now sub

@[simp] theorem markExpired_group (now userId : Int) (db : Database) :
    (markExpired now userId db).group = db.group := rfl

theorem expireUserTx_group_other (other : user ≠ userId) :
    (expireUserTx now db userId).group user = db.group user := by
  simp only [expireUserTx]
  split
  · rfl
  split
  · rfl
  split
  · rfl
  split
  · rfl
  · exact setGroup_other other _ _

theorem expireUserTx_keeps_group (holds : Holder user group db holder) (running : now < holder.endTime) :
    (expireUserTx now db user).group user = db.group user := by
  have active : (markExpired now user db).subscriptions.rows.any
      (fun sub => sub.userId = user && activeAt now sub && sub.upgradeGroup ≠ "") = true := by
    refine List.any_eq_true.mpr ⟨holder, mem_markExpired.mpr ⟨holder, holds.member, expireRow_running running⟩, ?_⟩
    simp [holds.upgrades.1, holds.upgrades.2, activeAt, holds.active, running]
  simp only [expireUserTx, active, ↓reduceIte]
  rfl

section

variable {timeline : Timeline} (trimmedGroup : trimSpace group = group) (named : group ≠ "")
  (restorable : Restorable user group timeline)
include trimmedGroup restorable

theorem downgrade_home
    (member : sub ∈ timeline.db.subscriptions) (before : Database) (ended : UserSubscription) (now : Int)
    (sameGroup : before.group = timeline.db.group) (sameUser : ended.userId = sub.userId)
    (sameUpgrade : ended.upgradeGroup = sub.upgradeGroup)
    (samePrevious : ended.prevUserGroup = sub.prevUserGroup) :
    (downgradeUserGroupForSubscriptionTx before ended now).2.group user = timeline.db.group user ∨
      (downgradeUserGroupForSubscriptionTx before ended now).2.group user = some group := by
  rcases downgrade_group before ended now user with same | ⟨own, upgraded, displaced, moved⟩
  · exact .inl (by rw [same, sameGroup])
  · have upgrades : sub.upgrades user := by
      refine ⟨sameUser ▸ own, fun blank => upgraded ?_⟩
      rw [sameUpgrade, blank, trimSpace_empty]
    obtain ⟨old, known⟩ : ∃ old, before.group user = some old := by
      rw [sameGroup]
      rcases restorable.home with home | ⟨holder, holds⟩
      · exact ⟨group, home⟩
      · exact ⟨_, holds.current⟩
    rcases restorable.stored sub member upgrades with blank | own
    · rw [samePrevious, blank, trimSpace_empty] at displaced
      exact absurd rfl displaced
    · rw [moved, setGroup_self known, samePrevious, own, trimmedGroup]
      exact .inr rfl

theorem expireUserTx_stays_home (home : timeline.db.group user = some group) :
    (expireUserTx now timeline.db user).group user = some group := by
  simp only [expireUserTx]
  split
  · exact home
  · split
    · exact home
    · rename_i last found
      obtain ⟨member, upgrades, _⟩ := lastExpired_mem found
      obtain ⟨old, present, rfl⟩ := mem_markExpired.mp member
      have descends := expireRow_descends now user old
      have reads : getUserGroupByIdTx (markExpired now user timeline.db) user = group := by
        simp [getUserGroupByIdTx, markExpired_group, home]
      simp only [reads, ← descends.previous]
      rcases restorable.stored old present (descends.upgrades upgrades) with blank | own
      · simp only [blank, trimSpace_empty, or_true, ↓reduceIte]
        exact home
      · simp only [own, trimmedGroup, or_true, ↓reduceIte]
        split <;> exact home

include named

/-- The holder has ended: it is the last expired upgrade, and its displaced group
is written back. -/
theorem expireUserTx_restores (holds : Holder user group timeline.db holder)
    (ended : holder.endTime ≤ now) :
    (expireUserTx now timeline.db user).group user = some group := by
  have marked : expireRow now user holder = { holder with status := .expired } := by
    simp [expireRow, expiryDue, holds.upgrades.1, holds.active, holds.ends, ended]
  have alone : ¬ (markExpired now user timeline.db).subscriptions.rows.any
      (fun sub => sub.userId = user && activeAt now sub && sub.upgradeGroup ≠ "") := by
    intro found
    obtain ⟨row, member, active⟩ := List.any_eq_true.mp found
    obtain ⟨old, present, rfl⟩ := mem_markExpired.mp member
    simp only [Bool.and_eq_true, decide_eq_true_eq, activeAt] at active
    have same := (expireRow_descends now user old).active active.1.2.1
    rw [same] at active
    rw [holds.only old present ⟨active.1.1, active.2⟩ active.1.2.1] at same active
    omega
  have last : lastExpired (markExpired now user timeline.db) user = some { holder with status := .expired } := by
    refine lastExpired_eq (mem_markExpired.mpr ⟨holder, holds.member, marked⟩) holds.upgrades rfl ?_
    intro other member upgrades expired
    obtain ⟨old, present, rfl⟩ := mem_markExpired.mp member
    have descends := expireRow_descends now user old
    have own := descends.upgrades upgrades
    obtain ⟨-, sameEnd, ⟨active, _⟩ | before⟩ := descends.expired expired
    · rw [holds.only old present own active, marked]
      exact .inl rfl
    · exact .inr (sameEnd ▸ holds.latest old present own before)
  have reads : getUserGroupByIdTx (markExpired now user timeline.db) user = holder.upgradeGroup := by
    simp [getUserGroupByIdTx, markExpired_group, holds.current]
  have trimmed := restorable.trimmed holder holds.member holds.upgrades
  simp only [expireUserTx, alone, last, reads, trimmed, holds.displaced, trimmedGroup, named,
    holds.upgrades.2, holds.different, or_self, ne_eq, not_true_eq_false, ↓reduceIte, Bool.false_eq_true]
  exact setGroup_self holds.current group

theorem expireUserTx_preserves_restorable (later : timeline.clock ≤ now) (userId : Int) :
    Restorable user group ⟨expireUserTx now timeline.db userId, now⟩ := by
  refine restorable.descend later (fun row member _ => ?_) ?_
  · rw [expireUserTx_subscriptions, mem_markExpired] at member
    obtain ⟨old, present, rfl⟩ := member
    exact ⟨old, present, expireRow_descends now userId old⟩
  have kept (holder : UserSubscription) (holds : Holder user group timeline.db holder)
      (unchanged : expireRow now userId holder = holder) :
      holder ∈ (expireUserTx now timeline.db userId).subscriptions := by
    rw [expireUserTx_subscriptions, mem_markExpired]
    exact ⟨holder, holds.member, unchanged⟩
  rcases restorable.home with home | ⟨holder, holds⟩
  · refine .inl ?_
    by_cases owner : user = userId
    · exact owner ▸ expireUserTx_stays_home trimmedGroup restorable home
    · exact (expireUserTx_group_other owner).trans home
  · by_cases owner : user = userId
    · subst owner
      by_cases running : now < holder.endTime
      · exact .inr ⟨holder, holds, kept holder holds (expireRow_running running),
          expireUserTx_keeps_group holds running⟩
      · exact .inl (expireUserTx_restores trimmedGroup named restorable holds (by omega))
    · have other : holder.userId ≠ userId := fun same => owner (holds.upgrades.1.symm.trans same)
      exact .inr ⟨holder, holds, kept holder holds (expireRow_other other), expireUserTx_group_other owner⟩

variable {env : Env} (later : timeline.clock ≤ env.now)
include later

theorem expire_preserves_restorable (limit : Int) :
    Restorable user group ⟨expireDueSubscriptions env timeline.db limit, env.now⟩ := by
  simp only [expireDueSubscriptions]
  generalize dueUsers env.now timeline.db limit = users
  have start := restorable.wait later
  generalize timeline.db = db at start
  induction users generalizing db with
  | nil => exact start
  | cons userId rest ih =>
    exact ih _ (expireUserTx_preserves_restorable trimmedGroup named start (Int.le_refl _) userId)

theorem invalidate_preserves_restorable (id : Int) :
    Restorable user group ⟨(adminInvalidateUserSubscription env timeline.db id).2, env.now⟩ := by
  simp only [adminInvalidateUserSubscription]
  split
  · exact restorable.wait later
  split
  · exact restorable.wait later
  rename_i sub found
  obtain ⟨member, _⟩ := Table.lookup_eq_some.mp found
  generalize shape : ({ sub with status := .cancelled, endTime := env.now } : UserSubscription) = cancelled
  have key : cancelled.id = sub.id := by rw [← shape]
  have rows := downgrade_subscriptions (timeline.db.saveSubscription cancelled) cancelled env.now
  have moved := downgrade_home trimmedGroup restorable member (timeline.db.saveSubscription cancelled)
    cancelled env.now rfl (by rw [← shape]) (by rw [← shape]) (by rw [← shape])
  have restored : Holder user group timeline.db sub →
      (downgradeUserGroupForSubscriptionTx (timeline.db.saveSubscription cancelled) cancelled
        env.now).2.group user = some group := by
    intro holds
    have alone : ∀ other ∈ (timeline.db.saveSubscription cancelled).subscriptions, other.upgrades user →
        other.status = .active → other.id = cancelled.id := by
      intro other present upgrades active
      rcases Table.mem_save.mp present with ⟨rfl, _⟩ | ⟨kept, _⟩
      · rfl
      · rw [holds.only other kept upgrades active, key]
    have trimmed := restorable.trimmed sub member holds.upgrades
    subst shape
    exact downgrade_restores trimmedGroup named holds.upgrades trimmed holds.current holds.displaced
      holds.different alone
  generalize downgradeUserGroupForSubscriptionTx (timeline.db.saveSubscription cancelled) cancelled
    env.now = outcome at rows moved restored ⊢
  have ends : Ends sub timeline.db outcome.2 := by
    refine ⟨member, ?_, ?_⟩
    · intro row present other
      rw [rows, Database.saveSubscription_subscriptions]
      exact Table.mem_save.mpr (.inr ⟨present, key.symm ▸ other⟩)
    · intro row present
      rw [rows] at present
      rcases Table.mem_save.mp present with ⟨rfl, _⟩ | ⟨kept, other⟩
      · exact .inr ⟨by rw [← shape], by rw [← shape], by rw [← shape], by rw [← shape]⟩
      · exact .inl ⟨kept, key ▸ other⟩
  exact ends_preserves_restorable restorable later ends moved restored

theorem delete_preserves_restorable (id : Int) :
    Restorable user group ⟨(adminDeleteUserSubscription env timeline.db id).2, env.now⟩ := by
  simp only [adminDeleteUserSubscription]
  split
  · exact restorable.wait later
  split
  · exact restorable.wait later
  rename_i sub found
  obtain ⟨member, rfl⟩ := Table.lookup_eq_some.mp found
  have rows := downgrade_subscriptions timeline.db sub env.now
  have ends : Ends sub timeline.db
      ((downgradeUserGroupForSubscriptionTx timeline.db sub env.now).2.deleteSubscription sub.id) := by
    refine ⟨member, ?_, ?_⟩
    · intro row present other
      rw [Database.mem_deleteSubscription, rows]
      exact ⟨present, other⟩
    · intro row present
      rw [Database.mem_deleteSubscription, rows] at present
      exact .inl present
  refine ends_preserves_restorable restorable later ends ?_ ?_
  · exact downgrade_home trimmedGroup restorable member timeline.db sub env.now rfl rfl rfl rfl
  · intro holds
    rw [Database.deleteSubscription_group]
    refine downgrade_restores trimmedGroup named holds.upgrades
      (restorable.trimmed sub member holds.upgrades) holds.current holds.displaced holds.different ?_
    intro other present upgrades active
    rw [holds.only other present upgrades active]

end

theorem expireUsers_active {row : UserSubscription} (users : List Int) (db : Database)
    (member : row ∈ (users.foldl (expireUserTx now) db).subscriptions) (active : row.status = .active) :
    row ∈ db.subscriptions ∧ (row.userId ∈ users → expiryDue now row = false) := by
  induction users generalizing db with
  | nil => exact ⟨member, fun among => absurd among List.not_mem_nil⟩
  | cons userId rest ih =>
    obtain ⟨present, rested⟩ := ih (expireUserTx now db userId) member
    rw [expireUserTx_subscriptions, mem_markExpired] at present
    obtain ⟨old, stored, rfl⟩ := present
    have kept := (expireRow_descends now userId old).active active
    refine ⟨kept.symm ▸ stored, fun among => ?_⟩
    rcases List.mem_cons.mp among with owner | later
    · rw [kept] at owner active ⊢
      by_contra due
      have marked : expireRow now userId old = { old with status := .expired } := by
        simp [expireRow, owner, due]
      rw [← kept, marked] at active
      cases active
    · exact rested later

theorem mem_dueUsers {limit : Int} (member : sub ∈ db.subscriptions) (due : expiryDue now sub = true)
    (valid : 0 < sub.userId)
    (complete : (db.subscriptions.rows.filter (expiryDue now)).length ≤ batchSize limit) :
    sub.userId ∈ dueUsers now db limit := by
  have whole : ((db.subscriptions.rows.filter (expiryDue now)).insertionSort byEndTime).take
      (batchSize limit) = (db.subscriptions.rows.filter (expiryDue now)).insertionSort byEndTime := by
    apply List.take_of_length_le
    rw [List.length_insertionSort]
    exact complete
  rw [dueUsers, whole, List.mem_filter, List.mem_dedup]
  refine ⟨List.mem_map_of_mem ?_, by simpa using valid⟩
  rw [List.mem_insertionSort, List.mem_filter]
  exact ⟨member, due⟩

/-- The clock does not go back, and upgrades are bought one after the other. -/
def GroupEvent.Orderly (user : Int) (group : String) (timeline : Timeline) (event : GroupEvent) : Prop :=
  timeline.clock ≤ event.now ∧
    match event with
    | .purchase env userId plan _ => Apart user group timeline.db env userId plan
    | _ => True

instance (user : Int) (group : String) (timeline : Timeline) :
    (event : GroupEvent) → Decidable (event.Orderly user group timeline)
  | .purchase .. => inferInstanceAs (Decidable (_ ∧ Apart ..))
  | .expire .. | .invalidate .. | .delete .. => inferInstanceAs (Decidable (_ ∧ True))

theorem step_preserves_restorable (trimmedGroup : trimSpace group = group) (named : group ≠ "")
    (timeline : Timeline) (event : GroupEvent) (restorable : Restorable user group timeline)
    (orderly : event.Orderly user group timeline) : Restorable user group (timeline.step event) := by
  obtain ⟨later, apart⟩ := orderly
  cases event with
  | purchase env userId plan source => exact purchase_preserves_restorable restorable later apart source
  | expire env limit => exact expire_preserves_restorable trimmedGroup named restorable later limit
  | invalidate env id => exact invalidate_preserves_restorable trimmedGroup named restorable later id
  | delete env id => exact delete_preserves_restorable trimmedGroup named restorable later id

/-- A user who starts in `group` without subscriptions is back in it after every
orderly run, once no upgrade is active and unexpired and a last expiry has
taken all due rows. -/
theorem user_group_restored (trimmedGroup : trimSpace group = group) (named : group ≠ "")
    (start : Timeline) (home : start.db.group user = some group)
    (unsubscribed : ∀ sub ∈ start.db.subscriptions, sub.userId ≠ user) (events : List GroupEvent)
    (orderly : Guarded Timeline.step (fun timeline event => event.Orderly user group timeline) start events)
    (env : Env) (limit : Int) (later : (run Timeline.step start events).clock ≤ env.now)
    (ended : ∀ sub ∈ (run Timeline.step start events).db.subscriptions, sub.userId = user →
      sub.upgradeGroup ≠ "" → activeAt env.now sub = false)
    (complete : ((run Timeline.step start events).db.subscriptions.rows.filter
      (expiryDue env.now)).length ≤ batchSize limit) :
    (expireDueSubscriptions env (run Timeline.step start events).db limit).group user = some group := by
  have opening : Restorable user group start := {
    trimmed := fun sub member own => absurd own.1 (unsubscribed sub member)
    stored := fun sub member own => absurd own.1 (unsubscribed sub member)
    past := fun sub member own => absurd own.1 (unsubscribed sub member)
    home := .inl home }
  have reached := Guarded.invariant (step_preserves_restorable trimmedGroup named) opening orderly
  have final := expire_preserves_restorable trimmedGroup named reached later limit
  rcases final.home with restored | ⟨holder, holds⟩
  · exact restored
  obtain ⟨present, idle⟩ := expireUsers_active _ _ holds.member holds.active
  have elapsed := ended holder present holds.upgrades.1 holds.upgrades.2
  have due : expiryDue env.now holder = true := by
    simp only [activeAt, decide_eq_false_iff_not, not_and] at elapsed
    have := elapsed holds.active
    simp only [expiryDue, decide_eq_true_eq]
    exact ⟨holds.active, holds.ends, by omega⟩
  have among := mem_dueUsers present due (holds.upgrades.1 ▸ holds.valid) complete
  rw [idle among] at due
  cases due

def newcomer : Timeline := ⟨.empty fun id => if id = 7 then some "default" else none, 0⟩

def buyVip (now : Int) : GroupEvent :=
  .purchase (utcAt now (thirtyDays "vip" "never")) 7 (thirtyDays "vip" "never") "order"

def withVipPlan (now : Int) : Env := utcAt now (thirtyDays "vip" "never")

theorem user_group_restored_after_two_upgrades :
    let events := [buyVip 1000, .expire (withVipPlan 3000000) 0, buyVip 3000001, .invalidate (withVipPlan 3000002) 2,
      buyVip 3000003]
    (expireDueSubscriptions (withVipPlan 9000000) (run Timeline.step newcomer events).db 0).group 7 =
      some "default" :=
  user_group_restored (by decide +kernel) (by decide) newcomer rfl
    (fun _ member => absurd member Table.not_mem_empty) _ (by decide +kernel) (withVipPlan 9000000) 0
    (by decide +kernel) (by decide +kernel) (by decide +kernel)

/-- The same plan bought twice: the second row has displaced nothing, it expires
last, and the user keeps the group. -/
theorem user_group_kept_after_buying_twice :
    let db := (run Timeline.step newcomer [buyVip 1000, buyVip 2000]).db
    newcomer.db.group 7 = some "default" ∧
      db.subscriptions.rows.all (fun sub => !activeAt 9000000 sub) = true ∧
      (db.subscriptions.rows.filter (expiryDue 9000000)).length ≤ batchSize 0 ∧
      (expireDueSubscriptions (withVipPlan 9000000) db 0).group 7 = some "vip" := by
  decide +kernel

end TokenFactory.Subscription
