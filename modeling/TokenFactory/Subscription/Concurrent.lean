import TokenFactory.Data.Interleaving
import TokenFactory.Subscription.Bounds

namespace TokenFactory.Subscription

open Data Go

/-! Concurrent charges of subscriptions. -/

inductive Charge where
  | preConsume (env : Env) (requestId : String) (userId amount : Int)
  | postConsume (id delta : Int)

structure ChargeReads where
  existing : Option SubscriptionPreConsumeRecord := none
  recorded : Option UserSubscription := none
  rows : List UserSubscription
deriving DecidableEq

/-- `resets` are the rows that a reset check has changed; they are saved before
the record is created and the charged row is saved. -/
structure ChargeWrites where
  resets : List UserSubscription := []
  record : Option SubscriptionPreConsumeRecord := none
  row : UserSubscription

inductive ChargeRow where
  | subscription (id : Int)
  | record (requestId : String)
deriving DecidableEq

namespace Charge

def amount : Charge → Int
  | .preConsume _ _ _ amount => amount
  | .postConsume _ delta => delta

def read (db : Database) : Charge → ChargeReads
  | .preConsume env requestId userId _ => {
      existing := db.record? requestId
      recorded := (db.record? requestId).bind fun record => db.subscription? record.userSubscriptionId
      rows := candidates env db userId }
  | .postConsume id _ => { rows := (db.subscription? id).toList }

def changed (rows : List UserSubscription) (checks : List ResetCheck) : List UserSubscription :=
  (checks.map ResetCheck.sub).filter fun sub => sub ∉ rows

theorem positive_of_checked {amount : Int} (checked : ¬ amount ≤ 0) : 0 < amount := Int.not_le.mp checked

def writes (seen : ChargeReads) : Charge → Except TxError (Option ChargeWrites)
  | .preConsume env requestId userId amount =>
    if userId ≤ 0 then .error (.message "invalid userId")
    else if trimSpace requestId = "" then .error (.message "requestId is empty")
    else if checked : amount ≤ 0 then .error (.message "amount must be > 0")
    else
      match seen.existing with
      | some existing =>
        if existing.status = .refunded then
          .error (.message "subscription pre-consume already refunded")
        else
          match seen.recorded with
          | none => .error (.message "record not found")
          | some _ => .ok none
      | none =>
        if seen.rows.isEmpty then .error (.message "no active subscription")
        else
          match selectCandidate env amount seen.rows with
          | .error reason => .error reason
          | .ok (passed, chosen) => .ok (some {
              resets := changed seen.rows (passed ++ [chosen])
              record := some {
                requestId
                userId
                userSubscriptionId := chosen.sub.id
                preConsumed := amount
                status := .consumed
                positive := positive_of_checked checked }
              row := chosen.charge amount })
  | .postConsume id delta =>
    if id ≤ 0 then .error (.message "invalid userSubscriptionId")
    else if delta = 0 then .ok none
    else
      match seen.rows.head? with
      | none => .error (.message "record not found")
      | some sub =>
        match usedAfter sub delta with
        | none => .error (.message ("subscription used exceeds total, used=" ++
            toString (max (sub.amountUsed + delta) 0) ++ " total=" ++ toString sub.amountTotal))
        | some newUsed => .ok (some { row := { sub with amountUsed := newUsed } })

end Charge

def Database.saveRows (db : Database) (rows : List UserSubscription) : Database :=
  rows.foldl Database.saveSubscription db

namespace ChargeWrites

def rows (writes : ChargeWrites) : List ChargeRow :=
  writes.resets.map (fun sub => .subscription sub.id) ++
    writes.record.toList.map (fun record => .record record.requestId) ++ [.subscription writes.row.id]

/-- The unique index refuses a record that another transaction has created since;
the call then answers from that record and charges nothing. -/
def commit (writes : ChargeWrites) (db : Database) : Except TxError Unit × Database :=
  let reset := db.saveRows writes.resets
  match writes.record with
  | none => (.ok (), reset.saveSubscription writes.row)
  | some record =>
    match db.record? record.requestId with
    | none => (.ok (), (reset.saveSubscription writes.row).createRecord record)
    | some created =>
      if created.status = .refunded then
        (.error (.message "subscription pre-consume already refunded"), db)
      else (.ok (), reset)

end ChargeWrites

def charging : Protocol Database Charge ChargeReads ChargeRow (Except TxError Unit) where
  read := Charge.read
  rows charge seen :=
    match charge.writes seen with
    | .ok (some writes) => writes.rows
    | _ => []
  commit db charge seen :=
    match charge.writes seen with
    | .error reason => (.error reason, db)
    | .ok none => (.ok (), db)
    | .ok (some writes) => writes.commit db

namespace Database

theorem saveSubscription_of_mem {db : Database} {row : UserSubscription} (member : row ∈ db.subscriptions) :
    db.saveSubscription row = db := by
  have same := Table.save_of_mem member
  cases db
  simp only [saveSubscription, mk.injEq, and_true]
  exact same

theorem saveSubscription_twice (db : Database) {first second : UserSubscription}
    (same : first.id = second.id) :
    (db.saveSubscription first).saveSubscription second = db.saveSubscription second := by
  simp only [saveSubscription, Table.save_save same]

theorem saveRows_append (db : Database) (first second : List UserSubscription) :
    db.saveRows (first ++ second) = (db.saveRows first).saveRows second :=
  List.foldl_append

end Database

theorem saveRows_changed {db : Database} {rows : List UserSubscription} {checks : List ResetCheck}
    (distinct : ((checks.map ResetCheck.sub).map UserSubscription.id).Nodup)
    (present : ∀ check ∈ checks, check.sub ∈ rows → check.sub ∈ db.subscriptions) :
    db.saveRows (Charge.changed rows checks) = db.saveChecks checks := by
  induction checks generalizing db with
  | nil => rfl
  | cons check rest ih =>
    rw [List.map_cons, List.map_cons, List.nodup_cons] at distinct
    have step : db.saveChecks (check :: rest) = (db.saveSubscription check.sub).saveChecks rest := rfl
    by_cases read : check.sub ∈ rows
    · have skipped : Charge.changed rows (check :: rest) = Charge.changed rows rest := by
        simp [Charge.changed, read]
      rw [skipped, step, Database.saveSubscription_of_mem (present check (.head _) read)]
      exact ih distinct.2 fun other among => present other (.tail _ among)
    · have saved : Charge.changed rows (check :: rest) = check.sub :: Charge.changed rows rest := by
        simp [Charge.changed, read]
      rw [saved, step]
      apply ih distinct.2
      intro other among unchanged
      refine Table.mem_save.mpr (.inr ⟨present other (.tail _ among) unchanged, ?_⟩)
      intro same
      exact distinct.1 (List.mem_map.mpr ⟨other.sub, List.mem_map_of_mem among, same⟩)

/-- The rows that a charge leaves are the same whether the row it charges was
saved by its reset check before or not. -/
theorem commit_rows {db : Database} {rows : List UserSubscription} {passed : List ResetCheck}
    (chosen : ResetCheck) (amount : Int)
    (distinct : ((passed.map ResetCheck.sub).map UserSubscription.id).Nodup)
    (present : ∀ row ∈ rows, row ∈ db.subscriptions) :
    (db.saveRows (Charge.changed rows (passed ++ [chosen]))).saveSubscription (chosen.charge amount) =
      (db.saveChecks passed).saveSubscription (chosen.charge amount) := by
  have split : Charge.changed rows (passed ++ [chosen]) =
      Charge.changed rows passed ++ Charge.changed rows [chosen] := by
    simp only [Charge.changed, List.map_append, List.filter_append]
  rw [split, Database.saveRows_append, saveRows_changed distinct fun check _ => present check.sub]
  by_cases read : chosen.sub ∈ rows
  · simp [Charge.changed, read, Database.saveRows]
  · have saved : Charge.changed rows [chosen] = [chosen.sub] := by simp [Charge.changed, read]
    rw [saved]
    exact Database.saveSubscription_twice _ rfl

theorem atomically_preConsume (db : Database) (env : Env) (requestId : String) (userId amount : Int) :
    charging.atomically db (.preConsume env requestId userId amount) =
      ((preConsumeUserSubscription env none db requestId userId amount).1.map fun _ => (),
        (preConsumeUserSubscription env none db requestId userId amount).2) := by
  simp only [Protocol.atomically, charging, Charge.read, Charge.writes, preConsumeUserSubscription]
  by_cases user : userId ≤ 0
  · simp only [user, ↓reduceIte]; rfl
  by_cases named : trimSpace requestId = ""
  · simp only [user, named, ↓reduceIte]; rfl
  by_cases checked : amount ≤ 0
  · simp only [user, named, checked, ↓reduceIte, ↓reduceDIte]; rfl
  simp only [user, named, checked, ↓reduceIte, ↓reduceDIte]
  cases found : db.record? requestId with
  | some existing =>
    simp only [Option.bind_some]
    by_cases refunded : existing.status = .refunded
    · simp only [refunded, ↓reduceIte]; rfl
    · simp only [refunded, ↓reduceIte]
      cases db.subscription? existing.userSubscriptionId with
      | none => rfl
      | some sub => rfl
  | none =>
    by_cases empty : (candidates env db userId).isEmpty = true
    · simp only [empty, ↓reduceIte]; rfl
    simp only [empty, Bool.false_eq_true, ↓reduceIte]
    cases selected : selectCandidate env amount (candidates env db userId) with
    | error reason => rfl
    | ok pair =>
      obtain ⟨passed, chosen⟩ := pair
      obtain ⟨skipped, row, rest, shape, checks, _⟩ := selectCandidate_ok selected
      have distinct : ((candidates env db userId).map UserSubscription.id).Nodup := candidates_distinct
      rw [shape, List.map_append, ← checks_ids checks] at distinct
      have present : ∀ row ∈ candidates env db userId, row ∈ db.subscriptions := fun row member =>
        (mem_candidates.mp member).1
      have rows := commit_rows chosen amount distinct.of_append_left present
      simp only [ChargeWrites.commit, found, rows]
      rfl

theorem atomically_postConsume (db : Database) (id delta : Int) :
    charging.atomically db (.postConsume id delta) = postConsumeUserSubscriptionDelta none db id delta := by
  simp only [Protocol.atomically, charging, Charge.read, Charge.writes, postConsumeUserSubscriptionDelta]
  by_cases valid : id ≤ 0
  · simp only [valid, ↓reduceIte]
  by_cases idle : delta = 0
  · simp only [valid, idle, ↓reduceIte]
  simp only [valid, idle, ↓reduceIte]
  cases db.subscription? id with
  | none => rfl
  | some sub =>
    simp only [Option.toList_some, List.head?_cons]
    cases usedAfter sub delta with
    | none => rfl
    | some newUsed => rfl

/-- What an entry of the log stands for: the amount of a call that returned success. -/
def credit (entry : Charge × Except TxError Unit) : Int :=
  match entry.2 with
  | .ok () => entry.1.amount
  | .error _ => 0

/-- A charge of the subscription `id` that counts in full when it succeeds: the
request is new and no reset is due, or the delta does not pass below zero. -/
def Charge.Counts (id : Int) (db : Database) : Charge → Prop
  | .preConsume env requestId userId _ =>
    db.record? requestId = none ∧ ∀ row ∈ candidates env db userId, row.id = id ∧
      ∀ check ∈ checkRow env row, check.advanced = false
  | .postConsume target delta => target = id ∧ ∀ row ∈ db.subscription? id, 0 ≤ row.amountUsed + delta

instance (id : Int) (db : Database) (charge : Charge) : Decidable (charge.Counts id db) :=
  match charge with
  | .preConsume _ _ _ _ => inferInstanceAs (Decidable (_ ∧ ∀ row ∈ _, _ ∧ ∀ check ∈ checkRow _ row, _))
  | .postConsume _ _ => inferInstanceAs (Decidable (_ ∧ ∀ row ∈ Database.subscription? _ _, _))

def Database.HasUsed (db : Database) (id used : Int) : Prop :=
  ∃ row, db.subscription? id = some row ∧ row.amountUsed = used

theorem postConsume_counts {db : Database} {id delta used : Int} (held : db.HasUsed id used)
    (counts : (Charge.postConsume id delta).Counts id db) :
    (charging.atomically db (.postConsume id delta)).2.HasUsed id
      (used + credit (.postConsume id delta, (charging.atomically db (.postConsume id delta)).1)) := by
  obtain ⟨row, found, rfl⟩ := held
  have above := counts.2 row found
  rw [atomically_postConsume]
  cases done : postConsumeUserSubscriptionDelta none db id delta with
  | mk answer after =>
    rcases postConsume_cases done with ⟨rfl, idle⟩ | ⟨sub, newUsed, own, accepted, rfl, rfl⟩
    · cases answer with
      | error reason => exact ⟨row, found, (Int.add_zero _).symm⟩
      | ok nothing =>
        refine ⟨row, found, ?_⟩
        simp only [credit, Charge.amount, idle rfl, Int.add_zero]
    · cases found.symm.trans own
      have changed := (usedAfter_eq_some.mp accepted).1
      have same := Table.key_of_lookup found
      refine ⟨{ row with amountUsed := newUsed }, Table.lookup_save_self found same, ?_⟩
      simp only [credit, Charge.amount]
      omega

theorem preConsume_counts {db : Database} {env : Env} {requestId : String} {userId amount id used : Int}
    (held : db.HasUsed id used)
    (counts : (Charge.preConsume env requestId userId amount).Counts id db) :
    (charging.atomically db (.preConsume env requestId userId amount)).2.HasUsed id
      (used + credit (.preConsume env requestId userId amount,
        (charging.atomically db (.preConsume env requestId userId amount)).1)) := by
  obtain ⟨free, alone⟩ := counts
  rw [atomically_preConsume]
  cases done : preConsumeUserSubscription env none db requestId userId amount with
  | mk answer after =>
    cases answer with
    | error reason =>
      rw [preConsume_error done]
      simpa [credit, Except.map] using held
    | ok result =>
      obtain ⟨passed, row, chosen, charge, _⟩ := preConsume_fresh free done
      obtain ⟨rfl, current⟩ := alone row (mem_candidates.mpr ⟨charge.member, charge.owner, charge.active⟩)
      obtain ⟨stored, found, rfl⟩ := held
      have own : stored = row :=
        Table.eq_of_key (Table.mem_of_lookup found) charge.member (Table.key_of_lookup found)
      obtain ⟨last, next, checked⟩ := checkRow_of charge.checked
      have kept : chosen.sub.amountUsed = row.amountUsed := by
        rw [checked, current chosen charge.checked]
        rfl
      refine ⟨chosen.charge amount, charge.charged, ?_⟩
      rw [own, ← kept]
      rfl

theorem atomically_counts {db : Database} {charge : Charge} {id used : Int} (held : db.HasUsed id used)
    (counts : charge.Counts id db) :
    (charging.atomically db charge).2.HasUsed id (used + credit (charge, (charging.atomically db charge).1)) := by
  cases charge with
  | preConsume env requestId userId amount => exact preConsume_counts held counts
  | postConsume target delta =>
    obtain rfl := counts.1
    exact postConsume_counts held counts

/-- As long as every charge commits on the rows it has read, the usage of the
subscription grows by exactly what the successful calls report. -/
theorem concurrent_charges_counted (id : Int) (db : Database) (row : UserSubscription)
    (found : db.subscription? id = some row) (charges : List Charge) (turns : List Turn)
    (serial : Guarded (Interleaving.step charging)
      (fun state turn => state.Serial charging (fun db charge => charge.Counts id db) turn)
      (.start db charges) turns) :
    let final := run (Interleaving.step charging) (.start db charges) turns
    ∃ after, final.store.subscription? id = some after ∧
      after.amountUsed = row.amountUsed + (final.log.map credit).sum := by
  have preserved : ∀ (log : List (Charge × Except TxError Unit)) (db : Database) (charge : Charge),
      db.HasUsed id (row.amountUsed + (log.map credit).sum) → charge.Counts id db →
      (charging.atomically db charge).2.HasUsed id
        (row.amountUsed + ((log ++ [(charge, (charging.atomically db charge).1)]).map credit).sum) := by
    intro log db charge held counts
    have moved := atomically_counts held counts
    rw [Int.add_assoc] at moved
    simpa only [List.map_append, List.map_singleton, List.sum_append, List.sum_singleton] using moved
  have initial : db.HasUsed id (row.amountUsed + (List.map credit []).sum) :=
    ⟨row, found, (Int.add_zero _).symm⟩
  exact Interleaving.serial_invariant preserved initial serial

/-! Two requests of one user and a settlement, on a subscription with room for all
of them. -/

def halfUsed : UserSubscription where
  id := 1
  userId := 7
  planId := 1
  amountTotal := 100
  amountUsed := 10
  startTime := 1000
  endTime := 9000
  status := .active
  source := "order"
  lastResetTime := 0
  nextResetTime := 0
  upgradeGroup := ""
  prevUserGroup := ""

def oneSubscription : Database where
  subscriptions := ⟨[halfUsed], by decide⟩
  records := .empty
  group := fun _ => some "default"
  nextId := 2
  started := by decide
  assigned := by decide

def twoCharges : List Charge :=
  [.preConsume (utcAt 2000 (thirtyDays "" "never")) "first" 7 5,
    .preConsume (utcAt 2000 (thirtyDays "" "never")) "second" 7 5]

def oneAfterTheOther : List Turn :=
  [.read 0, .write 0, .write 0, .commit 0, .read 1, .write 1, .write 1, .commit 1]

def bothRead : List Turn :=
  [.read 0, .read 1, .write 0, .write 0, .commit 0, .write 1, .write 1, .commit 1]

theorem concurrent_charges_counted_serial :
    let final := run (Interleaving.step charging) (.start oneSubscription twoCharges) oneAfterTheOther
    ∃ after, final.store.subscription? 1 = some after ∧ after.amountUsed = 10 + (final.log.map credit).sum :=
  concurrent_charges_counted 1 oneSubscription halfUsed (by decide +kernel) twoCharges oneAfterTheOther
    (by decide +kernel)

/-- The second request saves the row as it was before the first one charged it. -/
theorem concurrent_charge_lost :
    let final := run (Interleaving.step charging) (.start oneSubscription twoCharges) bothRead
    final.log.map (fun entry => entry.2.toBool) = [true, true] ∧
      (final.log.map credit).sum = 10 ∧
      (final.store.subscription? 1).map UserSubscription.amountUsed = some 15 := by
  decide +kernel

end TokenFactory.Subscription
