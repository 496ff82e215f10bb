import TokenFactory.Subscription.Transactions

namespace TokenFactory.Subscription

open Data Go

/-! What a transaction may do to a subscription row.

Every transaction is read once here, and what it does to the rows is stated as
a sequence of `RowChange`s. An invariant of single rows is then shown for the
changes and for new rows only. -/

variable {env : Env} {db after : Database} {sub row : UserSubscription} {check : ResetCheck}
  {requestId : String} {userId amount : Int} {fault : Option String}

/-- The row a reset check leaves behind. -/
def ResetCheck.Of (check : ResetCheck) (sub : UserSubscription) : Prop :=
  ∃ last next, check.sub = { sub with
    amountUsed := if check.advanced then 0 else sub.amountUsed
    lastResetTime := last
    nextResetTime := next }

variable {plan : SubscriptionPlan}

theorem maybeReset_of
    (checked : maybeResetUserSubscriptionWithPlanTx env sub plan = some check) : check.Of sub := by
  unfold maybeResetUserSubscriptionWithPlanTx at checked
  split at checked
  · cases checked
    exact ⟨sub.lastResetTime, sub.nextResetTime, rfl⟩
  split at checked
  · cases checked
    exact ⟨sub.lastResetTime, sub.nextResetTime, rfl⟩
  dsimp only at checked
  split at checked
  · cases checked
  · split at checked <;> cases checked
    · exact ⟨_, _, rfl⟩
    · exact ⟨sub.lastResetTime, sub.nextResetTime, rfl⟩
  · cases checked
    exact ⟨_, _, rfl⟩

def checkRow (env : Env) (sub : UserSubscription) : Option ResetCheck :=
  (env.plan sub.planId).bind (maybeResetUserSubscriptionWithPlanTx env sub)

theorem checkRow_of (checked : checkRow env sub = some check) : check.Of sub := by
  obtain ⟨plan, _, checked⟩ := Option.bind_eq_some_iff.mp checked
  exact maybeReset_of checked

theorem ResetCheck.Of.id (checked : check.Of sub) : check.sub.id = sub.id := by
  obtain ⟨last, next, same⟩ := checked
  rw [same]

inductive RowChange : UserSubscription → UserSubscription → Prop where
  | checked {sub : UserSubscription} {check : ResetCheck} (checked : check.Of sub) :
      RowChange sub check.sub
  | charged {sub : UserSubscription} {amount : Int} (positive : 0 < amount)
      (room : lacksQuota amount sub = false) :
      RowChange sub { sub with amountUsed := sub.amountUsed + amount }
  | settled {sub : UserSubscription} {delta newUsed : Int}
      (accepted : usedAfter sub delta = some newUsed) :
      RowChange sub { sub with amountUsed := newUsed }
  | expired {sub : UserSubscription} : RowChange sub { sub with status := .expired }
  | cancelled {sub : UserSubscription} {now : Int} :
      RowChange sub { sub with status := .cancelled, endTime := now }

abbrev RowRun : UserSubscription → UserSubscription → Prop := Relation.ReflTransGen RowChange

/-- Every row comes from a row of the database before, or from a new row. -/
def Database.Evolves (before after : Database) : Prop :=
  ∀ row ∈ after.subscriptions, ∃ origin, RowRun origin row ∧
    (origin ∈ before.subscriptions ∨ origin.amountUsed = 0)

namespace Database.Evolves

theorem refl (db : Database) : db.Evolves db := fun row member => ⟨row, .refl, .inl member⟩

theorem trans {before middle after : Database} (first : before.Evolves middle)
    (second : middle.Evolves after) : before.Evolves after := by
  intro row member
  obtain ⟨between, later, present | opened⟩ := second row member
  · obtain ⟨origin, earlier, source⟩ := first between present
    exact ⟨origin, earlier.trans later, source⟩
  · exact ⟨between, later, .inr opened⟩

theorem of_subscriptions {before after : Database}
    (same : after.subscriptions = before.subscriptions) : before.Evolves after := by
  intro row member
  rw [same] at member
  exact ⟨row, .refl, .inl member⟩

theorem saveSubscription {old : UserSubscription} (member : old ∈ db.subscriptions)
    (changed : RowRun old row) : db.Evolves (db.saveSubscription row) := by
  intro saved present
  rcases Table.mem_save.mp present with ⟨rfl, _⟩ | ⟨kept, _⟩
  · exact ⟨old, changed, .inl member⟩
  · exact ⟨saved, .refl, .inl kept⟩

theorem invariant {Holds : UserSubscription → Prop} (evolves : db.Evolves after)
    (opened : ∀ row, row.amountUsed = 0 → Holds row)
    (changed : ∀ before after, RowChange before after → Holds before → Holds after)
    (start : ∀ row ∈ db.subscriptions, Holds row) : ∀ row ∈ after.subscriptions, Holds row := by
  intro row member
  obtain ⟨origin, steps, source⟩ := evolves row member
  have holds : Holds origin := source.elim (start origin) (opened origin)
  clear member
  induction steps with
  | refl => exact holds
  | tail _ step ih => exact changed _ _ step ih

end Database.Evolves

variable {passed : List ResetCheck}

theorem selectCandidate_ok {rows : List UserSubscription}
    {chosen : ResetCheck} (selected : selectCandidate env amount rows = .ok (passed, chosen)) :
    ∃ skipped row rest, rows = skipped ++ row :: rest ∧
      List.Forall₂ (fun sub check => checkRow env sub = some check) skipped passed ∧
      checkRow env row = some chosen ∧ lacksQuota amount chosen.sub = false := by
  induction rows generalizing passed with
  | nil => cases selected
  | cons candidate rest ih =>
    unfold selectCandidate at selected
    cases found : env.plan candidate.planId with
    | none => simp [found] at selected
    | some plan =>
      cases checked : maybeResetUserSubscriptionWithPlanTx env candidate plan with
      | none => simp [found, checked] at selected
      | some check =>
        have own : checkRow env candidate = some check := by simp [checkRow, found, checked]
        simp only [found, checked] at selected
        cases full : lacksQuota amount check.sub with
        | false =>
          simp only [full, Bool.false_eq_true, ↓reduceIte] at selected
          cases selected
          exact ⟨[], candidate, rest, rfl, .nil, own, full⟩
        | true =>
          cases later : selectCandidate env amount rest with
          | error reason => simp [full, later] at selected
          | ok pair =>
            simp only [full, later, ↓reduceIte] at selected
            cases selected
            obtain ⟨skipped, row, tail, shape, checks, last, room⟩ := ih later
            exact ⟨candidate :: skipped, row, tail, by rw [shape, List.cons_append],
              .cons own checks, last, room⟩

theorem mem_candidates : sub ∈ candidates env db userId ↔
      sub ∈ db.subscriptions ∧ sub.userId = userId ∧ activeAt env.now sub = true := by
  simp [candidates, List.mem_insertionSort, Table.mem_rows]

theorem candidates_distinct : ((candidates env db userId).map UserSubscription.id).Nodup := by
  have sorted := (List.perm_insertionSort byEndTime (db.subscriptions.rows.filter fun sub =>
    sub.userId = userId && activeAt env.now sub)).map UserSubscription.id
  exact sorted.nodup_iff.mpr ((List.filter_sublist.map _).nodup db.subscriptions.unique)

def ResetCheck.charge (check : ResetCheck) (amount : Int) : UserSubscription :=
  { check.sub with amountUsed := check.sub.amountUsed + amount }

theorem saveChecks_subscriptions (db : Database) (checks : List ResetCheck) :
    (db.saveChecks checks).subscriptions = db.subscriptions.saveAll (checks.map ResetCheck.sub) := by
  induction checks generalizing db with
  | nil => rfl
  | cons check rest ih => exact ih (db.saveSubscription check.sub)

theorem saveCharge_records (db : Database) (checks : List ResetCheck) (row : UserSubscription) :
    ((db.saveChecks checks).saveSubscription row).records = db.records := by
  induction checks generalizing db with
  | nil => rfl
  | cons check rest ih => exact ih (db.saveSubscription check.sub)

/-- What a pre-consume with a new request id does when it succeeds: `passed` are
the reset checks of the rows without room, `row` is the one that is charged. -/
structure FreshCharge (env : Env) (db : Database) (requestId : String) (userId amount : Int)
    (passed : List ResetCheck) (row : UserSubscription) (chosen : ResetCheck) (after : Database) :
    Prop where
  named : trimSpace requestId ≠ ""
  free : db.record? requestId = none
  positive : 0 < amount
  selected : selectCandidate env amount (candidates env db userId) = .ok (passed, chosen)
  member : row ∈ db.subscriptions
  owner : row.userId = userId
  active : activeAt env.now row = true
  checked : checkRow env row = some chosen
  room : lacksQuota amount chosen.sub = false
  passedOver : ∀ check ∈ passed, ∃ other ∈ db.subscriptions, checkRow env other = some check
  distinct : ((passed.map ResetCheck.sub ++ [chosen.charge amount]).map UserSubscription.id).Nodup
  committed : after = ((db.saveChecks passed).saveSubscription (chosen.charge amount)).createRecord {
    requestId, userId, userSubscriptionId := chosen.sub.id, preConsumed := amount, status := .consumed,
    positive }

section
variable {skipped : List UserSubscription}
  (checks : List.Forall₂ (fun sub check => checkRow env sub = some check) skipped passed)
include checks

theorem checks_ids : (passed.map ResetCheck.sub).map UserSubscription.id = skipped.map UserSubscription.id := by
  induction checks with
  | nil => rfl
  | cons checked _ ih => simp only [List.map_cons, ih, (checkRow_of checked).id]

theorem checks_sources : ∀ check ∈ passed, ∃ sub ∈ skipped, checkRow env sub = some check := by
  induction checks with
  | nil => simp
  | cons checked _ ih =>
    intro check member
    rcases List.mem_cons.mp member with rfl | member
    · exact ⟨_, .head _, checked⟩
    · obtain ⟨sub, present, own⟩ := ih check member
      exact ⟨sub, .tail _ present, own⟩

end

/-- A pre-consume changes nothing, or it charges a row under a new request id. -/
theorem preConsume_cases {answer : Except TxError SubscriptionPreConsumeResult}
    (done : preConsumeUserSubscription env fault db requestId userId amount = (answer, after)) :
    (after = db ∧ ((∃ reason, answer = .error reason) ∨ db.record? requestId ≠ none)) ∨
      ∃ result passed row chosen, answer = .ok result ∧
        FreshCharge env db requestId userId amount passed row chosen after ∧
        result.userSubscriptionId = row.id ∧ result.preConsumed = amount := by
  unfold preConsumeUserSubscription at done
  split at done
  · cases done; exact .inl ⟨rfl, .inl ⟨_, rfl⟩⟩
  split at done
  · cases done; exact .inl ⟨rfl, .inl ⟨_, rfl⟩⟩
  rename_i named
  split at done
  · cases done; exact .inl ⟨rfl, .inl ⟨_, rfl⟩⟩
  cases fault with
  | some text => cases done; exact .inl ⟨rfl, .inl ⟨_, rfl⟩⟩
  | none =>
    cases free : db.record? requestId with
    | some existing =>
      simp only [free] at done
      refine .inl ⟨?_, .inr nofun⟩
      split at done
      · cases done; rfl
      split at done <;> cases done <;> rfl
    | none =>
      simp only [free] at done
      split at done
      · cases done; exact .inl ⟨rfl, .inl ⟨_, rfl⟩⟩
      cases selected : selectCandidate env amount (candidates env db userId) with
      | error reason => simp only [selected] at done; cases done; exact .inl ⟨rfl, .inl ⟨_, rfl⟩⟩
      | ok pair =>
        obtain ⟨passed, chosen⟩ := pair
        simp only [selected, Prod.mk.injEq] at done
        obtain ⟨rfl, rfl⟩ := done
        obtain ⟨skipped, row, rest, shape, checks, checked, room⟩ := selectCandidate_ok selected
        have among : ∀ sub ∈ skipped ++ row :: rest, sub ∈ db.subscriptions ∧
            sub.userId = userId ∧ activeAt env.now sub = true := by
          intro sub member
          rw [← shape] at member
          exact mem_candidates.mp member
        obtain ⟨member, owner, active⟩ := among row (by simp)
        refine .inr ⟨_, passed, row, chosen, rfl, ?_, (checkRow_of checked).id, rfl⟩
        refine {
          named, free
          positive := by omega
          selected, member, owner, active, checked, room
          passedOver := ?_
          distinct := ?_
          committed := rfl }
        · intro check member
          obtain ⟨sub, present, own⟩ := checks_sources checks check member
          exact ⟨sub, (among sub (List.mem_append_left _ present)).1, own⟩
        · have distinct : ((candidates env db userId).map UserSubscription.id).Nodup :=
            candidates_distinct
          rw [shape, List.map_append, List.map_cons] at distinct
          rw [List.map_append, checks_ids checks, List.map_singleton,
            show (chosen.charge amount).id = row.id from (checkRow_of checked).id]
          exact distinct.sublist (List.Sublist.append_left (by simp) _)

theorem preConsume_fresh {result : SubscriptionPreConsumeResult} (free : db.record? requestId = none)
    (done : preConsumeUserSubscription env fault db requestId userId amount = (.ok result, after)) :
    ∃ passed row chosen, FreshCharge env db requestId userId amount passed row chosen after ∧
      result.userSubscriptionId = row.id ∧ result.preConsumed = amount := by
  rcases preConsume_cases done with ⟨_, ⟨_, ⟨⟩⟩ | recorded⟩ | ⟨_, passed, row, chosen, ⟨⟩, charge⟩
  · exact absurd free recorded
  · exact ⟨passed, row, chosen, charge⟩

theorem preConsume_error {reason : TxError}
    (done : preConsumeUserSubscription env fault db requestId userId amount = (.error reason, after)) :
    after = db := by
  rcases preConsume_cases done with ⟨same, _⟩ | ⟨_, _, _, _, ⟨⟩, _⟩
  exact same

namespace FreshCharge

variable {passed : List ResetCheck} {chosen : ResetCheck}

section
variable (charge : FreshCharge env db requestId userId amount passed row chosen after)
include charge

theorem subscriptions : after.subscriptions =
      db.subscriptions.saveAll (passed.map ResetCheck.sub ++ [chosen.charge amount]) := by
  rw [charge.committed, Database.createRecord_subscriptions, Database.saveSubscription_subscriptions,
    saveChecks_subscriptions, Table.saveAll_append]
  rfl

/-- The rows after a charge: the charged row, the rows that were checked on the
way, and the rows the loop did not reach. -/
theorem mem_after :
    sub ∈ after.subscriptions ↔ sub = chosen.charge amount ∨ (∃ check ∈ passed, sub = check.sub) ∨
      (sub ∈ db.subscriptions ∧ sub.id ≠ row.id ∧ ∀ check ∈ passed, sub.id ≠ check.sub.id) := by
  have chosenId : (chosen.charge amount).id = row.id := (checkRow_of charge.checked).id
  rw [charge.subscriptions, Table.mem_saveAll charge.distinct]
  constructor
  · rintro (⟨saved, _⟩ | ⟨member, apart⟩)
    · rcases List.mem_append.mp saved with checked | charged
      · obtain ⟨check, among, rfl⟩ := List.mem_map.mp checked
        exact .inr (.inl ⟨check, among, rfl⟩)
      · exact .inl (List.mem_singleton.mp charged)
    · refine .inr (.inr ⟨member, chosenId ▸ apart _ (by simp), fun check among => apart _ ?_⟩)
      exact List.mem_append_left _ (List.mem_map_of_mem among)
  · rintro (rfl | ⟨check, among, rfl⟩ | ⟨member, other, apart⟩)
    · exact .inl ⟨by simp, row, charge.member, chosenId.symm⟩
    · obtain ⟨source, present, checked⟩ := charge.passedOver check among
      exact .inl ⟨List.mem_append_left _ (List.mem_map_of_mem among), source, present,
        (checkRow_of checked).id.symm⟩
    · refine .inr ⟨member, fun saved among => ?_⟩
      rcases List.mem_append.mp among with checked | charged
      · obtain ⟨check, reached, rfl⟩ := List.mem_map.mp checked
        exact apart check reached
      · rw [List.mem_singleton.mp charged, chosenId]
        exact other

theorem charged : after.subscription? row.id = some (chosen.charge amount) :=
  Table.lookup_eq_some.mpr ⟨charge.mem_after.mpr (.inl rfl), (checkRow_of charge.checked).id⟩

theorem others (member : sub ∈ db.subscriptions) (other : sub.id ≠ row.id) :
    after.subscription? sub.id = some sub ∨
      ∃ check, checkRow env sub = some check ∧ after.subscription? sub.id = some check.sub := by
  by_cases reached : ∃ check ∈ passed, check.sub.id = sub.id
  · obtain ⟨check, among, same⟩ := reached
    obtain ⟨source, present, checked⟩ := charge.passedOver check among
    obtain rfl : source = sub := Table.eq_of_key present member ((checkRow_of checked).id.symm.trans same)
    exact .inr ⟨check, checked, Table.lookup_eq_some.mpr
      ⟨charge.mem_after.mpr (.inr (.inl ⟨check, among, rfl⟩)), same⟩⟩
  · refine .inl (Table.lookup_eq_some.mpr ⟨charge.mem_after.mpr (.inr (.inr ⟨member, other, ?_⟩)), rfl⟩)
    intro check among same
    exact reached ⟨check, among, same.symm⟩

theorem recorded : ∃ record, after.record? requestId = some record ∧ record.userSubscriptionId = row.id ∧
      record.preConsumed = amount ∧ record.status = .consumed := by
  rw [charge.committed]
  refine ⟨_, Table.lookup_insert_self ?_, (checkRow_of charge.checked).id, rfl, rfl⟩
  exact (saveCharge_records db passed _).symm ▸ charge.free

theorem record_kept {other : String} {record : SubscriptionPreConsumeRecord}
    (found : db.record? other = some record) : after.record? other = some record := by
  have records := saveCharge_records db passed (chosen.charge amount)
  obtain ⟨member, same⟩ := Table.lookup_eq_some.mp found
  rw [charge.committed]
  refine Table.lookup_eq_some.mpr ⟨(Table.mem_insert (records ▸ charge.free)).mpr (.inl ?_), same⟩
  exact records ▸ member

theorem evolves : db.Evolves after := by
  intro sub member
  rcases charge.mem_after.mp member with rfl | ⟨check, among, rfl⟩ | ⟨present, _⟩
  · exact ⟨row, .tail (.single (.checked (checkRow_of charge.checked)))
      (.charged charge.positive charge.room), .inl charge.member⟩
  · obtain ⟨source, present, checked⟩ := charge.passedOver check among
    exact ⟨source, .single (.checked (checkRow_of checked)), .inl present⟩
  · exact ⟨sub, .refl, .inl present⟩

end

end FreshCharge

theorem postConsume_cases {id delta : Int} {answer : Except TxError Unit}
    (done : postConsumeUserSubscriptionDelta fault db id delta = (answer, after)) :
    (after = db ∧ (answer = .ok () → delta = 0)) ∨
    ∃ sub newUsed, db.subscription? id = some sub ∧ usedAfter sub delta = some newUsed ∧
      answer = .ok () ∧ after = db.saveSubscription { sub with amountUsed := newUsed } := by
  unfold postConsumeUserSubscriptionDelta at done
  split at done
  · cases done; exact .inl ⟨rfl, nofun⟩
  split at done
  · rename_i unchanged
    cases done
    exact .inl ⟨rfl, fun _ => unchanged⟩
  cases fault with
  | some text => cases done; exact .inl ⟨rfl, nofun⟩
  | none =>
    cases found : db.subscription? id with
    | none => simp only [found] at done; cases done; exact .inl ⟨rfl, nofun⟩
    | some sub =>
      cases accepted : usedAfter sub delta with
      | none => simp only [found, accepted] at done; cases done; exact .inl ⟨rfl, nofun⟩
      | some newUsed =>
        simp only [found, accepted] at done
        cases done
        exact .inr ⟨sub, newUsed, rfl, accepted, rfl, rfl⟩

theorem postConsume_evolves (fault : Option String) (db : Database) (id delta : Int) :
    db.Evolves (postConsumeUserSubscriptionDelta fault db id delta).2 := by
  cases done : postConsumeUserSubscriptionDelta fault db id delta with
  | mk answer after =>
    rcases postConsume_cases done with ⟨rfl, _⟩ | ⟨sub, newUsed, found, accepted, _, rfl⟩
    · exact .refl _
    · exact .saveSubscription (Table.mem_of_lookup found) (.single (.settled accepted))

theorem postConsume_error {id delta : Int} {reason : TxError}
    (done : postConsumeUserSubscriptionDelta fault db id delta = (.error reason, after)) :
    after = db := by
  rcases postConsume_cases done with ⟨same, _⟩ | ⟨_, _, _, _, answered, _⟩
  · exact same
  · cases answered

theorem refundDelta_evolves (faults : RefundFaults) (db : Database)
    (record : SubscriptionPreConsumeRecord) : db.Evolves (refundDelta faults db record).2 := by
  unfold refundDelta
  split
  · exact .refl db
  · exact postConsume_evolves _ db _ _

theorem refundDelta_error {faults : RefundFaults} {record : SubscriptionPreConsumeRecord}
    {reason : TxError} (done : refundDelta faults db record = (.error reason, after)) :
    after = db := by
  unfold refundDelta at done
  split at done
  · cases done
  · exact postConsume_error done

/-- A refund that changes anything has found a consumed record and committed its
delta; the record itself is written only when the call succeeds. -/
theorem refund_cases {faults : RefundFaults} {answer : Except TxError Unit}
    (done : refundSubscriptionPreConsume faults db requestId = (answer, after)) :
    (after = db ∧ (answer = .ok () → ∃ record, db.record? requestId = some record ∧
      record.status = .refunded)) ∨
    ∃ record settled, db.record? requestId = some record ∧ record.status = .consumed ∧
      refundDelta faults db record = (.ok (), settled) ∧
      ((∃ reason, answer = .error reason ∧ after = settled) ∨
        (answer = .ok () ∧ after = settled.saveRecord { record with status := .refunded })) := by
  unfold refundSubscriptionPreConsume at done
  split at done
  · cases done; exact .inl ⟨rfl, nofun⟩
  cases broken : faults.lookup with
  | some text => simp only [broken] at done; cases done; exact .inl ⟨rfl, nofun⟩
  | none =>
    cases found : db.record? requestId with
    | none => simp only [broken, found] at done; cases done; exact .inl ⟨rfl, nofun⟩
    | some record =>
      simp only [broken, found] at done
      split at done
      · rename_i refunded
        cases done
        exact .inl ⟨rfl, fun _ => ⟨record, rfl, refunded⟩⟩
      rename_i consumed
      have status : record.status = .consumed := by
        cases status : record.status with
        | consumed => rfl
        | refunded => exact absurd status consumed
      cases delta : refundDelta faults db record with
      | mk outcome settled =>
        cases outcome with
        | error reason =>
          simp only [delta] at done
          cases done
          exact .inl ⟨refundDelta_error delta, nofun⟩
        | ok _ =>
          cases unsaved : faults.save with
          | some text =>
            simp only [delta, unsaved] at done
            cases done
            exact .inr ⟨record, _, rfl, status, delta, .inl ⟨_, rfl, rfl⟩⟩
          | none =>
            simp only [delta, unsaved] at done
            cases done
            exact .inr ⟨record, settled, rfl, status, delta, .inr ⟨rfl, rfl⟩⟩

theorem refund_evolves (faults : RefundFaults) (db : Database) (requestId : String) :
    db.Evolves (refundSubscriptionPreConsume faults db requestId).2 := by
  cases done : refundSubscriptionPreConsume faults db requestId with
  | mk answer after =>
    rcases refund_cases done with ⟨rfl, _⟩ | ⟨record, settled, _, _, delta, ended⟩
    · exact .refl _
    · have evolves := refundDelta_evolves faults db record
      rw [delta] at evolves
      rcases ended with ⟨_, _, rfl⟩ | ⟨_, rfl⟩
      · exact evolves
      · exact evolves.trans (.of_subscriptions rfl)

theorem resetOneTx_of {id : Int} (checked : resetOneTx env db id plan = .ok (some check)) :
    ∃ sub ∈ db.subscriptions, check.Of sub := by
  unfold resetOneTx at checked
  cases locked : (db.subscription? id).filter (resetDue env.now) with
  | none => simp [locked] at checked
  | some sub =>
    cases reset : maybeResetUserSubscriptionWithPlanTx env sub plan with
    | none => simp [locked, reset] at checked
    | some own =>
      simp only [locked, reset, Except.ok.injEq, Option.some.injEq] at checked
      obtain ⟨found, _⟩ := Option.filter_eq_some_iff.mp locked
      exact ⟨sub, Table.mem_of_lookup found, checked ▸ maybeReset_of reset⟩

theorem resetRows_evolves (env : Env) (db : Database) (rows : List UserSubscription) :
    db.Evolves (resetRows env db rows).2 := by
  induction rows generalizing db with
  | nil => exact .refl db
  | cons sub rest ih =>
    unfold resetRows
    cases env.plan sub.planId with
    | none => exact ih db
    | some plan =>
      cases reset : resetOneTx env db sub.id plan with
      | error reason => simpa only [reset] using .refl db
      | ok checked =>
        cases checked with
        | none => simpa only [reset] using ih db
        | some check =>
          obtain ⟨source, member, own⟩ := resetOneTx_of reset
          simp only [reset]
          exact .trans (.saveSubscription member (.single (.checked own))) (ih _)

theorem downgrade_subscriptions (db : Database) (sub : UserSubscription) (now : Int) :
    (downgradeUserGroupForSubscriptionTx db sub now).2.subscriptions = db.subscriptions := by
  unfold downgradeUserGroupForSubscriptionTx
  dsimp only
  repeat' split
  all_goals rfl

theorem expireRow_run (now userId : Int) (sub : UserSubscription) :
    RowRun sub (expireRow now userId sub) := by
  unfold expireRow
  split
  · exact .single .expired
  · exact .refl

theorem mem_markExpired {now : Int} : row ∈ (markExpired now userId db).subscriptions ↔
      ∃ old ∈ db.subscriptions, expireRow now userId old = row := by
  rw [markExpired, Database.updateSubscriptions, Table.mem_update]

theorem expireUserTx_subscriptions (now : Int) (db : Database) (userId : Int) :
    (expireUserTx now db userId).subscriptions = (markExpired now userId db).subscriptions := by
  simp only [expireUserTx]
  split
  · rfl
  split
  · rfl
  split
  · rfl
  split <;> rfl

theorem expireDue_evolves (env : Env) (db : Database) (limit : Int) :
    db.Evolves (expireDueSubscriptions env db limit) := by
  unfold expireDueSubscriptions
  generalize dueUsers env.now db limit = users
  induction users generalizing db with
  | nil => exact .refl db
  | cons userId rest ih =>
    refine .trans ?_ (ih (expireUserTx env.now db userId))
    intro row member
    rw [expireUserTx_subscriptions, mem_markExpired] at member
    obtain ⟨old, present, rfl⟩ := member
    exact ⟨old, expireRow_run env.now userId old, .inl present⟩

/-- What a purchase does: the new row and the user's group. -/
structure Opened (env : Env) (db : Database) (userId : Int) (plan : SubscriptionPlan)
    (sub : UserSubscription) (after : Database) : Prop where
  valid : 0 < userId
  ends : calcPlanEndTime env.location env.now plan = .ok sub.endTime
  owner : sub.userId = userId
  active : sub.status = .active
  unused : sub.amountUsed = 0
  upgrade : sub.upgradeGroup = trimSpace plan.upgradeGroup
  previous : sub.prevUserGroup = if displaces db userId plan then getUserGroupByIdTx db userId else ""
  rows : ∀ row, row ∈ after.subscriptions ↔ row ∈ db.subscriptions ∨ row = sub
  group : after.group =
    (if displaces db userId plan then db.setGroup userId (trimSpace plan.upgradeGroup) else db).group

theorem create_cases {source : String} {answer : Except TxError UserSubscription}
    (done : createUserSubscriptionFromPlanTx env db userId plan source = (answer, after)) :
    after = db ∨ ∃ sub, Opened env db userId plan sub after := by
  simp only [createUserSubscriptionFromPlanTx] at done
  split at done
  · cases done; exact .inl rfl
  split at done
  · cases done; exact .inl rfl
  split at done
  · cases done; exact .inl rfl
  cases ends : calcPlanEndTime env.location env.now plan with
  | error reason => simp only [ends] at done; cases done; exact .inl rfl
  | ok endUnix =>
    simp only [ends] at done
    obtain ⟨_, rfl⟩ := Prod.mk.inj done
    generalize moved : (if displaces db userId plan then
      db.setGroup userId (trimSpace plan.upgradeGroup) else db) = between
    have kept : between.subscriptions = db.subscriptions := by
      rw [← moved]
      split <;> rfl
    refine .inr ⟨purchasedRow env db userId plan source endUnix between.nextId, by omega, ends, rfl, rfl,
      rfl, rfl, ?previous, fun row => ?rows, ?group⟩
    case previous => simp only [purchasedRow]
    case rows =>
      rw [← kept]
      exact Database.mem_createSubscription
    case group =>
      rw [moved]
      rfl

inductive Transaction where
  | createUserSubscriptionFromPlan (env : Env) (userId : Int) (plan : SubscriptionPlan)
      (source : String)
  | preConsumeUserSubscription (env : Env) (fault : Option String) (requestId : String)
      (userId amount : Int)
  | postConsumeUserSubscriptionDelta (fault : Option String) (id delta : Int)
  | refundSubscriptionPreConsume (faults : RefundFaults) (requestId : String)
  | resetDueSubscriptions (env : Env) (limit : Int)
  | expireDueSubscriptions (env : Env) (limit : Int)
  | adminInvalidateUserSubscription (env : Env) (id : Int)
  | adminDeleteUserSubscription (env : Env) (id : Int)

def commit (db : Database) : Transaction → Database
  | .createUserSubscriptionFromPlan env userId plan source =>
    (createUserSubscriptionFromPlanTx env db userId plan source).2
  | .preConsumeUserSubscription env fault requestId userId amount =>
    (Subscription.preConsumeUserSubscription env fault db requestId userId amount).2
  | .postConsumeUserSubscriptionDelta fault id delta =>
    (Subscription.postConsumeUserSubscriptionDelta fault db id delta).2
  | .refundSubscriptionPreConsume faults requestId =>
    (Subscription.refundSubscriptionPreConsume faults db requestId).2
  | .resetDueSubscriptions env limit => (Subscription.resetDueSubscriptions env db limit).2
  | .expireDueSubscriptions env limit => Subscription.expireDueSubscriptions env db limit
  | .adminInvalidateUserSubscription env id =>
    (Subscription.adminInvalidateUserSubscription env db id).2
  | .adminDeleteUserSubscription env id => (Subscription.adminDeleteUserSubscription env db id).2

theorem invalidate_evolves (env : Env) (db : Database) (id : Int) :
    db.Evolves (adminInvalidateUserSubscription env db id).2 := by
  simp only [adminInvalidateUserSubscription]
  split
  · exact .refl db
  split
  · exact .refl db
  rename_i sub found
  generalize shape : ({ sub with status := .cancelled, endTime := env.now } : UserSubscription) = cancelled
  have changed : RowRun sub cancelled := by
    rw [← shape]
    exact .single .cancelled
  have rows := downgrade_subscriptions (db.saveSubscription cancelled) cancelled env.now
  have saved : db.Evolves (db.saveSubscription cancelled) :=
    .saveSubscription (Table.mem_of_lookup found) changed
  generalize downgradeUserGroupForSubscriptionTx (db.saveSubscription cancelled) cancelled env.now =
    downgraded at rows ⊢
  exact saved.trans (.of_subscriptions rows)

theorem delete_evolves (env : Env) (db : Database) (id : Int) :
    db.Evolves (adminDeleteUserSubscription env db id).2 := by
  simp only [adminDeleteUserSubscription]
  split
  · exact .refl db
  split
  · exact .refl db
  rename_i sub _
  have rows := downgrade_subscriptions db sub env.now
  intro row member
  have kept := (Database.mem_deleteSubscription.mp member).1
  rw [rows] at kept
  exact ⟨row, .refl, .inl kept⟩

theorem commit_evolves (db : Database) (transaction : Transaction) :
    db.Evolves (commit db transaction) := by
  cases transaction with
  | createUserSubscriptionFromPlan env userId plan source =>
    cases done : createUserSubscriptionFromPlanTx env db userId plan source with
    | mk answer after =>
      simp only [commit, done]
      rcases create_cases done with rfl | ⟨sub, opened⟩
      · exact .refl after
      · intro row member
        rcases (opened.rows row).mp member with present | rfl
        · exact ⟨row, .refl, .inl present⟩
        · exact ⟨row, .refl, .inr opened.unused⟩
  | preConsumeUserSubscription env fault requestId userId amount =>
    cases done : Subscription.preConsumeUserSubscription env fault db requestId userId amount with
    | mk answer after =>
      simp only [commit, done]
      rcases preConsume_cases done with ⟨rfl, _⟩ | ⟨_, passed, row, chosen, _, charge, _⟩
      · exact .refl after
      · exact charge.evolves
  | postConsumeUserSubscriptionDelta fault id delta => exact postConsume_evolves fault db id delta
  | refundSubscriptionPreConsume faults requestId => exact refund_evolves faults db requestId
  | resetDueSubscriptions env limit => exact resetRows_evolves env db _
  | expireDueSubscriptions env limit => exact expireDue_evolves env db limit
  | adminInvalidateUserSubscription env id => exact invalidate_evolves env db id
  | adminDeleteUserSubscription env id => exact delete_evolves env db id

end TokenFactory.Subscription
