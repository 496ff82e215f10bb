import TokenFactory.Subscription.Refund

namespace TokenFactory.Subscription

open Data Go

/-! Requests and reset periods.

`Books` is the database together with what each request has been charged so far
and whether its subscription was reset since its pre-consume. The second part
is bookkeeping for the statements below; no code reads it. -/

variable {env : Env} {requestId : String} {userId amount : Int} {fault : Option String}

structure RequestCharge where
  requestId : String
  subscriptionId : Int
  charged : Int
  current : Bool
  refunded : Bool
deriving DecidableEq

structure Books where
  db : Database
  charges : Table RequestCharge.requestId

def Books.opening (db : Database) : Books := ⟨db, .empty⟩

/-- What the request counts for in the current period of subscription `id`. -/
def RequestCharge.outstanding (id : Int) (charge : RequestCharge) : Int :=
  if charge.subscriptionId = id ∧ charge.current ∧ ¬ charge.refunded then charge.charged else 0

def Books.outstanding (books : Books) (id : Int) : Int :=
  books.charges.sum (RequestCharge.outstanding id)

def ResetCheck.closePeriod (check : ResetCheck) (charge : RequestCharge) : RequestCharge :=
  if check.advanced ∧ charge.subscriptionId = check.sub.id then { charge with current := false }
  else charge

theorem ResetCheck.closePeriod_requestId (check : ResetCheck) (charge : RequestCharge) :
    (check.closePeriod charge).requestId = charge.requestId := by
  unfold closePeriod
  split <;> rfl

def closePeriods (charges : Table RequestCharge.requestId) (checks : List ResetCheck) :
    Table RequestCharge.requestId :=
  checks.foldl (fun charges check => charges.update check.closePeriod check.closePeriod_requestId)
    charges

/-- The record whose delta a refund call commits, and whether the call saves the
record as well. -/
def refundEffect (faults : RefundFaults) (db : Database) (requestId : String) :
    Option (SubscriptionPreConsumeRecord × Bool) :=
  if trimSpace requestId = "" ∨ faults.lookup ≠ none then none
  else
    match db.record? requestId with
    | none => none
    | some record =>
      if record.status = .refunded then none
      else
        match (refundDelta faults db record).1 with
        | .error _ => none
        | .ok () => some (record, faults.save = none)

/-- Requests are charged by a pre-consume, then settled by a signed difference
or refunded; resets run on their own or inside a pre-consume. -/
inductive PeriodEvent where
  | preConsume (env : Env) (fault : Option String) (requestId : String) (userId amount : Int)
  | settle (fault : Option String) (requestId : String) (delta : Int)
  | refund (faults : RefundFaults) (requestId : String)
  | reset (env : Env) (limit : Int)

namespace Books

def preConsume (env : Env) (fault : Option String) (requestId : String) (userId amount : Int)
    (books : Books) : Books :=
  let outcome := preConsumeUserSubscription env fault books.db requestId userId amount
  match books.db.record? requestId, outcome.1,
      selectCandidate env amount (candidates env books.db userId) with
  | none, .ok result, .ok (passed, chosen) => {
      db := outcome.2
      charges := (closePeriods books.charges (passed ++ [chosen])).insert {
        requestId
        subscriptionId := result.userSubscriptionId
        charged := amount
        current := true
        refunded := false } }
  | _, _, _ => { books with db := outcome.2 }

/-- `SubscriptionFunding.Settle`: the request's own subscription is adjusted. -/
def settle (fault : Option String) (requestId : String) (delta : Int) (books : Books) : Books :=
  match books.charges.lookup requestId with
  | none => books
  | some charge =>
    if delta = 0 then books
    else
      let outcome := postConsumeUserSubscriptionDelta fault books.db charge.subscriptionId delta
      match outcome.1 with
      | .error _ => { books with db := outcome.2 }
      | .ok () => {
          db := outcome.2
          charges := books.charges.save { charge with charged := charge.charged + delta } }

/-- A call that has committed its delta without saving the record has given the
amount back, and the request still counts as not refunded. -/
def refund (faults : RefundFaults) (requestId : String) (books : Books) : Books :=
  let outcome := refundSubscriptionPreConsume faults books.db requestId
  match refundEffect faults books.db requestId, books.charges.lookup requestId with
  | some (record, saved), some charge => {
      db := outcome.2
      charges := books.charges.save (
        if saved then { charge with refunded := true }
        else { charge with charged := charge.charged - record.preConsumed }) }
  | _, _ => { books with db := outcome.2 }

def reset (env : Env) (limit : Int) (books : Books) : Books :=
  let outcome := resetDueSubscriptions env books.db limit
  { db := outcome.2, charges := closePeriods books.charges outcome.1 }

def step (books : Books) : PeriodEvent → Books
  | .preConsume env fault requestId userId amount =>
    books.preConsume env fault requestId userId amount
  | .settle fault requestId delta => books.settle fault requestId delta
  | .refund faults requestId => books.refund faults requestId
  | .reset env limit => books.reset env limit

end Books

theorem outstanding_closePeriod (charges : Table RequestCharge.requestId) (check : ResetCheck) (id : Int) :
    (charges.update check.closePeriod check.closePeriod_requestId).sum (RequestCharge.outstanding id) =
      if check.advanced ∧ check.sub.id = id then 0
      else charges.sum (RequestCharge.outstanding id) := by
  rw [Table.sum_update]
  split
  · rename_i closed
    obtain ⟨advanced, rfl⟩ := closed
    refine Table.sum_eq_zero fun charge _ => ?_
    by_cases own : charge.subscriptionId = check.sub.id
    · simp [RequestCharge.outstanding, ResetCheck.closePeriod, advanced, own]
    · simp [RequestCharge.outstanding, ResetCheck.closePeriod, own]
  · rename_i other
    refine Table.sum_congr fun charge _ => ?_
    by_cases closed : check.advanced ∧ charge.subscriptionId = check.sub.id
    · have apart : ¬ check.sub.id = id := fun same => other ⟨closed.1, same⟩
      simp [RequestCharge.outstanding, ResetCheck.closePeriod, closed.1, closed.2, apart]
    · simp only [Function.comp_apply, ResetCheck.closePeriod, if_neg closed]

def closesPeriod (checks : List ResetCheck) (id : Int) : Bool :=
  checks.any fun check => check.advanced && check.sub.id = id

theorem outstanding_closePeriods (charges : Table RequestCharge.requestId) (checks : List ResetCheck)
    (id : Int) : (closePeriods charges checks).sum (RequestCharge.outstanding id) =
      if closesPeriod checks id then 0 else charges.sum (RequestCharge.outstanding id) := by
  induction checks generalizing charges with
  | nil => simp [closePeriods, closesPeriod]
  | cons check rest ih =>
    have first := outstanding_closePeriod charges check id
    have later := ih (charges.update check.closePeriod check.closePeriod_requestId)
    simp only [closePeriods, List.foldl_cons] at later ⊢
    rw [later, first]
    by_cases closed : check.advanced ∧ check.sub.id = id
    · simp [closesPeriod, closed]
    · have remains : closesPeriod (check :: rest) id = closesPeriod rest id := by
        have : (check.advanced && decide (check.sub.id = id)) = false := by
          rw [← Bool.not_eq_true, Bool.and_eq_true, decide_eq_true_eq]
          exact closed
        simp [closesPeriod, this]
      rw [remains, if_neg closed]

variable {checks : List ResetCheck} {check : ResetCheck}

theorem closesPeriod_own
    (distinct : (checks.map fun check => check.sub.id).Nodup) (member : check ∈ checks) :
    closesPeriod checks check.sub.id = check.advanced := by
  rw [Bool.eq_iff_iff, closesPeriod, List.any_eq_true]
  constructor
  · intro closed
    obtain ⟨other, among, same⟩ := closed
    simp only [Bool.and_eq_true, decide_eq_true_eq] at same
    rw [← List.inj_on_of_nodup_map distinct among member same.2]
    exact same.1
  · intro advanced
    exact ⟨check, member, by simp [advanced]⟩

theorem closesPeriod_other {id : Int}
    (unchecked : ∀ check ∈ checks, check.sub.id ≠ id) : closesPeriod checks id = false := by
  rw [← Bool.not_eq_true, closesPeriod, List.any_eq_true]
  intro closed
  obtain ⟨check, among, same⟩ := closed
  simp only [Bool.and_eq_true, decide_eq_true_eq] at same
  exact unchecked check among same.2

theorem mem_closePeriods {charges : Table RequestCharge.requestId}
    {charge : RequestCharge} (member : charge ∈ closePeriods charges checks) :
    ∃ old ∈ charges, old.requestId = charge.requestId ∧ old.subscriptionId = charge.subscriptionId := by
  induction checks generalizing charges with
  | nil => exact ⟨charge, member, rfl, rfl⟩
  | cons check rest ih =>
    obtain ⟨between, present, request, subscription⟩ := ih member
    obtain ⟨old, source, rfl⟩ := Table.mem_update.mp present
    refine ⟨old, source, ?_, ?_⟩
    · rw [← request, check.closePeriod_requestId]
    · rw [← subscription, ResetCheck.closePeriod]
      split <;> rfl

/-- The usage of every subscription covers what its current requests have been
charged; every request has a record on its own subscription. -/
structure Books.Covered (books : Books) : Prop where
  covered : ∀ sub ∈ books.db.subscriptions, books.outstanding sub.id ≤ sub.amountUsed
  recorded : ∀ charge ∈ books.charges, ∃ record, books.db.record? charge.requestId = some record ∧
    record.userSubscriptionId = charge.subscriptionId

/-- A refund call commits nothing, or it gives the charge of a consumed record back. -/
inductive RefundCommits (db after : Database) (requestId : String) :
    Option (SubscriptionPreConsumeRecord × Bool) → Prop where
  | nothing (unchanged : after = db) : RefundCommits db after requestId none
  | refund (record : SubscriptionPreConsumeRecord) (saved : Bool) (sub : UserSubscription)
      (found : db.record? requestId = some record) (consumed : record.status = .consumed)
      (held : db.subscription? record.userSubscriptionId = some sub)
      (called : after = if saved then (db.saveSubscription (sub.refunded record.preConsumed)).saveRecord
          { record with status := .refunded }
        else db.saveSubscription (sub.refunded record.preConsumed)) :
      RefundCommits db after requestId (some (record, saved))

theorem refundDelta_ok {faults : RefundFaults} {db after : Database} {record : SubscriptionPreConsumeRecord}
    {answer : Unit} (settled : refundDelta faults db record = (.ok answer, after)) :
    ∃ sub, db.subscription? record.userSubscriptionId = some sub ∧
      after = db.saveSubscription (sub.refunded record.preConsumed) := by
  have positive := record.positive
  rw [refundDelta, if_neg (by omega)] at settled
  rcases postConsume_cases settled with ⟨_, zero⟩ | ⟨sub, newUsed, held, accepted, _, rfl⟩
  · have unmoved := zero rfl
    omega
  · obtain ⟨rfl, _⟩ := usedAfter_eq_some.mp accepted
    refine ⟨sub, held, ?_⟩
    rw [UserSubscription.refunded, Int.sub_eq_add_neg]

theorem refund_effect (faults : RefundFaults) (db : Database) (requestId : String) :
    RefundCommits db (refundSubscriptionPreConsume faults db requestId).2 requestId
      (refundEffect faults db requestId) := by
  unfold refundEffect refundSubscriptionPreConsume
  by_cases blank : trimSpace requestId = ""
  · simp only [blank, true_or, if_true]
    exact .nothing rfl
  cases lookup : faults.lookup with
  | some text =>
    simp only [blank, ne_eq, reduceCtorEq, not_false_eq_true, or_true, if_true, if_false]
    exact .nothing rfl
  | none =>
    simp only [blank, ne_eq, not_true_eq_false, or_self, if_false]
    cases found : db.record? requestId with
    | none => exact .nothing rfl
    | some record =>
      cases status : record.status with
      | refunded =>
        simp only [status, if_true]
        exact .nothing rfl
      | consumed =>
        simp only [status, reduceCtorEq, if_false]
        cases delta : refundDelta faults db record with
        | mk outcome settled =>
          cases outcome with
          | error reason => exact .nothing (refundDelta_error delta)
          | ok answer =>
            obtain ⟨sub, held, rfl⟩ := refundDelta_ok delta
            refine .refund record _ sub found status held ?_
            cases faults.save <;> rfl

variable {books : Books}

section
variable (covered : books.Covered)
include covered

/-- A row that was checked counts from its own check: an advance that clears its
usage closes the period of its requests. -/
theorem Books.Covered.outstanding_ofCheck
    (distinct : (checks.map fun check => check.sub.id).Nodup)
    (among : check ∈ checks) {source : UserSubscription}
    (present : source ∈ books.db.subscriptions) (checked : check.Of source) :
    (if closesPeriod checks check.sub.id then 0 else books.outstanding check.sub.id) ≤
      check.sub.amountUsed := by
  have before := covered.covered source present
  obtain ⟨last, next, same⟩ := checked
  rw [closesPeriod_own distinct among]
  rw [same]
  split
  · exact le_refl 0
  · exact before

/-- A fresh charge: every check that advanced has closed its period, and the new
request counts for its amount on the charged row. -/
theorem covered_of_freshCharge {after : Database}
    {passed : List ResetCheck} {row : UserSubscription} {chosen : ResetCheck}
    (charge : FreshCharge env books.db requestId userId amount passed row chosen after) :
    Books.Covered ⟨after, (closePeriods books.charges (passed ++ [chosen])).insert
      { requestId, subscriptionId := row.id, charged := amount, current := true, refunded := false }⟩ := by
  have chosenId : chosen.sub.id = row.id := (checkRow_of charge.checked).id
  have distinct : ((passed ++ [chosen]).map fun check => check.sub.id).Nodup := by
    have := charge.distinct
    simpa [ResetCheck.charge, Function.comp_def] using this
  have unbooked : (closePeriods books.charges (passed ++ [chosen])).lookup requestId = none := by
    refine Table.lookup_eq_none.mpr fun booked member same => ?_
    obtain ⟨old, present, request, _⟩ := mem_closePeriods member
    obtain ⟨record, found, _⟩ := covered.recorded old present
    rw [request, same, charge.free] at found
    cases found
  refine ⟨?_, ?_⟩
  · intro sub member
    simp only [Books.outstanding]
    rw [Table.sum_insert unbooked, outstanding_closePeriods]
    rcases charge.mem_after.mp member with rfl | ⟨check, among, rfl⟩ | ⟨present, other, apart⟩
    · have own := covered.outstanding_ofCheck distinct (List.mem_append_right passed List.mem_cons_self) charge.member
        (checkRow_of charge.checked)
      have counts : RequestCharge.outstanding chosen.sub.id
          { requestId, subscriptionId := row.id, charged := amount, current := true, refunded := false } =
            amount := by simp [RequestCharge.outstanding, chosenId]
      simp only [ResetCheck.charge, Books.outstanding] at own ⊢
      rw [counts]
      exact Int.add_le_add_right own amount
    · obtain ⟨source, present, checked⟩ := charge.passedOver check among
      have own := covered.outstanding_ofCheck distinct (List.mem_append_left _ among) present
        (checkRow_of checked)
      have other : ¬ row.id = check.sub.id := by
        have apart := distinct
        rw [List.map_append, List.nodup_append] at apart
        intro clash
        exact apart.2.2 _ (List.mem_map_of_mem among) _ (by simp) (chosenId.trans clash).symm
      simpa [RequestCharge.outstanding, other, Books.outstanding] using own
    · have untouched : closesPeriod (passed ++ [chosen]) sub.id = false := by
        refine closesPeriod_other fun check among same => ?_
        rcases List.mem_append.mp among with among | single
        · exact apart check among same.symm
        · rw [List.mem_singleton.mp single, chosenId] at same
          exact other same.symm
      have before := covered.covered sub present
      have unrelated : ¬ row.id = sub.id := fun clash => other clash.symm
      simpa [untouched, RequestCharge.outstanding, unrelated, Books.outstanding] using before
  · intro booked member
    rcases Table.mem_of_mem_insert member with closed | rfl
    · obtain ⟨old, present, request, subscription⟩ := mem_closePeriods closed
      obtain ⟨record, found, on⟩ := covered.recorded old present
      refine ⟨record, charge.record_kept ?_, on.trans subscription⟩
      rw [← request]
      exact found
    · obtain ⟨record, found, on, _⟩ := charge.recorded
      exact ⟨record, found, on⟩

theorem preConsume_preserves_covered :
    (books.preConsume env fault requestId userId amount).Covered := by
  cases done : preConsumeUserSubscription env fault books.db requestId userId amount with
  | mk answer after =>
    rcases preConsume_cases done with ⟨rfl, idle⟩ | ⟨_, passed, row, chosen, rfl, charge, own, _⟩
    · have unchanged : books.preConsume env fault requestId userId amount = books := by
        simp only [Books.preConsume, done]
        rcases idle with ⟨reason, rfl⟩ | found
        · cases books.db.record? requestId <;> rfl
        · cases stored : books.db.record? requestId with
          | none => exact absurd stored found
          | some record => rfl
      rw [unchanged]
      exact covered
    · simp only [Books.preConsume, done, charge.free, charge.selected, own]
      exact covered_of_freshCharge covered charge

/-- A signed change of one request on the row it was charged to. The usage
falls by no more than what the request counted for. -/
theorem covered_of_change {charge changed : RequestCharge}
    {sub : UserSubscription} {newUsed : Int}
    (found : books.charges.lookup changed.requestId = some charge)
    (own : changed.subscriptionId = charge.subscriptionId)
    (held : books.db.subscription? charge.subscriptionId = some sub)
    (enough : changed.outstanding sub.id - charge.outstanding sub.id ≤ newUsed - sub.amountUsed) :
    Books.Covered ⟨books.db.saveSubscription { sub with amountUsed := newUsed },
      books.charges.save changed⟩ := by
  obtain ⟨stored, keyed⟩ := Table.lookup_eq_some.mp found
  obtain ⟨present, same⟩ := Table.lookup_eq_some.mp held
  refine ⟨?_, ?_⟩
  · intro row member
    have before := covered.covered
    simp only [Books.outstanding] at before ⊢
    rw [Table.sum_save found]
    rcases Table.mem_save.mp member with ⟨rfl, _⟩ | ⟨kept, other⟩
    · have := before sub present
      dsimp only
      omega
    · have unrelated : charge.outstanding row.id = 0 ∧ changed.outstanding row.id = 0 := by
        have apart : ¬ charge.subscriptionId = row.id := fun clash => other (clash ▸ same.symm)
        simp [RequestCharge.outstanding, own, apart]
      have := before row kept
      omega
  · intro other member
    rcases Table.mem_save.mp member with ⟨rfl, _⟩ | ⟨kept, _⟩
    · obtain ⟨record, recorded, on⟩ := covered.recorded charge stored
      exact ⟨record, keyed ▸ recorded, on.trans own.symm⟩
    · exact covered.recorded other kept

theorem settle_preserves_covered {delta : Int}
    (timely : delta < 0 → ∀ charge, books.charges.lookup requestId = some charge →
      charge.current ∧ ¬ charge.refunded) : (books.settle fault requestId delta).Covered := by
  cases found : books.charges.lookup requestId with
  | none => simpa only [Books.settle, found] using covered
  | some charge =>
    by_cases moves : delta = 0
    · simpa only [Books.settle, found, moves, ↓reduceIte] using covered
    have keyed := Table.key_of_lookup found
    cases done : postConsumeUserSubscriptionDelta fault books.db charge.subscriptionId delta with
    | mk answer after =>
      simp only [Books.settle, found, moves, ↓reduceIte, done]
      rcases postConsume_cases done with ⟨rfl, zero⟩ | ⟨sub, newUsed, held, accepted, rfl, rfl⟩
      · cases answer with
        | error reason => exact covered
        | ok _ => exact absurd (zero rfl) moves
      · have stored : books.charges.lookup
            ({ charge with charged := charge.charged + delta } : RequestCharge).requestId =
              some charge := by simpa only [keyed] using found
        refine covered_of_change covered stored rfl held ?_
        obtain ⟨rfl, _⟩ := usedAfter_eq_some.mp accepted
        have same := Table.key_of_lookup held
        by_cases counted : charge.current ∧ ¬ charge.refunded
        · have counts : ∀ amount, RequestCharge.outstanding sub.id { charge with charged := amount } =
              amount := by simp [RequestCharge.outstanding, same, counted]
          have before := counts charge.charged
          rw [counts, before]
          omega
        · have rises : ¬ delta < 0 := fun lowers => counted (timely lowers charge found)
          simp only [RequestCharge.outstanding]
          rw [if_neg (fun counts => counted counts.2), if_neg (fun counts => counted counts.2)]
          omega

theorem covered_of_saveRecord
    {old record : SubscriptionPreConsumeRecord} (found : books.db.record? requestId = some old)
    (named : record.requestId = requestId) (own : record.userSubscriptionId = old.userSubscriptionId) :
    Books.Covered ⟨books.db.saveRecord record, books.charges⟩ := by
  refine ⟨covered.covered, ?_⟩
  intro charge member
  obtain ⟨stored, present, on⟩ := covered.recorded charge member
  by_cases same : charge.requestId = record.requestId
  · refine ⟨record, Table.lookup_save_self present same.symm, ?_⟩
    rw [same, named, found, Option.some.injEq] at present
    rw [own, present, on]
  · exact ⟨stored, (Table.lookup_save_other same).trans present, on⟩

theorem refund_preserves_covered {faults : RefundFaults}
    (timely : ∀ record, books.db.record? requestId = some record → record.status = .consumed →
      ∃ charge, books.charges.lookup requestId = some charge ∧ charge.current ∧ ¬ charge.refunded ∧
        record.preConsumed ≤ charge.charged) : (books.refund faults requestId).Covered := by
  have outcome := refund_effect faults books.db requestId
  cases effect : refundEffect faults books.db requestId with
  | none =>
    rw [effect] at outcome
    cases outcome with
    | nothing unchanged => simpa only [Books.refund, effect, unchanged] using covered
  | some pair =>
    obtain ⟨record, saved⟩ := pair
    rw [effect] at outcome
    cases outcome with
    | refund _ _ sub found consumed held called =>
      obtain ⟨charge, booked, current, pending, enough⟩ := timely record found consumed
      obtain ⟨stored, keyed⟩ := Table.lookup_eq_some.mp booked
      have own : record.userSubscriptionId = charge.subscriptionId := by
        obtain ⟨other, present, on⟩ := covered.recorded charge stored
        rw [keyed, found, Option.some.injEq] at present
        rw [present, on]
      rw [own] at held
      have same := Table.key_of_lookup held
      have before : charge.outstanding sub.id = charge.charged := by
        simp [RequestCharge.outstanding, same, current, pending]
      simp only [Books.refund, effect, booked, called]
      cases saved with
      | false =>
        have lowered : charge.charged - record.preConsumed - charge.outstanding sub.id ≤
            max (sub.amountUsed - record.preConsumed) 0 - sub.amountUsed := by omega
        refine covered_of_change covered (by simpa [keyed] using booked) (by simp) held ?_
        simpa [RequestCharge.outstanding, same, current, pending] using lowered
      | true =>
        have lowered : 0 - charge.outstanding sub.id ≤
            max (sub.amountUsed - record.preConsumed) 0 - sub.amountUsed := by omega
        have settled : Books.Covered ⟨books.db.saveSubscription (sub.refunded record.preConsumed),
            books.charges.save { charge with refunded := true }⟩ := by
          refine covered_of_change covered (by simpa [keyed] using booked) (by simp) held ?_
          simpa [RequestCharge.outstanding, same, current, pending] using lowered
        have named := Table.key_of_lookup found
        exact covered_of_saveRecord settled found named rfl

theorem covered_of_check {sub : UserSubscription} (member : sub ∈ books.db.subscriptions) (checked : check.Of sub) :
    Books.Covered ⟨books.db.saveSubscription check.sub,
      books.charges.update check.closePeriod check.closePeriod_requestId⟩ := by
  refine ⟨?_, ?_⟩
  · intro row present
    simp only [Books.outstanding, outstanding_closePeriod]
    rcases Table.mem_save.mp present with ⟨rfl, _⟩ | ⟨kept, other⟩
    · have before := covered.covered sub member
      obtain ⟨last, next, same⟩ := checked
      rw [same]
      cases check.advanced with
      | true => simp
      | false => simpa [Books.outstanding] using before
    · have apart : ¬ (check.advanced ∧ check.sub.id = row.id) := fun closed => other closed.2.symm
      rw [if_neg apart]
      exact covered.covered row kept
  · intro charge present
    simp only [Table.mem_update] at present
    obtain ⟨old, stored, rfl⟩ := present
    obtain ⟨record, found, on⟩ := covered.recorded old stored
    refine ⟨record, ?_, ?_⟩
    · rw [check.closePeriod_requestId]
      exact found
    · rw [on, ResetCheck.closePeriod]
      split <;> rfl

theorem reset_preserves_covered (limit : Int) : (books.reset env limit).Covered := by
  obtain ⟨db, charges⟩ := books
  simp only [Books.reset, resetDueSubscriptions]
  generalize dueRows env db limit = rows
  induction rows generalizing db charges with
  | nil => exact covered
  | cons sub rest ih =>
    cases found : env.plan sub.planId with
    | none => simpa only [resetRows, found] using ih db charges covered
    | some plan =>
      cases reset : resetOneTx env db sub.id plan with
      | error reason =>
        simp only [resetRows, found, reset]
        exact covered
      | ok outcome =>
        cases outcome with
        | none => simpa only [resetRows, found, reset] using ih db charges covered
        | some check =>
          obtain ⟨source, member, checked⟩ := resetOneTx_of reset
          simp only [resetRows, found, reset]
          exact ih _ _ (covered_of_check covered member checked)

end

/-- The condition under which no transaction takes back usage of another period:
what lowers the usage belongs to a request of the current period that was not
refunded, and a refund is of an amount the request is still charged. -/
def Books.Timely (books : Books) : PeriodEvent → Prop
  | .settle _ requestId delta => delta < 0 → ∀ charge ∈ books.charges.lookup requestId,
      charge.current ∧ ¬ charge.refunded
  | .refund _ requestId => ∀ record ∈ books.db.record? requestId, record.status = .consumed →
      ∃ charge ∈ books.charges.lookup requestId,
        charge.current ∧ ¬ charge.refunded ∧ record.preConsumed ≤ charge.charged
  | _ => True

instance (books : Books) : (event : PeriodEvent) → Decidable (books.Timely event)
  | .preConsume .. | .reset .. => .isTrue trivial
  | .settle .. => inferInstanceAs (Decidable (_ → ∀ charge ∈ books.charges.lookup _, _))
  | .refund .. => inferInstanceAs (Decidable (∀ record ∈ books.db.record? _, _ → ∃ charge ∈ _, _))

theorem step_preserves_covered (books : Books) (event : PeriodEvent) (covered : books.Covered)
    (timely : books.Timely event) : (books.step event).Covered := by
  cases event with
  | preConsume env fault requestId userId amount => exact preConsume_preserves_covered covered
  | settle fault requestId delta => exact settle_preserves_covered covered timely
  | refund faults requestId => exact refund_preserves_covered covered timely
  | reset env limit => exact reset_preserves_covered covered limit

theorem opening_covered {db : Database} (nonneg : ∀ sub ∈ db.subscriptions, 0 ≤ sub.amountUsed) :
    (Books.opening db).Covered := by
  refine ⟨?_, fun charge member => absurd member Table.not_mem_empty⟩
  intro sub member
  exact nonneg sub member

/-- In every run whose steps are timely the usage of each subscription covers
what its requests of the current period have been charged. -/
theorem current_period_usage_covered (db : Database)
    (nonneg : ∀ sub ∈ db.subscriptions, 0 ≤ sub.amountUsed) (events : List PeriodEvent)
    (timely : Guarded Books.step Books.Timely (.opening db) events) :
    ∀ sub ∈ (run Books.step (.opening db) events).db.subscriptions,
      (run Books.step (.opening db) events).outstanding sub.id ≤ sub.amountUsed := by
  have covered := Guarded.invariant step_preserves_covered (opening_covered nonneg) timely
  exact covered.covered

def dailySubscription : Database :=
  let plan := thirtyDays "" "daily"
  run commit (.empty fun _ => some "default") [.createUserSubscriptionFromPlan (utcAt 1000 plan) 7 plan "order"]

def requestsOnTwoDays : List PeriodEvent :=
  let plan := thirtyDays "" "daily"
  [.preConsume (utcAt 2000 plan) none "first" 7 10,
    .reset (utcAt 90000 plan) 0,
    .preConsume (utcAt 90001 plan) none "second" 7 10]

theorem current_period_usage_covered_after_settlements :
    let books := run Books.step (.opening dailySubscription)
      (requestsOnTwoDays ++ [.settle none "second" 5, .settle none "second" (-3), .refund ⟨none, none, none⟩ "second"])
    ∀ sub ∈ books.db.subscriptions, books.outstanding sub.id ≤ sub.amountUsed := by
  exact current_period_usage_covered dailySubscription (by decide +kernel) _ (by decide +kernel)

/-- The refund of the first day's request erases the usage of the second day. -/
theorem late_refund_erases_current_usage :
    let books := run Books.step (.opening dailySubscription)
      (requestsOnTwoDays ++ [.refund ⟨none, none, none⟩ "first"])
    (books.db.subscription? 1).map (·.amountUsed) = some 0 ∧ books.outstanding 1 = 10 := by
  decide +kernel

end TokenFactory.Subscription
