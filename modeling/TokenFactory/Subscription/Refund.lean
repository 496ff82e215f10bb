import TokenFactory.Subscription.Bounds

namespace TokenFactory.Subscription

open Data Go

/-! Repeated calls of `RefundSubscriptionPreConsume`. -/

variable {db : Database} {requestId : String} {record : SubscriptionPreConsumeRecord}
  {sub : UserSubscription} {calls : List RefundFaults}

def refundCalls (db : Database) (requestId : String) :
    List RefundFaults → List (Except TxError Unit) × Database
  | [] => ([], db)
  | faults :: rest =>
    let call := refundSubscriptionPreConsume faults db requestId
    let later := refundCalls call.2 requestId rest
    (call.1 :: later.1, later.2)

/-- `refundWithRetry` with one entry per attempt; it stops at the first success. -/
def refundWithRetry (requestId : String) : List RefundFaults → Except TxError Unit → Database → Tx Unit
  | [], lastErr, db => (lastErr, db)
  | faults :: rest, _, db =>
    match refundSubscriptionPreConsume faults db requestId with
    | (.ok (), after) => (.ok (), after)
    | (.error reason, after) => refundWithRetry requestId rest (.error reason) after

theorem refundWithRetry_calls (attempts : List RefundFaults) (lastErr : Except TxError Unit)
    (db : Database) : ∃ made, made <+: attempts ∧
      (refundWithRetry requestId attempts lastErr db).2 = (refundCalls db requestId made).2 := by
  induction attempts generalizing lastErr db with
  | nil => exact ⟨[], List.prefix_rfl, rfl⟩
  | cons faults rest ih =>
    cases call : refundSubscriptionPreConsume faults db requestId with
    | mk answer after =>
      cases answer with
      | ok _ =>
        refine ⟨[faults], List.prefix_append [faults] rest, ?_⟩
        simp only [refundWithRetry, refundCalls, call]
      | error reason =>
        obtain ⟨made, initial, same⟩ := ih (.error reason) after
        refine ⟨faults :: made, List.cons_prefix_cons.mpr ⟨rfl, initial⟩, ?_⟩
        simp only [refundWithRetry, refundCalls, call, same]

def RefundFaults.reaches (faults : RefundFaults) : Bool := faults.lookup = none ∧ faults.delta = none

/-- How many calls commit their delta when the record is still to be refunded:
every call that reaches it, up to the first that saves the record as well. -/
def committedDeltas : List RefundFaults → Nat
  | [] => 0
  | faults :: rest =>
    if faults.reaches then
      if faults.save = none then 1 else committedDeltas rest + 1
    else committedDeltas rest

def succeeds : List RefundFaults → Bool
  | [] => false
  | faults :: rest => faults.reaches && faults.save = none || succeeds rest

def UserSubscription.refunded (sub : UserSubscription) (amount : Int) : UserSubscription :=
  { sub with amountUsed := max (sub.amountUsed - amount) 0 }

/-- The state in which a refund without failing statements succeeds. -/
structure Refundable (db : Database) (requestId : String) (record : SubscriptionPreConsumeRecord)
    (sub : UserSubscription) : Prop where
  named : trimSpace requestId ≠ ""
  found : db.record? requestId = some record
  consumed : record.status = .consumed
  held : db.subscription? record.userSubscriptionId = some sub
  accepted : usedAfter sub (-record.preConsumed) = some (sub.refunded record.preConsumed).amountUsed

namespace Refundable

section
variable (refundable : Refundable db requestId record sub)
include refundable

theorem delta {faults : RefundFaults}
    (reaches : faults.delta = none) : refundDelta faults db record =
      (.ok (), db.saveSubscription (sub.refunded record.preConsumed)) := by
  obtain ⟨member, same⟩ := Table.lookup_eq_some.mp refundable.held
  have positive := record.positive
  have assigned := db.assigned sub member
  have moves : ¬ record.preConsumed ≤ 0 := by omega
  have valid : ¬ record.userSubscriptionId ≤ 0 := by omega
  have changes : ¬ -record.preConsumed = 0 := by omega
  simp only [refundDelta, postConsumeUserSubscriptionDelta, moves, valid, changes, ↓reduceIte, reaches,
    refundable.held, refundable.accepted]
  rfl

theorem call {faults : RefundFaults}
    (reaches : faults.reaches = true) : refundSubscriptionPreConsume faults db requestId =
      match faults.save with
      | some text => (.error (.message text), db.saveSubscription (sub.refunded record.preConsumed))
      | none => (.ok (), (db.saveSubscription (sub.refunded record.preConsumed)).saveRecord
          { record with status := .refunded }) := by
  obtain ⟨lookup, delta⟩ : faults.lookup = none ∧ faults.delta = none := of_decide_eq_true reaches
  have pending : ¬ record.status = .refunded := by simp [refundable.consumed]
  cases saved : faults.save <;>
    simp only [refundSubscriptionPreConsume, refundable.named, ↓reduceIte, lookup, refundable.found, pending,
      refundable.delta delta, saved]

theorem stopped {faults : RefundFaults} (stops : faults.reaches = false) :
    ∃ reason, refundSubscriptionPreConsume faults db requestId = (.error reason, db) := by
  cases lookup : faults.lookup with
  | some text =>
    refine ⟨.message text, ?_⟩
    simp only [refundSubscriptionPreConsume, refundable.named, ↓reduceIte, lookup]
  | none =>
    cases delta : faults.delta with
    | none => simp [RefundFaults.reaches, lookup, delta] at stops
    | some text =>
      have positive := record.positive
      have moves : ¬ record.preConsumed ≤ 0 := by omega
      have changes : ¬ -record.preConsumed = 0 := by omega
      have pending : ¬ record.status = .refunded := by simp [refundable.consumed]
      obtain ⟨reason, failed⟩ : ∃ reason, refundDelta faults db record = (.error reason, db) := by
        simp only [refundDelta, postConsumeUserSubscriptionDelta, moves, changes, ↓reduceIte, delta]
        split
        · exact ⟨_, rfl⟩
        · exact ⟨_, rfl⟩
      refine ⟨reason, ?_⟩
      simp only [refundSubscriptionPreConsume, refundable.named, ↓reduceIte, lookup, refundable.found,
        pending, failed]

theorem held_after :
    (db.saveSubscription (sub.refunded record.preConsumed)).subscription? record.userSubscriptionId =
      some (sub.refunded record.preConsumed) := by
  have keyed := Table.key_of_lookup refundable.held
  exact Table.lookup_save_self refundable.held keyed

theorem found_after : ((db.saveSubscription (sub.refunded record.preConsumed)).saveRecord
      { record with status := .refunded }).record? requestId = some { record with status := .refunded } := by
  have keyed := Table.key_of_lookup refundable.found
  exact Table.lookup_save_self refundable.found keyed

theorem again : Refundable (db.saveSubscription (sub.refunded record.preConsumed)) requestId record
      (sub.refunded record.preConsumed) := by
  have positive := record.positive
  refine {
    named := refundable.named
    found := refundable.found
    consumed := refundable.consumed
    held := refundable.held_after
    accepted := usedAfter_eq_some.mpr ⟨?_, ?_⟩ }
  · simp only [UserSubscription.refunded, Int.sub_eq_add_neg]
  · intro limited
    have fits := (usedAfter_eq_some.mp refundable.accepted).2 limited
    simp only [UserSubscription.refunded] at fits ⊢
    omega

end

end Refundable

theorem refundCalls_of_refunded (found : db.record? requestId = some record)
    (refunded : record.status = .refunded) (calls : List RefundFaults) :
    (refundCalls db requestId calls).2 = db := by
  induction calls with
  | nil => rfl
  | cons faults rest ih =>
    cases call : refundSubscriptionPreConsume faults db requestId with
    | mk answer after =>
      rcases refund_cases call with ⟨rfl, _⟩ | ⟨other, _, present, consumed, _⟩
      · simpa only [refundCalls, call] using ih
      · rw [found, Option.some.injEq] at present
        rw [← present, refunded] at consumed
        cases consumed

theorem refundCalls_of_refundable (refundable : Refundable db requestId record sub)
    (calls : List RefundFaults) :
    (refundCalls db requestId calls).2.subscription? record.userSubscriptionId =
        some ((UserSubscription.refunded · record.preConsumed)^[committedDeltas calls] sub) ∧
      (.ok () ∈ (refundCalls db requestId calls).1 ↔ succeeds calls = true) ∧
      (refundCalls db requestId calls).2.record? requestId =
        some (if succeeds calls then { record with status := .refunded } else record) := by
  induction calls generalizing db sub with
  | nil => exact ⟨refundable.held, by simp [refundCalls, succeeds], refundable.found⟩
  | cons faults rest ih =>
    cases reaches : faults.reaches with
    | false =>
      obtain ⟨reason, call⟩ := refundable.stopped reaches
      simpa [refundCalls, committedDeltas, succeeds, call, reaches] using ih refundable
    | true =>
      have call := refundable.call reaches
      cases unsaved : faults.save with
      | some text =>
        -- the delta stays in place, so the next call starts from the smaller usage
        simpa [refundCalls, committedDeltas, succeeds, call, reaches, unsaved] using
          ih refundable.again
      | none =>
        have saved := refundable.found_after
        have rests := refundCalls_of_refunded saved rfl rest
        simp only [refundCalls, call, committedDeltas, succeeds, reaches, unsaved, rests]
        exact ⟨refundable.held_after, by simp, by simpa using saved⟩

theorem refund_rejected (found : db.record? requestId = some record)
    (consumed : record.status = .consumed)
    (rejected : ∀ sub, ¬ Refundable db requestId record sub) (faults : RefundFaults) :
    ∃ reason, refundSubscriptionPreConsume faults db requestId = (.error reason, db) := by
  by_cases blank : trimSpace requestId = ""
  · refine ⟨.message "requestId is empty", ?_⟩
    simp only [refundSubscriptionPreConsume, blank, ↓reduceIte]
  cases call : refundSubscriptionPreConsume faults db requestId with
  | mk answer after =>
    rcases refund_cases call with ⟨rfl, succeeded⟩ | ⟨other, settled, present, _, delta, _⟩
    · cases answer with
      | error reason => exact ⟨reason, rfl⟩
      | ok _ =>
        obtain ⟨other, present, refunded⟩ := succeeded rfl
        rw [found, Option.some.injEq] at present
        rw [← present, consumed] at refunded
        cases refunded
    · obtain rfl : record = other := by simpa [found] using present
      have positive := record.positive
      rw [refundDelta, if_neg (by omega)] at delta
      rcases postConsume_cases delta with ⟨_, unchanged⟩ | ⟨sub, newUsed, held, accepted, _, _⟩
      · have := unchanged rfl
        omega
      · refine absurd ⟨blank, found, consumed, held, ?_⟩ (rejected sub)
        rw [accepted, (usedAfter_eq_some.mp accepted).1]
        rfl

theorem refundCalls_of_rejected (found : db.record? requestId = some record)
    (consumed : record.status = .consumed)
    (rejected : ∀ sub, ¬ Refundable db requestId record sub) (calls : List RefundFaults) :
    (refundCalls db requestId calls).2 = db ∧ .ok () ∉ (refundCalls db requestId calls).1 := by
  induction calls with
  | nil => exact ⟨rfl, List.not_mem_nil⟩
  | cons faults rest ih =>
    obtain ⟨reason, call⟩ := refund_rejected found consumed rejected faults
    simpa [refundCalls, call] using ih

/-- Together the calls take at most one refund off the usage; when one of them
has succeeded, the record is refunded and exactly one refund was taken. -/
structure RefundedOnce (db : Database) (requestId : String) (record : SubscriptionPreConsumeRecord)
    (calls : List RefundFaults) : Prop where
  atMost : ∀ sub, db.subscription? record.userSubscriptionId = some sub →
    (refundCalls db requestId calls).2.subscription? record.userSubscriptionId = some sub ∨
      (refundCalls db requestId calls).2.subscription? record.userSubscriptionId =
        some (sub.refunded record.preConsumed)
  exactly : .ok () ∈ (refundCalls db requestId calls).1 →
    (refundCalls db requestId calls).2.record? requestId = some { record with status := .refunded } ∧
      ∃ sub, db.subscription? record.userSubscriptionId = some sub ∧
        (refundCalls db requestId calls).2.subscription? record.userSubscriptionId =
          some (sub.refunded record.preConsumed)

theorem committedDeltas_pos (succeeded : succeeds calls = true) : 0 < committedDeltas calls := by
  induction calls with
  | nil => cases succeeded
  | cons faults rest ih =>
    simp only [succeeds, Bool.or_eq_true, Bool.and_eq_true, decide_eq_true_eq] at succeeded
    simp only [committedDeltas]
    rcases succeeded with ⟨reaches, saved⟩ | later
    · simp [reaches, saved]
    · have := ih later
      repeat' split
      all_goals omega

theorem refundedOnce_of_single (found : db.record? requestId = some record)
    (consumed : record.status = .consumed) (calls : List RefundFaults)
    (single : committedDeltas calls ≤ 1) : RefundedOnce db requestId record calls := by
  by_cases refundable : ∃ sub, Refundable db requestId record sub
  · obtain ⟨sub, refundable⟩ := refundable
    obtain ⟨used, answered, stored⟩ := refundCalls_of_refundable refundable calls
    refine ⟨?_, ?_⟩
    · intro other held
      obtain rfl : sub = other := by simpa [refundable.held] using held
      rcases Nat.le_one_iff_eq_zero_or_eq_one.mp single with unused | one
      · exact .inl (by simpa [unused] using used)
      · exact .inr (by simpa [one] using used)
    · intro succeeded
      have success := answered.mp succeeded
      have one : committedDeltas calls = 1 := by
        have := committedDeltas_pos success
        omega
      exact ⟨by simpa [success] using stored, sub, refundable.held, by simpa [one] using used⟩
  · obtain ⟨same, failed⟩ :=
      refundCalls_of_rejected found consumed (not_exists.mp refundable) calls
    refine ⟨?_, fun succeeded => absurd succeeded failed⟩
    intro sub held
    rw [same]
    exact .inl held

theorem refunded_iterate {amount : Int} (positive : 0 < amount) (sub : UserSubscription) (count : Nat) :
    ((UserSubscription.refunded · amount)^[count + 1] sub).amountUsed =
      max (sub.amountUsed - (count + 1) * amount) 0 := by
  induction count with
  | zero => simp [UserSubscription.refunded]
  | succ count ih =>
    rw [Function.iterate_succ_apply', UserSubscription.refunded, ih, Int.natCast_succ]
    have step : (((count : Int) + 1) + 1) * amount = (count + 1) * amount + amount := by
      rw [Int.add_mul _ 1, Int.one_mul]
    dsimp only
    omega

theorem single_of_refundedOnce (refundable : Refundable db requestId record sub)
    (charged : record.preConsumed < sub.amountUsed)
    (once : RefundedOnce db requestId record calls) : committedDeltas calls ≤ 1 := by
  by_contra several
  obtain ⟨count, repeated⟩ : ∃ count, committedDeltas calls = count + 1 + 1 :=
    ⟨committedDeltas calls - 2, by omega⟩
  obtain ⟨used, _⟩ := refundCalls_of_refundable refundable calls
  have positive := record.positive
  have amount := refunded_iterate positive sub (count + 1)
  rw [← repeated] at amount
  have more : 2 * record.preConsumed ≤ ((count + 1 : Nat) + 1) * record.preConsumed :=
    Int.mul_le_mul_of_nonneg_right (by omega) (by omega)
  rcases once.atMost sub refundable.held with same | single
  · rw [used, Option.some.injEq] at same
    rw [same] at amount
    omega
  · rw [used, Option.some.injEq] at single
    rw [single, UserSubscription.refunded] at amount
    dsimp only at amount
    omega

/-- The refund is applied once when at most one call commits its delta, and on a
refundable record with a usage above the amount only then. -/
theorem refund_applied_once (found : db.record? requestId = some record)
    (consumed : record.status = .consumed) (calls : List RefundFaults) :
    (committedDeltas calls ≤ 1 → RefundedOnce db requestId record calls) ∧
    ∀ sub, Refundable db requestId record sub → record.preConsumed < sub.amountUsed →
      RefundedOnce db requestId record calls → committedDeltas calls ≤ 1 := by
  refine ⟨refundedOnce_of_single found consumed calls, ?_⟩
  intro sub refundable charged
  exact single_of_refundedOnce refundable charged

/-- Two purchases of quota, 40 and 60 units, on one subscription. -/
def fullyCharged : Database :=
  let plan := thirtyDays "" "never"
  run commit (.empty fun _ => some "default") [
    .createUserSubscriptionFromPlan (utcAt 1000 plan) 7 plan "order",
    .preConsumeUserSubscription (utcAt 2000 plan) none "first" 7 40,
    .preConsumeUserSubscription (utcAt 2000 plan) none "second" 7 60]

theorem refund_applied_once_after_failed_delta :
    ∃ record, fullyCharged.record? "first" = some record ∧
      RefundedOnce fullyCharged "first" record [⟨none, some "connection lost", none⟩, ⟨none, none, none⟩] := by
  cases found : fullyCharged.record? "first" with
  | none => exact absurd found (by decide +kernel)
  | some record =>
    have consumed : (fullyCharged.record? "first").map (·.status) = some .consumed := by decide +kernel
    rw [found] at consumed
    exact ⟨record, rfl, (refund_applied_once found (Option.some.inj consumed) _).1 (by decide)⟩

/-- The first call commits its delta and fails to save the record; the retry
refunds the same 40 units again. -/
theorem refund_applied_twice_after_failed_save :
    let calls : List RefundFaults := [⟨none, none, some "connection lost"⟩, ⟨none, none, none⟩]
    let outcome := refundCalls fullyCharged "first" calls
    (fullyCharged.record? "first").map (fun record => (record.preConsumed, record.status)) =
        some (40, .consumed) ∧
      (fullyCharged.subscription? 1).map (·.amountUsed) = some 100 ∧
      outcome.1 = [.error (.message "connection lost"), .ok ()] ∧
      (outcome.2.subscription? 1).map (·.amountUsed) = some 20 := by
  decide +kernel

end TokenFactory.Subscription
