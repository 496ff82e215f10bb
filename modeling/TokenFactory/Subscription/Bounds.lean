import TokenFactory.Data.Run
import TokenFactory.Subscription.Evolution

namespace TokenFactory.Subscription

open Data Go

variable {env : Env} {db after : Database} {sub row : UserSubscription}

/-- A limited subscription never uses less than nothing or more than its total. -/
def UserSubscription.QuotaBound (sub : UserSubscription) : Prop :=
  0 < sub.amountTotal → 0 ≤ sub.amountUsed ∧ sub.amountUsed ≤ sub.amountTotal

instance (sub : UserSubscription) : Decidable sub.QuotaBound := inferInstanceAs (Decidable (_ → _))

theorem lacksQuota_eq_false {amount : Int} : lacksQuota amount sub = false ↔
      (0 < sub.amountTotal → sub.amountUsed + amount ≤ sub.amountTotal) := by
  unfold lacksQuota
  rw [decide_eq_false_iff_not]
  omega

theorem usedAfter_eq_some {delta newUsed : Int} : usedAfter sub delta = some newUsed ↔
      newUsed = max (sub.amountUsed + delta) 0 ∧ (0 < sub.amountTotal → newUsed ≤ sub.amountTotal) := by
  unfold usedAfter
  dsimp only
  split
  · rename_i exceeds
    simp only [reduceCtorEq, false_iff, not_and, not_forall]
    intro same
    exact ⟨exceeds.1, by omega⟩
  · rw [Option.some.injEq]
    omega

theorem rowChange_preserves_quotaBound (changed : RowChange sub row) (bounded : sub.QuotaBound) :
    row.QuotaBound := by
  intro limited
  cases changed with
  | checked checked =>
    obtain ⟨last, next, same⟩ := checked
    rw [same] at limited ⊢
    have before := bounded limited
    dsimp only at limited ⊢
    split <;> omega
  | charged positive room =>
    have before := bounded limited
    have fits := lacksQuota_eq_false.mp room limited
    exact ⟨by dsimp only; omega, fits⟩
  | settled accepted =>
    obtain ⟨rfl, fits⟩ := usedAfter_eq_some.mp accepted
    exact ⟨le_max_right _ _, fits limited⟩
  | expired => exact bounded limited
  | cancelled => exact bounded limited

theorem commit_preserves_quotaBound (db : Database) (transaction : Transaction)
    (bounded : ∀ sub ∈ db.subscriptions, sub.QuotaBound) :
    ∀ sub ∈ (commit db transaction).subscriptions, sub.QuotaBound := by
  apply (commit_evolves db transaction).invariant _ _ bounded
  · intro row unused limited
    omega
  · intro before after changed
    exact rowChange_preserves_quotaBound changed

/-- Along every run of transactions the limited subscriptions stay within their
totals, and a pre-consume with a new request id adds its amount to one active,
unexpired subscription of the user. `check` is the reset check of the charged
row, which comes first; other rows are left alone or only checked. -/
theorem subscription_quota_bound (start : Database)
    (bounded : ∀ sub ∈ start.subscriptions, sub.QuotaBound) (transactions : List Transaction) :
    (∀ sub ∈ (run commit start transactions).subscriptions, sub.QuotaBound) ∧
    ∀ env fault requestId userId amount result after,
      (run commit start transactions).record? requestId = none →
      preConsumeUserSubscription env fault (run commit start transactions) requestId userId amount =
        (.ok result, after) → ∃ sub ∈ (run commit start transactions).subscriptions, ∃ check,
        sub.userId = userId ∧ sub.status = .active ∧ env.now < sub.endTime ∧
        checkRow env sub = some check ∧
        check.sub.amountUsed = (if check.advanced then 0 else sub.amountUsed) ∧
        after.subscription? sub.id =
          some { check.sub with amountUsed := check.sub.amountUsed + amount } ∧
        (∀ other ∈ (run commit start transactions).subscriptions, other.id ≠ sub.id →
          after.subscription? other.id = some other ∨
          ∃ passed, checkRow env other = some passed ∧
            after.subscription? other.id = some passed.sub) ∧
        (∀ row ∈ after.subscriptions, ∃ old ∈ (run commit start transactions).subscriptions,
          old.id = row.id) := by
  refine ⟨?_, ?_⟩
  · exact run_invariant commit_preserves_quotaBound bounded transactions
  · intro env fault requestId userId amount result after free done
    obtain ⟨passed, sub, check, charge, _⟩ := preConsume_fresh free done
    have active : sub.status = .active ∧ sub.endTime > env.now := of_decide_eq_true charge.active
    refine ⟨sub, charge.member, check, charge.owner, active.1, active.2, charge.checked, ?_,
      charge.charged, fun other member apart => charge.others member apart, ?_⟩
    · obtain ⟨last, next, same⟩ := checkRow_of charge.checked
      rw [same]
    · intro row member
      rcases charge.mem_after.mp member with rfl | ⟨check, among, rfl⟩ | ⟨present, _⟩
      · exact ⟨sub, charge.member, (checkRow_of charge.checked).id.symm⟩
      · obtain ⟨source, present, checked⟩ := charge.passedOver check among
        exact ⟨source, present, (checkRow_of checked).id.symm⟩
      · exact ⟨row, present, rfl⟩

/-! A concrete plan and clock, for runs on fixed inputs. -/

def thirtyDays (upgradeGroup quotaResetPeriod : String) : SubscriptionPlan where
  id := 1
  durationUnit := .day
  durationValue := 30
  customSeconds := 0
  maxPurchasePerUser := 0
  upgradeGroup
  totalAmount := 100
  quotaResetPeriod
  quotaResetCustomSeconds := 0

def utcAt (now : Int) (plan : SubscriptionPlan) : Env where
  now
  location := .fixed 0
  plan id := if id = plan.id then some plan else none

theorem subscription_quota_bound_after_purchase :
    let plan := thirtyDays "" "never"
    let bought := run commit (.empty fun _ => some "default")
      [.createUserSubscriptionFromPlan (utcAt 1000 plan) 7 plan "order"]
    let paid := preConsumeUserSubscription (utcAt 2000 plan) none bought "request" 7 40
    (∀ sub ∈ bought.subscriptions, sub.QuotaBound) ∧
      ∃ sub ∈ bought.subscriptions, ∃ check, checkRow (utcAt 2000 plan) sub = some check ∧
        paid.2.subscription? sub.id =
          some { check.sub with amountUsed := check.sub.amountUsed + 40 } := by
  intro plan bought paid
  have holds := subscription_quota_bound (.empty fun _ => some "default")
    (fun sub member => absurd member Table.not_mem_empty)
    [.createUserSubscriptionFromPlan (utcAt 1000 plan) 7 plan "order"]
  have fresh : bought.record? "request" = none := by decide +kernel
  have answered : paid.1 = .ok ⟨1, 40, 100, 0, 40⟩ := by decide +kernel
  have done : paid = (.ok ⟨1, 40, 100, 0, 40⟩, paid.2) := by rw [← answered]
  obtain ⟨sub, member, check, _, _, _, checked, _, charged, _⟩ := holds.2 _ _ _ _ _ _ _ fresh done
  exact ⟨holds.1, sub, member, check, checked, charged⟩

end TokenFactory.Subscription
