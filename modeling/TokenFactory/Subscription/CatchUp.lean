import TokenFactory.Subscription.Period

namespace TokenFactory.Subscription

open Go

/-! The catch-up of a custom reset period. -/

/-- The instant from which the resets of a row are counted. -/
def UserSubscription.resetBase (sub : UserSubscription) : Int :=
  if sub.lastResetTime = 0 then sub.startTime else sub.lastResetTime

/-- How many of the instants `base + seconds`, `base + 2 * seconds`, ... are not after `bound`. -/
noncomputable def periodsWithin (base seconds bound : Int) : Nat :=
  Set.ncard {i : Nat | 1 ≤ i ∧ base + i * seconds ≤ bound}

theorem periodsWithin_eq {base seconds bound : Int} (positive : 0 < seconds) :
    periodsWithin base seconds bound = ((bound - base) / seconds).toNat := by
  have interval : {i : Nat | 1 ≤ i ∧ base + i * seconds ≤ bound} =
      Finset.Icc 1 ((bound - base) / seconds).toNat := by
    ext count
    have reached : count * seconds ≤ bound - base ↔ count ≤ (bound - base) / seconds :=
      (Int.le_ediv_iff_mul_le positive).symm
    rw [Set.mem_ofPred_eq, Finset.coe_Icc, Set.mem_Icc]
    omega
  rw [periodsWithin, interval, Set.ncard_coe_finset, Nat.card_Icc]
  omega

section Count

variable {base seconds bound : Int} (positive : 0 < seconds)
include positive

theorem le_bound_of_periodsWithin (passed : 0 < periodsWithin base seconds bound) :
    base + periodsWithin base seconds bound * seconds ≤ bound := by
  rw [periodsWithin_eq positive] at passed ⊢
  have whole : (((bound - base) / seconds).toNat : Int) = (bound - base) / seconds := by omega
  have := Int.ediv_mul_le (bound - base) positive.ne'
  rw [whole]
  omega

theorem bound_lt_of_periodsWithin :
    bound < base + periodsWithin base seconds bound * seconds + seconds := by
  rw [periodsWithin_eq positive]
  have next := Int.lt_ediv_add_one_mul_self (bound - base) positive
  have atLeast : ((bound - base) / seconds) * seconds ≤ ((bound - base) / seconds).toNat * seconds :=
    Int.mul_le_mul_of_nonneg_right (Int.self_le_toNat _) positive.le
  rw [add_mul, one_mul] at next
  omega

end Count

/-- The plan resets every `seconds`, and the product with `time.Second` does not wrap. -/
structure SubscriptionPlan.ResetsEvery (plan : SubscriptionPlan) (seconds : Int) : Prop where
  custom : normalizeResetPeriod plan.quotaResetPeriod = .custom
  seconds_eq : plan.quotaResetCustomSeconds = seconds
  positive : 0 < seconds
  fits : seconds * 10 ^ 9 ≤ 2 ^ 63 - 1

section Loop

variable {plan : SubscriptionPlan} {seconds endTime now : Int} {location : Location}

theorem calcNextResetTime_custom (every : plan.ResetsEvery seconds) (ends : 0 < endTime) (base : Int) :
    calcNextResetTime location base plan endTime =
      if base + seconds ≤ endTime then base + seconds else 0 := by
  have added : addDuration base (duration seconds second) = base + seconds := by
    have wraps : duration seconds second = seconds * second := by
      have := every.positive
      have := every.fits
      exact Int.bmod_eq_of_le (by unfold second; omega) (by unfold second; omega)
    rw [addDuration, wraps, Int.mul_ediv_cancel _ (by decide)]
  unfold calcNextResetTime nextReset
  rw [every.custom, every.seconds_eq]
  simp only [if_neg (not_le.mpr every.positive), added]
  by_cases within : base + seconds ≤ endTime
  · rw [if_pos within, if_neg (fun late => by omega)]
  · rw [if_neg within, if_pos ⟨ends, by omega⟩]

/-- The loop runs once for every reset that is due and stops at the last of them.
The induction is on their number; the base moves with it. -/
theorem advanceReset_custom (every : plan.ResetsEvery seconds) (ends : 0 < endTime) {count : Nat} :
    ∀ {base : Int} {fuel : Nat} (advanced : Bool), 0 < base + seconds → count ≤ fuel →
      (0 < count → base + count * seconds ≤ min now endTime) →
      min now endTime < base + count * seconds + seconds →
      advanceReset location plan endTime now fuel advanced base
          (calcNextResetTime location base plan endTime) =
        some (advanced || decide (0 < count), base + count * seconds,
          calcNextResetTime location (base + count * seconds) plan endTime) := by
  have positive := every.positive
  induction count with
  | zero =>
    intro base fuel advanced started enough reached past
    have stops : ¬ (calcNextResetTime location base plan endTime > 0 ∧
        calcNextResetTime location base plan endTime ≤ now) := by
      rw [calcNextResetTime_custom every ends]
      split <;> omega
    unfold advanceReset
    rw [if_neg stops]
    simp
  | succ count ih =>
    intro base fuel advanced started enough reached past
    have due : base + seconds ≤ min now endTime := by
      have : 0 ≤ (count : Int) * seconds := by positivity
      push_cast at *
      rw [add_mul] at *
      omega
    have next : calcNextResetTime location base plan endTime = base + seconds := by
      rw [calcNextResetTime_custom every ends, if_pos (by omega)]
    obtain ⟨fuel, rfl⟩ := Nat.exists_eq_succ_of_ne_zero (show fuel ≠ 0 by omega)
    have moved : base + seconds + count * seconds = base + (count + 1 : Nat) * seconds := by
      push_cast
      ring
    unfold advanceReset
    rw [next, if_pos (by omega)]
    have rest := @ih (base + seconds) fuel true (by omega) (Nat.le_of_succ_le_succ enough)
      (fun _ => moved ▸ reached (by omega)) (by rw [moved]; exact past)
    rw [moved] at rest
    simpa using rest

end Loop

/-- The resets of a row that are due at `now` and not after its end. -/
noncomputable def UserSubscription.missedResets (sub : UserSubscription) (seconds now : Int) : Nat :=
  periodsWithin sub.resetBase seconds (min now sub.endTime)

/-- One check passes over exactly the missed resets, and a second check at the
same time finds nothing to do. -/
def CatchesUp (env : Env) (plan : SubscriptionPlan) (sub : UserSubscription) (seconds : Int) : Prop :=
  ∃ check, maybeResetUserSubscriptionWithPlanTx env sub plan = some check ∧
    (1 ≤ sub.missedResets seconds env.now →
      check.sub.amountUsed = 0 ∧
      check.sub.lastResetTime = sub.resetBase + sub.missedResets seconds env.now * seconds ∧
      check.sub.nextResetTime =
        if check.sub.lastResetTime + seconds ≤ sub.endTime then check.sub.lastResetTime + seconds else 0) ∧
    (sub.missedResets seconds env.now = 0 → check.sub.amountUsed = sub.amountUsed) ∧
    maybeResetUserSubscriptionWithPlanTx env check.sub plan = some ⟨check.sub, false⟩

def UserSubscription.resetTo (sub : UserSubscription) (last next : Int) : UserSubscription :=
  { sub with amountUsed := 0, lastResetTime := last, nextResetTime := next }

def UserSubscription.announce (sub : UserSubscription) (last next : Int) : UserSubscription :=
  { sub with nextResetTime := next, lastResetTime := last }

section Fields

variable (sub : UserSubscription) (last next : Int)

@[simp] theorem resetTo_amountUsed : (sub.resetTo last next).amountUsed = 0 := rfl
@[simp] theorem resetTo_lastResetTime : (sub.resetTo last next).lastResetTime = last := rfl
@[simp] theorem resetTo_nextResetTime : (sub.resetTo last next).nextResetTime = next := rfl
@[simp] theorem resetTo_endTime : (sub.resetTo last next).endTime = sub.endTime := rfl
@[simp] theorem announce_amountUsed : (sub.announce last next).amountUsed = sub.amountUsed := rfl

end Fields

section Check

variable {env : Env} {plan : SubscriptionPlan} {sub : UserSubscription} {seconds : Int}

theorem maybeReset_ahead (ahead : 0 < sub.nextResetTime ∧ env.now < sub.nextResetTime) :
    maybeResetUserSubscriptionWithPlanTx env sub plan = some ⟨sub, false⟩ := by
  unfold maybeResetUserSubscriptionWithPlanTx
  rw [if_pos ahead]

theorem maybeReset_due (every : plan.ResetsEvery seconds) (ends : 0 < sub.endTime)
    (recorded : 0 ≤ sub.lastResetTime) (first : 0 < sub.resetBase + seconds)
    (due : ¬ (0 < sub.nextResetTime ∧ env.now < sub.nextResetTime)) :
    let count := sub.missedResets seconds env.now
    let last := sub.resetBase + count * seconds
    let next := calcNextResetTime env.location last plan sub.endTime
    maybeResetUserSubscriptionWithPlanTx env sub plan = some
      (if 0 < count then ⟨sub.resetTo last next, true⟩
      else if sub.nextResetTime = 0 ∧ 0 < next then ⟨sub.announce last next, false⟩
      else ⟨sub, false⟩) := by
  intro count last next
  have base : (if sub.lastResetTime ≤ 0 then sub.startTime else sub.lastResetTime) = sub.resetBase := by
    unfold UserSubscription.resetBase
    by_cases unset : sub.lastResetTime = 0
    · rw [if_pos unset, if_pos (by omega)]
    · rw [if_neg unset, if_neg (by omega)]
  have reached : 0 < count → sub.resetBase + count * seconds ≤ min env.now sub.endTime :=
    le_bound_of_periodsWithin every.positive
  have enough : count ≤ env.now.toNat := by
    rcases count.eq_zero_or_pos with zero | missed
    · omega
    · have : (count - 1 : Int) * 1 ≤ (count - 1) * seconds :=
        Int.mul_le_mul_of_nonneg_left every.positive (by omega)
      rw [mul_one, sub_mul, one_mul] at this
      omega
  have loop := @advanceReset_custom plan seconds sub.endTime env.now env.location every ends count
    sub.resetBase env.now.toNat false first enough reached (bound_lt_of_periodsWithin every.positive)
  unfold maybeResetUserSubscriptionWithPlanTx
  rw [if_neg due, if_neg (by rw [every.custom]; decide)]
  simp only [base, loop]
  by_cases missed : 0 < count
  · simp [missed, last, next, UserSubscription.resetTo]
  · simp only [missed, decide_false, Bool.or_self, if_false]
    split <;> rfl

theorem missedResets_eq_zero_of_past (positive : 0 < seconds)
    (past : min env.now sub.endTime < sub.resetBase + seconds) :
    sub.missedResets seconds env.now = 0 := by
  by_contra missed
  have reached := le_bound_of_periodsWithin positive (Nat.pos_of_ne_zero missed)
  have : (1 : Int) * seconds ≤ sub.missedResets seconds env.now * seconds :=
    Int.mul_le_mul_of_nonneg_right (by omega) positive.le
  unfold UserSubscription.missedResets at *
  omega

theorem maybeReset_again (every : plan.ResetsEvery seconds) (ends : 0 < sub.endTime)
    (reset : 0 < sub.lastResetTime) (past : min env.now sub.endTime < sub.lastResetTime + seconds)
    (next : sub.nextResetTime = calcNextResetTime env.location sub.lastResetTime plan sub.endTime) :
    maybeResetUserSubscriptionWithPlanTx env sub plan = some ⟨sub, false⟩ := by
  have positive := every.positive
  have last : sub.resetBase = sub.lastResetTime := if_neg reset.ne'
  rw [calcNextResetTime_custom every ends] at next
  by_cases within : sub.lastResetTime + seconds ≤ sub.endTime
  · exact maybeReset_ahead (by omega)
  · rw [maybeReset_due every ends reset.le (by omega) (by omega),
      missedResets_eq_zero_of_past positive (last.symm ▸ past)]
    have nothing : calcNextResetTime env.location sub.lastResetTime plan sub.endTime = 0 := by
      rw [calcNextResetTime_custom every ends, if_neg within]
    simp [last, nothing]

end Check

/-- A custom reset catches up exactly where its first reset is at a positive time: the code takes
a last reset that is not positive for "never", and a next reset that is not positive for "none".
A next reset that is ahead is counted from the last one, and so from a base that is not negative. -/
theorem custom_reset_catches_up (env : Env) (plan : SubscriptionPlan) (sub : UserSubscription)
    (seconds : Int) (every : plan.ResetsEvery seconds) (ends : 0 < sub.endTime)
    (next : sub.nextResetTime = 0 ∨ sub.nextResetTime = sub.lastResetTime + seconds)
    (recorded : 0 ≤ sub.lastResetTime) (first : 0 < sub.resetBase + seconds)
    (counted : env.now < sub.nextResetTime → 0 ≤ sub.resetBase) : CatchesUp env plan sub seconds := by
  have positive := every.positive
  by_cases ahead : 0 < sub.nextResetTime ∧ env.now < sub.nextResetTime
  · have fromLast : sub.lastResetTime ≤ sub.resetBase := by
      unfold UserSubscription.resetBase at *
      split <;> simp_all
    have nothing : sub.missedResets seconds env.now = 0 := missedResets_eq_zero_of_past positive (by omega)
    refine ⟨⟨sub, false⟩, maybeReset_ahead ahead, fun missed => ?_, fun _ => rfl, maybeReset_ahead ahead⟩
    omega
  have checked := maybeReset_due every ends recorded first ahead
  have past : min env.now sub.endTime <
      sub.resetBase + sub.missedResets seconds env.now * seconds + seconds :=
    bound_lt_of_periodsWithin positive
  rcases Nat.eq_zero_or_pos (sub.missedResets seconds env.now) with zero | missed
  · simp only [zero, Nat.cast_zero, zero_mul, add_zero, lt_irrefl, if_false] at checked past
    by_cases announced : sub.nextResetTime = 0 ∧
        0 < calcNextResetTime env.location sub.resetBase plan sub.endTime
    · -- the first check announces the next reset, which the second finds ahead
      have soon : env.now < calcNextResetTime env.location sub.resetBase plan sub.endTime := by
        have coming := announced.2
        rw [calcNextResetTime_custom every ends] at coming ⊢
        split at coming
        · omega
        · omega
      rw [if_pos announced] at checked
      refine ⟨_, checked, fun missed => absurd zero (Nat.ne_of_gt missed), fun _ => ?_, maybeReset_ahead ?_⟩
      · rw [announce_amountUsed]
      · exact ⟨announced.2, soon⟩
    · rw [if_neg announced] at checked
      exact ⟨_, checked, fun missed => absurd zero (Nat.ne_of_gt missed), fun _ => rfl, checked⟩
  · have moved : 0 < sub.resetBase + sub.missedResets seconds env.now * seconds := by
      have : (1 : Int) * seconds ≤ sub.missedResets seconds env.now * seconds :=
        Int.mul_le_mul_of_nonneg_right (by omega) positive.le
      omega
    simp only [if_pos missed] at checked
    refine ⟨_, checked, fun _ => ⟨?_, ?_, ?_⟩, fun zero => absurd zero missed.ne', ?_⟩
    · rw [resetTo_amountUsed]
    · rw [resetTo_lastResetTime]
    · rw [resetTo_nextResetTime, resetTo_lastResetTime, calcNextResetTime_custom every ends]
    · apply maybeReset_again every
      · exact ends
      · exact moved
      · exact past
      · rw [resetTo_nextResetTime, resetTo_lastResetTime, resetTo_endTime]

/-! A row that was opened at -100 and resets every 50 seconds. -/

def everyFifty : SubscriptionPlan where
  id := 1
  durationUnit := .day
  durationValue := 30
  customSeconds := 0
  maxPurchasePerUser := 0
  upgradeGroup := ""
  totalAmount := 100
  quotaResetPeriod := "custom"
  quotaResetCustomSeconds := 50

def openedAt (startTime : Int) : UserSubscription where
  id := 1
  userId := 7
  planId := 1
  amountTotal := 100
  amountUsed := 40
  startTime
  endTime := 2000
  status := .active
  source := "order"
  lastResetTime := 0
  nextResetTime := 0
  upgradeGroup := ""
  prevUserGroup := ""

def clockAt (now : Int) : Env := ⟨now, .fixed 0, fun _ => some everyFifty⟩

theorem everyFifty_resets : everyFifty.ResetsEvery 50 := ⟨by decide +kernel, rfl, by decide, by decide⟩

theorem custom_reset_catches_up_opened : CatchesUp (clockAt 1000) everyFifty (openedAt 100) 50 :=
  custom_reset_catches_up (clockAt 1000) everyFifty (openedAt 100) 50 everyFifty_resets (by decide) (.inl rfl)
    (by decide) (by decide) (by decide)

/-- From a negative start the first reset would be at a negative time, which the
code takes for "no further reset". -/
theorem custom_reset_misses_negative_times :
    ¬ ∀ (env : Env) (plan : SubscriptionPlan) (sub : UserSubscription) (seconds : Int),
      plan.ResetsEvery seconds → 0 < sub.endTime →
      (sub.nextResetTime = 0 ∨ sub.nextResetTime = sub.lastResetTime + seconds) →
      CatchesUp env plan sub seconds := by
  intro everywhere
  obtain ⟨check, checked, reset, _⟩ :=
    everywhere (clockAt 1000) everyFifty (openedAt (-100)) 50 everyFifty_resets (by decide) (.inl rfl)
  cases checked
  have missed : 1 ≤ (openedAt (-100)).missedResets 50 1000 := by
    rw [UserSubscription.missedResets, periodsWithin_eq (by decide)]
    decide
  exact absurd (reset missed).1 (by decide)

end TokenFactory.Subscription
