import TokenFactory.Go.Number

namespace TokenFactory.Quota

open Go

/-! The other ratios of a task: seconds, size and so on.

They are in a map, so the loops below run in any order. A ratio is the number that its float is. Every
product and quotient is rounded to a float, and the quota is cut to an integer after every factor, and
again after every division when it is computed anew. -/

def applyRatio (quota : Int) (ratio : String × Rat) : Int :=
  if ratio.2 ≠ 1 then toInt64 (float64 (float64 quota * ratio.2)) else quota

/-- Step 6 of `RelayTaskSubmit`. -/
def applyOtherRatios (quota : Int) (ratios : List (String × Rat)) : Int := ratios.foldl applyRatio quota

def removeRatio (quota : Int) (ratio : String × Rat) : Int :=
  if ratio.2 ≠ 1 ∧ ratio.2 > 0 then toInt64 (float64 (float64 quota / ratio.2)) else quota

/-- The quota before the ratios that it was submitted with. -/
def restoreBaseQuota (quota : Int) (otherRatios : List (String × Rat)) : Int := otherRatios.foldl removeRatio quota

def recalcQuotaFromRatios (quota : Int) (otherRatios ratios : List (String × Rat)) : Int :=
  toInt64 (ratios.foldl (fun result ratio => if ratio.2 ≠ 1 then float64 (result * ratio.2) else result)
    (float64 (restoreBaseQuota quota otherRatios)))

def ratioProduct (ratios : List (String × Rat)) : Rat := (ratios.map Prod.snd).prod

/-- The quota is an integer of at most 53 bits with any of the ratios applied. -/
def Whole (quota : Int) (ratios : List (String × Rat)) : Prop :=
  ∀ part ∈ ratios.sublists, (quota * ratioProduct part).den = 1 ∧ |quota * ratioProduct part| < 2 ^ 53

instance : Decidable (Whole quota ratios) := inferInstanceAs (Decidable (∀ _ ∈ _, _))

variable {quota next : Int} {ratio : String × Rat} {ratios order : List (String × Rat)}

@[simp] theorem ratioProduct_cons (ratio : String × Rat) (rest : List (String × Rat)) :
    ratioProduct (ratio :: rest) = ratio.2 * ratioProduct rest := List.prod_cons

theorem ratioProduct_perm (same : order.Perm ratios) : ratioProduct order = ratioProduct ratios :=
  (same.map Prod.snd).prod_eq

/-- The quota with these ratios is this integer, and a float holds it. -/
def Reaches (quota : Int) (part : List (String × Rat)) (result : Int) : Prop :=
  quota * ratioProduct part = result ∧ |result| < 2 ^ 53

theorem Whole.reaches (whole : Whole quota ratios) {part : List (String × Rat)} (among : part.Subperm ratios) :
    ∃ result, Reaches quota part result := by
  obtain ⟨listed, same, sublist⟩ := among
  obtain ⟨integer, small⟩ := whole listed (List.mem_sublists.mpr sublist)
  have value := (Rat.den_eq_one_iff _).mp integer
  refine ⟨_, by rw [← ratioProduct_perm same, value], ?_⟩
  rw [← value] at small
  exact_mod_cast small

theorem float64_mul {value result : Int} (small : |value| < 2 ^ 53) (product : value * ratio.2 = result)
    (fits : |result| < 2 ^ 53) : float64 (float64 value * ratio.2) = result := by
  rw [float64_intCast small, product, float64_intCast fits]

theorem Reaches.factor (first : Reaches quota [ratio] next) : quota * ratio.2 = next := by
  simpa [Reaches, ratioProduct] using first.1

/-- The step of either loop from one reachable quota to the next. -/
theorem Reaches.cons {part : List (String × Rat)} {result : Int} (reached : Reaches quota (ratio :: part) result)
    (first : Reaches quota [ratio] next) : Reaches next part result := by
  obtain ⟨product, small⟩ := reached
  exact ⟨by rw [← product, ← first.factor, ratioProduct_cons, mul_assoc], small⟩

theorem Reaches.start (reached : Reaches quota [] next) : |quota| < 2 ^ 53 := by
  obtain ⟨same, small⟩ := reached
  rw [ratioProduct, List.map_nil, List.prod_nil, mul_one] at same
  rwa [Int.cast_inj.mp same]

theorem applyOtherRatios_eq (reachable : ∀ part, part <+: order → ∃ result, Reaches quota part result) :
    (applyOtherRatios quota order : Rat) = quota * ratioProduct order := by
  induction order generalizing quota with
  | nil => simp [applyOtherRatios, ratioProduct]
  | cons ratio rest ih =>
    obtain ⟨next, first⟩ := reachable [ratio] (by simp)
    obtain ⟨_, start⟩ := reachable [] List.nil_prefix
    have applied : applyRatio quota ratio = next := by
      have factor := first.factor
      unfold applyRatio
      split_ifs with one
      · rw [float64_mul start.start factor first.2, toInt64_intCast first.2]
      · rw [not_not.mp one, mul_one] at factor
        exact_mod_cast factor
    rw [applyOtherRatios, List.foldl_cons, applied, ratioProduct_cons, ← mul_assoc, first.factor]
    refine ih fun part front => ?_
    obtain ⟨result, later⟩ := reachable (ratio :: part) (List.cons_prefix_cons.mpr ⟨rfl, front⟩)
    exact ⟨result, later.cons first⟩

theorem restoreBaseQuota_eq {result : Int} (positive : ∀ ratio ∈ order, 0 < ratio.2)
    (reachable : ∀ part, part <:+ order → ∃ result, Reaches quota part result) (applied : Reaches quota order result) :
    restoreBaseQuota result order = quota := by
  induction order generalizing result with
  | nil => simpa [restoreBaseQuota, Reaches, ratioProduct, eq_comm] using applied.1
  | cons ratio rest ih =>
    have above := positive ratio List.mem_cons_self
    obtain ⟨next, later⟩ := reachable rest (List.suffix_cons _ _)
    have quotient : (result : Rat) / ratio.2 = next := by
      rw [← applied.1, ratioProduct_cons, ← later.1]
      field_simp
    have removed : removeRatio result ratio = next := by
      unfold removeRatio
      split_ifs with one
      · rw [float64_intCast applied.2, quotient, float64_intCast later.2, toInt64_intCast later.2]
      · rw [not_not.mp fun other => one ⟨other, above⟩, div_one] at quotient
        exact_mod_cast quotient
    rw [restoreBaseQuota, List.foldl_cons, removed]
    exact ih (fun other member => positive other (.tail _ member))
      (fun part ends => reachable part (ends.trans (List.suffix_cons _ _))) later

theorem recalculated_eq (reachable : ∀ part, part <+: order → ∃ result, Reaches quota part result) :
    order.foldl (fun result ratio => if ratio.2 ≠ 1 then float64 (result * ratio.2) else result) (quota : Rat) =
      quota * ratioProduct order := by
  induction order generalizing quota with
  | nil => simp [ratioProduct]
  | cons ratio rest ih =>
    obtain ⟨next, first⟩ := reachable [ratio] (by simp)
    have multiplied : (if ratio.2 ≠ 1 then float64 (quota * ratio.2) else (quota : Rat)) = next := by
      split_ifs with one
      · rw [first.factor, float64_intCast first.2]
      · rw [← first.factor, not_not.mp one, mul_one]
    rw [List.foldl_cons, multiplied, ratioProduct_cons, ← mul_assoc, first.factor]
    refine ih fun part front => ?_
    obtain ⟨result, later⟩ := reachable (ratio :: part) (List.cons_prefix_cons.mpr ⟨rfl, front⟩)
    exact ⟨result, later.cons first⟩

/-- When nothing is rounded or cut off, the order does not matter, and computing the quota anew
changes nothing. -/
theorem other_ratios_commute (positive : ∀ ratio ∈ ratios, 0 < ratio.2) (whole : Whole quota ratios)
    {first second divided : List (String × Rat)} (one : first.Perm ratios) (two : second.Perm ratios)
    (three : divided.Perm ratios) : applyOtherRatios quota first = applyOtherRatios quota second ∧
      recalcQuotaFromRatios (applyOtherRatios quota first) divided second = applyOtherRatios quota first := by
  have front {order : List (String × Rat)} (same : order.Perm ratios) (part : List (String × Rat))
      (begins : part <+: order) : ∃ result, Reaches quota part result :=
    whole.reaches (begins.sublist.subperm.trans same.subperm)
  obtain ⟨product, reached⟩ := whole.reaches (List.Subperm.refl ratios)
  have applied {order : List (String × Rat)} (same : order.Perm ratios) : applyOtherRatios quota order = product := by
    have value := applyOtherRatios_eq (front same)
    rw [ratioProduct_perm same, reached.1] at value
    exact_mod_cast value
  have base : restoreBaseQuota (applyOtherRatios quota first) divided = quota :=
    restoreBaseQuota_eq (fun ratio member => positive ratio (three.mem_iff.mp member))
      (fun part ends => whole.reaches (ends.sublist.subperm.trans three.subperm))
      ⟨by rw [ratioProduct_perm three, reached.1, applied one], by rw [applied one]; exact reached.2⟩
  refine ⟨by rw [applied one, applied two], ?_⟩
  obtain ⟨_, start⟩ := whole.reaches List.nil_subperm
  rw [recalcQuotaFromRatios, base, float64_intCast start.start, recalculated_eq (front two), ratioProduct_perm two,
    reached.1, toInt64_intCast reached.2, applied one]

theorem seconds_and_size_commute :
    applyOtherRatios 1000 [("seconds", 8), ("size", 3 / 2)] = applyOtherRatios 1000 [("size", 3 / 2), ("seconds", 8)] :=
  (other_ratios_commute (by decide +kernel) (by decide +kernel) (.refl _) (.swap _ _ _) (.refl _)).1

/-- Half of one unit is cut off before or after it is doubled; and 1.5 is cut to 1, from which 1 is not
found again. -/
theorem halves_cut_off :
    applyOtherRatios 1 [("seconds", 2), ("size", 1 / 2)] ≠ applyOtherRatios 1 [("size", 1 / 2), ("seconds", 2)] ∧
      recalcQuotaFromRatios (applyOtherRatios 1 [("size", 3 / 2)]) [("size", 3 / 2)] [("size", 3 / 2)] ≠
        applyOtherRatios 1 [("size", 3 / 2)] := by
  decide +kernel

end TokenFactory.Quota
