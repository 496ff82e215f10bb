import TokenFactory.Go.Errors
import TokenFactory.Options.Rules

namespace TokenFactory.Options

open Go Quota

/-! What progressive tiers charge: every token its own price, by the segment that it falls into. -/

structure RequestTierPricingBreakdownItem where
  fromTokens : Int
  toTokens : Int
  tokens : Rat
  ratio : Rat
  result : Rat
deriving DecidableEq

/-- The loop of `applyTierSegments`: that of `applyTierSegmentsForType`, with an item for each segment. -/
def breakdownLoop (remaining previous result : Rat) :
    List TierSegment → Rat × List RequestTierPricingBreakdownItem
  | [] => (if remaining > 0 then result + remaining else result, [])
  | segment :: rest =>
    if remaining ≤ 0 then (result, [])
    else if segment.upTo = 0 then
      let later := breakdownLoop (remaining - remaining) (previous + remaining)
        (result + remaining * segment.ratio) rest
      (later.1, ⟨intPart previous, 0, remaining, segment.ratio, remaining * segment.ratio⟩ :: later.2)
    else if (segment.upTo : Rat) ≤ previous then breakdownLoop remaining previous result rest
    else
      let size := min remaining (segment.upTo - previous)
      let later := breakdownLoop (remaining - size) segment.upTo (result + size * segment.ratio) rest
      (later.1, ⟨intPart previous, segment.upTo, size, segment.ratio, size * segment.ratio⟩ :: later.2)

def applyTierSegments (tokens : Rat) (segments : List TierSegment) :
    Rat × List RequestTierPricingBreakdownItem :=
  if tokens ≤ 0 ∨ segments = [] then (tokens, []) else breakdownLoop tokens 0 0 segments

/-- The price of the tokens from `previous` to `tokens`: each segment at its ratio, the rest at 1. -/
def tierIntegral (tokens previous : Rat) : List TierSegment → Rat
  | [] => max 0 (tokens - previous)
  | segment :: rest =>
    if segment.upTo = 0 then segment.ratio * max 0 (tokens - previous)
    else segment.ratio * max 0 (min tokens segment.upTo - previous) + tierIntegral tokens segment.upTo rest

/-- How many of the tokens are in a segment, `previous` being where the segments begin. -/
def coveredTokens (tokens : Rat) (previous : Int) (segments : List TierSegment) : Rat :=
  if ∃ segment ∈ segments, segment.upTo = 0 then max 0 (tokens - previous)
  else max 0 (min tokens ((segments.map TierSegment.upTo).foldl max previous : Int) - previous)

/-- Segments in increasing order, the open one last. -/
def Increasing (segments : List TierSegment) : Prop :=
  segments.Pairwise fun first second => TierSegment.before first second

instance : Decidable (Increasing segments) := inferInstanceAs (Decidable (segments.Pairwise _))

variable {tokens : Rat} {previous : Int} {segment : TierSegment} {segments rest written order : List TierSegment}

theorem valid_cons {name : String} {index : Nat}
    (valid : validateTiersFrom name index previous (segment :: rest) = none) :
    0 ≤ segment.ratio ∧ (segment.upTo = 0 ∧ rest = [] ∨
      segment.upTo ≠ 0 ∧ previous < segment.upTo ∧ validateTiersFrom name (index + 1) segment.upTo rest = none) := by
  simp only [validateTiersFrom] at valid
  split_ifs at valid with negative opened followed notAbove
  · exact ⟨not_lt.mp negative, .inl ⟨opened, by simpa using followed⟩⟩
  · exact ⟨not_lt.mp negative, .inr ⟨opened, not_le.mp notAbove, valid⟩⟩

theorem valid_increasing {name : String} {index : Nat} (valid : validateTiersFrom name index previous segments = none) :
    Increasing segments ∧ ∀ segment ∈ segments, segment.upTo = 0 ∨ previous < segment.upTo := by
  induction segments generalizing index previous with
  | nil => exact ⟨.nil, by simp⟩
  | cons segment rest ih =>
    obtain ⟨-, ⟨opened, rfl⟩ | ⟨bounded, above, later⟩⟩ := valid_cons valid
    · exact ⟨List.pairwise_singleton _ _, by simp [opened]⟩
    · obtain ⟨increasing, next⟩ := ih later
      refine ⟨List.pairwise_cons.mpr ⟨fun other member => ?_, increasing⟩, fun other member => ?_⟩
      · rcases next other member with opened | beyond <;> simp [TierSegment.before, *]
      · rcases List.mem_cons.mp member with rfl | member
        · exact .inr above
        · exact (next other member).imp_right above.trans

theorem Increasing.eq (increasing : Increasing segments) (same : segments.Perm order)
    (sorted : order.Pairwise fun first second => ¬ TierSegment.before second first) : segments = order := by
  let apart (first second : TierSegment) : Prop := TierSegment.before first second ∨ TierSegment.before second first
  have symmetric : Std.Symm apart := ⟨fun _ _ => Or.symm⟩
  have strict : segments.Pairwise apart := increasing.imp .inl
  have asymmetric : ∀ first second, TierSegment.before first second → ¬ TierSegment.before second first := by
    grind [TierSegment.before]
  refine List.Perm.eq_of_pairwise (fun first second left right notAfter notBefore => ?_)
    (increasing.imp (asymmetric _ _)) sorted same
  by_contra different
  rcases strict.forall left (same.mem_iff.mpr right) different with earlier | later
  · exact notBefore earlier
  · exact notAfter later

theorem normalize_sorted (written : List TierSegment) :
    (normalizeRequestTierSegments written).Pairwise fun first second => ¬ TierSegment.before second first := by
  have total : Std.Total fun first second : TierSegment => ¬ TierSegment.before second first :=
    ⟨by grind [TierSegment.before]⟩
  have trans : IsTrans TierSegment fun first second => ¬ TierSegment.before second first :=
    ⟨by grind [TierSegment.before]⟩
  exact List.pairwise_insertionSort _ _

theorem normalize_perm (nonneg : ∀ segment ∈ written, 0 ≤ segment.ratio) :
    (normalizeRequestTierSegments written).Perm written := by
  have kept : (written.filter fun segment => 0 ≤ segment.ratio) = written :=
    List.filter_eq_self.mpr (by simpa using nonneg)
  rw [normalizeRequestTierSegments, kept]
  exact List.perm_insertionSort _ _

theorem accepted_valid {source : List (String × List TierSegment)} {target : GoMap (List TierSegment)} {model : String}
    (accepted : normalizeTierSegmentsMap source = .ok target) (member : (model, written) ∈ source)
    (named : ruleName model ≠ "") :
    validateRequestTierSegments "segments" (normalizeRequestTierSegments written) = none := by
  obtain ⟨state, next, -, stepped⟩ :=
    @foldlM_step _ _ _ _ (fun _ => True) _ _ _ (fun _ _ _ _ _ _ => trivial) trivial accepted _ member
  simp only [named, if_false] at stepped
  split at stepped
  · cases stepped
  · assumption

theorem breakdownLoop_fst (remaining previous result : Rat) (segments : List TierSegment) :
    (breakdownLoop remaining previous result segments).1 = tierLoop remaining previous result segments := by
  induction segments generalizing remaining previous result with
  | nil => rfl
  | cons segment rest ih =>
    simp only [breakdownLoop, tierLoop]
    split_ifs <;> simp [ih]

theorem applyTierSegments_fst (tokens : Rat) (segments : List TierSegment) :
    (applyTierSegments tokens segments).1 = applyTierSegmentsForType tokens segments := by
  unfold applyTierSegments applyTierSegmentsForType
  split_ifs
  · rfl
  · exact breakdownLoop_fst _ _ _ _

theorem segment_size {previous upper : Rat} (more : previous < tokens) (above : previous < upper) :
    min (tokens - previous) (upper - previous) = max 0 (min tokens upper - previous) := by
  rw [min_sub_sub_right, max_eq_right (sub_nonneg.mpr (le_min more.le above.le))]

theorem segment_rest {previous upper : Rat} (more : previous < tokens) (above : previous < upper) :
    tokens - previous - max 0 (min tokens upper - previous) = max 0 (tokens - upper) := by
  grind

theorem le_foldl_max (first : Int) (others : List Int) : first ≤ others.foldl max first := by
  induction others generalizing first with
  | nil => exact le_rfl
  | cons other rest ih => exact (le_max_left _ _).trans (ih _)

theorem coveredTokens_cons (tokens : Rat) (bounded : segment.upTo ≠ 0) (above : previous < segment.upTo)
    (rest : List TierSegment) : coveredTokens tokens previous (segment :: rest) =
      max 0 (min tokens segment.upTo - previous) + coveredTokens tokens segment.upTo rest := by
  have top : (segment.upTo : Rat) ≤ ((rest.map TierSegment.upTo).foldl max segment.upTo : Int) := by
    exact_mod_cast le_foldl_max _ _
  have lower : (previous : Rat) < segment.upTo := by exact_mod_cast above
  simp only [coveredTokens, List.exists_mem_cons_iff, bounded, false_or, List.map_cons, List.foldl_cons,
    max_eq_right above.le]
  split_ifs <;> grind

section Loop

variable {name : String} {index : Nat} (valid : validateTiersFrom name index previous segments = none)
include valid

theorem tierIntegral_nothing (reached : tokens ≤ previous) : tierIntegral tokens previous segments = 0 := by
  induction segments generalizing index previous with
  | nil => simpa [tierIntegral] using reached
  | cons segment rest ih =>
    have least : min tokens segment.upTo - previous ≤ 0 := sub_nonpos.mpr ((min_le_left _ _).trans reached)
    obtain ⟨-, ⟨opened, rfl⟩ | ⟨bounded, above, later⟩⟩ := valid_cons valid
    · simp [tierIntegral, opened, reached]
    · have next := ih later (reached.trans (by exact_mod_cast above.le))
      simp [tierIntegral, bounded, next, max_eq_left least]

theorem tierLoop_eq (tokens result : Rat) :
    tierLoop (max 0 (tokens - previous)) previous result segments = result + tierIntegral tokens previous segments := by
  induction segments generalizing index previous result with
  | nil => grind [tierLoop, tierIntegral]
  | cons segment rest ih =>
    rcases le_or_gt tokens previous with reached | more
    · rw [tierIntegral_nothing valid reached, max_eq_left (sub_nonpos.mpr reached)]
      simp [tierLoop]
    · have left : 0 < tokens - previous := sub_pos.mpr more
      rw [max_eq_right left.le]
      obtain ⟨-, ⟨opened, rfl⟩ | ⟨bounded, above, later⟩⟩ := valid_cons valid
      · simp [tierLoop, tierIntegral, opened, left.not_ge, max_eq_right left.le, mul_comm]
      · have above : (previous : Rat) < segment.upTo := by exact_mod_cast above
        simp only [tierLoop, tierIntegral, bounded, if_false, left.not_ge, above.not_ge, segment_size more above,
          segment_rest more above]
        rw [ih later]
        ring

theorem breakdown_tokens (tokens result : Rat) :
    ((breakdownLoop (max 0 (tokens - previous)) previous result segments).2.map fun item => item.tokens).sum =
      coveredTokens tokens previous segments := by
  induction segments generalizing index previous result with
  | nil => simp [breakdownLoop, coveredTokens]
  | cons segment rest ih =>
    rcases le_or_gt tokens previous with reached | more
    · simp only [breakdownLoop, coveredTokens, max_eq_left (sub_nonpos.mpr reached), le_refl, if_true, List.map_nil,
        List.sum_nil]
      rw [max_eq_left (sub_nonpos.mpr ((min_le_left _ _).trans reached)), ite_self]
    · have left : 0 < tokens - previous := sub_pos.mpr more
      rw [max_eq_right left.le]
      obtain ⟨-, ⟨opened, rfl⟩ | ⟨bounded, above, later⟩⟩ := valid_cons valid
      · simp [breakdownLoop, coveredTokens, opened, left.not_ge, max_eq_right left.le]
      · have covered := coveredTokens_cons tokens bounded above rest
        have above : (previous : Rat) < segment.upTo := by exact_mod_cast above
        simp only [breakdownLoop, bounded, if_false, left.not_ge, above.not_ge, List.map_cons, List.sum_cons,
          segment_size more above, segment_rest more above]
        rw [ih later, covered]

end Loop

theorem tierIntegral_mono {name : String} {index : Nat} {more : Rat}
    (valid : validateTiersFrom name index previous segments = none) (grows : tokens ≤ more) :
    tierIntegral tokens previous segments ≤ tierIntegral more previous segments := by
  induction segments generalizing index previous with
  | nil =>
    simp only [tierIntegral]
    gcongr
  | cons segment rest ih =>
    obtain ⟨nonneg, ⟨opened, rfl⟩ | ⟨bounded, above, later⟩⟩ := valid_cons valid
    · simp only [tierIntegral, opened, if_true]
      gcongr
    · have next := ih later
      simp only [tierIntegral, bounded, if_false]
      gcongr

theorem applyTierSegmentsForType_eq (valid : validateRequestTierSegments "segments" segments = none)
    (nonneg : 0 ≤ tokens) : applyTierSegmentsForType tokens segments = tierIntegral tokens 0 segments := by
  have loop := tierLoop_eq valid tokens 0
  rw [Int.cast_zero, sub_zero, max_eq_right nonneg, zero_add] at loop
  unfold applyTierSegmentsForType
  split_ifs with early
  · rcases early with zero | rfl
    · obtain rfl := le_antisymm zero nonneg
      exact (tierIntegral_nothing valid (by simp)).symm
    · simpa [tierIntegral] using nonneg
  · exact loop

/-- Accepted tiers charge each token its own price, in whatever order they were written. -/
theorem progressive_tiers {source : List (String × List TierSegment)} {target : GoMap (List TierSegment)}
    {model : String} (accepted : normalizeTierSegmentsMap source = .ok target) (member : (model, written) ∈ source)
    (named : ruleName model ≠ "") (nonneg : ∀ segment ∈ written, 0 ≤ segment.ratio) :
    let tier := normalizeRequestTierSegments written
    (tier.Perm written ∧ Increasing tier ∧ ∀ order : List TierSegment, order.Perm written → Increasing order →
      ∀ tokens : Rat, 0 ≤ tokens → applyTierSegmentsForType tokens tier = tierIntegral tokens 0 order) ∧
    (∀ tokens more : Rat, 0 ≤ tokens → tokens ≤ more →
      applyTierSegmentsForType tokens tier ≤ applyTierSegmentsForType more tier) ∧
    (∀ rewritten : List TierSegment, rewritten.Perm written → normalizeRequestTierSegments rewritten = tier) ∧
    ∀ tokens : Rat, 0 ≤ tokens → (applyTierSegments tokens tier).1 = applyTierSegmentsForType tokens tier ∧
      ((applyTierSegments tokens tier).2.map fun item => item.tokens).sum = coveredTokens tokens 0 tier := by
  intro tier
  have valid : validateRequestTierSegments "segments" tier = none := accepted_valid accepted member named
  have increasing := (valid_increasing valid).1
  have same : tier.Perm written := normalize_perm nonneg
  refine ⟨⟨same, increasing, fun order reordered ordered tokens positive => ?_⟩, fun tokens more positive grows => ?_,
    fun rewritten reordered => ?_, fun tokens positive => ⟨applyTierSegments_fst _ _, ?_⟩⟩
  · have one : order = tier := ordered.eq (reordered.trans same.symm) (normalize_sorted written)
    rw [one, applyTierSegmentsForType_eq valid positive]
  · rw [applyTierSegmentsForType_eq valid positive, applyTierSegmentsForType_eq valid (positive.trans grows)]
    exact_mod_cast tierIntegral_mono valid grows
  · have kept := normalize_perm fun segment among => nonneg segment (reordered.mem_iff.mp among)
    exact (increasing.eq (same.trans (kept.trans reordered).symm) (normalize_sorted rewritten)).symm
  · have loop := breakdown_tokens valid tokens 0
    rw [Int.cast_zero, sub_zero, max_eq_right positive] at loop
    unfold applyTierSegments
    split_ifs with early
    · rcases early with zero | empty
      · simp [coveredTokens, le_antisymm zero positive]
      · simp [coveredTokens, empty]
    · exact loop

theorem two_tiers_charged :
    applyTierSegmentsForType 1500 (normalizeRequestTierSegments [⟨0, 1⟩, ⟨1000, 3⟩]) =
      tierIntegral 1500 0 [⟨1000, 3⟩, ⟨0, 1⟩] := by
  have named : ruleName "gpt" ≠ "" := by decide +kernel
  have valid : validateRequestTierSegments "segments" (normalizeRequestTierSegments [⟨0, 1⟩, ⟨1000, 3⟩]) = none := by
    decide +kernel
  have accepted : normalizeTierSegmentsMap [("gpt", [⟨0, 1⟩, ⟨1000, 3⟩])] =
      .ok (GoMap.empty.set (ruleName "gpt") (normalizeRequestTierSegments [⟨0, 1⟩, ⟨1000, 3⟩])) := by
    simp [normalizeTierSegmentsMap, named, valid, List.foldlM_cons]
  exact (progressive_tiers accepted (.head _) named (by decide +kernel)).1.2.2 _ (.swap _ _ _)
    (by decide +kernel) _ (by norm_num)

end TokenFactory.Options
