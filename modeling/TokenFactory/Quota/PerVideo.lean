import TokenFactory.Quota.VideoMatch

namespace TokenFactory.Quota

open Go Options

/-! Prices by video, as a request is charged and as it is logged. -/

abbrev PerVideoRows := List VideoResolutionPerVideoRule

def perItemRows (rules : VideoRules) : VideoMode → List VideoRule
  | .textToVideo => rules.textToVideoPerItem
  | .imageToVideo => rules.imageToVideoPerItem
  | .videoToVideo => rules.videoToVideoPerItem

/-- The number of pixels, as an `int` of Go holds it. -/
def intPixels (sides : Int × Int) : Int := Int.bmod (sides.1 * sides.2) (2 ^ 64)

section
variable (width height : Int)

def pixelError (sides : Int × Int) : Rat :=
  |(Int.bmod (intPixels (width, height) - intPixels sides) (2 ^ 64) : Rat)| / intPixels sides

def nearer (parse : String → Option (Int × Int))
    (best : Option (VideoResolutionPerVideoRule × Int × Int)) (rule : VideoResolutionPerVideoRule) :
    Option (VideoResolutionPerVideoRule × Int × Int) :=
  if rule.videoPrice ≤ 0 then best
  else
    match parse rule.resolution with
    | none => best
    | some sides =>
      if best.all fun found => pixelError width height sides < pixelError width height found.2 then some (rule, sides)
      else best

/-- The row with the nearest number of pixels. Either side reads the resolutions in its own way. -/
def nearestPerVideoRule (parse : String → Option (Int × Int)) (rules : PerVideoRows) :
    Option (VideoResolutionPerVideoRule × Int × Int) :=
  if rules = [] ∨ width ≤ 0 ∨ height ≤ 0 then none else rules.foldl (nearer width height parse) none

def matchPerVideoRulesByPixels (rules : PerVideoRows) : Option Rat :=
  (nearestPerVideoRule width height (fun text => (parseResolution text).filter fun sides => intPixels sides > 0)
    rules).map fun found => found.1.videoPrice

def matchFlatPerVideoUSDRules (mode : VideoMode) (rules : VideoRules) : Option Rat :=
  match mode with
  | .imageToVideo => matchPerVideoRulesByPixels width height rules.imageToVideoPerVideo
  | .videoToVideo =>
    match matchPerVideoRulesByPixels width height rules.videoToVideoInputPerVideo,
      matchPerVideoRulesByPixels width height rules.videoToVideoOutputPerVideo with
    | some input, some output => some (input + output)
    | some input, none => some input
    | none, some output => some output
    | none, none => none
  | .textToVideo => matchPerVideoRulesByPixels width height rules.textToVideoPerVideo

end

/-- The unit price of `tryVideoPerVideoRulesPriceData`: the older tables first. -/
def tryVideoPerVideoRulesPrice (rules : VideoRules) (mode : VideoMode) (width height : Int) (hasAudio : Bool) :
    Option Rat :=
  (((matchFlatPerVideoUSDRules width height mode rules).filter fun usd => 0 < usd).orElse fun _ =>
    pickAudioPriceByResolution width height hasAudio (perItemRows rules mode)).filter fun usd => 0 < usd

structure VideoPerVideoMatch where
  resolution : String
  ruleWidth : Int
  ruleHeight : Int
  pricePerVideo : Rat
  unifiedAudio : Bool
deriving DecidableEq

def matchLegacyPerVideoRulesByPixelsDetail (width height : Int) (rows : PerVideoRows) : Option VideoPerVideoMatch :=
  (nearestPerVideoRule width height (fun text =>
    (parseVideoResolutionFlexibleForRatio text (targetVideoResolutionRatio width height)).filter fun sides =>
      0 < sides.1 ∧ 0 < sides.2) rows).map fun found =>
    ⟨found.1.resolution, found.2.1, found.2.2, found.1.videoPrice, true⟩

def matchLegacyVideoToVideoRulesByPixelsDetail (width height : Int) (inputRows outputRows : PerVideoRows) :
    Option VideoPerVideoMatch :=
  match matchLegacyPerVideoRulesByPixelsDetail width height inputRows,
    matchLegacyPerVideoRulesByPixelsDetail width height outputRows with
  | some input, some output => some { output with pricePerVideo := output.pricePerVideo + input.pricePerVideo }
  | some input, none => some input
  | none, output => output

def matchLegacyDetail (rules : VideoRules) (width height : Int) : VideoMode → Option VideoPerVideoMatch
  | .imageToVideo => matchLegacyPerVideoRulesByPixelsDetail width height rules.imageToVideoPerVideo
  | .videoToVideo =>
    matchLegacyVideoToVideoRulesByPixelsDetail width height rules.videoToVideoInputPerVideo
      rules.videoToVideoOutputPerVideo
  | .textToVideo => matchLegacyPerVideoRulesByPixelsDetail width height rules.textToVideoPerVideo

/-- The row for the log: the older tables last. -/
def matchPerVideoPriceDetail (rules : VideoRules) (mode : VideoMode) (width height : Int) (hasAudio : Bool) :
    Option VideoPerVideoMatch :=
  match matchPerSecondPriceDetail { textToVideoPerSecond := perItemRows rules mode } .textToVideo width height
    hasAudio with
  | some row => some ⟨row.resolution, row.ruleWidth, row.ruleHeight, row.pricePerSecond, row.unifiedAudio⟩
  | none => matchLegacyDetail rules width height mode

def perVideoRows (rules : VideoRules) : VideoMode → PerVideoRows
  | .textToVideo => rules.textToVideoPerVideo
  | .imageToVideo => rules.imageToVideoPerVideo
  | .videoToVideo => rules.videoToVideoInputPerVideo ++ rules.videoToVideoOutputPerVideo

/-- Next to a usable row by item no row by video is literal, and without one none is named. -/
def Unmixed (rules : VideoRules) (mode : VideoMode) (width height : Int) (hasAudio : Bool) : Prop :=
  if sizedFor (perItemRows rules mode) width height hasAudio = [] then
    ∀ rule ∈ perVideoRows rules mode, 0 < rule.videoPrice → namedShortSide (foldedResolution rule.resolution) = none
  else ∀ rule ∈ perVideoRows rules mode, 0 < rule.videoPrice → parseResolution rule.resolution = none

instance (rules : VideoRules) (mode : VideoMode) (width height : Int) (hasAudio : Bool) :
    Decidable (Unmixed rules mode width height hasAudio) := inferInstanceAs (Decidable (ite _ _ _))

/-- The pixels of the literal rows by video fit into an `int`. -/
def PixelsFit (rows : PerVideoRows) : Prop :=
  ∀ rule ∈ rows, 0 < rule.videoPrice → ∀ sides ∈ parseResolution rule.resolution, sides.1 * sides.2 < 2 ^ 63

section Nearest

variable {width height : Int} {parse other : String → Option (Int × Int)} {rows : PerVideoRows}

theorem nearestPerVideoRule_congr
    (same : ∀ rule ∈ rows, 0 < rule.videoPrice → parse rule.resolution = other rule.resolution) :
    nearestPerVideoRule width height parse rows = nearestPerVideoRule width height other rows := by
  have steps : rows.foldl (nearer width height parse) none = rows.foldl (nearer width height other) none := by
    refine List.foldl_ext _ _ _ fun best rule member => ?_
    unfold nearer
    split_ifs with free
    · rfl
    · rw [same rule member (not_le.mp free)]
  rw [nearestPerVideoRule, nearestPerVideoRule, steps]

theorem nearestPerVideoRule_none (unread : ∀ rule ∈ rows, 0 < rule.videoPrice → parse rule.resolution = none) :
    nearestPerVideoRule width height parse rows = none := by
  have stays : nearer width height (fun _ => none) = fun best _ => best := by
    funext best rule
    simp [nearer]
  have same : nearestPerVideoRule width height parse rows = nearestPerVideoRule width height (fun _ => none) rows :=
    nearestPerVideoRule_congr unread
  rw [same, nearestPerVideoRule, stays, List.foldl_fixed, ite_self]

theorem nearer_pos {best : Option (VideoResolutionPerVideoRule × Int × Int)}
    (positive : ∀ found ∈ best, 0 < found.1.videoPrice) :
    ∀ found ∈ rows.foldl (nearer width height parse) best, 0 < found.1.videoPrice := by
  induction rows generalizing best with
  | nil => exact positive
  | cons rule rest ih =>
    apply ih
    unfold nearer
    split
    · exact positive
    · split
      · exact positive
      · split
        · rintro found ⟨⟩
          exact not_le.mp ‹_›
        · exact positive

theorem matchPerVideoRulesByPixels_pos {usd : Rat} (found : matchPerVideoRulesByPixels width height rows = some usd) :
    0 < usd := by
  obtain ⟨nearest, chosen, rfl⟩ := Option.map_eq_some_iff.mp found
  unfold nearestPerVideoRule at chosen
  split_ifs at chosen
  exact nearer_pos (by simp) nearest chosen

theorem matchLegacyPerVideoRulesByPixelsDetail_eq
    (literal : ∀ rule ∈ rows, 0 < rule.videoPrice → namedShortSide (foldedResolution rule.resolution) = none)
    (small : PixelsFit rows) :
    (matchLegacyPerVideoRulesByPixelsDetail width height rows).map VideoPerVideoMatch.pricePerVideo =
      matchPerVideoRulesByPixels width height rows := by
  have same := @nearestPerVideoRule_congr width height
    (fun text => (parseVideoResolutionFlexibleForRatio text (targetVideoResolutionRatio width height)).filter
      fun sides => 0 < sides.1 ∧ 0 < sides.2)
    (fun text => (parseResolution text).filter fun sides => intPixels sides > 0) rows fun rule member priced => by
      have unnamed : parseVideoResolutionFlexibleForRatio rule.resolution (targetVideoResolutionRatio width height) =
          parseResolution rule.resolution := by
        rw [parseVideoResolutionFlexibleForRatio_eq, literal rule member priced]
        cases parseResolution rule.resolution <;> rfl
      rw [unnamed]
      cases parsed : parseResolution rule.resolution with
      | none => rfl
      | some sides =>
        have positive := parseResolution_pos parsed
        have product := mul_pos positive.1 positive.2
        have whole : intPixels sides = sides.1 * sides.2 := by
          have := small rule member priced sides parsed
          exact Int.bmod_eq_of_le (by omega) (by omega)
        simp [Option.filter_some, positive, whole, product]
  rw [matchLegacyPerVideoRulesByPixelsDetail, same, Option.map_map, matchPerVideoRulesByPixels]
  rfl

end Nearest

variable {rules : VideoRules} {mode : VideoMode} {width height : Int} {hasAudio : Bool}

theorem matchFlatPerVideoUSDRules_pos {usd : Rat}
    (found : matchFlatPerVideoUSDRules width height mode rules = some usd) : 0 < usd := by
  cases mode with
  | textToVideo => exact matchPerVideoRulesByPixels_pos found
  | imageToVideo => exact matchPerVideoRulesByPixels_pos found
  | videoToVideo =>
    simp only [matchFlatPerVideoUSDRules] at found
    split at found <;> cases found
    · exact add_pos (matchPerVideoRulesByPixels_pos ‹_›) (matchPerVideoRulesByPixels_pos ‹_›)
    · exact matchPerVideoRulesByPixels_pos ‹_›
    · exact matchPerVideoRulesByPixels_pos ‹_›

theorem matchFlatPerVideoUSDRules_none
    (named : ∀ rule ∈ perVideoRows rules mode, 0 < rule.videoPrice → parseResolution rule.resolution = none) :
    matchFlatPerVideoUSDRules width height mode rules = none := by
  have each : ∀ rows : PerVideoRows, (∀ rule ∈ rows, rule ∈ perVideoRows rules mode) →
      matchPerVideoRulesByPixels width height rows = none := by
    intro rows among
    rw [matchPerVideoRulesByPixels, nearestPerVideoRule_none fun rule member priced => ?_, Option.map_none]
    rw [named rule (among rule member) priced]
    rfl
  cases mode with
  | textToVideo => exact each _ fun _ => id
  | imageToVideo => exact each _ fun _ => id
  | videoToVideo =>
    simp only [matchFlatPerVideoUSDRules]
    rw [each _ fun _ => List.mem_append_left _, each _ fun _ => List.mem_append_right _]

theorem matchPerVideoPriceDetail_price :
    (matchPerVideoPriceDetail rules mode width height hasAudio).map VideoPerVideoMatch.pricePerVideo =
      ((chooseRule (sizedFor (perItemRows rules mode) width height hasAudio) width height).map
        fun sized => sized.rule.price).orElse fun _ =>
        (matchLegacyDetail rules width height mode).map VideoPerVideoMatch.pricePerVideo := by
  simp only [matchPerVideoPriceDetail, matchPerSecondPriceDetail, VideoPricingRules.rows]
  cases chooseRule (sizedFor (perItemRows rules mode) width height hasAudio) width height <;> rfl

theorem matchLegacyDetail_price (literal : ∀ rule ∈ perVideoRows rules mode, 0 < rule.videoPrice →
      namedShortSide (foldedResolution rule.resolution) = none) (small : PixelsFit (perVideoRows rules mode)) :
    (matchLegacyDetail rules width height mode).map VideoPerVideoMatch.pricePerVideo =
      matchFlatPerVideoUSDRules width height mode rules := by
  cases mode with
  | textToVideo => exact matchLegacyPerVideoRulesByPixelsDetail_eq literal small
  | imageToVideo => exact matchLegacyPerVideoRulesByPixelsDetail_eq literal small
  | videoToVideo =>
    have input := @matchLegacyPerVideoRulesByPixelsDetail_eq width height rules.videoToVideoInputPerVideo
      (fun rule member => literal rule (List.mem_append_left _ member))
      (fun rule member => small rule (List.mem_append_left _ member))
    have output := @matchLegacyPerVideoRulesByPixelsDetail_eq width height rules.videoToVideoOutputPerVideo
      (fun rule member => literal rule (List.mem_append_right _ member))
      (fun rule member => small rule (List.mem_append_right _ member))
    simp only [matchLegacyDetail, matchFlatPerVideoUSDRules, matchLegacyVideoToVideoRulesByPixelsDetail, ← input,
      ← output]
    cases matchLegacyPerVideoRulesByPixelsDetail width height rules.videoToVideoInputPerVideo <;>
      cases matchLegacyPerVideoRulesByPixelsDetail width height rules.videoToVideoOutputPerVideo <;>
      simp [add_comm]

/-- Where only one kind of tables applies, the price in the log is the one that was charged. -/
theorem logged_price_charged
    (fits : ∀ sized ∈ sizedFor (perItemRows rules mode) width height hasAudio, sized.pixels < maxInt)
    (small : PixelsFit (perVideoRows rules mode)) (unmixed : Unmixed rules mode width height hasAudio) :
    (matchPerVideoPriceDetail rules mode width height hasAudio).map VideoPerVideoMatch.pricePerVideo =
      tryVideoPerVideoRulesPrice rules mode width height hasAudio := by
  rw [matchPerVideoPriceDetail_price, tryVideoPerVideoRulesPrice, pickAudioPriceByResolution_eq]
  unfold Unmixed at unmixed
  split_ifs at unmixed with empty
  · -- no row by item: the older tables, where both read the same resolutions
    rw [empty, matchLegacyDetail_price unmixed small]
    cases found : matchFlatPerVideoUSDRules width height mode rules with
    | none => rfl
    | some usd => simp [chooseRule, Option.filter_some, matchFlatPerVideoUSDRules_pos found]
  · -- a row by item: the charge finds nothing before it
    obtain ⟨chosen, chose⟩ := chooseRule_exists fits empty width height
    have positive := (mem_sizedRules.mp (chooseRule_fits fits chose).member).2.1
    rw [matchFlatPerVideoUSDRules_none unmixed, chose]
    simp [Option.filter_some, positive]

theorem item_price_logged :
    (matchPerVideoPriceDetail { textToVideoPerItem := [⟨"720p", true, 3⟩] } .textToVideo 1280 720 true).map
        VideoPerVideoMatch.pricePerVideo =
      tryVideoPerVideoRulesPrice { textToVideoPerItem := [⟨"720p", true, 3⟩] } .textToVideo 1280 720 true :=
  logged_price_charged (by decide +kernel) (by simp [PixelsFit, perVideoRows]) (by decide +kernel)

/-- With both kinds of tables another price is logged than charged; and a named row of an older table
is only logged. -/
theorem older_table_charged :
    tryVideoPerVideoRulesPrice
        { textToVideoPerItem := [⟨"1280x720", false, 3⟩], textToVideoPerVideo := [⟨"1280x720", 5⟩] }
        .textToVideo 1280 720 false = some 5 ∧
      (matchPerVideoPriceDetail
        { textToVideoPerItem := [⟨"1280x720", false, 3⟩], textToVideoPerVideo := [⟨"1280x720", 5⟩] }
        .textToVideo 1280 720 false).map VideoPerVideoMatch.pricePerVideo = some 3 ∧
      tryVideoPerVideoRulesPrice { textToVideoPerVideo := [⟨"720p", 5⟩] } .textToVideo 1280 720 false = none ∧
      (matchPerVideoPriceDetail { textToVideoPerVideo := [⟨"720p", 5⟩] } .textToVideo 1280 720 false).map
        VideoPerVideoMatch.pricePerVideo = some 5 := by
  decide +kernel

end TokenFactory.Quota
