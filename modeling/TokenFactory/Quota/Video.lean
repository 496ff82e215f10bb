import TokenFactory.Data.Run
import TokenFactory.Go.Number
import TokenFactory.Relay.Price

namespace TokenFactory.Quota

open Data Go Relay

/-! Prices of a second of video. -/

inductive VideoMode where
  | textToVideo
  | imageToVideo
  | videoToVideo
deriving DecidableEq

structure VideoRule where
  resolution : String
  hasAudio : Bool
  price : Rat
deriving DecidableEq

structure VideoPricingRules where
  textToVideoPerSecond : List VideoRule := []
  imageToVideoPerSecond : List VideoRule := []
  videoToVideoPerSecond : List VideoRule := []
deriving DecidableEq

def VideoPricingRules.rows (rules : VideoPricingRules) : VideoMode → List VideoRule
  | .textToVideo => rules.textToVideoPerSecond
  | .imageToVideo => rules.imageToVideoPerSecond
  | .videoToVideo => rules.videoToVideoPerSecond

def hasUsableVideoPerSecondRules (rules : VideoPricingRules) : Bool :=
  (rules.textToVideoPerSecond ++ rules.imageToVideoPerSecond ++ rules.videoToVideoPerSecond).any fun row =>
    row.price > 0

structure VideoMetadata where
  durationSec : Rat
  width : Int
  height : Int
  hasAudio : Bool
deriving DecidableEq

structure VideoMatch where
  resolution : String
  ruleWidth : Int
  ruleHeight : Int
  pricePerSecond : Rat
  unifiedAudio : Bool
deriving DecidableEq

def normalizeVideoResolutionSides (width height : Int) : Int × Int :=
  if width ≥ height then (width, height) else (height, width)

/-- The first of the usual ratios that is closest to the one of the video. -/
def targetVideoResolutionRatio (width height : Int) : Rat :=
  let (longSide, shortSide) := normalizeVideoResolutionSides width height
  if longSide ≤ 0 ∨ shortSide ≤ 0 then float64 (16 / 9)
  else
    let ratio := float64 (float64 longSide / float64 shortSide)
    let diff (candidate : Rat) := float64 |ratio - candidate|
    [float64 (4 / 3), float64 (16 / 9), float64 (21 / 9)].foldl
      (fun best candidate => if diff candidate < diff best then candidate else best) 1

/-- The sides of a resolution that is written as `WxH`. -/
def parseResolution (size : String) : Option (Int × Int) :=
  match split 'x' (String.ofList ((trimSpace size).toList.map Char.toLower)) with
  | [first, second] =>
    match atoi (trimSpace first), atoi (trimSpace second) with
    | some width, some height => if width > 0 ∧ height > 0 then some (width, height) else none
    | _, _ => none
  | _ => none

def namedShortSide (name : String) : Option Int :=
  if name = "480p" then some 480
  else if name = "540p" then some 540
  else if name = "720p" then some 720
  else if name = "1080p" then some 1080
  else if name = "2k" then some 1440
  else if name = "4k" then some 2160
  else none

/-- A resolution is written as `WxH`, or named; the long side of a named one follows
from the ratio. -/
def parseVideoResolutionFlexibleForRatio (text : String) (ratio : Rat) : Option (Int × Int) :=
  let name := String.ofList ((trimSpace text).toList.map Char.toLower)
  let sides :=
    match split 'x' name with
    | [first, second] =>
      match atoi (trimSpace first), atoi (trimSpace second) with
      | some width, some height => if width > 0 ∧ height > 0 then some (width, height) else none
      | _, _ => none
    | _ => none
  sides.orElse fun _ => (namedShortSide name).map fun shortSide : Int => ((float64 (shortSide * ratio)).ceil, shortSide)

structure SizedRule where
  rule : VideoRule
  width : Int
  height : Int
deriving DecidableEq

def SizedRule.pixels (sized : SizedRule) : Int := sized.width * sized.height

/-- The rows that may be chosen at all. -/
def sizedRules (rows : List VideoRule) (ratio : Rat) (hasAudio : Bool) : List SizedRule :=
  rows.filterMap fun rule =>
    if rule.price ≤ 0 ∨ rule.hasAudio ≠ hasAudio then none
    else
      ((parseVideoResolutionFlexibleForRatio rule.resolution ratio).map fun sides =>
        ⟨rule, sides.1, sides.2⟩).filter fun sized => sized.pixels > 0

variable {hasAudio : Bool}

theorem mem_sizedRules {rows : List VideoRule} {ratio : Rat} {sized : SizedRule} :
    sized ∈ sizedRules rows ratio hasAudio ↔
      sized.rule ∈ rows ∧ 0 < sized.rule.price ∧ sized.rule.hasAudio = hasAudio ∧
        parseVideoResolutionFlexibleForRatio sized.rule.resolution ratio = some (sized.width, sized.height) ∧
        0 < sized.pixels := by
  unfold sizedRules
  simp only [List.mem_filterMap, Option.ite_none_left_eq_some, not_or, not_le, not_not,
    Option.filter_eq_some_iff, Option.map_eq_some_iff, decide_eq_true_eq]
  constructor
  · rintro ⟨rule, member, ⟨priced, audio⟩, ⟨sides, parsed, rfl⟩, large⟩
    exact ⟨member, priced, audio, parsed, large⟩
  · rintro ⟨member, priced, audio, parsed, large⟩
    exact ⟨sized.rule, member, ⟨priced, audio⟩, ⟨_, parsed, rfl⟩, large⟩

def SizedRule.holds (sized : SizedRule) (width height : Int) : Bool :=
  let target := normalizeVideoResolutionSides width height
  let rule := normalizeVideoResolutionSides sized.width sized.height
  rule.1 ≥ target.1 && rule.2 ≥ target.2

def maxInt : Int := 2 ^ 63 - 1

/-- One row of the loop: the smallest row that holds the video so far, and the largest
one that does not. -/
def considerRule (width height : Int) (found : Option SizedRule × Option SizedRule) (sized : SizedRule) :
    Option SizedRule × Option SizedRule :=
  if sized.holds width height then
    if sized.pixels < (found.1.map SizedRule.pixels).getD maxInt then (some sized, found.2) else found
  else if found.2.all fun fallback => sized.pixels > fallback.pixels then (found.1, some sized)
  else found

def chooseRule (rows : List SizedRule) (width height : Int) : Option SizedRule :=
  let found := rows.foldl (considerRule width height) (none, none)
  found.1.orElse fun _ => found.2

def hasSamePerSecondPriceForAudio (rows : List VideoRule) (row : VideoRule) : Bool :=
  rows.any fun other =>
    other.resolution = row.resolution ∧ other.hasAudio ≠ row.hasAudio ∧ other.price = row.price

def matchPerSecondPriceDetail (rules : VideoPricingRules) (mode : VideoMode) (width height : Int)
    (hasAudio : Bool) : Option VideoMatch :=
  let rows := rules.rows mode
  (chooseRule (sizedRules rows (targetVideoResolutionRatio width height) hasAudio) width height).map
    fun sized => {
      resolution := sized.rule.resolution
      ruleWidth := sized.width
      ruleHeight := sized.height
      pricePerSecond := sized.rule.price
      unifiedAudio := hasSamePerSecondPriceForAudio rows sized.rule }

/-- The first of the rows with the least key among those that count. -/
structure Least (Counts : SizedRule → Prop) (key : SizedRule → Int) (seen : List SizedRule)
    (found : Option SizedRule) : Prop where
  chosen : ∀ best ∈ found, best ∈ seen ∧ Counts best ∧ ∀ other ∈ seen, Counts other → key best ≤ key other
  nothing : found = none → ∀ other ∈ seen, ¬ Counts other

variable {Counts : SizedRule → Prop} {key : SizedRule → Int} {candidates seen : List SizedRule}
  {found : Option SizedRule} {sized : SizedRule} {width height : Int}

theorem Least.skip (least : Least Counts key seen found) (skipped : ¬ Counts sized) :
    Least Counts key (seen ++ [sized]) found := by
  constructor
  · intro best kept
    obtain ⟨member, counts, below⟩ := least.chosen best kept
    exact ⟨List.mem_append_left _ member, counts, by grind⟩
  · intro nothing
    have before := least.nothing nothing
    grind

theorem Least.take (least : Least Counts key seen found) (counts : Counts sized) :
    Least Counts key (seen ++ [sized]) (if found.all fun best => key sized < key best then some sized else found) := by
  cases found with
  | none =>
    have before := least.nothing rfl
    exact ⟨by simp [counts]; grind, by simp⟩
  | some best =>
    obtain ⟨member, bestCounts, below⟩ := least.chosen best rfl
    by_cases smaller : key sized < key best
    · refine ⟨?_, by simp [smaller]⟩
      grind
    · refine ⟨?_, by simp [smaller]⟩
      grind

/-- The rows seen so far: the smallest of those that hold the video, and the largest of the others. -/
structure Considered (width height : Int) (seen : List SizedRule)
    (found : Option SizedRule × Option SizedRule) : Prop where
  best : Least (fun sized => sized.holds width height) SizedRule.pixels seen found.1
  fallback : Least (fun sized => ¬ sized.holds width height) (fun sized => -sized.pixels) seen found.2

theorem Considered.step {found : Option SizedRule × Option SizedRule} (fits : sized.pixels < maxInt)
    (considered : Considered width height seen found) :
    Considered width height (seen ++ [sized]) (considerRule width height found sized) := by
  obtain ⟨best, fallback⟩ := considered
  unfold considerRule
  by_cases holds : sized.holds width height
  · have started : (found.1.all fun best => sized.pixels < best.pixels) =
        decide (sized.pixels < (found.1.map SizedRule.pixels).getD maxInt) := by
      cases found.1 <;> simp [fits]
    have kept := best.take holds
    simp only [started, decide_eq_true_eq] at kept
    have skipped := fallback.skip (not_not.mpr holds)
    split_ifs at kept ⊢ <;> exact ⟨kept, skipped⟩
  · have kept := fallback.take holds
    have skipped := best.skip holds
    simp only [neg_lt_neg_iff] at kept
    split_ifs at kept ⊢ <;> exact ⟨skipped, kept⟩

theorem considered (fits : ∀ sized ∈ candidates, sized.pixels < maxInt) (width height : Int) :
    Considered width height candidates (candidates.foldl (considerRule width height) (none, none)) := by
  induction candidates using List.reverseRecOn with
  | nil => exact ⟨⟨by simp, by simp⟩, ⟨by simp, by simp⟩⟩
  | append_singleton seen sized ih =>
    rw [List.foldl_append]
    exact (ih fun other among => fits other (List.mem_append_left _ among)).step (fits sized (by simp))

/-- The smallest of the rows that hold the video, or the largest one when none does. -/
structure Fits (candidates : List SizedRule) (width height : Int) (chosen : SizedRule) : Prop where
  member : chosen ∈ candidates
  smallest : (∃ other ∈ candidates, other.holds width height) → chosen.holds width height ∧
    ∀ other ∈ candidates, other.holds width height → chosen.pixels ≤ other.pixels
  largest : (∀ other ∈ candidates, ¬ other.holds width height) → ∀ other ∈ candidates, other.pixels ≤ chosen.pixels

theorem chooseRule_fits {chosen : SizedRule} (fits : ∀ sized ∈ candidates, sized.pixels < maxInt)
    (found : chooseRule candidates width height = some chosen) : Fits candidates width height chosen := by
  obtain ⟨⟨best, noBest⟩, fallback, -⟩ := considered fits width height
  unfold chooseRule at found
  generalize candidates.foldl (considerRule width height) (none, none) = last at *
  obtain ⟨_ | first, second⟩ := last
  · have nothing := noBest rfl
    obtain ⟨member, -, most⟩ := fallback chosen found
    exact ⟨member, fun ⟨other, among, holds⟩ => absurd holds (nothing other among),
      fun _ other among => neg_le_neg_iff.mp (most other among (nothing other among))⟩
  · cases found
    obtain ⟨member, holds, least⟩ := best _ rfl
    exact ⟨member, fun _ => ⟨holds, least⟩, fun nothing => absurd holds (nothing _ member)⟩

theorem chooseRule_exists (fits : ∀ sized ∈ candidates, sized.pixels < maxInt) (nonempty : candidates ≠ [])
    (width height : Int) : ∃ chosen, chooseRule candidates width height = some chosen := by
  obtain ⟨⟨-, noBest⟩, -, noFallback⟩ := considered fits width height
  unfold chooseRule
  generalize candidates.foldl (considerRule width height) (none, none) = found at *
  obtain ⟨_ | best, _ | fallback⟩ := found
  · obtain ⟨first, member⟩ := List.exists_mem_of_ne_nil _ nonempty
    exact absurd (noBest rfl first member) (noFallback rfl first member)
  · exact ⟨fallback, rfl⟩
  · exact ⟨best, rfl⟩
  · exact ⟨best, rfl⟩

end TokenFactory.Quota
