import TokenFactory.Options.Rules
import TokenFactory.Quota.Free

namespace TokenFactory.Quota

open Go Options

/-! The row of a video among those with a resolution and an audio flag.

The charge and the log have a copy of the search each, with a parser of their own. -/

def foldedResolution (text : String) : String := toLower (trimSpace text)

variable {sides : Int × Int} {text : String}

theorem parseResolution_eq_some : parseResolution text = some sides ↔
      ∃ first second, split 'x' (foldedResolution text) = [first, second] ∧
        atoi (trimSpace first) = some sides.1 ∧ atoi (trimSpace second) = some sides.2 ∧
        0 < sides.1 ∧ 0 < sides.2 := by
  unfold parseResolution foldedResolution toLower
  constructor
  · intro literal
    split at literal
    · rename_i first second parts
      split at literal
      · rename_i width height wide high
        split at literal
        case isTrue positive =>
          cases literal
          exact ⟨first, second, parts, wide, high, positive⟩
        case isFalse => cases literal
      · cases literal
    · cases literal
  · rintro ⟨first, second, parts, wide, high, positive⟩
    simp only [parts, wide, high]
    exact if_pos positive

theorem parseResolution_pos (literal : parseResolution text = some sides) :
    0 < sides.1 ∧ 0 < sides.2 := by
  obtain ⟨_, _, _, _, _, positive⟩ := parseResolution_eq_some.mp literal
  exact positive

theorem parse_literal (literal : parseResolution text = some sides) (ratio : Rat) :
    parseVideoResolutionFlexibleForRatio text ratio = some sides := by
  obtain ⟨first, second, parts, wide, high, positive⟩ := parseResolution_eq_some.mp literal
  rw [foldedResolution, toLower] at parts
  unfold parseVideoResolutionFlexibleForRatio
  simp only [parts, wide, high, gt_iff_lt, positive, and_self, if_true]
  rfl

theorem parseResolution_congr {text other : String} (same : foldedResolution text = foldedResolution other) :
    parseResolution text = parseResolution other := by
  ext sides
  rw [parseResolution_eq_some, parseResolution_eq_some, same]

def parseResolutionFlexibleForRatio (text : String) (ratio : Rat) : Option (Int × Int) :=
  let raw := toLower (trimSpace text)
  if raw = "" then none
  else
    (parseResolution raw).orElse fun _ =>
      (namedShortSide raw).map fun shortSide : Int => ((float64 (shortSide * ratio)).ceil, shortSide)

theorem isSpace_toLower (char : Char) : isSpace char.toLower = isSpace char := by
  by_cases upper : char.isUpper
  · have ascii : ∀ code < 128, isSpace (Char.ofNat code).toLower = isSpace (Char.ofNat code) := by decide +kernel
    have small : char.toNat < 128 := by
      simp only [Char.isUpper, UInt32.le_iff_toNat_le, decide_eq_true_eq] at upper
      exact lt_of_le_of_lt upper.2 (by decide)
    simpa using ascii _ small
  · rw [Char.toLower_eq_of_not_isUpper upper]

theorem trimChars_toLower (chars : List Char) :
    trimChars (chars.map Char.toLower) = (trimChars chars).map Char.toLower := by
  have same : isSpace ∘ Char.toLower = isSpace := funext isSpace_toLower
  rw [trimChars, List.dropWhile_map, same, List.rdropWhile, ← List.map_reverse, List.dropWhile_map, same,
    ← List.map_reverse, trimChars, List.rdropWhile]

theorem foldedResolution_idempotent (text : String) :
    foldedResolution (foldedResolution text) = foldedResolution text := by
  simp only [foldedResolution, toLower, trimSpace, String.toList_ofList, trimChars_toLower, trimChars_idempotent,
    List.map_map]
  congr 2
  exact funext Char.toLower_toLower_eq_toLower

theorem parseVideoResolutionFlexibleForRatio_eq (text : String) (ratio : Rat) :
    parseVideoResolutionFlexibleForRatio text ratio = (parseResolution text).orElse fun _ =>
      (namedShortSide (foldedResolution text)).map fun shortSide : Int =>
        ((float64 (shortSide * ratio)).ceil, shortSide) := by
  unfold parseVideoResolutionFlexibleForRatio parseResolution foldedResolution toLower
  rfl

theorem parseResolutionFlexibleForRatio_eq (text : String) (ratio : Rat) :
    parseResolutionFlexibleForRatio text ratio = parseVideoResolutionFlexibleForRatio text ratio := by
  have again : parseResolution (foldedResolution text) = parseResolution text :=
    parseResolution_congr (foldedResolution_idempotent text)
  unfold parseResolutionFlexibleForRatio
  dsimp only
  rw [parseVideoResolutionFlexibleForRatio_eq, ← again, ← foldedResolution]
  split_ifs with empty
  · rw [empty]
    rfl
  · rfl

/-- What the search has found so far, with the numbers of pixels that it compares with. -/
structure Picked where
  best : Option VideoRule := none
  bestPixels : Int := maxInt
  fallback : Option VideoRule := none
  fallbackPixels : Int := 0

def pickStep (width height : Int) (hasAudio : Bool) (found : Picked) (row : VideoRule) : Picked :=
  if row.price ≤ 0 ∨ row.hasAudio ≠ hasAudio then found
  else
    match parseResolutionFlexibleForRatio row.resolution (targetVideoResolutionRatio width height) with
    | none => found
    | some (ruleW, ruleH) =>
      let target := normalizeVideoResolutionSides width height
      let rule := normalizeVideoResolutionSides ruleW ruleH
      if ruleW * ruleH ≤ 0 then found
      else if rule.1 ≥ target.1 ∧ rule.2 ≥ target.2 then
        if ruleW * ruleH < found.bestPixels then { found with best := row, bestPixels := ruleW * ruleH } else found
      else if ruleW * ruleH > found.fallbackPixels then
        { found with fallback := row, fallbackPixels := ruleW * ruleH }
      else found

def pickAudioPriceByResolution (width height : Int) (hasAudio : Bool) (rows : List VideoRule) : Option Rat :=
  let found := rows.foldl (pickStep width height hasAudio) {}
  (found.best.orElse fun _ => found.fallback).map VideoRule.price

variable {rows : List VideoRule} {candidates : List SizedRule} {sized : SizedRule} {width height : Int}
  {hasAudio : Bool}

abbrev sizedFor (rows : List VideoRule) (width height : Int) (hasAudio : Bool) : List SizedRule :=
  sizedRules rows (targetVideoResolutionRatio width height) hasAudio

def Picked.of (found : Option SizedRule × Option SizedRule) : Picked where
  best := found.1.map SizedRule.rule
  bestPixels := (found.1.map SizedRule.pixels).getD maxInt
  fallback := found.2.map SizedRule.rule
  fallbackPixels := (found.2.map SizedRule.pixels).getD 0

theorem pickStep_of {row : VideoRule} (found : Option SizedRule × Option SizedRule) :
    pickStep width height hasAudio (.of found) row =
      .of ((sizedFor [row] width height hasAudio).foldl (considerRule width height) found) := by
  unfold pickStep
  rw [parseResolutionFlexibleForRatio_eq]
  simp only [sizedFor, sizedRules, List.filterMap_cons, List.filterMap_nil]
  split_ifs with unfit
  · rfl
  · cases parsed : parseVideoResolutionFlexibleForRatio row.resolution (targetVideoResolutionRatio width height) with
    | none => rfl
    | some sides =>
      obtain ⟨ruleW, ruleH⟩ := sides
      simp only [Option.map_some, Option.filter_some, SizedRule.pixels]
      by_cases positive : ruleW * ruleH > 0
      · simp only [positive, not_le.mpr positive, decide_true, if_true, if_false, List.foldl_cons, List.foldl_nil,
          considerRule, SizedRule.holds, Bool.and_eq_true, decide_eq_true_eq]
        obtain ⟨best, fallback⟩ := found
        by_cases holds :
            (normalizeVideoResolutionSides ruleW ruleH).1 ≥ (normalizeVideoResolutionSides width height).1 ∧
            (normalizeVideoResolutionSides ruleW ruleH).2 ≥ (normalizeVideoResolutionSides width height).2
        · rw [if_pos holds, if_pos holds, apply_ite Picked.of]
          rfl
        · rw [if_neg holds, if_neg holds]
          cases fallback with
          | none => simp [Picked.of, positive, SizedRule.pixels]
          | some fallback =>
            by_cases larger : fallback.width * fallback.height < ruleW * ruleH <;>
              simp [Picked.of, SizedRule.pixels, larger]
      · simp [positive, not_lt.mp positive]

theorem pickAudioPriceByResolution_eq : pickAudioPriceByResolution width height hasAudio rows =
      (chooseRule (sizedFor rows width height hasAudio) width height).map fun sized => sized.rule.price := by
  have loop : ∀ found, rows.foldl (pickStep width height hasAudio) (.of found) =
      .of ((sizedFor rows width height hasAudio).foldl (considerRule width height) found) := by
    induction rows with
    | nil => exact fun _ => rfl
    | cons row rest ih =>
      intro found
      have parts : sizedFor (row :: rest) width height hasAudio =
          sizedFor [row] width height hasAudio ++ sizedFor rest width height hasAudio :=
        List.filterMap_append (l := [row])
      rw [parts, List.foldl_cons, List.foldl_append, pickStep_of found, ih]
  have whole := loop (none, none)
  unfold pickAudioPriceByResolution chooseRule
  rw [show ({} : Picked) = .of (none, none) from rfl]
  rw [whole]
  generalize (sizedFor rows width height hasAudio).foldl (considerRule width height) (none, none) = found
  obtain ⟨_ | best, fallback⟩ := found <;> simp [Picked.of, Function.comp_def]

theorem normalizeVideoResolutionSides_swap (width height : Int) :
    normalizeVideoResolutionSides height width = normalizeVideoResolutionSides width height := by
  grind [normalizeVideoResolutionSides]

theorem targetVideoResolutionRatio_swap (width height : Int) :
    targetVideoResolutionRatio height width = targetVideoResolutionRatio width height := by
  simp only [targetVideoResolutionRatio, normalizeVideoResolutionSides_swap]

theorem SizedRule.holds_mono {wider higher : Int} (wide : width ≤ wider) (high : height ≤ higher)
    (holds : sized.holds wider higher) : sized.holds width height := by
  grind [SizedRule.holds, normalizeVideoResolutionSides]

theorem Fits.mono {wider higher : Int} {chosen larger : SizedRule} (wide : width ≤ wider) (high : height ≤ higher)
    (first : Fits candidates width height chosen) (second : Fits candidates wider higher larger) :
    chosen.pixels ≤ larger.pixels := by
  by_cases held : ∃ other ∈ candidates, other.holds wider higher
  · have holds := SizedRule.holds_mono wide high (second.smallest held).1
    exact (first.smallest ⟨larger, second.member, holds⟩).2 larger second.member holds
  · exact second.largest (by simpa using held) chosen first.member

theorem sizedRules_literal (literal : ∀ row ∈ rows, (parseResolution row.resolution).isSome) (one two : Rat) :
    sizedRules rows one hasAudio = sizedRules rows two hasAudio := by
  refine List.filterMap_congr fun row member => ?_
  obtain ⟨sides, parsed⟩ := Option.isSome_iff_exists.mp (literal row member)
  rw [parse_literal parsed, parse_literal parsed]

/-- Both searches find the same price, of the smallest row that holds the video or of the largest one. -/
theorem video_tier_matching (rules : VideoPricingRules) (mode : VideoMode) (width height : Int) (hasAudio : Bool)
    (fits : ∀ sized ∈ sizedFor (rules.rows mode) width height hasAudio, sized.pixels < maxInt) :
    pickAudioPriceByResolution width height hasAudio (rules.rows mode) =
        (matchPerSecondPriceDetail rules mode width height hasAudio).map VideoMatch.pricePerSecond ∧
      (∀ matched ∈ matchPerSecondPriceDetail rules mode width height hasAudio,
        ∃ chosen, Fits (sizedFor (rules.rows mode) width height hasAudio) width height chosen ∧
          matched.resolution = chosen.rule.resolution ∧ matched.pricePerSecond = chosen.rule.price) ∧
      pickAudioPriceByResolution height width hasAudio (rules.rows mode) =
        pickAudioPriceByResolution width height hasAudio (rules.rows mode) ∧
      matchPerSecondPriceDetail rules mode height width hasAudio =
        matchPerSecondPriceDetail rules mode width height hasAudio ∧
      ((∀ row ∈ rules.rows mode, (parseResolution row.resolution).isSome) →
        ∀ wider higher, width ≤ wider → height ≤ higher →
        ∀ matched ∈ matchPerSecondPriceDetail rules mode width height hasAudio,
        ∀ larger ∈ matchPerSecondPriceDetail rules mode wider higher hasAudio,
          matched.ruleWidth * matched.ruleHeight ≤ larger.ruleWidth * larger.ruleHeight) := by
  have turned : considerRule height width = considerRule width height := by
    funext found sized
    have holds : sized.holds height width = sized.holds width height := by
      simp only [SizedRule.holds, normalizeVideoResolutionSides_swap]
    rw [considerRule, considerRule, holds]
  refine ⟨?_, fun matched found => ?_, ?_, ?_, fun literal wider higher wide high matched found larger wanted => ?_⟩
  · rw [pickAudioPriceByResolution_eq, matchPerSecondPriceDetail, Option.map_map]
    rfl
  · obtain ⟨chosen, chose, rfl⟩ := Option.map_eq_some_iff.mp found
    exact ⟨chosen, chooseRule_fits fits chose, rfl, rfl⟩
  · have step : pickStep height width hasAudio = pickStep width height hasAudio := by
      funext found row
      simp only [pickStep, normalizeVideoResolutionSides_swap, targetVideoResolutionRatio_swap]
    rw [pickAudioPriceByResolution, step, pickAudioPriceByResolution]
  · simp only [matchPerSecondPriceDetail, chooseRule, turned, targetVideoResolutionRatio_swap]
  · obtain ⟨chosen, chose, rfl⟩ := Option.map_eq_some_iff.mp found
    obtain ⟨other, chosen', rfl⟩ := Option.map_eq_some_iff.mp wanted
    rw [sizedRules_literal literal _ (targetVideoResolutionRatio width height)] at chosen'
    exact (chooseRule_fits fits chose).mono wide high (chooseRule_fits fits chosen')

theorem named_tier_matched :
    pickAudioPriceByResolution 1000 700 false [⟨"480p", false, 1⟩, ⟨"1280x720", false, 2⟩] = some 2 :=
  (video_tier_matching { textToVideoPerSecond := [⟨"480p", false, 1⟩, ⟨"1280x720", false, 2⟩] } .textToVideo 1000 700
    false (by decide +kernel)).1.trans (by decide +kernel)

/-- The search starts with the largest integer as the fewest pixels, so a row with that many is never chosen. -/
theorem largest_row_not_matched :
    pickAudioPriceByResolution 1 1000 false [⟨"1x9223372036854775807", false, 1⟩, ⟨"1x1", false, 2⟩] = some 2 ∧
      ∃ sized ∈ sizedFor [⟨"1x9223372036854775807", false, 1⟩, ⟨"1x1", false, 2⟩] 1 1000 false,
        sized.holds 1 1000 ∧ sized.pixels = maxInt ∧ sized.rule.price = 1 := by
  decide +kernel

end TokenFactory.Quota
