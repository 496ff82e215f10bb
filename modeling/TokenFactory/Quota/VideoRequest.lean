import TokenFactory.Quota.ImageBilling
import TokenFactory.Quota.OtherRatios
import TokenFactory.Quota.VideoMatch

namespace TokenFactory.Quota

open Go Relay

/-! A request for a video that is priced by the second. -/

/-- What is read of a request; a request without metadata has none of their fields. -/
structure TaskSubmitReq where
  size : String := ""
  seconds : String := ""
  duration : Int := 0
  metadata : Fields := []
  mode : VideoMode := .textToVideo

/-- `strconv.ParseFloat` and `VideoDimensionsFromMetadata`. -/
structure RequestLibrary where
  parseFloat : String → Option Rat
  videoDimensionsFromMetadata : Fields → Option (Int × Int)

def defaultVideoDuration : Int := 5

section Reading
variable (library : RequestLibrary)

/-- `ParseFloat`, rounded up. -/
def positiveFloat (text : String) : Option Int :=
  ((library.parseFloat text).filter fun value => 0 < value).map fun value => toInt64 value.ceil

/-- `Atoi` is tried first. -/
def parsePositive (text : String) : Option Int :=
  ((atoi text).filter fun value => 0 < value).orElse fun _ => positiveFloat library text

def coerceToPositiveInt : Json → Int
  | .number value => if 0 < value then toInt64 value.ceil else 0
  | .string text => (parsePositive library (trimSpace text)).getD 0
  | _ => 0

def resolveVideoDuration (req : TaskSubmitReq) : Int :=
  (((req.metadata.get? "duration").map (coerceToPositiveInt library)).filter fun seconds => 0 < seconds).getD
    ((if trimSpace req.seconds = "" then none else parsePositive library (trimSpace req.seconds)).getD
      (if 0 < req.duration then req.duration else defaultVideoDuration))

def resolveVideoDimensions (req : TaskSubmitReq) : Int × Int :=
  match parseResolution req.size with
  | some sides => sides
  | none => (library.videoDimensionsFromMetadata req.metadata).getD (720, 1280)

end Reading

def audioFlag : Json → Option Bool
  | .bool value => some value
  | .string text => some (toLower (trimSpace text) = "true")
  | _ => none

def requestHasAudio (req : TaskSubmitReq) : Bool :=
  match (req.metadata.get? "has_audio").bind audioFlag with
  | some flag => flag
  | none => ((req.metadata.get? "generate_audio").bind audioFlag).getD false

structure VideoEstimate where
  mode : VideoMode
  width : Int
  height : Int
  durationSec : Int
  hasAudio : Bool

def estimateVideoRequestContext (library : RequestLibrary) (req : TaskSubmitReq) : VideoEstimate where
  mode := req.mode
  width := (resolveVideoDimensions library req).1
  height := (resolveVideoDimensions library req).2
  durationSec := resolveVideoDuration library req
  hasAudio := requestHasAudio req

structure VideoCaller where
  userId : Int
  channelId : Int
  originModelName : String
  groupRatioInfo : GroupRatioInfo

section Price
variable (tables : TaskTables) (caller : VideoCaller) (estimate : VideoEstimate)

def resolveVideoPerSecondPricingRules : Option VideoPricingRules :=
  ((tables.channelVideoPricingRules caller.channelId caller.originModelName).filter hasUsableVideoPerSecondRules).orElse
    fun _ => (tables.videoPricingRules caller.originModelName).filter hasUsableVideoPerSecondRules

/-- Without rules of the channel the price is that of the platform's row. -/
def effectivePricePerSecond : Option Rat :=
  (resolveVideoPerSecondPricingRules tables caller).bind fun rules =>
    ((pickAudioPriceByResolution estimate.width estimate.height estimate.hasAudio (rules.rows estimate.mode)).filter
      fun price => 0 < price).bind fun pricePerSecond =>
      ((effectiveVideoPerSecondUSDForDimensions tables caller.channelId caller.originModelName estimate.mode
        ⟨0, estimate.width, estimate.height, estimate.hasAudio⟩ (tables.channelPriceDiscountPercent caller.channelId)
        (tables.markupDiscountPercent caller.userId caller.channelId caller.originModelName)).filter
          fun price => 0 < price).orElse fun _ =>
        if (tables.channelVideoPricingRules caller.channelId caller.originModelName).any hasUsableVideoPerSecondRules
        then none else some pricePerSecond

def rawQuota (seconds : Int) (price : Rat) : Rat :=
  seconds * price * tables.quotaPerUnit * caller.groupRatioInfo.groupRatio

def quotaOf (raw : Rat) : Int :=
  if toInt64 (mathRound raw) ≤ 0 ∧ raw > 0 then 1 else toInt64 (mathRound raw)

def billedSeconds (durationSec : Int) : Int :=
  let seconds := if durationSec ≤ 0 then defaultVideoDuration else durationSec
  toInt64 (float64 seconds).ceil

def tryVideoPerSecondRulesPriceData : Option PriceData :=
  (effectivePricePerSecond tables caller estimate).map fun price =>
    let seconds := billedSeconds estimate.durationSec
    let quota := quotaOf (rawQuota tables caller seconds price)
    { groupRatioInfo := caller.groupRatioInfo
      usePrice := true
      quota
      quotaToPreConsume := quota
      channelPriceDiscount := some (tables.channelPriceDiscountPercent caller.channelId)
      costDiscountPercent := tables.channelPriceDiscountPercent caller.channelId
      markupDiscountPercent := tables.markupDiscountPercent caller.userId caller.channelId caller.originModelName
      otherRatios := ("seconds", (seconds : Rat)) :: if estimate.hasAudio then [("has_audio", 1)] else [] }

end Price

variable {tables : TaskTables} {caller : VideoCaller} {estimate : VideoEstimate} {raw price : Rat}

theorem mathRound_eq_floor (nonnegative : 0 ≤ raw) : mathRound raw = ⌊raw + 1 / 2⌋ := by
  rw [mathRound, if_pos nonnegative, intPart, if_pos (by linarith)]
  rfl

theorem mathRound_mono {other : Rat} (nonnegative : 0 ≤ raw) (le : raw ≤ other) : mathRound raw ≤ mathRound other := by
  rw [mathRound_eq_floor nonnegative, mathRound_eq_floor (nonnegative.trans le)]
  gcongr

/-- A charge that is too large for an integer becomes the least one. -/
theorem quotaOf_eq (positive : 0 < raw) :
    quotaOf raw = if raw < 2 ^ 63 - 1 / 2 then max 1 (mathRound raw) else 1 := by
  have rounded := mathRound_eq_floor positive.le
  have bound : mathRound raw < 2 ^ 63 ↔ raw < 2 ^ 63 - 1 / 2 := by
    rw [rounded, Int.floor_lt]
    constructor <;> intro <;> linarith
  have nonnegative := mathRound_nonneg positive.le
  by_cases fits : raw < 2 ^ 63 - 1 / 2
  · have small := bound.mpr fits
    have inside : toInt64 (mathRound raw) = mathRound raw := by
      rw [toInt64, intPart_intCast, if_pos ⟨by omega, small⟩]
    simp only [quotaOf, inside, if_pos fits, gt_iff_lt, positive, and_true]
    split_ifs <;> omega
  · have outside : toInt64 (mathRound raw) = -2 ^ 63 := by
      rw [toInt64, intPart_intCast, if_neg fun inside => fits (bound.mp inside.2)]
    rw [quotaOf, outside, if_neg fits, if_pos ⟨by decide, positive⟩]

theorem quotaOf_le_iff {other : Rat} (positive : 0 < raw) (other_pos : 0 < other) :
    quotaOf raw ≤ quotaOf other ↔
      raw < 3 / 2 ∨ 2 ^ 63 - 1 / 2 ≤ raw ∨
        other < 2 ^ 63 - 1 / 2 ∧ (raw ≤ other ∨ mathRound raw = mathRound other) := by
  have small : mathRound raw ≤ 1 ↔ raw < 3 / 2 := by
    rw [mathRound_eq_floor positive.le, ← Int.lt_add_one_iff, Int.floor_lt]
    constructor <;> intro <;> linarith
  have order : mathRound raw ≤ mathRound other ↔ raw ≤ other ∨ mathRound raw = mathRound other := by
    constructor
    · intro le
      rcases le_total raw other with below | above
      · exact .inl below
      · exact .inr (le.antisymm (mathRound_mono other_pos.le above))
    · rintro (below | same)
      · exact mathRound_mono positive.le below
      · exact same.le
  rw [quotaOf_eq positive, quotaOf_eq other_pos, ← small, ← order, ← not_lt (a := raw)]
  by_cases fits : raw < 2 ^ 63 - 1 / 2 <;> by_cases otherFits : other < 2 ^ 63 - 1 / 2 <;>
    simp only [fits, otherFits, if_true, if_false, not_true_eq_false, not_false_eq_true, true_and, false_and,
      true_or, or_true, or_false, false_or, iff_true] <;>
    omega

/-- What is not positive is charged nothing, or has become negative. -/
theorem quotaOf_nonpos (negative : raw < 0) : quotaOf raw ≤ 0 := by
  have rounded : mathRound raw ≤ 0 := by
    rw [mathRound, if_neg (not_le.mpr negative), intPart, if_neg (by linarith), Rat.ceil_le_iff]
    linarith
  rw [quotaOf, if_neg fun charged => absurd charged.2 (not_lt.mpr negative.le), toInt64, intPart_intCast]
  split <;> omega

theorem quotaOf_pos (positive : 0 < raw) : 0 < quotaOf raw := by
  rw [quotaOf_eq positive]
  split <;> omega

theorem effectivePricePerSecond_pos (priced : effectivePricePerSecond tables caller estimate = some price) :
    0 < price := by
  simp only [effectivePricePerSecond, Option.bind_eq_some_iff, Option.filter_eq_some_iff, decide_eq_true_eq] at priced
  obtain ⟨rules, -, row, ⟨-, row_pos⟩, chosen⟩ := priced
  simp only [Option.orElse_eq_or, Option.or_eq_some_iff, Option.filter_eq_some_iff, decide_eq_true_eq] at chosen
  obtain ⟨-, own⟩ | ⟨-, fallback⟩ := chosen
  · exact own
  · split_ifs at fallback
    cases fallback
    exact row_pos

/-- A number of seconds that a float rounds up to `2 ^ 63` becomes negative. -/
theorem billedSeconds_cases (durationSec : Int) :
    0 < billedSeconds durationSec ∨ billedSeconds durationSec = -2 ^ 63 := by
  have positive : 0 < (float64 (if durationSec ≤ 0 then defaultVideoDuration else durationSec : Int)).ceil := by
    rw [Rat.lt_ceil_iff, Int.cast_zero]
    refine float64_pos (Int.cast_pos.mpr ?_)
    unfold defaultVideoDuration
    split_ifs <;> omega
  unfold billedSeconds toInt64
  dsimp only
  rw [intPart_intCast]
  generalize (float64 _).ceil = seconds at positive ⊢
  split <;> omega

theorem billedSeconds_five : billedSeconds 5 = 5 := by
  have five : float64 (5 : Int) = (5 : Int) := float64_intCast (by decide)
  rw [billedSeconds, if_neg (by decide), five, Rat.ceil_intCast, toInt64_intCast (by decide)]

/-- A longer video costs no less exactly if neither number of seconds is rounded up to `2 ^ 63` or both
are, and the longer charge is one that an integer holds, or the shorter is the least one anyway. -/
theorem longer_video_iff (priced : effectivePricePerSecond tables caller estimate = some price)
    (unit : 0 < tables.quotaPerUnit) (ratio : 0 < caller.groupRatioInfo.groupRatio) (short long : Int) :
    ∃ first second,
      tryVideoPerSecondRulesPriceData tables caller { estimate with durationSec := short } = some first ∧
      tryVideoPerSecondRulesPriceData tables caller { estimate with durationSec := long } = some second ∧
      (first.quotaToPreConsume ≤ second.quotaToPreConsume ↔
        let less := rawQuota tables caller (billedSeconds short) price
        let more := rawQuota tables caller (billedSeconds long) price
        billedSeconds short < 0 ∨ 0 < billedSeconds long ∧ (less < 3 / 2 ∨ 2 ^ 63 - 1 / 2 ≤ less ∨
          more < 2 ^ 63 - 1 / 2 ∧ (less ≤ more ∨ mathRound less = mathRound more))) := by
  have positive := effectivePricePerSecond_pos priced
  have same (durationSec : Int) :
      effectivePricePerSecond tables caller { estimate with durationSec } = some price := priced
  refine ⟨_, _, by rw [tryVideoPerSecondRulesPriceData, same]; rfl,
    by rw [tryVideoPerSecondRulesPriceData, same]; rfl, ?_⟩
  have charged {seconds : Int} (above : 0 < seconds) : 0 < rawQuota tables caller seconds price := by
    unfold rawQuota
    positivity
  have refunded : rawQuota tables caller (-2 ^ 63) price < 0 := by
    have := @charged (2 ^ 63) (by decide)
    unfold rawQuota at *
    push_cast at *
    linarith
  dsimp only
  rcases billedSeconds_cases short with above | wrapped
  · rw [or_iff_right (not_lt.mpr above.le)]
    rcases billedSeconds_cases long with above' | wrapped'
    · rw [and_iff_right above']
      exact quotaOf_le_iff (charged above) (charged above')
    · have dear := quotaOf_pos (charged above)
      have cheap := quotaOf_nonpos refunded
      rw [wrapped']
      exact iff_of_false (by omega) (fun ⟨above', _⟩ => absurd above' (by decide))
  · refine iff_of_true ?_ (.inl (by rw [wrapped]; decide))
    have cheap := quotaOf_nonpos refunded
    rw [wrapped]
    rcases billedSeconds_cases long with above' | wrapped'
    · have dear := quotaOf_pos (charged above')
      omega
    · rw [wrapped']

/-- The platform asks for one dollar a second, whatever the size. -/
def dollarTables : TaskTables where
  quotaPerUnit := 500000
  modelRatio _ := none
  groupRatio _ := 1
  groupGroupRatio _ _ := none
  channelPriceDiscountPercent _ := 100
  markupDiscountPercent _ _ _ := 0
  channelVideoPricingRules _ _ := none
  videoPricingRules _ := some { textToVideoPerSecond := [⟨"720x1280", false, 1⟩] }
  lookupGlobalVideoPerSecondUSD _ _ _ _ _ := 0

def dollarCaller : VideoCaller := ⟨1, 1, "sora-2", ⟨1, 0, false⟩⟩

def silentClip (durationSec : Int) : VideoEstimate := ⟨.textToVideo, 720, 1280, durationSec, false⟩

theorem dollarPrice (durationSec : Int) :
    effectivePricePerSecond dollarTables dollarCaller (silentClip durationSec) = some 1 := by
  have fixed : effectivePricePerSecond dollarTables dollarCaller (silentClip 0) = some 1 := by decide +kernel
  exact fixed

theorem ten_seconds_cost_more_than_five : ∃ first second,
      tryVideoPerSecondRulesPriceData dollarTables dollarCaller (silentClip 5) = some first ∧
      tryVideoPerSecondRulesPriceData dollarTables dollarCaller (silentClip 10) = some second ∧
      first.quotaToPreConsume ≤ second.quotaToPreConsume := by
  obtain ⟨first, second, short, long, order⟩ :=
    longer_video_iff (dollarPrice 0) (by decide +kernel) (by decide +kernel) 5 10
  exact ⟨first, second, short, long, order.mpr (by decide +kernel)⟩

/-- Ten seconds cost five million units, and a video of `2 ^ 62` seconds costs one. -/
theorem endless_video_cheap :
    (tryVideoPerSecondRulesPriceData dollarTables dollarCaller (silentClip 10)).map PriceData.quotaToPreConsume =
        some 5000000 ∧
      (tryVideoPerSecondRulesPriceData dollarTables dollarCaller (silentClip (2 ^ 62))).map
        PriceData.quotaToPreConsume = some 1 := by
  decide +kernel

/-- What `RelayTaskSubmit` works with. -/
structure RemixInfo where
  channelType : Int
  priceData : PriceData := {}

def resolveOriginTask (otherRatios : List (String × Rat)) (info : RemixInfo) : RemixInfo :=
  { info with
    priceData := otherRatios.foldl (fun price ratio => addOtherRatio price ratio.1 ratio.2) info.priceData }

/-- Steps 4 to 6 of `RelayTaskSubmit` on a video channel: what the price helper answers takes the place of
what was kept of the origin. `patched` is a name of `TaskPricePatches`. -/
def relayTaskSubmit (modelPriceHelperVideo : Option PriceData) (estimateBilling : List (String × Rat)) (patched : Bool)
    (info : RemixInfo) : Option RemixInfo :=
  modelPriceHelperVideo.map fun priceData =>
    let info := { info with priceData }
    let isVideoTokenBranch :=
      ChannelType.isVideoTask info.channelType ∧ info.priceData.usePrice ∧ info.priceData.modelPrice = 0
    if isVideoTokenBranch then info
    else
      let price := estimateBilling.foldl (fun price ratio => addOtherRatio price ratio.1 ratio.2) info.priceData
      if patched then { info with priceData := price }
      else { info with priceData := { price with quota := applyOtherRatios price.quota price.otherRatios } }

theorem resolveVideoDuration_default (library : RequestLibrary) {req : TaskSubmitReq}
    (metadata : req.metadata.get? "duration" = none) (seconds : trimSpace req.seconds = "")
    (duration : req.duration ≤ 0) : resolveVideoDuration library req = 5 := by
  simp [resolveVideoDuration, metadata, seconds, not_lt.mpr duration, defaultVideoDuration]

/-- The remix is charged for the default number of seconds. -/
theorem remix_seconds_iff (library : RequestLibrary) {req : TaskSubmitReq} {info : RemixInfo}
    (video : ChannelType.isVideoTask info.channelType) (metadata : req.metadata.get? "duration" = none)
    (seconds : trimSpace req.seconds = "") (duration : req.duration ≤ 0)
    (priced : effectivePricePerSecond tables caller (estimateVideoRequestContext library req) = some price)
    (estimateBilling : List (String × Rat)) (patched : Bool) (origin : List (String × Rat)) (s : Rat) : ∃ submitted,
      relayTaskSubmit (tryVideoPerSecondRulesPriceData tables caller (estimateVideoRequestContext library req))
        estimateBilling patched (resolveOriginTask origin info) = some submitted ∧
      submitted.priceData.quota = quotaOf (rawQuota tables caller 5 price) ∧
      (findOtherRatio submitted.priceData "seconds" = some s ↔ s = 5) := by
  have read : (estimateVideoRequestContext library req).durationSec = 5 :=
    resolveVideoDuration_default library metadata seconds duration
  rw [relayTaskSubmit, tryVideoPerSecondRulesPriceData, priced, Option.map_some, Option.map_some, read,
    billedSeconds_five]
  refine ⟨_, congrArg some (if_pos ⟨video, rfl, rfl⟩), rfl, ?_⟩
  simp only [findOtherRatio, List.find?_cons_of_pos, Option.map_some, Option.some_inj, decide_true]
  exact eq_comm

def noReading : RequestLibrary := ⟨fun _ => none, fun _ => none⟩

/-- A remix of a video of `s` seconds that states nothing itself. -/
def submitRemix (s : Rat) : Option RemixInfo :=
  relayTaskSubmit (tryVideoPerSecondRulesPriceData dollarTables dollarCaller (estimateVideoRequestContext noReading {}))
    [] false (resolveOriginTask [("seconds", s)] { channelType := ChannelType.sora })

theorem five_second_remix :
    ∃ submitted, submitRemix 5 = some submitted ∧ findOtherRatio submitted.priceData "seconds" = some 5 := by
  have priced : effectivePricePerSecond dollarTables dollarCaller (estimateVideoRequestContext noReading {}) =
      some 1 := by
    decide +kernel
  obtain ⟨submitted, eq, -, billed⟩ :=
    @remix_seconds_iff dollarTables dollarCaller 1 noReading {} { channelType := ChannelType.sora } (by decide)
      (by decide) (by decide) (by decide) priced [] false [("seconds", 5)] 5
  exact ⟨submitted, eq, billed.mpr rfl⟩

/-- Twelve seconds are made, and five are charged. -/
theorem twelve_second_remix :
    (submitRemix 12).map (fun submitted => (findOtherRatio submitted.priceData "seconds", submitted.priceData.quota)) =
      some (some 5, 2500000) := by
  decide +kernel

end TokenFactory.Quota
