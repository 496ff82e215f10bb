import TokenFactory.Quota.Task

namespace TokenFactory.Quota

open Go Relay

/-! A user whose group ratio is zero. -/

namespace TextRequest

variable {tables : TextTables} {request : TextRequest} {summary : TextQuotaSummary}

theorem webSearchQuota_free (free : request.groupRatio = 0) : request.webSearchQuota tables = 0 := by
  unfold webSearchQuota
  split
  · split
    · rfl
    · simp only [free, mul_zero, zero_mul]
  · split
    · simp only [free, mul_zero, zero_mul]
    · rfl

theorem toolQuota_free (free : request.groupRatio = 0) : request.toolQuota tables = 0 := by
  have claude : request.claudeWebSearchQuota tables = 0 := by
    simp only [claudeWebSearchQuota, free, mul_zero, zero_mul, ite_self]
  have file : request.fileSearchQuota tables = 0 := by
    unfold fileSearchQuota
    split
    · rfl
    · simp only [free, mul_zero, zero_mul]
  have image : request.imageGenerationCallQuota tables = 0 := by
    unfold imageGenerationCallQuota
    split
    · rfl
    · simp only [free, mul_zero, zero_mul]
  rw [toolQuota, webSearchQuota_free free, claude, file, image]
  norm_num

theorem cacheWriteSideTotal_free (rates : TextRates) (free : request.groupRatio = 0) :
    request.cacheWriteSideTotal tables summary rates = 0 := by
  simp only [cacheWriteSideTotal, free, mul_zero, ite_self]

theorem ratioQuota_free (free : request.groupRatio = 0) :
    request.ratioQuota tables summary = if 0 < (textRates request.priceData).input then 1 else 0 := by
  have one : mathRound 1 = 1 := by decide +kernel
  have sides (rates : TextRates) :
      request.inputSideTotal tables summary rates + request.cacheReadSideTotal tables summary rates +
        request.cacheWriteSideTotal tables summary rates + request.outputSideTotal tables summary rates = 0 := by
    rw [cacheWriteSideTotal_free rates free]
    simp only [inputSideTotal, cacheReadSideTotal, outputSideTotal, free, mul_zero, ite_self, add_zero]
  have audio : request.audioInputQuota tables summary = 0 := by
    simp only [audioInputQuota, free, mul_zero, zero_mul, ite_self]
  simp only [ratioQuota, sides, toolQuota_free free, audio, add_zero, zero_mul, le_refl, and_true, gt_iff_lt]
  split
  · exact one
  · exact mathRound_zero

theorem fixedQuota_free (free : request.groupRatio = 0) : request.fixedQuota tables = 0 := by
  simp only [fixedQuota, free, toolQuota_free free, mul_zero, zero_mul, add_zero, mathRound_zero]

end TextRequest

/-- No rule of a text request asks for a minimum. -/
def Unpriced (price : PriceData) : Prop :=
  price.modelRatio ≤ 0 ∧ price.modelPrice ≤ 0 ∧ (price.usePrice = true ∨ (textRates price).input ≤ 0)

instance (price : PriceData) : Decidable (Unpriced price) := inferInstanceAs (Decidable (_ ∧ _ ∧ _))

theorem calculateTextQuotaSummary_free {tables : TextTables} {request : TextRequest} {usage : Option Usage}
    (free : request.groupRatio = 0) : (calculateTextQuotaSummary tables request usage).quota = 0 ↔
      (calculateTextQuotaSummary tables request usage).totalTokens = 0 ∨ Unpriced request.priceData := by
  simp only [calculateTextQuotaSummary, TextRequest.ratioQuota_free free, TextRequest.fixedQuota_free free]
  by_cases unused : (textTokens tables request usage).totalTokens = 0
  · simp only [unused, if_true, true_or]
  · by_cases fixed : request.priceData.usePrice = true
    · simp [unused, Unpriced, fixed]
    · by_cases rated : 0 < (textRates request.priceData).input
      · simp [unused, Unpriced, fixed, rated]
      · simp [unused, Unpriced, fixed, rated, not_lt.mp rated]

theorem mathRound_pos_iff {value : Rat} : 0 < mathRound value ↔ 1 / 2 ≤ value := by
  unfold mathRound intPart
  split_ifs with above whole whole
  · rw [← Int.add_one_le_iff, Rat.le_floor_iff]
    constructor <;> intro reached <;> push_cast at * <;> linarith
  · linarith
  · linarith
  · rw [Rat.lt_ceil_iff]
    constructor <;> intro reached <;> push_cast at * <;> linarith

section Task
variable {tables : TaskTables}

/-- What a number of seconds costs with a group ratio of one, before it is rounded. -/
def perSecondAmount (tables : TaskTables) (seconds : Int) (pricePerSecond : Rat) : Rat :=
  seconds * pricePerSecond * tables.quotaPerUnit

theorem perSecondQuota_one (seconds : Int) (price : Rat) : perSecondQuota tables seconds price 1 =
      if mathRound (perSecondAmount tables seconds price) ≤ 0 ∧ perSecondAmount tables seconds price > 0 then 1
      else mathRound (perSecondAmount tables seconds price) := by
  simp [perSecondQuota, perSecondAmount]

theorem perSecondQuota_pos_iff {seconds : Int} {price : Rat} :
    0 < perSecondQuota tables seconds price 1 ↔ 0 < perSecondAmount tables seconds price := by
  rw [perSecondQuota_one]
  split_ifs with raised
  · simpa using raised.2
  · constructor
    · intro charged
      linarith [mathRound_pos_iff.mp charged]
    · intro positive
      exact not_le.mp fun small => raised ⟨small, positive⟩

theorem perSecondQuota_eq_zero_iff {seconds : Int} {price : Rat} : perSecondQuota tables seconds price 1 = 0 ↔
      perSecondAmount tables seconds price ≤ 0 ∧ -1 / 2 < perSecondAmount tables seconds price := by
  rw [perSecondQuota_one]
  split_ifs with raised
  · exact iff_of_false (by decide) fun free => absurd raised.2 (not_lt.mpr free.1)
  · rw [mathRound_eq_zero, abs_lt]
    constructor
    · rintro ⟨above, below⟩
      refine ⟨not_lt.mp fun positive => raised ⟨?_, positive⟩, by linarith⟩
      exact ((mathRound_eq_zero _).mpr (abs_lt.mpr ⟨above, below⟩)).le
    · intro free
      constructor <;> linarith

/-- The answer to a submission gives nothing to charge for: too few tokens, and no video with a price. -/
structure SubmitUnpriced (tables : TaskTables) (info : SubmitInfo) (answer : SubmitAnswer) : Prop where
  tokens : answer.totalTokens ≤ 0 ∨ info.priceData.modelRatio ≤ 0 ∨
    answer.totalTokens * effectiveInputRate info.priceData.modelRatio info.priceData.globalModelRatio
      (submitCostPercent tables info) info.priceData.markupDiscountPercent < 1 / 2
  video : ChannelType.isVideoTask info.channelType = true → ∀ video ∈ answer.metadata,
    trimSpace info.originModelName ≠ "" → 0 < video.durationSec.ceil → ∀ price ∈
      effectiveVideoPerSecondUSDForDimensions tables info.channelId info.originModelName info.mode video
        (submitCostPercent tables info) info.priceData.markupDiscountPercent,
      0 < price → perSecondAmount tables video.durationSec.ceil price ≤ 0

section
variable {info : SubmitInfo} (free : info.priceData.groupRatioInfo.groupRatio = 0)
include free

theorem byTokens_pos_iff {totalTokens : Int} : 0 < calcQuotaByUpstreamTokens tables info totalTokens ↔
      ¬ (totalTokens ≤ 0 ∨ info.priceData.modelRatio ≤ 0 ∨
        totalTokens * effectiveInputRate info.priceData.modelRatio info.priceData.globalModelRatio
          (submitCostPercent tables info) info.priceData.markupDiscountPercent < 1 / 2) := by
  simp only [calcQuotaByUpstreamTokens, calcQuotaByUpstreamTokensWithMarkup, positiveGroupRatio, free, le_refl,
    if_true, mul_one, ← or_assoc]
  split_ifs with unrated
  · simp [unrated]
  · rw [mathRound_pos_iff, or_iff_right unrated, not_lt]

theorem byVideo_pos_iff {metadata : Option VideoMetadata} :
    0 < calcVideoPerSecondQuotaByTaskData tables info metadata ↔
      ∃ video ∈ metadata, trimSpace info.originModelName ≠ "" ∧ 0 < video.durationSec.ceil ∧ ∃ price ∈
        effectiveVideoPerSecondUSDForDimensions tables info.channelId info.originModelName info.mode video
          (submitCostPercent tables info) info.priceData.markupDiscountPercent,
        0 < price ∧ 0 < perSecondAmount tables video.durationSec.ceil price := by
  cases metadata with
  | none => simp [calcVideoPerSecondQuotaByTaskData]
  | some video =>
    simp only [calcVideoPerSecondQuotaByTaskData, positiveGroupRatio, free, le_refl, if_true, Option.mem_some_iff,
      exists_eq_left']
    split_ifs with unread
    · rcases unread with unnamed | empty
      · simp [unnamed]
      · simp [not_lt.mpr empty]
    · rw [not_or, not_le] at unread
      cases effectiveVideoPerSecondUSDForDimensions tables info.channelId info.originModelName info.mode video
          (submitCostPercent tables info) info.priceData.markupDiscountPercent with
      | none => simp
      | some price =>
        by_cases priced : price ≤ 0
        · simp [priced, not_lt.mpr priced]
        · simp [priced, not_le.mp priced, unread, perSecondQuota_pos_iff]

theorem resolveActualTaskQuotaOnSubmit_free_iff {answer : SubmitAnswer} :
    resolveActualTaskQuotaOnSubmit tables info answer 0 = 0 ↔ SubmitUnpriced tables info answer := by
  have tokens := @byTokens_pos_iff tables info free answer.totalTokens
  have video := @byVideo_pos_iff tables info free answer.metadata
  simp only [resolveActualTaskQuotaOnSubmit]
  split_ifs with byTokens byVideo
  · exact iff_of_false byTokens.2.ne' fun unpriced => tokens.mp byTokens.2 unpriced.tokens
  · refine iff_of_false byVideo.2.ne' fun unpriced => ?_
    obtain ⟨made, known, named, long, price, found, positive, charged⟩ := video.mp byVideo.2
    exact absurd (unpriced.video byVideo.1 made known named long price found positive) (not_le.mpr charged)
  · refine iff_of_true rfl ⟨?_, fun task made known named long price found positive => not_lt.mp fun charged => ?_⟩
    · by_contra rated
      exact byTokens ⟨not_le.mp fun empty => rated (.inl empty), tokens.mpr rated⟩
    · exact byVideo ⟨task, video.mpr ⟨made, known, named, long, price, found, positive, charged⟩⟩

end

/-- A finished task gives nothing to charge for by the second. -/
def CompleteUnpriced (tables : TaskTables) (task : FinishedTask) : Prop :=
  task.succeeded = true → trimSpace task.modelName ≠ "" →
    ∀ rules ∈ channelRules? tables task.channelId task.modelName, ∀ video ∈ task.metadata,
    ∀ matched ∈ pricedMatch rules task.mode video, 0 < video.durationSec → 0 < video.durationSec.ceil →
      let amount := perSecondAmount tables video.durationSec.ceil (effectiveVideoPerSecondUSD matched.pricePerSecond
        (globalVideoPerSecondUSDForChannelTier tables task.modelName task.mode video.hasAudio matched)
        (tables.channelPriceDiscountPercent task.channelId)
        (tables.markupDiscountPercent task.userId task.channelId task.modelName))
      amount ≤ 0 ∧ -1 / 2 < amount

theorem recalcVideoPerSecondQuotaOnComplete_free_iff {task : FinishedTask} (free : task.groupRatio = some 0) :
    recalcVideoPerSecondQuotaOnComplete tables task = 0 ↔ CompleteUnpriced tables task := by
  unfold recalcVideoPerSecondQuotaOnComplete CompleteUnpriced
  split_ifs with unread
  · exact iff_of_true rfl fun succeeded named => absurd unread (by simp [succeeded, named])
  · simp only [not_or, not_not] at unread
    simp only [unread, forall_const, ne_eq, not_false_eq_true]
    cases channelRules? tables task.channelId task.modelName with
    | none => simp
    | some rules =>
      cases task.metadata with
      | none => simp
      | some video =>
        cases found : pricedMatch rules task.mode video with
        | none => simp [found]
        | some matched =>
          simp only [Option.mem_some_iff, forall_eq', found, free, Option.getD_some, positiveGroupRatio, le_refl,
            if_true]
          split_ifs with short
          · exact iff_of_true rfl fun long ceil => absurd short (by simp [long, ceil])
          · rw [not_or, not_le, not_le] at short
            simp only [short, forall_const, perSecondQuota_eq_zero_iff]

/-- The tokens of a finished task cost nothing at the ratio of its group. -/
def TokensUnpriced (tables : TaskTables) (task : FinishedTask) (totalTokens : Int) : Prop :=
  ∀ ratio ∈ tables.modelRatio task.modelName, 0 < ratio → 0 < totalTokens → task.billedGroup ≠ "" →
    |totalTokens * effectiveInputRate ratio ratio (tables.channelPriceDiscountPercent task.channelId)
      (tables.markupDiscountPercent task.userId task.channelId task.modelName) *
        tokenGroupRatio tables task.billedGroup| < 1 / 2

theorem recalculateTaskQuotaByTokens_free_iff {task : FinishedTask} {totalTokens : Int} :
    (recalculateTaskQuotaByTokens tables task totalTokens).getD 0 = 0 ↔ TokensUnpriced tables task totalTokens := by
  unfold recalculateTaskQuotaByTokens TokensUnpriced
  cases tables.modelRatio task.modelName with
  | none => simp
  | some ratio =>
    by_cases rated : 0 < ratio
    · simp only [Option.filter_some, gt_iff_lt, rated, decide_true, if_true, Option.mem_some_iff, forall_eq',
        forall_const]
      split_ifs with unread
      · exact iff_of_true rfl fun counted named => absurd unread (by simp [counted, named])
      · rw [not_or, not_le] at unread
        simp only [unread, Option.getD_some, mathRound_eq_zero, forall_const, ne_eq, not_false_eq_true]
    · simp [Option.filter_some, rated]

end Task

/-- The ratio that a request of the user in the group is priced with. -/
def userGroupRatio (tables : TaskTables) (userGroup usingGroup : String) : Rat :=
  (tables.groupGroupRatio userGroup usingGroup).getD (tables.groupRatio usingGroup)

/-- Video of the channel 7 costs 0.1 a second, the group `trial` is free, and members of
`staff` use the group `default` for free. -/
def staffTables : TaskTables where
  quotaPerUnit := 500000
  modelRatio := fun _ => some 1
  groupRatio := fun group => if group = "trial" then 0 else 1
  groupGroupRatio := fun userGroup usingGroup =>
    if userGroup = "staff" ∧ usingGroup = "default" then some 0 else none
  channelPriceDiscountPercent := fun _ => 100
  markupDiscountPercent := fun _ _ _ => 0
  channelVideoPricingRules := fun channelId _ =>
    if channelId = 7 then some { textToVideoPerSecond := [⟨"720p", false, 1 / 10⟩] } else none
  videoPricingRules := fun _ => none
  lookupGlobalVideoPerSecondUSD := fun _ _ _ _ _ => 0

def plainTextTables : TextTables where
  quotaPerUnit := 500000
  defaultModelRatio := fun _ => some 1
  webSearchPricePerThousand := fun _ _ => 10
  claudeWebSearchPricePerThousand := 10
  fileSearchPricePerThousand := 5 / 2
  gptImage1PriceOnceCall := fun _ _ => 0
  geminiInputAudioPricePerMillionTokens := fun _ => 0
  channelTier := fun _ _ _ => none
  tier := fun _ _ => none

def staffPrice (modelRatio : Rat) : PriceData where
  modelRatio := modelRatio
  completionRatio := 1
  groupRatioInfo := ⟨0, 0, true⟩
  costDiscountPercent := 100

def staffRequest (modelRatio : Rat) : TextRequest where
  originModelName := "chat"
  priceData := staffPrice modelRatio
  channel := some ⟨7, 1⟩
  isClaudeFormat := false
  estimatePromptTokens := 0
  responsesUsageInfo := none
  webSearchContextSize := ""
  claudeWebSearchRequests := 0
  imageGenerationCall := none

def staffSubmit (modelRatio : Rat) : SubmitInfo where
  originModelName := "video"
  channelId := 7
  channelType := ChannelType.sora
  priceData := staffPrice modelRatio
  mode := .textToVideo

def staffTask (channelId : Int) (group : String) : FinishedTask where
  succeeded := true
  userId := 1
  channelId := channelId
  modelName := "video"
  group := group
  userGroup := some "staff"
  groupRatio := some 0
  mode := .textToVideo
  probed := some ⟨5, 1280, 720, false⟩
  data := none
  estimatedSeconds := 0

end TokenFactory.Quota
