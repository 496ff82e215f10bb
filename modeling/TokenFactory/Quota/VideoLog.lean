import TokenFactory.Quota.VideoRequest

namespace TokenFactory.Quota

open Go

/-! The task log reads a request again, beside the reading it is charged by. -/

/-- The log reads a metadata value without rounding up, and a text only as an integer. -/
def toInt : Json → Int
  | .number value => toInt64 value
  | .string text => (atoi (trimSpace text)).getD 0
  | _ => 0

section Log
variable (library : RequestLibrary) (req : TaskSubmitReq)

def videoDurationFromTaskRequest : Int :=
  (((req.metadata.get? "duration").map toInt).filter fun seconds => 0 < seconds).getD
    ((if trimSpace req.seconds = "" then none else positiveFloat library (trimSpace req.seconds)).getD
      (if 0 < req.duration then req.duration else 5))

def videoDimensionsFromTaskRequest : Int × Int :=
  let fallback := (library.videoDimensionsFromMetadata req.metadata).getD (720, 1280)
  match split 'x' (String.ofList ((trimSpace req.size).toList.map Char.toLower)) with
  | [first, second] =>
    if 0 < toInt (.string first) ∧ 0 < toInt (.string second) then (toInt (.string first), toInt (.string second))
    else fallback
  | _ => fallback

def taskRequestHasAudio : Bool :=
  (["has_audio", "generate_audio"].findSome? fun key => (req.metadata.get? key).bind audioFlag).getD false

/-- A number of seconds is the same number to both parsers. -/
def ReadAlike (text : String) : Prop :=
  ∀ seconds, 0 < seconds → atoi (trimSpace text) = some seconds → positiveFloat library (trimSpace text) = some seconds

/-- A metadata value that is rounded by neither reader: a whole number, or a text that is none or is written as one. -/
def WholeDuration : Option Json → Prop
  | some (.number value) => value ≤ 0 ∨ value.den = 1 ∨ 2 ^ 63 ≤ value
  | some (.string text) =>
    (∃ seconds > 0, atoi (trimSpace text) = some seconds) ∨
      ∀ value, library.parseFloat (trimSpace text) = some value → value ≤ 0 ∨ 2 ^ 63 - 1 < value
  | _ => True

theorem videoDimensions_eq :
    resolveVideoDimensions library req = videoDimensionsFromTaskRequest library req := by
  unfold resolveVideoDimensions videoDimensionsFromTaskRequest parseResolution
  rcases split 'x' (String.ofList ((trimSpace req.size).toList.map Char.toLower)) with _ | ⟨first, _ | ⟨second, _ | _⟩⟩
  case nil | cons.nil | cons.cons.cons => rfl
  cases left : atoi (trimSpace first) with
  | none => simp [toInt, left]
  | some width =>
    cases right : atoi (trimSpace second) with
    | none => simp [toInt, left, right]
    | some height => by_cases positive : 0 < width ∧ 0 < height <;> simp [toInt, left, right, positive]

theorem requestHasAudio_eq : requestHasAudio req = taskRequestHasAudio req := by
  unfold requestHasAudio taskRequestHasAudio
  cases flag : (req.metadata.get? "has_audio").bind audioFlag <;> simp [List.findSome?, flag]
  cases (req.metadata.get? "generate_audio").bind audioFlag <;> rfl

theorem seconds_iff (text : String) : (∀ duration : Int,
      (if trimSpace text = "" then none else parsePositive library (trimSpace text)).getD
          (if 0 < duration then duration else 5) =
        (if trimSpace text = "" then none else positiveFloat library (trimSpace text)).getD
          (if 0 < duration then duration else 5)) ↔ ReadAlike library text := by
  unfold ReadAlike parsePositive
  by_cases blank : trimSpace text = ""
  · have unread : atoi "" = none := by decide
    simp [blank, unread]
  simp only [if_neg blank]
  cases stated : (atoi (trimSpace text)).filter fun value => 0 < value with
  | none =>
    refine iff_of_true (fun _ => rfl) fun seconds positive read => ?_
    have : seconds ≤ 0 := by simpa [read] using stated
    omega
  | some seconds =>
    obtain ⟨read, positive⟩ := Option.filter_eq_some_iff.mp stated
    simp only [decide_eq_true_eq] at positive
    simp only [read, Option.some_inj, Option.orElse_some, Option.getD_some]
    constructor
    · rintro same _ - rfl
      cases float : positiveFloat library (trimSpace text) with
      | none =>
        have := same (seconds + 1)
        simp only [float, Option.getD_none] at this
        split_ifs at this <;> omega
      | some value => simpa [float] using (same 0).symm
    · intro alike duration
      rw [alike seconds positive rfl, Option.getD_some]

/-- Where a reader has no positive number, the rest of the request decides. -/
theorem metadata_iff :
    (∀ seconds duration, ReadAlike library seconds →
      resolveVideoDuration library { req with seconds, duration } =
        videoDurationFromTaskRequest library { req with seconds, duration }) ↔
      ∀ value, req.metadata.get? "duration" = some value →
        coerceToPositiveInt library value ≤ 0 ∧ toInt value ≤ 0 ∨ coerceToPositiveInt library value = toInt value := by
  simp only [resolveVideoDuration, videoDurationFromTaskRequest]
  cases req.metadata.get? "duration" with
  | none =>
    simp only [Option.map_none, Option.filter_none, Option.getD_none, defaultVideoDuration]
    exact iff_of_true (fun seconds duration alike => (seconds_iff library seconds).mpr alike duration)
      fun _ absent => by cases absent
  | some value =>
    simp only [Option.some_inj, Option.map_some, forall_eq']
    generalize coerceToPositiveInt library value = charged
    generalize toInt value = logged
    constructor
    · intro same
      have := same "" (|charged| + |logged| + 1) fun _ _ read => by cases read
      simp only [show trimSpace "" = "" from by decide, if_true, Option.getD_none, Option.filter_some] at this
      split_ifs at this <;> grind
    · rintro (⟨unread, unlogged⟩ | rfl) seconds duration alike
      · simpa [Option.filter_some, not_lt.mpr unread, not_lt.mpr unlogged, defaultVideoDuration] using
          (seconds_iff library seconds).mpr alike duration
      · rw [defaultVideoDuration, (seconds_iff library seconds).mpr alike duration]

theorem number_iff (value : Rat) :
    coerceToPositiveInt library (.number value) ≤ 0 ∧ toInt (.number value) ≤ 0 ∨
        coerceToPositiveInt library (.number value) = toInt (.number value) ↔
      WholeDuration library (some (.number value)) := by
  simp only [coerceToPositiveInt, toInt, WholeDuration, toInt64, intPart_intCast]
  rcases le_or_gt value 0 with low | positive
  · have down : intPart value ≤ 0 := by
      unfold intPart
      split_ifs
      · exact Int.floor_nonpos low
      · exact Rat.ceil_le_iff.mpr low
    rw [if_neg (not_lt.mpr low)]
    refine iff_of_true (.inl ⟨le_rfl, ?_⟩) (.inl low)
    split_ifs <;> omega
  have cut : intPart value = ⌊value⌋ := if_pos positive.le
  have floor_nonneg : 0 ≤ ⌊value⌋ := Int.floor_nonneg.mpr positive.le
  have large : 2 ^ 63 ≤ value ↔ 2 ^ 63 ≤ ⌊value⌋ := by
    rw [Int.le_floor]
    norm_num
  have whole : value.den = 1 ↔ ¬ ⌈value⌉ = ⌊value⌋ + 1 := by
    rw [Int.ceil_eq_floor_add_one_iff_notMem, not_not]
    exact ⟨fun one => ⟨value.num, (Rat.den_eq_one_iff value).mp one⟩, fun ⟨seconds, eq⟩ => eq ▸ Rat.den_intCast seconds⟩
  have up : ⌈value⌉ = ⌊value⌋ ∨ ⌈value⌉ = ⌊value⌋ + 1 := by
    have := Int.ceil_le_floor_add_one value
    have := Int.floor_le_ceil value
    omega
  have ceil : value.ceil = ⌈value⌉ := eq_of_forall_ge_iff fun _ => Rat.ceil_le_iff.trans Int.ceil_le.symm
  rw [if_pos positive, cut, large, whole, ceil]
  simp only [not_le.mpr positive, false_or]
  split_ifs <;> omega

theorem text_iff (text : String) :
    coerceToPositiveInt library (.string text) ≤ 0 ∧ toInt (.string text) ≤ 0 ∨
        coerceToPositiveInt library (.string text) = toInt (.string text) ↔
      WholeDuration library (some (.string text)) := by
  simp only [coerceToPositiveInt, parsePositive, toInt, WholeDuration]
  cases stated : (atoi (trimSpace text)).filter fun value => 0 < value with
  | some seconds =>
    obtain ⟨read, positive⟩ := Option.filter_eq_some_iff.mp stated
    refine iff_of_true (.inr ?_) (.inl ⟨seconds, by simpa using positive, read⟩)
    rw [read, Option.orElse_some, Option.getD_some]
  | none =>
    have unread : ¬ ∃ seconds > 0, atoi (trimSpace text) = some seconds := by
      rintro ⟨seconds, positive, read⟩
      have : seconds ≤ 0 := by simpa [read] using stated
      omega
    have logged : (atoi (trimSpace text)).getD 0 ≤ 0 := by
      cases read : atoi (trimSpace text) with
      | none => rfl
      | some seconds => exact not_lt.mp fun positive => unread ⟨seconds, positive, read⟩
    have charged (value : Rat) (positive : 0 < value) : toInt64 value.ceil ≤ 0 ↔ 2 ^ 63 - 1 < value := by
      have up : 0 < value.ceil := Rat.lt_ceil_iff.mpr positive
      have large : 2 ^ 63 - 1 < value.ceil ↔ 2 ^ 63 - 1 < value := by
        rw [Rat.lt_ceil_iff]
        norm_num
      rw [← large, toInt64, intPart_intCast]
      split_ifs <;> omega
    rw [or_iff_right unread, Option.orElse_none, positiveFloat]
    cases library.parseFloat (trimSpace text) with
    | none => simpa using .inl logged
    | some value =>
      rcases le_or_gt value 0 with low | positive
      · simp [Option.filter_some, low, logged, not_lt.mpr low]
      · simp only [Option.filter_some, decide_true, positive, if_true, Option.map_some, Option.getD_some,
          Option.some_inj, forall_eq', not_le.mpr positive, false_or, ← charged value positive]
        omega

theorem request_read_alike_iff :
    resolveVideoDimensions library req = videoDimensionsFromTaskRequest library req ∧
      requestHasAudio req = taskRequestHasAudio req ∧
      ((∀ seconds duration, ReadAlike library seconds →
        resolveVideoDuration library { req with seconds, duration } =
          videoDurationFromTaskRequest library { req with seconds, duration }) ↔
        WholeDuration library (req.metadata.get? "duration")) ∧
      (req.metadata.get? "duration" = none →
        ((∀ duration, resolveVideoDuration library { req with duration } =
          videoDurationFromTaskRequest library { req with duration }) ↔ ReadAlike library req.seconds)) := by
  refine ⟨videoDimensions_eq library req, requestHasAudio_eq req, (metadata_iff library req).trans ?_, fun absent => ?_⟩
  · cases req.metadata.get? "duration" with
    | none => simp [WholeDuration]
    | some value =>
      simp only [Option.some_inj, forall_eq']
      cases value with
      | number value => exact number_iff library value
      | string text => exact text_iff library text
      | null | bool | array | object => exact iff_of_true (.inr rfl) trivial
  · simpa [resolveVideoDuration, videoDurationFromTaskRequest, absent, defaultVideoDuration] using
      seconds_iff library req.seconds

end Log

/-- Six seconds are charged, and five are logged. -/
theorem fraction_read_differently :
    let req : TaskSubmitReq := { metadata := [("duration", .number (11 / 2))] }
    resolveVideoDuration noReading req = 6 ∧ videoDurationFromTaskRequest noReading req = 5 := by
  decide +kernel

end TokenFactory.Quota
