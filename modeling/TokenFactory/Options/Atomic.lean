import TokenFactory.Options.Store

namespace TokenFactory.Options

open Go

/-! A value that is refused leaves the options as they were. -/

variable {codec : Codec} {visit : Visit}

section
variable {maps : Maps} {rates : Rates} {text : String}

theorem load_accepted (accepted : (rates.read codec visit text).2 = none) :
    maps.load codec visit rates text = (none, Function.update maps rates (rates.read codec visit text).1) := by
  unfold Maps.load
  dsimp only
  rw [accepted]
  exact if_pos (Or.inl rfl)

theorem load_refused {reason : String} (refused : (rates.read codec visit text).2 = some reason)
    (parsedFirst : rates.replacedFirst = false) : maps.load codec visit rates text = (some reason, maps) := by
  unfold Maps.load
  dsimp only
  rw [refused, parsedFirst]
  exact if_neg (by simp)

theorem load_other {other : Rates} (different : other ≠ rates) :
    (maps.load codec visit rates text).2 other = maps other := by
  unfold Maps.load
  dsimp only
  split
  · exact Function.update_of_ne different _ _
  · rfl

end

variable {text : String}

theorem flexible_accepted {first second : Visit} {entries : List (String × Rat)}
    (accepted : parseStringFloat64MapFlexible codec first text = .ok entries) :
    ∃ entries, parseStringFloat64MapFlexible codec second text = .ok entries := by
  unfold parseStringFloat64MapFlexible at accepted ⊢
  dsimp only at accepted ⊢
  split at accepted
  case isTrue blank => exact ⟨[], if_pos blank⟩
  case isFalse filled =>
    rw [if_neg filled]
    split at accepted
    · cases accepted
    apply mapM_ok_of_forall
    intro entry member
    exact forall_of_mapM_ok accepted entry (first.mem_order.mpr (second.mem_order.mp member))

theorem flexible_of_floats (decoded : (codec.floats text).2 = none) :
    ∃ entries, parseStringFloat64MapFlexible codec visit text = .ok entries := by
  obtain ⟨messages, found, numbers⟩ := codec.messages_of_floats text decoded
  unfold parseStringFloat64MapFlexible
  dsimp only
  split
  case isTrue => exact ⟨[], rfl⟩
  case isFalse =>
    rw [found]
    apply mapM_ok_of_forall
    intro entry member
    obtain ⟨value, number⟩ := numbers entry (visit.mem_order.mp member)
    refine ⟨(entry.1, value), ?_⟩
    unfold flexibleEntry
    rw [number]

theorem scale_accepted {table : Scale} : ((Rates.scale table).read codec visit text).2 = none ↔
      ∃ entries, parseStringFloat64MapFlexible codec visit text = .ok entries := by
  cases parsed : parseStringFloat64MapFlexible codec visit text with
  | error reason => simp [Rates.read, parsed]
  | ok entries => simp [Rates.read, parsed]

theorem parseRules_accepted {Parsed Value : Type} {unmarshal : String → Except String Parsed}
    {first second : Parsed → GoMap Value} {blank : GoMap Value}
    (accepted : (Rates.read.parsed (parseRules unmarshal (fun source => .ok (first source)) blank text)).2 = none) :
    (Rates.read.parsed (parseRules unmarshal (fun source => .ok (second source)) blank text)).2 = none := by
  unfold parseRules at accepted ⊢
  dsimp only at accepted ⊢
  split
  case isTrue => rfl
  case isFalse filled =>
    rw [if_neg filled] at accepted
    cases decoded : unmarshal (trimSpace text) with
    | error reason =>
      rw [decoded] at accepted
      cases accepted
    | ok source => rfl

theorem loadedFirst_accepted {rates : Rates} {first second : Visit}
    (checked : (loadedFirst rates).isSome) (accepted : (rates.read codec first text).2 = none) :
    (rates.read codec second text).2 = none := by
  cases rates with
  | scale table =>
    obtain ⟨entries, parsed⟩ := scale_accepted.mp accepted
    exact scale_accepted.mpr (flexible_accepted parsed)
  | videoPricingRules | channelVideoPricingRules | imagePricingRules | channelImagePricingRules =>
    exact parseRules_accepted accepted
  | nested _ | topupGroupRatio | tier _ | channelTier _ => cases checked

theorem loadedFirst_parsed {rates : Rates} (checked : (loadedFirst rates).isSome) :
    rates.replacedFirst = false := by
  cases rates with
  | nested _ | topupGroupRatio => cases checked
  | _ => rfl

theorem checkGroupRatio_accepted {check : Visit}
    (passed : checkGroupRatio codec check text = none) :
    ((Rates.scale .groupRatio).read codec visit text).2 = none := by
  apply scale_accepted.mpr
  apply flexible_of_floats
  unfold checkGroupRatio at passed
  split at passed
  · cases passed
  · next _ decoded => rw [decoded]

namespace Settings

/-- The map of the option is what the text loads as. -/
def Holds (settings : Settings) (codec : Codec) (visit : Visit) : OptionKey → String → Prop
  | .option rates, text => rates.read codec visit text = (settings.maps rates, none)
  | .groupRatioSetting field, text =>
    settings.attached field = true ∧ text ≠ "null" ∧ codec.valid text = true ∧
      field.read codec text = (settings.maps field.rates, none)

/-- The rows that fill a map are valid, and they are what the map and `OptionMap` hold. Text whose
meaning depends on the order of a loop is not valid. -/
def Settled (settings : Settings) (codec : Codec) (rates : Rates) : Prop :=
  ∀ key text, key.rates = rates → settings.rows key = some text →
    settings.optionMap key = text ∧ ∀ visit, settings.Holds codec visit key text

/-- Nothing about the options of a map has changed. -/
structure Keeps (rates : Rates) (before after : Settings) : Prop where
  rows : after.rows = before.rows
  optionMap : ∀ key : OptionKey, key.rates = rates → after.optionMap key = before.optionMap key
  map : after.maps rates = before.maps rates
  attached : ∀ field : GroupField, field.rates = rates → after.attached field = before.attached field

theorem Keeps.refl (rates : Rates) (settings : Settings) : Keeps rates settings settings :=
  ⟨rfl, fun _ _ => rfl, rfl, fun _ _ => rfl⟩

section
variable {settings current : Settings} {rates : Rates} {key : OptionKey} {text : String}

theorem updateConfigFromMap_rows {field : GroupField} :
    (current.updateConfigFromMap codec field text).rows = current.rows := by
  unfold updateConfigFromMap
  split
  · rfl
  · split <;> rfl

theorem updateConfigFromMap_optionMap {field : GroupField} :
    (current.updateConfigFromMap codec field text).optionMap = current.optionMap := by
  unfold updateConfigFromMap
  split
  · rfl
  · split <;> rfl

theorem updateOptionMap_rows : (current.updateOptionMap codec visit key text).2.rows = current.rows := by
  cases key with
  | option rates => rfl
  | groupRatioSetting field => exact updateConfigFromMap_rows

theorem updateOptionMap_optionMap : (current.updateOptionMap codec visit key text).2.optionMap =
    Function.update current.optionMap key text := by
  cases key with
  | option rates => rfl
  | groupRatioSetting field => exact updateConfigFromMap_optionMap

theorem updateOptionMap_other (different : key.rates ≠ rates) :
    Keeps rates current (current.updateOptionMap codec visit key text).2 where
  rows := updateOptionMap_rows
  optionMap := by
    intro other named
    rw [updateOptionMap_optionMap]
    exact Function.update_of_ne (fun same => different ((congrArg OptionKey.rates same).symm.trans named)) _ _
  map := by
    cases key with
    | option own => exact load_other (Ne.symm different)
    | groupRatioSetting field =>
      unfold updateOptionMap updateConfigFromMap
      dsimp only
      split
      · rfl
      · split
        · exact Function.update_of_ne (Ne.symm different) _ _
        · rfl
  attached := by
    intro other named
    cases key with
    | option own => rfl
    | groupRatioSetting field =>
      unfold updateOptionMap updateConfigFromMap
      dsimp only
      split
      · exact Function.update_of_ne
          (fun same => different ((congrArg GroupField.rates same).symm.trans named)) _ _
      · split <;> rfl

theorem updateOptionMap_held (noted : current.optionMap key = text) (held : current.Holds codec visit key text) :
    (current.updateOptionMap codec visit key text).2 = current := by
  have same : Function.update current.optionMap key text = current.optionMap := by
    rw [← noted, Function.update_eq_self]
  cases key with
  | option rates =>
    have read : rates.read codec visit text = (current.maps rates, none) := held
    unfold updateOptionMap
    dsimp only
    rw [load_accepted (by rw [read]), read, same, Function.update_eq_self]
  | groupRatioSetting field =>
    obtain ⟨attached, filled, valid, read⟩ := held
    unfold updateOptionMap updateConfigFromMap
    dsimp only
    rw [if_neg filled, attached, valid, read, same, Function.update_eq_self]
    rfl

theorem Keeps.holds (kept : Keeps rates settings current) (named : key.rates = rates)
    (held : settings.Holds codec visit key text) : current.Holds codec visit key text := by
  cases key with
  | option own =>
    cases named
    have read : own.read codec visit text = (settings.maps own, none) := held
    have map : current.maps own = settings.maps own := kept.map
    exact read.trans (by rw [map])
  | groupRatioSetting field =>
    cases named
    obtain ⟨attached, filled, valid, read⟩ := held
    have map : current.maps field.rates = settings.maps field.rates := kept.map
    exact ⟨(kept.attached field rfl).trans attached, filled, valid, read.trans (by rw [map])⟩

theorem Keeps.trans {middle : Settings} (first : Keeps rates settings middle)
    (second : Keeps rates middle current) : Keeps rates settings current where
  rows := second.rows.trans first.rows
  optionMap := fun key named => (second.optionMap key named).trans (first.optionMap key named)
  map := second.map.trans first.map
  attached := fun field named => (second.attached field named).trans (first.attached field named)

theorem Settled.keeps_row (settled : settings.Settled codec rates) (kept : Keeps rates settings current)
    (found : current.rows key = some text) :
    Keeps rates settings (current.updateOptionMap codec visit key text).2 := by
  by_cases named : key.rates = rates
  · have stored : settings.rows key = some text := by rw [← found, kept.rows]
    obtain ⟨noted, held⟩ := settled key text named stored
    rw [updateOptionMap_held ((kept.optionMap key named).trans noted) (kept.holds named (held visit))]
    exact kept
  · exact kept.trans (updateOptionMap_other named)

theorem Settled.keeps_load (settled : settings.Settled codec rates) (kept : Keeps rates settings current)
    (listed : List (OptionKey × Visit)) :
    Keeps rates settings (current.loadOptionsFromDatabase codec listed) := by
  induction listed generalizing current with
  | nil => exact kept
  | cons entry rest induction =>
    unfold loadOptionsFromDatabase
    rw [List.foldl_cons]
    dsimp only
    cases found : current.rows entry.1 with
    | none => exact induction kept
    | some text => exact induction (settled.keeps_row kept found)

end

/-- The options whose value is checked for an administrator before anything is written. -/
def checkedFirst : OptionKey → Bool
  | .option rates => rates = .scale .groupRatio || (loadedFirst rates).isSome
  | .groupRatioSetting _ => false

def accepts (settings : Settings) (codec : Codec) (visit : Visit) : OptionKey → String → Bool
  | .option rates, text => (rates.read codec visit text).2.isNone
  | .groupRatioSetting field, text =>
    settings.attached field && text ≠ "null" && codec.valid text && (field.read codec text).2.isNone

def written (settings : Settings) (codec : Codec) (request : OptionRequest) : Except String String :=
  if request.role < Auth.Role.adminUser then settings.supplierText codec request
  else .ok (valueText codec request.value)

/-- Either the value is checked before the write, or the loader takes what is written. -/
def safe (settings : Settings) (codec : Codec) (request : OptionRequest) : Bool :=
  (Auth.Role.adminUser ≤ request.role && checkedFirst request.key) ||
    match settings.written codec request with
    | .error _ => true
    | .ok text => settings.accepts codec request.load request.key text

section
variable {settings checked : Settings} {request : OptionRequest} {rates : Rates} {key : OptionKey} {text : String}

theorem check_refused {reason : String}
    (refused : settings.check codec request rates text = (some reason, checked)) : checked = settings := by
  unfold check at refused
  split at refused
  case isTrue => exact (Prod.mk.inj refused).2.symm
  case isFalse =>
    cases label : loadedFirst rates with
    | none =>
      rw [label] at refused
      cases refused
    | some label' =>
      have parsedFirst : rates.replacedFirst = false := loadedFirst_parsed (by rw [label]; rfl)
      rw [label] at refused
      cases outcome : (rates.read codec request.check text).2 with
      | none =>
        rw [load_accepted outcome] at refused
        cases refused
      | some failure =>
        rw [load_refused outcome parsedFirst] at refused
        exact (Prod.mk.inj refused).2.symm

theorem check_accepted (passed : settings.check codec request rates text = (none, checked))
    (first : checkedFirst (.option rates) = true) : (rates.read codec visit text).2 = none := by
  unfold check at passed
  split at passed
  case isTrue group =>
    cases group
    exact checkGroupRatio_accepted (Prod.mk.inj passed).1
  case isFalse other =>
    have labelled : (loadedFirst rates).isSome := by simpa [checkedFirst, other] using first
    obtain ⟨label, named⟩ := Option.isSome_iff_exists.mp labelled
    rw [named] at passed
    cases outcome : (rates.read codec request.check text).2 with
    | none => exact loadedFirst_accepted labelled outcome
    | some failure =>
      rw [load_refused outcome (loadedFirst_parsed labelled)] at passed
      cases passed

theorem checkOption_refused {reason : String}
    (refused : settings.checkOption codec request text = (some reason, checked)) : checked = settings := by
  unfold checkOption at refused
  split at refused
  · exact check_refused refused
  · cases refused

theorem checkOption_accepts (passed : settings.checkOption codec request text = (none, checked))
    (sound : checkedFirst request.key = true ∨ settings.accepts codec request.load request.key text = true) :
    checked.accepts codec request.load request.key text = true := by
  unfold checkOption at passed
  cases named : request.key with
  | option rates =>
    rw [named] at passed sound
    cases sound with
    | inl first => exact Option.isNone_iff_eq_none.mpr (check_accepted passed first)
    | inr accepted => exact accepted
  | groupRatioSetting field =>
    rw [named] at passed sound
    cases passed
    cases sound with
    | inl first => cases first
    | inr accepted => exact accepted

theorem updateConfigFromMap_accepted {field : GroupField} (attached : settings.attached field = true)
    (filled : text ≠ "null") (valid : codec.valid text = true) :
    settings.updateConfigFromMap codec field text =
      { settings with maps := Function.update settings.maps field.rates (field.read codec text).1 } := by
  unfold updateConfigFromMap
  rw [if_neg filled, attached, valid]
  rfl

theorem updateOptionMap_accepted (accepted : settings.accepts codec visit key text = true) :
    (settings.updateOptionMap codec visit key text).1 = none ∧
      (settings.updateOptionMap codec visit key text).2.Holds codec visit key text := by
  cases key with
  | option rates =>
    have outcome : (rates.read codec visit text).2 = none := Option.isNone_iff_eq_none.mp accepted
    unfold updateOptionMap
    dsimp only
    rw [load_accepted outcome]
    refine ⟨rfl, Prod.ext ?_ outcome⟩
    exact (Function.update_self rates (rates.read codec visit text).1 settings.maps).symm
  | groupRatioSetting field =>
    simp only [accepts, Bool.and_eq_true, decide_eq_true_eq, ne_eq, Option.isNone_iff_eq_none] at accepted
    obtain ⟨⟨⟨attached, filled⟩, valid⟩, outcome⟩ := accepted
    unfold updateOptionMap
    dsimp only
    rw [updateConfigFromMap_accepted (by exact attached) filled valid]
    refine ⟨rfl, attached, filled, valid, Prod.ext ?_ outcome⟩
    exact (Function.update_self field.rates (field.read codec text).1 settings.maps).symm

theorem writeRow_accepts {write : Write} :
    (settings.writeRow write key text).accepts codec visit key text = settings.accepts codec visit key text := by
  unfold writeRow
  cases write with
  | created => dsimp only; split <;> rfl
  | saved => rfl
  | failed => rfl

theorem updateOption_accepted {write : Write} (accepted : settings.accepts codec visit key text = true) :
    (settings.updateOption codec visit write key text).1 = none ∧
      (write = .saved → (settings.updateOption codec visit write key text).2.rows key = some text) ∧
      (settings.updateOption codec visit write key text).2.optionMap key = text ∧
      (settings.updateOption codec visit write key text).2.Holds codec visit key text := by
  obtain ⟨loaded, held⟩ := updateOptionMap_accepted (writeRow_accepts.trans accepted)
  refine ⟨loaded, fun saved => ?_, ?_, held⟩
  · unfold updateOption
    rw [updateOptionMap_rows, saved]
    exact Function.update_self key (some text) settings.rows
  · unfold updateOption
    rw [updateOptionMap_optionMap, Function.update_self]

theorem answer_accepted {outcome : Option String × Settings} (loaded : outcome.1 = none) :
    answer outcome = (.ok (), outcome.2) := by
  obtain ⟨failure, after⟩ := outcome
  cases loaded
  rfl

theorem answer_refused {outcome : Option String × Settings} {reason : String} (refused : outcome.1 = some reason) :
    (answer outcome).1 = .error reason := by
  obtain ⟨failure, after⟩ := outcome
  cases refused
  rfl

theorem answer_snd (outcome : Option String × Settings) : (answer outcome).2 = outcome.2 := by
  obtain ⟨failure, after⟩ := outcome
  cases failure <;> rfl

theorem updateOptionHandler_cases (sound : settings.safe codec request = true) :
    (∃ reason, settings.updateOptionHandler codec request = (.error reason, settings)) ∨
      ∃ text after, settings.written codec request = .ok text ∧
        settings.updateOptionHandler codec request = (.ok (), after) ∧
        (request.write = .saved → after.rows request.key = some text) ∧
        after.optionMap request.key = text ∧ after.Holds codec request.load request.key text := by
  unfold safe written at sound
  unfold updateOptionHandler written
  by_cases supplier : request.role < Auth.Role.adminUser
  · rw [if_pos supplier] at sound ⊢
    rw [if_pos supplier]
    cases merged : settings.supplierText codec request with
    | error reason => exact .inl ⟨reason, rfl⟩
    | ok text =>
      rw [merged, decide_eq_false (not_le.mpr supplier), Bool.false_and, Bool.false_or] at sound
      obtain ⟨loaded, stored⟩ := updateOption_accepted sound
      exact .inr ⟨text, _, rfl, answer_accepted loaded, stored⟩
  · rw [if_neg supplier] at sound ⊢
    rw [if_neg supplier]
    dsimp only at sound ⊢
    rw [decide_eq_true (not_lt.mp supplier), Bool.true_and, Bool.or_eq_true] at sound
    cases outcome : settings.checkOption codec request (valueText codec request.value) with
    | mk failure checked =>
      cases failure with
      | some reason =>
        rw [checkOption_refused outcome]
        exact .inl ⟨reason, rfl⟩
      | none =>
        obtain ⟨loaded, stored⟩ := updateOption_accepted (checkOption_accepts outcome sound)
        exact .inr ⟨_, _, rfl, answer_accepted loaded, stored⟩

/-- A request that is not safe is written although the loader does not take its text. -/
theorem updateOptionHandler_unsafe (unsound : settings.safe codec request = false) :
    ∃ text, settings.written codec request = .ok text ∧
      settings.accepts codec request.load request.key text = false ∧
      settings.updateOptionHandler codec request =
        answer (settings.updateOption codec request.load request.write request.key text) := by
  rw [safe, Bool.or_eq_false_iff] at unsound
  obtain ⟨unchecked, unread⟩ := unsound
  cases written : settings.written codec request with
  | error reason =>
    rw [written] at unread
    cases unread
  | ok text =>
    rw [written] at unread
    refine ⟨text, rfl, unread, ?_⟩
    unfold Settings.written at written
    unfold updateOptionHandler
    split
    case isTrue supplier =>
      rw [if_pos supplier] at written
      rw [written]
    case isFalse admin =>
      rw [if_neg admin] at written
      cases written
      have unlisted : checkedFirst request.key = false := by
        rwa [decide_eq_true (not_lt.mp admin), Bool.true_and] at unchecked
      have passed : settings.checkOption codec request (valueText codec request.value) = (none, settings) := by
        unfold checkOption
        cases named : request.key with
        | groupRatioSetting field => rfl
        | option rates =>
          rw [named, checkedFirst, Bool.or_eq_false_iff, Option.isSome_eq_false_iff, Option.isNone_iff_eq_none]
            at unlisted
          simp only [check, if_neg (of_decide_eq_false unlisted.1), unlisted.2]
      simp only [passed]

/-- A refused request leaves the row, `OptionMap` and the map alone, also when the options are
reloaded later; an accepted one puts its text into all three. -/
structure Atomic (settings : Settings) (codec : Codec) (request : OptionRequest) : Prop where
  refused : ∀ reason, (settings.updateOptionHandler codec request).1 = .error reason →
    (settings.updateOptionHandler codec request).2 = settings ∧
      ∀ listed, Keeps request.key.rates settings
        ((settings.updateOptionHandler codec request).2.loadOptionsFromDatabase codec listed)
  stored : (settings.updateOptionHandler codec request).1 = .ok () → request.write = .saved →
    ∃ text, settings.written codec request = .ok text ∧
      (settings.updateOptionHandler codec request).2.rows request.key = some text ∧
      (settings.updateOptionHandler codec request).2.optionMap request.key = text ∧
      (settings.updateOptionHandler codec request).2.Holds codec request.load request.key text

theorem atomic_of_safe (settled : settings.Settled codec request.key.rates)
    (sound : settings.safe codec request = true) : settings.Atomic codec request := by
  cases updateOptionHandler_cases sound with
  | inl refused =>
    obtain ⟨reason, outcome⟩ := refused
    refine ⟨fun _ _ => ?_, fun succeeded => ?_⟩
    · rw [outcome]
      exact ⟨rfl, fun listed => settled.keeps_load (.refl request.key.rates settings) listed⟩
    · rw [outcome] at succeeded
      cases succeeded
  | inr accepted =>
    obtain ⟨text, after, stored, outcome, saved, noted, held⟩ := accepted
    refine ⟨fun reason failed => ?_, fun _ written => ?_⟩
    · rw [outcome] at failed
      cases failed
    · rw [outcome]
      exact ⟨text, stored, saved written, noted, held⟩

theorem updateOption_refused {rates : Rates} {visit : Visit} {write : Write} {reason : String}
    (refused : (rates.read codec visit text).2 = some reason) :
    (settings.updateOption codec visit write (.option rates) text).1 = some reason := by
  have loaded (maps : Maps) : (maps.load codec visit rates text).1 = some reason := by
    unfold Maps.load
    dsimp only
    split <;> exact refused
  exact loaded _

theorem safe_of_atomic (settled : settings.Settled codec request.key.rates) (saved : request.write = .saved)
    (atomic : settings.Atomic codec request) : settings.safe codec request = true := by
  by_contra unsound
  obtain ⟨text, written, unread, outcome⟩ := updateOptionHandler_unsafe (Bool.eq_false_iff.mpr unsound)
  cases named : request.key with
  | option rates =>
    -- the row holds the text that is refused, and before it held one that is not
    rw [named] at unread outcome
    obtain ⟨reason, refused⟩ : ∃ reason, (rates.read codec request.load text).2 = some reason :=
      Option.isSome_iff_exists.mp (by simpa [accepts, Option.isSome_iff_ne_none] using unread)
    have answered : (settings.updateOptionHandler codec request).1 = .error reason := by
      rw [outcome]
      exact answer_refused (updateOption_refused refused)
    have row : (settings.updateOptionHandler codec request).2.rows (.option rates) = some text := by
      rw [outcome, answer_snd, updateOption, updateOptionMap_rows, saved]
      exact Function.update_self _ _ settings.rows
    rw [(atomic.refused reason answered).1] at row
    have held : rates.read codec request.load text = _ :=
      (settled (.option rates) text (by rw [named]) row).2 request.load
    rw [held] at refused
    cases refused
  | groupRatioSetting field =>
    have answered : (settings.updateOptionHandler codec request).1 = .ok () := by
      rw [outcome, named]
      rfl
    obtain ⟨other, same, -, -, held⟩ := atomic.stored answered saved
    cases written.symm.trans same
    rw [outcome, answer_snd, named] at held
    rw [named] at unread
    obtain ⟨attached, filled, valid, read⟩ := held
    have kept : settings.attached field = true := by
      rw [← attached, updateOption, saved]
      simp only [updateOptionMap, updateConfigFromMap, if_neg filled]
      split <;> rfl
    simp [accepts, kept, filled, valid, read] at unread

/-- An update that reaches the database is atomic exactly if it is safe; one that does not is if it
is safe. -/
theorem refused_update_keeps_option_iff (settled : settings.Settled codec request.key.rates) :
    (settings.safe codec request = true → settings.Atomic codec request) ∧
      (request.write = .saved → (settings.Atomic codec request ↔ settings.safe codec request = true)) :=
  ⟨atomic_of_safe settled, fun saved => ⟨safe_of_atomic settled saved, atomic_of_safe settled⟩⟩

end

end Settings

def channelPrices : String := "\x7b\"1\":\x7b\"gpt\":2\x7d\x7d"

def imageRatios : String := "\x7b\"gpt\":2\x7d"

def demoCodec : Codec where
  valid := fun text => text = channelPrices || text = imageRatios
  floats := fun _ => ([], some "unexpected end of JSON input")
  nested := fun text =>
    if text = channelPrices then ([("1", [("gpt", 2)])], none) else ([], some "unexpected end of JSON input")
  messages := fun text =>
    if text = imageRatios then .ok [("gpt", "2")] else .error "unexpected end of JSON input"
  float := fun text => if text = "2" then .ok 2 else .error "unexpected end of JSON input"
  wrapped := fun _ => .error "unexpected end of JSON input"
  tiers := fun _ => .error "unexpected end of JSON input"
  channelTiers := fun _ => .error "unexpected end of JSON input"
  videoRules := fun _ => .error "unexpected end of JSON input"
  channelVideoRules := fun _ => .error "unexpected end of JSON input"
  imageRules := fun _ => .error "unexpected end of JSON input"
  channelImageRules := fun _ => .error "unexpected end of JSON input"
  fields := fun _ => .error "unexpected end of JSON input"
  marshal := fun _ => "null"
  quote := fun text => "\"" ++ text ++ "\""
  formatFloat := fun _ => "2"
  sprint := fun _ => "<nil>"
  messages_of_floats := by
    intro _ decoded
    cases decoded

def demoRow : OptionKey → Option String
  | .option (.nested .channelModelPrice) => some channelPrices
  | .option (.scale .imageRatio) => some imageRatios
  | _ => none

def demoSettings : Settings where
  rows := demoRow
  optionMap := fun key => (demoRow key).getD ""
  maps := fun rates => (rates.read demoCodec .asListed ((demoRow (.option rates)).getD "")).1
  attached := fun _ => true

def cutOff (rates : Rates) : OptionRequest where
  role := Auth.Role.adminUser
  ownedModels := .ok []
  key := .option rates
  value := .string "\x7b"
  merge := .asListed
  check := .asListed
  load := .asListed
  write := .saved

theorem visit_single {Value : Type} (visit : Visit) (entry : String × Value) : visit.order [entry] = [entry] :=
  List.perm_singleton.mp (visit.perm [entry])

theorem read_imageRatios (visit : Visit) :
    (Rates.scale .imageRatio).read demoCodec visit imageRatios = (GoMap.ofEntries [("gpt", (2 : Rat))], none) := by
  have parsed : parseStringFloat64MapFlexible demoCodec visit imageRatios = .ok [("gpt", 2)] := by
    have filled : ¬ (trimSpace imageRatios = "" ∨ trimSpace imageRatios = "null") := by decide +kernel
    have decoded : demoCodec.messages (trimSpace imageRatios) = .ok [("gpt", "2")] := by decide +kernel
    unfold parseStringFloat64MapFlexible
    rw [if_neg filled, decoded]
    dsimp only
    rw [visit_single]
    rfl
  simp only [Rates.read, parsed]
  rfl

theorem demoSettings_imageRatio : demoSettings.Settled demoCodec (.scale .imageRatio) := by
  intro key text named stored
  cases key with
  | groupRatioSetting field => cases stored
  | option rates =>
    cases named
    cases stored
    refine ⟨rfl, fun visit => ?_⟩
    have map : demoSettings.maps (.scale .imageRatio) = GoMap.ofEntries [("gpt", (2 : Rat))] :=
      congrArg Prod.fst (read_imageRatios .asListed)
    exact (read_imageRatios visit).trans (congrArg (·, none) map.symm)

theorem demoSettings_channelModelPrice : demoSettings.Settled demoCodec (.nested .channelModelPrice) := by
  intro key text named stored
  cases key with
  | groupRatioSetting field => cases stored
  | option rates =>
    cases named
    cases stored
    exact ⟨rfl, fun visit => rfl⟩

theorem refused_update_keeps_option_imageRatio :
    let after := (demoSettings.updateOptionHandler demoCodec (cutOff (.scale .imageRatio))).2
    let later := after.loadOptionsFromDatabase demoCodec [(.option (.scale .imageRatio), .asListed)]
    after.rows (.option (.scale .imageRatio)) = some imageRatios ∧
      later.maps (.scale .imageRatio) = demoSettings.maps (.scale .imageRatio) := by
  have atomic := (@Settings.refused_update_keeps_option_iff _ _ (cutOff (.scale .imageRatio))
    demoSettings_imageRatio).1 (by decide +kernel)
  obtain ⟨same, reloaded⟩ := atomic.refused "图片倍率设置失败: unexpected end of JSON input" (by decide +kernel)
  exact ⟨by rw [same]; rfl, (reloaded _).map⟩

/-- The price of the channel option is gone, and the row holds the text that was refused. -/
theorem refused_update_loses_option :
    let after := (demoSettings.updateOptionHandler demoCodec (cutOff (.nested .channelModelPrice))).2
    let later := after.loadOptionsFromDatabase demoCodec [(.option (.nested .channelModelPrice), .asListed)]
    demoSettings.Settled demoCodec (.nested .channelModelPrice) ∧
      ((demoSettings.maps (.nested .channelModelPrice)) "1").isSome = true ∧
      (demoSettings.updateOptionHandler demoCodec (cutOff (.nested .channelModelPrice))).1 =
        .error "unexpected end of JSON input" ∧
      after.rows (.option (.nested .channelModelPrice)) = some "\x7b" ∧
      after.optionMap (.option (.nested .channelModelPrice)) = "\x7b" ∧
      ((after.maps (.nested .channelModelPrice)) "1").isNone = true ∧
      ((later.maps (.nested .channelModelPrice)) "1").isNone = true :=
  ⟨demoSettings_channelModelPrice, by decide +kernel, by decide +kernel, by decide +kernel, by decide +kernel,
    by decide +kernel, by decide +kernel⟩

end TokenFactory.Options
