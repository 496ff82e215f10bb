import TokenFactory.Auth.Accounts
import TokenFactory.Options.Loaders

namespace TokenFactory.Options

open Go

/-! The options table, the copy of it in `OptionMap` and the maps that billing reads, with
the request that changes an option and the job that reloads all of them. -/

/-- The fields of `group_ratio_setting`, which are options of their own and point to maps
that another option fills as well. -/
inductive GroupField where
  | groupRatio
  | groupGroupRatio
deriving DecidableEq

def GroupField.rates : GroupField → Rates
  | .groupRatio => .scale .groupRatio
  | .groupGroupRatio => .nested .groupGroupRatio

inductive OptionKey where
  | option (rates : Rates)
  | groupRatioSetting (field : GroupField)
deriving DecidableEq

def OptionKey.rates : OptionKey → Rates
  | .option rates => rates
  | .groupRatioSetting field => field.rates

/-- `attached` says that a field of `group_ratio_setting` still points to its map. -/
structure Settings where
  rows : OptionKey → Option String
  optionMap : OptionKey → String
  maps : Maps
  attached : GroupField → Bool

/-- `RWMap.UnmarshalJSON`: the new content and the error. -/
def GroupField.read (codec : Codec) : (field : GroupField) → String → field.rates.Content × Option String
  | .groupRatio, text => ((GoMap.ofEntries (codec.floats text).1 : GoMap Rat), (codec.floats text).2)
  | .groupGroupRatio, text =>
    ((GoMap.ofEntries ((codec.nested text).1.map fun entry => (entry.1, GoMap.ofEntries entry.2)) :
      GoMap (GoMap Rat)), (codec.nested text).2)

/-- What happened to the row of an option: the row is looked up or created with no value, and
then saved; errors of the database are ignored. -/
inductive Write where
  | saved
  | created
  | failed
deriving DecidableEq

namespace Settings
variable (settings : Settings) (codec : Codec)

/-- A field that was set to `null` points to no map of billing any more. A text that does not
decode is not reported. -/
def updateConfigFromMap (field : GroupField) (text : String) : Settings :=
  if text = "null" then { settings with attached := Function.update settings.attached field false }
  else if settings.attached field && codec.valid text then
    { settings with maps := Function.update settings.maps field.rates (field.read codec text).1 }
  else settings

def updateOptionMap (visit : Visit) (key : OptionKey) (value : String) : Option String × Settings :=
  let noted := { settings with optionMap := Function.update settings.optionMap key value }
  match key with
  | .groupRatioSetting field => (none, noted.updateConfigFromMap codec field value)
  | .option rates =>
    let (failure, maps) := settings.maps.load codec visit rates value
    (failure, { noted with maps })

def writeRow (write : Write) (key : OptionKey) (value : String) : Settings :=
  match write with
  | .saved => { settings with rows := Function.update settings.rows key (some value) }
  | .created =>
    if (settings.rows key).isNone then { settings with rows := Function.update settings.rows key (some "") }
    else settings
  | .failed => settings

def updateOption (visit : Visit) (write : Write) (key : OptionKey) (value : String) :
    Option String × Settings :=
  (settings.writeRow write key value).updateOptionMap codec visit key value

/-- The rows are applied in the order in which the database lists them; errors are only logged. -/
def loadOptionsFromDatabase (listed : List (OptionKey × Visit)) : Settings :=
  listed.foldl (fun settings (key, visit) =>
    match settings.rows key with
    | none => settings
    | some text => (settings.updateOptionMap codec visit key text).2) settings

end Settings

/-- A request to change an option, with the visits of the loops that it runs. -/
structure OptionRequest where
  role : Int
  ownedModels : Except String (List String)
  key : OptionKey
  value : Json
  merge : Visit
  check : Visit
  load : Visit
  write : Write

def valueText (codec : Codec) : Json → String
  | .bool value => if value then "true" else "false"
  | .number value => codec.formatFloat value
  | .string text => text
  | value => codec.sprint value

def supplierEditableModelOptionKeys : List Rates :=
  [.scale .modelPrice, .scale .modelRatio, .scale .completionRatio, .scale .cacheRatio, .scale .createCacheRatio,
    .scale .imageRatio, .scale .audioRatio, .scale .audioCompletionRatio, .scale .videoRatio,
    .scale .videoCompletionRatio, .scale .videoPrice, .videoPricingRules, .scale .imagePrice,
    .imagePricingRules]

def OptionKey.supplierEditable : OptionKey → Bool
  | .option rates => rates ∈ supplierEditableModelOptionKeys
  | .groupRatioSetting _ => false

/-- How a merge ends; an assignment to a nil map panics. -/
inductive Merge where
  | invalid
  | panic
  | merged (text : String)
deriving DecidableEq

/-- The supplier's own models replace those of the option, the other models stay. -/
def mergeModelJSONByOwnedModels (codec : Codec) (visit : Visit) (currentRaw incomingRaw : String)
    (ownedModels : List String) : Merge :=
  let currentRaw := trimSpace currentRaw
  match if currentRaw = "" then .ok (some []) else codec.fields currentRaw with
  | .error _ => .invalid
  | .ok base =>
    match codec.fields (trimSpace incomingRaw) with
    | .error _ => .invalid
    | .ok patch =>
      let own := (visit.order (patch.getD [])).filter fun field => field.1 ∈ ownedModels
      match base with
      | none => if own = [] then .merged (codec.marshal none) else .panic
      | some base =>
        .merged (codec.marshal (some (own.foldl (fun base field => Fields.set base field.1 field.2) base)))

def checkGroupRatio (codec : Codec) (visit : Visit) (text : String) : Option String :=
  match codec.floats text with
  | (_, some reason) => some reason
  | (entries, none) =>
    ((visit.order entries).find? fun entry => entry.2 < 0).map fun entry =>
      "group ratio must be not less than 0: " ++ entry.1

/-- The options that an administrator's value is loaded into before it is stored. -/
def loadedFirst : Rates → Option String
  | .scale .imageRatio => some "图片倍率设置失败: "
  | .scale .audioRatio => some "音频倍率设置失败: "
  | .scale .audioCompletionRatio => some "音频补全倍率设置失败: "
  | .scale .videoRatio => some "视频倍率设置失败: "
  | .scale .videoCompletionRatio => some "视频输出倍率设置失败: "
  | .scale .videoPrice => some "视频按次价格设置失败: "
  | .videoPricingRules => some "视频规则价格设置失败: "
  | .channelVideoPricingRules => some "渠道视频规则价格设置失败: "
  | .scale .imagePrice => some "图片按张价格设置失败: "
  | .imagePricingRules => some "图片规则价格设置失败: "
  | .channelImagePricingRules => some "渠道图片规则价格设置失败: "
  | .scale .createCacheRatio => some "缓存创建倍率设置失败: "
  | _ => none

def answer : Option String × Settings → Except String Unit × Settings
  | (none, settings) => (.ok (), settings)
  | (some reason, settings) => (.error reason, settings)

namespace Settings
variable (settings : Settings) (codec : Codec) (request : OptionRequest)

/-- What the handler checks for an administrator before it stores the value. -/
def check (rates : Rates) (text : String) : Option String × Settings :=
  if rates = .scale .groupRatio then (checkGroupRatio codec request.check text, settings)
  else
    match loadedFirst rates with
    | none => (none, settings)
    | some label =>
      let (failure, maps) := settings.maps.load codec request.check rates text
      (failure.map fun reason => label ++ reason, { settings with maps })

def checkOption (text : String) : Option String × Settings :=
  match request.key with
  | .option rates => settings.check codec request rates text
  | .groupRatioSetting _ => (none, settings)

/-- What is stored for a supplier: the option with the models of the supplier replaced. -/
def supplierText : Except String String :=
  if request.key.supplierEditable = false then .error "供应商仅可修改模型倍率相关配置"
  else
    match request.ownedModels with
    | .error reason => .error reason
    | .ok ownedModels =>
      match mergeModelJSONByOwnedModels codec request.merge (trimSpace (settings.optionMap request.key))
        (trimSpace (valueText codec request.value)) ownedModels with
      | .invalid => .error "配置格式错误，仅支持 JSON 对象"
      | .panic => .error "assignment to entry in nil map"
      | .merged text => .ok text

def updateOptionHandler : Except String Unit × Settings :=
  if request.role < Auth.Role.adminUser then
    match settings.supplierText codec request with
    | .error reason => (.error reason, settings)
    | .ok text => answer (settings.updateOption codec request.load request.write request.key text)
  else
    let text := valueText codec request.value
    match settings.checkOption codec request text with
    | (some reason, checked) => (.error reason, checked)
    | (none, checked) => answer (checked.updateOption codec request.load request.write request.key text)

end Settings

end TokenFactory.Options
