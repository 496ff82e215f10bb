import TokenFactory.Options.Store
import TokenFactory.Supplier.Channels

namespace TokenFactory.Supplier

open Data Go Relay Options

/-! The prices of the suppliers: the two tables of `model/supplier_pricing.go`, the requests of
`controller/supplier_pricing.go` that fill them, the supplier's way to change an option, and how the
price of a model on a channel is found. -/

structure Pricing where
  quotaType : Int
  modelPrice : Option Rat
  modelRatio : Option Rat
  completionRatio : Option Rat
  cacheRatio : Option Rat
  createCacheRatio : Option Rat
  imageRatio : Option Rat
  audioRatio : Option Rat
  audioCompletionRatio : Option Rat
  updatedByUserID : Int
deriving DecidableEq

/-- A row belongs to a supplier application, or to an application and a channel. -/
structure PricingRow (Owner : Type) where
  owner : Owner
  modelName : String
  pricing : Pricing
deriving DecidableEq

def PricingRow.key {Owner : Type} (row : PricingRow Owner) : Owner × String := (row.owner, row.modelName)

abbrev PricingTable (Owner : Type) := Table (@PricingRow.key Owner)

structure SupplierPricingMapsPayload where
  modelPrice : List (String × Rat) := []
  modelRatio : List (String × Rat) := []
  completionRatio : List (String × Rat) := []
  cacheRatio : List (String × Rat) := []
  createCacheRatio : List (String × Rat) := []
  imageRatio : List (String × Rat) := []
  audioRatio : List (String × Rat) := []
  audioCompletionRatio : List (String × Rat) := []
deriving DecidableEq

/-- The models that the payload names, without the blanks around them. -/
def supplierPricingModelsJoined (maps : SupplierPricingMapsPayload) : List String :=
  (((maps.modelPrice ++ maps.modelRatio ++ maps.completionRatio ++ maps.cacheRatio ++ maps.createCacheRatio ++
    maps.imageRatio ++ maps.audioRatio ++ maps.audioCompletionRatio).map fun entry => trimSpace entry.1).filter
      (· ≠ "")).dedup

def normalizeOwnedModelsForPricing (owned : List String) : List String :=
  ((owned.map trimSpace).filter (· ≠ "")).flatMap fun name => [name, formatMatchingModelName name]

def pricingOf (userID : Int) (maps : SupplierPricingMapsPayload) (rawName : String) : Pricing where
  quotaType := if (maps.modelPrice.lookup rawName).isSome then 1 else 0
  modelPrice := maps.modelPrice.lookup rawName
  modelRatio := maps.modelRatio.lookup rawName
  completionRatio := maps.completionRatio.lookup rawName
  cacheRatio := maps.cacheRatio.lookup rawName
  createCacheRatio := maps.createCacheRatio.lookup rawName
  imageRatio := maps.imageRatio.lookup rawName
  audioRatio := maps.audioRatio.lookup rawName
  audioCompletionRatio := maps.audioCompletionRatio.lookup rawName
  updatedByUserID := userID

def Pricing.blank (pricing : Pricing) : Bool :=
  pricing.modelPrice.isNone && pricing.modelRatio.isNone && pricing.completionRatio.isNone &&
    pricing.cacheRatio.isNone && pricing.createCacheRatio.isNone && pricing.imageRatio.isNone &&
    pricing.audioRatio.isNone && pricing.audioCompletionRatio.isNone

section
variable {Owner : Type} [DecidableEq Owner]

/-- The row of one model: deleted when nothing is stated, or else created or saved. -/
def upsertRow (owner : Owner) (userID : Int) (maps : SupplierPricingMapsPayload) (table : PricingTable Owner)
    (rawName : String) : PricingTable Owner :=
  let modelName := formatMatchingModelName rawName
  let pricing := pricingOf userID maps rawName
  if pricing.blank then table.restrict fun row => row.key ≠ (owner, modelName)
  else if (table.lookup (owner, modelName)).isNone then table.insert ⟨owner, modelName, pricing⟩
  else table.save ⟨owner, modelName, pricing⟩

def upsertPricingMaps (owner : Owner) (userID : Int) (visit : Visit) (maps : SupplierPricingMapsPayload)
    (ownedModels : List String) (failure : Option String) (table : PricingTable Owner) :
    Except Refusal (PricingTable Owner) :=
  let modelNames := (visit.order ((supplierPricingModelsJoined maps).map fun name => (name, ()))).map Prod.fst
  match modelNames.find? fun name => name ∉ ownedModels with
  | some name => .error ("无权配置模型: " ++ name)
  | none =>
    match failure with
    | some reason => .error reason
    | none => .ok (modelNames.foldl (upsertRow owner userID maps) table)

end

/-- `supplierID` is the column of the users table, and `supplierModels` are the models with their owners. -/
structure PriceBook where
  catalogue : Catalogue
  supplierID : Int → Int
  supplierModels : List (Int × String)
  supplierPricing : PricingTable Int
  supplierChannelPricing : PricingTable (Int × Int)
  settings : Options.Settings
  selfUseModeEnabled : Bool

/-- What a request meets: the order of its loops, and failures of the database. -/
structure Circumstances where
  visit : Visit
  check : Visit
  load : Visit
  scopeFailure : Option Refusal
  pricingFailure : Option Refusal
  write : Write

/-- `key` is absent for an option that is no price or ratio. -/
inductive PricingRequest where
  | updateOption (key : Option OptionKey) (value : Json)
  | putSupplierGlobalPricing (payload : Option SupplierPricingMapsPayload)
  | putSupplierChannelPricing (channelID : String) (payload : Option SupplierPricingMapsPayload)

namespace PriceBook
variable (book : PriceBook) (codec : Codec) (caller : Caller) (met : Circumstances)

def getApprovedSupplierApplicationByApplicant (userID : Int) : Option Application :=
  ((book.catalogue.applications.rows.filter fun application =>
    application.applicantUserID = userID && application.approved).insertionSort fun first second =>
      second.id ≤ first.id).head?

def supplierApplicationIDsForUser (userID : Int) : List Int :=
  ([book.supplierID userID] ++
    ((book.getApprovedSupplierApplicationByApplicant userID).map Application.id).toList).filter (0 < ·)

def collectSupplierOwnedModelNames (userID : Int) : Except Refusal (List String) :=
  match met.scopeFailure with
  | some reason => .error reason
  | none =>
    let channels := book.catalogue.channels.rows.filter fun channel =>
      channel.ownerUserID = userID ∨
        channel.supplierApplicationID ∈ book.supplierApplicationIDsForUser userID
    let models := channels.flatMap Channel.getModels ++
      (book.supplierModels.filter fun model => model.1 = userID).map Prod.snd
    .ok ((models.map trimSpace).filter (· ≠ ""))

def putSupplierGlobalPricing (payload : Option SupplierPricingMapsPayload) : Except Refusal Unit × PriceBook :=
  match book.getApprovedSupplierApplicationByApplicant caller.id with
  | none => (.error "当前账号无已审核通过的供应商资质", book)
  | some application =>
    match payload with
    | none => (.error "无效的 JSON", book)
    | some maps =>
      match book.collectSupplierOwnedModelNames met caller.id with
      | .error reason => (.error reason, book)
      | .ok owned =>
        match upsertPricingMaps application.id caller.id met.visit maps
          (normalizeOwnedModelsForPricing owned) met.pricingFailure book.supplierPricing with
        | .error reason => (.error reason, book)
        | .ok table => (.ok (), { book with supplierPricing := table })

def putSupplierChannelPricing (channelID : String) (payload : Option SupplierPricingMapsPayload) :
    Except Refusal Unit × PriceBook :=
  match (atoi channelID).filter (0 < ·) with
  | none => (.error "无效的渠道 ID", book)
  | some channelID =>
    match book.getApprovedSupplierApplicationByApplicant caller.id with
    | none => (.error "当前账号无已审核通过的供应商资质", book)
    | some application =>
      match book.catalogue.channels.lookup channelID with
      | none => (.error "渠道不存在", book)
      | some channel =>
        if channel.ownerUserID ≠ caller.id ∨ channel.supplierApplicationID ≠ application.id then
          (.error "无权修改该渠道", book)
        else
          match payload with
          | none => (.error "无效的 JSON", book)
          | some maps =>
            match book.collectSupplierOwnedModelNames met caller.id with
            | .error reason => (.error reason, book)
            | .ok owned =>
              match upsertPricingMaps (application.id, channelID) caller.id met.visit maps
                (normalizeOwnedModelsForPricing owned) met.pricingFailure book.supplierChannelPricing with
              | .error reason => (.error reason, book)
              | .ok table => (.ok (), { book with supplierChannelPricing := table })

/-- An option that is no price or ratio is not the supplier's to change. -/
def updateOption (key : Option OptionKey) (value : Json) : Except Refusal Unit × PriceBook :=
  match key with
  | none => (.error "供应商仅可修改模型倍率相关配置", book)
  | some key =>
    let (answer, settings) := book.settings.updateOptionHandler codec {
      role := caller.role
      ownedModels := book.collectSupplierOwnedModelNames met caller.id
      key, value
      merge := met.visit
      check := met.check
      load := met.load
      write := met.write }
    (answer, { book with settings })

def handlePricing : PricingRequest → Except Refusal Unit × PriceBook
  | .updateOption key value =>
    if ¬ book.catalogue.admits caller then (.error "当前用户未通过供应商审核，无权访问该接口", book)
    else book.updateOption codec caller met key value
  | .putSupplierGlobalPricing payload => book.putSupplierGlobalPricing caller met payload
  | .putSupplierChannelPricing channelID payload => book.putSupplierChannelPricing caller met channelID payload

def getSupplierModelPricingRow (supplierApplicationID : Int) (rawModelName : String) : Option Pricing :=
  if supplierApplicationID ≤ 0 then none
  else
    (book.supplierPricing.lookup (supplierApplicationID, formatMatchingModelName rawModelName)).map
      PricingRow.pricing

def getSupplierChannelModelPricingRow (supplierApplicationID channelID : Int) (rawModelName : String) :
    Option Pricing :=
  if supplierApplicationID ≤ 0 ∨ channelID ≤ 0 then none
  else
    (book.supplierChannelPricing.lookup
      ((supplierApplicationID, channelID), formatMatchingModelName rawModelName)).map PricingRow.pricing

/-- A value of a channel or supplier in an option; the ids of both are written alike. -/
def getScopedValue (table : Nested) (id : Int) (model : String) : Option Rat :=
  let key := normalizeChannelID id
  if key = "" then none
  else (book.settings.maps (.nested table) key).bind fun values => values (formatMatchingModelName model)

def compactWildcardModelKey : String := "*" ++ compactModelSuffix

def getModelPrice (name : String) : Option Rat :=
  let name := formatMatchingModelName name
  if hasSuffix name compactModelSuffix then book.settings.maps (.scale .modelPrice) compactWildcardModelKey
  else book.settings.maps (.scale .modelPrice) name

def getModelRatio (name : String) : Rat × Bool × String :=
  let name := formatMatchingModelName name
  match book.settings.maps (.scale .modelRatio) name with
  | some ratio => (ratio, true, name)
  | none =>
    match (if hasSuffix name compactModelSuffix
      then book.settings.maps (.scale .modelRatio) compactWildcardModelKey else none) with
    | some ratio => (ratio, true, name)
    | none => if book.selfUseModeEnabled then (1, true, name) else (0, false, name)

def supplierRows (channelID supplierApplicationID : Int) (modelName : String) : List Pricing :=
  if 0 < supplierApplicationID ∧ 0 < channelID then
    (book.getSupplierChannelModelPricingRow supplierApplicationID channelID modelName).toList ++
      (book.getSupplierModelPricingRow supplierApplicationID modelName).toList
  else []

def resolveSupplierScopedFixedModelPrice (channelID supplierApplicationID : Int) (modelName : String) :
    Rat × Bool :=
  let modelName := formatMatchingModelName modelName
  match (book.supplierRows channelID supplierApplicationID modelName).findSome? Pricing.modelPrice with
  | some price => (price, true)
  | none =>
    match book.getScopedValue .channelModelPrice channelID modelName with
    | some price => (price, true)
    | none =>
      match book.getModelPrice modelName with
      | some price => (price, true)
      | none =>
        match (if 0 < supplierApplicationID
          then book.getScopedValue .supplierModelPrice supplierApplicationID modelName else none) with
        | some price => (price, true)
        | none => (0, false)

/-- The platform's ratio comes last, after the older option of the supplier. -/
def resolveSupplierScopedModelRatio (channelID supplierApplicationID : Int) (modelName : String) :
    Rat × Bool × String :=
  let modelName := formatMatchingModelName modelName
  match (book.supplierRows channelID supplierApplicationID modelName).findSome? Pricing.modelRatio with
  | some ratio => (ratio, true, "")
  | none =>
    match book.getScopedValue .channelModelRatio channelID modelName with
    | some ratio => (ratio, true, "")
    | none =>
      match (if 0 < supplierApplicationID
        then book.getScopedValue .supplierModelRatio supplierApplicationID modelName else none) with
      | some ratio => (ratio, true, "")
      | none => book.getModelRatio modelName

end PriceBook

def PriceBook.step (codec : Codec) (caller : Caller) (book : PriceBook) (event : Circumstances × PricingRequest) :
    PriceBook :=
  (book.handlePricing codec caller event.1 event.2).2

end TokenFactory.Supplier
