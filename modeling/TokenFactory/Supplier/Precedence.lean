import TokenFactory.Relay.Attempts
import TokenFactory.Supplier.ForeignPrices

namespace TokenFactory.Supplier

open Data Go Relay Options

/-! Which of the prices for a model on a supplier's channel is used. -/

/-- The row says how the model is billed. -/
def Pricing.states (row : Pricing) : Bool := row.modelPrice.isSome || row.modelRatio.isSome

theorem Pricing.silent {row : Pricing} (nothing : row.states = false) :
    row.modelPrice = none ∧ row.modelRatio = none := by
  simpa [Pricing.states] using nothing

/-- The type of a row says whether it has a price. -/
def Pricing.Typed (row : Pricing) : Prop := row.quotaType = 1 ↔ row.modelPrice.isSome = true

namespace PriceBook

variable (book : PriceBook)

/-- The row of the channel if it states a price or a ratio, or else the one of the supplier. -/
def decidingRow (channelID supplierApplicationID : Int) (modelName : String) : Option Pricing :=
  (book.supplierRows channelID supplierApplicationID modelName).find? Pricing.states

def fixedPrices (channelID supplierApplicationID : Int) (modelName : String) : List Rat :=
  let modelName := formatMatchingModelName modelName
  (book.supplierRows channelID supplierApplicationID modelName).filterMap Pricing.modelPrice ++
    (book.getScopedValue .channelModelPrice channelID modelName).toList ++ (book.getModelPrice modelName).toList ++
    (if 0 < supplierApplicationID
      then book.getScopedValue .supplierModelPrice supplierApplicationID modelName else none).toList

/-- The price tables of a request that finds its prices in the book. -/
def priceTables (rest : PriceTables) : PriceTables :=
  { rest with
    scopedFixedModelPrice := book.resolveSupplierScopedFixedModelPrice
    scopedModelRatio := book.resolveSupplierScopedModelRatio
    modelRatio := fun name => (book.getModelRatio name).1
    modelPrice := fun name => (book.getModelPrice name).getD (-1)
    formatMatchingModelName }

variable {book} {channelID supplierApplicationID : Int} {modelName : String} {row : Pricing}

theorem supplierRows_format :
    book.supplierRows channelID supplierApplicationID (formatMatchingModelName modelName) =
      book.supplierRows channelID supplierApplicationID modelName := by
  simp only [supplierRows, getSupplierChannelModelPricingRow, getSupplierModelPricingRow, formatMatchingModelName_idem]

theorem getScopedValue_format (table : Nested) (id : Int) (name : String) :
    book.getScopedValue table id (formatMatchingModelName name) = book.getScopedValue table id name := by
  simp only [getScopedValue, formatMatchingModelName_idem]

theorem getModelRatio_format (name : String) :
    book.getModelRatio (formatMatchingModelName name) = book.getModelRatio name := by
  simp only [getModelRatio, formatMatchingModelName_idem]

section
variable (deciding : book.decidingRow channelID supplierApplicationID modelName = some row)
include deciding

theorem decidingRow_positive : 0 < supplierApplicationID ∧ 0 < channelID := by
  by_contra unscoped
  rw [decidingRow, supplierRows, if_neg unscoped] at deciding
  cases deciding

theorem decidingRow_states : row.states = true :=
  List.find?_some deciding

end

theorem decidingRow_first {field : Pricing → Option Rat} {value : Rat}
    (silent : ∀ other : Pricing, other.states = false → field other = none)
    (deciding : book.decidingRow channelID supplierApplicationID modelName = some row)
    (stated : field row = some value) :
    (book.supplierRows channelID supplierApplicationID (formatMatchingModelName modelName)).findSome? field =
      some value := by
  obtain ⟨_, before, after, split, passed⟩ := List.find?_eq_some_iff_append.mp deciding
  have skipped : before.findSome? field = none := by
    refine List.findSome?_eq_none_iff.mpr fun other member => silent other ?_
    simpa using passed other member
  rw [supplierRows_format, split, List.findSome?_append, skipped, Option.none_or, List.findSome?_cons, stated]

section
variable (deciding : book.decidingRow channelID supplierApplicationID modelName = some row)
include deciding

theorem resolve_fixed {price : Rat} (stated : row.modelPrice = some price) :
    book.resolveSupplierScopedFixedModelPrice channelID supplierApplicationID modelName = (price, true) := by
  have first := decidingRow_first (fun _ nothing => (Pricing.silent nothing).1) deciding stated
  simp only [resolveSupplierScopedFixedModelPrice, first]

theorem resolve_ratio {ratio : Rat} (stated : row.modelRatio = some ratio) :
    book.resolveSupplierScopedModelRatio channelID supplierApplicationID modelName = (ratio, true, "") := by
  have first := decidingRow_first (fun _ nothing => (Pricing.silent nothing).2) deciding stated
  simp only [resolveSupplierScopedModelRatio, first]

end

theorem resolve_fixed_eq_head :
    book.resolveSupplierScopedFixedModelPrice channelID supplierApplicationID modelName =
      match (book.fixedPrices channelID supplierApplicationID modelName).head? with
      | some price => (price, true)
      | none => (0, false) := by
  simp only [resolveSupplierScopedFixedModelPrice, fixedPrices, List.head?_append, List.head?_filterMap]
  cases (book.supplierRows channelID supplierApplicationID (formatMatchingModelName modelName)).findSome?
      Pricing.modelPrice with
  | some price => rfl
  | none =>
    cases book.getScopedValue .channelModelPrice channelID (formatMatchingModelName modelName) with
    | some price => rfl
    | none =>
      cases book.getModelPrice (formatMatchingModelName modelName) with
      | some price => rfl
      | none =>
        cases (if 0 < supplierApplicationID then book.getScopedValue .supplierModelPrice supplierApplicationID
          (formatMatchingModelName modelName) else none) with
        | some price => rfl
        | none => rfl

theorem pricingOf_typed (userID : Int) (maps : SupplierPricingMapsPayload) (rawName : String) :
    (pricingOf userID maps rawName).Typed := by
  simp [Pricing.Typed, pricingOf]

section
variable {Owner : Type} [DecidableEq Owner] {owner : Owner} {userID : Int} {maps : SupplierPricingMapsPayload}
  {table : PricingTable Owner}

theorem upsertRow_typed (typed : ∀ row ∈ table, row.pricing.Typed) (rawName : String) :
    ∀ row ∈ upsertRow owner userID maps table rawName, row.pricing.Typed := by
  intro row member
  unfold upsertRow at member
  dsimp only at member
  split at member
  · exact typed row (Table.mem_restrict.mp member).1
  · split at member
    · rcases Table.mem_of_mem_insert member with old | rfl
      · exact typed row old
      · exact pricingOf_typed userID maps rawName
    · rcases Table.mem_save.mp member with ⟨rfl, _⟩ | ⟨old, _⟩
      · exact pricingOf_typed userID maps rawName
      · exact typed row old

theorem upsertRows_typed (typed : ∀ row ∈ table, row.pricing.Typed) (names : List String) :
    ∀ row ∈ names.foldl (upsertRow owner userID maps) table, row.pricing.Typed := by
  induction names generalizing table with
  | nil => exact typed
  | cons name rest induction => exact induction (upsertRow_typed typed name)

theorem upsertPricingMaps_typed {visit : Visit} {owned : List String} {failure : Option String}
    {after : PricingTable Owner} (typed : ∀ row ∈ table, row.pricing.Typed)
    (stored : upsertPricingMaps owner userID visit maps owned failure table = .ok after) :
    ∀ row ∈ after, row.pricing.Typed := by
  unfold upsertPricingMaps at stored
  dsimp only at stored
  split at stored
  · cases stored
  · split at stored
    · cases stored
    · cases stored
      exact upsertRows_typed typed _

end

/-- Every row of the book says by its type whether it has a price. -/
structure Typed (book : PriceBook) : Prop where
  supplierRows : ∀ row ∈ book.supplierPricing, row.pricing.Typed
  channelRows : ∀ row ∈ book.supplierChannelPricing, row.pricing.Typed

theorem step_typed (codec : Codec) (caller : Caller) (book : PriceBook) (event : Circumstances × PricingRequest)
    (typed : book.Typed) : (step codec caller book event).Typed := by
  obtain ⟨met, request⟩ := event
  unfold step
  cases request with
  | updateOption key value =>
    unfold handlePricing updateOption
    dsimp only
    split
    · exact typed
    · split <;> exact ⟨typed.supplierRows, typed.channelRows⟩
  | putSupplierGlobalPricing payload =>
    change (book.putSupplierGlobalPricing caller met payload).2.Typed
    obtain same | ⟨_, _, _, _, _, stored, after⟩ := @putSupplierGlobalPricing_cases caller met book payload
    · rw [same]
      exact typed
    · rw [after]
      exact ⟨upsertPricingMaps_typed typed.supplierRows stored, typed.channelRows⟩
  | putSupplierChannelPricing channelID payload =>
    change (book.putSupplierChannelPricing caller met channelID payload).2.Typed
    obtain same | ⟨_, _, _, _, _, _, stored, after⟩ :=
      @putSupplierChannelPricing_cases caller met book channelID payload
    · rw [same]
      exact typed
    · rw [after]
      exact ⟨typed.supplierRows, upsertPricingMaps_typed typed.channelRows stored⟩

theorem run_typed {codec : Codec} {caller : Caller} {start : PriceBook} (typed : start.Typed)
    (events : List (Circumstances × PricingRequest)) : (run (step codec caller) start events).Typed :=
  run_invariant (step_typed codec caller) typed events

theorem Typed.decidingRow (typed : book.Typed)
    (deciding : book.decidingRow channelID supplierApplicationID modelName = some row) : row.Typed := by
  have positive := decidingRow_positive deciding
  have member := List.mem_of_find?_eq_some deciding
  have channelled : ¬ (supplierApplicationID ≤ 0 ∨ channelID ≤ 0) := by omega
  simp only [PriceBook.supplierRows, if_pos positive, getSupplierChannelModelPricingRow, if_neg channelled,
    getSupplierModelPricingRow, if_neg (not_le.mpr positive.1), List.mem_append, Option.mem_toList,
    Option.map_eq_some_iff] at member
  rcases member with ⟨own, found, rfl⟩ | ⟨own, found, rfl⟩
  · exact typed.channelRows own (Table.mem_of_lookup found)
  · exact typed.supplierRows own (Table.mem_of_lookup found)

section
variable {rest : PriceTables} {ctx : Context} {info : RelayInfo}

theorem priceTables_supplier :
    resolveSupplierIdByChannel (book.priceTables rest) info = resolveSupplierIdByChannel rest info := by
  simp only [resolveSupplierIdByChannel, priceTables]

theorem supplied_fixed (supplied : 0 < resolveSupplierIdByChannel rest info) :
    fixedModelPrice (book.priceTables rest) info =
      book.resolveSupplierScopedFixedModelPrice info.channelId (resolveSupplierIdByChannel rest info)
        info.originModelName := by
  simp only [fixedModelPrice, priceTables_supplier, if_neg (not_le.mpr supplied)]
  simp only [priceTables]

theorem supplied_ratio (supplied : 0 < resolveSupplierIdByChannel rest info) {ratio : Rat} {name : String}
    (found : book.resolveSupplierScopedModelRatio info.channelId (resolveSupplierIdByChannel rest info)
      info.originModelName = (ratio, true, name)) :
    inputModelRatio (book.priceTables rest) info = .ok ratio := by
  simp only [inputModelRatio, priceTables_supplier, if_neg (not_le.mpr supplied)]
  simp only [priceTables, found, true_or, if_true]

theorem modelPriceHelper_fixed {request : PriceRequest} {tables : PriceTables} {price : Rat}
    (unscaled : request.imagePriceRatio = 0)
    (fixed : fixedModelPrice tables (useAutoGroup ctx info) = (price, true)) :
    ∃ data, (modelPriceHelper tables request ctx info).1 = .ok data ∧ data.usePrice = true ∧
      data.modelPrice = price := by
  refine ⟨markFree tables
    (fixedPriceData tables request (useAutoGroup ctx info) (handleGroupRatio tables ctx info).1 price), ?_, ?_⟩
  · simp only [modelPriceHelper, modelPriceData, handleGroupRatio_info, fixed]
  · obtain ⟨usePrice, modelPrice, _⟩ := markFree_kept tables
      (fixedPriceData tables request (useAutoGroup ctx info) (handleGroupRatio tables ctx info).1 price)
    rw [usePrice, modelPrice]
    simp [fixedPriceData, unscaled]

theorem modelPriceHelper_ratio (request : PriceRequest) {tables : PriceTables} {price ratio : Rat}
    (unfixed : fixedModelPrice tables (useAutoGroup ctx info) = (price, false))
    (input : inputModelRatio tables (useAutoGroup ctx info) = .ok ratio) :
    ∃ data, (modelPriceHelper tables request ctx info).1 = .ok data ∧ data.usePrice = false ∧
      data.modelRatio = ratio := by
  refine ⟨markFree tables
    (ratioPriceData tables request (useAutoGroup ctx info) (handleGroupRatio tables ctx info).1 ratio), ?_, ?_⟩
  · simp only [modelPriceHelper, modelPriceData, handleGroupRatio_info, unfixed, input]
  · obtain ⟨usePrice, _, modelRatio, _⟩ := markFree_kept tables
      (ratioPriceData tables request (useAutoGroup ctx info) (handleGroupRatio tables ctx info).1 ratio)
    rw [usePrice, modelRatio]
    exact ⟨rfl, rfl⟩

end

/-- The most specific row decides exactly if its type says whether it has a price and, when it has
none, no other table or option has one. -/
theorem most_specific_row_decides_iff (book : PriceBook) (rest : PriceTables) (request : PriceRequest) (ctx : Context)
    (info : RelayInfo) {row : Pricing} (unscaled : request.imagePriceRatio = 0)
    (deciding : book.decidingRow info.channelId (resolveSupplierIdByChannel rest info) info.originModelName =
      some row) :
    (∃ data, (modelPriceHelper (book.priceTables rest) request ctx info).1 = .ok data ∧
      if row.quotaType = 1 then data.usePrice = true ∧ row.modelPrice = some data.modelPrice
      else data.usePrice = false ∧ row.modelRatio = some data.modelRatio) ↔
      row.Typed ∧ (row.modelPrice = none →
        book.fixedPrices info.channelId (resolveSupplierIdByChannel rest info) info.originModelName = []) := by
  have channelId := (useAutoGroup_kept ctx info).2.2.2
  have supplierId : resolveSupplierIdByChannel rest (useAutoGroup ctx info) = resolveSupplierIdByChannel rest info := by
    rw [resolveSupplierIdByChannel, channelId, resolveSupplierIdByChannel]
  rw [← supplierId, ← channelId, ← useAutoGroup_origin ctx info] at deciding ⊢
  obtain ⟨supplied, _⟩ := decidingRow_positive deciding
  cases priced : row.modelPrice with
  | some price =>
    have fixed := (supplied_fixed supplied).trans (resolve_fixed deciding priced)
    obtain ⟨data, answered, usePrice, modelPrice⟩ := modelPriceHelper_fixed unscaled fixed
    simp [answered, usePrice, modelPrice, Pricing.Typed, priced]
  | none =>
    have states := decidingRow_states deciding
    rw [Pricing.states, priced, Option.isSome_none, Bool.false_or] at states
    obtain ⟨ratio, stated⟩ := Option.isSome_iff_exists.mp states
    cases prices : book.fixedPrices (useAutoGroup ctx info).channelId
        (resolveSupplierIdByChannel rest (useAutoGroup ctx info)) (useAutoGroup ctx info).originModelName with
    | nil =>
      have unfixed : fixedModelPrice (book.priceTables rest) (useAutoGroup ctx info) = (0, false) := by
        rw [supplied_fixed supplied, resolve_fixed_eq_head, prices]
        rfl
      obtain ⟨data, answered, usePrice, modelRatio⟩ := modelPriceHelper_ratio request unfixed
        (supplied_ratio supplied (resolve_ratio deciding stated))
      simp [answered, usePrice, modelRatio, stated, Pricing.Typed, priced]
    | cons price others =>
      -- a price of another layer is used instead of the ratio of the row
      have fixed : fixedModelPrice (book.priceTables rest) (useAutoGroup ctx info) = (price, true) := by
        rw [supplied_fixed supplied, resolve_fixed_eq_head, prices]
        rfl
      obtain ⟨data, answered, usePrice, modelPrice⟩ := modelPriceHelper_fixed unscaled fixed
      simp [answered, usePrice, Pricing.Typed, priced]

/-- The supplier of the first channel states prices or ratios for it; the platform's price is 1. -/
def suppliedBook (maps : SupplierPricingMapsPayload) : PriceBook :=
  run (step priceCodec Catalogue.supplierSeven) sharedBook
    [(undisturbed, .putSupplierChannelPricing "1" (some maps))]

theorem suppliedBook_typed (maps : SupplierPricingMapsPayload) : (suppliedBook maps).Typed :=
  run_typed ⟨fun _ member => absurd member Table.not_mem_empty, fun _ member => absurd member Table.not_mem_empty⟩ _

def supplierTables : PriceTables := { discountTables with supplierOfChannel := fun id => if id = 1 then 7 else 8 }

def suppliedInfo : RelayInfo := chatInfo.initChannelMeta { originalModel := "gpt", channelId := 1 }

theorem most_specific_row_decides_price :
    ∃ data, (modelPriceHelper ((suppliedBook { modelPrice := [("gpt", 4)] }).priceTables supplierTables)
      chatRequest.price {} suppliedInfo).1 = .ok data ∧ data.usePrice = true ∧ data.modelPrice = 4 := by
  have deciding : (suppliedBook { modelPrice := [("gpt", 4)] }).decidingRow suppliedInfo.channelId
      (resolveSupplierIdByChannel supplierTables suppliedInfo) suppliedInfo.originModelName =
        some (pricingOf 7 { modelPrice := [("gpt", 4)] } "gpt") := by
    decide +kernel
  obtain ⟨data, answered, decided⟩ := (most_specific_row_decides_iff (suppliedBook { modelPrice := [("gpt", 4)] })
    supplierTables chatRequest.price {} suppliedInfo rfl deciding).mpr ⟨(suppliedBook_typed _).decidingRow deciding,
      fun unpriced => absurd unpriced (by decide +kernel)⟩
  have price : (pricingOf 7 { modelPrice := [("gpt", 4)] } "gpt").modelPrice = some 4 := by decide +kernel
  rw [if_pos (by decide +kernel), price, Option.some.injEq] at decided
  exact ⟨data, answered, decided.1, decided.2.symm⟩

/-- The row of the channel states a ratio of 2 and no price, and the platform's price is used. -/
theorem most_specific_row_passed_over :
    (suppliedBook { modelRatio := [("gpt", 2)] }).decidingRow suppliedInfo.channelId
        (resolveSupplierIdByChannel supplierTables suppliedInfo) suppliedInfo.originModelName =
          some (pricingOf 7 { modelRatio := [("gpt", 2)] } "gpt") ∧
      (pricingOf 7 { modelRatio := [("gpt", 2)] } "gpt").quotaType = 0 ∧
      ((modelPriceHelper ((suppliedBook { modelRatio := [("gpt", 2)] }).priceTables supplierTables) chatRequest.price
        {} suppliedInfo).1.map fun data => (data.usePrice, data.modelPrice, data.modelRatio)) = .ok (true, 1, 0) := by
  decide +kernel

end PriceBook

end TokenFactory.Supplier
