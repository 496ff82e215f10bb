import TokenFactory.Quota.Free
import TokenFactory.Supplier.Precedence

namespace TokenFactory.Quota

open Go Relay Supplier

/-! The ratios of a task that is settled by its tokens. -/

/-- The row of a task that was submitted with this info; `later` is what is found out afterwards. -/
def FinishedTask.submitted (later : FinishedTask) (info : RelayInfo) : FinishedTask :=
  { later with
    userId := info.userId
    channelId := info.channelId
    modelName := info.originModelName
    group := info.usingGroup }

def tokenRatios (tables : TaskTables) (task : FinishedTask) : Option (Rat × Rat) :=
  if task.billedGroup = "" then none
  else ((tables.modelRatio task.modelName).filter fun ratio => ratio > 0).map fun ratio =>
    (ratio, tokenGroupRatio tables task.billedGroup)

theorem recalculateTaskQuotaByTokens_eq (tables : TaskTables) (task : FinishedTask) {totalTokens : Int}
    (counted : 0 < totalTokens) : recalculateTaskQuotaByTokens tables task totalTokens =
      (tokenRatios tables task).map fun ratios =>
        mathRound (totalTokens * effectiveInputRate ratios.1 ratios.1
          (tables.channelPriceDiscountPercent task.channelId)
          (tables.markupDiscountPercent task.userId task.channelId task.modelName) * ratios.2) := by
  unfold recalculateTaskQuotaByTokens tokenRatios
  cases (tables.modelRatio task.modelName).filter fun ratio => ratio > 0 with
  | none => simp
  | some ratio =>
    by_cases unnamed : task.billedGroup = ""
    · simp [unnamed]
    · simp [unnamed, not_le.mpr counted]

/-- The tables of a settlement with the settings that the request was priced with. -/
def taskTables (book : PriceBook) (prices : PriceTables) (rest : TaskTables) : TaskTables :=
  { rest with
    modelRatio := fun name => if (book.getModelRatio name).2.1 then some (book.getModelRatio name).1 else none
    groupRatio := prices.groupRatio
    groupGroupRatio := prices.groupGroupRatio }

/-- The ratios for the model that go before the platform's, in their order. -/
def ownRatios (book : PriceBook) (prices : PriceTables) (info : RelayInfo) : List Rat :=
  let supplierId := resolveSupplierIdByChannel prices info
  (if supplierId ≤ 0 then prices.groupModelRatio info.usingGroup info.originModelName else none).toList ++
    (book.supplierRows info.channelId supplierId info.originModelName).filterMap Pricing.modelRatio ++
    (book.getScopedValue .channelModelRatio info.channelId info.originModelName).toList ++
    (if 0 < supplierId then book.getScopedValue .supplierModelRatio supplierId info.originModelName else none).toList

section
variable {book : PriceBook} {prices : PriceTables} {ctx : Context} {info : RelayInfo}

theorem inputModelRatio_eq_head (known : (book.getModelRatio info.originModelName).2.1 = true) :
    inputModelRatio (book.priceTables prices) info =
      .ok ((ownRatios book prices info).head?.getD (book.getModelRatio info.originModelName).1) := by
  simp only [inputModelRatio, PriceBook.priceTables_supplier]
  simp only [PriceBook.priceTables, PriceBook.resolveSupplierScopedModelRatio, PriceBook.supplierRows_format,
    PriceBook.getScopedValue_format, PriceBook.getModelRatio_format, ownRatios, List.head?_append,
    List.head?_filterMap]
  cases (if resolveSupplierIdByChannel prices info ≤ 0 then
      prices.groupModelRatio info.usingGroup info.originModelName else none) with
  | some ratio => rfl
  | none =>
    cases (book.supplierRows info.channelId (resolveSupplierIdByChannel prices info)
        info.originModelName).findSome? Pricing.modelRatio with
    | some ratio => simp
    | none =>
      cases book.getScopedValue .channelModelRatio info.channelId info.originModelName with
      | some ratio => simp
      | none =>
        cases (if 0 < resolveSupplierIdByChannel prices info then book.getScopedValue .supplierModelRatio
            (resolveSupplierIdByChannel prices info) info.originModelName else none) with
        | some ratio => simp
        | none => simp [known]

theorem modelPriceHelper_input {tables : PriceTables} {request : PriceRequest} {data : PriceData}
    (priced : (modelPriceHelper tables request ctx info).1 = .ok data) (unfixed : data.usePrice = false) :
    inputModelRatio tables (useAutoGroup ctx info) = .ok data.modelRatio := by
  simp only [modelPriceHelper, handleGroupRatio_info, modelPriceData] at priced
  split at priced
  · next price _ =>
      cases priced
      have usePrice := (markFree_kept tables (fixedPriceData tables request (useAutoGroup ctx info)
        (handleGroupRatio tables ctx info).1 price)).1
      rw [unfixed] at usePrice
      cases usePrice
  · split at priced
    · cases priced
    · next ratio found =>
        cases priced
        rw [found, (markFree_kept tables _).2.2.1]
        rfl

end

/-- A settlement by tokens uses the ratios that the task was submitted with exactly if members of
the task's group pay what the user pays, and no ratio but the platform's comes first for the model. -/
theorem token_settlement_ratios_iff (book : PriceBook) (prices : PriceTables) (rest : TaskTables) (ctx : Context)
    (info : RelayInfo) (later : FinishedTask) {modelRatio groupRatio : Rat}
    (used : tokenRatios (taskTables book prices rest) (later.submitted (useAutoGroup ctx info)) =
      some (modelRatio, groupRatio)) :
    let usingGroup := (useAutoGroup ctx info).usingGroup
    let taskGroup := (later.submitted (useAutoGroup ctx info)).billedGroup
    ((handleGroupRatio (book.priceTables prices) ctx info).1.groupRatio = groupRatio ∧
        inputModelRatio (book.priceTables prices) (useAutoGroup ctx info) = .ok modelRatio ↔
      (prices.groupGroupRatio info.userGroup usingGroup).getD (prices.groupRatio usingGroup) =
          (prices.groupGroupRatio taskGroup taskGroup).getD (prices.groupRatio taskGroup) ∧
        ∀ ratio ∈ (ownRatios book prices (useAutoGroup ctx info)).head?,
          ratio = (book.getModelRatio info.originModelName).1) ∧
      ∀ request data, (modelPriceHelper (book.priceTables prices) request ctx info).1 = .ok data →
        data.usePrice = false →
          inputModelRatio (book.priceTables prices) (useAutoGroup ctx info) = .ok data.modelRatio := by
  intro usingGroup taskGroup
  refine ⟨?_, fun request data priced unfixed => modelPriceHelper_input priced unfixed⟩
  rw [tokenRatios] at used
  split at used
  · cases used
  obtain ⟨ratio, found, same⟩ := Option.map_eq_some_iff.mp used
  obtain ⟨rfl, rfl⟩ := Prod.mk.inj same
  obtain ⟨known, platform⟩ := Option.ite_none_right_eq_some.mp (Option.filter_eq_some_iff.mp found).1
  have origin : (later.submitted (useAutoGroup ctx info)).modelName = info.originModelName :=
    useAutoGroup_origin ctx info
  rw [origin] at known platform
  have paid : (handleGroupRatio (book.priceTables prices) ctx info).1.groupRatio =
      (prices.groupGroupRatio info.userGroup usingGroup).getD (prices.groupRatio usingGroup) := by
    simp only [handleGroupRatio, PriceBook.priceTables, (useAutoGroup_kept ctx info).2.1, usingGroup]
    cases prices.groupGroupRatio info.userGroup (useAutoGroup ctx info).usingGroup <;> rfl
  rw [paid, inputModelRatio_eq_head (by rw [useAutoGroup_origin]; exact known), useAutoGroup_origin,
    ← Option.some.inj platform]
  refine and_congr Iff.rfl ?_
  cases (ownRatios book prices (useAutoGroup ctx info)).head? <;> simp

def ratioBook (maps : SupplierPricingMapsPayload) : PriceBook :=
  { PriceBook.suppliedBook maps with
    settings :=
      { PriceBook.sharedBook.settings with maps := fun rates => (rates.read PriceBook.priceCodec .asListed "").1 }
    selfUseModeEnabled := true }

/-- Members of `staff` use the group `default` at half its ratio. -/
def staffPrices : PriceTables :=
  { PriceBook.supplierTables with
    groupGroupRatio := fun userGroup usingGroup =>
      if userGroup = "staff" ∧ usingGroup = "default" then some (1 / 2) else none }

def videoInfo (userGroup : String) : RelayInfo := { PriceBook.suppliedInfo with userGroup }

theorem token_settlement_ratios_default :
    (handleGroupRatio ((ratioBook {}).priceTables staffPrices) {} (videoInfo "default")).1.groupRatio = 1 ∧
      inputModelRatio ((ratioBook {}).priceTables staffPrices) (videoInfo "default") = .ok 1 := by
  have used : tokenRatios (taskTables (ratioBook {}) staffPrices staffTables)
      ((staffTask 1 "default").submitted (useAutoGroup {} (videoInfo "default"))) = some (1, 1) := by
    decide +kernel
  exact (token_settlement_ratios_iff (ratioBook {}) staffPrices staffTables {} (videoInfo "default")
    (staffTask 1 "default") used).1.mpr (by decide +kernel)

/-- The task was priced with the supplier's ratio 2 and half the group's ratio, and is settled with 1 and 1. -/
theorem token_settlement_other_ratios :
    (handleGroupRatio ((ratioBook { modelRatio := [("gpt", 2)] }).priceTables staffPrices) {}
        (videoInfo "staff")).1.groupRatio = 1 / 2 ∧
      ((modelPriceHelper ((ratioBook { modelRatio := [("gpt", 2)] }).priceTables staffPrices) chatRequest.price {}
        (videoInfo "staff")).1.map fun data => (data.usePrice, data.modelRatio)) = .ok (false, 2) ∧
      tokenRatios (taskTables (ratioBook { modelRatio := [("gpt", 2)] }) staffPrices staffTables)
        ((staffTask 1 "default").submitted (videoInfo "staff")) = some (1, 1) := by
  decide +kernel

end TokenFactory.Quota
