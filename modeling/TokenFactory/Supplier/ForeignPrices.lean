import TokenFactory.Options.Runs
import TokenFactory.Supplier.Isolation
import TokenFactory.Supplier.Pricing

namespace TokenFactory.Supplier

open Data Go Relay Options

/-! A supplier's prices stay with the supplier's channels. -/

/-- The maps from which the price or the ratio of a model is read. -/
def pricedRates : List Rates :=
  [.scale .modelPrice, .scale .modelRatio, .nested .channelModelPrice, .nested .channelModelRatio,
    .nested .supplierModelPrice, .nested .supplierModelRatio]

/-- What the channels of an application read has not changed. -/
structure PriceBook.Spares (application : Int) (before after : PriceBook) : Prop where
  catalogue : after.catalogue = before.catalogue
  selfUse : after.selfUseModeEnabled = before.selfUseModeEnabled
  supplierRows : ∀ model,
    after.supplierPricing.lookup (application, model) = before.supplierPricing.lookup (application, model)
  channelRows : ∀ channel model, after.supplierChannelPricing.lookup ((application, channel), model) =
    before.supplierChannelPricing.lookup ((application, channel), model)
  maps : ∀ rates ∈ pricedRates, after.settings.maps rates = before.settings.maps rates

section
variable {Owner : Type} [DecidableEq Owner] {owner other : Owner} {userID : Int}
  {maps : SupplierPricingMapsPayload} {table : PricingTable Owner} {model : String}

theorem upsertRow_other (apart : other ≠ owner) (rawName : String) :
    (upsertRow owner userID maps table rawName).lookup (other, model) = table.lookup (other, model) := by
  have different : ∀ name, (other, model) ≠ (owner, name) := fun name same => apart (Prod.mk.inj same).1
  unfold upsertRow
  dsimp only
  split
  · exact Table.lookup_restrict_other (different _)
  · split
    · exact Table.lookup_insert_other (different _)
    · exact Table.lookup_save_other (different _)

theorem upsertRows_other (apart : other ≠ owner) (names : List String) :
    (names.foldl (upsertRow owner userID maps) table).lookup (other, model) = table.lookup (other, model) := by
  induction names generalizing table with
  | nil => rfl
  | cons name rest induction =>
    rw [List.foldl_cons, induction]
    exact upsertRow_other apart name

theorem upsertPricingMaps_other {visit : Visit} {owned : List String} {failure : Option String}
    {after : PricingTable Owner} (apart : other ≠ owner)
    (stored : upsertPricingMaps owner userID visit maps owned failure table = .ok after) :
    after.lookup (other, model) = table.lookup (other, model) := by
  unfold upsertPricingMaps at stored
  dsimp only at stored
  split at stored
  · cases stored
  · split at stored
    · cases stored
    · cases stored
      exact upsertRows_other apart _

end

namespace PriceBook
variable {codec : Codec} {caller : Caller} {met : Circumstances} {book : PriceBook} {application : Int}

theorem Spares.refl (application : Int) (book : PriceBook) : Spares application book book :=
  ⟨rfl, rfl, fun _ => rfl, fun _ _ => rfl, fun _ _ => rfl⟩

theorem Spares.trans {middle after : PriceBook} (first : Spares application book middle)
    (second : Spares application middle after) : Spares application book after where
  catalogue := second.catalogue.trans first.catalogue
  selfUse := second.selfUse.trans first.selfUse
  supplierRows := fun model => (second.supplierRows model).trans (first.supplierRows model)
  channelRows := fun channel model => (second.channelRows channel model).trans (first.channelRows channel model)
  maps := fun rates priced => (second.maps rates priced).trans (first.maps rates priced)

/-- The application is none that the caller's prices are written for. -/
def ForeignTo (book : PriceBook) (caller : Caller) (application : Int) : Prop :=
  ∀ own, book.getApprovedSupplierApplicationByApplicant caller.id = some own → application ≠ own.id

theorem putSupplierGlobalPricing_cases (payload : Option SupplierPricingMapsPayload) :
    (book.putSupplierGlobalPricing caller met payload).2 = book ∨
      ∃ own maps owned table, book.getApprovedSupplierApplicationByApplicant caller.id = some own ∧
        upsertPricingMaps own.id caller.id met.visit maps owned met.pricingFailure book.supplierPricing = .ok table ∧
        (book.putSupplierGlobalPricing caller met payload).2 = { book with supplierPricing := table } := by
  unfold putSupplierGlobalPricing
  cases found : book.getApprovedSupplierApplicationByApplicant caller.id with
  | none => exact .inl rfl
  | some own =>
    cases payload with
    | none => exact .inl rfl
    | some maps =>
      dsimp only
      split
      · exact .inl rfl
      · split
        · exact .inl rfl
        · next stored => exact .inr ⟨own, maps, _, _, rfl, stored, rfl⟩

theorem putSupplierChannelPricing_cases (channelID : String) (payload : Option SupplierPricingMapsPayload) :
    (book.putSupplierChannelPricing caller met channelID payload).2 = book ∨
      ∃ own target maps owned table, book.getApprovedSupplierApplicationByApplicant caller.id = some own ∧
        upsertPricingMaps (own.id, target) caller.id met.visit maps owned met.pricingFailure
          book.supplierChannelPricing = .ok table ∧
        (book.putSupplierChannelPricing caller met channelID payload).2 =
          { book with supplierChannelPricing := table } := by
  unfold putSupplierChannelPricing
  split
  · exact .inl rfl
  · next target _ =>
      cases found : book.getApprovedSupplierApplicationByApplicant caller.id with
      | none => exact .inl rfl
      | some own =>
        dsimp only
        split
        · exact .inl rfl
        · split
          · exact .inl rfl
          · cases payload with
            | none => exact .inl rfl
            | some maps =>
              dsimp only
              split
              · exact .inl rfl
              · split
                · exact .inl rfl
                · next stored => exact .inr ⟨own, target, maps, _, _, rfl, stored, rfl⟩

theorem putSupplierGlobalPricing_spares {payload : Option SupplierPricingMapsPayload}
    (foreign : book.ForeignTo caller application) :
    Spares application book (book.putSupplierGlobalPricing caller met payload).2 := by
  obtain same | ⟨own, maps, owned, table, found, stored, after⟩ := putSupplierGlobalPricing_cases payload
  · rw [same]
    exact .refl application book
  · rw [after]
    exact ⟨rfl, rfl, fun _ => upsertPricingMaps_other (foreign own found) stored, fun _ _ => rfl, fun _ _ => rfl⟩

theorem putSupplierChannelPricing_spares {channelID : String} {payload : Option SupplierPricingMapsPayload}
    (foreign : book.ForeignTo caller application) :
    Spares application book (book.putSupplierChannelPricing caller met channelID payload).2 := by
  obtain same | ⟨own, target, maps, owned, table, found, stored, after⟩ :=
    putSupplierChannelPricing_cases channelID payload
  · rw [same]
    exact .refl application book
  · rw [after]
    refine ⟨rfl, rfl, fun _ => rfl, fun channel model => ?_, fun _ _ => rfl⟩
    have apart : (application, channel) ≠ (own.id, target) :=
      fun same => foreign own found (Prod.mk.inj same).1
    exact upsertPricingMaps_other apart stored

/-- The request does not change the platform's prices or ratios. -/
def sparesPlatform : PricingRequest → Bool
  | .updateOption (some (.option rates)) _ => rates ≠ .scale .modelPrice ∧ rates ≠ .scale .modelRatio
  | _ => true

theorem updateOption_spares {key : Option OptionKey} {value : Json}
    (supplier : caller.role < Auth.Role.adminUser)
    (spared : sparesPlatform (.updateOption key value) = true) :
    Spares application book (book.updateOption codec caller met key value).2 := by
  cases key with
  | none => exact .refl application book
  | some key =>
    refine ⟨rfl, rfl, fun _ => rfl, fun _ _ => rfl, fun rates priced => ?_⟩
    refine Options.Settings.supplier_keeps_map supplier fun named editable => ?_
    have same : key = .option rates := named
    subst same
    have others : rates ≠ .scale .modelPrice ∧ rates ≠ .scale .modelRatio := of_decide_eq_true spared
    simp only [pricedRates, supplierEditableModelOptionKeys, List.mem_cons, List.not_mem_nil, or_false]
      at priced editable
    rcases priced with rfl | rfl | rfl | rfl | rfl | rfl
    · exact others.1 rfl
    · exact others.2 rfl
    all_goals simp at editable

theorem handlePricing_spares {request : PricingRequest} (supplier : caller.role < Auth.Role.adminUser)
    (foreign : book.ForeignTo caller application) (spared : sparesPlatform request = true) :
    Spares application book (book.handlePricing codec caller met request).2 := by
  cases request with
  | updateOption key value =>
    unfold handlePricing
    dsimp only
    split
    · exact .refl application book
    · exact updateOption_spares supplier spared
  | putSupplierGlobalPricing payload => exact putSupplierGlobalPricing_spares foreign
  | putSupplierChannelPricing channelID payload => exact putSupplierChannelPricing_spares foreign

section
variable {before after : PriceBook} (spared : Spares application before after)
include spared

theorem Spares.foreignTo (foreign : before.ForeignTo caller application) :
    after.ForeignTo caller application := by
  unfold ForeignTo getApprovedSupplierApplicationByApplicant at *
  rw [spared.catalogue]
  exact foreign

theorem Spares.rows (channelID : Int) (model : String) :
    after.supplierRows channelID application model = before.supplierRows channelID application model := by
  unfold PriceBook.supplierRows getSupplierChannelModelPricingRow getSupplierModelPricingRow
  rw [spared.channelRows, spared.supplierRows]

theorem Spares.scopedValue {table : Nested} (priced : .nested table ∈ pricedRates) (id : Int) (model : String) :
    after.getScopedValue table id model = before.getScopedValue table id model := by
  unfold getScopedValue
  rw [spared.maps (.nested table) priced]

theorem Spares.modelPrice (model : String) : after.getModelPrice model = before.getModelPrice model := by
  unfold getModelPrice
  rw [spared.maps (.scale .modelPrice) (by decide)]

theorem Spares.modelRatio (model : String) : after.getModelRatio model = before.getModelRatio model := by
  unfold getModelRatio
  rw [spared.maps (.scale .modelRatio) (by decide), spared.selfUse]

theorem Spares.fixedModelPrice (channelID : Int) (model : String) :
    after.resolveSupplierScopedFixedModelPrice channelID application model =
      before.resolveSupplierScopedFixedModelPrice channelID application model := by
  unfold resolveSupplierScopedFixedModelPrice
  dsimp only
  rw [spared.rows, spared.scopedValue (by decide), spared.modelPrice, spared.scopedValue (by decide)]

theorem Spares.scopedModelRatio (channelID : Int) (model : String) :
    after.resolveSupplierScopedModelRatio channelID application model =
      before.resolveSupplierScopedModelRatio channelID application model := by
  unfold resolveSupplierScopedModelRatio
  dsimp only
  rw [spared.rows, spared.scopedValue (by decide), spared.modelRatio, spared.scopedValue (by decide)]

end

variable {start : PriceBook} {events : List (Circumstances × PricingRequest)}

theorem run_spares (supplier : caller.role < Auth.Role.adminUser) (foreign : start.ForeignTo caller application)
    (guarded : Guarded (step codec caller) (fun _ event => sparesPlatform event.2 = true) start events) :
    Spares application start (run (step codec caller) start events) := by
  have preserved : ∀ book event, Spares application start book → sparesPlatform event.2 = true →
      Spares application start (step codec caller book event) := by
    intro book event spared kept
    exact spared.trans (handlePricing_spares supplier (spared.foreignTo foreign) kept)
  exact Guarded.invariant preserved (.refl application start) guarded

/-- A supplier who leaves the platform's prices and ratios alone changes no price and no ratio of a
channel that does not carry their application, whoever owns it. -/
theorem supplier_prices_stay_own (supplier : caller.role < Auth.Role.adminUser)
    (guarded : Guarded (step codec caller) (fun _ event => sparesPlatform event.2 = true) start events)
    {channel : Channel} (foreign : start.ForeignTo caller channel.supplierApplicationID) (model : String) :
    let final := run (step codec caller) start events
    final.resolveSupplierScopedFixedModelPrice channel.id channel.supplierApplicationID model =
        start.resolveSupplierScopedFixedModelPrice channel.id channel.supplierApplicationID model ∧
      final.resolveSupplierScopedModelRatio channel.id channel.supplierApplicationID model =
        start.resolveSupplierScopedModelRatio channel.id channel.supplierApplicationID model := by
  have spared := run_spares supplier foreign guarded
  exact ⟨spared.fixedModelPrice channel.id model, spared.scopedModelRatio channel.id model⟩

def priceOne : String := "\x7b\"gpt\":1\x7d"

def priceFive : String := "\x7b\"gpt\":5\x7d"

def priceCodec : Codec :=
  { demoCodec with
    messages := fun text =>
      if text = priceOne then .ok [("gpt", "1")] else if text = priceFive then .ok [("gpt", "5")]
      else .error "unexpected end of JSON input"
    float := fun text =>
      if text = "1" then .ok 1 else if text = "5" then .ok 5 else .error "unexpected end of JSON input"
    fields := fun text =>
      if text = priceOne then .ok (some [("gpt", .number 1)])
      else if text = priceFive then .ok (some [("gpt", .number 5)])
      else .error "unexpected end of JSON input"
    marshal := fun fields => if fields = some [("gpt", .number 5)] then priceFive else "null"
    messages_of_floats := by
      intro _ decoded
      cases decoded }

def platformPrice : OptionKey → String
  | .option (.scale .modelPrice) => priceOne
  | _ => ""

def sharedBook : PriceBook where
  catalogue := Catalogue.twoSuppliers
  supplierID := fun _ => 0
  supplierModels := []
  supplierPricing := Table.empty
  supplierChannelPricing := Table.empty
  settings := {
    rows := fun key => if platformPrice key = "" then none else some (platformPrice key)
    optionMap := platformPrice
    maps := fun rates => (rates.read priceCodec .asListed (platformPrice (.option rates))).1
    attached := fun _ => true }
  selfUseModeEnabled := false

def undisturbed : Circumstances where
  visit := .asListed
  check := .asListed
  load := .asListed
  scopeFailure := none
  pricingFailure := none
  write := .saved

def ownPrices : List (Circumstances × PricingRequest) :=
  [(undisturbed, .putSupplierGlobalPricing (some { modelPrice := [("gpt", 3)] })),
    (undisturbed, .putSupplierChannelPricing "1" (some { modelPrice := [("gpt", 4)] })),
    (undisturbed, .updateOption (some (.option (.scale .imagePrice))) (.string priceFive))]

theorem supplier_prices_stay_own_shared :
    let final := run (step priceCodec Catalogue.supplierSeven) sharedBook ownPrices
    final.resolveSupplierScopedFixedModelPrice 1 7 "gpt" = (4, true) ∧
      final.resolveSupplierScopedFixedModelPrice 2 8 "gpt" = (1, true) := by
  have foreign : sharedBook.ForeignTo Catalogue.supplierSeven 8 := by
    intro own found
    have held : sharedBook.getApprovedSupplierApplicationByApplicant 7 = some ⟨7, 7, true, "AIDC"⟩ := by
      decide +kernel
    cases held.symm.trans found
    decide
  have kept := @supplier_prices_stay_own priceCodec Catalogue.supplierSeven sharedBook ownPrices (by decide)
    (by decide +kernel) (Catalogue.channelOwnedBy 2 8) foreign "gpt"
  exact ⟨by decide +kernel, kept.1.trans (by decide +kernel)⟩

/-- The supplier's price of the platform's option is the price on the other supplier's channel. -/
theorem supplier_prices_reach_others :
    let final := run (step priceCodec Catalogue.supplierSeven) sharedBook
      [(undisturbed, .updateOption (some (.option (.scale .modelPrice))) (.string priceFive))]
    sharedBook.resolveSupplierScopedFixedModelPrice 2 8 "gpt" = (1, true) ∧
      final.resolveSupplierScopedFixedModelPrice 2 8 "gpt" = (5, true) := by
  decide +kernel

end PriceBook

end TokenFactory.Supplier
