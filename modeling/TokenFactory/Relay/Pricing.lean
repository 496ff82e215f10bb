import TokenFactory.Relay.Attempts

namespace TokenFactory.Relay

open Data

/-! The price in force while an attempt runs. -/

variable (engine : Engine) (settings : Settings) (request : Request)

/-- The `ChannelMeta` names the channel of the context. Images are also priced by
the upstream model name, which a mapping may have changed. -/
def MetaCurrent (ctx : Context) (info : RelayInfo) : Prop :=
  info.channelId = ctx.channelId ∧
    (info.relayMode.isImages → info.channelMeta.map ChannelMeta.upstreamModelName = some ctx.originalModel)

instance (ctx : Context) (info : RelayInfo) : Decidable (MetaCurrent ctx info) :=
  inferInstanceAs (Decidable (_ ∧ _))

/-- If this round computes a price, it does so from a current `ChannelMeta`. -/
def RelayState.PricedCurrent (state : RelayState) (round : Attempt) : Prop :=
  ∀ selected ∈ (state.arrive settings request round).toOption, MetaCurrent selected.ctx selected.info

instance (state : RelayState) (round : Attempt) : Decidable (state.PricedCurrent settings request round) :=
  inferInstanceAs (Decidable (∀ selected ∈ _, _))

/-- The price of a served round is the one that is computed for the channel its
handler uses. -/
def Served.PricedForChannel (served : Served) : Prop :=
  (resolveRelayPriceData settings.tables request.price served.ctx
    (served.pricedFrom.initChannelMeta served.ctx)).1 = .ok served.price

theorem MetaCurrent.pricedAlike {ctx : Context} {info : RelayInfo} (current : MetaCurrent ctx info)
    (tables : PriceTables) : PricedAlike tables info (info.initChannelMeta ctx) where
  userId := rfl
  userGroup := rfl
  usingGroup := rfl
  originModelName := rfl
  accept := rfl
  relayMode := rfl
  channelId := current.1
  names image := by
    have named := current.2 image
    obtain ⟨channelMeta, held, upstream⟩ := Option.map_eq_some_iff.mp named
    simp only [imageModelNameCandidatesFromInfo, held, RelayInfo.initChannelMeta, upstream]
    rfl

instance (served : Served) : Decidable (served.PricedForChannel settings request) :=
  inferInstanceAs (Decidable (_ = _))

def RelayState.PricedForChannels (state : RelayState) : Prop :=
  ∀ served ∈ state.served, served.PricedForChannel settings request

section Runs

variable {engine settings request} {state start : RelayState} {round : Attempt}
  {routing : Routing} {preConsumeBilling : Int → Option TokenFactoryError} {ctx : Context} {info : RelayInfo}

theorem RelayState.step_preserves_pricedForChannels
    (priced : state.PricedForChannels settings request)
    (current : state.PricedCurrent settings request round) :
    (state.step engine settings request round).PricedForChannels settings request := by
  rcases RelayState.step_cases engine settings request state round with
    ⟨_, unserved⟩ | ⟨selected, data, info, arrived, computed, _, added⟩
  · rw [PricedForChannels, unserved]
    exact priced
  · rw [PricedForChannels, added]
    intro served member
    rcases List.mem_cons.mp member with rfl | earlier
    · have agrees : MetaCurrent selected.ctx selected.info := by
        refine current selected ?_
        rw [arrived]
        rfl
      have answer : (resolveRelayPriceData settings.tables request.price selected.ctx selected.info).1 =
          .ok data := by rw [computed]
      have held : info.priceData = data := by
        have stored := resolveRelayPriceData_ok answer
        rwa [computed] at stored
      rw [Served.PricedForChannel, held, ← answer]
      exact (resolveRelayPriceData_alike (agrees.pricedAlike settings.tables)).symm
    · exact priced served earlier

/-- In every relayed request whose rounds are all priced from a current
`ChannelMeta`, each attempt runs at the price of the channel it uses. -/
theorem price_of_used_channel {rounds : List Attempt}
    (started : RelayState.begin settings request routing preConsumeBilling ctx info = .ok start)
    (current : Guarded (RelayState.step engine settings request)
      (RelayState.PricedCurrent settings request) start rounds) :
    ∀ served ∈ (run (RelayState.step engine settings request) start rounds).served,
      served.PricedForChannel settings request := by
  have initial : start.PricedForChannels settings request := by
    rw [RelayState.PricedForChannels, (RelayState.begin_ok started).2.2]
    exact fun served member => absurd member List.not_mem_nil
  exact Guarded.invariant (fun _ _ => RelayState.step_preserves_pricedForChannels) initial current

def servedRounds (rounds : List Attempt) : List Served :=
  (run (RelayState.step plainEngine oneRetry chatRequest) (startOn (channelOf 1 [] [])) rounds).served

theorem price_of_used_channel_same_channel :
    (servedRounds [chatRound (channelOf 1 [] []) (some busy),
      chatRound (channelOf 1 [] []) none]).length = 2 ∧
    ∀ served ∈ servedRounds [chatRound (channelOf 1 [] []) (some busy), chatRound (channelOf 1 [] []) none],
      served.PricedForChannel oneRetry chatRequest :=
  ⟨by decide +kernel, price_of_used_channel (begin_startOn [] []) (by decide +kernel)⟩

/-- A retry on the second channel runs at the discount of the first one. -/
theorem retry_keeps_price_of_first_channel :
    ∃ served ∈ servedRounds [chatRound (channelOf 1 [] []) (some busy), chatRound (channelOf 2 [] []) none],
      served.ctx.channelId = 2 ∧ served.price.costDiscountPercent = 100 ∧
        ¬ served.PricedForChannel oneRetry chatRequest := by
  decide +kernel

end Runs

end TokenFactory.Relay
