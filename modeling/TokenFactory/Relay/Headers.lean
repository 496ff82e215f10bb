import TokenFactory.Relay.Attempts

namespace TokenFactory.Relay

open Data Go

/-! The header override across the attempts of one request. -/

theorem map_eq_map_cases {f : α → γ} {g : β → γ} {first : Except ε α} {second : Except ε β}
    (same : first.map f = second.map g) : (∃ error, first = .error error ∧ second = .error error) ∨
      ∃ one two, first = .ok one ∧ second = .ok two ∧ f one = g two := by
  cases first with
  | error error =>
    cases second with
    | error other =>
      cases same
      exact .inl ⟨error, rfl, rfl⟩
    | ok two => cases same
  | ok one =>
    cases second with
    | error other => cases same
    | ok two => exact .inr ⟨one, two, rfl, rfl, Except.ok.inj same⟩

section Handlers

variable (engine : Engine) {first second : Attempt} {one two : RelayInfo}
  (mapping : first.mapping = second.mapping) (body : first.converted = second.converted)
include mapping body

theorem override_headers_eq (same : one.overrideView = two.overrideView)
    (unset : one.useRuntimeHeadersOverride = false) (also : two.useRuntimeHeadersOverride = false) :
    (first.override engine one).map (getEffectiveHeaderOverride engine) =
      (second.override engine two).map (getEffectiveHeaderOverride engine) := by
  simp only [Attempt.override, mapping, body]
  cases second.mapping with
  | error error => rfl
  | ok mapped =>
    cases second.converted with
    | none => exact congrArg Except.ok (getEffectiveHeaderOverride_eq engine same unset also)
    | some converted =>
      rcases map_eq_map_cases (applyParamOverrideWithRelayInfo_eq engine same unset also converted) with
        ⟨error, done, other⟩ | ⟨result, result', done, other, headers⟩
      · simp only [done, other]
      · simp only [done, other]
        exact congrArg Except.ok headers

/-- Where the views agree and neither info carries runtime headers, both handlers
see the same headers, before and after the override. -/
theorem handle_headers_eq {ctx ctx' : Context} {info info' : RelayInfo}
    (same : (handle engine first ctx info).prepared.overrideView =
      (handle engine second ctx' info').prepared.overrideView)
    (unset : info.useRuntimeHeadersOverride = false) (also : info'.useRuntimeHeadersOverride = false) :
    getEffectiveHeaderOverride engine (handle engine first ctx info).prepared =
        getEffectiveHeaderOverride engine (handle engine second ctx' info').prepared ∧
      getEffectiveHeaderOverride engine (handle engine first ctx info).applied =
        getEffectiveHeaderOverride engine (handle engine second ctx' info').applied := by
  have unset := ((prepare_info first ctx info).2.2.2.2).trans unset
  have also := ((prepare_info second ctx' info').2.2.2.2).trans also
  have before := getEffectiveHeaderOverride_eq engine same unset also
  refine ⟨before, ?_⟩
  rcases map_eq_map_cases (override_headers_eq engine mapping body same unset also) with
    ⟨error, done, other⟩ | ⟨applied, applied', done, other, headers⟩
  · simp only [handle] at done other before ⊢
    rw [done, other]
    exact before
  · simp only [handle] at done other ⊢
    rw [done, other]
    exact headers

end Handlers

variable (engine : Engine) (settings : Settings) (request : Request)

/-- A round whose handler has no parameter override to apply. -/
def RelayState.PlainRound (state : RelayState) (round : Attempt) : Prop :=
  ∀ selected ∈ (state.arrive settings request round).toOption,
    selected.ctx.paramOverride = [] ∨ round.converted = none

instance (state : RelayState) (round : Attempt) : Decidable (state.PlainRound settings request round) :=
  inferInstanceAs (Decidable (∀ selected ∈ _, _))

def RelayState.NoRuntimeHeaders (state : RelayState) : Prop :=
  state.info.useRuntimeHeadersOverride = false

/-- The current attempts of two runs: the same request, the same configuration of
the channel, the same retry index and last error. -/
structure SameAttempt (first second : Attempt) (one two : Served) : Prop where
  mapping : first.mapping = second.mapping
  converted : first.converted = second.converted
  view : one.handled.prepared.overrideView = two.handled.prepared.overrideView

section Runs

variable {engine settings request} {state : RelayState} {round : Attempt}

theorem RelayState.step_preserves_noRuntimeHeaders (unset : state.NoRuntimeHeaders)
    (plain : state.PlainRound settings request round) :
    (state.step engine settings request round).NoRuntimeHeaders := by
  rcases RelayState.step_cases engine settings request state round with
    ⟨kept, _⟩ | ⟨selected, data, info, arrived, computed, kept, _⟩
  · exact kept.flag.trans unset
  · have reached := (RelayState.arrive_ok arrived).1
    have carried : info.useRuntimeHeadersOverride = false :=
      (reached.trans (resolveRelayPriceData_kept computed)).flag.trans unset
    refine kept.flag.trans ?_
    rcases handle_applied engine round selected.ctx info with same | ⟨applies, override, _⟩
    · rw [same, (prepare_info round selected.ctx info).2.2.2.2]
      exact carried
    · rcases plain selected (by rw [arrived]; rfl) with empty | absent
      · exact absurd empty override
      · rw [absent] at applies
        cases applies

theorem noRuntimeHeaders_of_plain {routing : Routing}
    {preConsumeBilling : Int → Option TokenFactoryError} {ctx : Context} {info : RelayInfo}
    {start : RelayState} {rounds : List Attempt}
    (started : RelayState.begin settings request routing preConsumeBilling ctx info = .ok start)
    (plain : Guarded (RelayState.step engine settings request)
      (RelayState.PlainRound settings request) start rounds) :
    (run (RelayState.step engine settings request) start rounds).NoRuntimeHeaders :=
  Guarded.invariant (fun _ _ => RelayState.step_preserves_noRuntimeHeaders)
    (RelayState.begin_ok started).2.1 plain

/-- A served attempt comes from its handler, which starts without runtime headers
where the state has none. -/
theorem RelayState.handled_of_serving {served : Served} (unset : state.NoRuntimeHeaders)
    (added : state.serving engine settings request round = some served) :
    ∃ info, info.useRuntimeHeadersOverride = false ∧
      served.handled = handle engine round served.ctx info := by
  obtain ⟨selected, data, info, arrived, computed, entry⟩ := RelayState.step_of_serving added
  have reached := (RelayState.arrive_ok arrived).1
  subst entry
  exact ⟨info, (reached.trans (resolveRelayPriceData_kept computed)).flag.trans unset, rfl⟩

/-- Two runs of a request, whatever channels they have tried, as long as none of
their earlier rounds had a parameter override to apply: attempts that are the same
see the same headers, before and after the override of their channel. -/
theorem header_override_independent {routing routing' : Routing}
    {preConsume preConsume' : Int → Option TokenFactoryError} {ctx ctx' : Context}
    {info info' : RelayInfo} {first second : RelayState} {earlier earlier' : List Attempt}
    {now now' : Attempt} {one two : Served}
    (started : RelayState.begin settings request routing preConsume ctx info = .ok first)
    (started' : RelayState.begin settings request routing' preConsume' ctx' info' = .ok second)
    (plain : Guarded (RelayState.step engine settings request)
      (RelayState.PlainRound settings request) first earlier)
    (plain' : Guarded (RelayState.step engine settings request)
      (RelayState.PlainRound settings request) second earlier')
    (served : (run (RelayState.step engine settings request) first earlier).serving
      engine settings request now = some one)
    (served' : (run (RelayState.step engine settings request) second earlier').serving
      engine settings request now' = some two) (same : SameAttempt now now' one two) :
    getEffectiveHeaderOverride engine one.handled.prepared =
        getEffectiveHeaderOverride engine two.handled.prepared ∧
      getEffectiveHeaderOverride engine one.handled.applied =
        getEffectiveHeaderOverride engine two.handled.applied := by
  obtain ⟨carried, unset, handled⟩ :=
    RelayState.handled_of_serving (noRuntimeHeaders_of_plain started plain) served
  obtain ⟨carried', unset', handled'⟩ :=
    RelayState.handled_of_serving (noRuntimeHeaders_of_plain started' plain') served'
  have view := same.view
  rw [handled, handled'] at view ⊢
  exact handle_headers_eq engine same.mapping same.converted view unset unset'

def teamHeader (team : String) : Fields := [("x-team", .string team)]

def temperature : Fields := [("temperature", .number 0)]

def retried (channel next : Channel) : Option Served :=
  (run (RelayState.step plainEngine oneRetry chatRequest) (startOn channel)
    [chatRound channel (some busy)]).serving plainEngine oneRetry chatRequest (chatRound next none)

theorem header_override_independent_retry : ∃ one two,
      retried (channelOf 1 [] (teamHeader "red")) (channelOf 2 temperature []) = some one ∧
      retried (channelOf 1 [] (teamHeader "blue")) (channelOf 2 temperature []) = some two ∧
      getEffectiveHeaderOverride plainEngine one.handled.prepared =
          getEffectiveHeaderOverride plainEngine two.handled.prepared ∧
        getEffectiveHeaderOverride plainEngine one.handled.applied =
          getEffectiveHeaderOverride plainEngine two.handled.applied := by
  have view : ∀ one ∈ retried (channelOf 1 [] (teamHeader "red")) (channelOf 2 temperature []),
      ∀ two ∈ retried (channelOf 1 [] (teamHeader "blue")) (channelOf 2 temperature []),
      one.handled.prepared.overrideView = two.handled.prepared.overrideView := by decide +kernel
  cases served : retried (channelOf 1 [] (teamHeader "red")) (channelOf 2 temperature []) with
  | none => exact absurd served (Option.isSome_iff_ne_none.mp (by decide +kernel))
  | some one =>
    cases served' : retried (channelOf 1 [] (teamHeader "blue")) (channelOf 2 temperature []) with
    | none => exact absurd served' (Option.isSome_iff_ne_none.mp (by decide +kernel))
    | some two =>
      exact ⟨one, two, rfl, rfl, header_override_independent
        (begin_startOn [] (teamHeader "red")) (begin_startOn [] (teamHeader "blue"))
        (by decide +kernel) (by decide +kernel) served served'
        ⟨rfl, rfl, view one served two served'⟩⟩

/-- With a parameter override on the first channel, its header override reaches the
second channel, which has none. -/
theorem header_override_reaches_next_channel :
    ∃ one ∈ retried (channelOf 1 temperature (teamHeader "red")) (channelOf 2 [] []),
      ∃ two ∈ retried (channelOf 1 temperature (teamHeader "blue")) (channelOf 2 [] []),
        one.handled.prepared.overrideView = two.handled.prepared.overrideView ∧
          getEffectiveHeaderOverride plainEngine one.handled.prepared = [("x-team", "red")] ∧
          getEffectiveHeaderOverride plainEngine two.handled.prepared = [("x-team", "blue")] := by
  decide +kernel

end Runs

end TokenFactory.Relay
