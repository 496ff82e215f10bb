import TokenFactory.Data.Rank
import TokenFactory.Distributor.Channels

namespace TokenFactory.Distributor

open Data Go Relay

/-! The random choice among the cached channels: which priority a retry reaches, and how
the draws are shared among the channels of that priority. -/

section
variable {Item : Type} (weight : Item → Nat)

theorem drawWeighted_cons (item : Item) (rest : List Item) (left : Nat) :
    drawWeighted (fun item => (weight item : Int)) (· < 0) left (item :: rest) =
      if left < weight item then some item
      else drawWeighted (fun item => (weight item : Int)) (· < 0) ((left - weight item : Nat) : Int) rest := by
  rw [drawWeighted]
  by_cases less : left < weight item
  · have negative : (left : Int) - weight item < 0 := by omega
    simp [less, negative]
  · have positive : ¬ (left : Int) - weight item < 0 := by omega
    have same : (left : Int) - weight item = ((left - weight item : Nat) : Int) := by omega
    rw [if_neg (by simpa using positive), if_neg less, same]

variable {items : List Item}

theorem drawWeighted_isSome {stops : Int → Bool} (negative : ∀ left < 0, stops left = true)
    {left : Int} (start : 0 ≤ left) (below : left < ((items.map weight).sum : Nat)) :
    (drawWeighted (fun item => (weight item : Int)) stops left items).isSome = true := by
  induction items generalizing left with
  | nil =>
    rw [List.map_nil, List.sum_nil] at below
    omega
  | cons item rest ih =>
    rw [drawWeighted]
    split
    case isTrue stopped => rfl
    case isFalse further =>
      rw [List.map_cons, List.sum_cons] at below
      have kept : 0 ≤ left - weight item := by
        by_contra less
        exact further (negative _ (by omega))
      exact ih kept (by omega)

theorem drawWeighted_count [DecidableEq Item] (items : List Item) (item : Item) :
    Nat.count (fun left : Nat => drawWeighted (fun item => (weight item : Int)) (· < 0) left items = some item)
      (items.map weight).sum = items.count item * weight item := by
  induction items with
  | nil => simp
  | cons first rest ih =>
    rw [List.map_cons, List.sum_cons, Nat.count_add]
    have tail : Nat.count (fun left : Nat => drawWeighted (fun item => (weight item : Int)) (· < 0)
          ((weight first + left : Nat) : Int) (first :: rest) = some item) (rest.map weight).sum =
        rest.count item * weight item := by
      rw [← ih]
      congr 1
      funext left
      rw [drawWeighted_cons, if_neg (by omega), Nat.add_sub_cancel_left]
    rw [tail, List.count_cons]
    by_cases same : first = item
    · subst same
      have all : ∀ left < weight first, drawWeighted (fun item => (weight item : Int)) (· < 0) (left : Nat)
          (first :: rest) = some first := by
        intro left below
        rw [drawWeighted_cons, if_pos below]
      rw [Nat.count_of_forall all]
      simp only [beq_self_eq_true, ↓reduceIte]
      ring
    · have passed : ∀ left < weight first, ¬ drawWeighted (fun item => (weight item : Int)) (· < 0) (left : Nat)
          (first :: rest) = some item := by
        intro left below
        rw [drawWeighted_cons, if_pos below]
        simpa using same
      rw [Nat.count_of_forall_not passed]
      simp [same]

/-- Stopping at zero already is one draw behind. -/
theorem drawWeighted_succ (items : List Item) (left : Int) :
    drawWeighted (fun item => (weight item : Int)) (· ≤ 0) (left + 1) items =
      drawWeighted (fun item => (weight item : Int)) (· < 0) left items := by
  induction items generalizing left with
  | nil => rfl
  | cons item rest ih =>
    have shifted : left + 1 - weight item = left - weight item + 1 := by ring
    rw [drawWeighted, drawWeighted, shifted, ih]
    simp only [Int.add_one_le_iff]

theorem drawWeighted_last (positive : ∀ item, 0 < weight item) {left : Nat}
    (last : left + 1 = (items.map weight).sum) :
    drawWeighted (fun item => (weight item : Int)) (· < 0) left items = items.getLast? := by
  induction items generalizing left with
  | nil => simp at last
  | cons item rest ih =>
    rw [List.map_cons, List.sum_cons] at last
    rw [drawWeighted_cons]
    cases rest with
    | nil =>
      rw [List.map_nil, List.sum_nil] at last
      rw [if_pos (by omega)]
      rfl
    | cons next others =>
      have := positive next
      rw [List.map_cons, List.sum_cons] at last
      rw [if_neg (by omega), ih (by rw [List.map_cons, List.sum_cons]; omega), List.getLast?_cons_cons]

/-- The first item has one draw too many and the last one too few. -/
theorem drawWeighted_count_le [DecidableEq Item] (positive : ∀ item, 0 < weight item)
    (nonempty : items ≠ []) (item : Item) :
    Nat.count (fun left : Nat => drawWeighted (fun item => (weight item : Int)) (· ≤ 0) left items = some item)
        (items.map weight).sum + (if items.getLast? = some item then 1 else 0) =
      items.count item * weight item + (if items.head? = some item then 1 else 0) := by
  obtain ⟨first, rest, rfl⟩ := List.exists_cons_of_ne_nil nonempty
  obtain ⟨total, sum⟩ : ∃ total, total + 1 = ((first :: rest).map weight).sum :=
    ⟨_, Nat.sub_add_cancel (by rw [List.map_cons, List.sum_cons]; have := positive first; omega)⟩
  have start : drawWeighted (fun item => (weight item : Int)) (· ≤ 0) ((0 : Nat) : Int) (first :: rest) =
      some first := by
    simp [drawWeighted]
  rw [← drawWeighted_count, ← sum, Nat.count_succ', Nat.count_succ, drawWeighted_last weight positive sum, start]
  simp only [Nat.cast_add, Nat.cast_one, drawWeighted_succ, List.head?_cons]
  by_cases begins : first = item
  · simp only [begins, ↓reduceIte]
    omega
  · simp only [Option.some.injEq, begins, ↓reduceIte, add_zero]

end

theorem priorityAt_hasRank {priorities : List Int} (nonempty : priorities ≠ []) (retry : Nat) :
    ∃ priority, priorityAt priorities retry = .some priority ∧
      HasRank priorities (min retry (priorities.toFinset.card - 1)) priority := by
  have positive : 0 < (ranked priorities).length := by
    rw [length_ranked, Finset.card_pos, List.toFinset_nonempty_iff]
    exact nonempty
  have inside : min retry ((ranked priorities).length - 1) < (ranked priorities).length := by omega
  have found : (ranked priorities)[min retry ((ranked priorities).length - 1)]? =
      .some (ranked priorities)[min retry ((ranked priorities).length - 1)] := List.getElem?_eq_getElem inside
  refine ⟨_, found, ?_⟩
  rw [← length_ranked]
  exact hasRank_ranked found

/-- Factor and adjustment of the weights: equal shares if no channel has a weight, and
small weights are scaled up. -/
def smoothing (targets : List Channel) : Nat × Nat :=
  if ∀ channel ∈ targets, channel.weight = 0 then (1, 100)
  else if (targets.map Channel.weight).sum / targets.length < 10 then (100, 0)
  else (1, 0)

def share (targets : List Channel) (channel : Channel) : Nat :=
  channel.weight * (smoothing targets).1 + (smoothing targets).2

def totalWeight (targets : List Channel) : Nat := (targets.map (share targets)).sum

variable {targets : List Channel}

theorem sum_weight_eq_zero :
    (targets.map Channel.weight).sum = 0 ↔ ∀ channel ∈ targets, channel.weight = 0 := by
  simp [List.sum_eq_zero_iff]

theorem totalWeight_eq (targets : List Channel) : totalWeight targets =
      (targets.map Channel.weight).sum * (smoothing targets).1 + targets.length * (smoothing targets).2 := by
  unfold totalWeight share
  rw [List.sum_map_add, List.sum_map_mul_right, List.map_const', List.sum_replicate, smul_eq_mul]

theorem totalWeight_pos (nonempty : targets ≠ []) : 0 < totalWeight targets := by
  rw [totalWeight_eq]
  have several : 0 < targets.length := List.length_pos_iff.mpr nonempty
  unfold smoothing
  split
  · omega
  case isFalse weighted =>
    have heavy : 0 < (targets.map Channel.weight).sum :=
      Nat.pos_of_ne_zero fun zero => weighted (sum_weight_eq_zero.mp zero)
    split <;> simpa using heavy

theorem drawChannel_eq (draw : Nat → Nat) (targets : List Channel) :
    ChannelStore.drawChannel draw targets =
      drawWeighted (fun channel => (share targets channel : Int)) (· < 0) (draw (totalWeight targets)) targets := by
  rw [totalWeight_eq]
  unfold ChannelStore.drawChannel share smoothing
  by_cases weightless : ∀ channel ∈ targets, channel.weight = 0
  · have zero := sum_weight_eq_zero.mpr weightless
    simp [zero, if_pos weightless]
  · have heavy : (targets.map Channel.weight).sum ≠ 0 := fun zero => weightless (sum_weight_eq_zero.mp zero)
    by_cases small : (targets.map Channel.weight).sum / targets.length < 10
    · simp [heavy, weightless, small]
    · simp [heavy, weightless, small]

theorem drawChannel_below (draw : Nat → Nat)
    (below : draw (totalWeight targets) < totalWeight targets) :
    ∃ channel ∈ targets, ChannelStore.drawChannel draw targets = some channel := by
  rw [drawChannel_eq]
  have negative : ∀ left < 0, decide (left < (0 : Int)) = true := by simp
  have found := drawWeighted_isSome (share targets) negative
    (Int.natCast_nonneg (draw (totalWeight targets))) (Int.ofNat_lt.mpr below)
  obtain ⟨channel, drawn⟩ := Option.isSome_iff_exists.mp found
  exact ⟨channel, drawWeighted_mem drawn, drawn⟩

namespace ChannelStore

variable {store : ChannelStore} {group model : String} {candidates : List Channel}

theorem cachedChannels_length {ids : List Int} (listed : store.cachedChannels ids = .ok candidates) :
    candidates.length = ids.length :=
  (cachedChannels_found listed).length_eq.symm

/-- With several candidates, the channels of the priority of the retry are drawn from by
their shares. -/
theorem getRandomSatisfiedChannel_drawn (cache : store.memoryCacheEnabled = true)
    (listed : store.cachedChannels (store.idsForGroupModel group model) = .ok candidates)
    (several : 2 ≤ candidates.length) (retry : Nat) :
    ∃ priority, HasRank (candidates.map Channel.priority)
        (min retry ((candidates.map Channel.priority).toFinset.card - 1)) priority ∧
      (candidates.filter fun channel => channel.priority = priority) ≠ [] ∧
      ∀ draw channel, drawChannel draw (candidates.filter fun channel => channel.priority = priority) =
          some channel →
        store.getRandomSatisfiedChannel draw group model retry = .ok (some channel) := by
  have nonempty : candidates.map Channel.priority ≠ [] := by
    intro empty
    rw [List.map_eq_nil_iff] at empty
    rw [empty] at several
    cases several
  obtain ⟨priority, reached, rank⟩ := priorityAt_hasRank nonempty retry
  obtain ⟨channel, among, same⟩ := List.mem_map.mp rank.1
  have targets : (candidates.filter fun channel => channel.priority = priority) ≠ [] :=
    List.ne_nil_of_mem (List.mem_filter.mpr ⟨among, by simpa using same⟩)
  refine ⟨priority, rank, targets, fun draw drawn picked => ?_⟩
  unfold getRandomSatisfiedChannel
  rw [if_pos cache]
  have length := cachedChannels_length listed
  cases ids : store.idsForGroupModel group model with
  | nil =>
    rw [ids, List.length_nil] at length
    omega
  | cons first others =>
    cases others with
    | nil =>
      rw [ids, List.length_singleton] at length
      omega
    | cons second rest =>
      rw [ids] at listed
      unfold drawFromCache
      dsimp only
      rw [listed]
      dsimp only
      rw [reached, Option.getD_some, if_neg targets, picked]

/-- The draws below the total are shared among the channels of the priority that the retry
reaches, each by its weight; no draw fails. -/
theorem weighted_selection_exact (cache : store.memoryCacheEnabled = true)
    (listed : store.cachedChannels (store.idsForGroupModel group model) = .ok candidates)
    (several : 2 ≤ candidates.length) (retry : Nat) :
    ∃ priority, HasRank (candidates.map Channel.priority)
        (min retry ((candidates.map Channel.priority).toFinset.card - 1)) priority ∧
      let targets := candidates.filter fun channel => channel.priority = priority
      0 < totalWeight targets ∧
      (∀ draw : Nat → Nat, draw (totalWeight targets) < totalWeight targets → ∃ channel ∈ targets,
        store.getRandomSatisfiedChannel draw group model retry = .ok (some channel)) ∧
      ∀ channel ∈ targets,
        Nat.count (fun value => store.getRandomSatisfiedChannel (fun _ => value) group model retry =
          .ok (some channel)) (totalWeight targets) =
        targets.count channel * (channel.weight * (smoothing targets).1 + (smoothing targets).2) := by
  obtain ⟨priority, rank, nonempty, selects⟩ := getRandomSatisfiedChannel_drawn cache listed several retry
  refine ⟨priority, rank, totalWeight_pos nonempty, fun draw below => ?_, fun channel member => ?_⟩
  · obtain ⟨channel, member, drawn⟩ := drawChannel_below draw below
    exact ⟨channel, member, selects draw channel drawn⟩
  · generalize (candidates.filter fun channel => channel.priority = priority) = targets at selects member
    have drawnAs (value : Nat) (below : value < totalWeight targets) :
        store.getRandomSatisfiedChannel (fun _ => value) group model retry = .ok (some channel) ↔
          drawWeighted (fun channel => (share targets channel : Int)) (· < 0) value targets = some channel := by
      obtain ⟨chosen, _, drawn⟩ := drawChannel_below (fun _ => value) below
      rw [selects _ chosen drawn]
      rw [drawChannel_eq] at drawn
      rw [drawn]
      simp
    have shared := drawWeighted_count (share targets) targets channel
    rw [Nat.count_eq_card_filter_range] at shared ⊢
    rw [Finset.filter_congr fun value inside => drawnAs value (Finset.mem_range.mp inside)]
    exact shared

/-- The abilities that `GetChannel` draws from. -/
def targetAbilities (store : ChannelStore) (group model : String) (retry : Nat) : List Ability :=
  let enabled := store.abilities.filter fun ability =>
    ability.group = group ∧ ability.model = model ∧ ability.enabled
  match priorityAt (enabled.map Ability.priority) retry with
  | none => []
  | some priority =>
    (enabled.filter fun ability => ability.priority = priority).insertionSort
      fun first second => first.weight ≥ second.weight

def drawAbility (draw : Nat → Nat) (targets : List Ability) : Option Ability :=
  drawWeighted (fun ability : Ability => (ability.weight + 10 : Nat)) (· ≤ 0)
    (draw (targets.map fun ability => ability.weight + 10).sum) targets

theorem getChannel_drawn (nonempty : store.targetAbilities group model retry ≠ []) (draw : Nat → Nat) :
    store.getChannel draw group model retry =
      match (drawAbility draw (store.targetAbilities group model retry)).bind
        fun ability => store.channels.lookup ability.channelId with
      | none => .error "record not found"
      | some channel => .ok (some channel) := by
  unfold targetAbilities at nonempty ⊢
  unfold getChannel drawAbility
  dsimp only at nonempty ⊢
  cases reached : priorityAt _ retry with
  | none => simp only [reached, ne_eq, not_true_eq_false] at nonempty
  | some priority =>
    dsimp only
    cases drawWeighted _ _ _ _ with
    | none => rfl
    | some ability => cases found : store.channels.lookup ability.channelId <;> simp only [Option.bind_some, found]

/-- Without the cache, every ability has its share of the draws if and only if the first one is the last one. -/
theorem database_selection_iff (cache : store.memoryCacheEnabled = false) (group model : String) (retry : Nat)
    (nonempty : store.targetAbilities group model retry ≠ []) :
    let targets := store.targetAbilities group model retry
    (∀ draw, store.getRandomSatisfiedChannel draw group model retry =
      match (drawAbility draw targets).bind fun ability => store.channels.lookup ability.channelId with
      | none => .error "record not found"
      | some channel => .ok (some channel)) ∧
    ((∀ ability ∈ targets, Nat.count (fun value => drawAbility (fun _ => value) targets = some ability)
        (targets.map fun ability => ability.weight + 10).sum = targets.count ability * (ability.weight + 10)) ↔
      targets.head? = targets.getLast?) := by
  intro targets
  refine ⟨fun draw => ?_, ?_⟩
  · rw [getRandomSatisfiedChannel, if_neg (by simp [cache])]
    exact getChannel_drawn nonempty draw
  have counts := drawWeighted_count_le (fun ability : Ability => ability.weight + 10) (fun _ => by omega) nonempty
  constructor
  · intro shares
    obtain ⟨first, rest, split⟩ := List.exists_cons_of_ne_nil nonempty
    have count := counts first
    have share := shares first (by simp only [targets, split]; exact .head _)
    unfold drawAbility at share
    rw [share] at count
    simp only [targets, split, List.head?_cons] at count ⊢
    by_contra differs
    simp [Ne.symm differs] at count
  · intro same ability _
    have count := counts ability
    rw [← same] at count
    exact Nat.add_right_cancel count

def weighed (id priority : Int) (weight : Nat) : Channel where
  id
  type := 1
  name := "upstream"
  enabled := true
  createdTime := 0
  organization := ""
  other := ""
  baseUrl := ""
  isMultiKey := false
  supplierApplicationId := 0
  paramOverride := []
  headerOverride := []
  priority
  weight

def threeChannels : ChannelStore where
  memoryCacheEnabled := true
  channels := ⟨[weighed 1 5 3, weighed 2 5 1, weighed 3 0 7], by decide⟩
  abilities := []
  suppliers := []
  channelsIDM := ⟨[weighed 1 5 3, weighed 2 5 1, weighed 3 0 7], by decide⟩
  group2model2channels := [(("default", "gpt"), [1, 2, 3])]
  stored := by decide
  cached := by decide
  able := by decide
  listed := by decide

/-- Of the 400 draws of the first attempt, 300 give the channel with three quarters of the
weight. -/
theorem weighted_selection_exact_threeChannels :
    Nat.count (fun value => threeChannels.getRandomSatisfiedChannel (fun _ => value) "default" "gpt" 0 =
      .ok (some (weighed 1 5 3))) 400 = 300 := by
  have listed : threeChannels.cachedChannels (threeChannels.idsForGroupModel "default" "gpt") =
      .ok [weighed 1 5 3, weighed 2 5 1, weighed 3 0 7] := by rfl
  obtain ⟨priority, rank, _, _, shares⟩ := weighted_selection_exact rfl listed (by decide) 0
  have highest : priority = 5 := rank.unique ⟨by decide, by decide⟩
  subst highest
  exact shares (weighed 1 5 3) (by decide)

def uncachedChannels : ChannelStore :=
  { threeChannels with
    memoryCacheEnabled := false
    abilities := [⟨"default", "gpt", 1, true, 0, 0⟩, ⟨"default", "gpt", 2, true, 0, 0⟩, ⟨"vip", "gpt", 3, true, 0, 7⟩]
    able := by decide }

theorem single_ability_drawn :
    Nat.count (fun value => drawAbility (fun _ => value) (uncachedChannels.targetAbilities "vip" "gpt" 0) =
      some ⟨"vip", "gpt", 3, true, 0, 7⟩) 17 = 17 :=
  (database_selection_iff rfl "vip" "gpt" 0 (by decide)).2.mpr (by decide) ⟨"vip", "gpt", 3, true, 0, 7⟩ (by decide)

/-- Of 20 draws, 11 give the first channel and 9 the second one, which has the same weight. -/
theorem first_ability_drawn_more_often :
    Nat.count (fun value => uncachedChannels.getRandomSatisfiedChannel (fun _ => value) "default" "gpt" 0 =
        .ok (some (weighed 1 5 3))) 20 = 11 ∧
      Nat.count (fun value => uncachedChannels.getRandomSatisfiedChannel (fun _ => value) "default" "gpt" 0 =
        .ok (some (weighed 2 5 1))) 20 = 9 := by
  decide +kernel

end ChannelStore

end TokenFactory.Distributor
