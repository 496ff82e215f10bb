import TokenFactory.Distributor.MultiKey
import TokenFactory.Distributor.Rotation

namespace TokenFactory.Distributor

open Data

/-! A key is disabled while requests use the channel, without the memory cache. -/

/-- A request. `seen` says whether the status call had saved its row when the request loaded its own. -/
inductive KeyRequest where
  | waiting (draw : Nat)
  | loaded (draw : Nat) (copy : ChannelRow) (seen : Bool)
  | polled (copy : ChannelRow) (seen : Bool) (answer : KeyChoice)
  | finished (answer : KeyChoice)
deriving DecidableEq

def KeyRequest.isFinished : KeyRequest → Bool
  | .finished _ => true
  | _ => false

/-- `UpdateChannelStatus` between its database steps. -/
inductive KeyUpdate where
  | waiting
  | read (copy : ChannelRow)
  | changed (copy : ChannelRow)
  | finished (updated : Bool)
deriving DecidableEq

def KeyUpdate.isFinished : KeyUpdate → Bool
  | .finished _ => true
  | _ => false

def KeyUpdate.saved (update : KeyUpdate) : Bool := update = .finished true

structure Race where
  stored : ChannelRow
  locked : Bool
  requests : List KeyRequest
  update : KeyUpdate

inductive RaceStep where
  | load (request : Nat)
  | choose (request : Nat)
  | saveChannelInfo (request : Nat)
  | readRow
  | changeKey
  | saveRow
deriving DecidableEq

namespace Race

def start (row : ChannelRow) (draws : List Nat) : Race := ⟨row, false, draws.map .waiting, .waiting⟩

def setRequest (race : Race) (index : Nat) (request : KeyRequest) : Race :=
  { race with requests := race.requests.set index request }

section
variable (decodeArray : String → Option (List String)) (call : StatusCall)

/-- `GetNextEnabledKey` up to its deferred save, which keeps the lock. -/
def chooseKey (race : Race) (index draw : Nat) (copy : ChannelRow) (seen : Bool) : Race :=
  match copy.answerWithoutLock decodeArray with
  | some answer => race.setRequest index (.finished answer)
  | none =>
    if race.locked then race
    else
      match copy.answerWithoutPolling decodeArray draw with
      | some answer => race.setRequest index (.finished answer)
      | none =>
        let polled := copy.poll decodeArray race.stored.info
        { race.setRequest index (.polled polled.2 seen polled.1) with locked := true }

/-- A step that waits for the lock, or that is not the next one of its party, changes nothing. -/
def step (race : Race) : RaceStep → Race
  | .load index =>
    match race.requests[index]? with
    | some (.waiting draw) => race.setRequest index (.loaded draw race.stored race.update.saved)
    | _ => race
  | .choose index =>
    match race.requests[index]? with
    | some (.loaded draw copy seen) => race.chooseKey decodeArray index draw copy seen
    | _ => race
  | .saveChannelInfo index =>
    match race.requests[index]? with
    | some (.polled copy _ answer) =>
      { race.setRequest index (.finished answer) with
        stored := { race.stored with info := copy.info }
        locked := false }
    | _ => race
  | .readRow =>
    match race.update with
    | .waiting =>
      if race.stored.status = call.status then { race with update := .finished false }
      else { race with update := .read race.stored }
    | _ => race
  | .changeKey =>
    match race.update with
    | .read copy =>
      if copy.info.isMultiKey ∧ race.locked then race
      else { race with update := .changed (ChannelCache.changeStored decodeArray call copy) }
    | _ => race
  | .saveRow =>
    match race.update with
    -- every column but the key
    | .changed copy =>
      { race with
        stored := { copy with key := race.stored.key, keys := race.stored.keys }
        update := .finished true }
    | _ => race

end

/-- What a request saves was loaded after the status call had saved its row, or the call has not yet. -/
def current (race : Race) : RaceStep → Bool
  | .saveChannelInfo index =>
    match race.requests[index]? with
    | some (.polled _ seen _) => seen = race.update.saved
    | _ => true
  | _ => true

end Race

theorem handlerMultiKeyUpdate_key (decodeArray : String → Option (List String)) (call : StatusCall)
    (row : ChannelRow) : (handlerMultiKeyUpdate decodeArray call row).key = row.key ∧
      (handlerMultiKeyUpdate decodeArray call row).keys = row.keys := by
  unfold handlerMultiKeyUpdate
  dsimp only
  split
  · exact ⟨rfl, rfl⟩
  · split <;> exact ⟨rfl, rfl⟩

theorem changeStored_key (decodeArray : String → Option (List String)) (call : StatusCall) (row : ChannelRow) :
    (ChannelCache.changeStored decodeArray call row).key = row.key ∧
      (ChannelCache.changeStored decodeArray call row).keys = row.keys := by
  unfold ChannelCache.changeStored
  split
  · exact handlerMultiKeyUpdate_key decodeArray call row
  · exact ⟨rfl, rfl⟩

namespace Race

variable {decodeArray : String → Option (List String)} {call : StatusCall}

theorem request_alone (row : ChannelRow) (draw : Nat) :
    run (step decodeArray call) (start row [draw]) [.load 0, .choose 0, .saveChannelInfo 0] =
      ⟨{ row with info := (row.getNextEnabledKey decodeArray draw (.ok row.info)).2.info }, false,
        [.finished (row.getNextEnabledKey decodeArray draw (.ok row.info)).1], .waiting⟩ := by
  have loaded : run (step decodeArray call) (start row [draw]) [.load 0, .choose 0, .saveChannelInfo 0] =
      step decodeArray call
        (chooseKey decodeArray ⟨row, false, [.loaded draw row false], .waiting⟩ 0 draw row false)
        (.saveChannelInfo 0) := rfl
  rw [loaded, chooseKey, ChannelRow.getNextEnabledKey]
  cases row.answerWithoutLock decodeArray with
  | some answer => rfl
  | none =>
    cases row.answerWithoutPolling decodeArray draw with
    | some answer => rfl
    | none => rfl

theorem update_alone (row : ChannelRow) (draws : List Nat) :
    (run (step decodeArray call) (start row draws) [.readRow, .changeKey, .saveRow]).stored =
      storedStep decodeArray call row := by
  by_cases same : row.status = call.status
  · simp [start, step, storedStep, same]
  · obtain ⟨key, keys⟩ := changeStored_key decodeArray call row
    simp only [run_cons, run_nil, start, step, storedStep, if_neg same, Bool.false_eq_true, and_false,
      if_false, ← key, ← keys]

end Race

section
variable (decodeArray : String → Option (List String)) (call : StatusCall) (keys : List String)

/-- The list that the channel information keeps has the status for the key of the call. -/
def ChannelInfo.Marks (info : ChannelInfo) : Prop :=
  info.multiKeyStatusList.lookup (keyIndex keys call.usingKey) = some call.status

/-- Several keys, and these. -/
def ChannelRow.Shaped (row : ChannelRow) : Prop := row.getKeys decodeArray = keys ∧ row.info.isMultiKey = true

def KeyRequest.held : KeyRequest → Option (ChannelRow × Bool)
  | .waiting _ | .finished _ => none
  | .loaded _ copy seen | .polled copy seen _ => some (copy, seen)

/-- A copy that was loaded after the save of the status call has the mark. -/
def ChannelRow.Follows (saved : Bool) (copy : ChannelRow) (seen : Bool) : Prop :=
  copy.Shaped decodeArray keys ∧ (seen = true → saved = true ∧ copy.info.Marks call keys)

def KeyUpdate.Sound : KeyUpdate → Prop
  | .waiting => True
  | .read copy => copy.Shaped decodeArray keys
  | .changed copy => copy.Shaped decodeArray keys ∧ copy.info.Marks call keys
  | .finished updated => updated = true

structure Race.Sound (race : Race) : Prop where
  stored : race.stored.Shaped decodeArray keys
  pending : race.update.saved = false → race.stored.status ≠ call.status
  marked : race.update.saved = true → race.stored.info.Marks call keys
  update : race.update.Sound decodeArray call keys
  held : ∀ request ∈ race.requests, ∀ copy seen, request.held = some (copy, seen) →
    copy.Follows decodeArray call keys race.update.saved seen

end

section
variable {decodeArray : String → Option (List String)} {call : StatusCall} {keys : List String}

theorem ChannelRow.Shaped.ne_nil {row : ChannelRow} (shaped : row.Shaped decodeArray keys)
    (listed : call.usingKey ∈ keys) : row.getKeys decodeArray ≠ [] := by
  rw [shaped.1]
  exact List.ne_nil_of_mem listed

theorem ChannelRow.getKeys_congr {row other : ChannelRow} (key : other.key = row.key)
    (keys : other.keys = row.keys) : other.getKeys decodeArray = row.getKeys decodeArray := by
  unfold ChannelRow.getKeys
  rw [key, keys]

theorem changeStored_marks {row : ChannelRow} (shaped : row.Shaped decodeArray keys)
    (listed : call.usingKey ∈ keys) (disabling : call.status ≠ .enabled) :
    (ChannelCache.changeStored decodeArray call row).Shaped decodeArray keys ∧
      (ChannelCache.changeStored decodeArray call row).info.Marks call keys := by
  obtain ⟨key, kept⟩ := changeStored_key decodeArray call row
  have several : ChannelCache.changeStored decodeArray call row = handlerMultiKeyUpdate decodeArray call row :=
    if_pos shaped.2
  refine ⟨⟨(ChannelRow.getKeys_congr key kept).trans shaped.1, ?_⟩, ?_⟩
  · rw [several, handlerMultiKeyUpdate_isMultiKey]
    exact shaped.2
  · have marked : (row.info.markKey (keyIndex keys call.usingKey) call.status call.reason call.now).Marks
        call keys := by
      unfold ChannelInfo.Marks ChannelInfo.markKey
      rw [if_neg disabling]
      exact AList.lookup_insert _
    rw [several, handlerMultiKeyUpdate]
    dsimp only
    rw [if_neg (shaped.ne_nil listed), shaped.1]
    split <;> exact marked

namespace Race

variable {race : Race}

section
variable (sound : race.Sound decodeArray call keys)
include sound

theorem Sound.setRequest (index : Nat) {request : KeyRequest}
    (follows : ∀ copy seen, request.held = some (copy, seen) →
      copy.Follows decodeArray call keys race.update.saved seen) :
    (race.setRequest index request).Sound decodeArray call keys := by
  refine ⟨sound.stored, sound.pending, sound.marked, sound.update, ?_⟩
  intro other member
  rcases List.mem_or_eq_of_mem_set member with old | rfl
  · exact sound.held other old
  · exact follows

theorem Sound.finish (index : Nat) (answer : KeyChoice) :
    (race.setRequest index (.finished answer)).Sound decodeArray call keys :=
  sound.setRequest index fun _ _ impossible => by cases impossible

theorem Sound.lock (locked : Bool) : { race with locked }.Sound decodeArray call keys :=
  ⟨sound.stored, sound.pending, sound.marked, sound.update, sound.held⟩

theorem Sound.holding {index : Nat} {request : KeyRequest}
    (found : race.requests[index]? = some request) {copy : ChannelRow} {seen : Bool}
    (held : request.held = some (copy, seen)) : copy.Follows decodeArray call keys race.update.saved seen :=
  sound.held request (List.mem_of_getElem? found) copy seen held

theorem Sound.chooseKey (index draw : Nat) {copy : ChannelRow}
    {seen : Bool} (follows : copy.Follows decodeArray call keys race.update.saved seen) :
    (race.chooseKey decodeArray index draw copy seen).Sound decodeArray call keys := by
  unfold Race.chooseKey
  split
  · exact sound.finish index _
  · split
    · exact sound
    · split
      · exact sound.finish index _
      · refine (sound.setRequest index ?_).lock true
        -- the search changes nothing but the polling index
        rintro copy' seen' ⟨⟩
        obtain ⟨position, same⟩ := copy.poll_row decodeArray race.stored.info
        rw [same]
        exact follows

theorem Sound.saveInfo {copy : ChannelRow}
    (follows : copy.Follows decodeArray call keys race.update.saved race.update.saved) :
    { race with stored := { race.stored with info := copy.info } }.Sound decodeArray call keys :=
  ⟨⟨sound.stored.1, follows.1.2⟩, sound.pending, fun saved => (follows.2 saved).2, sound.update, sound.held⟩

theorem Sound.proceed (unsaved : race.update.saved = false)
    {update : KeyUpdate} (still : update.saved = false) (next : update.Sound decodeArray call keys) :
    { race with update }.Sound decodeArray call keys := by
  refine ⟨sound.stored, fun _ => sound.pending unsaved, fun saved => ?_, next, ?_⟩
  · exact absurd (still.symm.trans saved) Bool.false_ne_true
  · intro request member copy seen held
    have follows := sound.held request member copy seen held
    rw [unsaved] at follows
    rwa [still]

theorem Sound.saveRow (unsaved : race.update.saved = false)
    {copy : ChannelRow} (shaped : copy.Shaped decodeArray keys) (marks : copy.info.Marks call keys) :
    { race with
      stored := { copy with key := race.stored.key, keys := race.stored.keys }
      update := .finished true }.Sound decodeArray call keys := by
  refine ⟨⟨sound.stored.1, shaped.2⟩, fun early => (by cases early), fun _ => marks, rfl, ?_⟩
  intro request member copy' seen held
  have follows := sound.held request member copy' seen held
  rw [unsaved] at follows
  exact ⟨follows.1, fun late => absurd (follows.2 late).1 Bool.false_ne_true⟩

end

theorem Sound.step (listed : call.usingKey ∈ keys) (disabling : call.status ≠ .enabled) (race : Race)
    (action : RaceStep) (sound : race.Sound decodeArray call keys) (current : race.current action = true) :
    (race.step decodeArray call action).Sound decodeArray call keys := by
  cases action with
  | load index =>
    simp only [Race.step]
    split
    · refine sound.setRequest index ?_
      rintro copy seen ⟨⟩
      exact ⟨sound.stored, fun saved => ⟨saved, sound.marked saved⟩⟩
    · exact sound
  | choose index =>
    simp only [Race.step]
    split
    · rename_i draw copy seen found
      exact sound.chooseKey index draw (sound.holding found rfl)
    · exact sound
  | saveChannelInfo index =>
    simp only [Race.step]
    split
    · rename_i copy seen answer found
      have follows := sound.holding found rfl
      have fresh : seen = race.update.saved := by simpa [Race.current, found] using current
      rw [fresh] at follows
      exact ((sound.saveInfo follows).finish index answer).lock false
    · exact sound
  | readRow =>
    simp only [Race.step]
    split
    · rename_i waiting
      have unsaved : race.update.saved = false := by rw [waiting]; rfl
      rw [if_neg (sound.pending unsaved)]
      exact sound.proceed unsaved rfl sound.stored
    · exact sound
  | changeKey =>
    simp only [Race.step]
    split
    · rename_i copy read
      have unsaved : race.update.saved = false := by rw [read]; rfl
      have shaped : copy.Shaped decodeArray keys := by simpa [read, KeyUpdate.Sound] using sound.update
      split
      · exact sound
      · exact sound.proceed unsaved rfl (changeStored_marks shaped listed disabling)
    · exact sound
  | saveRow =>
    simp only [Race.step]
    split
    · rename_i copy changed
      have unsaved : race.update.saved = false := by rw [changed]; rfl
      have both : copy.Shaped decodeArray keys ∧ copy.info.Marks call keys := by
        simpa [changed, KeyUpdate.Sound] using sound.update
      exact sound.saveRow unsaved both.1 both.2
    · exact sound

end Race

end

/-- If no request saves a row that it loaded before the status call saved its own, the key is
marked in the stored row once the call has finished. -/
theorem disabled_key_stays_disabled (decodeArray : String → Option (List String)) (call : StatusCall)
    (row : ChannelRow) (draws : List Nat) (steps : List RaceStep) (multiKey : row.info.isMultiKey = true)
    (listed : call.usingKey ∈ row.getKeys decodeArray) (disabling : call.status ≠ .enabled)
    (differs : row.status ≠ call.status)
    (current : Guarded (Race.step decodeArray call) (fun race step => race.current step = true)
      (Race.start row draws) steps)
    (finished : (run (Race.step decodeArray call) (Race.start row draws) steps).update.isFinished = true) :
    (run (Race.step decodeArray call) (Race.start row draws) steps).stored.info.multiKeyStatusList.lookup
      (keyIndex (row.getKeys decodeArray) call.usingKey) = some call.status := by
  have initial : (Race.start row draws).Sound decodeArray call (row.getKeys decodeArray) := by
    refine ⟨⟨rfl, multiKey⟩, fun _ => differs, fun saved => (by cases saved), trivial, ?_⟩
    intro request member copy seen held
    obtain ⟨draw, _, rfl⟩ := List.mem_map.mp member
    cases held
  have sound := Guarded.invariant (Race.Sound.step listed disabling) initial current
  apply sound.marked
  have update := sound.update
  revert finished update
  cases (run (Race.step decodeArray call) (Race.start row draws) steps).update with
  | finished updated =>
    intro _ updated
    simpa [KeyUpdate.saved, KeyUpdate.Sound] using updated
  | waiting | read | changed => exact fun unfinished => by cases unfinished

def pollingRow : ChannelRow :=
  { threeKeys with info := { isMultiKey := true, multiKeySize := 3, multiKeyMode := .polling } }

def firstKeyAfter (steps : List RaceStep) : Option ChannelStatus × Bool :=
  let race := run (Race.step ChannelCache.noArrays (naming "sk-1" .autoDisabled)) (Race.start pollingRow [0, 0]) steps
  (race.stored.info.multiKeyStatusList.lookup 0,
    race.update.isFinished && race.requests.all KeyRequest.isFinished)

/-- One request between the steps of the call, and one that loads its row after it. -/
def betweenSteps : List RaceStep :=
  [.readRow, .load 0, .changeKey, .choose 0, .saveChannelInfo 0, .saveRow, .load 1, .choose 1, .saveChannelInfo 1]

theorem disabled_key_stays_disabled_betweenSteps : firstKeyAfter betweenSteps = (some .autoDisabled, true) := by
  have marked := disabled_key_stays_disabled ChannelCache.noArrays (naming "sk-1" .autoDisabled) pollingRow [0, 0]
    betweenSteps rfl (by decide +kernel) (by decide) (by decide) (by decide +kernel) (by decide +kernel)
  refine Prod.ext ?_ (by decide +kernel)
  exact marked

/-- A request loads its row before the call and saves its channel information after it. -/
theorem disabled_key_enabled_again :
    firstKeyAfter [.load 1, .choose 1, .saveChannelInfo 1, .load 0, .readRow, .changeKey, .saveRow, .choose 0,
      .saveChannelInfo 0] = (none, true) := by decide +kernel

end TokenFactory.Distributor
