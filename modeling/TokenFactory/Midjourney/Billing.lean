import TokenFactory.Midjourney.Conservation
import TokenFactory.Midjourney.Submit

namespace TokenFactory.Midjourney

open Data Go Billing
open Relay (Context)

/-! A drawing is paid for once, and a failed one is paid back. -/

section Charge

variable {info : RelayInfo} {paying : BillingInfo} {store : Store} {quota : Int}

theorem quota_token {target : Store} {fault : Option String} (same : target.quota = store.quota) :
    (Store.guarded store target fault quota).2.quota = store.quota := by
  unfold Store.guarded
  split
  · rfl
  · cases fault with
    | none => exact same
    | some text => rfl

theorem quota_postConsumeQuota (wallet : paying.billingSource ≠ "subscription") (valid : 0 ≤ quota) :
    (postConsumeQuota info paying {} store quota).2.quota info.userId = store.quota info.userId - quota := by
  unfold postConsumeQuota
  rw [if_neg wallet]
  have paid : (if quota > 0 then store.decreaseUserQuota none info.userId quota
      else store.increaseUserQuota none info.userId (-quota)) = (.ok (), store.addQuota info.userId (-quota)) := by
    split
    · unfold Store.decreaseUserQuota Store.guarded
      rw [if_neg (by omega)]
    · unfold Store.increaseUserQuota Store.guarded
      rw [if_neg (by omega)]
  have charged : (store.addQuota info.userId (-quota)).quota info.userId = store.quota info.userId - quota :=
    quota_addQuota_self store info.userId (-quota)
  rw [paid]
  split
  · exact charged
  · split
    · unfold Store.decreaseTokenQuota
      rw [quota_token (Store.addToken_quota _ _ _), charged]
    · unfold Store.increaseTokenQuota
      rw [quota_token (Store.addToken_quota _ _ _), charged]

theorem quota_chargeSubmission (wallet : paying.billingSource ≠ "subscription") (valid : 0 ≤ quota)
    (consumeQuota : Bool) (statusCode : Int) :
    (chargeSubmission info paying store consumeQuota statusCode quota).quota info.userId =
      if consumeQuota = true ∧ statusCode = 200 then store.quota info.userId - quota
      else store.quota info.userId := by
  unfold chargeSubmission
  split
  · exact quota_postConsumeQuota wallet valid
  · rfl

end Charge

section Stored

variable {admitted : Admitted} {response : MidjourneyResponse} {clock : Nat → Int} {id userId : Int} {tasks : Tasks}

/-- Upstream already has the result, or the upload is there. -/
def Admitted.Ended (admitted : Admitted) (response : MidjourneyResponse) : Prop :=
  (response.code = 21 ∧ (knownResult response).map Prod.snd = some "SUCCESS") ∨
    (response.code = 1 ∧ admitted.request.action = "UPLOAD")

theorem lookup_nextId : tasks.lookup (nextId tasks) = none := by
  refine Table.lookup_eq_none.mpr fun row member same => ?_
  have bound : ∀ rows : List Task, row ∈ rows → row.id ≤ rows.foldr (fun task top => max task.id top) 0 := by
    intro rows among
    induction rows with
    | nil => cases among
    | cons first rest ih =>
      rcases List.mem_cons.mp among with rfl | later
      · exact le_max_left _ _
      · exact (ih later).trans (le_max_right _ _)
  have below := bound tasks.rows member
  unfold nextId at same
  omega

theorem storedTask_bill (id userId : Int) (admitted : Admitted) (response : MidjourneyResponse)
    (clock : Nat → Int) : (storedTask id userId admitted response clock).id = id ∧
    (storedTask id userId admitted response clock).userId = userId ∧
    (storedTask id userId admitted response clock).quota = admitted.quota ∧
    (storedTask id userId admitted response clock).mjId = response.result := by
  unfold storedTask takeKnownResult
  dsimp only
  split
  · split <;> exact ⟨rfl, rfl, rfl, rfl⟩
  · split <;> split <;> exact ⟨rfl, rfl, rfl, rfl⟩

theorem storedTask_ended (id userId : Int) (clock : Nat → Int) (ended : admitted.Ended response) :
    (storedTask id userId admitted response clock).progress = "100%" ∧
      (storedTask id userId admitted response clock).status = "SUCCESS" := by
  unfold storedTask takeKnownResult
  rcases ended with ⟨there, known⟩ | ⟨new, upload⟩
  · obtain ⟨⟨imageUrl, status⟩, found, rfl⟩ := Option.map_eq_some_iff.mp known
    rw [if_pos there, found]
    dsimp only
    rw [if_pos rfl]
    split <;> exact ⟨rfl, rfl⟩
  · have other : response.code ≠ 21 := by omega
    rw [if_neg other]
    rw [if_pos ⟨new, upload⟩]
    exact ⟨rfl, rfl⟩

theorem storedTask_unended (id userId : Int) (clock : Nat → Int) (unended : ¬ admitted.Ended response) :
    (storedTask id userId admitted response clock).progress = "0%" := by
  unfold storedTask takeKnownResult
  by_cases there : response.code = 21
  · have other : response.code ≠ 1 := by omega
    rw [if_pos there]
    cases found : knownResult response with
    | none =>
      rw [if_neg fun both => other both.1]
      rfl
    | some known =>
      obtain ⟨imageUrl, status⟩ := known
      have unsuccessful : status ≠ "SUCCESS" := by
        rintro rfl
        exact unended (.inl ⟨there, by rw [found]; rfl⟩)
      dsimp only
      rw [if_neg unsuccessful]
      rw [if_neg fun both => other both.1]
      rfl
  · rw [if_neg there]
    rw [if_neg fun both => unended (.inr both)]
    rfl

end Stored

def Submission.answer (submission : Submission) (admitted : Admitted) : Except Stop (Int × MidjourneyResponse) :=
  (doMidjourneyHttpRequest submission.exchange admitted.ctx
    (admitted.ctx.baseUrl ++ getMjRequestPath submission.url)).2

/-- The price is not negative. Unless the request is free, the stored task has ended, or none
is stored, the request is charged exactly if the task gets an id. -/
def Admitted.Fair (site : Site) (admitted : Admitted) (statusCode : Int) (response : MidjourneyResponse) : Prop :=
  0 ≤ admitted.quota ∧
    (admitted.quota = 0 ∨ admitted.Ended response ∨
      (response.code = 3 ∧ site.channels.lookup admitted.ctx.channelId = none) ∨
      (admitted.consumeQuota = true ∧ accepted response.code = true ∧ statusCode = 200 ↔ response.result ≠ ""))

def Submission.Fair (site : Site) (tasks : Tasks) (userId : Int) (ctx : Context) (submission : Submission) : Prop :=
  ∀ admitted statusCode response, admitSubmission site tasks userId ctx submission = .ok admitted →
    submission.answer admitted = .ok (statusCode, response) → admitted.Fair site statusCode response

def Submitted.machine (submitted : Submitted) : Machine where
  poller := { tasks := submitted.tasks, store := submitted.store, loaded := .empty }

/-- The wallet is not above its value before, and it is back at it once the task has failed. -/
def Poller.WalletConserved (userId id before : Int) (poller : Poller) : Prop :=
  poller.store.quota userId ≤ before ∧
    ∀ task ∈ poller.tasks.lookup id, task.status = "FAILURE" → task.progress = "100%" →
      poller.store.quota userId = before

section Submission

variable {site : Site} {info : RelayInfo} {paying : BillingInfo} {ctx : Context} {submission : Submission}
  {tasks : Tasks} {store : Store} {admitted : Admitted} {statusCode : Int} {response : MidjourneyResponse}
  {clock : Nat → Int} {userId id before : Int}

theorem Poller.Balanced.conserved {poller : Poller} (balanced : poller.Balanced userId id before) :
    poller.WalletConserved userId id before :=
  ⟨balanced.low, fun task found failed finished => (balanced.own task found).2.2.back failed finished⟩

theorem balanced_start (low : store.quota userId ≤ before) (own : ∀ task ∈ tasks.lookup id,
      task.userId = userId ∧ 0 ≤ task.quota ∧ task.Settles before (store.quota userId))
    (others : ∀ task ∈ loadTasks tasks, task.userId = userId → task.id = id ∨ task.quota ≤ 0) :
    Machine.Balanced userId id before { poller := { tasks, store, loaded := .empty } } where
  poller := {
    low, own, others
    copies := fun _ member => absurd member Table.not_mem_empty
    synced := fun _ member => absurd member Table.not_mem_empty }
  apart := fun _ member => absurd member List.not_mem_nil

theorem lookup_insert_storedTask :
    (tasks.insert (storedTask (nextId tasks) userId admitted response clock)).lookup (nextId tasks) =
      some (storedTask (nextId tasks) userId admitted response clock) := by
  have free : tasks.lookup (storedTask (nextId tasks) userId admitted response clock).id = none := by
    rw [(storedTask_bill _ _ _ _ _).1, lookup_nextId]
  have stored := Table.lookup_insert_self free
  rwa [(storedTask_bill _ _ _ _ _).1] at stored

theorem Admitted.Fair.settles (fair : admitted.Fair site statusCode response)
    (wallet : paying.billingSource ≠ "subscription")
    (stored : ¬ (response.code = 3 ∧ site.channels.lookup admitted.ctx.channelId = none)) :
    (storedTask id info.userId admitted response clock).Settles (store.quota info.userId)
      ((chargeSubmission info paying store (admitted.consumeQuota && accepted response.code) statusCode
        admitted.quota).quota info.userId) := by
  obtain ⟨valid, exempt⟩ := fair
  obtain ⟨-, -, price, mjId⟩ := storedTask_bill id info.userId admitted response clock
  rw [quota_chargeSubmission wallet valid]
  simp only [Bool.and_eq_true, and_assoc]
  by_cases free : admitted.quota = 0
  · refine .free (price.trans free) ?_
    split <;> omega
  by_cases ended : admitted.Ended response
  · obtain ⟨finished, success⟩ := storedTask_ended id info.userId clock ended
    split
    · exact .earned finished (by rw [success]; decide) (by rw [price])
    · exact .repaid finished rfl
  · have fresh := storedTask_unended id info.userId clock ended
    have named := ((exempt.resolve_left free).resolve_left ended).resolve_left stored
    split
    · rename_i charged
      exact .charged (by rw [fresh]; decide) (by rw [mjId]; exact named.mp charged) (by rw [price])
    · rename_i uncharged
      exact .unnamed (mjId.trans (not_not.mp (mt named.mpr uncharged))) rfl

theorem mem_loadTasks_insert {stored task : Task} (member : task ∈ loadTasks (tasks.insert stored)) :
    task ∈ loadTasks tasks ∨ task = stored := by
  obtain ⟨present, rest⟩ := mem_loadTasks.mp member
  rcases Table.mem_of_mem_insert present with old | new
  · exact .inl (mem_loadTasks.mpr ⟨old, rest⟩)
  · exact .inr new

theorem balanced_unstored {final : Store} (low : final.quota info.userId ≤ store.quota info.userId)
    (alone : ∀ task ∈ loadTasks tasks, task.userId = info.userId → task.quota ≤ 0) :
    Machine.Balanced info.userId (nextId tasks) (store.quota info.userId)
      { poller := { tasks, store := final, loaded := .empty } } := by
  refine balanced_start low (fun task found => ?_) fun task member user => .inr (alone task member user)
  rw [lookup_nextId] at found
  cases found

theorem Admitted.Fair.balanced (fair : admitted.Fair site statusCode response)
    (wallet : paying.billingSource ≠ "subscription")
    (alone : ∀ task ∈ loadTasks tasks, task.userId = info.userId → task.quota ≤ 0) :
    (storeSubmission site info paying tasks store clock admitted statusCode response).machine.Balanced
      info.userId (nextId tasks) (store.quota info.userId) := by
  unfold storeSubmission
  dsimp only
  split
  · -- The panic: the charge was made, if the request was to be charged.
    refine balanced_unstored ?_ alone
    rw [quota_chargeSubmission wallet fair.1]
    have valid := fair.1
    split <;> omega
  · rename_i stored
    obtain ⟨here, user, price, -⟩ := storedTask_bill (nextId tasks) info.userId admitted response clock
    have settles : (storedTask (nextId tasks) info.userId admitted response clock).Settles
        (store.quota info.userId) ((chargeSubmission info paying store
          (admitted.consumeQuota && accepted response.code) statusCode admitted.quota).quota info.userId) :=
      fair.settles wallet stored
    have valid : 0 ≤ (storedTask (nextId tasks) info.userId admitted response clock).quota := price ▸ fair.1
    refine balanced_start (settles.le valid) (fun task found => ?_) (fun task member same => ?_)
    · obtain rfl := Option.some.inj (lookup_insert_storedTask.symm.trans found)
      exact ⟨user, valid, settles⟩
    · rcases mem_loadTasks_insert member with old | rfl
      · exact .inr (alone task old same)
      · exact .inl here

theorem Submission.Fair.balanced (fair : submission.Fair site tasks info.userId ctx)
    (wallet : paying.billingSource ≠ "subscription")
    (alone : ∀ task ∈ loadTasks tasks, task.userId = info.userId → task.quota ≤ 0) :
    (relayMidjourneySubmit site info paying ctx submission tasks store).machine.Balanced
      info.userId (nextId tasks) (store.quota info.userId) := by
  unfold relayMidjourneySubmit
  cases entry : admitSubmission site tasks info.userId ctx submission with
  | error stop => exact balanced_unstored le_rfl alone
  | ok admitted =>
    dsimp only
    cases answered : submission.answer admitted with
    | error stop =>
      unfold Submission.answer at answered
      rw [answered]
      exact balanced_unstored le_rfl alone
    | ok answer =>
      obtain ⟨statusCode, response⟩ := answer
      have charged := fair admitted statusCode response entry answered
      unfold Submission.answer at answered
      rw [answered]
      exact charged.balanced wallet alone

/-- In every fair run after a fair submission of a user without other tasks to be paid back,
the wallet is never above its value before the submission, and it is back at that value once
the stored task has failed. -/
theorem midjourney_billing_conserved (site : Site) (info : RelayInfo) (paying : BillingInfo) (ctx : Context)
    (submission : Submission) (tasks : Tasks) (store : Store) (events : List Event)
    (wallet : paying.billingSource ≠ "subscription")
    (alone : ∀ task ∈ loadTasks tasks, task.userId = info.userId → task.quota ≤ 0)
    (fair : submission.Fair site tasks info.userId ctx)
    (steps : Guarded Machine.step (fun machine event => event.Fair (nextId tasks) machine)
      (relayMidjourneySubmit site info paying ctx submission tasks store).machine events) :
    (run Machine.step (relayMidjourneySubmit site info paying ctx submission tasks store).machine
      events).poller.WalletConserved info.userId (nextId tasks) (store.quota info.userId) :=
  ((fair.balanced wallet alone).run steps).poller.conserved

end Submission

/-! A drawing for 10 of a user who has 100, which upstream reports as failed. -/

def drawingSite : Site where
  channels := .empty
  autoBan _ := false
  mjActionCheckSuccessEnabled := true
  automaticDisableChannelEnabled := false

def payingUser : RelayInfo where
  userId := 1
  tokenId := 1
  requestId := ""
  isPlayground := false
  tokenUnlimited := false
  forcePreConsume := false
  billingPreference := ""

def acceptedSubmission (mode : RelayModeMidjourney) (body : MidjourneyRequest) : Submission where
  mode := mode
  body := some body
  url := "/mj/submit"
  priceData := .ok 10
  userQuota := .ok 100
  exchange := { unsent := none, answer := fun _ => .response 200 { code := 1, result := "drawn" } }
  clock _ := 1760000000000

def submitDrawing (mode : RelayModeMidjourney) (body : MidjourneyRequest) : Submitted :=
  relayMidjourneySubmit drawingSite payingUser {} { channelId := 7 } (acceptedSubmission mode body) .empty oneUser

def failurePass : List Event :=
  [.wake {
      cache := openCache
      answer := fun _ _ => some [(1760000001000,
        { mjId := "drawn", progress := "100%", status := "FAILURE", failReason := "banned" })] }
    ⟨id, fun _ => .refl _⟩, .work]

theorem midjourney_billing_conserved_imagine :
    (submitDrawing .imagine { prompt := "a cat" }).store.quota 1 = 90 ∧
      (run Machine.step (submitDrawing .imagine { prompt := "a cat" }).machine
        failurePass).poller.WalletConserved 1 1 100 := by
  refine ⟨by decide +kernel, ?_⟩
  refine midjourney_billing_conserved drawingSite payingUser {} { channelId := 7 }
    (acceptedSubmission .imagine { prompt := "a cat" }) .empty oneUser failurePass (by decide) ?_ ?_ ?_
  · intro task member
    exact absurd (mem_loadTasks.mp member).1 Table.not_mem_empty
  · intro admitted statusCode response entry answered
    have admits : admitSubmission drawingSite .empty payingUser.userId { channelId := 7 }
        (acceptedSubmission .imagine { prompt := "a cat" }) =
          .ok ⟨{ prompt := "a cat", action := "IMAGINE" }, { channelId := 7 }, 10, true⟩ := rfl
    obtain rfl := Except.ok.inj (admits.symm.trans entry)
    cases answered
    exact ⟨by decide, .inr (.inr (.inr (by decide)))⟩
  · decide +kernel

/-- An inpaint request is not charged. -/
theorem inpaint_failure_pays_out : ¬ (run Machine.step
    (submitDrawing .action { customId := "MJ::Inpaint::1::3dbbd469" }).machine
      failurePass).poller.WalletConserved 1 1 100 := by
  intro conserved
  have low := conserved.1
  revert low
  decide +kernel

end TokenFactory.Midjourney
