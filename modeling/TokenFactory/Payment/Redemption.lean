import TokenFactory.Data.Interleaving
import TokenFactory.Data.Table

namespace TokenFactory.Payment

open Data

/-! `Redeem` of `model/redemption.go`.

The code row is selected with the old `gorm:query_option` setting, which locks
nothing. The user's quota is raised by an atomic `UPDATE` and the code row is
saved as a whole, in one transaction. -/

inductive RedemptionStatus where
  | enabled
  | disabled
  | used
deriving DecidableEq

structure Redemption where
  id : Int
  userId : Int
  key : String
  status : RedemptionStatus
  name : String
  quota : Int
  createdTime : Int
  redeemedTime : Int
  usedUserId : Int
  expiredTime : Int
deriving DecidableEq

structure User where
  id : Int
  quota : Int
deriving DecidableEq

structure RedemptionStore where
  codes : Table Redemption.key
  users : Table User.id

/-- One call of `Redeem`: who redeems, and the clock when the code is checked and
when it is marked. -/
structure Redeem where
  userId : Int
  checkedAt : Int
  redeemedAt : Int
deriving DecidableEq

inductive RedemptionRow where
  | user (id : Int)
  | code (id : Int)
deriving DecidableEq

def Redemption.refusal (code : Redemption) (now : Int) : Option String :=
  if code.status ≠ .enabled then some "该兑换码已被使用"
  else if code.expiredTime ≠ 0 ∧ code.expiredTime < now then some "该兑换码已过期"
  else none

/-- An `UPDATE` that finds no user changes nothing and is no error. -/
def RedemptionStore.increaseQuota (store : RedemptionStore) (userId quota : Int) : RedemptionStore :=
  match store.users.lookup userId with
  | none => store
  | some user => { store with users := store.users.save { user with quota := user.quota + quota } }

namespace Redeem

def mark (call : Redeem) (code : Redemption) : Redemption :=
  { code with redeemedTime := call.redeemedAt, status := .used, usedUserId := call.userId }

/-- The code that the transaction goes on with, or what `Redeem` answers. What is
refused inside the transaction is only logged under its own text. -/
def accepts (call : Redeem) (key : String) (seen : Option Redemption) : Except String Redemption :=
  if key = "" then .error "未提供兑换码"
  else if call.userId = 0 then .error "无效的 user id"
  else
    match seen with
    | none => .error "redeem.failed"
    | some code => if (code.refusal call.checkedAt).isSome then .error "redeem.failed" else .ok code

end Redeem

def redeeming (key : String) :
    Protocol RedemptionStore Redeem (Option Redemption) RedemptionRow (Except String Int) where
  read store _ := store.codes.lookup key
  rows call seen :=
    match call.accepts key seen with
    | .error _ => []
    | .ok code => [.user call.userId, .code code.id]
  commit store call seen :=
    match call.accepts key seen with
    | .error reason => (.error reason, store)
    | .ok code =>
      let credited := store.increaseQuota call.userId code.quota
      (.ok code.quota, { credited with codes := credited.codes.save (call.mark code) })

theorem accepts_ok {call : Redeem} {key : String} {seen : Option Redemption} {code : Redemption}
    (accepted : call.accepts key seen = .ok code) : seen = some code ∧ code.status = .enabled := by
  unfold Redeem.accepts at accepted
  split at accepted
  · cases accepted
  split at accepted
  · cases accepted
  cases seen with
  | none => cases accepted
  | some found =>
    simp only at accepted
    split at accepted
    · cases accepted
    · rename_i granted
      cases accepted
      refine ⟨rfl, ?_⟩
      by_contra other
      exact granted (by simp [Redemption.refusal, other])

theorem increaseQuota_codes (store : RedemptionStore) (userId quota : Int) :
    (store.increaseQuota userId quota).codes = store.codes := by
  unfold RedemptionStore.increaseQuota
  split <;> rfl

theorem increaseQuota_sum (store : RedemptionStore) (userId quota : Int) :
    (store.increaseQuota userId quota).users.sum User.quota ≤ store.users.sum User.quota + max quota 0 := by
  unfold RedemptionStore.increaseQuota
  cases found : store.users.lookup userId with
  | none =>
    simp only
    omega
  | some user =>
    have own : user.id = userId := Table.key_of_lookup found
    subst own
    have stored : store.users.lookup (User.id { user with quota := user.quota + quota }) = some user := found
    have moved := Table.sum_save stored User.quota
    simp only at moved ⊢
    omega

def RedemptionStore.worth (store : RedemptionStore) (key : String) : Int :=
  ((store.codes.lookup key).map Redemption.quota).getD 0

def succeeded (entry : Redeem × Except String Int) : Bool := entry.2.toBool

/-- Before the first success nothing has changed; after it the code is spent. -/
inductive Redeemed (key : String) (start : RedemptionStore) (log : List (Redeem × Except String Int))
    (store : RedemptionStore) : Prop where
  | untouched (unredeemed : log.countP succeeded = 0) (same : store = start)
  | spent {code : Redemption} (once : log.countP succeeded = 1)
      (total : store.users.sum User.quota ≤ start.users.sum User.quota + max (start.worth key) 0)
      (found : store.codes.lookup key = some code) (used : code.status ≠ .enabled)

theorem atomically_preserves_redeemed {key : String} {start store : RedemptionStore}
    {log : List (Redeem × Except String Int)} {call : Redeem} (redeemed : Redeemed key start log store) :
    Redeemed key start (log ++ [(call, ((redeeming key).atomically store call).1)])
      ((redeeming key).atomically store call).2 := by
  simp only [Protocol.atomically, redeeming]
  cases accepted : call.accepts key (store.codes.lookup key) with
  | error reason =>
    have counted : (log ++ [(call, Except.error reason)]).countP succeeded = log.countP succeeded := by
      simp [List.countP_append, succeeded, Except.toBool]
    cases redeemed with
    | untouched unredeemed same => exact .untouched (counted.trans unredeemed) same
    | spent once total found used => exact .spent (counted.trans once) total found used
  | ok code =>
    obtain ⟨read, enabled⟩ := accepts_ok accepted
    have counted : (log ++ [(call, Except.ok code.quota)]).countP succeeded = log.countP succeeded + 1 := by
      simp [List.countP_append, succeeded, Except.toBool]
    cases redeemed with
    | untouched unredeemed same =>
      subst same
      have worth : store.worth key = code.quota := by simp [RedemptionStore.worth, read]
      have own : code.key = key := Table.key_of_lookup read
      subst own
      have marked : (store.codes.save (call.mark code)).lookup code.key = some (call.mark code) :=
        Table.lookup_save_self read rfl
      have total : (store.increaseQuota call.userId code.quota).users.sum User.quota ≤
          store.users.sum User.quota + max (store.worth code.key) 0 :=
        worth ▸ increaseQuota_sum store call.userId code.quota
      rw [← increaseQuota_codes store call.userId code.quota] at marked
      exact .spent (counted.trans (by rw [unredeemed])) total marked (by simp [Redeem.mark])
    | spent _ _ found used =>
      cases found.symm.trans read
      exact absurd enabled used

/-- As long as every call commits on the code row it has read, at most one of them
succeeds, and the users gain at most the quota of the code. -/
theorem redemption_code_worth_once (key : String) (store : RedemptionStore) (calls : List Redeem)
    (turns : List Turn) (serial : Guarded (Interleaving.step (redeeming key))
      (fun state turn => state.Serial (redeeming key) (fun _ _ => True) turn) (.start store calls) turns) :
    let final := run (Interleaving.step (redeeming key)) (.start store calls) turns
    final.log.countP succeeded ≤ 1 ∧
      final.store.users.sum User.quota ≤ store.users.sum User.quota + max (store.worth key) 0 := by
  have preserved : ∀ log current call, Redeemed key store log current → True →
      Redeemed key store (log ++ [(call, ((redeeming key).atomically current call).1)])
        ((redeeming key).atomically current call).2 :=
    fun _ _ _ redeemed _ => atomically_preserves_redeemed redeemed
  have reached := Interleaving.serial_invariant preserved (.untouched rfl rfl) serial
  intro final
  cases reached with
  | untouched unredeemed same =>
    rw [show final.log.countP succeeded = 0 from unredeemed, show final.store = store from same]
    omega
  | spent once total _ _ =>
    rw [show final.log.countP succeeded = 1 from once]
    exact ⟨Nat.le_refl 1, total⟩

/-! Two users redeem one code. -/

def gift : Redemption where
  id := 1
  userId := 1
  key := "gift"
  status := .enabled
  name := "welcome"
  quota := 500
  createdTime := 1000
  redeemedTime := 0
  usedUserId := 0
  expiredTime := 0

def giftStore : RedemptionStore where
  codes := ⟨[gift], by decide⟩
  users := ⟨[⟨7, 0⟩, ⟨8, 0⟩], by decide⟩

def twoCalls : List Redeem := [⟨7, 2000, 2000⟩, ⟨8, 2000, 2000⟩]

theorem redemption_code_worth_once_serial :
    let final := run (Interleaving.step (redeeming "gift")) (.start giftStore twoCalls)
      [.read 0, .write 0, .write 0, .commit 0, .read 1, .commit 1]
    final.log.countP succeeded ≤ 1 ∧ final.store.users.sum User.quota ≤ 0 + max 500 0 :=
  redemption_code_worth_once "gift" giftStore twoCalls
    [.read 0, .write 0, .write 0, .commit 0, .read 1, .commit 1] (by decide +kernel)

/-- Both calls have read the code while it was enabled. The second one waits for the
code row only until the first one commits. -/
theorem redemption_code_redeemed_twice :
    let final := run (Interleaving.step (redeeming "gift")) (.start giftStore twoCalls)
      [.read 0, .read 1, .write 0, .write 1, .write 0, .write 1, .commit 0, .write 1, .commit 1]
    final.log.countP succeeded = 2 ∧ final.store.users.sum User.quota = giftStore.users.sum User.quota + 1000 ∧
      giftStore.worth "gift" = 500 := by
  decide +kernel

end TokenFactory.Payment
