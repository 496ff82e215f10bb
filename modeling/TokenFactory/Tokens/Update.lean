import TokenFactory.Data.Run
import TokenFactory.Go.Errors
import TokenFactory.Go.Number

namespace TokenFactory.Tokens

open Data Go

/-! `UpdateToken` of `controller/token.go`, next to the statements that bill the token. -/

structure Token where
  id : Int
  userId : Int
  status : Int
  name : String := ""
  accessedTime : Int := 0
  expiredTime : Int := -1
  remainQuota : Int
  unlimitedQuota : Bool := false
  modelLimitsEnabled : Bool := false
  modelLimits : String := ""
  allowIps : Option String := none
  usedQuota : Int := 0
  group : String := ""
  crossGroupRetry : Bool := false
deriving DecidableEq

namespace TokenStatus

def enabled : Int := 1

def disabled : Int := 2

def expired : Int := 3

def exhausted : Int := 4

end TokenStatus

/-- The columns that `Token.Update` writes. -/
def Token.update (row token : Token) : Token :=
  { row with
    name := token.name
    status := token.status
    expiredTime := token.expiredTime
    remainQuota := token.remainQuota
    unlimitedQuota := token.unlimitedQuota
    modelLimitsEnabled := token.modelLimitsEnabled
    modelLimits := token.modelLimits
    allowIps := token.allowIps
    group := token.group
    crossGroupRetry := token.crossGroupRetry }

structure UpdateToken where
  userId : Int
  statusOnly : Bool
  token : Token
  now : Int
  quotaPerUnit : Rat

def getTokenByIds (id userId : Int) (row : Token) : Except String Token :=
  if id = 0 ∨ userId = 0 then .error "id 或 userId 为空！"
  else if row.id = id ∧ row.userId = userId then .ok row
  else .error "record not found"

/-- What the call does to the row that it reads, before it writes it back. -/
def UpdateToken.edit (call : UpdateToken) (row : Token) : Except String Token := do
  let token := call.token
  refuseIf (50 < token.name.utf8ByteSize) "token.name_too_long"
  refuseIf (¬ token.unlimitedQuota ∧ token.remainQuota < 0) "token.quota_negative"
  refuseIf (¬ token.unlimitedQuota ∧ toInt64 (float64 (1000000000 * call.quotaPerUnit)) < token.remainQuota)
    "token.quota_exceed_max"
  let cleanToken ← getTokenByIds token.id call.userId row
  refuseIf (token.status = TokenStatus.enabled ∧ cleanToken.status = TokenStatus.expired ∧
    cleanToken.expiredTime ≤ call.now ∧ cleanToken.expiredTime ≠ -1) "token.expired_cannot_enable"
  refuseIf (token.status = TokenStatus.enabled ∧ cleanToken.status = TokenStatus.exhausted ∧
    cleanToken.remainQuota ≤ 0 ∧ ¬ cleanToken.unlimitedQuota) "token.exhausted_cannot_enable"
  if call.statusOnly then return { cleanToken with status := token.status }
  else return { cleanToken.update token with status := cleanToken.status }

/-- One of the two statements that change the quota. -/
inductive Billing where
  | increaseTokenQuota (quota now : Int)
  | decreaseTokenQuota (quota now : Int)

def Billing.delta : Billing → Int
  | increaseTokenQuota quota _ => quota
  | decreaseTokenQuota quota _ => -quota

def Token.bill (row : Token) : Billing → Token
  | .increaseTokenQuota quota now =>
    { row with remainQuota := row.remainQuota + quota, usedQuota := row.usedQuota - quota, accessedTime := now }
  | .decreaseTokenQuota quota now =>
    { row with remainQuota := row.remainQuota - quota, usedQuota := row.usedQuota + quota, accessedTime := now }

inductive Statement where
  | read
  | update (failure : Option String)
  | bill (billing : Billing)

/-- The row, and the copy of a call that is about to write. -/
structure Toggling where
  row : Token
  cleanToken : Option Token := none

def Toggling.step (call : UpdateToken) (state : Toggling) : Statement → Toggling
  | .read => { state with cleanToken := (call.edit state.row).toOption }
  | .update failure =>
    match state.cleanToken, failure with
    | some cleanToken, none => { row := state.row.update cleanToken }
    | _, _ => { state with cleanToken := none }
  | .bill billing => { state with row := state.row.bill billing }

theorem bill_remainQuota (row : Token) (billing : Billing) :
    (row.bill billing).remainQuota = row.remainQuota + billing.delta := by
  cases billing with
  | increaseTokenQuota quota now => rfl
  | decreaseTokenQuota quota now => exact sub_eq_add_neg _ _

theorem foldl_bill (bills : List Billing) (row : Token) :
    (bills.foldl Token.bill row).remainQuota = row.remainQuota + (bills.map Billing.delta).sum := by
  induction bills generalizing row with
  | nil => simp
  | cons billing rest ih => rw [List.foldl_cons, ih, bill_remainQuota, List.map_cons, List.sum_cons, add_assoc]

theorem run_bills (call : UpdateToken) (bills : List Billing) (state : Toggling) :
    run (Toggling.step call) state (bills.map .bill) = { state with row := bills.foldl Token.bill state.row } := by
  induction bills generalizing state with
  | nil => rfl
  | cons billing rest ih => exact ih (state.step call (.bill billing))

theorem edit_remainQuota {call : UpdateToken} {row token : Token} (statusOnly : call.statusOnly = true)
    (edited : call.edit row = .ok token) : token.remainQuota = row.remainQuota := by
  simp only [UpdateToken.edit, statusOnly, if_true, bind_ok] at edited
  obtain ⟨-, -, -, -, -, -, clean, read, -, -, -, -, written⟩ := edited
  obtain rfl := Except.ok.inj written
  unfold getTokenByIds at read
  split at read
  · cases read
  · split at read
    · obtain rfl := Except.ok.inj read
      rfl
    · cases read

/-- The quota is kept exactly if the statements between the read and the write add up to nothing,
or nothing is written. -/
theorem toggled_quota_kept_iff (call : UpdateToken) (statusOnly : call.statusOnly = true) (row : Token)
    (before between after : List Billing) (failure : Option String) :
    (run (Toggling.step call) ⟨row, none⟩ (before.map .bill ++ .read :: (between.map .bill ++
        .update failure :: after.map .bill))).row.remainQuota =
        row.remainQuota + ((before ++ between ++ after).map Billing.delta).sum ↔
      (between.map Billing.delta).sum = 0 ∨ failure ≠ none ∨
        (call.edit (before.foldl Token.bill row)).toOption = none := by
  simp only [run_append, run_cons, run_bills, List.map_append, List.sum_append, Toggling.step]
  cases edited : call.edit (before.foldl Token.bill row) with
  | error reason =>
    simp [foldl_bill, Except.toOption, add_assoc]
  | ok token =>
    cases failure with
    | some reason => simp [foldl_bill, Except.toOption, add_assoc]
    | none =>
      have same := edit_remainQuota statusOnly edited
      simp only [foldl_bill, Except.toOption, Token.update, same, ne_eq, not_true_eq_false, reduceCtorEq, or_false]
      omega

def plainToken : Token := { id := 1, userId := 7, status := TokenStatus.enabled, remainQuota := 100 }

def disabling : UpdateToken where
  userId := 7
  statusOnly := true
  token := { plainToken with status := TokenStatus.disabled }
  now := 0
  quotaPerUnit := 500000

theorem toggled_after_billing :
    (run (Toggling.step disabling) ⟨plainToken, none⟩
      [.bill (.decreaseTokenQuota 30 1), .read, .update none]).row.remainQuota = 70 :=
  (toggled_quota_kept_iff disabling rfl plainToken [.decreaseTokenQuota 30 1] [] [] none).mpr (.inl rfl)

/-- The 30 units are given back. -/
theorem toggled_while_billing :
    (run (Toggling.step disabling) ⟨plainToken, none⟩
      [.read, .bill (.decreaseTokenQuota 30 1), .update none]).row.remainQuota = 100 := by
  decide +kernel

end TokenFactory.Tokens
