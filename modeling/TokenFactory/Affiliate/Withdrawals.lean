import TokenFactory.Data.Run
import TokenFactory.Data.Table
import TokenFactory.Go.Errors
import TokenFactory.Go.Number
import TokenFactory.Go.Text

namespace TokenFactory.Affiliate

open Data Go

/-! The earnings of a distributor: how they are credited (`model/user.go`,
`model/aff_invite_profit_share_log.go`), transferred to the quota, and withdrawn
(`model/distributor_withdrawal.go`).

Each call makes its changes in one transaction. Only the check of a new
withdrawal reads the user's row before the transaction starts. -/

structure User where
  id : Int
  role : Int
  isDistributor : Int
  quota : Int
  affQuota : Int
  affHistoryQuota : Int
  positive : 0 < id

inductive DistWithdrawStatus where
  | pending
  | approved
  | rejected
  | cancelled
deriving DecidableEq

/-- A withdrawal is made by a user and holds an amount back. -/
structure DistributorWithdrawal where
  id : Int
  userId : Int
  accountType : Int
  realName : String
  bankName : String
  bankAccount : String
  profileData : String
  voucherUrls : String
  withdrawMonth : String
  quotaAmount : Int
  status : DistWithdrawStatus
  rejectReason : String := ""
  reviewerId : Int := 0
  reviewedAt : Int := 0
  cancelledAt : Int := 0
  createdAt : Int
  updatedAt : Int
  owned : 0 < userId
  reserves : 0 < quotaAmount

structure AffInviteRelation where
  inviterId : Int
  inviteeUserId : Int
  profitShareEarnedQuota : Int
deriving DecidableEq

def AffInviteRelation.pair (relation : AffInviteRelation) : Int × Int :=
  (relation.inviterId, relation.inviteeUserId)

structure AffInviteProfitShareLog where
  inviterId : Int
  inviteeUserId : Int
  channelId : Int
  modelName : String
  userQuotaCharged : Int
  markupSliceQuota : Int
  rewardQuota : Int
  commissionBps : Int
  createdAt : Int
deriving DecidableEq

structure Database where
  users : Table User.id
  withdrawals : Table DistributorWithdrawal.id
  relations : Table AffInviteRelation.pair
  profitShareLogs : List AffInviteProfitShareLog

structure DistributorWithdrawalProfile where
  idCardNo : String := ""
  idCardExpiry : String := ""
  mobile : String := ""
  bankReservedPhone : String := ""
  idCardFrontUrl : String := ""
  idCardBackUrl : String := ""
  bankCardPhotoUrl : String := ""
  creditCode : String := ""
  legalPersonName : String := ""
  legalPersonPhone : String := ""
  bankBranchCode : String := ""
  contactPerson : String := ""
  businessLicenseUrl : String := ""
  corporateAccountProofUrl : String := ""
  invoiceUrl : String := ""
deriving DecidableEq

/-- The settings, the JSON library, and the text of a quota. -/
structure Platform where
  quotaPerUnit : Rat
  distributorMinWithdrawQuota : String
  unmarshal : String → Option DistributorWithdrawalProfile
  marshal : DistributorWithdrawalProfile → Except String String
  logQuota : Int → String

def distributorApplyTypePersonal : Int := 1

def distributorApplyTypeEnterprise : Int := 2

/-- The texts that must be there, each with the refusal for its absence. -/
def requireAll (required : List (String × String)) : Except String Unit :=
  match required.find? fun entry => trimSpace entry.1 = "" with
  | some entry => .error entry.2
  | none => .ok ()

def distWithdrawRequireURL (label url : String) : String × String := (url, "请上传" ++ label)

namespace DistributorWithdrawalProfile
variable (profile : DistributorWithdrawalProfile)

def trimPersonal : DistributorWithdrawalProfile :=
  { profile with
    idCardNo := trimSpace profile.idCardNo
    idCardExpiry := trimSpace profile.idCardExpiry
    mobile := trimSpace profile.mobile
    bankReservedPhone := trimSpace profile.bankReservedPhone
    idCardFrontUrl := trimSpace profile.idCardFrontUrl
    idCardBackUrl := trimSpace profile.idCardBackUrl
    bankCardPhotoUrl := trimSpace profile.bankCardPhotoUrl
    invoiceUrl := trimSpace profile.invoiceUrl }

def trimEnterprise : DistributorWithdrawalProfile :=
  { profile with
    creditCode := trimSpace profile.creditCode
    legalPersonName := trimSpace profile.legalPersonName
    legalPersonPhone := trimSpace profile.legalPersonPhone
    bankBranchCode := trimSpace profile.bankBranchCode
    contactPerson := trimSpace profile.contactPerson
    businessLicenseUrl := trimSpace profile.businessLicenseUrl
    corporateAccountProofUrl := trimSpace profile.corporateAccountProofUrl
    invoiceUrl := trimSpace profile.invoiceUrl }

def requiredPersonal : List (String × String) :=
  [(profile.idCardNo, "请填写身份证号"), (profile.idCardExpiry, "请填写身份证有效期"),
    (profile.mobile, "请填写手机号"), (profile.bankReservedPhone, "请填写银行预留手机号"),
    distWithdrawRequireURL "身份证正面" profile.idCardFrontUrl,
    distWithdrawRequireURL "身份证反面" profile.idCardBackUrl,
    distWithdrawRequireURL "银行卡照" profile.bankCardPhotoUrl,
    distWithdrawRequireURL "发票" profile.invoiceUrl]

def requiredEnterprise : List (String × String) :=
  [(profile.creditCode, "请填写统一社会信用代码"), (profile.legalPersonName, "请填写法人姓名"),
    (profile.legalPersonPhone, "请填写法人手机号"), (profile.bankBranchCode, "请填写联行号"),
    (profile.contactPerson, "请填写联系人"),
    distWithdrawRequireURL "营业执照" profile.businessLicenseUrl,
    distWithdrawRequireURL "对公账户证明" profile.corporateAccountProofUrl,
    distWithdrawRequireURL "发票" profile.invoiceUrl]

end DistributorWithdrawalProfile

def normalizeDistributorWithdrawalProfile (platform : Platform) (accountType : Int)
    (profile : DistributorWithdrawalProfile) : Except String String :=
  if accountType = distributorApplyTypePersonal then do
    requireAll profile.trimPersonal.requiredPersonal
    platform.marshal profile.trimPersonal
  else if accountType = distributorApplyTypeEnterprise then do
    requireAll profile.trimEnterprise.requiredEnterprise
    platform.marshal profile.trimEnterprise
  else .error "账户类型无效"

structure WithdrawalForm where
  userId : Int
  accountType : Int
  realName : String
  bankName : String
  bankAccount : String
  profileJSON : String
  voucherUrlsJSON : String
  withdrawMonth : String
  quotaAmount : Int
deriving DecidableEq

structure CheckedForm extends WithdrawalForm where
  reserves : 0 < quotaAmount

/-- The pattern `^\d{4}-(0[1-9]|1[0-2])$`. -/
def isWithdrawMonth (text : String) : Bool :=
  match text.toList with
  | [y1, y2, y3, y4, dash, m1, m2] =>
    [y1, y2, y3, y4].all Char.isDigit && dash == '-' &&
      ((m1 == '0' && m2 ∈ ['1', '2', '3', '4', '5', '6', '7', '8', '9']) ||
        (m1 == '1' && m2 ∈ ['0', '1', '2']))
  | _ => false

def withdrawMonthOf (currentMonth month : String) : Except String String :=
  if trimSpace month = "" then .ok currentMonth
  else if isWithdrawMonth (trimSpace month) then .ok (trimSpace month)
  else .error "提现月份格式应为 YYYY-MM"

def profileOf (platform : Platform) (profileJSON : String) : Except String DistributorWithdrawalProfile :=
  if trimSpace profileJSON = "" then .ok {}
  else
    match platform.unmarshal (trimSpace profileJSON) with
    | none => .error "资料格式无效"
    | some profile => .ok profile

def checkAmount (form : WithdrawalForm) : Except String CheckedForm :=
  if positive : 0 < form.quotaAmount then .ok ⟨form, positive⟩ else .error "提现额度无效"

def WithdrawalForm.check (platform : Platform) (currentMonth : String) (form : WithdrawalForm) :
    Except String CheckedForm := do
  let enterprise := form.accountType = distributorApplyTypeEnterprise
  refuseIf (form.accountType ≠ distributorApplyTypePersonal ∧ ¬ enterprise) "账户类型无效"
  requireAll [(form.realName, if enterprise then "请填写企业名称" else "请填写姓名"),
    (form.bankName, "请填写开户行"), (form.bankAccount, if enterprise then "请填写对公卡号" else "请填写银行卡号")]
  let profile ← profileOf platform form.profileJSON
  let profileJSON ← normalizeDistributorWithdrawalProfile platform form.accountType profile
  let withdrawMonth ← withdrawMonthOf currentMonth form.withdrawMonth
  checkAmount { form with
    realName := trimSpace form.realName
    bankName := trimSpace form.bankName
    bankAccount := trimSpace form.bankAccount
    profileJSON, withdrawMonth
    voucherUrlsJSON := if trimSpace form.voucherUrlsJSON = "" then "[]" else trimSpace form.voucherUrlsJSON }

def getDistributorMinWithdrawQuota (platform : Platform) : Int :=
  ((atoi (trimSpace platform.distributorMinWithdrawQuota)).filter fun minimum => 0 < minimum).getD
    (intPart platform.quotaPerUnit)

def roleAdminUser : Int := 10

def roleDistributorUser : Int := 5

def distributorFlagYes : Int := 1

def userIsDistributor (user : User) : Bool :=
  user.role < roleAdminUser && (user.role = roleDistributorUser || user.isDistributor = distributorFlagYes)

/-- What is checked against the row that was read before the transaction. -/
def checkBalance (platform : Platform) (user : User) (quotaAmount : Int) : Except String Unit :=
  if ¬ userIsDistributor user then .error "仅分销商可申请提现"
  else if user.affQuota < quotaAmount then .error "待使用收益不足"
  else if user.affQuota ≥ getDistributorMinWithdrawQuota platform then
    if quotaAmount < getDistributorMinWithdrawQuota platform then .error "提现额度不能低于系统下限" else .ok ()
  else if quotaAmount < 1 ∨ quotaAmount > user.affQuota then .error "提现额度须在 1 与当前待使用余额之间"
  else .ok ()

/-- What a call meets: the clock, the id of a new row, and the error of each statement of its
transaction, the commit being the last one. -/
structure Circumstances where
  now : Int
  currentMonth : String
  newId : Int
  failure : Nat → Option String

def Circumstances.statement (met : Circumstances) (number : Nat) : Except String Unit :=
  match met.failure number with
  | none => .ok ()
  | some problem => .error problem

namespace User

section
variable (amount : Int)

def earn (user : User) : User :=
  { user with affQuota := user.affQuota + amount, affHistoryQuota := user.affHistoryQuota + amount }

def reserve (user : User) : User := { user with affQuota := user.affQuota - amount }

def refund (user : User) : User := { user with affQuota := user.affQuota + amount }

def transfer (user : User) : User :=
  { user with affQuota := user.affQuota - amount, quota := user.quota + amount }

theorem earn_id (user : User) : (user.earn amount).id = user.id := rfl

theorem reserve_id (user : User) : (user.reserve amount).id = user.id := rfl

theorem refund_id (user : User) : (user.refund amount).id = user.id := rfl

end

end User

def AffInviteRelation.share (reward : Int) (relation : AffInviteRelation) : AffInviteRelation :=
  { relation with profitShareEarnedQuota := relation.profitShareEarnedQuota + reward }

theorem AffInviteRelation.share_pair (reward : Int) (relation : AffInviteRelation) :
    (relation.share reward).pair = relation.pair := rfl

def maxAffiliateCommissionBps : Int := 10000

namespace Database
variable (db : Database) (met : Circumstances)

/-- A transaction that ends with an error is rolled back. -/
def transaction (body : Except String Database) : Except String Unit × Database :=
  match body with
  | .error reason => (.error reason, db)
  | .ok after => (.ok (), after)

def updateUser (id : Int) (change : User → User) (keeps : ∀ user, (change user).id = user.id)
    (missing : String) : Except String Database :=
  match db.users.lookup id with
  | none => .error missing
  | some _ => .ok { db with users := db.users.modify id change keeps }

/-- Any error of the query means that there is no such record. -/
def findWithdrawal (withdrawalId : Int) : Except String DistributorWithdrawal :=
  match met.failure 0, db.withdrawals.lookup withdrawalId with
  | none, some withdrawal => .ok withdrawal
  | _, _ => .error "记录不存在"

def distWithdrawRefundAffQuota (userId quota : Int) : Except String Database :=
  if userId ≤ 0 ∨ quota ≤ 0 then .ok db
  else do
    met.statement 1
    db.updateUser userId (User.refund quota) (User.refund_id quota) ("user not found: " ++ toString userId)

def creditDistributorProfitShare (inviterId inviteeUserId channelId : Int) (modelName : String)
    (userQuotaCharged markupSliceQuota rewardQuota commissionBps : Int) : Except String Unit × Database :=
  if inviterId ≤ 0 ∨ inviteeUserId ≤ 0 ∨ rewardQuota ≤ 0 then (.ok (), db)
  else db.transaction do
    met.statement 0
    let credited ← db.updateUser inviterId (User.earn rewardQuota) (User.earn_id rewardQuota)
      ("inviter user not found: " ++ toString inviterId)
    met.statement 1
    met.statement 2
    met.statement 3
    return { credited with
      relations := db.relations.modify (inviterId, inviteeUserId) (AffInviteRelation.share rewardQuota)
        (AffInviteRelation.share_pair rewardQuota)
      profitShareLogs := db.profitShareLogs ++ [{
        inviterId, inviteeUserId, channelId, userQuotaCharged, rewardQuota
        modelName := trimSpace modelName
        markupSliceQuota := max markupSliceQuota 0
        commissionBps := min (max commissionBps 0) maxAffiliateCommissionBps
        createdAt := met.now }] }

def increaseUserAffCommissionQuota (inviterId delta : Int) : Except String Unit × Database :=
  if inviterId ≤ 0 ∨ delta ≤ 0 then (.ok (), db)
  else db.transaction do
    met.statement 0
    db.updateUser inviterId (User.earn delta) (User.earn_id delta)
      ("inviter user not found: " ++ toString inviterId)

/-- The transaction of a new withdrawal; its `UPDATE` checks the balance again. -/
def reserve (form : CheckedForm) : Except String Database := do
  met.statement 0
  match (db.users.lookup form.userId).filter fun user => form.quotaAmount ≤ user.affQuota with
  | none => .error "待使用收益不足"
  | some user =>
    met.statement 1
    refuseIf (db.withdrawals.lookup met.newId ≠ none) "UNIQUE constraint failed: distributor_withdrawals.id"
    met.statement 2
    return { db with
      users := db.users.modify form.userId (User.reserve form.quotaAmount) (User.reserve_id form.quotaAmount)
      withdrawals := db.withdrawals.insert {
        id := met.newId
        userId := user.id
        accountType := form.accountType
        realName := form.realName
        bankName := form.bankName
        bankAccount := form.bankAccount
        profileData := form.profileJSON
        voucherUrls := form.voucherUrlsJSON
        withdrawMonth := form.withdrawMonth
        quotaAmount := form.quotaAmount
        status := .pending
        createdAt := met.now
        updatedAt := met.now
        owned := user.positive
        reserves := form.reserves } }

/-- `seen` is the user's row, or the error, that was read before the transaction. -/
def createDistributorWithdrawal (platform : Platform) (form : WithdrawalForm) (seen : Except String User) :
    Except String Unit × Database :=
  match (do
    let checked ← form.check platform met.currentMonth
    let user ← seen
    checkBalance platform user checked.quotaAmount
    return checked) with
  | .error reason => (.error reason, db)
  | .ok checked => db.transaction (db.reserve met checked)

def cancelDistributorWithdrawal (userId withdrawalId : Int) : Except String Unit × Database :=
  db.transaction do
    let withdrawal ← db.findWithdrawal met withdrawalId
    refuseIf (withdrawal.userId ≠ userId) "无权操作"
    refuseIf (withdrawal.status ≠ .pending) "当前状态不可取消"
    let refunded ← db.distWithdrawRefundAffQuota met userId withdrawal.quotaAmount
    met.statement 2
    return { refunded with withdrawals := db.withdrawals.save { withdrawal with
      status := .cancelled, cancelledAt := met.now, updatedAt := met.now } }

def approveDistributorWithdrawalAdmin (withdrawalId reviewerId : Int) : Except String Unit × Database :=
  db.transaction do
    let withdrawal ← db.findWithdrawal met withdrawalId
    refuseIf (withdrawal.status ≠ .pending) "当前状态不可审核"
    met.statement 1
    return { db with withdrawals := db.withdrawals.save { withdrawal with
      status := .approved, reviewerId, reviewedAt := met.now, updatedAt := met.now } }

/-- The characters that fit into a number of bytes. -/
def takeBytes : Nat → List Char → List Char
  | _, [] => []
  | room, char :: rest =>
    if char.utf8Size ≤ room then char :: takeBytes (room - char.utf8Size) rest else []

def rejectDistributorWithdrawalAdmin (withdrawalId reviewerId : Int) (reason : String) :
    Except String Unit × Database :=
  if trimSpace reason = "" then (.error "请填写驳回原因", db)
  else db.transaction do
    let withdrawal ← db.findWithdrawal met withdrawalId
    refuseIf (withdrawal.status ≠ .pending) "当前状态不可审核"
    let refunded ← db.distWithdrawRefundAffQuota met withdrawal.userId withdrawal.quotaAmount
    met.statement 2
    return { refunded with withdrawals := db.withdrawals.save { withdrawal with
      status := .rejected
      rejectReason := String.ofList (takeBytes 500 (trimSpace reason).toList)
      reviewerId, reviewedAt := met.now, updatedAt := met.now } }

def transferAffQuotaToQuota (platform : Platform) (userId quota : Int) : Except String Unit × Database :=
  if quota < platform.quotaPerUnit then
    (.error ("转移额度最小为" ++ platform.logQuota (intPart platform.quotaPerUnit) ++ "！"), db)
  else db.transaction do
    met.statement 0
    match db.users.lookup userId with
    | none => .error "record not found"
    | some user =>
      refuseIf (user.affQuota < quota) "邀请额度不足！"
      met.statement 1
      met.statement 2
      return { db with users := db.users.save (user.transfer quota) }

end Database

inductive Call where
  | creditDistributorProfitShare (inviterId inviteeUserId channelId : Int) (modelName : String)
      (userQuotaCharged markupSliceQuota rewardQuota commissionBps : Int)
  | increaseUserAffCommissionQuota (inviterId delta : Int)
  | createDistributorWithdrawal (form : WithdrawalForm) (seen : Except String User)
  | cancelDistributorWithdrawal (userId withdrawalId : Int)
  | approveDistributorWithdrawalAdmin (withdrawalId reviewerId : Int)
  | rejectDistributorWithdrawalAdmin (withdrawalId reviewerId : Int) (reason : String)
  | transferAffQuotaToQuota (userId quota : Int)

def Database.handle (platform : Platform) (db : Database) (met : Circumstances) :
    Call → Except String Unit × Database
  | .creditDistributorProfitShare inviterId inviteeUserId channelId modelName charged slice reward bps =>
    db.creditDistributorProfitShare met inviterId inviteeUserId channelId modelName charged slice reward bps
  | .increaseUserAffCommissionQuota inviterId delta => db.increaseUserAffCommissionQuota met inviterId delta
  | .createDistributorWithdrawal form seen => db.createDistributorWithdrawal met platform form seen
  | .cancelDistributorWithdrawal userId withdrawalId => db.cancelDistributorWithdrawal met userId withdrawalId
  | .approveDistributorWithdrawalAdmin withdrawalId reviewerId =>
    db.approveDistributorWithdrawalAdmin met withdrawalId reviewerId
  | .rejectDistributorWithdrawalAdmin withdrawalId reviewerId reason =>
    db.rejectDistributorWithdrawalAdmin met withdrawalId reviewerId reason
  | .transferAffQuotaToQuota userId quota => db.transferAffQuotaToQuota met platform userId quota

end TokenFactory.Affiliate
