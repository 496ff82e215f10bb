import TokenFactory.Subscription.Periods

namespace TokenFactory.Subscription

open Data

/-! A request is charged once and given back once, until the cleanup deletes its record. -/

/-- A record keeps its subscription and its amount, and a refund is not taken back. -/
def Database.KeepsRecords (before after : Database) : Prop :=
  ∀ requestId record, before.record? requestId = some record → ∃ status,
    after.record? requestId = some { record with status } ∧ (record.status = .refunded → status = .refunded)

variable {db after : Database}

theorem keepsRecords_of_records (same : after.records = db.records) : db.KeepsRecords after :=
  fun _ record found => ⟨record.status, by rwa [Database.record?, same], id⟩

theorem refund_keepsRecords (faults : RefundFaults) (db : Database) (requestId : String) :
    db.KeepsRecords (refundSubscriptionPreConsume faults db requestId).2 := by
  have effect := refund_effect faults db requestId
  generalize refundEffect faults db requestId = committed at effect
  rcases effect with ⟨same⟩ | ⟨record, saved, sub, found, _, _, called⟩
  · exact keepsRecords_of_records (congrArg Database.records same)
  rw [called]
  cases saved with
  | false => exact keepsRecords_of_records rfl
  | true =>
    intro other kept held
    have named := Table.key_of_lookup found
    by_cases own : other = requestId
    · subst own
      cases found.symm.trans held
      exact ⟨.refunded, Table.lookup_save_self found named, fun _ => rfl⟩
    · exact ⟨kept.status, (Table.lookup_save_other (named ▸ own)).trans held, id⟩

theorem resetRows_records (env : Env) (rows : List UserSubscription) :
    (resetRows env db rows).2.records = db.records := by
  induction rows generalizing db with
  | nil => rfl
  | cons sub rest ih =>
    unfold resetRows
    repeat' split
    all_goals first | rfl | exact ih

theorem expireUsers_records (now : Int) (users : List Int) :
    (users.foldl (expireUserTx now) db).records = db.records := by
  induction users generalizing db with
  | nil => rfl
  | cons userId rest ih =>
    rw [List.foldl_cons, ih]
    simp only [expireUserTx]
    repeat' split
    all_goals rfl

theorem commit_keepsRecords (db : Database) (transaction : Transaction) : db.KeepsRecords (commit db transaction) := by
  cases transaction with
  | preConsumeUserSubscription =>
    rcases preConsume_cases rfl with ⟨same, _⟩ | ⟨_, _, _, _, _, charge, _⟩
    · exact keepsRecords_of_records (congrArg Database.records same)
    · exact fun _ record found => ⟨record.status, charge.record_kept found, id⟩
  | postConsumeUserSubscriptionDelta =>
    rcases postConsume_cases rfl with ⟨same, _⟩ | ⟨_, _, _, _, _, same⟩
    all_goals exact keepsRecords_of_records ((congrArg Database.records same).trans rfl)
  | refundSubscriptionPreConsume => exact refund_keepsRecords _ db _
  | resetDueSubscriptions env => exact keepsRecords_of_records (resetRows_records env _)
  | expireDueSubscriptions env => exact keepsRecords_of_records (expireUsers_records env.now _)
  | _ =>
    refine keepsRecords_of_records ?_
    simp only [commit, createUserSubscriptionFromPlanTx, adminInvalidateUserSubscription,
      adminDeleteUserSubscription, downgradeUserGroupForSubscriptionTx]
    repeat' split
    all_goals rfl

/-- After a charge a further call for its request charges nothing, and after its refund none gives anything back. -/
theorem request_charged_once (start : Database) (transactions : List Transaction) :
    let final := run commit start transactions
    start.KeepsRecords final ∧ ∀ requestId record, start.record? requestId = some record →
      (∀ env fault userId amount, (preConsumeUserSubscription env fault final requestId userId amount).2 = final) ∧
      (record.status = .refunded → ∀ faults, (refundSubscriptionPreConsume faults final requestId).2 = final) := by
  intro final
  have kept : start.KeepsRecords final := by
    refine run_invariant (fun state transaction earlier requestId record found => ?_)
      (keepsRecords_of_records rfl) transactions
    obtain ⟨status, between, refunded⟩ := earlier requestId record found
    obtain ⟨last, later, still⟩ := commit_keepsRecords state transaction requestId _ between
    exact ⟨last, later, fun done => still (refunded done)⟩
  refine ⟨kept, fun requestId record found => ?_⟩
  obtain ⟨status, there, stays⟩ := kept requestId record found
  refine ⟨fun env fault userId amount => ?_, fun refunded faults => ?_⟩
  · rcases preConsume_cases rfl with ⟨same, _⟩ | ⟨_, _, _, _, _, charge, _⟩
    · exact same
    · cases charge.free.symm.trans there
  · rcases refund_cases rfl with ⟨same, _⟩ | ⟨_, _, found, consumed, _⟩
    · exact same
    · cases there.symm.trans found
      cases consumed.symm.trans (stays refunded)

end TokenFactory.Subscription
