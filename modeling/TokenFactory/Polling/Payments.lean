import TokenFactory.Polling.Absorbing

namespace TokenFactory.Polling

open Data Billing

/-! A task is refunded or settled at most once. -/

namespace Movement

def isRefund : Movement → Bool
  | .refund _ => true
  | .settlement _ _ => false

def isSettlement : Movement → Bool
  | .refund _ => false
  | .settlement _ _ => true

end Movement

namespace Phase

def owes : Phase → Bool
  | .bill _ due => due ≠ .nothing
  | _ => false

def refunding : Phase → Bool
  | .refundToken _ _ _ => true
  | .save _ failed _ => failed
  | _ => false

/-- A fetch settles only if its write is made. A Suno round refunds an unfinished
row for a final status, and then its write does not fail. -/
def ticketed (attempt : Attempt) (row : Task) : Phase → Bool
  | .update expected _ _ lost => lost ≠ .nothing → attempt.fault = none ∧ row.status = expected
  | .refund task _ => row.status.terminal = false ∧ task.status.terminal = true
  | .save _ failed _ => failed = true → attempt.fault = none
  | _ => true

def RefundsFinal : Phase → Prop
  | .refundToken task _ _ => task.status.terminal = true
  | .save task failed _ => failed = true → task.status.terminal = true
  | _ => True

end Phase

/-- The condition on a schedule. No other actor writes or pays while a Suno round
is between its refund and its write. -/
def Event.Ticketed (world : World) : Event → Prop
  | .advance index attempt => ∀ phase ∈ world.actors[index]?,
      phase.SavesOver attempt world.row ∧ phase.ticketed attempt world.row = true ∧
        (phase.refunding = true ∨ ∀ other ∈ world.actors, other.refunding = false)
  | event => event.Keeps world

instance (world : World) : (event : Event) → Decidable (event.Ticketed world)
  | .advance index _ => inferInstanceAs (Decidable (∀ _ ∈ world.actors[index]?, _ ∧ _ ∧ (_ ∨ _)))
  | .answer index reply => inferInstanceAs (Decidable ((Event.answer index reply).Keeps world))
  | .read .. => .isTrue trivial

def World.tickets (world : World) : Nat := world.ledger.length + world.actors.countP Phase.owes

/-- At most one payment is made or owed, and once there is one no other actor
can win the row. -/
structure World.PaidOnce (world : World) : Prop where
  sound : world.Sound
  final : ∀ phase ∈ world.actors, phase.RefundsFinal
  once : world.tickets ≤ 1
  taken : 0 < world.tickets →
    world.row.status.terminal = true ∨ ∃ phase ∈ world.actors, phase.refunding = true

theorem start_paidOnce (row : Task) (store : Store) : (World.start row store).PaidOnce where
  sound := start_sound row store
  final := fun _ member => absurd member List.not_mem_nil
  once := Nat.zero_le 1
  taken := fun started => absurd started (Nat.lt_irrefl 0)

variable {world : World}

theorem World.PaidOnce.tickets_eq_zero (paid : world.PaidOnce)
    (unfinished : world.row.status.terminal = false)
    (quiet : ∀ phase ∈ world.actors, phase.refunding = false) : world.tickets = 0 := by
  by_contra positive
  rcases paid.taken (Nat.pos_of_ne_zero positive) with finished | ⟨phase, member, refunding⟩
  · exact Bool.false_ne_true (unfinished ▸ finished)
  · exact Bool.false_ne_true (quiet phase member ▸ refunding)

/-! `phase` is replaced by `next` in the list of actors. -/

section Move

variable {world : World} {index : Nat} {phase next : Phase} {row : Task} {store : Store}

theorem split_actors (found : world.actors[index]? = some phase) (next : Phase) :
    ∃ left right, world.actors = left ++ phase :: right ∧
      world.actors.set index next = left ++ next :: right := by
  obtain ⟨inside, rfl⟩ := List.getElem?_eq_some_iff.mp found
  obtain ⟨left, right, whole, _, changed⟩ := List.exists_of_set inside
  exact ⟨left, right, whole, changed⟩

theorem owed_set (found : world.actors[index]? = some phase) (next : Phase) :
    (world.actors.set index next).countP Phase.owes + (if phase.owes then 1 else 0) =
      world.actors.countP Phase.owes + if next.owes then 1 else 0 := by
  obtain ⟨left, right, whole, changed⟩ := split_actors found next
  rw [changed, whole]
  simp only [List.countP_append, List.countP_cons]
  omega

theorem final_set (paid : world.PaidOnce) (kept : next.RefundsFinal) :
    ∀ other ∈ world.actors.set index next, other.RefundsFinal := by
  intro other member
  rcases List.mem_or_eq_of_mem_set member with old | rfl
  · exact paid.final other old
  · exact kept

/-- A round that is being refunded is still there when another actor has moved,
or when it has moved and goes on. -/
theorem refunding_set (found : world.actors[index]? = some phase)
    (goesOn : phase.refunding = true → next.refunding = true)
    (round : ∃ other ∈ world.actors, other.refunding = true) :
    ∃ other ∈ world.actors.set index next, other.refunding = true := by
  obtain ⟨left, right, whole, changed⟩ := split_actors found next
  obtain ⟨other, member, refunding⟩ := round
  rw [whole, List.mem_append, List.mem_cons] at member
  rw [changed]
  rcases member with before | rfl | after
  · exact ⟨other, List.mem_append_left _ before, refunding⟩
  · exact ⟨next, List.mem_append_right _ List.mem_cons_self, goesOn refunding⟩
  · exact ⟨other, List.mem_append_right _ (List.mem_cons_of_mem _ after), refunding⟩

theorem tickets_move (found : world.actors[index]? = some phase) (before : phase.owes = false)
    (after : next.owes = false) :
    World.tickets ⟨row, store, world.actors.set index next, world.ledger⟩ = world.tickets := by
  have count := owed_set found next
  rw [before, after] at count
  simpa [World.tickets] using count

section
variable (paid : world.PaidOnce) (found : world.actors[index]? = some phase) (next : Phase)
  (sound : next.Sound) (final : next.RefundsFinal)
include paid found sound final

theorem World.PaidOnce.move (before : phase.owes = false) (after : next.owes = false)
    (goesOn : phase.refunding = true → next.refunding = true)
    (kept : world.row.status.terminal = true → row.status.terminal = true) :
    World.PaidOnce ⟨row, store, world.actors.set index next, world.ledger⟩ := by
  refine ⟨World.Sound.set paid.sound sound, final_set paid final, ?_, ?_⟩ <;>
    rw [tickets_move found before after]
  · exact paid.once
  · intro started
    rcases paid.taken started with finished | round
    · exact .inl (kept finished)
    · exact .inr (refunding_set found goesOn round)

theorem World.PaidOnce.pass (before : phase.owes = false) (after : next.owes = false)
    (outside : phase.refunding = false) (kept : world.row.status.terminal = true → row.status.terminal = true) :
    World.PaidOnce ⟨row, store, world.actors.set index next, world.ledger⟩ := by
  apply paid.move found next sound final before after _ kept
  intro refunding
  exact (Bool.false_ne_true (outside ▸ refunding)).elim

theorem World.PaidOnce.write (before : phase.owes = false) (after : next.owes = false)
    (finished : row.status.terminal = true) :
    World.PaidOnce ⟨row, store, world.actors.set index next, world.ledger⟩ := by
  refine ⟨World.Sound.set paid.sound sound, final_set paid final, ?_, fun _ => .inl finished⟩
  rw [tickets_move found before after]
  exact paid.once

theorem World.PaidOnce.win (free : world.tickets = 0) (finished : row.status.terminal = true) :
    World.PaidOnce ⟨row, store, world.actors.set index next, world.ledger⟩ := by
  have count := owed_set found next
  refine ⟨World.Sound.set paid.sound sound, final_set paid final, ?_, fun _ => .inl finished⟩
  simp only [World.tickets] at free ⊢
  split at count <;> split at count <;> omega

theorem World.PaidOnce.pay (before : phase.owes = true) (after : next.owes = false)
    (closed : phase.refunding = false) {moved : List Movement} (single : moved.length ≤ 1) :
    World.PaidOnce ⟨world.row, store, world.actors.set index next, world.ledger ++ moved⟩ := by
  have count := owed_set found next
  rw [before, after] at count
  have once := paid.once
  have owed : 0 < world.tickets := by
    simp only [World.tickets]
    simp only [Bool.false_eq_true, if_true, if_false] at count
    omega
  refine ⟨World.Sound.set paid.sound sound, final_set paid final, ?_, fun _ => ?_⟩
  · simp only [World.tickets, List.length_append] at once ⊢
    simp only [Bool.false_eq_true, if_true, if_false] at count
    omega
  · rcases paid.taken owed with finished | round
    · exact .inl finished
    · exact .inr (refunding_set found (fun refunding => (Bool.false_ne_true (closed ▸ refunding)).elim)
        round)

theorem World.PaidOnce.refund (free : world.tickets = 0) (after : next.owes = false)
    (refunding : next.refunding = true) {moved : List Movement} (single : moved.length ≤ 1) :
    World.PaidOnce ⟨world.row, store, world.actors.set index next, world.ledger ++ moved⟩ := by
  have count := owed_set found next
  rw [after] at count
  refine ⟨World.Sound.set paid.sound sound, final_set paid final, ?_, fun _ => .inr ?_⟩
  · simp only [World.tickets, List.length_append] at free ⊢
    simp only [Bool.false_eq_true, if_false] at count
    omega
  · obtain ⟨left, right, _, changed⟩ := split_actors found next
    exact ⟨next, changed ▸ List.mem_append_right _ List.mem_cons_self, refunding⟩

end

end Move

theorem pay_single (attempt : Attempt) (row : Task) (store : Store) (task : Task) (bill : Bill)
    (next : Option Movement → Phase) : (pay attempt row store task bill next).paid.length ≤ 1 := by
  unfold pay
  split
  · exact Nat.zero_le 1
  · split
    · exact Nat.zero_le 1
    · exact Nat.le_refl 1

theorem pay_nothing (attempt : Attempt) (row : Task) (store : Store) (task : Task)
    (next : Option Movement → Phase) :
    pay attempt row store task .nothing next = ⟨row, store, [], next none⟩ := rfl

variable {phase : Phase}

theorem Phase.Reply.free (reply : phase.Reply) : phase.owes = false ∧ phase.RefundsFinal := by
  cases reply <;> exact ⟨rfl, trivial⟩

theorem Phase.free_of_waiting (waiting : phase.waiting = true) :
    phase.owes = false ∧ phase.refunding = false ∧ phase.RefundsFinal := by
  cases phase with
  | polling | pollingSuno | fetching => exact ⟨rfl, rfl, trivial⟩
  | _ => cases waiting

theorem read_preserves_paidOnce (paid : world.PaidOnce)
    (sound : phase.Sound) (free : phase.owes = false ∧ phase.RefundsFinal) :
    World.PaidOnce { world with actors := world.actors ++ [phase] } := by
  have same : World.tickets { world with actors := world.actors ++ [phase] } = world.tickets := by
    simp [World.tickets, List.countP_append, free.1]
  refine ⟨?_, ?_, ?_, ?_⟩
  · intro other member
    rcases List.mem_append.mp member with old | new
    · exact paid.sound other old
    · exact List.mem_singleton.mp new ▸ sound
  · intro other member
    rcases List.mem_append.mp member with old | new
    · exact paid.final other old
    · exact List.mem_singleton.mp new ▸ free.2
  · rw [same]
    exact paid.once
  · rw [same]
    intro started
    rcases paid.taken started with finished | ⟨other, member, refunding⟩
    · exact .inl finished
    · exact .inr ⟨other, List.mem_append_left _ member, refunding⟩

theorem answer_preserves_paidOnce {index : Nat} {answer : Answer}
    (paid : world.PaidOnce) (found : world.actors[index]? = some phase)
    (repeats : phase.Repeats answer) :
    World.PaidOnce { world with actors := world.actors.set index (phase.answered answer) } := by
  have own := paid.sound phase (List.mem_of_getElem? found)
  rcases answered_cases own repeats with same | ⟨waiting, reply⟩
  · obtain ⟨inside, rfl⟩ := List.getElem?_eq_some_iff.mp found
    rw [same, List.set_getElem_self]
    exact paid
  · obtain ⟨before, closed, _⟩ := Phase.free_of_waiting waiting
    apply paid.move found _ reply.sound reply.free.2 before reply.free.1
    · intro refunding
      exact (Bool.false_ne_true (closed ▸ refunding)).elim
    · exact id

def World.moved (world : World) (index : Nat) (turn : Turn) : World :=
  ⟨turn.row, turn.store, world.actors.set index turn.next, world.ledger ++ turn.paid⟩

section Statement

variable {world : World} {index : Nat} {attempt : Attempt} {task : Task} (paid : world.PaidOnce)
include paid

theorem update_preserves_paidOnce {expected : TaskStatus} {won lost : Bill}
    (found : world.actors[index]? = some (.update expected task won lost))
    (ticketed : (Phase.update expected task won lost).ticketed attempt world.row = true)
    (quiet : ∀ other ∈ world.actors, other.refunding = false) :
    (world.moved index ((Phase.update expected task won lost).advance attempt world.row
      world.store)).PaidOnce := by
  obtain ⟨repeats, final⟩ := paid.sound _ (List.mem_of_getElem? found)
  simp only [Phase.ticketed, decide_eq_true_eq] at ticketed
  simp only [Phase.advance, World.moved]
  split
  next written =>
    rw [List.append_nil]
    by_cases free : won = .nothing
    · subst free
      apply paid.pass found (.bill task .nothing) trivial trivial rfl rfl rfl
      intro finished
      rw [written.2] at finished
      rw [(repeats finished).1]
      exact finished
    · -- the write was guarded by an unfinished status: the row was unpaid
      have unfinished : world.row.status.terminal = false := by
        by_contra ended
        rw [Bool.not_eq_false, written.2] at ended
        exact free (repeats ended).2.1
      exact paid.win found (.bill task won) trivial trivial (paid.tickets_eq_zero unfinished quiet) (final free)
  next failed =>
    have free : lost = .nothing := by
      by_contra owed
      exact failed (ticketed owed)
    subst free
    rw [List.append_nil]
    exact paid.pass found (.bill task .nothing) trivial trivial rfl rfl rfl id

theorem bill_preserves_paidOnce {due : Bill} (found : world.actors[index]? = some (.bill task due)) :
    (world.moved index ((Phase.bill task due).advance attempt world.row world.store)).PaidOnce := by
  by_cases free : due = .nothing
  · subst free
    simp only [Phase.advance, pay_nothing, World.moved, List.append_nil]
    exact paid.pass found .idle trivial trivial rfl rfl rfl id
  · obtain ⟨movement, next⟩ := pay_next attempt world.row world.store task due (afterBill task)
    simp only [Phase.advance, World.moved, pay_row, next]
    have single := pay_single attempt world.row world.store task due (afterBill task)
    have owed : (Phase.bill task due).owes = true := decide_eq_true free
    cases movement with
    | none => exact paid.pay found .idle trivial trivial owed rfl rfl single
    | some movement => exact paid.pay found (.adjustToken task movement) trivial trivial owed rfl rfl single

variable {rest : List SunoDataResponse}

theorem refund_preserves_paidOnce (found : world.actors[index]? = some (.refund task rest))
    (ticketed : (Phase.refund task rest).ticketed attempt world.row = true)
    (quiet : ∀ other ∈ world.actors, other.refunding = false) :
    (world.moved index ((Phase.refund task rest).advance attempt world.row world.store)).PaidOnce := by
  simp only [Phase.ticketed, decide_eq_true_eq] at ticketed
  have free := paid.tickets_eq_zero ticketed.1 quiet
  obtain ⟨movement, next⟩ := pay_next attempt world.row world.store task .refund (afterRefund task rest)
  simp only [Phase.advance, World.moved, pay_row, next]
  have single := pay_single attempt world.row world.store task .refund (afterRefund task rest)
  cases movement with
  | none => exact paid.refund found (.save task true rest) trivial (fun _ => ticketed.2) free rfl rfl single
  | some movement =>
    exact paid.refund found (.refundToken task movement rest) trivial ticketed.2 free rfl rfl single

theorem save_preserves_paidOnce {failed : Bool}
    (found : world.actors[index]? = some (.save task failed rest))
    (saves : (Phase.save task failed rest).SavesOver attempt world.row)
    (ticketed : (Phase.save task failed rest).ticketed attempt world.row = true) :
    (world.moved index ((Phase.save task failed rest).advance attempt world.row
      world.store)).PaidOnce := by
  simp only [Phase.ticketed, decide_eq_true_eq] at ticketed
  simp only [Phase.advance, World.moved, List.append_nil]
  cases failed with
  | true =>
    have final : task.status.terminal = true := paid.final _ (List.mem_of_getElem? found) rfl
    rw [if_pos (ticketed rfl)]
    exact paid.write found (.items task rest) trivial trivial rfl rfl final
  | false =>
    apply paid.pass found (.items task rest) trivial trivial rfl rfl rfl
    intro finished
    split
    next stored => exact saves task rfl stored finished ▸ finished
    next => exact finished

theorem items_preserves_paidOnce (found : world.actors[index]? = some (.items task rest)) :
    (world.moved index ((Phase.items task rest).advance attempt world.row world.store)).PaidOnce := by
  cases rest with
  | nil =>
    simp only [Phase.advance, World.moved, List.append_nil]
    exact paid.pass found .idle trivial trivial rfl rfl rfl id
  | cons item rest =>
    simp only [Phase.advance, World.moved, List.append_nil]
    rcases updateSunoTask_cases task item rest with kept | ⟨next, failed⟩ | ⟨next, saved⟩
    · rw [kept]
      exact paid.pass found _ trivial trivial rfl rfl rfl id
    · rw [failed]
      exact paid.pass found _ trivial trivial rfl rfl rfl id
    · rw [saved]
      exact paid.pass found _ trivial Bool.false_ne_true.elim rfl rfl rfl id

end Statement

theorem advance_preserves_paidOnce {index : Nat} {attempt : Attempt}
    (paid : world.PaidOnce) (found : world.actors[index]? = some phase)
    (saves : phase.SavesOver attempt world.row) (ticketed : phase.ticketed attempt world.row = true)
    (alone : phase.refunding = true ∨ ∀ other ∈ world.actors, other.refunding = false) :
    (world.moved index (phase.advance attempt world.row world.store)).PaidOnce := by
  have own := paid.sound phase (List.mem_of_getElem? found)
  cases phase with
  | update expected task won lost =>
    exact update_preserves_paidOnce paid found ticketed (alone.resolve_left Bool.false_ne_true)
  | bill task due => exact bill_preserves_paidOnce paid found
  | refund task rest => exact refund_preserves_paidOnce paid found ticketed (alone.resolve_left Bool.false_ne_true)
  | save task failed rest => exact save_preserves_paidOnce paid found saves ticketed
  | items task rest => exact items_preserves_paidOnce paid found
  | refundToken task movement rest =>
    have final : task.status.terminal = true := paid.final _ (List.mem_of_getElem? found)
    simp only [Phase.advance, World.moved, List.append_nil]
    exact paid.move found (.save task true rest) trivial (fun _ => final) rfl rfl (fun _ => rfl) id
  | adjustToken task movement =>
    simp only [Phase.advance, World.moved, List.append_nil]
    cases movement <;> exact paid.pass found _ trivial trivial rfl rfl rfl id
  | recordQuota task actual =>
    simp only [Phase.advance, World.moved, List.append_nil]
    apply paid.pass found .idle trivial trivial rfl rfl rfl
    intro finished
    split <;> exact finished
  | idle | polling | pollingSuno | fetching =>
    simp only [Phase.advance, World.moved, List.append_nil]
    exact paid.pass found _ own trivial rfl rfl rfl id

theorem step_preserves_paidOnce (world : World) (event : Event) (paid : world.PaidOnce)
    (ticketed : event.Ticketed world) : (world.step event).PaidOnce := by
  cases event with
  | read actor moment =>
    simp only [World.step]
    cases read : actor.read moment world.row with
    | none => exact paid
    | some phase =>
      rcases read_cases read with ⟨waiting, sound⟩ | reply
      · obtain ⟨before, _, final⟩ := Phase.free_of_waiting waiting
        exact read_preserves_paidOnce paid sound ⟨before, final⟩
      · exact read_preserves_paidOnce paid reply.sound reply.free
  | answer index answer =>
    simp only [World.step]
    cases found : world.actors[index]? with
    | none => exact paid
    | some phase => exact answer_preserves_paidOnce paid found (ticketed phase found)
  | advance index attempt =>
    simp only [World.step]
    cases found : world.actors[index]? with
    | none => exact paid
    | some phase =>
      obtain ⟨saves, own, alone⟩ := ticketed phase found
      exact advance_preserves_paidOnce paid found saves own alone

theorem billed_at_most_once {ledger : List Movement} (once : ledger.length ≤ 1) :
    ledger.countP Movement.isRefund ≤ 1 ∧ ledger.countP Movement.isSettlement ≤ 1 ∧
      (ledger.countP Movement.isRefund = 0 ∨ ledger.countP Movement.isSettlement = 0) := by
  match ledger with
  | [] => decide
  | [.refund quota] => exact ⟨Nat.le_refl 1, Nat.zero_le 1, .inr rfl⟩
  | [.settlement actual delta] => exact ⟨Nat.zero_le 1, Nat.le_refl 1, .inl rfl⟩
  | _ :: _ :: rest =>
    simp only [List.length_cons] at once
    omega

theorem task_billing_at_most_once (row : Task) (store : Store) (events : List Event)
    (ticketed : Guarded World.step (fun world event => event.Ticketed world) (.start row store) events) :
    let ledger := (run World.step (.start row store) events).ledger
    ledger.countP Movement.isRefund ≤ 1 ∧ ledger.countP Movement.isSettlement ≤ 1 ∧
      (ledger.countP Movement.isRefund = 0 ∨ ledger.countP Movement.isSettlement = 0) := by
  have paid := ticketed.invariant step_preserves_paidOnce (start_paidOnce row store)
  have once := paid.once
  simp only [World.tickets] at once
  apply billed_at_most_once
  omega

def finishedInfo : TaskInfo := { status := "SUCCESS", totalTokens := 150 }

def bothInformed : List Event :=
  [.read (.fetch .openAIVideo) later, .read .poller later,
    .answer 0 (.fetch later (some ⟨finishedInfo, "{}"⟩)),
    .answer 1 (.video later (some ⟨finishedInfo, "{}", .unrecognized⟩))]

def fetchFirst : List Event :=
  bothInformed ++ [.advance 0 noFault, .advance 1 noFault, .advance 1 noFault, .advance 0 noFault]

def pollerFirst : List Event :=
  bothInformed ++ [.advance 1 noFault, .advance 0 noFault, .advance 1 noFault, .advance 0 noFault]

theorem task_billing_at_most_once_fetch_first :
    let ledger := (run World.step (.start (runningTask (.channel 58)) taskStore) fetchFirst).ledger
    ledger = [.settlement 150 50] ∧ ledger.countP Movement.isRefund ≤ 1 ∧
      ledger.countP Movement.isSettlement ≤ 1 ∧
      (ledger.countP Movement.isRefund = 0 ∨ ledger.countP Movement.isSettlement = 0) :=
  ⟨by decide +kernel, task_billing_at_most_once _ _ _ (by decide +kernel)⟩

theorem fetch_settles_again_after_poller :
    (run World.step (.start (runningTask (.channel 58)) taskStore) pollerFirst).ledger =
      [.settlement 150 50, .settlement 150 50] := by
  decide +kernel

end TokenFactory.Polling
