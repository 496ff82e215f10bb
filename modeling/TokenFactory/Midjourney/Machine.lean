import TokenFactory.Midjourney.Poller

namespace TokenFactory.Midjourney

open Data Go

/-! The poller as a machine that does one thing at a time.

A statement about every run of the machine is one about every moment of every sequence
of passes. -/

inductive Work where
  | lost (channelId : Int) (taskIds : List String)
  | crash
  | item (now : Int) (item : MidjourneyDto)
deriving DecidableEq

def Surroundings.works (surroundings : Surroundings) (loaded : Tasks) (channelId : Int) : List Work :=
  match surroundings.cache.cacheGetChannel channelId with
  | none => [.lost channelId (channelTaskIds loaded channelId)]
  | some channel =>
    if channel.baseUrl = none then [.crash]
    else (surroundings.items loaded channelId).map fun item => .item item.1 item.2

def Poller.perform (poller : Poller) : Work → Polled
  | .lost channelId taskIds =>
    .ok { poller with tasks := mjBulkUpdate taskIds (lostChannel channelId) poller.tasks }
  | .crash => .error poller
  | .item now item => poller.receive now item

def Surroundings.passWorks (surroundings : Surroundings) (order : MapOrder) (tasks : Tasks) : List Work :=
  (order.arrange (channelKeys (loadTasks tasks))).flatMap (surroundings.works (loadTasks tasks))

section Works

variable {surroundings : Surroundings} {poller : Poller} {loaded : Tasks} {channelId : Int}

theorem Poller.visit_eq_works (asked : channelId ∈ channelKeys loaded) :
    poller.visit surroundings (channelTaskIds loaded) channelId =
      (surroundings.works loaded channelId).foldlM Poller.perform poller := by
  unfold Surroundings.works
  cases found : surroundings.cache.cacheGetChannel channelId with
  | none =>
    rw [Poller.visit_lost asked found]
    rfl
  | some channel =>
    dsimp only
    by_cases unset : channel.baseUrl = none
    · rw [Poller.visit_withoutBaseUrl asked found unset, if_pos unset]
      rfl
    · rw [Poller.visit_answered asked found unset, if_neg unset, List.foldlM_map]
      rfl

theorem Poller.pass_eq_works (surroundings : Surroundings) (order : MapOrder) (poller : Poller) :
    poller.updateMidjourneyTaskBulk surroundings order =
      (surroundings.passWorks order poller.tasks).foldlM Poller.perform poller.begin := by
  unfold Poller.updateMidjourneyTaskBulk Surroundings.passWorks
  have asked : ∀ channelId ∈ order.arrange (channelKeys (loadTasks poller.tasks)),
      channelId ∈ channelKeys (loadTasks poller.tasks) := fun _ => (order.perm _).mem_iff.mp
  revert asked
  dsimp only
  generalize order.arrange (channelKeys (loadTasks poller.tasks)) = channels
  generalize poller.begin = current
  intro asked
  induction channels generalizing current with
  | nil => rfl
  | cons channelId rest ih =>
    rw [List.foldlM_cons, List.flatMap_cons, List.foldlM_append, Poller.visit_eq_works (asked _ (.head _))]
    exact bind_congr fun next => ih next fun other among => asked other (.tail _ among)

end Works

/-- A panic in the poller ends the process. -/
structure Machine where
  poller : Poller
  todo : List Work := []
  running : Bool := true

inductive Event where
  | wake (surroundings : Surroundings) (order : MapOrder)
  | work

namespace Machine

def step (machine : Machine) : Event → Machine
  | .wake surroundings order =>
    if machine.running ∧ machine.todo = [] then
      { machine with
        poller := machine.poller.begin
        todo := surroundings.passWorks order machine.poller.tasks }
    else machine
  | .work =>
    match machine.todo with
    | [] => machine
    | work :: rest =>
      match machine.poller.perform work with
      | .ok next => { machine with poller := next, todo := rest }
      | .error stopped => { poller := stopped, todo := [], running := false }

def afterAll (running : Bool) : Polled → Machine
  | .ok after => { poller := after, running }
  | .error stopped => { poller := stopped, running := false }

theorem run_work_idle (poller : Poller) (running : Bool) (count : Nat) :
    run step { poller, running } (List.replicate count .work) = { poller, running } := by
  induction count with
  | zero => rfl
  | succ count ih => exact ih

theorem run_work (poller : Poller) (todo : List Work) (running : Bool) :
    run step { poller, todo, running } (List.replicate todo.length .work) =
      afterAll running (todo.foldlM Poller.perform poller) := by
  induction todo generalizing poller with
  | nil => rfl
  | cons work rest ih =>
    rw [List.length_cons, List.replicate_succ, run_cons, List.foldlM_cons]
    cases first : poller.perform work with
    | ok next =>
      have stepped : step ⟨poller, work :: rest, running⟩ .work = ⟨next, rest, running⟩ := by
        simp only [step, first]
      rw [stepped, ok_bind]
      exact ih next
    | error stopped =>
      have stepped : step ⟨poller, work :: rest, running⟩ .work = ⟨stopped, [], false⟩ := by
        simp only [step, first]
      rw [stepped, error_bind]
      exact run_work_idle stopped false rest.length

theorem run_pass (poller : Poller) (surroundings : Surroundings) (order : MapOrder) :
    run step { poller } (.wake surroundings order ::
      List.replicate (surroundings.passWorks order poller.tasks).length .work) =
        afterAll true (poller.updateMidjourneyTaskBulk surroundings order) := by
  have woken : step { poller } (.wake surroundings order) =
      { poller := poller.begin, todo := surroundings.passWorks order poller.tasks } := by
    simp only [step, and_self, ↓reduceIte]
  rw [run_cons, woken, Poller.pass_eq_works]
  exact run_work poller.begin (surroundings.passWorks order poller.tasks) true

end Machine

end TokenFactory.Midjourney
