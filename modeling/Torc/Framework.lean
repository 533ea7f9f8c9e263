import Torc.Api

/-! The framework as its threads run together: the scheduler thread, on which the Mesos library
runs the callbacks of `TorcScheduler` one after the other, the health supervisor, the
state-sync loop and the admin API.  Each is a `Prog`, and the actor serves their requests one at a time, in any
interleaving.

What the task table stands for is the life of a task: filed `Requested`, `Accepted` once an offer is
matched to it, `Running` once Mesos reports it running, and gone once Mesos reports it killed.
`Lifecycle` says this for one name, and the main result is that the framework refines it: from any
state the actor can reach, every step of every interleaving moves each name's state along
`Lifecycle` or leaves it.  So a task never goes back while it has an entry: an `Accepted` or
`Running` task is not filed `Requested` again, and a `Running` one is not set `Accepted`.

Three facts of the code carry this.  The supervisor files only names it found without an entry,
and no other thread files tasks (`Supervised`).  The offers callback sets `Accepted` only on tasks of
its snapshot of `Requested` tasks, and nothing moves those tasks on while it runs, since the status
updates that could are callbacks of the same thread (`Scheduled`).  The status update callback
sets only `Running`, and removes only killed tasks.  The admin API runs beside them too, and as long
as no one asks it for a group start it only reads the tables.  A group start files tasks anew
whatever their state, which `Lifecycle` forbids; with group starts, a step moves a name along
`Lifecycle` or files it `Requested` anew, and nothing else. -/

namespace Torc

open Prog

/-- A step of one thread against the actor: it sends its next request and gets the reply, learns
the master's answer, or reads the clock. -/
inductive ThreadStep {α : Type} : Prog α × State → Prog α × State → Prop
  | request {r : StateRequestMsg} {k : StateResponseMsg → Prog α} {state state' : State}
      {reply : StateResponseMsg} :
      serve state r = .ok (reply, state') → ThreadStep (.request r k, state) (k reply, state')
  | call {c : Mesos.Call} {k : Bool → Prog α} {state : State} (ok : Bool) :
      ThreadStep (.call c k, state) (k ok, state)
  | now {k : Int → Prog α} {state : State} (t : Int) : ThreadStep (.now k, state) (k t, state)

/-- A step of a thread whose requests all satisfy `P` keeps its spec, and leaves the tables as they
are or changes them by one request that satisfies `P`. -/
theorem Prog.Spec.threadStep {α : Type} {P : StateRequestMsg → Prop} {Q : Mesos.Call → Prop}
    {R : α → Prop} {p p' : Prog α} {state state' : State} (h : p.Spec P Q R)
    (hs : ThreadStep (p, state) (p', state')) :
    p'.Spec P Q R ∧ (state' = state ∨ ∃ r, P r ∧ state' = state.handle r) := by
  cases hs with
  | request hs => exact ⟨h.2 _, .inr ⟨_, h.1, (serve_eq_ok.mp hs).2⟩⟩
  | call ok => exact ⟨h.2 ok, .inl rfl⟩
  | now t => exact ⟨h t, .inl rfl⟩

/-- A thread that only reads leaves the tables as they are. -/
theorem Prog.Spec.readerStep {α : Type} {Q : Mesos.Call → Prop} {R : α → Prop} {p p' : Prog α}
    {state state' : State} (h : p.Spec StateRequestMsg.Reader Q R)
    (hs : ThreadStep (p, state) (p', state')) :
    p'.Spec StateRequestMsg.Reader Q R ∧ state' = state := by
  obtain ⟨hp', rfl | ⟨r, hr, rfl⟩⟩ := h.threadStep hs
  · exact ⟨hp', rfl⟩
  · exact ⟨hp', hr.handle state⟩

/-! ### The threads -/

namespace TorcScheduler

/-- An event that the Mesos library delivers to the scheduler; `logged` stands for `message`,
`failure`, `error`, `heartbeat` and `disconnected`, whose callbacks only log. -/
inductive Event where
  | subscribed
  | inverseOffers (offerIds : List String)
  | offers (batch : List Mesos.Offer)
  | update (status : Mesos.TaskStatus)
  | logged

/-- The callback of `TorcScheduler` for an event.  `subscribed` also stores the client for
`kill_task`, outside the actor. -/
def callback (decode : List UInt8 → Except String Json) : Event → Prog Unit
  | .subscribed => callUnwrap (.reconcile [])
  | .inverseOffers offerIds => callUnwrap (.decline offerIds)
  | .offers batch => offers batch
  | .update status => update decode status
  | .logged => ret ()

/-- `run_scheduler`: a ping, then the callbacks of the events in the order the library delivers
them, one after the other. -/
def runScheduler (decode : List UInt8 → Except String Json) (events : List Event) : Prog Unit := do
  StateManager.sendPing
  events.forM (callback decode)

end TorcScheduler

/-- The loop of `start_syncing`, `turns` turns of it: each lists the `Running` tasks, which the
loop posts to the registry from its own thread. -/
def StateManager.syncLoop : Nat → Prog Unit
  | 0 => ret ()
  | turns + 1 => do
    let _ ← startSyncing
    syncLoop turns

/-! ### The scheduler thread -/

open TorcScheduler

/-- A program that runs callbacks one after the other.  Its requests are readers, the requests of
`update`, after which it holds no snapshot (`none`), or, when it holds the snapshot `snapshot` of
the `Requested` tasks that `GetRequestedTasks` gave it, the requests of `offers` on that
snapshot. -/
def Scheduled {α : Type} : Option (List Task) → Prog α → Prop
  | _, .ret _ => True
  | m, .request r k =>
    (r = .getRequestedTasks ∧
      ∀ snapshot, Scheduled (some snapshot) (k (.getRequestedTasks snapshot))) ∨
    (r.Reader ∧ ∀ reply, Scheduled m (k reply)) ∨
    (∃ snapshot, m = some snapshot ∧ OffersRequest snapshot r ∧ ∀ reply, Scheduled m (k reply)) ∨
    (UpdateRequest r ∧ ∀ reply, Scheduled none (k reply))
  | m, .call _ k => ∀ ok, Scheduled m (k ok)
  | m, .now k => ∀ t, Scheduled m (k t)
  | _, .panic _ => True

section Scheduled

variable {α β : Type}

theorem Scheduled.bind {m : Option (List Task)} {p : Prog α} (hp : Scheduled m p)
    {f : α → Prog β} (hf : ∀ a m, Scheduled m (f a)) : Scheduled m (p >>= f) := by
  induction p generalizing m with
  | ret a => exact hf a m
  | request r k ih =>
    rcases hp with ⟨hr, hk⟩ | ⟨hr, hk⟩ | ⟨snapshot, hm, hr, hk⟩ | ⟨hr, hk⟩
    · exact .inl ⟨hr, fun snapshot => ih _ (hk snapshot)⟩
    · exact .inr (.inl ⟨hr, fun reply => ih reply (hk reply)⟩)
    · exact .inr (.inr (.inl ⟨snapshot, hm, hr, fun reply => ih reply (hk reply)⟩))
    · exact .inr (.inr (.inr ⟨hr, fun reply => ih reply (hk reply)⟩))
  | call c k ih => exact fun ok => ih ok (hp ok)
  | now k ih => exact fun t => ih t (hp t)
  | panic msg => trivial

theorem scheduled_of_offersRequest {snapshot : List Task} {p : Prog α} {Q : Mesos.Call → Prop}
    {R : α → Prop} (hp : p.Spec (OffersRequest snapshot) Q R) : Scheduled (some snapshot) p := by
  induction p with
  | ret a => trivial
  | request r k ih => exact .inr (.inr (.inl ⟨snapshot, rfl, hp.1, fun reply => ih reply (hp.2 reply)⟩))
  | call c k ih => exact fun ok => ih ok (hp.2 ok)
  | now k ih => exact fun t => ih t (hp t)
  | panic msg => trivial

theorem scheduled_of_updateRequest {p : Prog α} {Q : Mesos.Call → Prop} {R : α → Prop}
    (hp : p.Spec UpdateRequest Q R) (m : Option (List Task)) : Scheduled m p := by
  induction p generalizing m with
  | ret a => trivial
  | request r k ih => exact .inr (.inr (.inr ⟨hp.1, fun reply => ih reply (hp.2 reply) none⟩))
  | call c k ih => exact fun ok => ih ok (hp.2 ok) m
  | now k ih => exact fun t => ih t (hp t) m
  | panic msg => trivial

end Scheduled

/-- The offers callback takes its snapshot and then sends only the requests of `offers` on it. -/
theorem scheduled_offers (batch : List Mesos.Offer) (m : Option (List Task)) :
    Scheduled m (offers batch) := by
  match batch with
  | [] => trivial
  | first :: rest =>
    obtain ⟨g, hg, hspec⟩ := offers_cons first rest
    rw [hg]
    exact .inl ⟨rfl, fun snapshot => scheduled_of_offersRequest (hspec snapshot)⟩

theorem scheduled_callback (decode : List UInt8 → Except String Json) (event : Event)
    (m : Option (List Task)) : Scheduled m (callback decode event) := by
  cases event with
  | subscribed | inverseOffers => exact fun ok => by cases ok <;> trivial
  | offers batch => exact scheduled_offers batch m
  | update status => exact scheduled_of_updateRequest (spec_update decode status) m
  | logged => trivial

theorem scheduled_runScheduler (decode : List UInt8 → Except String Json) (events : List Event) :
    Scheduled none (runScheduler decode events) := by
  refine .inr (.inl ⟨trivial, fun _ => ?_⟩)
  show Scheduled none (events.forM (callback decode))
  suffices h : ∀ m, Scheduled m (events.forM (callback decode)) from h none
  induction events with
  | nil => exact fun _ => trivial
  | cons event events ih =>
    intro m
    rw [List.forM_cons']
    exact (scheduled_callback decode event m).bind fun _ => ih

/-! ### The life of a task -/

/-- The state of the entry of `n`, `none` when there is none: the abstraction of the table that
`Lifecycle` speaks of. -/
def taskStateOf (state : State) (n : String) : Option TaskState :=
  (state.taskList.lookup n).map (·.state)

section TaskStateOf

variable (state : State) (n : String)

/-- A change of the entry of `k` that keeps the task's state keeps every name's state. -/
theorem taskStateOf_modifyEntry {state' : State} {k : String} {f : Task → Task}
    (h : state'.taskList = modifyEntry state.taskList k f) (hf : ∀ task, (f task).state = task.state) :
    taskStateOf state' n = taskStateOf state n := by
  unfold taskStateOf
  rw [h, lookup_modifyEntry]
  split_ifs with hn
  · subst hn
    cases state.taskList.lookup n <;> simp [hf]
  · rfl

@[simp] theorem taskStateOf_updateTaskInfo (k id ip slaveId : String) :
    taskStateOf (state.handle (.updateTaskInfo k id ip slaveId)) n = taskStateOf state n :=
  taskStateOf_modifyEntry state n rfl fun _ => rfl

@[simp] theorem taskStateOf_updateTaskNodeName (k nodeName : String) :
    taskStateOf (state.handle (.updateTaskNodeName k nodeName)) n = taskStateOf state n :=
  taskStateOf_modifyEntry state n rfl fun _ => rfl

theorem taskStateOf_updateTaskState (k : String) (s : TaskState) :
    taskStateOf (state.handle (.updateTaskState k s)) n =
      if n = k then (taskStateOf state k).map fun _ => s else taskStateOf state n := by
  unfold taskStateOf
  simp only [State.handle, updateTaskState_taskList, TaskList.lookup_setTaskState]
  split_ifs
  · cases state.taskList.lookup k <;> rfl
  · rfl

theorem taskStateOf_removeTask (k : String) :
    taskStateOf (state.handle (.removeTask k)) n = if n = k then none else taskStateOf state n := by
  unfold taskStateOf
  simp only [State.handle, TaskList.lookup_removeTaskByName]
  split_ifs <;> rfl

theorem taskStateOf_startTask (task : Task) :
    taskStateOf (state.handle (.startTask task)) n =
      if n = task.name then some task.state else taskStateOf state n := by
  unfold taskStateOf
  simp only [State.handle, TaskList.lookup_addNewTask]
  split_ifs <;> rfl

theorem taskStateOf_eq_none {state : State} {n : String} (hn : n ∉ state.taskList) :
    taskStateOf state n = none := by
  rw [taskStateOf, AList.lookup_eq_none.mpr hn, Option.map_none']

end TaskStateOf

/-- One step in the life of a task, `none` standing for no entry: filed `Requested`, matched to an
offer, reported running (from any state, since a report may arrive late), or gone. -/
inductive Lifecycle : Option TaskState → Option TaskState → Prop
  | stay (s : Option TaskState) : Lifecycle s s
  | file : Lifecycle none (some .requested)
  | accept : Lifecycle (some .requested) (some .accepted)
  | run (s : TaskState) : Lifecycle (some s) (some .running)
  | remove (s : Option TaskState) : Lifecycle s none

/-- Every name moves along `Lifecycle` from `state` to `state'`. -/
def Refines (state state' : State) : Prop :=
  ∀ n, Lifecycle (taskStateOf state n) (taskStateOf state' n)

theorem Refines.refl (state : State) : Refines state state := fun _ => .stay _

theorem StateRequestMsg.Reader.noStart {r : StateRequestMsg} (hr : r.Reader) : NoStart r := by
  cases r <;> first | exact ⟨trivial, fun _ => nofun⟩ | exact hr.elim

/-- `update` moves a task to `Running` or removes it, and changes no other task's state. -/
theorem refines_updateRequest {r : StateRequestMsg} (hr : UpdateRequest r) (state : State) :
    Refines state (state.handle r) := by
  intro n
  cases r <;> try exact hr.elim
  case getNode => exact .stay _
  case updateTaskInfo => rw [taskStateOf_updateTaskInfo]; exact .stay _
  case updateTaskState taskName taskState =>
    cases (hr : taskState = .running)
    rw [taskStateOf_updateTaskState]
    split_ifs with h
    · subst h
      cases taskStateOf state n with
      | none => exact .stay _
      | some s => exact .run s
    · exact .stay _
  case removeTask taskName =>
    rw [taskStateOf_removeTask]
    split_ifs
    · exact .remove _
    · exact .stay _

/-- The tasks of a snapshot still have entries, `Requested` or `Accepted`. -/
def SnapshotLive (snapshot : List Task) (state : State) : Prop :=
  ∀ task ∈ snapshot, taskStateOf state task.name = some .requested ∨
    taskStateOf state task.name = some .accepted

/-- While its snapshot is live, a request of `offers` moves a task only from `Requested` to
`Accepted`, and keeps the snapshot live. -/
theorem refines_offersRequest {snapshot : List Task} {state : State}
    (hlive : SnapshotLive snapshot state) {r : StateRequestMsg} (hr : OffersRequest snapshot r) :
    Refines state (state.handle r) ∧ SnapshotLive snapshot (state.handle r) := by
  cases r <;> try exact hr.elim
  case getRequestedTasks | getIsNodeActive | getTaskState | updateNode =>
    exact ⟨Refines.refl state, hlive⟩
  case updateTaskState taskName taskState =>
    obtain ⟨rfl, task, hmem, rfl⟩ := hr
    refine ⟨fun n => ?_, fun task' hmem' => ?_⟩ <;> rw [taskStateOf_updateTaskState] <;>
      split_ifs with h
    · subst h
      rcases hlive task hmem with hst | hst <;> rw [hst]
      exacts [.accept, .stay _]
    · exact .stay _
    · rcases hlive task hmem with hst | hst <;> rw [hst] <;> exact .inr rfl
    · exact hlive task' hmem'
  case updateTaskNodeName =>
    exact ⟨fun n => by rw [taskStateOf_updateTaskNodeName]; exact .stay _,
      fun task hmem => by rw [taskStateOf_updateTaskNodeName]; exact hlive task hmem⟩

/-- Filing a `Requested` task under a name without an entry is the first step of its life. -/
theorem refines_startTask {state : State} {task : Task} (hn : task.name ∉ state.taskList)
    (hreq : task.state = .requested) : Refines state (state.handle (.startTask task)) := by
  intro n
  rw [taskStateOf_startTask]
  split_ifs with h
  · subst h
    rw [taskStateOf_eq_none hn, hreq]
    exact .file
  · exact .stay _

/-- A `Requested` task filed under any name leaves a live snapshot live. -/
theorem SnapshotLive.startTask {snapshot : List Task} {state : State}
    (hlive : SnapshotLive snapshot state) {task : Task} (hreq : task.state = .requested) :
    SnapshotLive snapshot (state.handle (.startTask task)) := by
  intro task' hmem
  rw [taskStateOf_startTask]
  split_ifs
  · exact .inl (congrArg some hreq)
  · exact hlive task' hmem

/-! ### The threads' positions -/

/-- The scheduler thread's position: it runs callbacks one after the other, and the snapshot it
holds, if any, is live. -/
def SchedAt {α : Type} (cfg : Prog α × State) : Prop :=
  ∃ m, Scheduled m cfg.1 ∧ ∀ snapshot, m = some snapshot → SnapshotLive snapshot cfg.2

/-- A request of the scheduler thread: it is no `StartTask`, it moves tasks along their life, and
it leaves the thread where its knowledge holds. -/
theorem schedAt_request {α : Type} {r : StateRequestMsg} {k : StateResponseMsg → Prog α}
    {state state' : State} {reply : StateResponseMsg} (hinv : TablesInv state)
    (h : SchedAt (.request r k, state)) (hs : serve state r = .ok (reply, state')) :
    SchedAt (k reply, state') ∧ Refines state state' ∧ NoStart r := by
  obtain ⟨m, hp, hm⟩ := h
  obtain ⟨hreply, rfl⟩ := serve_eq_ok.mp hs
  rcases hp with ⟨rfl, hk⟩ | ⟨hr, hk⟩ | ⟨snapshot, rfl, hr, hk⟩ | ⟨hr, hk⟩
  · cases hreply
    refine ⟨⟨_, hk _, fun _ h task hmem => ?_⟩, Refines.refl _, ⟨trivial, fun _ => nofun⟩⟩
    cases h
    obtain ⟨hlookup, hst⟩ := lookup_of_mem_getTasksWithState hinv.names hmem
    show taskStateOf state task.name = _ ∨ _
    rw [taskStateOf, hlookup, Option.map_some', hst]
    exact .inl rfl
  · rw [hr.handle]
    exact ⟨⟨m, hk reply, hm⟩, Refines.refl _, hr.noStart⟩
  · obtain ⟨href, hlive⟩ := refines_offersRequest (hm snapshot rfl) hr
    exact ⟨⟨_, hk reply, fun _ h => by cases h; exact hlive⟩, href, noStart_of_offersRequest hr⟩
  · exact ⟨⟨none, hk reply, nofun⟩, refines_updateRequest hr state, noStart_of_updateRequest hr⟩

theorem SchedAt.startTask {α : Type} {p : Prog α} {state : State} (h : SchedAt (p, state))
    {task : Task} (hreq : task.state = .requested) : SchedAt (p, state.handle (.startTask task)) :=
  let ⟨m, hp, hm⟩ := h
  ⟨m, hp, fun snapshot hs => (hm snapshot hs).startTask hreq⟩

/-- A step of the scheduler thread: its knowledge stays true, it moves tasks along their life, and
it changes the tables, if at all, by a request that is no `StartTask`. -/
theorem schedAt_step {α : Type} {p p' : Prog α} {state state' : State} (hinv : TablesInv state)
    (h : SchedAt (p, state)) (hs : ThreadStep (p, state) (p', state')) :
    SchedAt (p', state') ∧ Refines state state' ∧
      (state' = state ∨ ∃ r, NoStart r ∧ state' = state.handle r) := by
  cases hs with
  | request hs =>
    obtain ⟨hsched, href, hno⟩ := schedAt_request hinv h hs
    exact ⟨hsched, href, .inr ⟨_, hno, (serve_eq_ok.mp hs).2⟩⟩
  | call ok =>
    obtain ⟨m, hp, hm⟩ := h
    exact ⟨⟨m, hp ok, hm⟩, Refines.refl _, .inl rfl⟩
  | now t =>
    obtain ⟨m, hp, hm⟩ := h
    exact ⟨⟨m, hp t, hm⟩, Refines.refl _, .inl rfl⟩

/-- The supervisor's requests: readers, and `Requested` tasks filed under names without an
entry. -/
theorem HealthAt.request_cases {α : Type} {r : StateRequestMsg} {k : StateResponseMsg → Prog α}
    {state : State} (h : HealthAt (.request r k, state)) :
    r.Reader ∨ ∃ task, r = .startTask task ∧ task.name ∉ state.taskList ∧ task.state = .requested := by
  obtain ⟨-, m, hp, hm⟩ := h
  cases m with
  | none => exact .inl hp.1
  | some n =>
    rcases hp.request_some with ⟨hr, -⟩ | ⟨task, rfl, rfl, hreq, -⟩
    · exact .inl hr
    · exact .inr ⟨task, rfl, hm _ rfl, hreq⟩

/-- A step of the supervisor: its knowledge stays true, it moves tasks along their life, and it
changes the tables, if at all, by filing a `Requested` task. -/
theorem healthAt_threadStep {α : Type} {p p' : Prog α} {state state' : State}
    (h : HealthAt (p, state)) (hs : ThreadStep (p, state) (p', state')) :
    HealthAt (p', state') ∧ Refines state state' ∧
      (state' = state ∨ ∃ task : Task, task.state = .requested ∧ state' = state.handle (.startTask task)) := by
  cases hs with
  | request hs =>
    have hnew := healthAt_request h hs
    obtain ⟨-, rfl⟩ := serve_eq_ok.mp hs
    rcases h.request_cases with hr | ⟨task, rfl, hn, hreq⟩
    · rw [hr.handle] at hnew ⊢
      exact ⟨hnew, Refines.refl _, .inl rfl⟩
    · exact ⟨hnew, refines_startTask hn hreq, .inr ⟨task, hreq, rfl⟩⟩
  | call ok =>
    obtain ⟨-, m, hp, -⟩ := h
    cases m <;> exact hp.elim
  | now t =>
    obtain ⟨hinv, m, hp, hm⟩ := h
    exact ⟨⟨hinv, m, by cases m <;> exact hp t, hm⟩, Refines.refl _, .inl rfl⟩

/-- The sync loop only reads. -/
theorem spec_syncLoop (turns : Nat) :
    (StateManager.syncLoop turns).Spec StateRequestMsg.Reader (fun _ => False) fun _ => True := by
  induction turns with
  | zero => trivial
  | succ turns ih =>
    exact Spec.bind (R := fun _ => True) ⟨trivial, fun reply => by cases reply <;> trivial⟩
      fun _ _ => ih

/-! ### The framework -/

/-- The framework's threads that talk to the actor, and the actor's state. -/
structure Framework where
  scheduler : Prog Unit
  health : Prog Unit
  sync : Prog Unit
  api : Prog (List Api.Response)
  state : State

/-- The framework as `main` starts it: the scheduler thread on the events the library will
deliver, the supervisor on the configured system services, the sync loop, the admin API on the
HTTP requests it will get, and the actor in the state `state`. -/
def Framework.start (manager : StateManager) (decode : List UInt8 → Except String Json)
    (events : List Event) (systemServices : List Config.Task) (ticks turns : Nat)
    (mesosClientSet : Bool) (serviceGroups : Option (List Api.ServiceGroup))
    (apiRequests : List Api.Request) (state : State) : Framework :=
  ⟨runScheduler decode events, manager.runHealthChecker systemServices ticks,
    StateManager.syncLoop turns, Api.runApi manager mesosClientSet serviceGroups apiRequests, state⟩

/-- A step of the framework: one of its threads steps against the actor. -/
inductive Framework.Step : Framework → Framework → Prop
  | scheduler {cfg : Framework} {p : Prog Unit} {state : State} :
      ThreadStep (cfg.scheduler, cfg.state) (p, state) →
      Framework.Step cfg { cfg with scheduler := p, state := state }
  | health {cfg : Framework} {p : Prog Unit} {state : State} :
      ThreadStep (cfg.health, cfg.state) (p, state) →
      Framework.Step cfg { cfg with health := p, state := state }
  | sync {cfg : Framework} {p : Prog Unit} {state : State} :
      ThreadStep (cfg.sync, cfg.state) (p, state) →
      Framework.Step cfg { cfg with sync := p, state := state }
  | api {cfg : Framework} {p : Prog (List Api.Response)} {state : State} :
      ThreadStep (cfg.api, cfg.state) (p, state) →
      Framework.Step cfg { cfg with api := p, state := state }

/-- What holds at the start and every step keeps holds at every configuration a run reaches. -/
theorem Framework.Step.invariant {I : Framework → Prop}
    (hstep : ∀ {cfg cfg'}, I cfg → Framework.Step cfg cfg' → I cfg') {cfg₀ cfg : Framework}
    (h₀ : I cfg₀) (hrun : Relation.ReflTransGen Framework.Step cfg₀ cfg) : I cfg := by
  induction hrun with
  | refl => exact h₀
  | tail _ hs ih => exact hstep ih hs

/-! ### Running an interleaving

An interleaving picked thread by thread, with the master's answers and the clock as `env` gives
them, is a run of `Framework.Step`. -/

/-- The threads of the framework that talk to the actor. -/
inductive Thread where
  | scheduler
  | health
  | sync
  | api
  deriving DecidableEq, Repr

/-- The step a thread takes when the master answers and the clock reads as `env` says; none when it
has returned or panicked, or the actor panics on its request. -/
def ThreadStep.next {α : Type} (env : Env) : Prog α × State → Option (Prog α × State)
  | (.request r k, state) =>
    match serve state r with
    | .ok (reply, state') => some (k reply, state')
    | .error _ => none
  | (.call c k, state) => some (k (env.callOk c), state)
  | (.now k, state) => some (k env.now, state)
  | _ => none

theorem ThreadStep.of_next {α : Type} {env : Env} {cfg cfg' : Prog α × State}
    (h : ThreadStep.next env cfg = some cfg') : ThreadStep cfg cfg' := by
  obtain ⟨p, state⟩ := cfg
  cases p with
  | request r k =>
    cases hs : serve state r with
    | ok v =>
      simp only [next, hs, Option.some.injEq] at h
      subst h
      exact .request hs
    | error e => simp [next, hs] at h
  | call c k => cases h; exact .call _
  | now k => cases h; exact .now _
  | ret _ | panic _ => cases h

/-- The framework after `thread` takes the step `ThreadStep.next` gives. -/
def Framework.next (env : Env) (cfg : Framework) : Thread → Option Framework
  | .scheduler => (ThreadStep.next env (cfg.scheduler, cfg.state)).map fun s =>
      { cfg with scheduler := s.1, state := s.2 }
  | .health => (ThreadStep.next env (cfg.health, cfg.state)).map fun s =>
      { cfg with health := s.1, state := s.2 }
  | .sync => (ThreadStep.next env (cfg.sync, cfg.state)).map fun s =>
      { cfg with sync := s.1, state := s.2 }
  | .api => (ThreadStep.next env (cfg.api, cfg.state)).map fun s =>
      { cfg with api := s.1, state := s.2 }

/-- The framework after its threads step in the order `schedule` names them. -/
def Framework.interleave (env : Env) (cfg : Framework) : List Thread → Option Framework
  | [] => some cfg
  | thread :: schedule => (cfg.next env thread).bind fun cfg' => cfg'.interleave env schedule

theorem Framework.Step.of_next {env : Env} {cfg cfg' : Framework} {thread : Thread}
    (h : cfg.next env thread = some cfg') : Framework.Step cfg cfg' := by
  cases thread <;> obtain ⟨⟨p, state⟩, hs, rfl⟩ := Option.map_eq_some'.mp h
  · exact .scheduler (ThreadStep.of_next hs)
  · exact .health (ThreadStep.of_next hs)
  · exact .sync (ThreadStep.of_next hs)
  · exact .api (ThreadStep.of_next hs)

theorem Framework.reflTransGen_of_interleave {env : Env} {cfg cfg' : Framework}
    {schedule : List Thread} (h : cfg.interleave env schedule = some cfg') :
    Relation.ReflTransGen Framework.Step cfg cfg' := by
  induction schedule generalizing cfg with
  | nil => cases h; exact .refl
  | cons thread schedule ih =>
    obtain ⟨cfg₁, h₁, h⟩ := Option.bind_eq_some.mp h
    exact .head (Framework.Step.of_next h₁) (ih h)

/-- What holds at every configuration the framework reaches while the API gets no group start:
the supervisor's and the scheduler thread's knowledge is true of the actor's state, the tables keep
their invariant, and the sync loop and the API only read. -/
structure Framework.Inv (cfg : Framework) : Prop where
  health : HealthAt (cfg.health, cfg.state)
  scheduler : SchedAt (cfg.scheduler, cfg.state)
  sync : cfg.sync.Spec StateRequestMsg.Reader (fun _ => False) fun _ => True
  api : cfg.api.Spec StateRequestMsg.Reader (fun _ => True) fun _ => True

theorem Framework.Inv.start (manager : StateManager) (decode : List UInt8 → Except String Json)
    (events : List Event) (systemServices : List Config.Task) (ticks turns : Nat)
    (mesosClientSet : Bool) (serviceGroups : Option (List Api.ServiceGroup))
    {apiRequests : List Api.Request} (hapi : ∀ request ∈ apiRequests, ¬Api.IsGroupStart request)
    {controllerIp : String} {state : State} (h : Reachable controllerIp state) :
    (Framework.start manager decode events systemServices ticks turns mesosClientSet serviceGroups
      apiRequests state).Inv :=
  ⟨⟨h.tablesInv, none, supervised_runHealthChecker manager systemServices ticks, nofun⟩,
    ⟨none, scheduled_runScheduler decode events, nofun⟩, spec_syncLoop turns,
    (Api.spec_runApi_reader manager mesosClientSet serviceGroups hapi).mono (fun _ h => h)
      (fun _ _ => trivial) fun _ h => h⟩

/-- Every step keeps the invariant and moves every task along its life. -/
theorem Framework.Inv.step {cfg cfg' : Framework} (h : cfg.Inv) (hstep : Framework.Step cfg cfg') :
    cfg'.Inv ∧ Refines cfg.state cfg'.state := by
  obtain ⟨scheduler, health, sync, api, state⟩ := cfg
  obtain ⟨hhealth, hsched, hsync, hapi⟩ := h
  cases hstep with
  | scheduler hs =>
    obtain ⟨hsched', href, rfl | ⟨r, hno, rfl⟩⟩ := schedAt_step hhealth.1 hsched hs
    · exact ⟨⟨hhealth, hsched', hsync, hapi⟩, href⟩
    · exact ⟨⟨hhealth.handle hno, hsched', hsync, hapi⟩, href⟩
  | health hs =>
    obtain ⟨hhealth', href, rfl | ⟨task, hreq, rfl⟩⟩ := healthAt_threadStep hhealth hs
    · exact ⟨⟨hhealth', hsched, hsync, hapi⟩, href⟩
    · exact ⟨⟨hhealth', hsched.startTask hreq, hsync, hapi⟩, href⟩
  | sync hs =>
    obtain ⟨hsync', rfl⟩ := hsync.readerStep hs
    exact ⟨⟨hhealth, hsched, hsync', hapi⟩, Refines.refl _⟩
  | api hs =>
    obtain ⟨hapi', rfl⟩ := hapi.readerStep hs
    exact ⟨⟨hhealth, hsched, hsync, hapi'⟩, Refines.refl _⟩

/-- The framework refines the life of a task.  Start the scheduler thread on any events, the
supervisor on any system services, the sync loop, and the admin API on any requests but a group
start, from any state the actor can reach; in every interleaving of their requests, every step
moves the state of every task name along `Lifecycle`: a name without an entry is filed `Requested`,
a `Requested` task becomes `Accepted`, any task becomes `Running`, or the entry goes; nothing else
changes a task's state. -/
theorem framework_refines_lifecycle (manager : StateManager)
    (decode : List UInt8 → Except String Json) (events : List Event)
    (systemServices : List Config.Task) (ticks turns : Nat) (mesosClientSet : Bool)
    (serviceGroups : Option (List Api.ServiceGroup)) {apiRequests : List Api.Request}
    (hapi : ∀ request ∈ apiRequests, ¬Api.IsGroupStart request) {controllerIp : String}
    {state₀ : State} (h₀ : Reachable controllerIp state₀) {cfg cfg' : Framework}
    (hrun : Relation.ReflTransGen Framework.Step (Framework.start manager decode events
      systemServices ticks turns mesosClientSet serviceGroups apiRequests state₀) cfg)
    (hstep : Framework.Step cfg cfg') (n : String) :
    Lifecycle (taskStateOf cfg.state n) (taskStateOf cfg'.state n) := by
  have hinv := Framework.Step.invariant (I := Framework.Inv) (fun h hs => (h.step hs).1)
    (Framework.Inv.start manager decode events systemServices ticks turns mesosClientSet
      serviceGroups hapi h₀) hrun
  exact (hinv.step hstep).2 n

/-- The framework whose supervisor keeps `dns-a` for one tick and whose scheduler thread gets an offer
of nothing, then the news that `dns-a` was killed, from the empty tables. -/
def offerFramework : Framework :=
  Framework.start torcManager (fun _ => .error "")
    [.offers [emptyOffer "o1"], .update ⟨"dns-a", .taskKilled, "s1", []⟩] [dnsAService] 1 0 false none []
    (State.new "")

/-- Once the supervisor has filed `dns-a` and the scheduler thread has matched it to the offer, the
scheduler's `UpdateTaskState` takes it from `Requested` to `Accepted`. -/
theorem framework_refines_lifecycle_accept :
    (∀ request ∈ ([] : List Api.Request), ¬Api.IsGroupStart request) ∧ Reachable "" (State.new "") ∧
    ∃ cfg cfg', offerFramework.interleave ⟨fun _ => true, 0⟩
        (List.replicate 4 Thread.health ++ List.replicate 4 Thread.scheduler) = some cfg ∧
      cfg.next ⟨fun _ => true, 0⟩ .scheduler = some cfg' ∧
      taskStateOf cfg.state "dns-a" = some .requested ∧ taskStateOf cfg'.state "dns-a" = some .accepted ∧
      Relation.ReflTransGen Framework.Step offerFramework cfg ∧ Framework.Step cfg cfg' ∧
      Lifecycle (taskStateOf cfg.state "dns-a") (taskStateOf cfg'.state "dns-a") := by
  have hapi : ∀ request ∈ ([] : List Api.Request), ¬Api.IsGroupStart request := nofun
  obtain ⟨cfg, cfg', hcfg, hcfg', hbefore, hafter⟩ : ∃ cfg cfg', offerFramework.interleave
      ⟨fun _ => true, 0⟩ (List.replicate 4 Thread.health ++ List.replicate 4 Thread.scheduler) = some cfg ∧
      cfg.next ⟨fun _ => true, 0⟩ .scheduler = some cfg' ∧
      taskStateOf cfg.state "dns-a" = some .requested ∧ taskStateOf cfg'.state "dns-a" = some .accepted :=
    ⟨_, _, rfl, rfl, rfl, rfl⟩
  have hrun := Framework.reflTransGen_of_interleave hcfg
  have hstep := Framework.Step.of_next hcfg'
  exact ⟨hapi, .new, cfg, cfg', hcfg, hcfg', hbefore, hafter, hrun, hstep,
    framework_refines_lifecycle torcManager (fun _ => .error "") _ [dnsAService] 1 0 false none hapi .new
      hrun hstep "dns-a"⟩

/-! ### Group starts

With the API free to start groups, the supervisor no longer knows that the names it files have no
entry: the API may have filed one in between.  What is left is that every thread but the scheduler
only reads and files `Requested` tasks. -/

/-- A request that reads, or files a `Requested` task. -/
def FilingRequest (r : StateRequestMsg) : Prop :=
  r.Reader ∨ ∃ task, r = .startTask task ∧ task.state = .requested

/-- The supervisor, whatever it knows, only reads and files `Requested` tasks. -/
theorem spec_of_supervised {α : Type} {m : Option String} {p : Prog α} (h : Supervised m p) :
    p.Spec FilingRequest (fun _ => False) fun _ => True := by
  induction p generalizing m with
  | ret a => trivial
  | request r k ih =>
    cases m with
    | none => exact ⟨.inl h.1, fun reply => ih reply (h.2 reply)⟩
    | some n =>
      rcases h.request_some with ⟨hr, hk⟩ | ⟨task, rfl, -, hreq, hk⟩
      · exact ⟨.inl hr, fun reply => ih reply (hk reply)⟩
      · exact ⟨.inr ⟨task, rfl, hreq⟩, fun reply => ih reply (hk reply)⟩
  | call c k ih => cases m <;> exact h.elim
  | now k ih => cases m <;> exact fun t => ih t (h t)
  | panic msg => trivial

/-- A step of `Lifecycle`, or the name filed `Requested` anew, whatever its task's state was. -/
def Refiles (state state' : State) : Prop :=
  ∀ n, Lifecycle (taskStateOf state n) (taskStateOf state' n) ∨
    taskStateOf state' n = some .requested

theorem Refines.refiles {state state' : State} (h : Refines state state') : Refiles state state' :=
  fun n => .inl (h n)

theorem refiles_startTask (state : State) {task : Task} (hreq : task.state = .requested) :
    Refiles state (state.handle (.startTask task)) := by
  intro n
  rw [taskStateOf_startTask]
  split_ifs
  · exact .inr (congrArg some hreq)
  · exact .inl (.stay _)

/-- A step of a thread that only reads and files `Requested` tasks keeps the tables' invariant and
the scheduler thread's knowledge, and refiles. -/
theorem filing_step {α β : Type} {Q : Mesos.Call → Prop} {R : α → Prop} {p p' : Prog α}
    {scheduler : Prog β} {state state' : State} (h : p.Spec FilingRequest Q R)
    (hinv : TablesInv state) (hsched : SchedAt (scheduler, state))
    (hs : ThreadStep (p, state) (p', state')) :
    p'.Spec FilingRequest Q R ∧ TablesInv state' ∧ SchedAt (scheduler, state') ∧
      Refiles state state' := by
  obtain ⟨hp', rfl | ⟨r, hr | ⟨task, rfl, hreq⟩, rfl⟩⟩ := h.threadStep hs
  · exact ⟨hp', hinv, hsched, (Refines.refl _).refiles⟩
  · rw [hr.handle]
    exact ⟨hp', hinv, hsched, (Refines.refl _).refiles⟩
  · exact ⟨hp', hinv.handle hreq, hsched.startTask hreq, refiles_startTask state hreq⟩

/-- What holds at every configuration the framework reaches, whatever the API is asked: the tables
keep their invariant, the scheduler thread's knowledge is true, and the other threads only read
and file `Requested` tasks. -/
structure Framework.FilingInv (cfg : Framework) : Prop where
  tables : TablesInv cfg.state
  health : cfg.health.Spec FilingRequest (fun _ => False) fun _ => True
  scheduler : SchedAt (cfg.scheduler, cfg.state)
  sync : cfg.sync.Spec FilingRequest (fun _ => False) fun _ => True
  api : cfg.api.Spec FilingRequest (fun _ => True) fun _ => True

theorem Framework.FilingInv.start (manager : StateManager)
    (decode : List UInt8 → Except String Json) (events : List Event)
    (systemServices : List Config.Task) (ticks turns : Nat) (mesosClientSet : Bool)
    (serviceGroups : Option (List Api.ServiceGroup)) (apiRequests : List Api.Request)
    {controllerIp : String} {state : State} (h : Reachable controllerIp state) :
    (Framework.start manager decode events systemServices ticks turns mesosClientSet serviceGroups
      apiRequests state).FilingInv :=
  ⟨h.tablesInv, spec_of_supervised (supervised_runHealthChecker manager systemServices ticks),
    ⟨none, scheduled_runScheduler decode events, nofun⟩,
    (spec_syncLoop turns).mono (fun _ => .inl) (fun _ h => h) fun _ h => h,
    (Api.spec_runApi manager mesosClientSet serviceGroups apiRequests).mono
      (fun _ h => h.imp_right fun ⟨task, hr, hreq, _⟩ => ⟨task, hr, hreq⟩) (fun _ _ => trivial)
      fun _ h => h⟩

/-- Every step keeps the invariant, and moves every task along its life or files it anew. -/
theorem Framework.FilingInv.step {cfg cfg' : Framework} (h : cfg.FilingInv)
    (hstep : Framework.Step cfg cfg') : cfg'.FilingInv ∧ Refiles cfg.state cfg'.state := by
  obtain ⟨scheduler, health, sync, api, state⟩ := cfg
  obtain ⟨hinv, hhealth, hsched, hsync, hapi⟩ := h
  cases hstep with
  | scheduler hs =>
    obtain ⟨hsched', href, rfl | ⟨r, hno, rfl⟩⟩ := schedAt_step hinv hsched hs
    · exact ⟨⟨hinv, hhealth, hsched', hsync, hapi⟩, href.refiles⟩
    · exact ⟨⟨hinv.handle hno.1, hhealth, hsched', hsync, hapi⟩, href.refiles⟩
  | health hs =>
    obtain ⟨hhealth', hinv', hsched', href⟩ := filing_step hhealth hinv hsched hs
    exact ⟨⟨hinv', hhealth', hsched', hsync, hapi⟩, href⟩
  | sync hs =>
    obtain ⟨hsync', hinv', hsched', href⟩ := filing_step hsync hinv hsched hs
    exact ⟨⟨hinv', hhealth, hsched', hsync', hapi⟩, href⟩
  | api hs =>
    obtain ⟨hapi', hinv', hsched', href⟩ := filing_step hapi hinv hsched hs
    exact ⟨⟨hinv', hhealth, hsched', hsync, hapi'⟩, href⟩

/-- A group start is the one way out of `Lifecycle`.  Start the threads as above, with the admin
API on any requests, from any state the actor can reach; in every interleaving, every step moves
the state of every task name along `Lifecycle`, or files the name `Requested` anew.  So a task is
still accepted only when `Requested`, and runs only when a status update says so. -/
theorem framework_lifecycle_or_refiled (manager : StateManager)
    (decode : List UInt8 → Except String Json) (events : List Event)
    (systemServices : List Config.Task) (ticks turns : Nat) (mesosClientSet : Bool)
    (serviceGroups : Option (List Api.ServiceGroup)) (apiRequests : List Api.Request)
    {controllerIp : String} {state₀ : State} (h₀ : Reachable controllerIp state₀)
    {cfg cfg' : Framework}
    (hrun : Relation.ReflTransGen Framework.Step (Framework.start manager decode events
      systemServices ticks turns mesosClientSet serviceGroups apiRequests state₀) cfg)
    (hstep : Framework.Step cfg cfg') (n : String) :
    Lifecycle (taskStateOf cfg.state n) (taskStateOf cfg'.state n) ∨
      taskStateOf cfg'.state n = some .requested := by
  have hinv := Framework.Step.invariant (I := Framework.FilingInv) (fun h hs => (h.step hs).1)
    (Framework.FilingInv.start manager decode events systemServices ticks turns mesosClientSet
      serviceGroups apiRequests h₀) hrun
  exact (hinv.step hstep).2 n

/-- The framework whose API is asked to start the group `dns` of the one service `dns-a`, from
tables where `dns-a` is `Running`. -/
def groupStartFramework : Framework :=
  Framework.start torcManager (fun _ => .error "") [] [] 0 0 false (some [⟨some "dns", some [dnsAService]⟩])
    [⟨.get, "/start/group", some "name=dns"⟩] dnsARunningN1

/-- The group start files the `Running` task `dns-a` anew, `Requested`. -/
theorem framework_lifecycle_or_refiled_group :
    Reachable "" dnsARunningN1 ∧
    ∃ cfg cfg', groupStartFramework.interleave ⟨fun _ => true, 0⟩ [Thread.api, Thread.api] = some cfg ∧
      cfg.next ⟨fun _ => true, 0⟩ .api = some cfg' ∧
      taskStateOf cfg.state "dns-a" = some .running ∧ taskStateOf cfg'.state "dns-a" = some .requested ∧
      Relation.ReflTransGen Framework.Step groupStartFramework cfg ∧ Framework.Step cfg cfg' ∧
      (Lifecycle (taskStateOf cfg.state "dns-a") (taskStateOf cfg'.state "dns-a") ∨
        taskStateOf cfg'.state "dns-a" = some .requested) := by
  obtain ⟨cfg, cfg', hcfg, hcfg', hbefore, hafter⟩ : ∃ cfg cfg',
      groupStartFramework.interleave ⟨fun _ => true, 0⟩ [Thread.api, Thread.api] = some cfg ∧
      cfg.next ⟨fun _ => true, 0⟩ .api = some cfg' ∧
      taskStateOf cfg.state "dns-a" = some .running ∧ taskStateOf cfg'.state "dns-a" = some .requested :=
    ⟨_, _, rfl, rfl, rfl, rfl⟩
  have hrun := Framework.reflTransGen_of_interleave hcfg
  have hstep := Framework.Step.of_next hcfg'
  exact ⟨reachable_dnsARunningN1, cfg, cfg', hcfg, hcfg', hbefore, hafter, hrun, hstep,
    framework_lifecycle_or_refiled torcManager (fun _ => .error "") [] [] 0 0 false _ _
      reachable_dnsARunningN1 hrun hstep "dns-a"⟩

end Torc
