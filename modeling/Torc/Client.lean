import Torc.Actor

/-! The threads that talk to the State Actor (the scheduler's callbacks, the health supervisor,
the state sync and the admin API) as programs: a `Prog` finishes, sends a request to the actor and
waits for the reply, calls the Mesos master and learns whether the call succeeded, reads the wall
clock, or panics.  `Prog.run` runs a program against the actor alone, with the master's answers
and the clock given by an `Env`; when the actor panics, the thread waiting for its reply panics
too, since `recv().unwrap()` fails on the closed channel.

`Prog.Spec P Q R p` says that every request `p` can send satisfies `P`, every call to the master
satisfies `Q` and every value it returns satisfies `R`, whatever the replies; it is how the later
modules bound what a thread can do to the tables and to the master, one lemma per function.

The methods of `StateManager` that wrap a request are the stubs at the end: each sends one
request and reads the reply, with the default the source gives for a reply of another kind.
`send_start_task` is the one with logic of its own: it resolves the `$MASTER_IP` and
`$IP_DNS_SL1` tokens of the arguments in the caller's thread, before the request. -/

namespace Torc

/-- A thread of the framework. -/
inductive Prog (α : Type) where
  | ret (a : α)
  | request (r : StateRequestMsg) (k : StateResponseMsg → Prog α)
  | call (c : Mesos.Call) (k : Bool → Prog α)
  | now (k : Int → Prog α)
  | panic (msg : String)

namespace Prog

variable {α β : Type}

/-- Runs `p`, then `f` on its result. -/
def bind : Prog α → (α → Prog β) → Prog β
  | ret a, f => f a
  | request r k, f => request r fun reply => bind (k reply) f
  | call c k, f => call c fun ok => bind (k ok) f
  | now k, f => now fun t => bind (k t) f
  | panic msg, _ => panic msg

instance : Monad Prog where
  pure := ret
  bind := bind

@[simp] theorem pure_eq (a : α) : (pure a : Prog α) = ret a := rfl

@[simp] theorem ret_bind (a : α) (f : α → Prog β) : (ret a >>= f) = f a := rfl

@[simp] theorem request_bind (r : StateRequestMsg) (k : StateResponseMsg → Prog α)
    (f : α → Prog β) : (request r k >>= f) = request r fun reply => k reply >>= f := rfl

@[simp] theorem call_bind (c : Mesos.Call) (k : Bool → Prog α) (f : α → Prog β) :
    (call c k >>= f) = call c fun ok => k ok >>= f := rfl

@[simp] theorem now_bind (k : Int → Prog α) (f : α → Prog β) :
    (now k >>= f) = now fun t => k t >>= f := rfl

@[simp] theorem panic_bind (msg : String) (f : α → Prog β) : (panic msg >>= f) = panic msg := rfl

theorem bind_ret (p : Prog α) : p >>= ret = p := by
  induction p with
  | ret a => rfl
  | request r k ih => simp only [request_bind, ih]
  | call c k ih => simp only [call_bind, ih]
  | now k ih => simp only [now_bind, ih]
  | panic msg => rfl

theorem bind_assoc (p : Prog α) (f : α → Prog β) (g : β → Prog γ) :
    p >>= f >>= g = p >>= fun a => f a >>= g := by
  induction p with
  | ret a => rfl
  | request r k ih => simp only [request_bind, ih]
  | call c k ih => simp only [call_bind, ih]
  | now k ih => simp only [now_bind, ih]
  | panic msg => rfl

instance : LawfulMonad Prog :=
  LawfulMonad.mk' Prog (fun p => bind_ret p) (fun _ _ => rfl) bind_assoc

/-! ### Running a thread against the actor -/

/-- What the world outside the actor answers: whether each call to the master succeeds, and the
time the clock shows. -/
structure Env where
  callOk : Mesos.Call → Bool
  now : Int

/-- Where a thread stops: its value or its panic, the actor's state, and the calls it made to the
master, in order. -/
structure Outcome (α : Type) where
  result : Except String α
  state : State
  calls : List Mesos.Call

/-- Runs a thread alone against the actor. -/
def run (env : Env) : Prog α → State → Outcome α
  | ret a, state => ⟨.ok a, state, []⟩
  | request r k, state =>
    match serve state r with
    | .ok (reply, state') => run env (k reply) state'
    | .error _ => ⟨.error (unwrapFailed "RecvError"), state, []⟩
  | call c k, state =>
    let o := run env (k (env.callOk c)) state
    { o with calls := c :: o.calls }
  | now k, state => run env (k env.now) state
  | panic msg, state => ⟨.error msg, state, []⟩

variable (env : Env)

@[simp] theorem run_ret (a : α) (state : State) : run env (ret a) state = ⟨.ok a, state, []⟩ :=
  rfl

@[simp] theorem run_panic (msg : String) (state : State) :
    run env (panic msg : Prog α) state = ⟨.error msg, state, []⟩ := rfl

theorem run_request_ok {r : StateRequestMsg} {k : StateResponseMsg → Prog α} {state state' : State}
    {reply : StateResponseMsg} (h : serve state r = .ok (reply, state')) :
    run env (request r k) state = run env (k reply) state' := by
  simp only [run, h]

@[simp] theorem run_call (c : Mesos.Call) (k : Bool → Prog α) (state : State) :
    run env (call c k) state =
      { run env (k (env.callOk c)) state with calls := c :: (run env (k (env.callOk c)) state).calls } :=
  rfl

@[simp] theorem run_now (k : Int → Prog α) (state : State) :
    run env (now k) state = run env (k env.now) state := rfl

/-- Running `p >>= f` runs `p`, then `f` from where `p` left the actor, the calls of both in
order; a panic of `p` stops it. -/
theorem run_bind (p : Prog α) (f : α → Prog β) (state : State) :
    run env (p >>= f) state =
      match run env p state with
      | ⟨.ok a, state', calls⟩ =>
        { run env (f a) state' with calls := calls ++ (run env (f a) state').calls }
      | ⟨.error msg, state', calls⟩ => ⟨.error msg, state', calls⟩ := by
  induction p generalizing state with
  | ret a => simp
  | request r k ih =>
    simp only [request_bind, run]
    cases serve state r with
    | error e => rfl
    | ok p => exact ih p.1 p.2
  | call c k ih =>
    simp only [call_bind, run_call, ih]
    split <;> simp_all
  | now k ih => simp only [now_bind, run_now, ih]
  | panic msg => rfl

/-- A call to the master followed by `.unwrap()`: a failed call panics. -/
def callUnwrap (c : Mesos.Call) : Prog Unit :=
  call c fun ok => if ok then ret () else panic (unwrapFailed "the call to the master failed")

theorem run_bind_ok {p : Prog α} {f : α → Prog β} {state : State} {b : β}
    (h : (run env (p >>= f) state).result = .ok b) :
    ∃ a, (run env p state).result = .ok a ∧ (run env (f a) (run env p state).state).result = .ok b := by
  rw [run_bind] at h
  match hp : run env p state with
  | ⟨.ok a, state', calls⟩ => exact ⟨a, rfl, by rw [hp] at h; exact h⟩
  | ⟨.error msg, state', calls⟩ => rw [hp] at h; cases h

/-- A map over a thread maps the value its run ends with. -/
theorem run_map_result (f : α → β) (p : Prog α) (state : State) :
    (run env (f <$> p) state).result = f <$> (run env p state).result := by
  show (run env (p >>= fun a => ret (f a)) state).result = _
  rw [run_bind]
  split <;> simp_all [Functor.map, Except.map]

/-- A call of `p >>= f` is a call of `p`, or a call of `f` after `p` returned. -/
theorem mem_calls_bind {p : Prog α} {f : α → Prog β} {state : State} {c : Mesos.Call}
    (h : c ∈ (run env (p >>= f) state).calls) :
    c ∈ (run env p state).calls ∨ ∃ a, (run env p state).result = .ok a ∧
      c ∈ (run env (f a) (run env p state).state).calls := by
  rw [run_bind] at h
  match hp : run env p state with
  | ⟨.ok a, state', calls⟩ =>
    rw [hp] at h
    exact (List.mem_append.mp h).imp id fun h => ⟨a, rfl, h⟩
  | ⟨.error msg, state', calls⟩ => rw [hp] at h; exact .inl h

/-! ### What a thread can do -/

/-- Every request that `p` can send satisfies `P`, every call to the master it can make satisfies
`Q`, and every value it can return satisfies `R`, whatever the replies, the master's answers and
the clock. -/
def Spec (P : StateRequestMsg → Prop) (Q : Mesos.Call → Prop) (R : α → Prop) : Prog α → Prop
  | ret a => R a
  | request r k => P r ∧ ∀ reply, Spec P Q R (k reply)
  | call c k => Q c ∧ ∀ ok, Spec P Q R (k ok)
  | now k => ∀ t, Spec P Q R (k t)
  | panic _ => True

/-- `p` can send `r`, for some replies and answers. -/
def Sends (r : StateRequestMsg) : Prog α → Prop
  | ret _ => False
  | request r' k => r' = r ∨ ∃ reply, Sends r (k reply)
  | call _ k => ∃ ok, Sends r (k ok)
  | now k => ∃ t, Sends r (k t)
  | panic _ => False

section Spec

variable {P : StateRequestMsg → Prop} {Q : Mesos.Call → Prop} {R : α → Prop}

theorem Spec.bind {p : Prog α} {f : α → Prog β} {S : β → Prop} (hp : p.Spec P Q R)
    (hf : ∀ a, R a → (f a).Spec P Q S) : (p >>= f).Spec P Q S := by
  induction p with
  | ret a => exact hf a hp
  | request r k ih => exact ⟨hp.1, fun reply => ih reply (hp.2 reply)⟩
  | call c k ih => exact ⟨hp.1, fun ok => ih ok (hp.2 ok)⟩
  | now k ih => exact fun t => ih t (hp t)
  | panic msg => trivial

theorem Spec.mono {p : Prog α} (hp : p.Spec P Q R) {P' : StateRequestMsg → Prop}
    {Q' : Mesos.Call → Prop} {R' : α → Prop} (hP : ∀ r, P r → P' r) (hQ : ∀ c, Q c → Q' c)
    (hR : ∀ a, R a → R' a) : p.Spec P' Q' R' := by
  induction p with
  | ret a => exact hR a hp
  | request r k ih => exact ⟨hP r hp.1, fun reply => ih reply (hp.2 reply)⟩
  | call c k ih => exact ⟨hQ c hp.1, fun ok => ih ok (hp.2 ok)⟩
  | now k ih => exact fun t => ih t (hp t)
  | panic msg => trivial

theorem Spec.sends {p : Prog α} {r : StateRequestMsg} (hp : p.Spec P Q R) (hs : p.Sends r) : P r := by
  induction p with
  | ret a => exact hs.elim
  | request r' k ih =>
    rcases hs with rfl | ⟨reply, hs⟩
    · exact hp.1
    · exact ih reply (hp.2 reply) hs
  | call c k ih => obtain ⟨ok, hs⟩ := hs; exact ih ok (hp.2 ok) hs
  | now k ih => obtain ⟨t, hs⟩ := hs; exact ih t (hp t) hs
  | panic msg => exact hs.elim

/-- Every call a run makes is one the program can make. -/
theorem Spec.mem_calls {p : Prog α} (hp : p.Spec P Q R) {state : State} {c : Mesos.Call}
    (hc : c ∈ (run env p state).calls) : Q c := by
  induction p generalizing state with
  | ret a => cases hc
  | request r k ih =>
    simp only [run] at hc
    cases h : serve state r with
    | error e => rw [h] at hc; cases hc
    | ok q => rw [h] at hc; exact ih q.1 (hp.2 q.1) hc
  | call c' k ih =>
    rcases List.mem_cons.mp hc with rfl | hc
    · exact hp.1
    · exact ih _ (hp.2 _) hc
  | now k ih => exact ih _ (hp _) hc
  | panic msg => cases hc

/-- A property of the actor's state that every request `p` can send keeps holds where `p`
stops. -/
theorem Spec.run_state {I : State → Prop} {p : Prog α} (hp : p.Spec P Q R)
    (hI : ∀ s r, P r → I s → I (s.handle r)) {state : State} (hs : I state) :
    I (run env p state).state := by
  induction p generalizing state with
  | ret a => exact hs
  | request r k ih =>
    simp only [run]
    cases h : serve state r with
    | error e => exact hs
    | ok q =>
      obtain ⟨reply, state'⟩ := q
      exact ih reply (hp.2 reply) ((serve_eq_ok.mp h).2 ▸ hI state r hp.1 hs)
  | call c k ih => exact ih _ (hp.2 _) hs
  | now k ih => exact ih _ (hp _) hs
  | panic msg => exact hs

theorem spec_callUnwrap {c : Mesos.Call} (hc : Q c) : (callUnwrap c).Spec P Q fun _ => True :=
  ⟨hc, fun ok => by cases ok <;> trivial⟩

/-- After a thread that makes no call to the master and ends with `a`, the rest runs from where it
left the actor. -/
theorem run_bind_local {p : Prog α} (hp : p.Spec P (fun _ => False) R) (f : α → Prog β)
    {state : State} {a : α} (h : (run env p state).result = .ok a) :
    run env (p >>= f) state = run env (f a) (run env p state).state := by
  rw [run_bind]
  have hc : (run env p state).calls = [] :=
    List.eq_nil_iff_forall_not_mem.mpr fun c hc => hp.mem_calls env hc
  match hr : run env p state with
  | ⟨.ok a', state', calls⟩ =>
    rw [hr] at h hc
    cases h
    simp only at hc
    simp [hc]
  | ⟨.error msg, state', calls⟩ => rw [hr] at h; cases h

/-- A loop whose body keeps the bounds at every element keeps them. -/
theorem Spec.forM {β : Type} {xs : List β} {f : β → Prog Unit}
    (hf : ∀ x ∈ xs, (f x).Spec P Q fun _ => True) : (xs.forM f).Spec P Q fun _ => True := by
  induction xs with
  | nil => trivial
  | cons x xs ih =>
    rw [List.forM_cons']
    exact (hf x (.head _)).bind fun _ _ => ih fun y hy => hf y (.tail _ hy)

/-- A map whose body keeps the bounds at every element keeps them. -/
theorem Spec.mapM {β γ : Type} {xs : List β} {f : β → Prog γ}
    (hf : ∀ x ∈ xs, (f x).Spec P Q fun _ => True) : (xs.mapM f).Spec P Q fun _ => True := by
  induction xs with
  | nil => trivial
  | cons x xs ih =>
    rw [List.mapM_cons]
    exact (hf x (.head _)).bind fun _ _ =>
      (ih fun y hy => hf y (.tail _ hy)).bind fun _ _ => trivial

end Spec

/-- A call made under a condition and unwrapped, that returned: it made the call exactly when the
condition held, and the master answered that call with success. -/
theorem run_ite_callUnwrap {p : Prop} [Decidable p] {c : Mesos.Call} {state : State} {u : Unit}
    (h : (run env (if p then callUnwrap c else pure ()) state).result = .ok u) :
    run env (if p then callUnwrap c else pure ()) state = ⟨.ok (), state, if p then [c] else []⟩ := by
  split_ifs at h ⊢ with hp
  · simp only [callUnwrap, run_call] at h ⊢
    cases hc : env.callOk c <;> simp_all
  · rfl

/-- A loop whose body returns at every element, makes no call and leaves the actor as `g` says,
leaves it as the fold of `g` over the list. -/
theorem run_forM {β : Type} {xs : List β} {f : β → Prog Unit} {g : State → β → State}
    (hf : ∀ x ∈ xs, ∀ state, run env (f x) state = ⟨.ok (), g state x, []⟩) (state : State) :
    run env (xs.forM f) state = ⟨.ok (), xs.foldl g state, []⟩ := by
  induction xs generalizing state with
  | nil => rfl
  | cons x xs ih =>
    rw [List.forM_cons', run_bind, hf x (.head _)]
    simp [ih fun y hy => hf y (.tail _ hy)]

/-- A loop whose body returns at the elements of `xs`, as in `run_forM`, and stops at `x` with the
error `msg`: it leaves the actor as `stop` leaves the fold, and never runs the rest of the list. -/
theorem run_forM_append_cons {β : Type} {xs ys : List β} {x : β} {f : β → Prog Unit}
    {g : State → β → State} (hf : ∀ y ∈ xs, ∀ state, run env (f y) state = ⟨.ok (), g state y, []⟩)
    {msg : String} {stop : State → State}
    (hx : ∀ state, run env (f x) state = ⟨.error msg, stop state, []⟩) (state : State) :
    run env ((xs ++ x :: ys).forM f) state = ⟨.error msg, stop (xs.foldl g state), []⟩ := by
  induction xs generalizing state with
  | nil => rw [List.nil_append, List.forM_cons', run_bind, hx]; rfl
  | cons y xs ih =>
    rw [List.cons_append, List.forM_cons', run_bind, hf y (.head _)]
    simp only [ih fun z hz => hf z (.tail _ hz)]
    rfl

end Prog

/-! ### The request stubs of `StateManager` -/

/-- The part of `StateManager` that the threads read: the master's and the controller's
addresses, the framework's name and id. -/
structure StateManager where
  masterIp : String
  myName : String
  controllerIp : String
  myFrameworkId : String

/-- A manager whose master is at `10.0.0.1` and whose framework is named `torc`. -/
def torcManager : StateManager := ⟨"10.0.0.1", "torc", "", ""⟩

namespace StateManager

open Prog

/-- `send_ping`. -/
def sendPing : Prog Unit := request .ping fun _ => ret ()

/-- `request_task_state`. -/
def requestTaskState (taskName : String) : Prog TaskState :=
  request (.getTaskState taskName) fun
    | .tasksState tasksState => ret tasksState
    | _ => ret .notRunning

/-- `request_task_name_by_id`. -/
def requestTaskNameById (idPrefix : String) : Prog String :=
  request (.getTaskNameById idPrefix) fun
    | .taskName taskName => ret taskName
    | _ => ret ""

/-- `request_task_ip_by_name`. -/
def requestTaskIpByName (name : String) : Prog String :=
  request (.getTaskIPByName name) fun
    | .taskIP taskIp => ret taskIp
    | _ => ret ""

/-- `send_update_task_state`. -/
def sendUpdateTaskState (taskName : String) (taskState : TaskState) : Prog Unit :=
  request (.updateTaskState taskName taskState) fun _ => ret ()

/-- `send_update_task_node_name`. -/
def sendUpdateTaskNodeName (taskName nodeName : String) : Prog Unit :=
  request (.updateTaskNodeName taskName nodeName) fun _ => ret ()

/-- `send_update_task_info`. -/
def sendUpdateTaskInfo (taskName id ip slaveId : String) : Prog Unit :=
  request (.updateTaskInfo taskName id ip slaveId) fun _ => ret ()

/-- `send_remove_task_by_name`. -/
def sendRemoveTaskByName (taskName : String) : Prog Unit :=
  request (.removeTask taskName) fun _ => ret ()

/-- `request_list_requested_tasks`. -/
def requestListRequestedTasks : Prog (List Task) :=
  request .getRequestedTasks fun
    | .getRequestedTasks requestedTasks => ret requestedTasks
    | _ => ret []

/-- `request_list_running_tasks`. -/
def requestListRunningTasks : Prog (List Task) :=
  request .getRunningTasks fun
    | .getRunningTasks runningTasks => ret runningTasks
    | _ => ret []

/-- `send_add_node`: a node as the configuration gives it, inactive, of function `none`. -/
def sendAddNode (name ip externalIp managementIp : String) (portId : Int) (nodeType : String) :
    Prog Unit :=
  request (.addNode
    { name := name, ip := ip, externalIp := externalIp, managementIp := managementIp,
      nodeType := nodeType, nodeFunction := "none", active := false, slaveId := "",
      portId := portId, reachable := false }) fun _ => ret ()

/-- `request_is_node_active`. -/
def requestIsNodeActive (nodeName : String) : Prog Bool :=
  request (.getIsNodeActive nodeName) fun
    | .getIsNodeActive isActive => ret isActive
    | _ => ret false

/-- `send_update_node`. -/
def sendUpdateNode (nodeName nodeType nodeFunction slaveId : String) : Prog Unit :=
  request (.updateNode nodeName nodeType nodeFunction slaveId) fun _ => ret ()

/-- `request_node`: `none` for a reply of another kind. -/
def requestNode (nodeName : String) : Prog (Option Node) :=
  request (.getNode nodeName) fun
    | .getNode node => ret (some node)
    | _ => ret none

/-- `request_list_nodes`. -/
def requestListNodes : Prog (List Node) :=
  request .getNodes fun
    | .getNodes nodes => ret nodes
    | _ => ret []

/-- One turn of the loop of `start_syncing`: it lists the `Running` tasks, which the loop then posts
to the registry from its own thread. -/
def startSyncing : Prog (List Task) := requestListRunningTasks

variable (manager : StateManager)

/-- `resolve_arguments`: `$MASTER_IP` becomes the master's address, then, if the result still
holds `$IP_DNS_SL1`, that token becomes the ip stored for `dns-sl1` at this moment (`""` without
an entry).  It runs in the caller's thread and asks the actor for the ip. -/
def resolveArguments (argument : String) : Prog String :=
  if argument.length = 0 then ret argument
  else
    let resolvedArguments := replace argument "$MASTER_IP" manager.masterIp
    if contains resolvedArguments "$IP_DNS_SL1" then do
      let ip ← requestTaskIpByName "dns-sl1"
      ret (replace resolvedArguments "$IP_DNS_SL1" ip)
    else ret resolvedArguments

/-- The value of `resolve_arguments` when the task table gives `ip` for `dns-sl1`. -/
def resolvedArguments (argument ip : String) : String :=
  if argument.length = 0 then argument
  else
    let resolvedArguments := replace argument "$MASTER_IP" manager.masterIp
    if contains resolvedArguments "$IP_DNS_SL1" then replace resolvedArguments "$IP_DNS_SL1" ip
    else resolvedArguments

/-- The record `send_start_task` builds from a configured service: named `name`, with the
arguments resolved, in state `Requested`, with no id, ip or slave yet. -/
def newTask (name : String) (task : Config.Task) (isSystemService : Bool)
    (resolvedArguments : String) (now : Int) : Task :=
  { name := name, controller := manager.myName, id := "", image := task.image,
    nodeName := task.nodeName, nodeType := task.nodeType, nodeFunction := task.nodeFunction,
    dependentService := task.dependentService, arguments := resolvedArguments,
    parameters := task.parameters, memory := task.memory, cpu := task.cpu,
    privileged := task.privileged, sla := task.sla, isMetered := task.isMetered,
    isSystemService := isSystemService, isJob := task.isJob, volumes := task.volumes,
    networkType := task.networkType, ip := "", slaveId := "", state := .requested,
    lastUpdate := now }

/-- `send_start_task`.  Both callers pass the fields of a configured service `task`, under the name
`name` and with the flag `isSystemService`, so the model takes them so. -/
def sendStartTask (name : String) (task : Config.Task) (isSystemService : Bool) : Prog Unit := do
  let resolvedArguments ← manager.resolveArguments task.arguments
  let now ← Prog.now ret
  request (.startTask (manager.newTask name task isSystemService resolvedArguments now))
    fun _ => ret ()

variable (env : Env) (state : State)

/-- `resolve_arguments` reads the table and changes nothing. -/
theorem run_resolveArguments (argument : String) :
    run env (manager.resolveArguments argument) state =
      ⟨.ok (manager.resolvedArguments argument (state.taskList.getTaskIpByName "dns-sl1")), state, []⟩ := by
  unfold resolveArguments resolvedArguments
  dsimp only
  split_ifs <;> rfl

/-- `send_start_task` files the record it builds, with the arguments resolved against the table
as it finds it and the time the clock shows. -/
theorem run_sendStartTask (name : String) (task : Config.Task) (isSystemService : Bool) :
    run env (manager.sendStartTask name task isSystemService) state =
      ⟨.ok (), state.handle (.startTask (manager.newTask name task isSystemService
        (manager.resolvedArguments task.arguments (state.taskList.getTaskIpByName "dns-sl1")) env.now)),
        []⟩ := by
  unfold sendStartTask
  rw [run_bind, run_resolveArguments]
  rfl

end StateManager

end Torc
