import Torc.Health
import Torc.Offers
import Torc.Store
import Mathlib.Logic.Relation

/-! The health supervisor against the other threads.  A tick checks a task and starts it in two
separate exchanges with the actor: `GetTaskState`, then, on `NotRunning`, `StartTask`.  In
between, the scheduler's callbacks and the state-sync loop run, and the actor serves their
requests.  The check-then-act is still safe: no request those threads send is a `StartTask`, and
no request other than `StartTask` files a task under a name that has no entry.  So the name the
supervisor found without an entry has none when its `StartTask` is served, and the supervisor
never overwrites a `Requested`, `Accepted` or `Running` entry.

`SystemStep` interleaves one thread, run as its `Prog`, with the requests of the other threads,
each of them a request that one of those threads can send.  `Supervised` says what the supervisor
does, for its whole run and not only one tick: it files only a name that a reply reported missing,
with nothing but readers in between.  `HealthAt` adds that the name it is about to file still has
no entry, and every step of the supervisor and every request of the other threads keeps it. -/

namespace Torc

open Prog

/-! ### Requests that change nothing -/

/-- The requests whose handlers only read the tables. -/
def StateRequestMsg.Reader : StateRequestMsg → Prop
  | .ping | .getTaskState _ | .getTaskNameById _ | .getTaskIPByName _ | .getRequestedTasks
  | .getRunningTasks | .getIsNodeActive _ | .getNode _ | .getNodes => True
  | _ => False

/-- The task a `StartTask` files. -/
def StateRequestMsg.startedTask : StateRequestMsg → Option Task
  | .startTask task => some task
  | _ => none

theorem StateRequestMsg.Reader.handle {request : StateRequestMsg} (h : request.Reader)
    (state : State) : state.handle request = state := by
  cases request <;> first | rfl | exact h.elim

theorem StateRequestMsg.Reader.startedTask {request : StateRequestMsg} (h : request.Reader) :
    request.startedTask = none := by
  cases request <;> first | rfl | exact h.elim

/-! ### Interleaving -/

/-- A step of the system: the thread `p` sends its next request and gets the actor's reply, learns
the master's answer or reads the clock, or the actor serves a request `other` of another
thread. -/
inductive SystemStep {α : Type} (Other : StateRequestMsg → Prop) : Prog α × State → Prog α × State → Prop
  | request {r : StateRequestMsg} {k : StateResponseMsg → Prog α} {state state' : State}
      {reply : StateResponseMsg} :
      serve state r = .ok (reply, state') → SystemStep Other (.request r k, state) (k reply, state')
  | call {c : Mesos.Call} {k : Bool → Prog α} {state : State} (ok : Bool) :
      SystemStep Other (.call c k, state) (k ok, state)
  | now {k : Int → Prog α} {state : State} (t : Int) :
      SystemStep Other (.now k, state) (k t, state)
  | other {p : Prog α} {r : StateRequestMsg} {state state' : State} {reply : StateResponseMsg} :
      Other r → serve state r = .ok (reply, state') → SystemStep Other (p, state) (p, state')

/-- A request that a thread running beside the supervisor can send: the offers callback on any
batch, the update callback on any status, or the state-sync loop. -/
def OtherThreadRequest (r : StateRequestMsg) : Prop :=
  (∃ batch, (TorcScheduler.offers batch).Sends r) ∨
  (∃ decode status, (TorcScheduler.update decode status).Sends r) ∨
  StateManager.startSyncing.Sends r

/-- What the other threads' requests have in common: `StateManager` sends them, and none is a
`StartTask`. -/
def NoStart (r : StateRequestMsg) : Prop := r.Sent ∧ ∀ task, r ≠ .startTask task

theorem noStart_of_offersRequest {snapshot : List Task} {r : StateRequestMsg}
    (h : TorcScheduler.OffersRequest snapshot r) : NoStart r := by
  cases r <;> first
    | exact ⟨trivial, fun _ => nofun⟩
    | exact h.elim
    | exact ⟨.inl h.1, fun _ => nofun⟩

theorem noStart_of_updateRequest {r : StateRequestMsg} (h : TorcScheduler.UpdateRequest r) :
    NoStart r := by
  cases r <;> first
    | exact ⟨trivial, fun _ => nofun⟩
    | exact h.elim
    | exact ⟨.inr h, fun _ => nofun⟩

theorem OtherThreadRequest.noStart {r : StateRequestMsg} (h : OtherThreadRequest r) : NoStart r := by
  rcases h with ⟨batch, h⟩ | ⟨decode, status, h⟩ | h
  · refine Spec.sends (Q := fun _ => True) (R := fun _ => True) ?_ h
    match batch with
    | [] => trivial
    | first :: rest =>
      obtain ⟨g, hg, hspec⟩ := TorcScheduler.offers_cons first rest
      rw [hg]
      exact Spec.bind (R := fun _ => True) ⟨⟨trivial, fun _ => nofun⟩, fun reply => by
        cases reply <;> trivial⟩ fun snapshot _ =>
          (hspec snapshot).mono (fun _ => noStart_of_offersRequest) (fun _ _ => trivial) fun _ h => h
  · exact ((TorcScheduler.spec_update decode status).mono (fun _ => noStart_of_updateRequest)
      (fun _ h => h) fun _ h => h).sends h
  · have hsync : StateManager.startSyncing.Spec NoStart (fun _ => True) fun _ => True :=
      ⟨⟨trivial, fun _ => nofun⟩, fun reply => by cases reply <;> trivial⟩
    exact hsync.sends h

/-! ### What the supervisor knows -/

/-- The name that the supervisor takes to have no entry after the reply `reply` to `r`: `n` after
`GetTaskState n` answered `NotRunning`, or answered with a reply of another kind, which
`request_task_state` reads as `NotRunning`. -/
def StateRequestMsg.foundMissing : StateRequestMsg → StateResponseMsg → Option String
  | .getTaskState n, .tasksState taskState => if taskState = .notRunning then some n else none
  | .getTaskState n, _ => some n
  | _, _ => none

/-- A program that starts only the names it found without an entry.  Free (`none`), it sends
readers, and after a reply that reports a name `n` missing it is pending on `n`; pending on `n`, it
sends readers and then a `StartTask` of a `Requested` task named `n`, after which it is free again.
It never calls the master, and it does not stop while pending, unless it panics. -/
def Supervised {α : Type} : Option String → Prog α → Prop
  | none, .ret _ => True
  | some _, .ret _ => False
  | none, .request r k => r.Reader ∧ ∀ reply, Supervised (r.foundMissing reply) (k reply)
  | some n, .request r k =>
    match r.startedTask with
    | some task => task.name = n ∧ task.state = .requested ∧ ∀ reply, Supervised none (k reply)
    | none => r.Reader ∧ ∀ reply, Supervised (some n) (k reply)
  | _, .call _ _ => False
  | m, .now k => ∀ t, Supervised m (k t)
  | _, .panic _ => True

section Supervised

variable {α β : Type}

theorem Supervised.bind {m : Option String} {p : Prog α} (hp : Supervised m p) {f : α → Prog β}
    (hf : ∀ a, Supervised none (f a)) : Supervised m (p >>= f) := by
  induction p generalizing m with
  | ret a =>
    cases m
    · exact hf a
    · exact hp.elim
  | request r k ih =>
    cases m with
    | none => exact ⟨hp.1, fun reply => ih reply (hp.2 reply)⟩
    | some n =>
      show Supervised (some n) (.request r fun reply => k reply >>= f)
      simp only [Supervised] at hp ⊢
      split at hp
      · exact ⟨hp.1, hp.2.1, fun reply => ih reply (hp.2.2 reply)⟩
      · exact ⟨hp.1, fun reply => ih reply (hp.2 reply)⟩
  | call c k ih => cases m <;> exact hp.elim
  | now k ih => cases m <;> exact fun t => ih t (hp t)
  | panic msg => cases m <;> trivial

/-- A program that only reads, and never asks for the state of a task, is free. -/
theorem supervised_of_spec {p : Prog α} {R : α → Prop}
    (hp : p.Spec (fun r => r.Reader ∧ ∀ n, r ≠ .getTaskState n) (fun _ => False) R) :
    Supervised none p := by
  induction p with
  | ret a => trivial
  | request r k ih =>
    have hr : ∀ reply, r.foundMissing reply = none := fun reply => by
      cases r <;> first | rfl | exact absurd rfl (hp.1.2 _)
    exact ⟨hp.1.1, fun reply => hr reply ▸ ih reply (hp.2 reply)⟩
  | call c k ih => exact hp.1.elim
  | now k ih => exact fun t => ih t (hp t)
  | panic msg => trivial

/-- A program that only reads keeps a pending name pending. -/
theorem Supervised.bind_of_reader {n : String} {p : Prog α} {R : α → Prop}
    (hp : p.Spec StateRequestMsg.Reader (fun _ => False) R) {f : α → Prog β}
    (hf : ∀ a, Supervised (some n) (f a)) : Supervised (some n) (p >>= f) := by
  induction p with
  | ret a => exact hf a
  | request r k ih =>
    show Supervised (some n) (.request r fun reply => k reply >>= f)
    simp only [Supervised, hp.1.startedTask]
    exact ⟨hp.1, fun reply => ih reply (hp.2 reply)⟩
  | call c k ih => exact hp.1.elim
  | now k ih => exact fun t => ih t (hp t)
  | panic msg => trivial

/-- Pending on `n`, a program sends a reader and stays pending, or files a `Requested` task named
`n` and is free. -/
theorem Supervised.request_some {n : String} {r : StateRequestMsg} {k : StateResponseMsg → Prog α}
    (h : Supervised (some n) (.request r k)) :
    (r.Reader ∧ ∀ reply, Supervised (some n) (k reply)) ∨
      ∃ task, r = .startTask task ∧ task.name = n ∧ task.state = .requested ∧
        ∀ reply, Supervised none (k reply) := by
  simp only [Supervised] at h
  cases hr : r.startedTask with
  | some task =>
    rw [hr] at h
    cases r <;> cases hr
    exact .inr ⟨task, rfl, h⟩
  | none =>
    rw [hr] at h
    exact .inl h

end Supervised

/-- The supervisor's knowledge holds in the actor's state: the tables keep their invariant, and a
pending name has no entry. -/
def HealthAt {α : Type} (cfg : Prog α × State) : Prop :=
  TablesInv cfg.2 ∧ ∃ m, Supervised m cfg.1 ∧ ∀ n, m = some n → n ∉ cfg.2.taskList

section Health

variable (manager : StateManager)

/-- `resolve_arguments` only reads the task table, and returns the arguments resolved with the ip
some entry gave `dns-sl1`. -/
theorem spec_resolveArguments (argument : String) :
    (manager.resolveArguments argument).Spec StateRequestMsg.Reader (fun _ => False)
      fun arguments => ∃ ip, arguments = manager.resolvedArguments argument ip := by
  unfold StateManager.resolveArguments StateManager.resolvedArguments
  dsimp only
  split_ifs
  · exact ⟨"", rfl⟩
  · exact ⟨trivial, fun reply => by cases reply <;> exact ⟨_, rfl⟩⟩
  · exact ⟨"", rfl⟩

/-- `send_start_task` reads the task table, then files the record that `new_task` builds under
`name`, with the arguments resolved. -/
theorem spec_sendStartTask (name : String) (task : Config.Task) (isSystemService : Bool) :
    (manager.sendStartTask name task isSystemService).Spec
      (fun r => r.Reader ∨ ∃ ip now, r = .startTask (manager.newTask name task isSystemService
        (manager.resolvedArguments task.arguments ip) now))
      (fun _ => False) fun _ => True := by
  unfold StateManager.sendStartTask
  exact ((spec_resolveArguments manager _).mono (fun _ => .inl) (fun _ h => h) fun _ h => h).bind
    fun _ ⟨ip, harguments⟩ now => ⟨.inr ⟨ip, now, by rw [harguments]⟩, fun _ => trivial⟩

/-- The body of a tick, and whatever free program follows it, is free: on `NotRunning` it starts
the very name it asked for. -/
theorem supervised_checkHealth (task : Config.Task) {f : Unit → Prog Unit}
    (hf : ∀ a, Supervised none (f a)) : Supervised none (manager.checkHealth task >>= f) := by
  refine ⟨trivial, fun reply => ?_⟩
  have hstart : Supervised (some task.name) (manager.sendStartTask task.name task true >>= f) := by
    unfold StateManager.sendStartTask
    rw [bind_assoc]
    exact Supervised.bind_of_reader (spec_resolveArguments manager _)
      fun _ _ => ⟨rfl, rfl, fun _ => hf ()⟩
  cases reply with
  | tasksState taskState =>
    show Supervised (if taskState = .notRunning then some task.name else none) _
    split_ifs with h
    · subst h; exact hstart
    · cases taskState <;> first | exact absurd rfl h | exact hf ()
  | _ => exact hstart

theorem supervised_healthTick (tasks : List Config.Task) :
    Supervised none (manager.healthTick tasks) := by
  induction tasks with
  | nil => trivial
  | cons task tasks ih =>
    rw [StateManager.healthTick, List.forM_cons']
    exact supervised_checkHealth manager task fun _ => ih

theorem supervised_healthLoop (tasks : List Config.Task) (ticks : Nat) :
    Supervised none (manager.healthLoop tasks ticks) := by
  induction ticks with
  | zero => trivial
  | succ ticks ih => exact (supervised_healthTick manager tasks).bind fun _ => ih

/-- The whole supervisor thread: ping, expand the services by their SLA, and tick. -/
theorem supervised_runHealthChecker (systemServices : List Config.Task) (ticks : Nat) :
    Supervised none (manager.runHealthChecker systemServices ticks) := by
  have hexpand : ∀ services : List Config.Task, (StateManager.expandTasks services).Spec
      (fun r => r.Reader ∧ ∀ n, r ≠ .getTaskState n) (fun _ => False) fun _ => True := by
    intro services
    induction services with
    | nil => trivial
    | cons task services ih =>
      have hnodes : (StateManager.requestListNodes).Spec
          (fun r => r.Reader ∧ ∀ n, r ≠ .getTaskState n) (fun _ => False) fun _ => True :=
        ⟨⟨trivial, fun _ => nofun⟩, fun reply => by cases reply <;> trivial⟩
      refine Spec.bind (R := fun _ => True) ?_ fun _ _ => ih.bind fun _ _ => trivial
      unfold StateManager.expandTask
      split
      · trivial
      · exact hnodes.bind fun _ _ => trivial
      · exact hnodes.bind fun _ _ => trivial
  have hping : StateManager.sendPing.Spec (fun r => r.Reader ∧ ∀ n, r ≠ .getTaskState n)
      (fun _ => False) fun _ => True := ⟨⟨trivial, fun _ => nofun⟩, fun _ => trivial⟩
  exact (supervised_of_spec hping).bind fun _ => (supervised_of_spec (hexpand systemServices)).bind
    fun tasks => supervised_healthLoop manager tasks ticks

end Health

/-- The supervisor's own request keeps its knowledge true: a reply that reports a name missing
comes from a table without it, and the `StartTask` of a pending name files a `Requested` task. -/
theorem healthAt_request {α : Type} {r : StateRequestMsg} {k : StateResponseMsg → Prog α}
    {state state' : State} {reply : StateResponseMsg} (h : HealthAt (.request r k, state))
    (hs : serve state r = .ok (reply, state')) : HealthAt (k reply, state') := by
  obtain ⟨hinv, m, hp, hm⟩ := h
  obtain ⟨hreply, rfl⟩ := serve_eq_ok.mp hs
  cases m with
  | none =>
    obtain ⟨hr, hk⟩ := hp
    rw [hr.handle]
    refine ⟨hinv, _, hk reply, fun n hn => ?_⟩
    cases r <;> try cases hn
    rename_i m
    cases hreply
    simp only [StateRequestMsg.foundMissing, State.respond, ite_eq_left_iff, reduceCtorEq,
      imp_false, not_not, Option.ite_none_right_eq_some, Option.some.injEq] at hn
    obtain ⟨hst, rfl⟩ := hn
    exact (TaskList.getTaskState_eq_notRunning_iff hinv.live _).mp hst
  | some n =>
    rcases hp.request_some with ⟨hr, hk⟩ | ⟨task, rfl, -, hreq, hk⟩
    · rw [hr.handle]
      exact ⟨hinv, some n, hk reply, hm⟩
    · exact ⟨hinv.handle (show (StateRequestMsg.startTask task).Sent from hreq), none, hk reply,
        nofun⟩

/-- A request that `StateManager` sends and that is no `StartTask` keeps the supervisor's
knowledge true. -/
theorem HealthAt.handle {α : Type} {p : Prog α} {state : State} (h : HealthAt (p, state))
    {r : StateRequestMsg} (hr : NoStart r) : HealthAt (p, state.handle r) :=
  let ⟨hinv, m, hp, hm⟩ := h
  ⟨hinv.handle hr.1, m, hp, fun n hn => not_mem_handle hr.2 (hm n hn)⟩

/-- So does another thread's request of that kind, served by the actor. -/
theorem healthAt_other {α : Type} {p : Prog α} {state state' : State} {r : StateRequestMsg}
    {reply : StateResponseMsg} (h : HealthAt (p, state)) (hr : NoStart r)
    (hs : serve state r = .ok (reply, state')) : HealthAt (p, state') := by
  rw [(serve_eq_ok.mp hs).2]
  exact h.handle hr

theorem healthAt_step {cfg cfg' : Prog Unit × State} (h : HealthAt cfg)
    (hstep : SystemStep OtherThreadRequest cfg cfg') : HealthAt cfg' := by
  cases hstep with
  | request hs => exact healthAt_request h hs
  | call ok =>
    obtain ⟨-, m, hp, -⟩ := h
    cases m <;> exact hp.elim
  | now t =>
    obtain ⟨hinv, m, hp, hm⟩ := h
    cases m <;> exact ⟨hinv, _, hp t, hm⟩
  | other hr hs => exact healthAt_other h hr.noStart hs

/-- The health supervisor never resets a live task: in any interleaving of a tick with the offers
and update callbacks and the state-sync loop, from any state the actor can reach, whenever the
supervisor sends `StartTask` for a task, the task table has no entry of that name. -/
theorem healthTick_startTask_fresh (manager : StateManager) {controllerIp : String} {state₀ : State}
    (h₀ : Reachable controllerIp state₀) (tasks : List Config.Task) {p : Prog Unit} {state : State}
    (hrun : Relation.ReflTransGen (SystemStep OtherThreadRequest) (manager.healthTick tasks, state₀)
      (p, state))
    {task : Task} {k : StateResponseMsg → Prog Unit} (hp : p = .request (.startTask task) k) :
    task.name ∉ state.taskList := by
  have hat : ∀ cfg, Relation.ReflTransGen (SystemStep OtherThreadRequest)
      (manager.healthTick tasks, state₀) cfg → HealthAt cfg := fun cfg h => by
    induction h with
    | refl => exact ⟨h₀.tablesInv, none, supervised_healthTick manager tasks, nofun⟩
    | tail _ hstep ih => exact healthAt_step ih hstep
  obtain ⟨-, m, hsup, hm⟩ := hat _ hrun
  subst hp
  cases m with
  | none => exact hsup.1.elim
  | some n =>
    obtain ⟨rfl, -⟩ := hsup
    exact hm _ rfl

/-- The service `dns-b`, configured as `dns-a` is. -/
def dnsBService : Config.Task := { dnsAService with name := "dns-b" }

/-- The update callback's removal of a killed `dns-a` is a request of another thread. -/
theorem otherThreadRequest_removeTask_dnsA : OtherThreadRequest (.removeTask "dns-a") :=
  Or.inr (Or.inl ⟨fun _ => .error "", ⟨"dns-a", .taskKilled, "s1", []⟩, Or.inl rfl⟩)

/-- From tables holding `dns-a` and `n1`, the supervisor finds `dns-b` missing; the update
callback's removal of `dns-a` is served before it sends the `StartTask`. -/
theorem healthTick_startTask_fresh_interleaved :
    Reachable "" dnsARunningN1 ∧
    Relation.ReflTransGen (SystemStep OtherThreadRequest)
      (torcManager.healthTick [dnsBService], dnsARunningN1)
      (.request (.startTask (torcManager.newTask "dns-b" dnsBService true "" 0))
        (fun _ => torcManager.healthTick []), dnsARunningN1.handle (.removeTask "dns-a")) ∧
    (torcManager.newTask "dns-b" dnsBService true "" 0).name ∉
      (dnsARunningN1.handle (.removeTask "dns-a")).taskList :=
  have hrun : Relation.ReflTransGen (SystemStep OtherThreadRequest)
      (torcManager.healthTick [dnsBService], dnsARunningN1)
      (.request (.startTask (torcManager.newTask "dns-b" dnsBService true "" 0))
        (fun _ => torcManager.healthTick []), dnsARunningN1.handle (.removeTask "dns-a")) :=
    .tail (.tail (.tail .refl (.request rfl)) (.other otherThreadRequest_removeTask_dnsA rfl)) (.now 0)
  ⟨reachable_dnsARunningN1, hrun,
    healthTick_startTask_fresh torcManager reachable_dnsARunningN1 [dnsBService] hrun rfl⟩

end Torc
