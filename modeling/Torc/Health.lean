import Torc.Update

/-! The health supervisor of `health/run_health_checker.rs`.  It expands the configured system
services by their SLA into a list of tasks once, a copy per node (`SingletonEachNode`) or per
slave node (`SingletonEachSlave`) named `<service>-<node>` and pinned to that node, and then, at
every tick, asks the actor for the state of each task in turn and starts anew, with
`send_start_task`, each one the actor reports `NotRunning`.  The expanded names are distinct when
the services' names are distinct and hold no hyphen and the nodes' names are distinct; a hyphen in
a service's name lets a copy of another service take that name.

It is the only way back for a task whose launch failed: the update callback only removes a task
on `TASK_KILLED`, and a tick starts exactly the listed tasks without an entry.  So a killed task
of the list is `Requested` again after the next tick, and a task that failed, was lost or ended
in error stays `Accepted`. -/

namespace Torc

namespace StateManager

open Prog

variable (manager : StateManager)

/-- The copy of `task` for the node `node`. -/
def copyForNode (task : Config.Task) (node : Node) : Config.Task :=
  { task with nodeName := node.name, name := task.name ++ "-" ++ node.name }

/-- The tasks one configured system service expands to by its SLA. -/
def expandTask (task : Config.Task) : Prog (List Config.Task) :=
  match task.sla with
  | .none => ret [task]
  | .singletonEachNode => do
    let nodes ← requestListNodes
    ret (nodes.map (copyForNode task))
  | .singletonEachSlave => do
    let nodes ← requestListNodes
    ret ((nodes.filter fun node => node.nodeType == "slave").map (copyForNode task))

/-- The expansion of the configured system services, in order. -/
def expandTasks : List Config.Task → Prog (List Config.Task)
  | [] => ret []
  | task :: tasks => do
    let copies ← expandTask task
    let rest ← expandTasks tasks
    ret (copies ++ rest)

/-- The body of a tick for one task: start it anew when the actor reports it `NotRunning`. -/
def checkHealth (task : Config.Task) : Prog Unit := do
  let taskState ← requestTaskState task.name
  match taskState with
  | .notRunning => manager.sendStartTask task.name task true
  | _ => pure ()

/-- One tick of the supervisor over the expanded list. -/
def healthTick (tasks : List Config.Task) : Prog Unit := tasks.forM manager.checkHealth

/-- The ticks of the loop, `ticks` of them; the source loops for ever. -/
def healthLoop (tasks : List Config.Task) : Nat → Prog Unit
  | 0 => ret ()
  | ticks + 1 => do
    manager.healthTick tasks
    healthLoop tasks ticks

/-- `run_health_checker` on the configured system services `systemServices`, for `ticks` ticks. -/
def runHealthChecker (systemServices : List Config.Task) (ticks : Nat) : Prog Unit := do
  sendPing
  let tasks ← expandTasks systemServices
  manager.healthLoop tasks ticks

/-! ### The expansion -/

variable (env : Env)

/-- The tasks a service expands to when the node table lists `nodes`. -/
def expansion (nodes : List Node) (task : Config.Task) : List Config.Task :=
  match task.sla with
  | .none => [task]
  | .singletonEachNode => nodes.map (copyForNode task)
  | .singletonEachSlave =>
    (nodes.filter fun node => node.nodeType == "slave").map (copyForNode task)

theorem run_expandTask (task : Config.Task) (state : State) :
    run env (expandTask task) state = ⟨.ok (expansion state.nodeList.getNodes task), state, []⟩ := by
  unfold expandTask expansion
  cases task.sla <;> rfl

theorem run_expandTasks (tasks : List Config.Task) (state : State) :
    run env (expandTasks tasks) state =
      ⟨.ok (tasks.flatMap (expansion state.nodeList.getNodes)), state, []⟩ := by
  induction tasks with
  | nil => rfl
  | cons task tasks ih => simp [expandTasks, run_bind, run_expandTask, ih]

/-- The names a service expands to: its own when it has no SLA, or else its name, a hyphen and the
name of each node of a part of the node table. -/
theorem names_expansion (nodes : List Node) (task : Config.Task) :
    task.sla = .none ∧ (expansion nodes task).map (·.name) = [task.name] ∨
    task.sla ≠ .none ∧ ∃ sub : List Node, sub.Sublist nodes ∧
      (expansion nodes task).map (·.name) = sub.map fun node => task.name ++ "-" ++ node.name := by
  unfold expansion
  cases task.sla with
  | none => exact .inl ⟨rfl, rfl⟩
  | singletonEachNode => exact .inr ⟨nofun, nodes, .refl _, by simp [copyForNode, Function.comp_def]⟩
  | singletonEachSlave =>
    exact .inr ⟨nofun, nodes.filter fun node => node.nodeType == "slave", List.filter_sublist _,
      by simp [copyForNode, Function.comp_def]⟩

theorem mem_names_expansion {nodes : List Node} {task : Config.Task} {n : String}
    (h : n ∈ (expansion nodes task).map (·.name)) :
    n = task.name ∨ task.sla ≠ .none ∧ ∃ rest, n.data = task.name.data ++ '-' :: rest := by
  rcases names_expansion nodes task with ⟨-, hnames⟩ | ⟨hsla, sub, -, hnames⟩ <;> rw [hnames] at h
  · exact .inl (List.mem_singleton.mp h)
  · obtain ⟨node, -, rfl⟩ := List.mem_map.mp h
    exact .inr ⟨hsla, node.name.data, by simp⟩

theorem nodup_names_expansion {nodes : List Node} (hnodes : (nodes.map (·.name)).Nodup)
    (task : Config.Task) : ((expansion nodes task).map (·.name)).Nodup := by
  rcases names_expansion nodes task with ⟨-, hnames⟩ | ⟨-, sub, hsub, hnames⟩ <;> rw [hnames]
  · exact List.nodup_singleton _
  · have hinj : Function.Injective fun n : String => task.name ++ "-" ++ n := fun a b h =>
      String.ext (by simpa using congrArg String.data h)
    rw [← Function.comp_def (fun n : String => task.name ++ "-" ++ n) Node.name, ← List.map_map]
    exact (hnodes.sublist (hsub.map _)).map hinj

/-- Two words each followed by `c` that begin one text are equal, or one of them followed by `c`
begins the other. -/
theorem eq_or_prefix_of_append_cons_eq {c : Char} {a b x y : List Char}
    (h : a ++ c :: x = b ++ c :: y) : a = b ∨ a ++ [c] <+: b ∨ b ++ [c] <+: a := by
  rcases List.append_eq_append_iff.mp h with ⟨_ | ⟨d, a'⟩, rfl, ht⟩ | ⟨_ | ⟨d, b'⟩, rfl, ht⟩
  · exact .inl (List.append_nil a).symm
  · cases (List.cons.inj ht).1
    exact .inr (.inl ⟨a', by simp⟩)
  · exact .inl (List.append_nil b)
  · cases (List.cons.inj ht).1
    exact .inr (.inr ⟨b', by simp⟩)

/-- Two services with different names expand to different names when neither begins with the
other's name and a hyphen while that other has an SLA. -/
theorem names_expansion_disjoint {nodes : List Node} {task task' : Config.Task}
    (hne : task.name ≠ task'.name)
    (h : task.sla ≠ .none → ¬(task.name ++ "-").data <+: task'.name.data)
    (h' : task'.sla ≠ .none → ¬(task'.name ++ "-").data <+: task.name.data) :
    ((expansion nodes task).map (·.name)).Disjoint ((expansion nodes task').map (·.name)) := by
  intro n hn hn'
  rcases mem_names_expansion hn with rfl | ⟨hs, x, hx⟩ <;>
    rcases mem_names_expansion hn' with heq | ⟨hs', y, hy⟩
  · exact hne heq
  · exact h' hs' ⟨y, by simp [hy]⟩
  · exact h hs ⟨x, by simp [← heq, hx]⟩
  · rcases eq_or_prefix_of_append_cons_eq (hx.symm.trans hy) with heq | hp | hp
    · exact hne (String.ext heq)
    · exact h hs (by simpa using hp)
    · exact h' hs' (by simpa using hp)

/-- The expansion of services whose names are distinct, none beginning with the name of a service
with an SLA and a hyphen, over a node table whose node names are distinct, has distinct task
names. -/
theorem expandTasks_names_nodup (tasks : List Config.Task) (state : State)
    (htasks : (tasks.map (·.name)).Nodup)
    (hbegins : ∀ task ∈ tasks, task.sla ≠ .none → ∀ task' ∈ tasks,
      ¬(task.name ++ "-").data <+: task'.name.data)
    (hnodes : (state.nodeList.getNodes.map (·.name)).Nodup) :
    ∃ expanded, (run env (expandTasks tasks) state).result = .ok expanded ∧
      (expanded.map (·.name)).Nodup := by
  refine ⟨_, by rw [run_expandTasks], ?_⟩
  rw [List.map_flatMap, List.nodup_flatMap]
  exact ⟨fun task _ => nodup_names_expansion hnodes task,
    (List.pairwise_map.mp htasks).imp_of_mem fun ha hb hne =>
      names_expansion_disjoint hne (fun hs => hbegins _ ha hs _ hb) fun hs => hbegins _ hb hs _ ha⟩

/-- The node `n1`, a slave. -/
def nodeN1 : Node := ⟨"n1", "10.0.0.11", "", "", "slave", "", true, "s1", 0, true⟩

/-- The actor with `n1` the one node. -/
def n1State : State := { State.new "" with nodeList := (∅ : NodeList).addNewNode nodeN1 }

/-- `coredns` once per node, beside `dns-sl1` and `dns-sl2`. -/
def corednsDnsSl : List Config.Task :=
  [{ dnsAService with name := "coredns", sla := .singletonEachNode },
    { dnsAService with name := "dns-sl1" }, { dnsAService with name := "dns-sl2" }]

theorem expandTasks_names_nodup_coredns :
    (corednsDnsSl.map (·.name)).Nodup ∧
    (∀ task ∈ corednsDnsSl, task.sla ≠ .none → ∀ task' ∈ corednsDnsSl,
      ¬(task.name ++ "-").data <+: task'.name.data) ∧
    (n1State.nodeList.getNodes.map (·.name)).Nodup ∧
    ∃ expanded, (run ⟨fun _ => true, 0⟩ (expandTasks corednsDnsSl) n1State).result = .ok expanded ∧
      (expanded.map (·.name)).Nodup :=
  have htasks : (corednsDnsSl.map (·.name)).Nodup := by decide
  have hbegins : ∀ task ∈ corednsDnsSl, task.sla ≠ .none → ∀ task' ∈ corednsDnsSl,
      ¬(task.name ++ "-").data <+: task'.name.data := by decide
  have hnodes : (n1State.nodeList.getNodes.map (·.name)).Nodup := by decide
  ⟨htasks, hbegins, hnodes, expandTasks_names_nodup _ _ _ htasks hbegins hnodes⟩

/-- `coredns` once per node, beside a service named `coredns-n1`. -/
def corednsN1 : List Config.Task :=
  [{ dnsAService with name := "coredns", sla := .singletonEachNode },
    { dnsAService with name := "coredns-n1" }]

/-- With the one node `n1`, the copy of `coredns` for `n1` takes the name of the service
`coredns-n1`. -/
theorem expandTasks_names_collide :
    (corednsN1.map (·.name)).Nodup ∧ (n1State.nodeList.getNodes.map (·.name)).Nodup ∧
    (run ⟨fun _ => true, 0⟩ (expandTasks corednsN1) n1State).result.toOption.map
      (·.map (·.name)) = some ["coredns-n1", "coredns-n1"] := by
  decide

/-! ### A tick -/

theorem run_checkHealth (task : Config.Task) (state : State) :
    run env (manager.checkHealth task) state =
      ⟨.ok (), if state.taskList.getTaskState task.name = .notRunning then
          state.handle (.startTask (manager.newTask task.name task true
            (manager.resolvedArguments task.arguments (state.taskList.getTaskIpByName "dns-sl1"))
            env.now))
        else state, []⟩ := by
  unfold checkHealth
  rw [run_bind, show run env (requestTaskState task.name) state =
    ⟨.ok (state.taskList.getTaskState task.name), state, []⟩ from rfl]
  dsimp only
  split <;> rename_i h
  · rw [if_pos h, run_sendStartTask]; rfl
  · rw [if_neg h]; rfl

theorem getTaskState_startTask (state : State) (task : Task) (n : String) :
    (state.handle (.startTask task)).taskList.getTaskState n =
      if n = task.name then task.state else state.taskList.getTaskState n := by
  unfold TaskList.getTaskState
  simp only [State.handle, TaskList.lookup_addNewTask]
  split_ifs <;> rfl

/-- The body of a tick for `task` starts `task` when it has no entry and leaves every other name
as it was. -/
theorem getTaskState_checkHealth (task : Config.Task) (state : State) (n : String) :
    (run env (manager.checkHealth task) state).state.taskList.getTaskState n =
      if n = task.name ∧ state.taskList.getTaskState n = .notRunning then .requested
      else state.taskList.getTaskState n := by
  rw [run_checkHealth]
  by_cases hn : n = task.name
  · subst hn
    split_ifs <;> simp_all [getTaskState_startTask, newTask]
  · split_ifs <;> simp_all [getTaskState_startTask, newTask]

theorem run_healthTick_cons (task : Config.Task) (tasks : List Config.Task) (state : State) :
    (run env (manager.healthTick (task :: tasks)) state).state =
      (run env (manager.healthTick tasks) (run env (manager.checkHealth task) state).state).state := by
  simp only [healthTick, List.forM_cons']
  rw [run_bind, run_checkHealth]

/-- After a tick, a task of the list that had no entry is `Requested`, and every other name is in
the state it was. -/
theorem getTaskState_healthTick (tasks : List Config.Task) (state : State) (n : String) :
    (run env (manager.healthTick tasks) state).state.taskList.getTaskState n =
      if n ∈ tasks.map (·.name) ∧ state.taskList.getTaskState n = .notRunning then .requested
      else state.taskList.getTaskState n := by
  induction tasks generalizing state with
  | nil => simp [healthTick]
  | cons task tasks ih =>
    rw [run_healthTick_cons, ih, getTaskState_checkHealth]
    by_cases hn : n = task.name ∧ state.taskList.getTaskState n = .notRunning
    · obtain ⟨rfl, h⟩ := hn
      simp [h]
    · simp only [hn, if_false, List.map_cons, List.mem_cons]
      congr 1
      apply propext
      tauto

end StateManager

namespace TorcScheduler

open Prog

variable (env : Env) (decode : List UInt8 → Except String Json)

/-- `update` on a status other than `TASK_RUNNING` removes the entry on `TASK_KILLED` and does
nothing otherwise. -/
theorem run_update_of_ne_running (status : Mesos.TaskStatus) (state : State)
    (hstatus : status.state ≠ .taskRunning) :
    run env (update decode status) state =
      ⟨.ok (), if status.state = .taskKilled then state.handle (.removeTask status.taskId) else state,
        []⟩ := by
  unfold update
  split <;> rename_i h
  · exact absurd h hstatus
  · rw [if_pos h]; rfl
  · rw [if_neg h]; rfl

/-- A status update for a task of the supervisor's list that is `Accepted`, followed by a tick
with nothing in between: after `TASK_KILLED` the task is `Requested` again, and after any other
status but `TASK_RUNNING` (`TASK_FAILED`, `TASK_LOST`, `TASK_ERROR`, `TASK_DROPPED`, `TASK_GONE`,
and `TASK_FINISHED` too) it is still `Accepted`, since only a missing entry makes the tick start
a task. -/
theorem update_then_healthTick (manager : StateManager) (state : State)
    (tasks : List Config.Task) (status : Mesos.TaskStatus)
    (haccepted : state.taskList.getTaskState status.taskId = .accepted)
    (hstatus : status.state ≠ .taskRunning) (hlisted : status.taskId ∈ tasks.map (·.name)) :
    (run env (update decode status >>= fun _ => manager.healthTick tasks) state).state.taskList.getTaskState
        status.taskId =
      if status.state = .taskKilled then .requested else .accepted := by
  rw [run_bind, run_update_of_ne_running env decode status state hstatus]
  dsimp only
  rw [StateManager.getTaskState_healthTick]
  by_cases hkilled : status.state = .taskKilled
  · simp [hkilled, hlisted, State.handle, TaskList.getTaskState]
  · simp [hkilled, haccepted]

theorem update_then_healthTick_killed :
    dnsAAccepted.taskList.getTaskState "dns-a" = .accepted ∧
    Mesos.TaskState.taskKilled ≠ .taskRunning ∧ "dns-a" ∈ [dnsAService].map (·.name) ∧
    (run ⟨fun _ => true, 0⟩ (update (fun _ => .error "") ⟨"dns-a", .taskKilled, "s1", []⟩ >>= fun _ =>
        StateManager.healthTick torcManager [dnsAService]) dnsAAccepted).state.taskList.getTaskState
        "dns-a" =
      if Mesos.TaskState.taskKilled = .taskKilled then .requested else .accepted :=
  have haccepted : dnsAAccepted.taskList.getTaskState "dns-a" = .accepted := by decide
  have hstatus : Mesos.TaskState.taskKilled ≠ .taskRunning := by decide
  have hlisted : "dns-a" ∈ [dnsAService].map (·.name) := by decide
  ⟨haccepted, hstatus, hlisted, update_then_healthTick ⟨fun _ => true, 0⟩ (fun _ => .error "")
    torcManager dnsAAccepted [dnsAService] ⟨"dns-a", .taskKilled, "s1", []⟩
    haccepted hstatus hlisted⟩

/-- `dns-a`, `Accepted` when its launch fails with `TASK_FAILED`, is still `Accepted` after the
next tick: no one requests it again. -/
theorem failed_launch_stays_accepted :
    (run ⟨fun _ => true, 0⟩ (update (fun _ => .error "") ⟨"dns-a", .taskFailed, "s1", []⟩ >>= fun _ =>
        StateManager.healthTick torcManager [dnsAService]) dnsAAccepted).state.taskList.getTaskState
        "dns-a" = .accepted := by
  decide

end TorcScheduler

end Torc
