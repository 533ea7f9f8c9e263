import Torc.Offers
import Torc.Store

/-! Where the command line of a launched task comes from.  `send_start_task` resolves the
`$MASTER_IP` and `$IP_DNS_SL1` tokens of the configured arguments once, in the caller's thread,
with the ip the task table holds for `dns-sl1` at that moment, and files the result in the task's
entry.  No request but a `StartTask` of the same name changes an entry's arguments, and the offers
callback splits the arguments of the snapshot's entry into the command of the launch.  So a launch
carries the arguments resolved when its `StartTask` was sent, whatever ip `dns-sl1` has by then:
the dependency gate of the scan waits for `dns-sl1` to be `Running`, but the substitution does not
wait for it. -/

namespace Torc

open Prog StateManager TorcScheduler

/-- The command of a descriptor is the task's arguments split at spaces. -/
theorem taskInfo_ok {task : Task} {slaveId : String} {info : Mesos.TaskInfo}
    (h : taskInfo task slaveId = .ok info) :
    info.name = task.name ∧
      info.command.arguments =
        if task.arguments.length > 0 then splitNonEmpty (· == ' ') task.arguments else [] := by
  unfold taskInfo at h
  cases hd : dockerParameters (network task).2 with
  | error e => rw [hd] at h; cases h
  | ok parameters =>
    rw [hd] at h
    cases h
    exact ⟨rfl, rfl⟩

theorem arguments_modifyEntry {taskList : TaskList} {k n : String} {f : Task → Task}
    (hf : ∀ task, (f task).arguments = task.arguments) {task' : Task}
    (h : (modifyEntry taskList k f).lookup n = some task') :
    ∃ task, taskList.lookup n = some task ∧ task'.arguments = task.arguments := by
  rw [lookup_modifyEntry] at h
  split_ifs at h with hn
  · subst hn
    obtain ⟨task, ht, rfl⟩ := Option.map_eq_some'.mp h
    exact ⟨task, ht, hf task⟩
  · exact ⟨task', h, rfl⟩

/-- No request but a `StartTask` of the name changes the arguments of the name's entry, or files
one. -/
theorem arguments_handle {state : State} {request : StateRequestMsg} {n : String}
    (hr : ∀ task, request = .startTask task → task.name ≠ n) {task' : Task}
    (h : (state.handle request).taskList.lookup n = some task') :
    ∃ task, state.taskList.lookup n = some task ∧ task'.arguments = task.arguments := by
  cases request with
  | startTask task =>
    simp only [State.handle, TaskList.lookup_addNewTask, Ne.symm (hr task rfl), if_false] at h
    exact ⟨task', h, rfl⟩
  | removeTask m =>
    simp only [State.handle, TaskList.lookup_removeTaskByName] at h
    split_ifs at h
    exact ⟨task', h, rfl⟩
  | updateTaskState =>
    simp only [State.handle, updateTaskState_taskList, TaskList.setTaskState] at h
    exact arguments_modifyEntry (fun _ => by rfl) h
  | updateTaskNodeName =>
    simp only [State.handle, TaskList.setTaskNodeName] at h
    exact arguments_modifyEntry (fun _ => by rfl) h
  | updateTaskInfo =>
    simp only [State.handle, TaskList.setTaskInfo] at h
    exact arguments_modifyEntry (fun _ => by rfl) h
  | _ => exact ⟨task', h, rfl⟩

/-- A launch carries the arguments resolved when the task's `StartTask` was sent.  Start the
configured `task` as `name` from any state whose entries are filed under their names, let the
actor serve any requests but another `StartTask` of `name`, and run the offers callback: each
descriptor of `name` in a launch call has as its command the configured arguments, with
`$IP_DNS_SL1` replaced by the ip `dns-sl1` had when the task was started, split at spaces. -/
theorem launched_arguments_resolved_at_start (manager : StateManager) (env : Env)
    {state₀ state : State} {name : String} {task : Config.Task} {isSystemService : Bool}
    {requests : List StateRequestMsg} {batch : List Mesos.Offer}
    (hnames : EntriesSatisfy state₀.taskList fun n task => task.name = n)
    (hrun : startServing (run env (manager.sendStartTask name task isSystemService) state₀).state
      requests = .ok state)
    (hkeep : ∀ t, .startTask t ∈ requests → t.name ≠ name)
    {offerIds : List String} {infos : List Mesos.TaskInfo}
    (hlaunch : .launch offerIds infos ∈ (run env (offers batch) state).calls)
    {info : Mesos.TaskInfo} (hinfo : info ∈ infos) (hname : info.name = name) :
    info.command.arguments =
      let arguments := manager.resolvedArguments task.arguments (state₀.taskList.getTaskIpByName "dns-sl1")
      if arguments.length > 0 then splitNonEmpty (· == ' ') arguments else [] := by
  rw [run_sendStartTask] at hrun
  set started := manager.newTask name task isSystemService
    (manager.resolvedArguments task.arguments (state₀.taskList.getTaskIpByName "dns-sl1")) env.now
  have hinv : EntriesSatisfy state.taskList (fun n task => task.name = n) ∧
      ∀ t, state.taskList.lookup name = some t → t.arguments = started.arguments := by
    refine startServing_preserves (I := fun s => EntriesSatisfy s.taskList (fun n task => task.name = n) ∧
        ∀ t, s.taskList.lookup name = some t → t.arguments = started.arguments) hrun
      (fun s r hr hs => ⟨names_handle hs.1 r, fun t ht => ?_⟩)
      ⟨names_handle hnames _, fun t ht => ?_⟩
    · obtain ⟨t', ht', hargs⟩ := arguments_handle (fun t h => hkeep t (h ▸ hr)) ht
      exact hargs.trans (hs.2 t' ht')
    · simp only [State.handle, TaskList.lookup_addNewTask] at ht
      rw [if_pos (show name = started.name from rfl)] at ht
      cases ht
      rfl
  match batch, hlaunch with
  | [], hlaunch => cases hlaunch
  | first :: rest, hlaunch =>
    obtain ⟨p, hp, hspec⟩ := offers_after_snapshot env state first rest
    rw [hp] at hlaunch
    obtain ⟨t, hmem, ht⟩ := hspec.mem_calls env hlaunch info hinfo
    obtain ⟨htname, hargs⟩ := taskInfo_ok ht
    obtain ⟨hlookup, -⟩ := lookup_of_mem_getTasksWithState hinv.1 hmem
    rw [← htname, hname] at hlookup
    rw [hargs, hinv.2 t hlookup]
    rfl

/-- The service `dns-sl2`, which waits for `dns-sl1` and is given its ip. -/
def dnsSl2Service : Config.Task :=
  { dnsAService with name := "dns-sl2", dependentService := "dns-sl1", arguments := "--dns $IP_DNS_SL1" }

/-- The service `dns-sl1`. -/
def dnsSl1Service : Config.Task := { dnsAService with name := "dns-sl1" }

/-- The requests of the other threads after `dns-sl2` was started: `dns-sl1` is started, runs
at `10.0.0.7` and is reported `Running`. -/
def dnsSl1Requests : List StateRequestMsg :=
  [.startTask (torcManager.newTask "dns-sl1" dnsSl1Service false "" 0),
   .updateTaskInfo "dns-sl1" "c1" "10.0.0.7" "s1", .updateTaskState "dns-sl1" .running]

/-- The state they leave. -/
def dnsSlState : State :=
  dnsSl1Requests.foldl State.handle
    (run ⟨fun _ => true, 0⟩ (torcManager.sendStartTask "dns-sl2" dnsSl2Service false) (State.new "")).state

/-- The descriptor of `dns-sl2` on the slave `s1`. -/
def dnsSl2Info : Mesos.TaskInfo :=
  { name := "dns-sl2", taskId := "dns-sl2", slaveId := "s1",
    command := { shell := false, arguments := ["--dns"] },
    container :=
      { fieldType := .docker,
        docker := { image := "dns:1", privileged := false, network := some .host, parameters := [] },
        volumes := [] },
    resources := [⟨"mem", "*", F64.zero⟩, ⟨"cpus", "*", F64.zero⟩] }

theorem launched_arguments_resolved_at_start_dnsSl2 :
    EntriesSatisfy (State.new "").taskList (fun n task => task.name = n) ∧
    startServing
        (run ⟨fun _ => true, 0⟩ (torcManager.sendStartTask "dns-sl2" dnsSl2Service false) (State.new "")).state
        dnsSl1Requests = .ok dnsSlState ∧
    (∀ t, .startTask t ∈ dnsSl1Requests → t.name ≠ "dns-sl2") ∧
    .launch ["o1"] [dnsSl2Info] ∈ (run ⟨fun _ => true, 0⟩ (offers [emptyOffer "o1"]) dnsSlState).calls ∧
    dnsSl2Info ∈ [dnsSl2Info] ∧ dnsSl2Info.name = "dns-sl2" ∧
    dnsSl2Info.command.arguments =
      let arguments := torcManager.resolvedArguments dnsSl2Service.arguments
        ((State.new "").taskList.getTaskIpByName "dns-sl1")
      if arguments.length > 0 then splitNonEmpty (· == ' ') arguments else [] :=
  have hnames : EntriesSatisfy (State.new "").taskList (fun n task => task.name = n) :=
    entriesSatisfy_empty _
  have hrun : startServing
      (run ⟨fun _ => true, 0⟩ (torcManager.sendStartTask "dns-sl2" dnsSl2Service false) (State.new "")).state
      dnsSl1Requests = .ok dnsSlState := rfl
  have hkeep : ∀ t, .startTask t ∈ dnsSl1Requests → t.name ≠ "dns-sl2" := fun t ht => by
    simp only [dnsSl1Requests, List.mem_cons, StateRequestMsg.startTask.injEq, reduceCtorEq,
      List.mem_nil_iff, or_false] at ht
    subst ht
    decide
  have hlaunch : .launch ["o1"] [dnsSl2Info] ∈
      (run ⟨fun _ => true, 0⟩ (offers [emptyOffer "o1"]) dnsSlState).calls := by decide
  have hinfo : dnsSl2Info ∈ [dnsSl2Info] := .head _
  ⟨hnames, hrun, hkeep, hlaunch, hinfo, rfl,
    launched_arguments_resolved_at_start torcManager ⟨fun _ => true, 0⟩ hnames hrun hkeep hlaunch hinfo rfl⟩

/-- The arguments a call launches, task by task. -/
def launchedArguments : Mesos.Call → List (List String)
  | .launch _ tasks => tasks.map (·.command.arguments)
  | _ => []

/-- `dns-sl2` is started before `dns-sl1` has an ip, so its `$IP_DNS_SL1` becomes the empty
string; `dns-sl1` then runs at `10.0.0.7`, and the next offer launches `dns-sl2` with the argument
`--dns` alone, not `--dns 10.0.0.7`. -/
theorem dnsSl2_launched_without_ip :
    (run ⟨fun _ => true, 0⟩ (do
        torcManager.sendStartTask "dns-sl2" dnsSl2Service false
        torcManager.sendStartTask "dns-sl1" dnsSl1Service false
        sendUpdateTaskInfo "dns-sl1" "c1" "10.0.0.7" "s1"
        sendUpdateTaskState "dns-sl1" .running
        let ip ← requestTaskIpByName "dns-sl1"
        offers [emptyOffer "o1"]
        ret ip) (State.new "")).result.toOption = some "10.0.0.7" ∧
    (run ⟨fun _ => true, 0⟩ (do
        torcManager.sendStartTask "dns-sl2" dnsSl2Service false
        torcManager.sendStartTask "dns-sl1" dnsSl1Service false
        sendUpdateTaskInfo "dns-sl1" "c1" "10.0.0.7" "s1"
        sendUpdateTaskState "dns-sl1" .running
        offers [emptyOffer "o1"]) (State.new "")).calls.map launchedArguments = [[["--dns"]]] := by
  decide

end Torc
