import Torc.Actor

/-! The invariant of the State Actor's tables, and what runs of the actor do to node activity and
to the registry.

Every entry is filed under its own record's name, and no task entry is `NotRunning`:
`add_new_task` and `add_new_node` file a record under its name, the setters reach an entry through
`get_mut` and change neither its name nor, except `set_task_state`, its state, and the only states
that the callers of `send_update_task_state` and `send_start_task` pass are `Requested`,
`Accepted` and `Running`.  So the invariant holds in every reachable state, and there the three
lists of tasks by state partition the task table and `GetTaskState` answers `NotRunning` exactly
for the names without an entry.

Along any run, a node that is active stays active until an `AddNode` of its name, which files the
request's record in place of the old one; and the actor posts a task to the registry once for each
`UpdateTaskState` to `Running` that finds its entry, however often that happens. -/

namespace Torc

/-! ### What each request does to the tables -/

section Handle

variable {state : State}

/-- Every request keeps each task entry under its record's name. -/
theorem names_handle (h : EntriesSatisfy state.taskList fun n task => task.name = n)
    (request : StateRequestMsg) :
    EntriesSatisfy (state.handle request).taskList fun n task => task.name = n := by
  cases request with
  | updateTaskState taskName taskState =>
    simpa [State.handle] using h.modifyEntry (fun _ _ hv => by exact hv) taskName
  | updateTaskNodeName taskName _ => exact h.modifyEntry (fun _ _ hv => by exact hv) taskName
  | updateTaskInfo taskName _ _ _ => exact h.modifyEntry (fun _ _ hv => by exact hv) taskName
  | startTask task => exact h.insert rfl
  | removeTask taskName => exact h.erase taskName
  | _ => exact h

/-- Every request keeps each node entry under its record's name. -/
theorem nodeNames_handle (h : EntriesSatisfy state.nodeList fun n node => node.name = n)
    (request : StateRequestMsg) :
    EntriesSatisfy (state.handle request).nodeList fun n node => node.name = n := by
  cases request with
  | updateTaskState => simpa [State.handle] using h
  | addNode node => exact h.insert rfl
  | updateNode nodeName _ _ _ => exact h.modifyEntry (fun _ _ hv => by exact hv) nodeName
  | _ => exact h

/-- The requests that `StateManager` sends never make a task entry `NotRunning`. -/
theorem live_handle (h : EntriesSatisfy state.taskList fun _ task => task.state ≠ .notRunning)
    {request : StateRequestMsg} (hr : request.Sent) :
    EntriesSatisfy (state.handle request).taskList fun _ task => task.state ≠ .notRunning := by
  cases request with
  | updateTaskState taskName taskState =>
    have hst : taskState ≠ .notRunning := by rcases hr with rfl | rfl <;> decide
    simpa [State.handle, TaskList.setTaskState] using
      h.modifyEntry (f := fun task => { task with state := taskState }) (fun _ _ _ => hst) taskName
  | updateTaskNodeName taskName _ => exact h.modifyEntry (fun _ _ hv => by exact hv) taskName
  | updateTaskInfo taskName _ _ _ => exact h.modifyEntry (fun _ _ hv => by exact hv) taskName
  | startTask task => exact h.insert (k := task.name) (by simp only [StateRequestMsg.Sent] at hr; simp [hr])
  | removeTask taskName => exact h.erase taskName
  | _ => exact h

/-- No request but `StartTask` files a task under a name that has no entry. -/
theorem not_mem_handle {request : StateRequestMsg} (hr : ∀ task, request ≠ .startTask task)
    {n : String} (hn : n ∉ state.taskList) : n ∉ (state.handle request).taskList := by
  cases request with
  | startTask task => exact absurd rfl (hr task)
  | removeTask m => simp [State.handle, TaskList.removeTaskByName, hn]
  | _ =>
    simpa [State.handle, TaskList.setTaskState, TaskList.setTaskNodeName, TaskList.setTaskInfo]
      using hn

/-- A name keeps its entry under every request but its own `RemoveTask`. -/
theorem mem_handle {request : StateRequestMsg} {n : String} (hr : request ≠ .removeTask n)
    (hn : n ∈ state.taskList) : n ∈ (state.handle request).taskList := by
  cases request with
  | startTask task => simp [State.handle, TaskList.addNewTask, hn]
  | removeTask m => simp_all [State.handle, TaskList.removeTaskByName, eq_comm]
  | _ =>
    simpa [State.handle, TaskList.setTaskState, TaskList.setTaskNodeName, TaskList.setTaskInfo]
      using hn

end Handle

/-! ### The invariant -/

/-- The invariant of the actor's tables. -/
structure TablesInv (state : State) : Prop where
  names : EntriesSatisfy state.taskList fun n task => task.name = n
  live : EntriesSatisfy state.taskList fun _ task => task.state ≠ .notRunning
  nodes : EntriesSatisfy state.nodeList fun n node => node.name = n

namespace TablesInv

theorem new (controllerIp : String) : TablesInv (State.new controllerIp) :=
  ⟨entriesSatisfy_empty _, entriesSatisfy_empty _, entriesSatisfy_empty _⟩

/-- Every request that `StateManager` sends keeps the invariant. -/
theorem handle {state : State} (h : TablesInv state) {request : StateRequestMsg}
    (hr : request.Sent) : TablesInv (state.handle request) :=
  ⟨names_handle h.names request, live_handle h.live hr, nodeNames_handle h.nodes request⟩

theorem serve {state state' : State} (h : TablesInv state) {request : StateRequestMsg}
    {reply : StateResponseMsg} (hr : request.Sent) (hs : serve state request = .ok (reply, state')) :
    TablesInv state' := by
  rw [(serve_eq_ok.mp hs).2]
  exact h.handle hr

end TablesInv

theorem Reachable.tablesInv {controllerIp : String} {state : State}
    (h : Reachable controllerIp state) : TablesInv state := by
  induction h with
  | new => exact TablesInv.new controllerIp
  | serve _ hr hs ih => exact ih.serve hr hs

/-! ### The task table by state -/

namespace TaskList

variable {taskList : TaskList}

theorem count_filter_state (a : Task) (l : List Task) (taskState : TaskState) :
    (l.filter fun value => value.state == taskState).count a =
      if a.state = taskState then l.count a else 0 := by
  split_ifs with hs
  · exact List.count_filter (by simp [hs])
  · exact List.count_eq_zero_of_not_mem fun hm => hs (by simpa using (List.mem_filter.mp hm).2)

theorem getTaskState_eq_notRunning_iff
    (h : EntriesSatisfy taskList fun _ task => task.state ≠ .notRunning) (n : String) :
    taskList.getTaskState n = .notRunning ↔ n ∉ taskList := by
  rw [← AList.lookup_eq_none, getTaskState]
  cases hn : taskList.lookup n with
  | none => simp
  | some task => simpa using h n task hn

/-- When no entry is `NotRunning`, the `Requested`, the `Running` and the `Accepted` entries
together are the table, each entry in exactly one of the three lists. -/
theorem getTasksWithState_perm
    (h : EntriesSatisfy taskList fun _ task => task.state ≠ .notRunning) :
    (taskList.getTasksWithState .requested ++ taskList.getTasksWithState .running ++
      taskList.getTasksWithState .accepted).Perm (values taskList) := by
  rw [List.perm_iff_count]
  intro a
  simp only [getTasksWithState, List.count_append, count_filter_state]
  by_cases ha : a ∈ values taskList
  · obtain ⟨n, hn⟩ := mem_values.mp ha
    have hlive := h n a hn
    cases hs : a.state <;> simp_all
  · simp [List.count_eq_zero_of_not_mem ha]

end TaskList

/-- The store's representation invariant in every state the actor can reach: each entry of either
table is filed under its record's name, so no two entries share a name; every task entry is
`Requested`, `Accepted` or `Running`; the replies to `GetRequestedTasks` and `GetRunningTasks`
and the `Accepted` entries partition the task table; and `GetTaskState` answers `NotRunning`
exactly for the names without an entry. -/
theorem reachable_tables_partition {controllerIp : String} {state : State}
    (h : Reachable controllerIp state) :
    (∀ n task, state.taskList.lookup n = some task → task.name = n) ∧
    (∀ n node, state.nodeList.lookup n = some node → node.name = n) ∧
    ((values state.taskList).map (·.name)).Nodup ∧ ((values state.nodeList).map (·.name)).Nodup ∧
    (∀ n task, state.taskList.lookup n = some task →
      task.state = .requested ∨ task.state = .accepted ∨ task.state = .running) ∧
    (state.taskList.getTasksWithState .requested ++ state.taskList.getTasksWithState .running ++
      state.taskList.getTasksWithState .accepted).Perm (values state.taskList) ∧
    ∀ n, state.taskList.getTaskState n = .notRunning ↔ n ∉ state.taskList := by
  have hinv := h.tablesInv
  refine ⟨hinv.names, hinv.nodes, hinv.names.nodup_map, hinv.nodes.nodup_map, fun n task hn => ?_,
    TaskList.getTasksWithState_perm hinv.live, TaskList.getTaskState_eq_notRunning_iff hinv.live⟩
  have : task.state ≠ .notRunning := hinv.live n task hn
  revert this
  cases task.state <;> simp

/-- The node `n1` as `send_add_node` files it from the configuration. -/
def nodeN1 : Node :=
  { name := "n1", ip := "10.0.0.1", externalIp := "", managementIp := "", nodeType := "slave",
    nodeFunction := "none", active := false, slaveId := "", portId := 0, reachable := false }

/-- The tables after `dns-a` is filed, set `Running` and the node `n1` added. -/
def dnsARunningN1 : State :=
  (((State.new "").handle (.startTask dnsA)).handle (.updateTaskState "dns-a" .running)).handle
    (.addNode nodeN1)

theorem reachable_dnsARunningN1 : Reachable "" dnsARunningN1 :=
  @Reachable.serve "" _ _ (.addNode nodeN1) _
    (@Reachable.serve "" _ _ (.updateTaskState "dns-a" .running) _
      (@Reachable.serve "" _ _ (.startTask dnsA) _ .new rfl rfl) (Or.inr rfl) rfl) trivial rfl

theorem reachable_tables_partition_dnsA :
    Reachable "" dnsARunningN1 ∧
    ((∀ n task, dnsARunningN1.taskList.lookup n = some task → task.name = n) ∧
    (∀ n node, dnsARunningN1.nodeList.lookup n = some node → node.name = n) ∧
    ((values dnsARunningN1.taskList).map (·.name)).Nodup ∧
    ((values dnsARunningN1.nodeList).map (·.name)).Nodup ∧
    (∀ n task, dnsARunningN1.taskList.lookup n = some task →
      task.state = .requested ∨ task.state = .accepted ∨ task.state = .running) ∧
    (dnsARunningN1.taskList.getTasksWithState .requested ++
      dnsARunningN1.taskList.getTasksWithState .running ++
      dnsARunningN1.taskList.getTasksWithState .accepted).Perm (values dnsARunningN1.taskList) ∧
    ∀ n, dnsARunningN1.taskList.getTaskState n = .notRunning ↔ n ∉ dnsARunningN1.taskList) :=
  ⟨reachable_dnsARunningN1, reachable_tables_partition reachable_dnsARunningN1⟩

/-! ### Runs of the actor -/

/-- A run that the actor serves to the end is a serve of its first request and a run of the
rest. -/
theorem startServing_cons_ok {state state' : State} {request : StateRequestMsg}
    {requests : List StateRequestMsg} (h : startServing state (request :: requests) = .ok state') :
    ∃ reply, serve state request = .ok (reply, state.handle request) ∧
      startServing (state.handle request) requests = .ok state' := by
  simp only [startServing] at h
  cases hs : serve state request with
  | error e => rw [hs] at h; cases h
  | ok p =>
    obtain ⟨reply, s⟩ := p
    obtain ⟨-, rfl⟩ := serve_eq_ok.mp hs
    rw [hs] at h
    exact ⟨reply, rfl, h⟩

/-- A property of states that every request of a run keeps holds after the run. -/
theorem startServing_preserves {I : State → Prop} {state state' : State}
    {requests : List StateRequestMsg} (hrun : startServing state requests = .ok state')
    (hI : ∀ s, ∀ r ∈ requests, I s → I (s.handle r)) (hs : I state) : I state' := by
  induction requests generalizing state with
  | nil => cases hrun; exact hs
  | cons request requests ih =>
    obtain ⟨-, -, hrun⟩ := startServing_cons_ok hrun
    exact ih hrun (fun s r hr => hI s r (.tail _ hr)) (hI state request (.head _) hs)

/-! ### Node activity -/

/-- A node stays active under every request but an `AddNode` of its name. -/
theorem isNodeActive_handle {state : State} {request : StateRequestMsg} {n : String}
    (hr : ∀ node, request = .addNode node → node.name ≠ n)
    (h : state.nodeList.isNodeActive n = true) : (state.handle request).nodeList.isNodeActive n = true := by
  unfold NodeList.isNodeActive at h ⊢
  cases request with
  | addNode node => simpa [State.handle, Ne.symm (hr node rfl)] using h
  | updateNode nodeName =>
    simp only [State.handle, NodeList.lookup_updateNode]
    split_ifs with hn
    · subst hn; cases hl : state.nodeList.lookup n <;> simp_all
    · exact h
  | _ => simpa [State.handle] using h

/-- Node activity along a run: a node that is active stays active through any run without an
`AddNode` of its name, and an `AddNode` files its record in place of whatever the table held, so
the inactive record that `send_add_node` builds turns an active node inactive. -/
theorem startServing_isNodeActive {state state' : State} {requests : List StateRequestMsg}
    {n : String} (hrun : startServing state requests = .ok state')
    (hadd : ∀ node, .addNode node ∈ requests → node.name ≠ n)
    (hactive : state.nodeList.isNodeActive n = true) (node : Node) :
    state'.nodeList.isNodeActive n = true ∧
      (state'.handle (.addNode node)).nodeList.lookup node.name = some node :=
  ⟨startServing_preserves (I := fun s => s.nodeList.isNodeActive n = true) hrun
      (fun _ r hr => isNodeActive_handle fun node h => hadd node (h ▸ hr)) hactive,
    by simp [State.handle]⟩

/-- A state whose one node, `n1`, is active. -/
def n1Active : State :=
  { State.new "" with nodeList := (∅ : NodeList).addNewNode { nodeN1 with active := true } }

/-- Writes to the tables that leave `n1` alone: the node `n2` added and activated, and `dns-a`
filed and set `Running`. -/
def writesBesideN1 : List StateRequestMsg :=
  [.addNode { nodeN1 with name := "n2", ip := "10.0.0.2" }, .updateNode "n2" "slave" "none" "s2",
    .startTask dnsA, .updateTaskState "dns-a" .running]

theorem startServing_isNodeActive_writes :
    startServing n1Active writesBesideN1 =
      .ok (writesBesideN1.foldl State.handle n1Active) ∧
    (∀ node, .addNode node ∈ writesBesideN1 → node.name ≠ "n1") ∧
    n1Active.nodeList.isNodeActive "n1" = true ∧
    ((writesBesideN1.foldl State.handle n1Active).nodeList.isNodeActive "n1" = true ∧
      ((writesBesideN1.foldl State.handle n1Active).handle (.addNode nodeN1)).nodeList.lookup
        nodeN1.name = some nodeN1) :=
  have hrun : startServing n1Active writesBesideN1 = .ok (writesBesideN1.foldl State.handle n1Active) :=
    rfl
  have hadd : ∀ node, .addNode node ∈ writesBesideN1 → node.name ≠ "n1" := by
    simp [writesBesideN1]
  ⟨hrun, hadd, rfl, startServing_isNodeActive hrun hadd rfl nodeN1⟩

/-- `n1`, made active by an offer, turns inactive when it is added again. -/
theorem readd_node_resets_active :
    (startServing (State.new "") [.addNode nodeN1, .updateNode "n1" "slave" "none" "s1"]).toOption.map
        (·.nodeList.isNodeActive "n1") = some true ∧
    (startServing (State.new "")
        [.addNode nodeN1, .updateNode "n1" "slave" "none" "s1", .addNode nodeN1]).toOption.map
        (·.nodeList.isNodeActive "n1") = some false := by
  decide

/-! ### Registry posts -/

/-- The posts of `update_task_state`: one, of the entry after the update, when the new state is
`Running` and the name has an entry. -/
theorem updateTaskState_registered (state : State) (taskName : String) (taskState : TaskState) :
    (updateTaskState state taskName taskState).registered =
      state.registered ++ if taskState = .running then
        ((state.taskList.lookup taskName).map fun task => { task with state := .running }).toList
      else [] := by
  unfold updateTaskState
  cases taskState <;> simp only [reduceCtorEq, if_false, List.append_nil]
  simp only [TaskList.getTask, TaskList.lookup_setTaskState, if_true]
  cases state.taskList.lookup taskName <;> simp [registerRunningTask]

/-- The posts of one request for the name `n`: one when it sets `n` `Running` and `n` has an
entry, none otherwise. -/
theorem countP_registered_handle {state : State}
    (h : EntriesSatisfy state.taskList fun n task => task.name = n) (request : StateRequestMsg)
    (n : String) :
    (state.handle request).registered.countP (·.name = n) =
      state.registered.countP (·.name = n) +
        if request = .updateTaskState n .running ∧ n ∈ state.taskList then 1 else 0 := by
  cases request with
  | updateTaskState taskName taskState =>
    simp only [State.handle, updateTaskState_registered, List.countP_append, StateRequestMsg.updateTaskState.injEq]
    by_cases hs : taskState = .running
    · subst hs
      cases ht : state.taskList.lookup taskName with
      | none =>
        by_cases hn : taskName = n
        · subst hn; simp [← AList.lookup_isSome, ht]
        · simp [hn]
      | some task =>
        have hname := h taskName task ht
        by_cases hn : taskName = n
        · subst hn; simp [← AList.lookup_isSome, ht, hname]
        · simp [hname, hn]
    · simp [hs]
  | _ => simp [State.handle]

/-- Registry posts along a run: while a task keeps its entry, the actor posts it to the registry
once for each `UpdateTaskState` to `Running` of its name, and no other request posts it.  Whenever
`Running` is set twice, by a repeated `TASK_RUNNING` update or by the reconciliation that
`subscribed` asks for, the task is posted twice. -/
theorem startServing_registered_count {state state' : State} {requests : List StateRequestMsg}
    {n : String} (hrun : startServing state requests = .ok state')
    (hnames : EntriesSatisfy state.taskList fun n task => task.name = n) (hn : n ∈ state.taskList)
    (hkeep : .removeTask n ∉ requests) :
    state'.registered.countP (·.name = n) =
      state.registered.countP (·.name = n) + requests.count (.updateTaskState n .running) := by
  induction requests generalizing state with
  | nil => cases hrun; rfl
  | cons request requests ih =>
    obtain ⟨-, -, hrun⟩ := startServing_cons_ok hrun
    have hne : request ≠ .removeTask n := fun h => hkeep (h ▸ .head _)
    rw [ih hrun (names_handle hnames request) (mem_handle hne hn) fun h => hkeep (.tail _ h),
      countP_registered_handle hnames, List.count_cons]
    simp only [hn, and_true, beq_iff_eq]
    split_ifs <;> omega

theorem startServing_registered_count_dnsA :
    startServing dnsARequested [.updateTaskState "dns-a" .running] =
        .ok (dnsARequested.handle (.updateTaskState "dns-a" .running)) ∧
    EntriesSatisfy dnsARequested.taskList (fun n task => task.name = n) ∧
    "dns-a" ∈ dnsARequested.taskList ∧
    StateRequestMsg.removeTask "dns-a" ∉ [StateRequestMsg.updateTaskState "dns-a" .running] ∧
    (dnsARequested.handle (.updateTaskState "dns-a" .running)).registered.countP (·.name = "dns-a") =
      dnsARequested.registered.countP (·.name = "dns-a") +
        [StateRequestMsg.updateTaskState "dns-a" .running].count (.updateTaskState "dns-a" .running) :=
  have hrun : startServing dnsARequested [.updateTaskState "dns-a" .running] =
      .ok (dnsARequested.handle (.updateTaskState "dns-a" .running)) := rfl
  have hnames : EntriesSatisfy dnsARequested.taskList (fun n task => task.name = n) :=
    (entriesSatisfy_empty _).insert rfl
  have hn : "dns-a" ∈ dnsARequested.taskList := by decide
  have hkeep : StateRequestMsg.removeTask "dns-a" ∉ [StateRequestMsg.updateTaskState "dns-a" .running] :=
    by decide
  ⟨hrun, hnames, hn, hkeep, startServing_registered_count hrun hnames hn hkeep⟩

/-- `dns-a`, set `Running` twice while it keeps its entry, is posted twice. -/
theorem dnsA_posted_twice :
    (startServing (State.new "")
        [.startTask dnsA, .updateTaskState "dns-a" .running, .updateTaskState "dns-a" .running]).toOption.map
      (·.registered.length) = some 2 := by
  decide

end Torc
