import Torc.Nodes
import Torc.Config

/-! What `main` reads from the configuration file before the threads run, and what the supervisor
reads from it.  `StateManager::new` spawns the actor on empty tables, files the configured nodes
(`load_node_list`) and reads the sync loop's interval; the supervisor reads its interval and its
system services from the same configuration (`run_health_checker`).  Every `unwrap` of a read is a
panic of the thread that reads.

`run_health_checker` reading a configuration is `runHealthChecker`, the supervisor on services
already read, on the services the configuration gives when they read (`runHealthCheckerOn_eq`),
and it starts only names it found missing whatever the configuration holds. -/

namespace Torc

open Prog Config TorcScheduler

/-- An `unwrap` of the source in a thread: the value read, or the thread's panic. -/
def orPanic {α : Type} : Except String α → Prog α
  | .ok a => ret a
  | .error msg => panic msg

theorem orPanic_bind {α β : Type} (x : Except String α) (f : α → Except String β) :
    orPanic (x >>= f) = orPanic x >>= fun a => orPanic (f a) := by
  cases x <;> rfl

@[simp] theorem orPanic_ok {α : Type} (a : α) : orPanic (.ok a : Except String α) = ret a := rfl

@[simp] theorem orPanic_pure {α : Type} (a : α) : orPanic (pure a : Except String α) = ret a := rfl

/-- A read makes no request and no call. -/
theorem spec_orPanic {α : Type} {P : StateRequestMsg → Prop} {Q : Mesos.Call → Prop}
    (x : Except String α) : (orPanic x).Spec P Q fun a => x = .ok a := by
  cases x with
  | ok a => rfl
  | error msg => trivial

/-! ### The node list -/

namespace StateManager

/-- `load_node_list`: every entry of `nodes` filed by `send_add_node`, its name, addresses and
type read by `read_string` and its port by `read_int`, 0 when missing. -/
def loadNodeList (config : Yaml) : Prog Unit := do
  let nodes ← orPanic (unwrap (config.index "nodes").asVec)
  nodes.forM fun node => do
    let name ← orPanic (readString node "name")
    let ip ← orPanic (readString node "ip")
    let externalIp ← orPanic (readString node "external_ip")
    let managementIp ← orPanic (readString node "management_ip")
    let portId ← orPanic (readInt node "port" 0)
    let nodeType ← orPanic (readString node "type")
    sendAddNode name ip externalIp managementIp portId nodeType

/-- What `StateManager::new` does against the actor that `start_serving` spawned: it files the
configured nodes, then `start_syncing` reads the sync loop's interval and spawns the loop.  The
interval is the value. -/
def construct (config : Yaml) : Prog Int := do
  loadNodeList config
  orPanic (unwrap ((config.index "statesync").index "poll_interval_in_seconds").asI64)

/-- `StateManager::new`'s record: `my_name` is the configuration's `name`, `torc-controller` when it
is not a string, and the framework id joins it to a fresh UUID, `uuid`. -/
def new (masterIp controllerIp : String) (config : Yaml) (uuid : String) : StateManager :=
  let myName := ((config.index "name").asStr).getD "torc-controller"
  ⟨masterIp, myName, controllerIp, myName ++ "-" ++ uuid⟩

end StateManager

/-- The controller's address `main` passes on: the `CONTROLLER_IP` argument, and the master's
address when it is missing or empty. -/
def controllerIpOf (masterIp : String) (controllerIp : Option String) : String :=
  let controllerIp := controllerIp.getD ""
  match controllerIp.length with
  | 0 => masterIp
  | _ => controllerIp

/-- The node `load_node_list` files for an entry of `nodes`, as `send_add_node` builds it. -/
def configuredNode (node : Yaml) : Except String Node := do
  let name ← readString node "name"
  let ip ← readString node "ip"
  let externalIp ← readString node "external_ip"
  let managementIp ← readString node "management_ip"
  let portId ← readInt node "port" 0
  let nodeType ← readString node "type"
  pure
    { name := name, ip := ip, externalIp := externalIp, managementIp := managementIp,
      nodeType := nodeType, nodeFunction := "none", active := false, slaveId := "",
      portId := portId, reachable := false }

/-- The configured nodes, in the order of the list. -/
def configuredNodes (config : Yaml) : Except String (List Node) := do
  let nodes ← unwrap (config.index "nodes").asVec
  nodes.mapM configuredNode

/-- The body of the loop of `load_node_list`: read the entry, then file its node. -/
theorem loadNodeList_eq (config : Yaml) :
    StateManager.loadNodeList config = orPanic (unwrap (config.index "nodes").asVec) >>= fun nodes =>
      nodes.forM fun node => orPanic (configuredNode node) >>= fun n =>
        request (.addNode n) fun _ => ret () := by
  unfold StateManager.loadNodeList configuredNode
  simp only [orPanic_bind, bind_assoc, orPanic_pure, ret_bind]
  rfl

variable (env : Env)

/-- Filing entries that all read adds their nodes to the table in order; nothing else changes. -/
theorem run_fileNodes {entries : List Yaml} {nodes : List Node}
    (h : List.Forall₂ (fun entry node => configuredNode entry = .ok node) entries nodes)
    (state : State) :
    run env (entries.forM fun node => orPanic (configuredNode node) >>= fun n =>
        request (.addNode n) fun _ => ret ()) state =
      ⟨.ok (), { state with nodeList := nodes.foldl NodeList.addNewNode state.nodeList }, []⟩ := by
  induction h generalizing state with
  | nil => rfl
  | @cons entry node entries nodes hnode _ ih =>
    rw [List.forM_cons', run_bind, hnode]
    simp only [orPanic_ok, ret_bind, run_request_ok env (rfl : serve state (.addNode node) = _),
      run_ret, ih]
    rfl

/-- `load_node_list` returns exactly when the node list reads, and then adds the configured nodes
to the node table in order. -/
theorem run_loadNodeList {config : Yaml} {nodes : List Node} (h : configuredNodes config = .ok nodes)
    (state : State) :
    run env (StateManager.loadNodeList config) state =
      ⟨.ok (), { state with nodeList := nodes.foldl NodeList.addNewNode state.nodeList }, []⟩ := by
  obtain ⟨entries, hentries, hnodes⟩ := bind_eq_ok.mp h
  rw [loadNodeList_eq, unwrap_eq_ok.mp hentries]
  exact run_fileNodes env (mapM_eq_ok.mp hnodes) state

theorem run_construct_state {config : Yaml} {nodes : List Node} (h : configuredNodes config = .ok nodes)
    (state : State) :
    (run env (StateManager.construct config) state).state =
      { state with nodeList := nodes.foldl NodeList.addNewNode state.nodeList } := by
  rw [StateManager.construct, run_bind, run_loadNodeList env h]
  cases unwrap ((config.index "statesync").index "poll_interval_in_seconds").asI64 <;> rfl

/-- The node table after filing `nodes` holds, under each name, the last of them of that name. -/
theorem lookup_foldl_addNewNode (nodes : List Node) (nodeList : NodeList) (n : String) :
    (nodes.foldl NodeList.addNewNode nodeList).lookup n =
      (lastNamed Node.name id nodes n).or (nodeList.lookup n) := by
  induction nodes using List.reverseRecOn with
  | nil => rfl
  | append_singleton nodes node ih =>
    rw [List.foldl_append, List.foldl_cons, List.foldl_nil, NodeList.lookup_addNewNode,
      lastNamed_append_singleton, ih]
    by_cases h : node.name = n
    · simp [h]
    · simp [h, Ne.symm h]

/-- Filing nodes is a run of the actor on requests `StateManager` sends. -/
theorem Reachable.foldl_addNewNode {controllerIp : String} {state : State}
    (h : Reachable controllerIp state) (nodes : List Node) :
    Reachable controllerIp { state with nodeList := nodes.foldl NodeList.addNewNode state.nodeList } := by
  induction nodes generalizing state with
  | nil => exact h
  | cons node nodes ih =>
    have hs : Torc.serve state (.addNode node) = .ok (.addNode, state.handle (.addNode node)) := rfl
    exact ih (.serve h (by exact trivial) hs)

/-! ### The supervisor on the configuration -/

namespace StateManager

section Supervisor

variable (manager : StateManager) (defaultMemory defaultCpu : F64)

/-- The loop of `run_health_checker` over `system_services`: each service read by `read_task`,
then expanded by its SLA, in order. -/
def expandServices : List Yaml → Prog (List Config.Task)
  | [] => ret []
  | service :: services => do
    let task ← orPanic (readTask defaultMemory defaultCpu service)
    let copies ← expandTask task
    let rest ← expandServices services
    ret (copies ++ rest)

/-- `run_health_checker` as it reads the configuration: ping, read the poll interval and the
system services of `healthcheck`, read and expand each service, then tick. -/
def runHealthCheckerOn (config : Yaml) (ticks : Nat) : Prog Unit := do
  sendPing
  let _ ← orPanic (unwrap ((config.index "healthcheck").index "poll_interval_in_seconds").asI64)
  let systemServices ← orPanic (unwrap ((config.index "healthcheck").index "system_services").asVec)
  let tasks ← expandServices defaultMemory defaultCpu systemServices
  manager.healthLoop tasks ticks

end Supervisor

end StateManager

section Supervisor

variable (manager : StateManager) (defaultMemory defaultCpu : F64)

/-- The system services of the configuration as `run_health_checker` reads them. -/
def systemServicesOf (config : Yaml) : Except String (List Config.Task) := do
  let _ ← unwrap ((config.index "healthcheck").index "poll_interval_in_seconds").asI64
  let services ← unwrap ((config.index "healthcheck").index "system_services").asVec
  services.mapM (readTask defaultMemory defaultCpu)

theorem expandServices_eq {services : List Yaml} {tasks : List Config.Task}
    (h : List.Forall₂ (fun service task => readTask defaultMemory defaultCpu service = .ok task)
      services tasks) :
    StateManager.expandServices defaultMemory defaultCpu services = StateManager.expandTasks tasks := by
  induction h with
  | nil => rfl
  | cons htask _ ih =>
    simp only [StateManager.expandServices, StateManager.expandTasks, htask, ih, orPanic, ret_bind]

/-- The supervisor read from a configuration whose system services read is the supervisor on those
services. -/
theorem runHealthCheckerOn_eq {config : Yaml} {tasks : List Config.Task}
    (h : systemServicesOf defaultMemory defaultCpu config = .ok tasks) (ticks : Nat) :
    manager.runHealthCheckerOn defaultMemory defaultCpu config ticks =
      manager.runHealthChecker tasks ticks := by
  obtain ⟨interval, hinterval, h⟩ := bind_eq_ok.mp h
  obtain ⟨services, hservices, htasks⟩ := bind_eq_ok.mp h
  unfold StateManager.runHealthCheckerOn StateManager.runHealthChecker
  rw [hinterval, hservices]
  simp only [orPanic_ok, ret_bind, expandServices_eq defaultMemory defaultCpu (mapM_eq_ok.mp htasks)]

/-- A configuration whose supervisor polls every 10 seconds and keeps `dns-a` running. -/
def dnsAHealthConfig : Yaml :=
  .hash [(.string "healthcheck", .hash [(.string "poll_interval_in_seconds", .integer 10),
    (.string "system_services", .array [.hash [(.string "name", .string "dns-a"),
      (.string "image_name", .string "dns:1"), (.string "network_type", .string "host")]])])]

theorem runHealthCheckerOn_eq_dnsA :
    systemServicesOf F64.zero F64.zero dnsAHealthConfig = .ok [dnsAService] ∧
    torcManager.runHealthCheckerOn F64.zero F64.zero dnsAHealthConfig 1 =
      torcManager.runHealthChecker [dnsAService] 1 :=
  ⟨rfl, @runHealthCheckerOn_eq torcManager F64.zero F64.zero dnsAHealthConfig [dnsAService] rfl 1⟩

/-- Expanding a service only reads the node table. -/
theorem spec_expandTask (task : Config.Task) :
    (StateManager.expandTask task).Spec (fun r => r.Reader ∧ ∀ n, r ≠ .getTaskState n)
      (fun _ => False) fun _ => True := by
  have hnodes : StateManager.requestListNodes.Spec (fun r => r.Reader ∧ ∀ n, r ≠ .getTaskState n)
      (fun _ => False) fun _ => True :=
    ⟨⟨trivial, fun _ => nofun⟩, fun reply => by cases reply <;> trivial⟩
  unfold StateManager.expandTask
  split
  · trivial
  · exact hnodes.bind fun _ _ => trivial
  · exact hnodes.bind fun _ _ => trivial

theorem spec_expandServices (services : List Yaml) :
    (StateManager.expandServices defaultMemory defaultCpu services).Spec
      (fun r => r.Reader ∧ ∀ n, r ≠ .getTaskState n) (fun _ => False) fun _ => True := by
  induction services with
  | nil => trivial
  | cons service services ih =>
    exact (spec_orPanic _).bind fun _ _ => (spec_expandTask _).bind fun _ _ =>
      ih.bind fun _ _ => trivial

/-- Whatever the configuration holds, the supervisor read from it starts only the names it found
missing: a read that panics stops it after requests that only read. -/
theorem supervised_runHealthCheckerOn (config : Yaml) (ticks : Nat) :
    Supervised none (manager.runHealthCheckerOn defaultMemory defaultCpu config ticks) := by
  have hping : StateManager.sendPing.Spec (fun r => r.Reader ∧ ∀ n, r ≠ .getTaskState n)
      (fun _ => False) fun _ => True := ⟨⟨trivial, fun _ => nofun⟩, fun _ => trivial⟩
  exact (supervised_of_spec hping).bind fun _ => (supervised_of_spec (spec_orPanic _)).bind
    fun _ => (supervised_of_spec (spec_orPanic _)).bind fun _ =>
      (supervised_of_spec (spec_expandServices defaultMemory defaultCpu _)).bind fun tasks =>
        supervised_healthLoop manager tasks ticks

end Supervisor

end Torc
