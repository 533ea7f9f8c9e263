import Torc.Supervisor
import Mathlib.Data.String.Basic

/-! The admin API of `api/run_api.rs`: an HTTP server whose handlers talk to the State Actor
through a clone of `StateManager`.  Four routes only read the tables; `DELETE /service` asks the
Mesos master to kill a task and leaves the tables alone; `GET /start/group` reads the
`service-groups` of the configuration and sends `send_start_task` for every instance of every
service of the groups of the given name.

`send_start_task` files its record with `HashMap::insert`, so a group start files a fresh
`Requested` record under each instance name whatever entry the name had: a `Running` task of the
group is filed anew, without its container id, ip and slave, and the offers callback launches it a
second time.  The API never removes an entry and never sets a task's state; its only calls to the
master are kills of the names that `DELETE /service` queries give. -/

namespace Torc

open Prog

/-- `kill_task` of the Mesos client: a `kill` call to the master, whose answer is only logged, when
the client is set (once `subscribed` ran); before that, only a log line. -/
def killTask (mesosClientSet : Bool) (taskName : String) : Prog Unit :=
  if mesosClientSet then .call (.kill taskName) fun _ => .ret () else .ret ()

/-- `StateManager::send_kill_task_by_name`. -/
def StateManager.sendKillTaskByName (mesosClientSet : Bool) (taskName : String) : Prog Unit :=
  killTask mesosClientSet taskName

namespace Api

/-! ### Requests, responses and routes -/

/-- The method of an HTTP request, as far as the router tells methods apart. -/
inductive Method where
  | get
  | delete
  | other
  deriving DecidableEq, Repr

/-- An HTTP request as the handlers see it: the method, the path and the query of the URL. -/
structure Request where
  method : Method
  path : String
  query : Option String
  deriving DecidableEq, Repr

/-- What a handler answers, before the JSON encoding: the text of `handle_ping`, a list of nodes
or of tasks, a `SimpleResponse`, or the router's 404 for a request without a route. -/
inductive Response where
  | text (body : String)
  | nodes (nodes : List Node)
  | tasks (tasks : List Task)
  | simpleResponse (result : String)
  | notFound
  deriving DecidableEq, Repr

/-- An entry of `service-groups` in the `api` section of the configuration: its `name` when it is
a string, and its `services` as `read_task` reads them when it is a list. -/
structure ServiceGroup where
  name : Option String
  services : Option (List Config.Task)
  deriving DecidableEq, Repr

/-- The value of `key` in a query, as `handle_service`, `handle_service_delete` and
`handle_start_service_group` read it: the query (`""` without one) must not be empty and must start
with `key`, `split_at` cuts `key` off, and an empty rest counts as no value. -/
def queryValue (key : String) (query : Option String) : Option String :=
  let query := query.getD ""
  if !query.isEmpty && startsWith query key then
    let value := (splitAt query key.length).2
    if !value.isEmpty then some value else none
  else none

/-- `handle_ping`. -/
def handlePing : Prog Response := ret (.text "pong")

/-- `handle_nodes`: the active nodes. -/
def handleNodes : Prog Response := do
  let nodes ← StateManager.requestListNodes
  ret (.nodes (nodes.filter fun node => node.active))

/-- The `Running` tasks that `keep` selects: the body of `handle_services_metered` and
`handle_services_running`. -/
def runningTasksWhere (keep : Task → Bool) : Prog Response := do
  let tasks ← StateManager.requestListRunningTasks
  ret (.tasks (tasks.filter keep))

/-- `handle_services_metered`. -/
def handleServicesMetered : Prog Response := runningTasksWhere fun task => task.isMetered

/-- `handle_services_running`: the `Running` tasks that are not jobs. -/
def handleServicesRunning : Prog Response := runningTasksWhere fun task => !task.isJob

/-- `handle_service`: the name of the task whose id starts with the `id=` of the query. -/
def handleService (query : Option String) : Prog Response := do
  let result ← (match queryValue "id=" query with
    | some id => StateManager.requestTaskNameById id
    | none => ret "")
  ret (.simpleResponse result)

/-- `handle_service_delete`: kills the task named by the `name=` of the query. -/
def handleServiceDelete (mesosClientSet : Bool) (query : Option String) : Prog Response := do
  let _ ← (match queryValue "name=" query with
    | some name => StateManager.sendKillTaskByName mesosClientSet name
    | none => ret ())
  ret (.simpleResponse "done")

section StartGroup

variable (manager : StateManager)

/-- The name of instance `cnt` of a service: `<name>-<cnt>` when the service asks for more than
one instance, its name otherwise. -/
def instanceName (task : Config.Task) (cnt : Nat) : String :=
  if task.numberOfInstances > 1 then task.name ++ "-" ++ toString cnt else task.name

/-- The loop over `0..number_of_instances` of one service, empty when the number is not
positive. -/
def startInstances (task : Config.Task) : Prog Unit :=
  (List.range task.numberOfInstances.toNat).forM fun cnt =>
    manager.sendStartTask (instanceName task cnt) task false

/-- The body of the loop over the service groups: the group's name and, for the group named
`name`, its services are unwrapped. -/
def startServiceGroup (name : String) (serviceGroup : ServiceGroup) : Prog Unit :=
  match serviceGroup.name with
  | none => .panic unwrapNone
  | some groupName =>
    if groupName = name then
      match serviceGroup.services with
      | none => .panic unwrapNone
      | some services => services.forM (startInstances manager)
    else ret ()

/-- `handle_start_service_group`, with the configuration's `service-groups` as `get_yaml` reads
them at the request (`none` when the entry is missing or not a list). -/
def handleStartServiceGroup (serviceGroups : Option (List ServiceGroup)) (query : Option String) :
    Prog Response := do
  let _ ← (match queryValue "name=" query with
    | some name =>
      match serviceGroups with
      | none => .panic unwrapNone
      | some serviceGroups => serviceGroups.forM (startServiceGroup manager name)
    | none => ret ())
  ret (.simpleResponse "done")

end StartGroup

variable (manager : StateManager) (mesosClientSet : Bool) (serviceGroups : Option (List ServiceGroup))

/-- The routes `run_api` registers; the router answers 404 to a request without one. -/
def route (request : Request) : Prog Response :=
  match request.method, request.path with
  | .get, "/admin/ping" => handlePing
  | .get, "/nodes" => handleNodes
  | .get, "/services/metered" => handleServicesMetered
  | .get, "/services/running" => handleServicesRunning
  | .get, "/service" => handleService request.query
  | .delete, "/service" => handleServiceDelete mesosClientSet request.query
  | .get, "/start/group" => handleStartServiceGroup manager serviceGroups request.query
  | _, _ => ret .notFound

/-- `run_api` serving `requests` in order; the server serves for ever. -/
def runApi (requests : List Request) : Prog (List Response) := do
  StateManager.sendPing
  requests.mapM (route manager mesosClientSet serviceGroups)

/-! ### The query -/

/-- A query gives `key` the value `value` exactly when it is `key` followed by `value`, and `value`
is not empty. -/
theorem queryValue_eq_some {key value : String} {query : Option String} :
    queryValue key query = some value ↔ query.getD "" = key ++ value ∧ value ≠ "" := by
  unfold queryValue
  generalize query.getD "" = q
  constructor
  · intro h
    by_cases hs : startsWith q key
    · obtain ⟨rest, rfl⟩ := startsWith_iff.mp hs
      simp only [splitAt_append] at h
      split_ifs at h with h1 h2
      cases h
      simpa [isEmpty_eq_false_iff] using h2
    · simp [hs] at h
  · rintro ⟨rfl, hv⟩
    have hs : startsWith (key ++ value) key := startsWith_iff.mpr ⟨value, rfl⟩
    have hne : key ++ value ≠ "" := fun h =>
      hv (String.ext (List.append_eq_nil.mp (congrArg String.data h)).2)
    simp [hs, splitAt_append, isEmpty_eq_false_iff, hv, hne]

/-! ### What the API can do -/

/-- The requests of the admin API: requests that only read the tables, and `StartTask`s of a
`Requested` record that is not a system service. -/
def ApiRequest (r : StateRequestMsg) : Prop :=
  r.Reader ∨ ∃ task, r = .startTask task ∧ task.state = .requested ∧ task.isSystemService = false

/-- The calls to the master that the handler of `request` can make: a kill of the name in the
query of a `DELETE /service`. -/
def ApiCall (request : Request) (c : Mesos.Call) : Prop :=
  request.method = .delete ∧ request.path = "/service" ∧
    ∃ name, queryValue "name=" request.query = some name ∧ c = .kill name

/-- A request for the route `GET /start/group`, the one route that writes to the task table. -/
def IsGroupStart (request : Request) : Prop :=
  request.method = .get ∧ request.path = "/start/group"

section Spec

variable {Q : Mesos.Call → Prop}

theorem spec_killTask {P : StateRequestMsg → Prop} (mesosClientSet : Bool) (taskName : String) :
    (killTask mesosClientSet taskName).Spec P (· = .kill taskName) fun _ => True := by
  unfold killTask
  split_ifs
  · exact ⟨rfl, fun _ => trivial⟩
  · trivial

theorem spec_handleNodes : handleNodes.Spec StateRequestMsg.Reader Q fun _ => True :=
  Spec.bind (R := fun _ => True) ⟨trivial, fun reply => by cases reply <;> trivial⟩
    fun _ _ => trivial

theorem spec_runningTasksWhere (keep : Task → Bool) :
    (runningTasksWhere keep).Spec StateRequestMsg.Reader Q fun _ => True :=
  Spec.bind (R := fun _ => True) ⟨trivial, fun reply => by cases reply <;> trivial⟩
    fun _ _ => trivial

theorem spec_handleService (query : Option String) :
    (handleService query).Spec StateRequestMsg.Reader Q fun _ => True := by
  unfold handleService
  refine Spec.bind (R := fun _ => True) ?_ fun _ _ => by exact trivial
  split
  · exact ⟨trivial, fun reply => by cases reply <;> trivial⟩
  · trivial

variable (manager : StateManager)

theorem spec_startInstances (task : Config.Task) :
    (startInstances manager task).Spec ApiRequest (fun _ => False) fun _ => True :=
  Spec.forM fun _ _ => (spec_sendStartTask manager _ task false).mono
    (fun _ => Or.imp id fun ⟨_, _, hr⟩ => ⟨_, hr, rfl, rfl⟩) (fun _ h => h) fun _ h => h

theorem spec_startServiceGroup (name : String) (serviceGroup : ServiceGroup) :
    (startServiceGroup manager name serviceGroup).Spec ApiRequest (fun _ => False) fun _ => True := by
  unfold startServiceGroup
  split
  · trivial
  · split_ifs
    · split
      · trivial
      · exact Spec.forM fun task _ => spec_startInstances manager task
    · trivial

theorem spec_handleStartServiceGroup (serviceGroups : Option (List ServiceGroup))
    (query : Option String) :
    (handleStartServiceGroup manager serviceGroups query).Spec ApiRequest Q fun _ => True := by
  unfold handleStartServiceGroup
  refine Spec.bind (R := fun _ => True) ?_ fun _ _ => by exact trivial
  split
  · split
    · trivial
    · exact (Spec.forM fun g _ => spec_startServiceGroup manager _ g).mono (fun _ h => h)
        (fun _ h => h.elim) fun _ h => h
  · trivial

variable (mesosClientSet : Bool) (serviceGroups : Option (List ServiceGroup))

/-- Each route only reads, but a group start, which sends the requests of the API; only
`DELETE /service` calls the master. -/
theorem spec_route (request : Request) :
    (route manager mesosClientSet serviceGroups request).Spec
      (fun r => r.Reader ∨ IsGroupStart request ∧ ApiRequest r) (ApiCall request) fun _ => True := by
  unfold route
  split
  case h_6 hmethod hpath =>
    unfold handleServiceDelete
    refine Spec.bind (R := fun _ => True) ?_ fun _ _ => by exact trivial
    split
    case h_1 name hname =>
      exact (spec_killTask mesosClientSet name).mono (fun _ h => h)
        (fun _ hc => ⟨hmethod, hpath, name, hname, hc⟩) fun _ h => h
    case h_2 => trivial
  case h_7 hmethod hpath =>
    exact (spec_handleStartServiceGroup manager _ _).mono (fun _ h => .inr ⟨⟨hmethod, hpath⟩, h⟩)
      (fun _ h => h) fun _ h => h
  all_goals first
    | trivial
    | exact spec_handleNodes.mono (fun _ => .inl) (fun _ h => h) fun _ h => h
    | exact (spec_runningTasksWhere _).mono (fun _ => .inl) (fun _ h => h) fun _ h => h
    | exact (spec_handleService _).mono (fun _ => .inl) (fun _ h => h) fun _ h => h

section Loop

variable {routes : Request → Prog Response}
  (hroutes : ∀ request, (routes request).Spec (fun r => r.Reader ∨ IsGroupStart request ∧ ApiRequest r)
    (ApiCall request) fun _ => True)
include hroutes

/-- The loop of `run_api` over routes that keep the bounds of `spec_route`: it sends the API's
requests, and calls the master only as the handler of one of its requests may. -/
theorem spec_apiLoop (requests : List Request) :
    (do StateManager.sendPing; requests.mapM routes : Prog (List Response)).Spec ApiRequest
      (fun c => ∃ request ∈ requests, ApiCall request c) fun _ => True :=
  ⟨.inl trivial, fun _ => Spec.mapM fun request hmem =>
    (hroutes request).mono (fun _ h => h.elim .inl (·.2)) (fun _ hc => ⟨request, hmem, hc⟩)
      fun _ h => h⟩

/-- Without a group start, the loop only reads the tables. -/
theorem spec_apiLoop_reader {requests : List Request}
    (h : ∀ request ∈ requests, ¬IsGroupStart request) :
    (do StateManager.sendPing; requests.mapM routes : Prog (List Response)).Spec
      StateRequestMsg.Reader (fun c => ∃ request ∈ requests, ApiCall request c) fun _ => True :=
  ⟨trivial, fun _ => Spec.mapM fun request hmem =>
    (hroutes request).mono (fun _ hr => hr.elim id fun hr => absurd hr.1 (h request hmem))
      (fun _ hc => ⟨request, hmem, hc⟩) fun _ h => h⟩

end Loop

theorem spec_runApi (requests : List Request) :
    (runApi manager mesosClientSet serviceGroups requests).Spec ApiRequest
      (fun c => ∃ request ∈ requests, ApiCall request c) fun _ => True :=
  spec_apiLoop (spec_route manager mesosClientSet serviceGroups) requests

/-- Without a group start, the API only reads the tables. -/
theorem spec_runApi_reader {requests : List Request} (h : ∀ request ∈ requests, ¬IsGroupStart request) :
    (runApi manager mesosClientSet serviceGroups requests).Spec StateRequestMsg.Reader
      (fun c => ∃ request ∈ requests, ApiCall request c) fun _ => True :=
  spec_apiLoop_reader (spec_route manager mesosClientSet serviceGroups) h

end Spec

/-- How the API may leave the task table `after` that it found as `before`: every entry is as it
was, or a `Requested` record that is not a system service. -/
def Refiled (before after : TaskList) : Prop :=
  ∀ n, after.lookup n = before.lookup n ∨
    ∃ task, after.lookup n = some task ∧ task.state = .requested ∧ task.isSystemService = false

theorem refiled_handle {before : TaskList} {state : State} (h : Refiled before state.taskList)
    {r : StateRequestMsg} (hr : ApiRequest r) : Refiled before (state.handle r).taskList := by
  rcases hr with hr | ⟨task, rfl, hstate, hsystem⟩
  · rwa [hr.handle]
  · intro n
    simp only [State.handle, TaskList.lookup_addNewTask]
    split_ifs
    · exact .inr ⟨task, rfl, hstate, hsystem⟩
    · exact h n

/-- The admin API never removes a task and never moves one to `Accepted` or `Running`: whatever
requests it serves, from any state, each entry it leaves is the entry it found or a `Requested`
record that is not a system service, and its only calls to the master are kills of the names that
`DELETE /service` queries give. -/
theorem runApi_effect (manager : StateManager) (env : Env) (mesosClientSet : Bool)
    (serviceGroups : Option (List ServiceGroup)) (requests : List Request) (state : State) :
    (∀ c ∈ (run env (runApi manager mesosClientSet serviceGroups requests) state).calls,
      ∃ request ∈ requests, ApiCall request c) ∧
    Refiled state.taskList
      (run env (runApi manager mesosClientSet serviceGroups requests) state).state.taskList :=
  have hspec := spec_runApi manager mesosClientSet serviceGroups requests
  ⟨fun _ hc => hspec.mem_calls env hc,
    hspec.run_state env (I := fun s => Refiled state.taskList s.taskList)
      (fun _ _ hr hs => refiled_handle hs hr) fun _ => .inl rfl⟩

/-! ### Starting a group -/

/-- The instances of a service, in the order of `0..number_of_instances`: each name with the
service. -/
def serviceInstances (task : Config.Task) : List (String × Config.Task) :=
  (List.range task.numberOfInstances.toNat).map fun cnt => (instanceName task cnt, task)

/-- The instances a group starts for the name `name`: none unless the group has that name. -/
def ServiceGroup.instances (name : String) (serviceGroup : ServiceGroup) :
    List (String × Config.Task) :=
  if serviceGroup.name = some name then (serviceGroup.services.getD []).flatMap serviceInstances
  else []

/-- The instances a start of the groups named `name` starts, in order. -/
def groupInstances (name : String) (serviceGroups : List ServiceGroup) :
    List (String × Config.Task) :=
  serviceGroups.flatMap (ServiceGroup.instances name)

example :
    (groupInstances "web" [⟨some "web", some [{ dnsAService with name := "svc", numberOfInstances := 3 }]⟩]).map
      Prod.fst = ["svc-0", "svc-1", "svc-2"] := by
  decide

/-- A group that the loop reads without a panic for the name `name`: it has a name, and a list of
services if the name is `name`. -/
def ServiceGroup.Readable (name : String) (serviceGroup : ServiceGroup) : Prop :=
  serviceGroup.name.isSome ∧ (serviceGroup.name = some name → serviceGroup.services.isSome)

instance (name : String) (serviceGroup : ServiceGroup) : Decidable (serviceGroup.Readable name) :=
  inferInstanceAs (Decidable (_ ∧ _))

section StartGroup

variable (manager : StateManager) (env : Env)

/-- The actor after the API's `send_start_task` of the instance `i`. -/
def startInstance (state : State) (i : String × Config.Task) : State :=
  (run env (manager.sendStartTask i.1 i.2 false) state).state

theorem run_startInstances (task : Config.Task) (state : State) :
    run env (startInstances manager task) state =
      ⟨.ok (), (serviceInstances task).foldl (startInstance manager env) state, []⟩ := by
  unfold startInstances serviceInstances
  rw [run_forM env (g := fun s cnt => startInstance manager env s (instanceName task cnt, task))
    (fun _ _ _ => by dsimp only [startInstance]; rw [StateManager.run_sendStartTask]), List.foldl_map]

theorem run_startServiceGroup (name : String) {serviceGroup : ServiceGroup}
    (hg : serviceGroup.Readable name) (state : State) :
    run env (startServiceGroup manager name serviceGroup) state =
      ⟨.ok (), (serviceGroup.instances name).foldl (startInstance manager env) state, []⟩ := by
  obtain ⟨groupName, hname⟩ := Option.isSome_iff_exists.mp hg.1
  unfold startServiceGroup ServiceGroup.instances
  rw [hname]
  by_cases h : groupName = name
  · subst h
    obtain ⟨services, hs⟩ := Option.isSome_iff_exists.mp (hg.2 hname)
    simp only [if_true, hs, Option.getD_some]
    rw [run_forM env fun task _ s => run_startInstances manager env task s, List.flatMap, List.foldl_flatten, List.foldl_map]
  · simp [h]

/-- A group start with a name, over groups that it reads without a panic, files the instances of
the groups of that name one after the other and answers `done`. -/
theorem run_handleStartServiceGroup {serviceGroups : List ServiceGroup} {query : Option String}
    {name : String} (hq : queryValue "name=" query = some name)
    (hr : ∀ serviceGroup ∈ serviceGroups, serviceGroup.Readable name) (state : State) :
    run env (handleStartServiceGroup manager (some serviceGroups) query) state =
      ⟨.ok (.simpleResponse "done"),
        (groupInstances name serviceGroups).foldl (startInstance manager env) state, []⟩ := by
  unfold handleStartServiceGroup groupInstances
  rw [hq, run_bind, run_forM env fun g hg s => run_startServiceGroup manager env name (hr g hg) s,
    List.flatMap, List.foldl_flatten, List.foldl_map]
  rfl

theorem lookup_startInstance (state : State) (i : String × Config.Task) (n : String) :
    (startInstance manager env state i).taskList.lookup n =
      if n = i.1 then
        some (manager.newTask i.1 i.2 false
          (manager.resolvedArguments i.2.arguments (state.taskList.getTaskIpByName "dns-sl1")) env.now)
      else state.taskList.lookup n := by
  rw [startInstance, StateManager.run_sendStartTask]
  exact TaskList.lookup_addNewTask _ _

theorem lookup_foldl_startInstance_of_not_mem {instances : List (String × Config.Task)}
    {n : String} (h : n ∉ instances.map Prod.fst) (state : State) :
    (instances.foldl (startInstance manager env) state).taskList.lookup n =
      state.taskList.lookup n := by
  induction instances generalizing state with
  | nil => rfl
  | cons i instances ih =>
    simp only [List.map_cons, List.mem_cons, not_or] at h
    rw [List.foldl_cons, ih h.2, lookup_startInstance, if_neg h.1]

theorem lookup_foldl_startInstance_of_mem {instances : List (String × Config.Task)} {n : String}
    (h : n ∈ instances.map Prod.fst) (state : State) :
    ∃ task, (n, task) ∈ instances ∧ ∃ arguments,
      (instances.foldl (startInstance manager env) state).taskList.lookup n =
        some (manager.newTask n task false arguments env.now) := by
  induction instances generalizing state with
  | nil => cases h
  | cons i instances ih =>
    rw [List.foldl_cons]
    by_cases hn : n ∈ instances.map Prod.fst
    · obtain ⟨task, hmem, hlookup⟩ := ih hn _
      exact ⟨task, .tail _ hmem, hlookup⟩
    · have hi : n = i.1 := by simpa [hn] using h
      rw [lookup_foldl_startInstance_of_not_mem manager env hn, lookup_startInstance, if_pos hi]
      subst hi
      exact ⟨i.2, .head _, _, rfl⟩

/-- `GET /start/group?name=<name>` files anew every instance of the groups named `name`: over
groups it reads without a panic, it answers `done` without calling the master, every instance name
then holds a record that `new_task` built from one of the group's services under that name
(`Requested`, with no id, ip or slave, not a system service) whatever entry the name had, a
`Running` one included, and every other entry is as it was. -/
theorem handleStartServiceGroup_refiles {serviceGroups : List ServiceGroup}
    {query : Option String} {name : String} (hq : queryValue "name=" query = some name)
    (hr : ∀ serviceGroup ∈ serviceGroups, serviceGroup.Readable name) (state : State) :
    ∃ state', run env (handleStartServiceGroup manager (some serviceGroups) query) state =
        ⟨.ok (.simpleResponse "done"), state', []⟩ ∧
      ∀ n, if n ∈ (groupInstances name serviceGroups).map Prod.fst then
          ∃ task, (n, task) ∈ groupInstances name serviceGroups ∧ ∃ arguments,
            state'.taskList.lookup n = some (manager.newTask n task false arguments env.now)
        else state'.taskList.lookup n = state.taskList.lookup n :=
  ⟨_, run_handleStartServiceGroup manager env hq hr state, fun n => by
    split_ifs with hn
    · exact lookup_foldl_startInstance_of_mem manager env hn state
    · exact lookup_foldl_startInstance_of_not_mem manager env hn state⟩

end StartGroup

/-- The group `dns` of the one service `dns-a`. -/
def dnsGroup : ServiceGroup := ⟨some "dns", some [dnsAService]⟩

/-- `dns-a` running in the container `c1f3` at `10.0.0.7` on the slave `s1`. -/
def dnsARunning : State :=
  (((State.new "").handle (.startTask dnsA)).handle
    (.updateTaskInfo "dns-a" "c1f3" "10.0.0.7" "s1")).handle (.updateTaskState "dns-a" .running)

theorem handleStartServiceGroup_refiles_dns :
    queryValue "name=" (some "name=dns") = some "dns" ∧
    (∀ serviceGroup ∈ [dnsGroup], serviceGroup.Readable "dns") ∧
    ∃ state', run ⟨fun _ => true, 0⟩
        (handleStartServiceGroup torcManager (some [dnsGroup]) (some "name=dns")) dnsARunning =
        ⟨.ok (.simpleResponse "done"), state', []⟩ ∧
      ∀ n, if n ∈ (groupInstances "dns" [dnsGroup]).map Prod.fst then
          ∃ task, (n, task) ∈ groupInstances "dns" [dnsGroup] ∧ ∃ arguments,
            state'.taskList.lookup n = some (torcManager.newTask n task false arguments 0)
        else state'.taskList.lookup n = dnsARunning.taskList.lookup n :=
  have hq : queryValue "name=" (some "name=dns") = some "dns" := by decide
  have hr : ∀ serviceGroup ∈ [dnsGroup], serviceGroup.Readable "dns" := by decide
  ⟨hq, hr, handleStartServiceGroup_refiles torcManager ⟨fun _ => true, 0⟩ hq hr dnsARunning⟩

/-! ### Looking a task up by its id -/

theorem run_handleService (env : Env) (query : Option String) (state : State) :
    run env (handleService query) state =
      ⟨.ok (.simpleResponse (match queryValue "id=" query with
          | some id => state.taskList.getTaskNameById id
          | none => "")), state, []⟩ := by
  unfold handleService
  cases queryValue "id=" query <;> rfl

/-- `GET /service?id=<id>`, over a table whose entries are filed under their names, changes
nothing, calls no one and answers the name of an entry whose id is not empty and starts with `id`,
or `""` when no entry has such an id. -/
theorem handleService_answers (env : Env) {query : Option String} {id : String}
    (hq : queryValue "id=" query = some id) {state : State}
    (hnames : EntriesSatisfy state.taskList fun n task => task.name = n) :
    ∃ result, run env (handleService query) state = ⟨.ok (.simpleResponse result), state, []⟩ ∧
      ((∃ task, state.taskList.lookup result = some task ∧ task.id ≠ "" ∧
          startsWith task.id id = true) ∨
        (result = "" ∧ ∀ n task, state.taskList.lookup n = some task → task.id ≠ "" →
          startsWith task.id id = false)) := by
  refine ⟨state.taskList.getTaskNameById id, by rw [run_handleService, hq], ?_⟩
  rcases state.taskList.getTaskNameById_cases id with ⟨task, hmem, hname, hid, hs⟩ | ⟨hres, hnone⟩
  · obtain ⟨k, hk⟩ := mem_values.mp hmem
    refine .inl ⟨task, ?_, hid, hs⟩
    rw [← hname, hnames k task hk]
    exact hk
  · exact .inr ⟨hres, fun n task hl => hnone task (mem_values.mpr ⟨n, hl⟩)⟩

theorem handleService_answers_c1 :
    queryValue "id=" (some "id=c1") = some "c1" ∧
    EntriesSatisfy dnsARunning.taskList (fun n task => task.name = n) ∧
    ∃ result, run ⟨fun _ => true, 0⟩ (handleService (some "id=c1")) dnsARunning =
        ⟨.ok (.simpleResponse result), dnsARunning, []⟩ ∧
      ((∃ task, dnsARunning.taskList.lookup result = some task ∧ task.id ≠ "" ∧
          startsWith task.id "c1" = true) ∨
        (result = "" ∧ ∀ n task, dnsARunning.taskList.lookup n = some task → task.id ≠ "" →
          startsWith task.id "c1" = false)) :=
  have hq : queryValue "id=" (some "id=c1") = some "c1" := by decide
  have hnames : EntriesSatisfy dnsARunning.taskList (fun n task => task.name = n) :=
    names_handle (names_handle (names_handle (entriesSatisfy_empty _) _) _) _
  ⟨hq, hnames, handleService_answers ⟨fun _ => true, 0⟩ hq hnames⟩

end Api

end Torc
