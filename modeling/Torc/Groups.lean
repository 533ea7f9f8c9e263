import Torc.Startup

/-! The group start of the admin API as `handle_start_service_group` reads the configuration.  At
each request it takes `api.service-groups` from `get_yaml`, unwraps the name of every group, and for
a group of the name the query asks for unwraps its services and reads them with `read_task` one at a
time, filing the instances of each service before it reads the next.

`Api.handleStartServiceGroup` takes the groups already read (`serviceGroupsOf`).  The two agree on
every configuration whose asked-for services read (`handleStartServiceGroupOn_eq`), so what the
earlier modules prove of the group start holds of the configuration's; otherwise the request panics
at the first service that does not read, with the instances of the services before it filed. -/

namespace Torc

/-- A request that files only tasks of `G`. -/
def StateRequestMsg.Files (G : Task → Prop) (r : StateRequestMsg) : Prop :=
  ∀ task, r = .startTask task → G task

theorem StateRequestMsg.Reader.files {G : Task → Prop} {r : StateRequestMsg} (hr : r.Reader) :
    r.Files G := by
  rintro task rfl
  exact hr.elim

theorem StateRequestMsg.Files.mono {G G' : Task → Prop} {r : StateRequestMsg}
    (h : r.Files G) (hG : ∀ task, G task → G' task) : r.Files G' :=
  fun task hr => hG _ (h task hr)

namespace Api

open Prog Config

section StartGroupOn

variable (manager : StateManager) (defaultMemory defaultCpu : F64)

/-- The body of the loop over a group's services: `read_task`, then the loop over the service's
instances. -/
def startServiceOn (service : Yaml) : Prog Unit := do
  let task ← orPanic (readTask defaultMemory defaultCpu service)
  startInstances manager task

/-- The body of the loop over `service-groups` as the source reads the group: its name unwrapped,
and for the group named `name` its services unwrapped and started one by one. -/
def startServiceGroupOn (name : String) (serviceGroup : Yaml) : Prog Unit := do
  let groupName ← orPanic (unwrap (serviceGroup.index "name").asStr)
  if groupName = name then
    let services ← orPanic (unwrap (serviceGroup.index "services").asVec)
    services.forM (startServiceOn manager defaultMemory defaultCpu)
  else ret ()

/-- `handle_start_service_group` on the configuration `config` that `get_yaml` gives. -/
def handleStartServiceGroupOn (config : Yaml) (query : Option String) : Prog Response := do
  let _ ← (match queryValue "name=" query with
    | some name => do
      let serviceGroups ← orPanic (unwrap ((config.index "api").index "service-groups").asVec)
      serviceGroups.forM (startServiceGroupOn manager defaultMemory defaultCpu name)
    | none => ret ())
  ret (.simpleResponse "done")

/-- The routes of `run_api` as `main` starts it, the group start reading the configuration; the
other routes read no group, and are those of `route`. -/
def routeOn (mesosClientSet : Bool) (config : Yaml) (request : Request) : Prog Response :=
  match request.method, request.path with
  | .get, "/start/group" =>
    handleStartServiceGroupOn manager defaultMemory defaultCpu config request.query
  | _, _ => route manager mesosClientSet none request

/-- `run_api` as `main` starts it, serving `requests` in order. -/
def runApiOn (mesosClientSet : Bool) (config : Yaml) (requests : List Request) :
    Prog (List Response) := do
  StateManager.sendPing
  requests.mapM (routeOn manager defaultMemory defaultCpu mesosClientSet config)

/-- A group of `service-groups` read at once, as `handleStartServiceGroup` takes it: its name when
it is a string, and its services when they are a list that `read_task` reads throughout. -/
def serviceGroupOf (serviceGroup : Yaml) : ServiceGroup :=
  ⟨(serviceGroup.index "name").asStr, ((serviceGroup.index "services").asVec).bind fun services =>
    (services.mapM (readTask defaultMemory defaultCpu)).toOption⟩

/-- The groups of the configuration read at once. -/
def serviceGroupsOf (config : Yaml) : Option (List ServiceGroup) :=
  ((config.index "api").index "service-groups").asVec.map
    (List.map (serviceGroupOf defaultMemory defaultCpu))

/-- The services of a group read, if its name is `name`: `read_task` reads each of them when they
are a list. -/
def ServicesRead (name : String) (serviceGroup : Yaml) : Prop :=
  (serviceGroup.index "name").asStr = some name → ∀ services,
    (serviceGroup.index "services").asVec = some services →
      ∃ tasks, services.mapM (readTask defaultMemory defaultCpu) = .ok tasks

theorem forM_startServiceOn_eq {services : List Yaml} {tasks : List Config.Task}
    (h : List.Forall₂ (fun service task => readTask defaultMemory defaultCpu service = .ok task)
      services tasks) :
    services.forM (startServiceOn manager defaultMemory defaultCpu) =
      tasks.forM (startInstances manager) := by
  induction h with
  | nil => rfl
  | cons hread _ ih =>
    simp only [List.forM_cons', startServiceOn, hread, orPanic_ok, ret_bind, ih]

/-- Reading a group as the loop goes is reading it at once, when its services read. -/
theorem startServiceGroupOn_eq {name : String} {serviceGroup : Yaml}
    (h : ServicesRead defaultMemory defaultCpu name serviceGroup) :
    startServiceGroupOn manager defaultMemory defaultCpu name serviceGroup =
      startServiceGroup manager name (serviceGroupOf defaultMemory defaultCpu serviceGroup) := by
  unfold startServiceGroupOn startServiceGroup serviceGroupOf
  cases hname : (serviceGroup.index "name").asStr with
  | none => rfl
  | some groupName =>
    simp only [unwrap, orPanic_ok, ret_bind]
    split_ifs with heq
    · subst heq
      cases hs : (serviceGroup.index "services").asVec with
      | none => rfl
      | some services =>
        obtain ⟨tasks, htasks⟩ := h hname services hs
        simp only [unwrap, orPanic_ok, ret_bind, Option.some_bind, htasks, Except.toOption]
        exact forM_startServiceOn_eq manager defaultMemory defaultCpu (mapM_eq_ok.mp htasks)
    · rfl

theorem forM_startServiceGroupOn_eq {name : String} {serviceGroups : List Yaml}
    (h : ∀ serviceGroup ∈ serviceGroups, ServicesRead defaultMemory defaultCpu name serviceGroup) :
    serviceGroups.forM (startServiceGroupOn manager defaultMemory defaultCpu name) =
      (serviceGroups.map (serviceGroupOf defaultMemory defaultCpu)).forM
        (startServiceGroup manager name) := by
  induction serviceGroups with
  | nil => rfl
  | cons serviceGroup serviceGroups ih =>
    simp only [List.map_cons, List.forM_cons',
      startServiceGroupOn_eq manager defaultMemory defaultCpu (h serviceGroup (.head _)),
      ih fun g hg => h g (.tail _ hg)]

/-- The group start on the configuration is the group start on its groups read at once, whenever
the services of the groups the query names read.  Every request, any query and any configuration:
the groups missing or not a list, a group without a name, services missing or not a list, all
panic alike in both. -/
theorem handleStartServiceGroupOn_eq {config : Yaml} {query : Option String}
    (h : ∀ name, queryValue "name=" query = some name → ∀ serviceGroups,
      ((config.index "api").index "service-groups").asVec = some serviceGroups →
        ∀ serviceGroup ∈ serviceGroups, ServicesRead defaultMemory defaultCpu name serviceGroup) :
    handleStartServiceGroupOn manager defaultMemory defaultCpu config query =
      handleStartServiceGroup manager (serviceGroupsOf defaultMemory defaultCpu config) query := by
  unfold handleStartServiceGroupOn handleStartServiceGroup serviceGroupsOf
  cases hq : queryValue "name=" query with
  | none => rfl
  | some name =>
    cases hgroups : ((config.index "api").index "service-groups").asVec with
    | none => rfl
    | some serviceGroups =>
      simp only [unwrap, orPanic_ok, ret_bind, Option.map_some',
        forM_startServiceGroupOn_eq manager defaultMemory defaultCpu (h name hq serviceGroups hgroups)]

end StartGroupOn

/-- The service `dns-a` as the configuration writes it. -/
def dnsAServiceYaml : Yaml :=
  .hash [(.string "name", .string "dns-a"), (.string "image_name", .string "dns:1"),
    (.string "network_type", .string "host")]

/-- The group `dns` of `services`, as the configuration writes it. -/
def dnsGroupYaml (services : List Yaml) : Yaml :=
  .hash [(.string "name", .string "dns"), (.string "services", .array services)]

/-- A configuration whose API has the one group `dnsGroupYaml services`. -/
def dnsGroupConfig (services : List Yaml) : Yaml :=
  .hash [(.string "api", .hash [(.string "service-groups", .array [dnsGroupYaml services])])]

theorem handleStartServiceGroupOn_eq_dns :
    (∀ name, queryValue "name=" (some "name=dns") = some name → ∀ serviceGroups,
      (((dnsGroupConfig [dnsAServiceYaml]).index "api").index "service-groups").asVec =
        some serviceGroups →
        ∀ serviceGroup ∈ serviceGroups, ServicesRead F64.zero F64.zero name serviceGroup) ∧
    handleStartServiceGroupOn torcManager F64.zero F64.zero (dnsGroupConfig [dnsAServiceYaml])
        (some "name=dns") =
      handleStartServiceGroup torcManager (serviceGroupsOf F64.zero F64.zero
        (dnsGroupConfig [dnsAServiceYaml])) (some "name=dns") :=
  have h : ∀ name, queryValue "name=" (some "name=dns") = some name → ∀ serviceGroups,
      (((dnsGroupConfig [dnsAServiceYaml]).index "api").index "service-groups").asVec =
        some serviceGroups →
        ∀ serviceGroup ∈ serviceGroups, ServicesRead F64.zero F64.zero name serviceGroup := by
    rintro name - serviceGroups hgroups serviceGroup hmem - services hservices
    cases hgroups
    cases List.mem_singleton.mp hmem
    cases hservices
    exact ⟨[dnsAService], rfl⟩
  ⟨h, handleStartServiceGroupOn_eq torcManager F64.zero F64.zero h⟩

/-! ### What the API on the configuration can do -/

section Spec

variable (manager : StateManager) (defaultMemory defaultCpu : F64)

theorem spec_startServiceOn (service : Yaml) :
    (startServiceOn manager defaultMemory defaultCpu service).Spec ApiRequest (fun _ => False)
      fun _ => True :=
  (spec_orPanic _).bind fun task _ => spec_startInstances manager task

theorem spec_startServiceGroupOn (name : String) (serviceGroup : Yaml) :
    (startServiceGroupOn manager defaultMemory defaultCpu name serviceGroup).Spec ApiRequest
      (fun _ => False) fun _ => True := by
  refine (spec_orPanic _).bind fun groupName _ => ?_
  split_ifs
  · exact (spec_orPanic _).bind fun services _ =>
      Spec.forM fun service _ => spec_startServiceOn manager defaultMemory defaultCpu service
  · trivial

theorem spec_handleStartServiceGroupOn {Q : Mesos.Call → Prop} (config : Yaml)
    (query : Option String) :
    (handleStartServiceGroupOn manager defaultMemory defaultCpu config query).Spec ApiRequest Q
      fun _ => True := by
  unfold handleStartServiceGroupOn
  refine Spec.bind (R := fun _ => True) ?_ fun _ _ => by exact trivial
  split
  · exact ((spec_orPanic _).bind fun serviceGroups _ => Spec.forM fun g _ =>
      spec_startServiceGroupOn manager defaultMemory defaultCpu _ g).mono (fun _ h => h)
        (fun _ h => h.elim) fun _ h => h
  · trivial

/-- Each route only reads, but a group start, which sends the requests of the API; only
`DELETE /service` calls the master. -/
theorem spec_routeOn (mesosClientSet : Bool) (config : Yaml) (request : Request) :
    (routeOn manager defaultMemory defaultCpu mesosClientSet config request).Spec
      (fun r => r.Reader ∨ IsGroupStart request ∧ ApiRequest r) (ApiCall request) fun _ => True := by
  unfold routeOn
  split
  case h_1 hmethod hpath =>
    exact (spec_handleStartServiceGroupOn manager defaultMemory defaultCpu config _).mono
      (fun _ h => .inr ⟨⟨hmethod, hpath⟩, h⟩) (fun _ h => h) fun _ h => h
  case h_2 => exact spec_route manager mesosClientSet none request

theorem spec_runApiOn (mesosClientSet : Bool) (config : Yaml) (requests : List Request) :
    (runApiOn manager defaultMemory defaultCpu mesosClientSet config requests).Spec ApiRequest
      (fun c => ∃ request ∈ requests, ApiCall request c) fun _ => True :=
  spec_apiLoop (spec_routeOn manager defaultMemory defaultCpu mesosClientSet config) requests

theorem spec_runApiOn_reader (mesosClientSet : Bool) (config : Yaml) {requests : List Request}
    (h : ∀ request ∈ requests, ¬IsGroupStart request) :
    (runApiOn manager defaultMemory defaultCpu mesosClientSet config requests).Spec
      StateRequestMsg.Reader (fun c => ∃ request ∈ requests, ApiCall request c) fun _ => True :=
  spec_apiLoop_reader (spec_routeOn manager defaultMemory defaultCpu mesosClientSet config) h

end Spec

/-! ### The records the API files -/

section Names

variable (manager : StateManager) (defaultMemory defaultCpu : F64)

/-- The records `start_instances` files for the service `task`: instance `cnt`, for a `cnt` below
its number of instances, as `send_start_task` builds it, not a system service. -/
def InstanceOf (task : Config.Task) (filed : Task) : Prop :=
  ∃ cnt < task.numberOfInstances.toNat, ∃ ip now, filed =
    manager.newTask (instanceName task cnt) task false (manager.resolvedArguments task.arguments ip) now

/-- The records filed for the instances of `service`, when `read_task` reads it. -/
def ServiceInstance (service : Yaml) (filed : Task) : Prop :=
  ∃ task, readTask defaultMemory defaultCpu service = .ok task ∧ InstanceOf manager task filed

/-- The records a group start on `config` may file: an instance of a service of a group of
`api.service-groups`. -/
def GroupInstance (config : Yaml) (filed : Task) : Prop :=
  ∃ serviceGroups, ((config.index "api").index "service-groups").asVec = some serviceGroups ∧
    ∃ serviceGroup ∈ serviceGroups, ∃ services, (serviceGroup.index "services").asVec = some services ∧
      ∃ service ∈ services, ServiceInstance manager defaultMemory defaultCpu service filed

theorem files_startInstances (task : Config.Task) :
    (startInstances manager task).Spec (StateRequestMsg.Files (InstanceOf manager task))
      (fun _ => False) fun _ => True :=
  Spec.forM fun cnt hcnt => (spec_sendStartTask manager _ task false).mono
    (fun _ hr => hr.elim StateRequestMsg.Reader.files fun hstart _ ht => by
      obtain ⟨ip, now, rfl⟩ := hstart
      cases ht
      exact ⟨cnt, List.mem_range.mp hcnt, ip, now, rfl⟩)
    (fun _ h => h) fun _ h => h

theorem files_startServiceOn (service : Yaml) :
    (startServiceOn manager defaultMemory defaultCpu service).Spec
      (StateRequestMsg.Files (ServiceInstance manager defaultMemory defaultCpu service))
      (fun _ => False) fun _ => True :=
  (spec_orPanic _).bind fun task htask => (files_startInstances manager task).mono
    (fun _ hr => hr.mono fun _ hn => ⟨task, htask, hn⟩) (fun _ h => h) fun _ h => h

theorem files_startServiceGroupOn (name : String) (serviceGroup : Yaml) :
    (startServiceGroupOn manager defaultMemory defaultCpu name serviceGroup).Spec
      (StateRequestMsg.Files fun filed => ∃ services,
        (serviceGroup.index "services").asVec = some services ∧
          ∃ service ∈ services, ServiceInstance manager defaultMemory defaultCpu service filed)
      (fun _ => False) fun _ => True := by
  refine (spec_orPanic _).bind fun groupName _ => ?_
  split_ifs
  · exact (spec_orPanic _).bind fun services hservices => Spec.forM fun service hmem =>
      (files_startServiceOn manager defaultMemory defaultCpu service).mono
        (fun _ hr => hr.mono fun _ hn => ⟨services, unwrap_eq_ok.mp hservices, service, hmem, hn⟩)
        (fun _ h => h) fun _ h => h
  · trivial

theorem files_handleStartServiceGroupOn {Q : Mesos.Call → Prop} (config : Yaml)
    (query : Option String) :
    (handleStartServiceGroupOn manager defaultMemory defaultCpu config query).Spec
      (StateRequestMsg.Files (GroupInstance manager defaultMemory defaultCpu config)) Q
      fun _ => True := by
  unfold handleStartServiceGroupOn
  refine Spec.bind (R := fun _ => True) ?_ fun _ _ => by exact trivial
  split
  · exact ((spec_orPanic _).bind fun serviceGroups hgroups => Spec.forM fun g hg =>
      (files_startServiceGroupOn manager defaultMemory defaultCpu _ g).mono
        (fun _ hr => hr.mono fun _ ⟨services, hs, hn⟩ =>
          ⟨serviceGroups, unwrap_eq_ok.mp hgroups, g, hg, services, hs, hn⟩)
        (fun _ h => h) fun _ h => h).mono (fun _ h => h) (fun _ h => h.elim) fun _ h => h
  · trivial

theorem files_routeOn (mesosClientSet : Bool) (config : Yaml) (request : Request) :
    (routeOn manager defaultMemory defaultCpu mesosClientSet config request).Spec
      (StateRequestMsg.Files (GroupInstance manager defaultMemory defaultCpu config))
      (ApiCall request) fun _ => True := by
  unfold routeOn
  split
  case h_1 => exact files_handleStartServiceGroupOn manager defaultMemory defaultCpu config _
  case h_2 hnot =>
    exact (spec_route manager mesosClientSet none request).mono
      (fun _ hr => (hr.resolve_right fun h => hnot h.1.1 h.1.2).files) (fun _ h => h) fun _ h => h

/-- The API as `main` starts it files only instances of the services of the configuration's
groups, each the record `send_start_task` builds. -/
theorem files_runApiOn (mesosClientSet : Bool) (config : Yaml) (requests : List Request) :
    (runApiOn manager defaultMemory defaultCpu mesosClientSet config requests).Spec
      (StateRequestMsg.Files (GroupInstance manager defaultMemory defaultCpu config))
      (fun _ => True) fun _ => True :=
  ⟨StateRequestMsg.Reader.files trivial, fun _ => Spec.mapM fun request _ =>
    (files_routeOn manager defaultMemory defaultCpu mesosClientSet config request).mono
      (fun _ h => h) (fun _ _ => trivial) fun _ h => h⟩

end Names

/-! ### The failure path -/

section FailurePath

variable (manager : StateManager) (defaultMemory defaultCpu : F64)

theorem servicesRead_of_readable {name : String} {serviceGroup : Yaml}
    (h : (serviceGroupOf defaultMemory defaultCpu serviceGroup).Readable name) :
    ServicesRead defaultMemory defaultCpu name serviceGroup := by
  intro hname services hs
  have hsome := h.2 hname
  cases hread : services.mapM (readTask defaultMemory defaultCpu) with
  | ok tasks => exact ⟨tasks, rfl⟩
  | error msg =>
    rw [serviceGroupOf, hs, Option.some_bind, hread] at hsome
    cases hsome

variable (env : Env)

theorem run_startServiceGroupOn_readable {name : String} {serviceGroup : Yaml}
    (h : (serviceGroupOf defaultMemory defaultCpu serviceGroup).Readable name) (state : State) :
    run env (startServiceGroupOn manager defaultMemory defaultCpu name serviceGroup) state =
      ⟨.ok (), ((serviceGroupOf defaultMemory defaultCpu serviceGroup).instances name).foldl
        (startInstance manager env) state, []⟩ := by
  rw [startServiceGroupOn_eq manager defaultMemory defaultCpu
    (servicesRead_of_readable defaultMemory defaultCpu h)]
  exact run_startServiceGroup manager env name h state

/-- A group of the asked-for name whose services read up to `service`, which does not: the loop
files the instances of the services before it and panics there. -/
theorem run_startServiceGroupOn_stops {name : String} {serviceGroup : Yaml}
    (hname : (serviceGroup.index "name").asStr = some name) {read rest : List Yaml} {service : Yaml}
    (hservices : (serviceGroup.index "services").asVec = some (read ++ service :: rest))
    {tasks : List Config.Task} (hread : read.mapM (readTask defaultMemory defaultCpu) = .ok tasks)
    {msg : String} (hfail : readTask defaultMemory defaultCpu service = .error msg) (state : State) :
    run env (startServiceGroupOn manager defaultMemory defaultCpu name serviceGroup) state =
      ⟨.error msg, (tasks.flatMap serviceInstances).foldl (startInstance manager env) state, []⟩ := by
  simp only [startServiceGroupOn, hname, hservices, unwrap, orPanic_ok, ret_bind, if_pos,
    List.forM_append, forM_startServiceOn_eq manager defaultMemory defaultCpu (mapM_eq_ok.mp hread)]
  rw [run_bind, run_forM env fun task _ s => run_startInstances manager env task s]
  simp [startServiceOn, hfail, orPanic, List.flatMap, List.foldl_flatten, List.foldl_map]

/-- A group start is not atomic.  Ask for the groups named `name` of a configuration whose groups
before one of that name all read, and whose services in that group read up to a service that
`read_task` does not read: the request panics there, after filing the instances of every group
before it and of every service of the group before the failing one, from any state, and the
groups and services after it are never read. -/
theorem handleStartServiceGroupOn_stops {config : Yaml} {query : Option String} {name : String}
    (hq : queryValue "name=" query = some name) {before after : List Yaml} {serviceGroup : Yaml}
    (hgroups : ((config.index "api").index "service-groups").asVec =
      some (before ++ serviceGroup :: after))
    (hbefore : ∀ g ∈ before, (serviceGroupOf defaultMemory defaultCpu g).Readable name)
    (hname : (serviceGroup.index "name").asStr = some name) {read rest : List Yaml} {service : Yaml}
    (hservices : (serviceGroup.index "services").asVec = some (read ++ service :: rest))
    {tasks : List Config.Task} (hread : read.mapM (readTask defaultMemory defaultCpu) = .ok tasks)
    {msg : String} (hfail : readTask defaultMemory defaultCpu service = .error msg) (state : State) :
    run env (handleStartServiceGroupOn manager defaultMemory defaultCpu config query) state =
      ⟨.error msg, (groupInstances name (before.map (serviceGroupOf defaultMemory defaultCpu)) ++
        tasks.flatMap serviceInstances).foldl (startInstance manager env) state, []⟩ := by
  simp only [handleStartServiceGroupOn, hq, hgroups, unwrap, orPanic_ok, ret_bind]
  rw [run_bind, run_forM_append_cons env
    (fun g hg s => run_startServiceGroupOn_readable manager defaultMemory defaultCpu env (hbefore g hg) s)
    (run_startServiceGroupOn_stops manager defaultMemory defaultCpu env hname hservices hread hfail)]
  simp [groupInstances, List.flatMap, List.foldl_flatten, List.foldl_map]

end FailurePath

theorem handleStartServiceGroupOn_stops_dns :
    queryValue "name=" (some "name=dns") = some "dns" ∧
    (((dnsGroupConfig [dnsAServiceYaml, integerMemoryService]).index "api").index
      "service-groups").asVec = some ([] ++ dnsGroupYaml [dnsAServiceYaml, integerMemoryService] :: []) ∧
    (∀ g ∈ ([] : List Yaml), (serviceGroupOf F64.zero F64.zero g).Readable "dns") ∧
    ((dnsGroupYaml [dnsAServiceYaml, integerMemoryService]).index "name").asStr = some "dns" ∧
    ((dnsGroupYaml [dnsAServiceYaml, integerMemoryService]).index "services").asVec =
      some ([dnsAServiceYaml] ++ integerMemoryService :: []) ∧
    [dnsAServiceYaml].mapM (readTask F64.zero F64.zero) = .ok [dnsAService] ∧
    readTask F64.zero F64.zero integerMemoryService = .error unwrapNone ∧
    run ⟨fun _ => true, 0⟩ (handleStartServiceGroupOn torcManager F64.zero F64.zero
        (dnsGroupConfig [dnsAServiceYaml, integerMemoryService]) (some "name=dns")) (State.new "") =
      ⟨.error unwrapNone, (groupInstances "dns" (([] : List Yaml).map (serviceGroupOf F64.zero F64.zero)) ++
        [dnsAService].flatMap serviceInstances).foldl (startInstance torcManager ⟨fun _ => true, 0⟩)
          (State.new ""), []⟩ :=
  have hq : queryValue "name=" (some "name=dns") = some "dns" := by decide
  have hbefore : ∀ g ∈ ([] : List Yaml), (serviceGroupOf F64.zero F64.zero g).Readable "dns" := nofun
  have hservices : ((dnsGroupYaml [dnsAServiceYaml, integerMemoryService]).index "services").asVec =
      some ([dnsAServiceYaml] ++ integerMemoryService :: []) := rfl
  ⟨hq, rfl, hbefore, rfl, hservices, rfl, rfl, handleStartServiceGroupOn_stops torcManager F64.zero
    F64.zero ⟨fun _ => true, 0⟩ hq (by rfl) hbefore (by rfl) hservices (by rfl) (by rfl) (State.new "")⟩

end Api

end Torc
