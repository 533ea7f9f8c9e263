import Torc.Main

/-! The services in the task table, all of them configured.  The supervisor files a system service
as the record `send_start_task` builds from a configured service, or from its copy for a node,
`<service>-<node>`, for each node its SLA expands over; it reads the nodes from the actor once,
when it expands the services, so which copies it files depends on how far the scheduler thread has
got.  The node names do not: the node table holds the configured names for ever.  `FilesUnder` is
the supervisor's guarantee, relying on every node list it gets naming configured nodes, and
`Framework.ServicesInv` discharges that rely at every step of every interleaving.  Every other task
is filed by the API's group start, as an instance of a service of a configured group
(`Framework.InstancesInv`).  The table's updates write the state, the node name, the id, the ip and
the slave id of an entry, so an entry is the record filed up to those (`Task.withoutUpdates`). -/

namespace Torc

open Prog Config TorcScheduler

/-- A request that files a system service only as a record of `S`. -/
def StateRequestMsg.FilesSystem (S : Task → Prop) (r : StateRequestMsg) : Prop :=
  ∀ task, r = .startTask task → task.isSystemService = true → S task

/-- A reply whose node list, if it is one, names only nodes of `N`. -/
def NodesWithin (N : String → Prop) (reply : StateResponseMsg) : Prop :=
  ∀ nodes, reply = .getNodes nodes → ∀ node ∈ nodes, N node.name

/-- A thread that files system services only as records of `S` and returns a value of `Q`, as long
as every node list the actor gives it names only nodes of `N`. -/
def FilesUnder {α : Type} (N : String → Prop) (S : Task → Prop) (Q : α → Prop) : Prog α → Prop
  | .ret a => Q a
  | .request r k => r.FilesSystem S ∧ ∀ reply, NodesWithin N reply → FilesUnder N S Q (k reply)
  | .call _ k => ∀ ok, FilesUnder N S Q (k ok)
  | .now k => ∀ t, FilesUnder N S Q (k t)
  | .panic _ => True

section FilesUnder

variable {α β : Type} {N : String → Prop} {S : Task → Prop}

theorem FilesUnder.bind {Q : α → Prop} {R : β → Prop} {p : Prog α} (hp : FilesUnder N S Q p)
    {f : α → Prog β} (hf : ∀ a, Q a → FilesUnder N S R (f a)) : FilesUnder N S R (p >>= f) := by
  induction p with
  | ret a => exact hf a hp
  | request r k ih => exact ⟨hp.1, fun reply h => ih reply (hp.2 reply h)⟩
  | call c k ih => exact fun ok => ih ok (hp ok)
  | now k ih => exact fun t => ih t (hp t)
  | panic msg => trivial

/-- A thread whose requests all file under `S` does so whatever the replies. -/
theorem filesUnder_of_spec {P : StateRequestMsg → Prop} {Q : Mesos.Call → Prop} {R : α → Prop}
    {p : Prog α} (hp : p.Spec P Q R) (hP : ∀ r, P r → r.FilesSystem S) : FilesUnder N S R p := by
  induction p with
  | ret a => exact hp
  | request r k ih => exact ⟨hP r hp.1, fun reply _ => ih reply (hp.2 reply)⟩
  | call c k ih => exact fun ok => ih ok (hp.2 ok)
  | now k ih => exact fun t => ih t (hp t)
  | panic msg => trivial

/-- A read files nothing. -/
theorem filesUnder_orPanic (x : Except String α) : FilesUnder N S (fun a => x = .ok a) (orPanic x) := by
  cases x with
  | ok a => rfl
  | error msg => trivial

theorem StateRequestMsg.Reader.filesSystem {r : StateRequestMsg} (hr : r.Reader) : r.FilesSystem S := by
  rintro task rfl
  exact hr.elim

/-- The reply to a request whose node list, if it is one, is the node table's. -/
theorem nodesWithin_respond {state : State} {r : StateRequestMsg} {reply : StateResponseMsg}
    (hnodes : EntriesSatisfy state.nodeList fun _ node => N node.name)
    (h : state.respond r = .ok reply) : NodesWithin N reply := by
  rintro nodes rfl node hnode
  have hlist : nodes = state.nodeList.getNodes := by
    cases r <;> simp only [State.respond, Except.ok.injEq, reduceCtorEq] at h
    case getNode => split at h <;> cases h
    case getNodes => exact (StateResponseMsg.getNodes.inj h).symm
  obtain ⟨k, hk⟩ := mem_values.mp (hlist ▸ hnode)
  exact hnodes k node hk

/-- A step of a thread that files under `S` while the node table names nodes of `N`: it keeps doing
so, and changes the tables, if at all, by a request that files under `S`. -/
theorem filesUnder_threadStep {Q : α → Prop} {p p' : Prog α} {state state' : State}
    (h : FilesUnder N S Q p) (hnodes : EntriesSatisfy state.nodeList fun _ node => N node.name)
    (hs : ThreadStep (p, state) (p', state')) :
    FilesUnder N S Q p' ∧ (state' = state ∨ ∃ r, r.FilesSystem S ∧ state' = state.handle r) := by
  cases hs with
  | request hs =>
    obtain ⟨hreply, rfl⟩ := serve_eq_ok.mp hs
    exact ⟨h.2 _ (nodesWithin_respond hnodes hreply), .inr ⟨_, h.1, rfl⟩⟩
  | call ok => exact ⟨h ok, .inl rfl⟩
  | now t => exact ⟨h t, .inl rfl⟩

end FilesUnder

/-! ### The supervisor's records -/

/-- The copies `run_health_checker` makes of `task` over nodes of `N`: the task itself under SLA
None, and otherwise `copy_for_node` of a node of `N`. -/
def Copy (N : String → Prop) (task copy : Config.Task) : Prop :=
  task.sla = .none ∧ copy = task ∨
    task.sla ≠ .none ∧ ∃ node : Node, N node.name ∧ copy = StateManager.copyForNode task node

namespace StateManager

section Supervisor

variable (manager : StateManager) (defaultMemory defaultCpu : F64) {N : String → Prop}
  {S : Task → Prop}

theorem copy_copyForNode {task : Config.Task} (hsla : task.sla ≠ .none) {nodes : List Node}
    (hnodes : ∀ node ∈ nodes, N node.name) : ∀ c ∈ nodes.map (copyForNode task), Copy N task c := by
  intro c hc
  obtain ⟨node, hnode, rfl⟩ := List.mem_map.mp hc
  exact .inr ⟨hsla, node, hnodes node hnode, rfl⟩

/-- The expansion of a service makes its copies by `Copy`, relying on the node list it reads. -/
theorem filesUnder_expandTask (task : Config.Task) :
    FilesUnder N S (fun copies => ∀ c ∈ copies, Copy N task c) (expandTask task) := by
  have hlist : ∀ sel : List Node → List Node, (∀ nodes, ∀ node ∈ sel nodes, node ∈ nodes) →
      task.sla ≠ .none → FilesUnder N S (fun copies => ∀ c ∈ copies, Copy N task c)
        (requestListNodes >>= fun nodes => ret ((sel nodes).map (copyForNode task))) :=
    fun sel hsel hsla => ⟨fun _ => nofun, fun reply hreply => by
      cases reply
      case getNodes nodes =>
        exact copy_copyForNode hsla fun node hnode => hreply nodes rfl node (hsel _ _ hnode)
      all_goals exact copy_copyForNode hsla fun node hnode => absurd (hsel _ _ hnode) nofun⟩
  unfold expandTask
  split
  next hsla =>
    intro c hc
    cases List.mem_singleton.mp hc
    exact .inl ⟨hsla, rfl⟩
  next hsla => exact hlist id (fun _ _ h => h) (by rw [hsla]; nofun)
  next hsla => exact hlist _ (fun _ _ h => (List.mem_filter.mp h).1) (by rw [hsla]; nofun)

/-- The copies over nodes of `N` of the services of `services` that `read_task` reads. -/
def ReadCopy (N : String → Prop) (services : List Yaml) (copy : Config.Task) : Prop :=
  ∃ entry ∈ services, ∃ service, readTask defaultMemory defaultCpu entry = .ok service ∧
    Copy N service copy

theorem filesUnder_expandServices (services : List Yaml) :
    FilesUnder N S (fun copies => ∀ c ∈ copies, ReadCopy defaultMemory defaultCpu N services c)
      (expandServices defaultMemory defaultCpu services) := by
  induction services with
  | nil => nofun
  | cons entry services ih =>
    refine (filesUnder_orPanic _).bind fun service hread =>
      (filesUnder_expandTask service).bind fun copies hcopies => ih.bind fun rest hrest c hc => ?_
    rcases List.mem_append.mp hc with hc | hc
    · exact ⟨entry, .head _, service, hread, hcopies c hc⟩
    · obtain ⟨entry', hentry', hcopy⟩ := hrest c hc
      exact ⟨entry', .tail _ hentry', hcopy⟩

/-- The records `send_start_task` files for the task `task` of the supervisor's list. -/
def Started (task : Config.Task) (filed : Task) : Prop :=
  ∃ ip now, filed =
    manager.newTask task.name task true (manager.resolvedArguments task.arguments ip) now

/-- A tick files each task of the list as `send_start_task` builds it. -/
theorem filesUnder_checkHealth {task : Config.Task} (hS : ∀ filed, manager.Started task filed → S filed) :
    FilesUnder N S (fun _ => True) (manager.checkHealth task) := by
  have hstate : (requestTaskState task.name).Spec StateRequestMsg.Reader (fun _ => False)
      fun _ => True := ⟨trivial, fun reply => by cases reply <;> trivial⟩
  refine (filesUnder_of_spec hstate fun _ hr => hr.filesSystem).bind fun taskState _ => ?_
  split
  · refine filesUnder_of_spec (spec_sendStartTask manager task.name task true) ?_
    rintro r (hr | ⟨ip, now, rfl⟩)
    · exact hr.filesSystem
    · rintro _ h -
      cases h
      exact hS _ ⟨ip, now, rfl⟩
  · trivial

theorem filesUnder_healthLoop {tasks : List Config.Task}
    (hS : ∀ task ∈ tasks, ∀ filed, manager.Started task filed → S filed) (ticks : Nat) :
    FilesUnder N S (fun _ => True) (manager.healthLoop tasks ticks) := by
  have htick : ∀ tasks : List Config.Task, (∀ task ∈ tasks, ∀ filed, manager.Started task filed → S filed) →
      FilesUnder N S (fun _ => True) (manager.healthTick tasks) := by
    intro tasks hS
    induction tasks with
    | nil => trivial
    | cons task tasks ih =>
      rw [healthTick, List.forM_cons']
      exact (filesUnder_checkHealth manager (hS task (.head _))).bind fun _ _ =>
        ih fun t ht => hS t (.tail _ ht)
  induction ticks with
  | zero => trivial
  | succ ticks ih => exact (htick tasks hS).bind fun _ _ => ih

end Supervisor

end StateManager

/-- The records the supervisor of `main` may file under `config` while the node table names the
nodes of `N`: the record `send_start_task` builds from a copy of a service of
`healthcheck.system_services` that `read_task` reads. -/
def SystemService (manager : StateManager) (defaultMemory defaultCpu : F64) (config : Yaml)
    (N : String → Prop) (filed : Task) : Prop :=
  ∃ entries, ((config.index "healthcheck").index "system_services").asVec = some entries ∧
    ∃ copy, StateManager.ReadCopy defaultMemory defaultCpu N entries copy ∧ manager.Started copy filed

theorem filesUnder_runHealthCheckerOn (manager : StateManager) (defaultMemory defaultCpu : F64)
    (config : Yaml) (N : String → Prop) (ticks : Nat) :
    FilesUnder N (SystemService manager defaultMemory defaultCpu config N) (fun _ => True)
      (manager.runHealthCheckerOn defaultMemory defaultCpu config ticks) := by
  have hping : StateManager.sendPing.Spec StateRequestMsg.Reader (fun _ => False) fun _ => True :=
    ⟨trivial, fun _ => trivial⟩
  refine (filesUnder_of_spec hping fun _ hr => hr.filesSystem).bind fun _ _ =>
    (filesUnder_orPanic _).bind fun _ _ =>
    (filesUnder_orPanic _).bind fun entries hentries =>
      (StateManager.filesUnder_expandServices defaultMemory defaultCpu entries).bind
        fun tasks htasks => StateManager.filesUnder_healthLoop manager
          (fun task htask filed hfiled => ⟨entries, unwrap_eq_ok.mp hentries, task, htasks task htask,
            hfiled⟩) ticks

/-! ### The framework -/

/-- A step of the scheduler thread: it runs on, and changes the tables, if at all, by a request
that files no task. -/
theorem scheduled_threadStep {α : Type} {m : Option (List Task)} {p p' : Prog α}
    {state state' : State} (h : Scheduled m p) (hs : ThreadStep (p, state) (p', state')) :
    (∃ m', Scheduled m' p') ∧ (state' = state ∨ ∃ r, NoStart r ∧ state' = state.handle r) := by
  cases hs with
  | request hs =>
    obtain ⟨hreply, rfl⟩ := serve_eq_ok.mp hs
    rcases h with ⟨rfl, hk⟩ | ⟨hr, hk⟩ | ⟨snapshot, -, hr, hk⟩ | ⟨hr, hk⟩
    · cases hreply
      exact ⟨⟨_, hk _⟩, .inr ⟨.getRequestedTasks, ⟨trivial, fun _ => nofun⟩, rfl⟩⟩
    · exact ⟨⟨m, hk _⟩, .inr ⟨_, hr.noStart, rfl⟩⟩
    · exact ⟨⟨m, hk _⟩, .inr ⟨_, noStart_of_offersRequest hr, rfl⟩⟩
    · exact ⟨⟨none, hk _⟩, .inr ⟨_, noStart_of_updateRequest hr, rfl⟩⟩
  | call ok => exact ⟨⟨m, h ok⟩, .inl rfl⟩
  | now t => exact ⟨⟨m, h t⟩, .inl rfl⟩

/-- A task entry that, marked a system service, is a record of `S` up to the table's updates. -/
def SystemFiled (S : Task → Prop) (_ : String) (task : Task) : Prop :=
  task.isSystemService = true → ∃ filed, S filed ∧ filed.withoutUpdates = task.withoutUpdates

/-- A request keeps every entry of the task table of `Q` up to the table's updates, when the task
it files, if any, is of `Q`: the other writes change an entry only in what `withoutUpdates`
clears. -/
theorem entriesSatisfy_handle_withoutUpdates {Q : Task → Prop} {state : State}
    (h : EntriesSatisfy state.taskList fun _ task => Q task.withoutUpdates)
    {r : StateRequestMsg} (hr : ∀ task, r = .startTask task → Q task.withoutUpdates) :
    EntriesSatisfy (state.handle r).taskList fun _ task => Q task.withoutUpdates := by
  cases r with
  | updateTaskState taskName taskState =>
    simpa [State.handle] using h.modifyEntry (fun _ _ hv => by exact hv) taskName
  | updateTaskNodeName taskName _ => exact h.modifyEntry (fun _ _ hv => by exact hv) taskName
  | updateTaskInfo taskName _ _ _ => exact h.modifyEntry (fun _ _ hv => by exact hv) taskName
  | startTask task => exact h.insert (hr task rfl)
  | removeTask taskName => exact h.erase taskName
  | _ => exact h

/-- A step of a thread whose requests satisfy `F`, each filing only tasks of `Q`, keeps every entry
of the task table of `Q` up to the table's updates. -/
theorem entriesSatisfy_change_withoutUpdates {Q : Task → Prop} {F : StateRequestMsg → Prop}
    {state state' : State} (h : EntriesSatisfy state.taskList fun _ task => Q task.withoutUpdates)
    (hF : ∀ r, F r → ∀ task, r = .startTask task → Q task.withoutUpdates)
    (hchange : state' = state ∨ ∃ r, F r ∧ state' = state.handle r) :
    EntriesSatisfy state'.taskList fun _ task => Q task.withoutUpdates := by
  rcases hchange with rfl | ⟨r, hr, rfl⟩
  · exact h
  · exact entriesSatisfy_handle_withoutUpdates h (hF r hr)

theorem systemFiled_step {S : Task → Prop} {state state' : State}
    (h : EntriesSatisfy state.taskList (SystemFiled S))
    (hchange : state' = state ∨ ∃ r, r.FilesSystem S ∧ state' = state.handle r) :
    EntriesSatisfy state'.taskList (SystemFiled S) :=
  entriesSatisfy_change_withoutUpdates
    (Q := fun t => t.isSystemService = true → ∃ filed, S filed ∧ filed.withoutUpdates = t.withoutUpdates)
    h (fun _ hr task ht hsys => ⟨task, hr task ht hsys, rfl⟩) hchange

theorem NoStart.filesSystem {S : Task → Prop} {r : StateRequestMsg} (hr : NoStart r) :
    r.FilesSystem S :=
  fun task h => absurd h (hr.2 task)

/-- Activation keeps the names of the nodes. -/
theorem NodeRefines.nodeNames {N : String → Prop} {acts : List Activation} {state state' : State}
    (h : NodeRefines acts state state')
    (hnodes : EntriesSatisfy state.nodeList fun _ node => N node.name) :
    EntriesSatisfy state'.nodeList fun _ node => N node.name := by
  intro k node hk
  have hmap := (h k).map_configured
  rw [hk] at hmap
  obtain ⟨node₀, h₀, hconfigured⟩ := Option.map_eq_some'.mp hmap.symm
  have hname : node₀.name = node.name := congrArg Prod.fst hconfigured
  exact hname ▸ hnodes k node₀ h₀

/-- What holds at every configuration `main` reaches: the node table names nodes of `N` and keeps
its life, every system service of the task table is a record of `S` up to the table's updates, the
scheduler thread files no task, the supervisor files records of `S` relying on `N`, and the sync
loop and the API file no system service. -/
structure Framework.ServicesInv (N : String → Prop) (S : Task → Prop) (cfg : Framework) : Prop where
  nodeInv : ∃ acts, cfg.NodeInv acts
  nodes : EntriesSatisfy cfg.state.nodeList fun _ node => N node.name
  tasks : EntriesSatisfy cfg.state.taskList (SystemFiled S)
  scheduler : ∃ m, Scheduled m cfg.scheduler
  health : FilesUnder N S (fun _ => True) cfg.health
  sync : cfg.sync.Spec (StateRequestMsg.FilesSystem S) (fun _ => False) fun _ => True
  api : cfg.api.Spec (StateRequestMsg.FilesSystem S) (fun _ => True) fun _ => True

theorem Framework.ServicesInv.step {N : String → Prop} {S : Task → Prop} {cfg cfg' : Framework}
    (h : cfg.ServicesInv N S) (hstep : Framework.Step cfg cfg') : cfg'.ServicesInv N S := by
  obtain ⟨scheduler, health, sync, api, state⟩ := cfg
  obtain ⟨⟨acts, hnodeInv⟩, hnodes, htasks, ⟨m, hsched⟩, hhealth, hsync, hapi⟩ := h
  obtain ⟨hnodeInv', href⟩ := hnodeInv.step hstep
  have hnodes' := href.nodeNames hnodes
  cases hstep with
  | scheduler hs =>
    obtain ⟨hsched', hchange⟩ := scheduled_threadStep hsched hs
    exact ⟨⟨acts, hnodeInv'⟩, hnodes', systemFiled_step htasks
      (hchange.imp_right fun ⟨r, hr, he⟩ => ⟨r, hr.filesSystem, he⟩), hsched', hhealth, hsync, hapi⟩
  | health hs =>
    obtain ⟨hhealth', hchange⟩ := filesUnder_threadStep hhealth hnodes hs
    exact ⟨⟨acts, hnodeInv'⟩, hnodes', systemFiled_step htasks hchange, ⟨m, hsched⟩, hhealth', hsync, hapi⟩
  | sync hs =>
    obtain ⟨hsync', hchange⟩ := hsync.threadStep hs
    exact ⟨⟨acts, hnodeInv'⟩, hnodes', systemFiled_step htasks hchange, ⟨m, hsched⟩, hhealth, hsync', hapi⟩
  | api hs =>
    obtain ⟨hapi', hchange⟩ := hapi.threadStep hs
    exact ⟨⟨acts, hnodeInv'⟩, hnodes', systemFiled_step htasks hchange, ⟨m, hsched⟩, hhealth, hsync, hapi'⟩

section Main

variable (env : Env) (masterIp : String) (controllerIp : Option String) (config : Yaml) (uuid : String)
  (defaultMemory defaultCpu : F64) (decode : List UInt8 → Except String Json)
  (events : List Event) (ticks turns : Nat) (mesosClientSet : Bool) (apiRequests : List Api.Request)

theorem mem_of_lastNamed_eq_some {nodes : List Node} {n : String} {node : Node}
    (h : lastNamed Node.name id nodes n = some node) : node ∈ nodes := by
  obtain ⟨node', hfind, rfl⟩ := Option.map_eq_some'.mp h
  exact List.mem_reverse.mp (List.mem_of_find?_eq_some hfind)

theorem Framework.ServicesInv.main {nodes : List Node} (hnodes : configuredNodes config = .ok nodes) :
    (Framework.main env masterIp controllerIp config uuid defaultMemory defaultCpu decode events ticks
      turns mesosClientSet apiRequests).ServicesInv (fun n => ∃ node ∈ nodes, node.name = n)
      (SystemService (StateManager.new masterIp (controllerIpOf masterIp controllerIp) config uuid)
        defaultMemory defaultCpu config fun n => ∃ node ∈ nodes, node.name = n) := by
  refine ⟨⟨_, Framework.NodeInv.main env masterIp controllerIp config uuid defaultMemory defaultCpu
    decode events ticks turns mesosClientSet apiRequests⟩, ?_, ?_, ⟨none, scheduled_runScheduler
    decode events⟩, filesUnder_runHealthCheckerOn _ defaultMemory defaultCpu config _ ticks,
    (spec_syncLoop turns).mono (fun _ hr => hr.filesSystem) (fun _ h => h) fun _ h => h,
    (Api.spec_runApiOn _ defaultMemory defaultCpu mesosClientSet config apiRequests).mono (fun r hr => ?_)
      (fun _ _ => trivial) fun _ h => h⟩
  · intro k node hk
    simp only [Framework.main, run_construct_state env hnodes, lookup_foldl_addNewNode] at hk
    exact ⟨node, mem_of_lastNamed_eq_some (by simpa [State.new] using hk), rfl⟩
  · rw [Framework.main, run_construct_state env hnodes]
    exact entriesSatisfy_empty _
  · rcases hr with hr | ⟨task, rfl, -, hsys⟩
    · exact hr.filesSystem
    · intro t ht hsys'
      cases ht
      rw [hsys] at hsys'
      cases hsys'

/-- The system services in the task table are the configured ones.  Start the program as `main`
does on a configuration whose node list reads, with the scheduler thread on any events, the
supervisor for any number of ticks, the sync loop, and the admin API on any requests; in every
interleaving, at every configuration a run reaches, every task entry marked a system service is,
up to the fields the table's updates write, the record `send_start_task` builds from a copy of a
service of `healthcheck.system_services` that `read_task` reads: the service itself when its SLA
is None, and otherwise its copy for a configured node, `<service>-<node>`. -/
theorem main_system_services_configured {nodes : List Node}
    (hnodes : configuredNodes config = .ok nodes) {cfg : Framework}
    (hrun : Relation.ReflTransGen Framework.Step (Framework.main env masterIp controllerIp config uuid
      defaultMemory defaultCpu decode events ticks turns mesosClientSet apiRequests) cfg)
    {n : String} {task : Task} (hlookup : cfg.state.taskList.lookup n = some task)
    (hsystem : task.isSystemService = true) :
    ∃ entries, ((config.index "healthcheck").index "system_services").asVec = some entries ∧
      ∃ entry ∈ entries, ∃ service, readTask defaultMemory defaultCpu entry = .ok service ∧
        ∃ copy, (service.sla = .none ∧ copy = service ∨
          service.sla ≠ .none ∧ ∃ node : Node, (∃ node' ∈ nodes, node'.name = node.name) ∧
            copy = StateManager.copyForNode service node) ∧
        ∃ ip now, task.withoutUpdates =
          ((StateManager.new masterIp (controllerIpOf masterIp controllerIp) config uuid).newTask
            copy.name copy true ((StateManager.new masterIp (controllerIpOf masterIp controllerIp)
              config uuid).resolvedArguments copy.arguments ip) now).withoutUpdates := by
  obtain ⟨filed, ⟨entries, hentries, copy, ⟨entry, hentry, service, hread, hcopy⟩, ip, now, rfl⟩,
      hfiled⟩ := (Framework.Step.invariant (fun h hs => Framework.ServicesInv.step h hs)
    (Framework.ServicesInv.main env masterIp controllerIp config uuid defaultMemory defaultCpu decode
      events ticks turns mesosClientSet apiRequests hnodes) hrun).tasks n task hlookup hsystem
  exact ⟨entries, hentries, entry, hentry, service, hread, copy, hcopy, ip, now, hfiled.symm⟩

end Main

/-- The supervisor files `dns-a` and the scheduler thread accepts it for the offer that activates
`n1`: the entry is `Accepted`, and otherwise the record the supervisor filed. -/
theorem main_system_services_configured_accepted :
    configuredNodes dnsAConfig = .ok [n1Node] ∧
    ∃ cfg task, dnsAOfferMain.interleave ⟨fun _ => true, 0⟩
        (List.replicate 4 Thread.health ++ List.replicate 5 Thread.scheduler) = some cfg ∧
      cfg.state.taskList.lookup "dns-a" = some task ∧ task.state = .accepted ∧
      task.isSystemService = true ∧ Relation.ReflTransGen Framework.Step dnsAOfferMain cfg ∧
      ∃ entries, ((dnsAConfig.index "healthcheck").index "system_services").asVec = some entries ∧
        ∃ entry ∈ entries, ∃ service, readTask F64.zero F64.zero entry = .ok service ∧
          ∃ copy, (service.sla = .none ∧ copy = service ∨
            service.sla ≠ .none ∧ ∃ node : Node, (∃ node' ∈ [n1Node], node'.name = node.name) ∧
              copy = StateManager.copyForNode service node) ∧
          ∃ ip now, task.withoutUpdates =
            ((StateManager.new "10.0.0.1" (controllerIpOf "10.0.0.1" none) dnsAConfig "u").newTask
              copy.name copy true ((StateManager.new "10.0.0.1" (controllerIpOf "10.0.0.1" none)
                dnsAConfig "u").resolvedArguments copy.arguments ip) now).withoutUpdates := by
  obtain ⟨cfg, task, hcfg, hlookup, haccepted, hsystem⟩ : ∃ cfg task, dnsAOfferMain.interleave
      ⟨fun _ => true, 0⟩ (List.replicate 4 Thread.health ++ List.replicate 5 Thread.scheduler) =
        some cfg ∧
      cfg.state.taskList.lookup "dns-a" = some task ∧ task.state = .accepted ∧
      task.isSystemService = true :=
    ⟨_, _, rfl, rfl, rfl, rfl⟩
  have hrun := Framework.reflTransGen_of_interleave hcfg
  exact ⟨rfl, cfg, task, hcfg, hlookup, haccepted, hsystem, hrun, main_system_services_configured
    ⟨fun _ => true, 0⟩ "10.0.0.1" none dnsAConfig "u" F64.zero F64.zero (fun _ => .error "") _ 1 0
    false [] rfl hrun hlookup hsystem⟩

/-! ### The tasks the API files -/

/-- A request that files a task that is not a system service only as a record of `G`. -/
def StateRequestMsg.FilesOther (G : Task → Prop) (r : StateRequestMsg) : Prop :=
  ∀ task, r = .startTask task → task.isSystemService = false → G task

/-- A request that files only system services. -/
def StateRequestMsg.FilesOnlySystem (r : StateRequestMsg) : Prop :=
  ∀ task, r = .startTask task → task.isSystemService = true

/-- A task entry that, not a system service, is a record of `G` up to the table's updates. -/
def OtherFiled (G : Task → Prop) (_ : String) (task : Task) : Prop :=
  task.isSystemService = false → ∃ filed, G filed ∧ filed.withoutUpdates = task.withoutUpdates

section Other

variable {G : Task → Prop} {r : StateRequestMsg}

theorem StateRequestMsg.Reader.filesOnlySystem (hr : r.Reader) : r.FilesOnlySystem := by
  rintro task rfl
  exact hr.elim

theorem StateRequestMsg.FilesOnlySystem.filesOther (hr : r.FilesOnlySystem) : r.FilesOther G :=
  fun task h hother => by cases (hr task h).symm.trans hother

theorem StateRequestMsg.Files.filesOther (hr : r.Files G) : r.FilesOther G :=
  fun task h _ => hr task h

theorem NoStart.filesOther (hr : NoStart r) : r.FilesOther G :=
  fun task h => absurd h (hr.2 task)

theorem otherFiled_step {F : StateRequestMsg → Prop} {state state' : State}
    (h : EntriesSatisfy state.taskList (OtherFiled G)) (hF : ∀ r, F r → r.FilesOther G)
    (hchange : state' = state ∨ ∃ r, F r ∧ state' = state.handle r) :
    EntriesSatisfy state'.taskList (OtherFiled G) :=
  entriesSatisfy_change_withoutUpdates
    (Q := fun t => t.isSystemService = false → ∃ filed, G filed ∧ filed.withoutUpdates = t.withoutUpdates)
    h (fun r hr task ht hother => ⟨task, hF r hr task ht hother, rfl⟩) hchange

end Other

/-- The supervisor files only system services. -/
theorem spec_healthLoop_filesOnlySystem (manager : StateManager) (tasks : List Config.Task)
    (ticks : Nat) :
    (manager.healthLoop tasks ticks).Spec StateRequestMsg.FilesOnlySystem (fun _ => False)
      fun _ => True := by
  have hcheck : ∀ task : Config.Task, (manager.checkHealth task).Spec
      StateRequestMsg.FilesOnlySystem (fun _ => False) fun _ => True := fun task => by
    refine Spec.bind (R := fun _ => True) ⟨StateRequestMsg.Reader.filesOnlySystem trivial,
      fun reply => by cases reply <;> trivial⟩ fun _ _ => ?_
    split
    · exact (spec_sendStartTask manager task.name task true).mono
        (fun _ hr => hr.elim StateRequestMsg.Reader.filesOnlySystem fun ⟨_, _, h⟩ _ ht => by
          subst h
          cases ht
          rfl)
        (fun _ h => h) fun _ h => h
    · trivial
  induction ticks with
  | zero => trivial
  | succ ticks ih => exact (Spec.forM fun task _ => hcheck task).bind fun _ _ => ih

theorem spec_runHealthCheckerOn_filesOnlySystem (manager : StateManager)
    (defaultMemory defaultCpu : F64) (config : Yaml) (ticks : Nat) :
    (manager.runHealthCheckerOn defaultMemory defaultCpu config ticks).Spec
      StateRequestMsg.FilesOnlySystem (fun _ => False) fun _ => True :=
  have hping : StateManager.sendPing.Spec StateRequestMsg.FilesOnlySystem (fun _ => False)
      fun _ => True := ⟨StateRequestMsg.Reader.filesOnlySystem trivial, fun _ => trivial⟩
  hping.bind fun _ _ => (spec_orPanic _).bind fun _ _ => (spec_orPanic _).bind fun _ _ =>
    ((spec_expandServices defaultMemory defaultCpu _).mono (fun _ hr => hr.1.filesOnlySystem)
      (fun _ h => h) fun _ h => h).bind fun tasks _ =>
        spec_healthLoop_filesOnlySystem manager tasks ticks

/-- What holds at every configuration `main` reaches for the tasks that are not system services:
each is a record of `G` up to the table's updates; the scheduler thread files no task, the
supervisor only system services, the sync loop only reads, and the API files only records of
`G`. -/
structure Framework.InstancesInv (G : Task → Prop) (cfg : Framework) : Prop where
  tasks : EntriesSatisfy cfg.state.taskList (OtherFiled G)
  scheduler : ∃ m, Scheduled m cfg.scheduler
  health : cfg.health.Spec StateRequestMsg.FilesOnlySystem (fun _ => False) fun _ => True
  sync : cfg.sync.Spec StateRequestMsg.Reader (fun _ => False) fun _ => True
  api : cfg.api.Spec (StateRequestMsg.Files G) (fun _ => True) fun _ => True

theorem Framework.InstancesInv.step {G : Task → Prop} {cfg cfg' : Framework}
    (h : cfg.InstancesInv G) (hstep : Framework.Step cfg cfg') : cfg'.InstancesInv G := by
  obtain ⟨scheduler, health, sync, api, state⟩ := cfg
  obtain ⟨htasks, ⟨m, hsched⟩, hhealth, hsync, hapi⟩ := h
  cases hstep with
  | scheduler hs =>
    obtain ⟨hsched', hchange⟩ := scheduled_threadStep hsched hs
    exact ⟨otherFiled_step htasks (fun _ hr => hr.filesOther) hchange, hsched', hhealth, hsync, hapi⟩
  | health hs =>
    obtain ⟨hhealth', hchange⟩ := hhealth.threadStep hs
    exact ⟨otherFiled_step htasks (fun _ hr => hr.filesOther) hchange, ⟨m, hsched⟩, hhealth', hsync,
      hapi⟩
  | sync hs =>
    obtain ⟨hsync', hchange⟩ := hsync.threadStep hs
    exact ⟨otherFiled_step htasks (fun _ hr => hr.noStart.filesOther) hchange, ⟨m, hsched⟩, hhealth,
      hsync', hapi⟩
  | api hs =>
    obtain ⟨hapi', hchange⟩ := hapi.threadStep hs
    exact ⟨otherFiled_step htasks (fun _ hr => hr.filesOther) hchange, ⟨m, hsched⟩, hhealth, hsync,
      hapi'⟩

section MainGroups

variable (env : Env) (masterIp : String) (controllerIp : Option String) (config : Yaml) (uuid : String)
  (defaultMemory defaultCpu : F64) (decode : List UInt8 → Except String Json)
  (events : List Event) (ticks turns : Nat) (mesosClientSet : Bool) (apiRequests : List Api.Request)

theorem Framework.InstancesInv.main {nodes : List Node} (hnodes : configuredNodes config = .ok nodes) :
    (Framework.main env masterIp controllerIp config uuid defaultMemory defaultCpu decode events ticks
      turns mesosClientSet apiRequests).InstancesInv
      (Api.GroupInstance (StateManager.new masterIp (controllerIpOf masterIp controllerIp) config uuid)
        defaultMemory defaultCpu config) := by
  refine ⟨?_, ⟨none, scheduled_runScheduler decode events⟩,
    spec_runHealthCheckerOn_filesOnlySystem _ defaultMemory defaultCpu config ticks, spec_syncLoop turns,
    Api.files_runApiOn _ defaultMemory defaultCpu mesosClientSet config apiRequests⟩
  rw [Framework.main, run_construct_state env hnodes]
  exact entriesSatisfy_empty _

/-- The tasks that are not system services are the configured groups' instances.  Start the
program as `main` does on a configuration whose node list reads, with the scheduler thread on any
events, the supervisor for any number of ticks, the sync loop, and the admin API on any requests,
its group start reading the configuration; in every interleaving, at every configuration a run
reaches, every task entry that is not a system service is, up to the fields the table's updates
write, the record `send_start_task` builds for one of the `number_of_instances` instances of a
service of a group of `api.service-groups` that `read_task` reads. -/
theorem main_group_tasks_configured {nodes : List Node} (hnodes : configuredNodes config = .ok nodes)
    {cfg : Framework}
    (hrun : Relation.ReflTransGen Framework.Step (Framework.main env masterIp controllerIp config uuid
      defaultMemory defaultCpu decode events ticks turns mesosClientSet apiRequests) cfg)
    {n : String} {task : Task} (hlookup : cfg.state.taskList.lookup n = some task)
    (hother : task.isSystemService = false) :
    ∃ serviceGroups, ((config.index "api").index "service-groups").asVec = some serviceGroups ∧
      ∃ serviceGroup ∈ serviceGroups, ∃ services,
        (serviceGroup.index "services").asVec = some services ∧
        ∃ service ∈ services, ∃ configured, readTask defaultMemory defaultCpu service = .ok configured ∧
          ∃ cnt < configured.numberOfInstances.toNat, ∃ ip now, task.withoutUpdates =
            ((StateManager.new masterIp (controllerIpOf masterIp controllerIp) config uuid).newTask
              (Api.instanceName configured cnt) configured false
              ((StateManager.new masterIp (controllerIpOf masterIp controllerIp) config uuid).resolvedArguments
                configured.arguments ip) now).withoutUpdates := by
  obtain ⟨filed, ⟨serviceGroups, hgroups, serviceGroup, hgroup, services, hservices, service, hservice,
      configured, hread, cnt, hcnt, ip, now, rfl⟩, hfiled⟩ :=
    (Framework.Step.invariant (fun h hs => Framework.InstancesInv.step h hs)
      (Framework.InstancesInv.main env masterIp controllerIp config uuid defaultMemory defaultCpu decode
        events ticks turns mesosClientSet apiRequests hnodes) hrun).tasks n task hlookup hother
  exact ⟨serviceGroups, hgroups, serviceGroup, hgroup, services, hservices, service, hservice,
    configured, hread, cnt, hcnt, ip, now, hfiled.symm⟩

end MainGroups

/-- A configuration with no node whose API has the group `dns` of `dns-a`. -/
def dnsGroupMainConfig : Yaml :=
  .hash [(.string "nodes", .array []),
    (.string "api", .hash [(.string "service-groups", .array [Api.dnsGroupYaml [Api.dnsAServiceYaml]])])]

/-- The program started on `dnsGroupMainConfig`, its API asked `GET /start/group?name=dns`, its
scheduler thread given an offer of nothing. -/
def dnsGroupMain : Framework :=
  Framework.main ⟨fun _ => true, 0⟩ "10.0.0.1" none dnsGroupMainConfig "u" F64.zero F64.zero
    (fun _ => .error "") [.offers [emptyOffer "o1"]] 0 0 false [⟨.get, "/start/group", some "name=dns"⟩]

/-- The group start files `dns-a` and the scheduler thread accepts it for the offer: the entry is
`Accepted`, and otherwise the record the group start filed. -/
theorem main_group_tasks_configured_accepted :
    configuredNodes dnsGroupMainConfig = .ok [] ∧
    ∃ cfg task, dnsGroupMain.interleave ⟨fun _ => true, 0⟩
        (List.replicate 3 Thread.api ++ List.replicate 5 Thread.scheduler) = some cfg ∧
      cfg.state.taskList.lookup "dns-a" = some task ∧ task.state = .accepted ∧
      task.isSystemService = false ∧ Relation.ReflTransGen Framework.Step dnsGroupMain cfg ∧
      ∃ serviceGroups, ((dnsGroupMainConfig.index "api").index "service-groups").asVec =
          some serviceGroups ∧
        ∃ serviceGroup ∈ serviceGroups, ∃ services,
          (serviceGroup.index "services").asVec = some services ∧
          ∃ service ∈ services, ∃ configured, readTask F64.zero F64.zero service = .ok configured ∧
            ∃ cnt < configured.numberOfInstances.toNat, ∃ ip now, task.withoutUpdates =
              ((StateManager.new "10.0.0.1" (controllerIpOf "10.0.0.1" none) dnsGroupMainConfig
                "u").newTask (Api.instanceName configured cnt) configured false
                ((StateManager.new "10.0.0.1" (controllerIpOf "10.0.0.1" none) dnsGroupMainConfig
                  "u").resolvedArguments configured.arguments ip) now).withoutUpdates := by
  obtain ⟨cfg, task, hcfg, hlookup, haccepted, hother⟩ : ∃ cfg task, dnsGroupMain.interleave
      ⟨fun _ => true, 0⟩ (List.replicate 3 Thread.api ++ List.replicate 5 Thread.scheduler) =
        some cfg ∧
      cfg.state.taskList.lookup "dns-a" = some task ∧ task.state = .accepted ∧
      task.isSystemService = false :=
    ⟨_, _, rfl, rfl, rfl, rfl⟩
  have hrun := Framework.reflTransGen_of_interleave hcfg
  exact ⟨rfl, cfg, task, hcfg, hlookup, haccepted, hother, hrun, main_group_tasks_configured
    ⟨fun _ => true, 0⟩ "10.0.0.1" none dnsGroupMainConfig "u" F64.zero F64.zero (fun _ => .error "") _
    0 0 false _ rfl hrun hlookup hother⟩

end Torc
