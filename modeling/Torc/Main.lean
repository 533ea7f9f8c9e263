import Torc.Groups

/-! The program as `main` starts it.  `StateManager::new` spawns the actor on empty tables, files the
configured nodes and reads the sync loop's interval; `main` then starts the API, whose group start
reads the service groups from the configuration at each request, the scheduler thread, and the
supervisor, which reads its interval and its system services from the same configuration, beside
the sync loop.  The framework so started keeps the invariants of `Framework` in every
interleaving, and its node table holds the configured nodes for ever. -/

namespace Torc

open Prog Config TorcScheduler

variable (env : Env)

/-! ### The framework as `main` starts it -/

section Main

variable (masterIp : String) (controllerIp : Option String) (config : Yaml) (uuid : String)
  (defaultMemory defaultCpu : F64) (decode : List UInt8 → Except String Json)
  (events : List Event) (ticks turns : Nat) (mesosClientSet : Bool) (apiRequests : List Api.Request)

/-- The framework as `main` starts it on the configuration `config`: `StateManager::new` files the
configured nodes in the actor's empty tables, then the API, the scheduler thread and the
supervisor run beside the sync loop; the supervisor and the API's group start read `config`. -/
def Framework.main : Framework :=
  let controllerIp := controllerIpOf masterIp controllerIp
  let manager := StateManager.new masterIp controllerIp config uuid
  ⟨runScheduler decode events,
    manager.runHealthCheckerOn defaultMemory defaultCpu config ticks, StateManager.syncLoop turns,
    Api.runApiOn manager defaultMemory defaultCpu mesosClientSet config apiRequests,
    (run env (StateManager.construct config) (State.new controllerIp)).state⟩

/-- The state after `StateManager::new` is one the actor reaches. -/
theorem reachable_main {nodes : List Node} (hnodes : configuredNodes config = .ok nodes) :
    Reachable (controllerIpOf masterIp controllerIp)
      (run env (StateManager.construct config) (State.new (controllerIpOf masterIp controllerIp))).state := by
  rw [run_construct_state env hnodes]
  exact Reachable.new.foldl_addNewNode nodes

theorem Framework.NodeInv.main :
    (Framework.main env masterIp controllerIp config uuid defaultMemory defaultCpu decode events ticks
      turns mesosClientSet apiRequests).NodeInv (activations events) :=
  have h := Framework.NodeInv.start (StateManager.new masterIp (controllerIpOf masterIp controllerIp)
    config uuid) decode events [] ticks turns mesosClientSet none apiRequests
    (Prog.run env (StateManager.construct config) (State.new (controllerIpOf masterIp controllerIp))).state
  ⟨h.scheduler, (spec_of_supervised (supervised_runHealthCheckerOn _ defaultMemory defaultCpu config
    ticks)).mono (fun _ => filingRequest_keepsNodes) (fun _ h => h) fun _ h => h, h.sync,
    (Api.spec_runApiOn _ defaultMemory defaultCpu mesosClientSet config apiRequests).mono
      (fun _ h => filingRequest_keepsNodes (h.imp_right fun ⟨task, hr, hreq, _⟩ => ⟨task, hr, hreq⟩))
      (fun _ _ => trivial) fun _ h => h⟩

theorem Framework.Inv.main {nodes : List Node} (hnodes : configuredNodes config = .ok nodes)
    (hapi : ∀ request ∈ apiRequests, ¬Api.IsGroupStart request) :
    (Framework.main env masterIp controllerIp config uuid defaultMemory defaultCpu decode events ticks
      turns mesosClientSet apiRequests).Inv :=
  have hreach := reachable_main env masterIp controllerIp config hnodes
  have h := Framework.Inv.start (StateManager.new masterIp (controllerIpOf masterIp controllerIp)
    config uuid) decode events [] ticks turns mesosClientSet none hapi hreach
  ⟨⟨hreach.tablesInv, none, supervised_runHealthCheckerOn _ defaultMemory defaultCpu config ticks,
    nofun⟩, h.scheduler, h.sync,
    (Api.spec_runApiOn_reader _ defaultMemory defaultCpu mesosClientSet config hapi).mono
      (fun _ h => h) (fun _ _ => trivial) fun _ h => h⟩

/-- The node table holds the configured nodes for ever.  Start the program as `main` does on a
configuration whose node list reads, with the scheduler thread on any events, the supervisor for
any number of ticks, the sync loop, and the admin API on any requests, its group start reading
the configuration; in every interleaving, at
every configuration a run reaches, the node table has an entry exactly under the configured names,
and each holds the addresses, port and reachability of the last configured node of its name. -/
theorem main_configured_nodes {nodes : List Node} (hnodes : configuredNodes config = .ok nodes)
    {cfg : Framework}
    (hrun : Relation.ReflTransGen Framework.Step (Framework.main env masterIp controllerIp config uuid
      defaultMemory defaultCpu decode events ticks turns mesosClientSet apiRequests) cfg)
    (n : String) :
    (cfg.state.nodeList.lookup n).map Node.configured = lastNamed Node.name Node.configured nodes n := by
  have hlife := ((Framework.NodeInv.main env masterIp controllerIp config uuid defaultMemory
    defaultCpu decode events ticks turns mesosClientSet apiRequests).run hrun).2 n
  rw [hlife.map_configured]
  simp only [Framework.main, run_construct_state env hnodes, lookup_foldl_addNewNode]
  simp [lastNamed, State.new, Option.map_map]

/-- The program as `main` starts it refines the life of a task.  On a configuration whose node list
reads, with the scheduler thread on any events, the supervisor read from the configuration (whatever
its services hold), the sync loop, and the admin API on any requests but a group start, every step
of every interleaving moves the state of every task name along `Lifecycle`. -/
theorem main_refines_lifecycle {nodes : List Node} (hnodes : configuredNodes config = .ok nodes)
    (hapi : ∀ request ∈ apiRequests, ¬Api.IsGroupStart request) {cfg cfg' : Framework}
    (hrun : Relation.ReflTransGen Framework.Step (Framework.main env masterIp controllerIp config uuid
      defaultMemory defaultCpu decode events ticks turns mesosClientSet apiRequests) cfg)
    (hstep : Framework.Step cfg cfg') (n : String) :
    Lifecycle (taskStateOf cfg.state n) (taskStateOf cfg'.state n) := by
  have hinv := Framework.Step.invariant (I := Framework.Inv) (fun h hs => (h.step hs).1)
    (Framework.Inv.main env masterIp controllerIp config uuid defaultMemory defaultCpu decode events
      ticks turns mesosClientSet apiRequests hnodes hapi) hrun
  exact (hinv.step hstep).2 n

end Main

/-- A configuration of the node `n1` whose supervisor keeps `dns-a` running. -/
def dnsAConfig : Yaml :=
  .hash [(.string "nodes", .array [.hash [(.string "name", .string "n1"),
      (.string "ip", .string "10.0.0.2")]]),
    (.string "healthcheck", .hash [(.string "poll_interval_in_seconds", .integer 10),
      (.string "system_services", .array [.hash [(.string "name", .string "dns-a"),
        (.string "image_name", .string "dns:1"), (.string "network_type", .string "host")]])])]

/-- The node `load_node_list` files for `dnsAConfig`. -/
def n1Node : Node :=
  { name := "n1", ip := "10.0.0.2", externalIp := "", managementIp := "", nodeType := "",
    nodeFunction := "none", active := false, slaveId := "", portId := 0, reachable := false }

/-- The program started on `dnsAConfig`, its supervisor for one tick, its scheduler thread given the
offer `n1Offer`, then the news that `dns-a` was killed. -/
def dnsAOfferMain : Framework :=
  Framework.main ⟨fun _ => true, 0⟩ "10.0.0.1" none dnsAConfig "u" F64.zero F64.zero
    (fun _ => .error "") [.offers [n1Offer], .update ⟨"dns-a", .taskKilled, "s1", []⟩] 1 0 false []

/-- Once the supervisor has filed `dns-a` and the offer has activated `n1`, the node table still
holds `n1` as configured. -/
theorem main_configured_nodes_activated :
    configuredNodes dnsAConfig = .ok [n1Node] ∧
    ∃ cfg, dnsAOfferMain.interleave ⟨fun _ => true, 0⟩
        (List.replicate 4 Thread.health ++ List.replicate 4 Thread.scheduler) = some cfg ∧
      cfg.state.nodeList.lookup "n1" = some (n1Node.activated "slave" "none" "s1") ∧
      Relation.ReflTransGen Framework.Step dnsAOfferMain cfg ∧
      (cfg.state.nodeList.lookup "n1").map Node.configured =
        lastNamed Node.name Node.configured [n1Node] "n1" := by
  obtain ⟨cfg, hcfg, hactive⟩ : ∃ cfg, dnsAOfferMain.interleave ⟨fun _ => true, 0⟩
      (List.replicate 4 Thread.health ++ List.replicate 4 Thread.scheduler) = some cfg ∧
      cfg.state.nodeList.lookup "n1" = some (n1Node.activated "slave" "none" "s1") :=
    ⟨_, rfl, rfl⟩
  have hrun := Framework.reflTransGen_of_interleave hcfg
  exact ⟨rfl, cfg, hcfg, hactive, hrun, main_configured_nodes ⟨fun _ => true, 0⟩ "10.0.0.1" none
    dnsAConfig "u" F64.zero F64.zero (fun _ => .error "") _ 1 0 false [] rfl hrun "n1"⟩

/-- After the offer was matched to `dns-a`, the news that it was killed removes its `Accepted`
entry. -/
theorem main_refines_lifecycle_remove :
    configuredNodes dnsAConfig = .ok [n1Node] ∧
    (∀ request ∈ ([] : List Api.Request), ¬Api.IsGroupStart request) ∧
    ∃ cfg cfg', dnsAOfferMain.interleave ⟨fun _ => true, 0⟩
        (List.replicate 4 Thread.health ++ List.replicate 6 Thread.scheduler) = some cfg ∧
      cfg.next ⟨fun _ => true, 0⟩ .scheduler = some cfg' ∧
      taskStateOf cfg.state "dns-a" = some .accepted ∧ taskStateOf cfg'.state "dns-a" = none ∧
      Relation.ReflTransGen Framework.Step dnsAOfferMain cfg ∧ Framework.Step cfg cfg' ∧
      Lifecycle (taskStateOf cfg.state "dns-a") (taskStateOf cfg'.state "dns-a") := by
  have hapi : ∀ request ∈ ([] : List Api.Request), ¬Api.IsGroupStart request := nofun
  obtain ⟨cfg, cfg', hcfg, hcfg', hbefore, hafter⟩ : ∃ cfg cfg', dnsAOfferMain.interleave
      ⟨fun _ => true, 0⟩ (List.replicate 4 Thread.health ++ List.replicate 6 Thread.scheduler) =
        some cfg ∧
      cfg.next ⟨fun _ => true, 0⟩ .scheduler = some cfg' ∧
      taskStateOf cfg.state "dns-a" = some .accepted ∧ taskStateOf cfg'.state "dns-a" = none :=
    ⟨_, _, rfl, rfl, rfl, rfl⟩
  have hrun := Framework.reflTransGen_of_interleave hcfg
  have hstep := Framework.Step.of_next hcfg'
  exact ⟨rfl, hapi, cfg, cfg', hcfg, hcfg', hbefore, hafter, hrun, hstep,
    main_refines_lifecycle ⟨fun _ => true, 0⟩ "10.0.0.1" none dnsAConfig "u" F64.zero F64.zero
      (fun _ => .error "") _ 1 0 false [] rfl hapi hrun hstep "dns-a"⟩

end Torc
