import Torc.Framework

/-! The node table over the framework's runs.  `load_node_list` files the configured nodes, inactive,
before the threads start; afterwards the one request that writes the node table is the `UpdateNode`
of the offers callback, which the scheduler thread sends for the node an offer names right after
`GetIsNodeActive` found that node inactive.  No other thread writes the node table, so what the
check found is still true when the update arrives, however the threads interleave: an active node is
never written again.  Every step of the framework moves each node along `NodeLifecycle`, kept as it
is or activated once with the type, function and slave of one offer of the events the scheduler
thread is given, as the offers loop reads them (`activations`). -/

namespace Torc

/-- `node` as `update_node` leaves it for an offer of the type `nodeType` and the function
`nodeFunction` from the slave `slaveId`. -/
def Node.activated (node : Node) (nodeType nodeFunction slaveId : String) : Node :=
  { node with nodeType := nodeType, nodeFunction := nodeFunction, slaveId := slaveId, active := true }

/-- One step in the life of a node's record: kept, or an inactive node activated with a type,
function and slave that `offered` allows. -/
inductive NodeLifecycle (offered : String → String → String → Prop) : Option Node → Option Node → Prop
  | stay (o : Option Node) : NodeLifecycle offered o o
  | activate {node : Node} {nodeType nodeFunction slaveId : String} (h : node.active = false)
      (ho : offered nodeType nodeFunction slaveId) :
      NodeLifecycle offered (some node) (some (node.activated nodeType nodeFunction slaveId))

section NodeLifecycle

variable {offered : String → String → String → Prop}

/-- A node is activated at most once, so the steps of its life compose into one. -/
theorem NodeLifecycle.trans {a b c : Option Node} (h1 : NodeLifecycle offered a b)
    (h2 : NodeLifecycle offered b c) : NodeLifecycle offered a c := by
  cases h1 with
  | stay => exact h2
  | activate h ho =>
    cases h2 with
    | stay => exact .activate h ho
    | activate h' => cases h'

/-- An active node stays as it is. -/
theorem NodeLifecycle.eq_of_active {node : Node} {o : Option Node}
    (h : NodeLifecycle offered (some node) o) (hactive : node.active = true) : o = some node := by
  cases h with
  | stay => rfl
  | activate h => cases h.symm.trans hactive

/-- The fields of a node that only the configuration sets: its name, its addresses, its port and
whether it is reachable. -/
def Node.configured (node : Node) : String × String × String × String × Int × Bool :=
  (node.name, node.ip, node.externalIp, node.managementIp, node.portId, node.reachable)

/-- Activation writes none of the configured fields. -/
theorem NodeLifecycle.map_configured {a b : Option Node} (h : NodeLifecycle offered a b) :
    b.map Node.configured = a.map Node.configured := by
  cases h <;> rfl

end NodeLifecycle

/-- An activation that the offers callback can ask for: `UpdateNode` with these fields. -/
structure Activation where
  nodeName : String
  nodeType : String
  nodeFunction : String
  slaveId : String
  deriving DecidableEq, Repr

/-- Every node moves along `NodeLifecycle` from `state` to `state'`, activated only as one of
`acts` asks. -/
def NodeRefines (acts : List Activation) (state state' : State) : Prop :=
  ∀ n, NodeLifecycle (fun nodeType nodeFunction slaveId => ⟨n, nodeType, nodeFunction, slaveId⟩ ∈ acts)
    (state.nodeList.lookup n) (state'.nodeList.lookup n)

section NodeRefines

variable {acts : List Activation}

theorem NodeRefines.refl (state : State) : NodeRefines acts state state := fun _ => .stay _

theorem NodeRefines.trans {s1 s2 s3 : State} (h1 : NodeRefines acts s1 s2)
    (h2 : NodeRefines acts s2 s3) : NodeRefines acts s1 s3 :=
  fun n => (h1 n).trans (h2 n)

/-- The requests that write the node table. -/
def StateRequestMsg.WritesNode : StateRequestMsg → Prop
  | .addNode _ | .updateNode _ _ _ _ => True
  | _ => False

theorem nodeList_handle {r : StateRequestMsg} (hr : ¬r.WritesNode) (state : State) :
    (state.handle r).nodeList = state.nodeList := by
  cases r <;> first | exact (hr trivial).elim | simp [State.handle]

/-- `UpdateNode` for a node that is not active, as one of `acts` asks, moves every node along its
life. -/
theorem nodeRefines_updateNode {state : State} {nodeName nodeType nodeFunction slaveId : String}
    (h : state.nodeList.isNodeActive nodeName = false)
    (ho : ⟨nodeName, nodeType, nodeFunction, slaveId⟩ ∈ acts) :
    NodeRefines acts state (state.handle (.updateNode nodeName nodeType nodeFunction slaveId)) := by
  intro n
  simp only [State.handle, NodeList.lookup_updateNode]
  split_ifs with hn
  · subst hn
    cases hlookup : state.nodeList.lookup n with
    | none => exact .stay _
    | some node =>
      have hactive : node.active = false := by simpa [NodeList.isNodeActive, hlookup] using h
      exact .activate hactive ho
  · exact .stay _

end NodeRefines

/-! ### The scheduler thread's check -/

/-- What the reply to `GetIsNodeActive` says, as `request_is_node_active` reads it. -/
def isActiveReply : StateResponseMsg → Bool
  | .getIsNodeActive isActive => isActive
  | _ => false

theorem StateManager.requestIsNodeActive_eq (nodeName : String) :
    StateManager.requestIsNodeActive nodeName =
      .request (.getIsNodeActive nodeName) fun reply => .ret (isActiveReply reply) := by
  unfold StateManager.requestIsNodeActive
  congr
  funext reply
  cases reply <;> rfl

/-- A program of the scheduler thread that writes the node table only by an `UpdateNode` that one of
`acts` asks for, for the node its last `GetIsNodeActive` found inactive.  `m` is that node, while its
update may still come. -/
def NodeChecked {α : Type} (acts : List Activation) : Option String → Prog α → Prop
  | _, .ret _ => True
  | m, .request r k =>
    match r with
    | .getIsNodeActive n =>
      ∀ reply, NodeChecked acts (if isActiveReply reply then none else some n) (k reply)
    | .updateNode n nodeType nodeFunction slaveId =>
      m = some n ∧ ⟨n, nodeType, nodeFunction, slaveId⟩ ∈ acts ∧
        ∀ reply, NodeChecked acts none (k reply)
    | .addNode _ => False
    | _ => ∀ reply, NodeChecked acts m (k reply)
  | m, .call _ k => ∀ ok, NodeChecked acts m (k ok)
  | m, .now k => ∀ t, NodeChecked acts m (k t)
  | _, .panic _ => True

section NodeChecked

variable {α β : Type} {acts : List Activation}

/-- A program that needs no pending check needs none whatever is pending. -/
theorem NodeChecked.of_none {p : Prog α} (hp : NodeChecked acts none p) (m : Option String) :
    NodeChecked acts m p := by
  induction p generalizing m with
  | ret a => trivial
  | request r k ih =>
    cases r
    case updateNode => exact absurd hp.1 nofun
    case getIsNodeActive => exact hp
    case addNode => exact hp.elim
    all_goals exact fun reply => ih reply (hp reply) m
  | call c k ih => exact fun ok => ih ok (hp ok) m
  | now k ih => exact fun t => ih t (hp t) m
  | panic msg => trivial

theorem NodeChecked.bind {m : Option String} {p : Prog α} (hp : NodeChecked acts m p)
    {f : α → Prog β} (hf : ∀ a, NodeChecked acts none (f a)) : NodeChecked acts m (p >>= f) := by
  induction p generalizing m with
  | ret a => exact (hf a).of_none m
  | request r k ih =>
    cases r
    case updateNode => exact ⟨hp.1, hp.2.1, fun reply => ih reply (hp.2.2 reply)⟩
    case addNode => exact hp.elim
    all_goals exact fun reply => ih reply (hp reply)
  | call c k ih => exact fun ok => ih ok (hp ok)
  | now k ih => exact fun t => ih t (hp t)
  | panic msg => trivial

/-- A program that never writes the node table needs no check. -/
theorem nodeChecked_of_spec {P : StateRequestMsg → Prop} {Q : Mesos.Call → Prop} {R : α → Prop}
    {p : Prog α} (hp : p.Spec P Q R) (hP : ∀ r, P r → ¬r.WritesNode) (m : Option String) :
    NodeChecked acts m p := by
  induction p generalizing m with
  | ret a => trivial
  | request r k ih =>
    cases r
    case updateNode => exact absurd trivial (hP _ hp.1)
    case addNode => exact absurd trivial (hP _ hp.1)
    all_goals exact fun reply => ih reply (hp.2 reply) _
  | call c k ih => exact fun ok => ih ok (hp.2 ok) m
  | now k ih => exact fun t => ih t (hp t) m
  | panic msg => trivial

end NodeChecked

namespace TorcScheduler

open Prog StateManager

/-- The scan writes no node. -/
theorem matchTasks_keepsNodes (attributes : Attributes) (cpus mem : F64) (slaveId : String)
    (tasks : List Task) :
    (matchTasks attributes cpus mem slaveId tasks).Spec (fun r => ¬r.WritesNode) (fun _ => False)
      fun _ => True := by
  induction tasks with
  | nil => trivial
  | cons task tasks ih =>
    unfold matchTasks
    split
    · exact ih
    · refine Spec.bind (R := fun _ => True) ?_ fun _ _ => ?_
      · unfold dependencyRunning
        split
        · exact ⟨nofun, fun reply => by cases reply <;> trivial⟩
        · trivial
      · split
        · exact ih
        · refine Spec.bind (R := fun _ => True) ?_ fun _ _ => trivial
          refine Spec.bind (R := fun _ => True) ⟨nofun, fun _ => trivial⟩ fun _ _ =>
            Spec.bind (R := fun _ => True) ?_ fun _ _ => ?_
          · split
            · exact ⟨nofun, fun _ => trivial⟩
            · trivial
          · split <;> trivial

/-- The activations the offers of a batch ask for, in batch order, when the loop starts from the
attribute variables `attributes`.  The loop reads each offer's attributes into the variables the
offers before it left, so an attribute an offer lacks keeps the value an earlier offer of the batch
gave it. -/
def activationsFrom (attributes : Attributes) : List Mesos.Offer → List Activation
  | [] => []
  | offer :: batch =>
    let attributes := offer.attributes.foldl readAttribute attributes
    ⟨attributes.nodeName, attributes.nodeType, attributes.nodeFunction, offer.slaveId⟩ ::
      activationsFrom attributes batch

/-- The activations an event asks for: those of an offers event's batch. -/
def Event.activations : Event → List Activation
  | .offers batch => activationsFrom OffersState.init.attributes batch
  | _ => []

/-- The activations the events ask for, in order. -/
def activations (events : List Event) : List Activation := events.flatMap Event.activations

variable {acts : List Activation}

theorem nodeChecked_sendUpdateNode {nodeName nodeType nodeFunction slaveId : String}
    (ho : ⟨nodeName, nodeType, nodeFunction, slaveId⟩ ∈ acts) {g : Unit → Prog β}
    (hg : NodeChecked acts none (g ())) :
    NodeChecked acts (some nodeName) (sendUpdateNode nodeName nodeType nodeFunction slaveId >>= g) :=
  ⟨rfl, ho, fun _ => hg⟩

/-- A turn of the offers loop sends `UpdateNode` only right after `GetIsNodeActive` found the node
inactive, and with the attributes it has read and the offer's slave. -/
theorem nodeChecked_scanOffer {slaveId : String} {snapshot : List Task} {st : OffersState}
    {offer : Mesos.Offer} {f : Option Mesos.TaskInfo → Prog β}
    (ho : ⟨(offer.attributes.foldl readAttribute st.attributes).nodeName,
      (offer.attributes.foldl readAttribute st.attributes).nodeType,
      (offer.attributes.foldl readAttribute st.attributes).nodeFunction, offer.slaveId⟩ ∈ acts)
    (hf : ∀ found, NodeChecked acts none (f found)) (m : Option String) :
    NodeChecked acts m (scanOffer slaveId snapshot st offer >>= f) := by
  have hmatch : ∀ attributes (cpus mem : F64),
      NodeChecked acts none (matchTasks attributes cpus mem slaveId snapshot >>= f) := fun _ _ _ =>
    (nodeChecked_of_spec (matchTasks_keepsNodes _ _ _ _ _) (fun _ h => h) none).bind hf
  simp only [scanOffer, requestIsNodeActive_eq, bind_assoc, request_bind, ret_bind]
  intro reply
  dsimp only
  cases isActiveReply reply
  · exact nodeChecked_sendUpdateNode ho (hmatch _ _ _)
  · exact hmatch _ _ _

theorem nodeChecked_offersLoop {slaveId : String} {snapshot : List Task} {f : OffersState → Prog β}
    (hf : ∀ st, NodeChecked acts none (f st)) (st : OffersState) (batch : List Mesos.Offer)
    (hacts : activationsFrom st.attributes batch ⊆ acts) :
    NodeChecked acts none (offersLoop slaveId snapshot st batch >>= f) := by
  induction batch generalizing st with
  | nil => exact hf st
  | cons offer batch ih =>
    rw [offersLoop_cons, bind_assoc]
    exact nodeChecked_scanOffer (hacts (.head _))
      (fun found => ih _ fun a ha => hacts (.tail _ ha)) none

theorem nodeChecked_offers (batch : List Mesos.Offer)
    (hacts : activationsFrom OffersState.init.attributes batch ⊆ acts) :
    NodeChecked acts none (offers batch) := by
  match batch with
  | [] => trivial
  | first :: rest =>
    have hcall : ∀ (b : Prop) [Decidable b] (c : Mesos.Call),
        NodeChecked acts none (if b then callUnwrap c else pure ()) := fun b _ c => by
      split
      · exact fun ok => by cases ok <;> trivial
      · trivial
    refine NodeChecked.bind (p := requestListRequestedTasks) (fun reply => by cases reply <;> trivial)
      fun _ => nodeChecked_offersLoop (fun st => (hcall _ _).bind fun _ => ?_) _ _ hacts
    exact hcall _ _

theorem nodeChecked_callback (decode : List UInt8 → Except String Json) (event : Event)
    (hacts : event.activations ⊆ acts) : NodeChecked acts none (callback decode event) := by
  cases event with
  | subscribed | inverseOffers => exact fun ok => by cases ok <;> trivial
  | offers batch => exact nodeChecked_offers batch hacts
  | update status =>
    exact nodeChecked_of_spec (spec_update decode status) (fun r hr hw => by
      cases r <;> first | exact hw | exact hr) none
  | logged => trivial

theorem nodeChecked_runScheduler (decode : List UInt8 → Except String Json) (events : List Event) :
    NodeChecked (activations events) none (runScheduler decode events) := by
  refine fun _ => ?_
  show NodeChecked (activations events) none (events.forM (callback decode))
  suffices h : ∀ acts, activations events ⊆ acts → NodeChecked acts none (events.forM (callback decode))
    from h _ (List.Subset.refl _)
  induction events with
  | nil => exact fun _ _ => trivial
  | cons event events ih =>
    intro acts hacts
    rw [List.forM_cons']
    exact (nodeChecked_callback decode event fun a ha => hacts (List.mem_append_left _ ha)).bind
      fun _ => ih acts fun a ha => hacts (List.mem_append_right _ ha)

end TorcScheduler

/-! ### The framework's runs -/

open Prog TorcScheduler

section Runs

variable {acts : List Activation}

/-- The scheduler thread's position for the node table: the node whose update may still come is
inactive in the actor's state. -/
def NodeAt {α : Type} (acts : List Activation) (cfg : Prog α × State) : Prop :=
  ∃ m, NodeChecked acts m cfg.1 ∧ ∀ n, m = some n → cfg.2.nodeList.isNodeActive n = false

theorem NodeAt.of_nodeList_eq {α : Type} {p : Prog α} {state state' : State}
    (h : NodeAt acts (p, state)) (heq : state'.nodeList = state.nodeList) : NodeAt acts (p, state') :=
  let ⟨m, hp, hm⟩ := h
  ⟨m, hp, fun n hn => heq ▸ hm n hn⟩

theorem NodeRefines.of_nodeList_eq {state state' : State} (heq : state'.nodeList = state.nodeList) :
    NodeRefines acts state state' :=
  fun _ => heq ▸ .stay _

/-- A request of the scheduler thread: the node it updates, if any, was found inactive, and its
check stays true. -/
theorem nodeAt_request {α : Type} {r : StateRequestMsg} {k : StateResponseMsg → Prog α}
    {state state' : State} {reply : StateResponseMsg} (h : NodeAt acts (.request r k, state))
    (hs : serve state r = .ok (reply, state')) :
    NodeAt acts (k reply, state') ∧ NodeRefines acts state state' := by
  obtain ⟨m, hp, hm⟩ := h
  obtain ⟨hreply, rfl⟩ := serve_eq_ok.mp hs
  by_cases hw : r.WritesNode
  · cases r with
    | updateNode n nodeType nodeFunction slaveId =>
      exact ⟨⟨none, hp.2.2 reply, nofun⟩, nodeRefines_updateNode (hm n hp.1) hp.2.1⟩
    | addNode => exact hp.elim
    | _ => exact hw.elim
  · have heq := nodeList_handle hw state
    refine ⟨NodeAt.of_nodeList_eq ?_ heq, NodeRefines.of_nodeList_eq heq⟩
    cases r with
    | getIsNodeActive n =>
      cases hreply
      refine ⟨_, hp _, fun n' hn' => ?_⟩
      cases hactive : state.nodeList.isNodeActive n <;> simp [isActiveReply, hactive] at hn'
      exact hn' ▸ hactive
    | updateNode | addNode => exact absurd trivial hw
    | _ => exact ⟨m, hp reply, hm⟩

/-- A step of the scheduler thread keeps its check true and moves every node along its life. -/
theorem nodeAt_threadStep {α : Type} {p p' : Prog α} {state state' : State}
    (h : NodeAt acts (p, state)) (hs : ThreadStep (p, state) (p', state')) :
    NodeAt acts (p', state') ∧ NodeRefines acts state state' := by
  obtain ⟨m, hp, hm⟩ := h
  cases hs with
  | request hs => exact nodeAt_request ⟨m, hp, hm⟩ hs
  | call ok => exact ⟨⟨m, hp ok, hm⟩, NodeRefines.refl _⟩
  | now t => exact ⟨⟨m, hp t, hm⟩, NodeRefines.refl _⟩

/-- A request that writes no node. -/
def KeepsNodes (r : StateRequestMsg) : Prop := ¬r.WritesNode

theorem StateRequestMsg.Reader.keepsNodes {r : StateRequestMsg} (hr : r.Reader) : KeepsNodes r := by
  intro hw
  cases r <;> first | exact hr | exact hw

theorem filingRequest_keepsNodes {r : StateRequestMsg} (hr : FilingRequest r) : KeepsNodes r := by
  rcases hr with hr | ⟨task, rfl, -⟩
  · exact hr.keepsNodes
  · exact id

/-- A step of a thread that writes no node keeps the node table, and with it the scheduler
thread's check. -/
theorem keepsNodes_step {α β : Type} {Q : Mesos.Call → Prop} {R : α → Prop} {p p' : Prog α}
    {scheduler : Prog β} {state state' : State} (h : p.Spec KeepsNodes Q R)
    (hsched : NodeAt acts (scheduler, state)) (hs : ThreadStep (p, state) (p', state')) :
    p'.Spec KeepsNodes Q R ∧ NodeAt acts (scheduler, state') ∧ NodeRefines acts state state' := by
  obtain ⟨hp', heq⟩ : p'.Spec KeepsNodes Q R ∧ state'.nodeList = state.nodeList := by
    obtain ⟨hp', rfl | ⟨r, hr, rfl⟩⟩ := h.threadStep hs
    · exact ⟨hp', rfl⟩
    · exact ⟨hp', nodeList_handle hr state⟩
  exact ⟨hp', hsched.of_nodeList_eq heq, NodeRefines.of_nodeList_eq heq⟩

/-- What holds at every configuration the framework reaches, whatever the API is asked: the
scheduler thread's check is true, its updates are among `acts`, and no other thread writes the node
table. -/
structure Framework.NodeInv (acts : List Activation) (cfg : Framework) : Prop where
  scheduler : NodeAt acts (cfg.scheduler, cfg.state)
  health : cfg.health.Spec KeepsNodes (fun _ => False) fun _ => True
  sync : cfg.sync.Spec KeepsNodes (fun _ => False) fun _ => True
  api : cfg.api.Spec KeepsNodes (fun _ => True) fun _ => True

/-- Every step keeps the invariant and moves every node along its life. -/
theorem Framework.NodeInv.step {cfg cfg' : Framework} (h : cfg.NodeInv acts)
    (hstep : Framework.Step cfg cfg') : cfg'.NodeInv acts ∧ NodeRefines acts cfg.state cfg'.state := by
  obtain ⟨scheduler, health, sync, api, state⟩ := cfg
  obtain ⟨hsched, hhealth, hsync, hapi⟩ := h
  cases hstep with
  | scheduler hs =>
    obtain ⟨hsched', href⟩ := nodeAt_threadStep hsched hs
    exact ⟨⟨hsched', hhealth, hsync, hapi⟩, href⟩
  | health hs =>
    obtain ⟨hhealth', hsched', href⟩ := keepsNodes_step hhealth hsched hs
    exact ⟨⟨hsched', hhealth', hsync, hapi⟩, href⟩
  | sync hs =>
    obtain ⟨hsync', hsched', href⟩ := keepsNodes_step hsync hsched hs
    exact ⟨⟨hsched', hhealth, hsync', hapi⟩, href⟩
  | api hs =>
    obtain ⟨hapi', hsched', href⟩ := keepsNodes_step hapi hsched hs
    exact ⟨⟨hsched', hhealth, hsync, hapi'⟩, href⟩

/-- Along every run from a configuration where the invariant holds, it keeps holding, and every
node moves along its life. -/
theorem Framework.NodeInv.run {cfg cfg' : Framework} (h : cfg.NodeInv acts)
    (hrun : Relation.ReflTransGen Framework.Step cfg cfg') :
    cfg'.NodeInv acts ∧ NodeRefines acts cfg.state cfg'.state := by
  induction hrun with
  | refl => exact ⟨h, NodeRefines.refl _⟩
  | tail _ hs ih =>
    obtain ⟨h', href'⟩ := ih.1.step hs
    exact ⟨h', ih.2.trans href'⟩

end Runs

theorem Framework.NodeInv.start (manager : StateManager)
    (decode : List UInt8 → Except String Json) (events : List Event)
    (systemServices : List Config.Task) (ticks turns : Nat) (mesosClientSet : Bool)
    (serviceGroups : Option (List Api.ServiceGroup)) (apiRequests : List Api.Request)
    (state : State) :
    (Framework.start manager decode events systemServices ticks turns mesosClientSet serviceGroups
      apiRequests state).NodeInv (activations events) :=
  ⟨⟨none, nodeChecked_runScheduler decode events, nofun⟩,
    (spec_of_supervised (supervised_runHealthChecker manager systemServices ticks)).mono
      (fun _ => filingRequest_keepsNodes) (fun _ h => h) fun _ h => h,
    (spec_syncLoop turns).mono (fun _ h => h.keepsNodes) (fun _ h => h) fun _ h => h,
    (Api.spec_runApi manager mesosClientSet serviceGroups apiRequests).mono
      (fun _ h => filingRequest_keepsNodes (h.imp_right fun ⟨task, hr, hreq, _⟩ => ⟨task, hr, hreq⟩))
      (fun _ _ => trivial) fun _ h => h⟩

/-- The framework only activates inactive nodes, and only as an offer asks.  Start the scheduler
thread on any events, the supervisor on any system services, the sync loop, and the admin API on
any requests, from any state of the actor; in every interleaving of their requests, from any
configuration a run reaches to any later one, each node keeps its record, or was inactive and is
activated with the type, function and slave of one offer of the events: the machine type and
machine function the offers loop has read once it has read that offer's attributes, and the
offer's slave.  No node is filed or dropped, and an active node is never written again. -/
theorem framework_node_lifecycle (manager : StateManager)
    (decode : List UInt8 → Except String Json) (events : List Event)
    (systemServices : List Config.Task) (ticks turns : Nat) (mesosClientSet : Bool)
    (serviceGroups : Option (List Api.ServiceGroup)) (apiRequests : List Api.Request)
    (state₀ : State) {cfg cfg' : Framework}
    (hrun : Relation.ReflTransGen Framework.Step (Framework.start manager decode events
      systemServices ticks turns mesosClientSet serviceGroups apiRequests state₀) cfg)
    (hlater : Relation.ReflTransGen Framework.Step cfg cfg') (n : String) :
    NodeLifecycle (fun nodeType nodeFunction slaveId =>
        ⟨n, nodeType, nodeFunction, slaveId⟩ ∈ activations events)
      (cfg.state.nodeList.lookup n) (cfg'.state.nodeList.lookup n) :=
  ((Framework.NodeInv.start manager decode events systemServices ticks turns mesosClientSet
    serviceGroups apiRequests state₀).run hrun).1.run hlater |>.2 n

/-- An offer from the slave `s1` whose attributes name the node `n1`, a slave of no function. -/
def n1Offer : Mesos.Offer :=
  ⟨"o1", "s1", [⟨"machine-name", "n1"⟩, ⟨"machine-type", "slave"⟩, ⟨"machine-function", "none"⟩], []⟩

/-- The framework whose scheduler thread gets `n1Offer`, from tables where `n1` is filed
inactive. -/
def n1OfferFramework : Framework :=
  Framework.start torcManager (fun _ => .error "") [.offers [n1Offer]] [] 0 0 false none []
    ((State.new "").handle (.addNode nodeN1))

/-- The scheduler thread pings, lists the requested tasks, finds `n1` inactive and activates it as
`n1Offer` asks. -/
theorem framework_node_lifecycle_activate :
    ∃ cfg, n1OfferFramework.interleave ⟨fun _ => true, 0⟩ (List.replicate 4 Thread.scheduler) = some cfg ∧
      n1OfferFramework.state.nodeList.lookup "n1" = some nodeN1 ∧
      cfg.state.nodeList.lookup "n1" = some (nodeN1.activated "slave" "none" "s1") ∧
      Relation.ReflTransGen Framework.Step n1OfferFramework cfg ∧
      NodeLifecycle (fun nodeType nodeFunction slaveId =>
          ⟨"n1", nodeType, nodeFunction, slaveId⟩ ∈ activations [.offers [n1Offer]])
        (n1OfferFramework.state.nodeList.lookup "n1") (cfg.state.nodeList.lookup "n1") := by
  obtain ⟨cfg, hcfg, hbefore, hafter⟩ : ∃ cfg,
      n1OfferFramework.interleave ⟨fun _ => true, 0⟩ (List.replicate 4 Thread.scheduler) = some cfg ∧
      n1OfferFramework.state.nodeList.lookup "n1" = some nodeN1 ∧
      cfg.state.nodeList.lookup "n1" = some (nodeN1.activated "slave" "none" "s1") :=
    ⟨_, rfl, rfl, rfl⟩
  have hlater := Framework.reflTransGen_of_interleave hcfg
  exact ⟨cfg, hcfg, hbefore, hafter, hlater, framework_node_lifecycle torcManager (fun _ => .error "")
    [.offers [n1Offer]] [] 0 0 false none [] _ .refl hlater "n1"⟩

end Torc
