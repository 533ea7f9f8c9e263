import Torc.Client

/-! The offers callback of `scheduler/scheduler_impl.rs`, the matcher at the heart of the
scheduler.  The master sends a batch of offers of one slave; the callback takes one snapshot of the
`Requested` tasks, and for each offer in order reads the offer's attributes and scalar resources,
marks the slave's node active, and scans the snapshot for the first task that the offer fits.  A
task that fits is marked `Accepted` (and re-pinned to the offer's node when it was placed by type
or function) before its launch descriptor is built; the offer then goes to the accept list with
the descriptor, and an offer that fits no task goes to the decline list.  After the loop the
callback makes one `launch` call and one `decline` call, each only if its list is not empty, and
unwraps both.

The attribute and resource variables are declared before the loop over the offers, so an offer
that lacks one keeps the value of an earlier offer of the batch; `OffersState` carries them from
one offer to the next as the source does. -/

namespace Torc

namespace TorcScheduler

open Prog StateManager

/-- The offer attributes the matcher reads, `host`, `machine-name`, `machine-type` and
`machine-function`. -/
structure Attributes where
  host : String
  nodeName : String
  nodeType : String
  nodeFunction : String
  deriving DecidableEq, Repr

/-- One turn of the loop over the attributes of an offer: the last attribute of a name wins. -/
def readAttribute (attributes : Attributes) (attr : Mesos.Attribute) : Attributes :=
  match attr.name with
  | "host" => { attributes with host := attr.text }
  | "machine-name" => { attributes with nodeName := attr.text }
  | "machine-type" => { attributes with nodeType := attr.text }
  | "machine-function" => { attributes with nodeFunction := attr.text }
  | _ => attributes

/-- One turn of the loop over the resources of an offer, on `(offer_cpus, offer_mem)`: the last
resource of a name wins. -/
def readResource (resources : F64 × F64) (resource : Mesos.Resource) : F64 × F64 :=
  match resource.name with
  | "mem" => (resources.1, resource.scalar)
  | "cpus" => (resource.scalar, resources.2)
  | _ => resources

/-- One placement test of the scan: a constraint that is not empty must equal the offer's
attribute. -/
def constraintFails (constraint actual : String) : Bool :=
  constraint.length > 0 && constraint != actual

/-- The three placement tests of the scan, on `node_name`, `node_type` and `node_function`. -/
def placementFails (attributes : Attributes) (task : Task) : Bool :=
  constraintFails task.nodeName attributes.nodeName ||
  constraintFails task.nodeType attributes.nodeType ||
  constraintFails task.nodeFunction attributes.nodeFunction

/-- The dependency test of the scan: a task with a `dependent_service` waits until the actor
reports that service `Running`. -/
def dependencyRunning (task : Task) : Prog Bool :=
  if task.dependentService.length > 0 then do
    let taskState ← requestTaskState task.dependentService
    ret (taskState == .running)
  else ret true

/-- The `loop` that pairs the Docker parameter tokens `elmts`, of length `len`.  `rest` is `elmts`
from index `count` on.  A turn reads `elmts[count]` as a key and `elmts[count + 1]` as its value,
panicking past the end, adds 2 to `count`, and stops once `count >= elmts.len()`. -/
def parameterLoop (len : Nat) : Nat → List String → Except String (List Mesos.Parameter)
  | count, [] => .error (indexOutOfBounds len count)
  | count, [_] => .error (indexOutOfBounds len (count + 1))
  | count, key :: value :: rest =>
    if count + 2 ≥ len then .ok [⟨key, value⟩]
    else (⟨key, value⟩ :: ·) <$> parameterLoop len (count + 2) rest

/-- The separators of the Docker parameter string: `-`, `=` and space. -/
def isParameterSeparator (c : Char) : Bool := c == '-' || c == '=' || c == ' '

/-- The network of the Docker descriptor and the parameter string it is built from: a known
network type becomes the network, any other is passed on as ` --net=<type>`. -/
def network (task : Task) : Option Mesos.Network × String :=
  match task.networkType with
  | "host" => (some .host, task.parameters)
  | "bridge" => (some .bridge, task.parameters)
  | "none" => (some .none, task.parameters)
  | networkType => (none, task.parameters ++ " --net=" ++ networkType)

/-- The Docker parameters of the descriptor: the tokens of the parameter string, paired. -/
def dockerParameters (parameters : String) : Except String (List Mesos.Parameter) :=
  if parameters.length > 0 then
    let elmts := splitNonEmpty isParameterSeparator parameters
    parameterLoop elmts.length 0 elmts
  else .ok []

/-- The launch descriptor that the callback builds for `task` on the slave `slaveId`
(`util::task_info_for_container`); it fails where the parameter loop panics. -/
def taskInfo (task : Task) (slaveId : String) : Except String Mesos.TaskInfo := do
  let parameters ← dockerParameters (network task).2
  pure
    { name := task.name
      taskId := task.name
      slaveId := slaveId
      command :=
        { shell := false
          arguments :=
            if task.arguments.length > 0 then splitNonEmpty (· == ' ') task.arguments else [] }
      container :=
        { fieldType := .docker
          docker :=
            { image := task.image, privileged := task.privileged, network := (network task).1,
              parameters := parameters }
          volumes := task.volumes.map fun volume =>
            { hostPath := volume.hostPath, containerPath := volume.containerPath,
              mode := if volume.readOnlyMode then .ro else .rw } }
      resources := [⟨"mem", "*", task.memory⟩, ⟨"cpus", "*", task.cpu⟩] }

/-- What the scan does with the first task that fits: marks it `Accepted`, re-pins it to the
offer's node when it was placed by type or function, and then builds its descriptor. -/
def acceptTask (attributes : Attributes) (slaveId : String) (task : Task) : Prog Mesos.TaskInfo := do
  sendUpdateTaskState task.name .accepted
  let _ ← (if task.nodeType.length > 0 || task.nodeFunction.length > 0 then
      sendUpdateTaskNodeName task.name attributes.nodeName
    else pure ())
  match taskInfo task slaveId with
  | .ok info => ret info
  | .error msg => Prog.panic msg

/-- The scan of the snapshot for one offer: the descriptor of the first task that fits, or
`none`. -/
def matchTasks (attributes : Attributes) (offerCpus offerMem : F64) (slaveId : String) :
    List Task → Prog (Option Mesos.TaskInfo)
  | [] => ret none
  | task :: requestedTasks =>
    if placementFails attributes task then
      matchTasks attributes offerCpus offerMem slaveId requestedTasks
    else do
      let ready ← dependencyRunning task
      if !ready || offerCpus.lt task.cpu || offerMem.lt task.memory then
        matchTasks attributes offerCpus offerMem slaveId requestedTasks
      else some <$> acceptTask attributes slaveId task

/-- The variables of `offers` that the loop over the batch updates. -/
structure OffersState where
  tasksToStart : List Mesos.TaskInfo
  offersToDecline : List String
  offersToAccept : List String
  attributes : Attributes
  offerCpus : F64
  offerMem : F64

/-- The variables as `offers` declares them. -/
def OffersState.init : OffersState :=
  ⟨[], [], [], ⟨"", "", "", ""⟩, F64.zero, F64.zero⟩

/-- The outcome of one offer on the lists: its descriptor and id to the accept lists, or its id to
the decline list. -/
def OffersState.record (st : OffersState) (offer : Mesos.Offer) :
    Option Mesos.TaskInfo → OffersState
  | some info =>
    { st with tasksToStart := st.tasksToStart ++ [info],
              offersToAccept := st.offersToAccept ++ [offer.id] }
  | none => { st with offersToDecline := st.offersToDecline ++ [offer.id] }

/-- The loop over the offers of a batch. -/
def offersLoop (slaveId : String) (requestedTasks : List Task) :
    OffersState → List Mesos.Offer → Prog OffersState
  | st, [] => ret st
  | st, offer :: offers => do
    let attributes := offer.attributes.foldl readAttribute st.attributes
    let resources := offer.resources.foldl readResource (st.offerCpus, st.offerMem)
    let active ← requestIsNodeActive attributes.nodeName
    let _ ← (if !active then
        sendUpdateNode attributes.nodeName attributes.nodeType attributes.nodeFunction offer.slaveId
      else pure ())
    let found ← matchTasks attributes resources.1 resources.2 slaveId requestedTasks
    offersLoop slaveId requestedTasks
      { st.record offer found with
        attributes := attributes, offerCpus := resources.1, offerMem := resources.2 } offers

/-- `TorcScheduler::offers`.  The batch is never empty by the master's contract; `offers[0]` panics
on an empty one. -/
def offers (offers : List Mesos.Offer) : Prog Unit :=
  match offers with
  | [] => Prog.panic (indexOutOfBounds 0 0)
  | first :: _ => do
    let requestedTasks ← requestListRequestedTasks
    let st ← offersLoop first.slaveId requestedTasks OffersState.init offers
    let _ ← (if st.tasksToStart.length > 0 then
        callUnwrap (.launch st.offersToAccept st.tasksToStart)
      else pure ())
    if st.offersToDecline.length > 0 then
      callUnwrap (.decline st.offersToDecline)
    else pure ()

/-! ### One turn of the loop

A turn reads the offer's attributes and resources into the variables the loop carries, so each
variable ends up holding the last attribute or resource of its name in the offer, and keeps what
it held when the offer has none.  `offerAttributes` and `offerResources` are an offer read alone,
from the values the variables are declared with. -/

/-- The value of the last element of `xs` named `n`: what a loop that overwrites a variable for
each element of that name leaves in it. -/
def lastNamed {α β : Type} (name : α → String) (value : α → β) (xs : List α) (n : String) :
    Option β :=
  (xs.reverse.find? fun x => name x == n).map value

section LastNamed

variable {α β : Type} (name : α → String) (value : α → β)

@[simp] theorem lastNamed_nil (n : String) : lastNamed name value [] n = none := rfl

@[simp] theorem lastNamed_append_singleton (xs : List α) (x : α) (n : String) :
    lastNamed name value (xs ++ [x]) n =
      if name x = n then some (value x) else lastNamed name value xs n := by
  by_cases h : name x = n <;> simp [lastNamed, h]

theorem lastNamed_isSome {xs : List α} {n : String} (h : ∃ x ∈ xs, name x = n) :
    (lastNamed name value xs n).isSome := by
  obtain ⟨x, hx, rfl⟩ := h
  simp only [lastNamed, Option.isSome_map']
  exact List.find?_isSome.mpr ⟨x, List.mem_reverse.mpr hx, by simp⟩

end LastNamed

/-- The loop over the attributes of an offer leaves in each variable the last attribute of its
name, and the value it started from when there is none. -/
theorem foldl_readAttribute (attrs : List Mesos.Attribute) (a : Attributes) :
    attrs.foldl readAttribute a =
      ⟨(lastNamed (·.name) (·.text) attrs "host").getD a.host,
        (lastNamed (·.name) (·.text) attrs "machine-name").getD a.nodeName,
        (lastNamed (·.name) (·.text) attrs "machine-type").getD a.nodeType,
        (lastNamed (·.name) (·.text) attrs "machine-function").getD a.nodeFunction⟩ := by
  induction attrs using List.reverseRecOn with
  | nil => rfl
  | append_singleton attrs x ih =>
    rw [List.foldl_append, ih, List.foldl_cons, List.foldl_nil]
    unfold readAttribute
    split <;> simp_all

/-- The loop over the resources of an offer leaves in `(offer_cpus, offer_mem)` the last resource
of each name, and the value it started from when there is none. -/
theorem foldl_readResource (resources : List Mesos.Resource) (r : F64 × F64) :
    resources.foldl readResource r =
      ((lastNamed (·.name) (·.scalar) resources "cpus").getD r.1,
        (lastNamed (·.name) (·.scalar) resources "mem").getD r.2) := by
  induction resources using List.reverseRecOn with
  | nil => rfl
  | append_singleton resources x ih =>
    rw [List.foldl_append, ih, List.foldl_cons, List.foldl_nil]
    unfold readResource
    split <;> simp_all

/-- The attributes of `offer` as the loop reads them into the variables it declares: for each
name, the last attribute of that name, and `""` when there is none. -/
def offerAttributes (offer : Mesos.Offer) : Attributes :=
  offer.attributes.foldl readAttribute OffersState.init.attributes

/-- The `cpus` and `mem` scalars of `offer` as the loop reads them into the variables it declares:
the last resource of each name, and `0.0` when there is none. -/
def offerResources (offer : Mesos.Offer) : F64 × F64 :=
  offer.resources.foldl readResource (OffersState.init.offerCpus, OffersState.init.offerMem)

private theorem getD_getD {α : Type} (o : Option α) (a : α) : o.getD (o.getD a) = o.getD a := by
  cases o <;> rfl

/-- Reading the same attributes twice reads them once. -/
theorem foldl_readAttribute_idem (attrs : List Mesos.Attribute) (a : Attributes) :
    attrs.foldl readAttribute (attrs.foldl readAttribute a) = attrs.foldl readAttribute a := by
  simp only [foldl_readAttribute, getD_getD]

/-- Offers that all carry the attributes `attrs` leave, read one after another, what `attrs` alone
leaves. -/
theorem foldl_readAttribute_uniform {attrs : List Mesos.Attribute} {offers : List Mesos.Offer}
    (h : ∀ offer ∈ offers, offer.attributes = attrs) (a : Attributes) :
    attrs.foldl readAttribute (offers.foldl (fun a offer => offer.attributes.foldl readAttribute a) a) =
      attrs.foldl readAttribute a := by
  induction offers generalizing a with
  | nil => rfl
  | cons offer offers ih =>
    rw [List.foldl_cons, h offer (.head _), ih (fun o ho => h o (.tail _ ho)), foldl_readAttribute_idem]

/-- A resource that the offer has is read from the offer alone. -/
theorem foldl_readResource_start (resources : List Mesos.Resource) (r r' : F64 × F64) :
    ((∃ x ∈ resources, x.name = "cpus") →
      (resources.foldl readResource r).1 = (resources.foldl readResource r').1) ∧
    ((∃ x ∈ resources, x.name = "mem") →
      (resources.foldl readResource r).2 = (resources.foldl readResource r').2) := by
  simp only [foldl_readResource]
  constructor <;> intro h <;>
    obtain ⟨v, hv⟩ := Option.isSome_iff_exists.mp (lastNamed_isSome (·.name) (·.scalar) h) <;>
    simp [hv]

/-- One turn of the loop over the offers up to its scan: the variables read from `offer`, the
node's activity, and the scan. -/
def scanOffer (slaveId : String) (requestedTasks : List Task) (st : OffersState)
    (offer : Mesos.Offer) : Prog (Option Mesos.TaskInfo) := do
  let attributes := offer.attributes.foldl readAttribute st.attributes
  let resources := offer.resources.foldl readResource (st.offerCpus, st.offerMem)
  let active ← requestIsNodeActive attributes.nodeName
  let _ ← (if !active then
      sendUpdateNode attributes.nodeName attributes.nodeType attributes.nodeFunction offer.slaveId
    else pure ())
  matchTasks attributes resources.1 resources.2 slaveId requestedTasks

/-- The variables after the turn on `offer`, whose scan found `found`. -/
def OffersState.next (st : OffersState) (offer : Mesos.Offer) (found : Option Mesos.TaskInfo) :
    OffersState :=
  { st.record offer found with
    attributes := offer.attributes.foldl readAttribute st.attributes
    offerCpus := (offer.resources.foldl readResource (st.offerCpus, st.offerMem)).1
    offerMem := (offer.resources.foldl readResource (st.offerCpus, st.offerMem)).2 }

theorem offersLoop_cons (slaveId : String) (requestedTasks : List Task) (st : OffersState)
    (offer : Mesos.Offer) (offers : List Mesos.Offer) :
    offersLoop slaveId requestedTasks st (offer :: offers) =
      scanOffer slaveId requestedTasks st offer >>= fun found =>
        offersLoop slaveId requestedTasks (st.next offer found) offers := by
  simp only [offersLoop, scanOffer, OffersState.next, bind_assoc]

/-! ### The accept and decline lists -/

/-- The offers of `batch` that found a task, paired with their descriptors, in batch order, when
`found` holds what the scan gave each offer. -/
def accepted (batch : List Mesos.Offer) (found : List (Option Mesos.TaskInfo)) :
    List (String × Mesos.TaskInfo) :=
  (batch.zip found).filterMap fun p => p.2.map (p.1.id, ·)

/-- The ids of the offers of `batch` that found no task, in batch order. -/
def declined (batch : List Mesos.Offer) (found : List (Option Mesos.TaskInfo)) : List String :=
  (batch.zip found).filterMap fun p => if p.2.isNone then some p.1.id else none

@[simp] theorem accepted_cons (offer : Mesos.Offer) (batch : List Mesos.Offer)
    (f : Option Mesos.TaskInfo) (found : List (Option Mesos.TaskInfo)) :
    accepted (offer :: batch) (f :: found) = (f.map (offer.id, ·)).toList ++ accepted batch found := by
  cases f <;> rfl

@[simp] theorem declined_cons (offer : Mesos.Offer) (batch : List Mesos.Offer)
    (f : Option Mesos.TaskInfo) (found : List (Option Mesos.TaskInfo)) :
    declined (offer :: batch) (f :: found) =
      (if f.isNone then [offer.id] else []) ++ declined batch found := by
  cases f <;> rfl

/-! ### What the callback can do -/

/-- The requests that the callback sends once it holds the snapshot `requestedTasks`: readers,
`UpdateNode`, `Accepted` for a task of the snapshot, and a new node for a task of the snapshot
that was placed by type or function. -/
def OffersRequest (requestedTasks : List Task) : StateRequestMsg → Prop
  | .getRequestedTasks | .getIsNodeActive _ | .updateNode _ _ _ _ | .getTaskState _ => True
  | .updateTaskState taskName taskState =>
    taskState = .accepted ∧ ∃ task ∈ requestedTasks, task.name = taskName
  | .updateTaskNodeName taskName _ =>
    ∃ task ∈ requestedTasks, task.name = taskName ∧
      (task.nodeType.length > 0 || task.nodeFunction.length > 0)
  | _ => False

/-- A descriptor built for the slave `slaveId` from a task of the snapshot `requestedTasks`. -/
def Launchable (requestedTasks : List Task) (slaveId : String) (info : Mesos.TaskInfo) : Prop :=
  ∃ task ∈ requestedTasks, taskInfo task slaveId = .ok info

/-- A call whose launch, if it is one, carries only descriptors built from the snapshot. -/
def LaunchesFrom (requestedTasks : List Task) (slaveId : String) : Mesos.Call → Prop
  | .launch _ tasks => ∀ info ∈ tasks, Launchable requestedTasks slaveId info
  | _ => True

@[simp] theorem OffersState.record_tasksToStart (st : OffersState) (offer : Mesos.Offer)
    (found : Option Mesos.TaskInfo) : (st.record offer found).tasksToStart = st.tasksToStart ++ found.toList := by
  cases found <;> simp [OffersState.record]

section Spec

variable {snapshot : List Task}

theorem spec_dependencyRunning (task : Task) :
    (dependencyRunning task).Spec (OffersRequest snapshot) (fun _ => False) fun _ => True := by
  unfold dependencyRunning
  split
  · exact ⟨trivial, fun reply => by cases reply <;> trivial⟩
  · trivial

/-- `acceptTask` marks a task of the snapshot and returns the descriptor of that task. -/
theorem spec_acceptTask (attributes : Attributes) (slaveId : String) {task : Task}
    (ht : task ∈ snapshot) :
    (acceptTask attributes slaveId task).Spec (OffersRequest snapshot) (fun _ => False)
      fun info => taskInfo task slaveId = .ok info := by
  refine Spec.bind (R := fun _ => True) ⟨⟨rfl, task, ht, rfl⟩, fun _ => trivial⟩ fun _ _ =>
    Spec.bind (R := fun _ => True) ?_ fun _ _ => ?_
  · split
    · exact ⟨⟨task, ht, rfl, by assumption⟩, fun _ => trivial⟩
    · trivial
  · split <;> rename_i h
    · exact h
    · trivial

/-- The scan returns a descriptor built from the snapshot, or nothing. -/
theorem spec_matchTasks (attributes : Attributes) (offerCpus offerMem : F64) (slaveId : String)
    {requestedTasks : List Task} (h : requestedTasks ⊆ snapshot) :
    (matchTasks attributes offerCpus offerMem slaveId requestedTasks).Spec (OffersRequest snapshot)
      (fun _ => False) fun found => ∀ info ∈ found, Launchable snapshot slaveId info := by
  induction requestedTasks with
  | nil => exact fun _ h => nomatch h
  | cons task requestedTasks ih =>
    have ih := ih fun _ ht => h (.tail _ ht)
    unfold matchTasks
    split
    · exact ih
    · refine (spec_dependencyRunning task).bind fun _ _ => ?_
      split
      · exact ih
      · exact (spec_acceptTask attributes slaveId (h (.head _))).bind fun info hinfo _ hmem => by
          cases hmem
          exact ⟨task, h (.head _), hinfo⟩

/-- A turn scans and makes no call; what it finds is built from the snapshot. -/
theorem spec_scanOffer (slaveId : String) (st : OffersState) (offer : Mesos.Offer) :
    (scanOffer slaveId snapshot st offer).Spec (OffersRequest snapshot) (fun _ => False)
      fun found => ∀ info ∈ found, Launchable snapshot slaveId info := by
  refine ⟨trivial, fun reply => Spec.bind (R := fun _ => True) (by cases reply <;> trivial)
    fun _ _ => Spec.bind (R := fun _ => True) ?_ fun _ _ => spec_matchTasks _ _ _ _ (List.Subset.refl _)⟩
  split
  · exact ⟨trivial, fun _ => trivial⟩
  · trivial

/-- The loop adds to the descriptors only descriptors built from the snapshot, and makes no
call. -/
theorem spec_offersLoop (slaveId : String) (st : OffersState) (batch : List Mesos.Offer) :
    (offersLoop slaveId snapshot st batch).Spec (OffersRequest snapshot) (fun _ => False)
      fun st' => ∀ info ∈ st'.tasksToStart, info ∈ st.tasksToStart ∨ Launchable snapshot slaveId info := by
  induction batch generalizing st with
  | nil => exact fun _ h => .inl h
  | cons offer batch ih =>
    rw [offersLoop_cons]
    refine (spec_scanOffer slaveId st offer).bind fun found hfound =>
      (ih _).mono (fun _ h => h) (fun _ h => h) fun st' h info hi => ?_
    rcases h info hi with h | h
    · simp only [OffersState.next, OffersState.record_tasksToStart, List.mem_append,
        Option.mem_toList] at h
      exact h.imp_right (hfound info)
    · exact .inr h

end Spec

/-- On a batch that is not empty, the callback asks for its snapshot of the `Requested` tasks, and
then runs as a program that sends only the requests of `OffersRequest` for that snapshot and
launches only descriptors built from it. -/
theorem offers_cons (first : Mesos.Offer) (rest : List Mesos.Offer) :
    ∃ g : List Task → Prog Unit, offers (first :: rest) = requestListRequestedTasks >>= g ∧
      ∀ snapshot, (g snapshot).Spec (OffersRequest snapshot) (LaunchesFrom snapshot first.slaveId)
        fun _ => True := by
  refine ⟨_, rfl, fun snapshot => ?_⟩
  refine ((spec_offersLoop _ _ _).mono (fun _ h => h) (fun _ h => h.elim) fun st h => h).bind
    fun st hst => Spec.bind (R := fun _ => True) ?_ fun _ _ => ?_
  · split
    · exact spec_callUnwrap fun info hi => (hst info hi).resolve_left (by simp [OffersState.init])
    · trivial
  · split
    · exact spec_callUnwrap trivial
    · trivial

/-- After its snapshot of the `Requested` tasks, the callback runs as a program that sends only the
requests of `OffersRequest` for that snapshot and launches only descriptors built from it. -/
theorem offers_after_snapshot (env : Env) (state : State) (first : Mesos.Offer)
    (rest : List Mesos.Offer) :
    ∃ p : Prog Unit, run env (offers (first :: rest)) state = run env p state ∧
      p.Spec (OffersRequest (state.taskList.getTasksWithState .requested))
        (LaunchesFrom (state.taskList.getTasksWithState .requested) first.slaveId) fun _ => True := by
  obtain ⟨g, hg, hspec⟩ := offers_cons first rest
  have hs : serve state .getRequestedTasks =
      .ok (.getRequestedTasks (state.taskList.getTasksWithState .requested), state) := rfl
  rw [hg]
  exact ⟨_, run_request_ok env hs, hspec _⟩

variable (env : Env)

/-! ### What the scan takes -/

/-- What the scan asks of a task before it takes it for an offer read as the attributes
`attributes` and the resources `cpus` and `mem`, with the task table as `taskList`: each placement
constraint that is set names the offer's attribute, the dependency is `Running`, and neither
resource of the offer is below the task's need. -/
structure Fits (attributes : Attributes) (cpus mem : F64) (taskList : TaskList) (task : Task) : Prop where
  nodeName : task.nodeName.length > 0 → task.nodeName = attributes.nodeName
  nodeType : task.nodeType.length > 0 → task.nodeType = attributes.nodeType
  nodeFunction : task.nodeFunction.length > 0 → task.nodeFunction = attributes.nodeFunction
  dependency : task.dependentService.length > 0 →
    taskList.getTaskState task.dependentService = .running
  cpu : cpus.lt task.cpu = false
  memory : mem.lt task.memory = false

@[simp] theorem constraintFails_eq_false (constraint actual : String) :
    constraintFails constraint actual = false ↔ (constraint.length > 0 → constraint = actual) := by
  simp [constraintFails, imp_iff_not_or]

@[simp] theorem run_dependencyRunning (task : Task) (state : State) :
    run env (dependencyRunning task) state =
      ⟨.ok (if task.dependentService.length > 0 then
        state.taskList.getTaskState task.dependentService == .running else true), state, []⟩ := by
  unfold dependencyRunning
  split <;> rfl

/-- The accept step returns the descriptor of its task, or the panic of its parameter loop. -/
theorem run_acceptTask_result (attributes : Attributes) (slaveId : String) (task : Task)
    (state : State) : (run env (acceptTask attributes slaveId task) state).result = taskInfo task slaveId := by
  unfold acceptTask
  split <;> cases h : taskInfo task slaveId <;>
    simp [h, sendUpdateTaskState, sendUpdateTaskNodeName, run, serve, State.respond, Except.map]

/-- The task that the scan takes fits the offer, against the table as the scan found it: the
scan's own requests only read. -/
theorem matchTasks_fits {attributes : Attributes} {cpus mem : F64} {slaveId : String}
    {tasks : List Task} {state : State} {info : Mesos.TaskInfo}
    (h : (run env (matchTasks attributes cpus mem slaveId tasks) state).result = .ok (some info)) :
    ∃ task ∈ tasks, taskInfo task slaveId = .ok info ∧ Fits attributes cpus mem state.taskList task := by
  induction tasks with
  | nil => cases h
  | cons task tasks ih =>
    simp only [matchTasks] at h
    split_ifs at h with hplace
    · exact List.exists_mem_cons_of_exists (ih h)
    · rw [run_bind, run_dependencyRunning] at h
      dsimp only at h
      generalize hready : (if task.dependentService.length > 0 then
        state.taskList.getTaskState task.dependentService == .running else true) = ready at h
      split_ifs at h with hskip
      · exact List.exists_mem_cons_of_exists (ih h)
      · rw [run_map_result, run_acceptTask_result] at h
        have hinfo : taskInfo task slaveId = .ok info := by
          cases hi : taskInfo task slaveId <;> simp_all [Functor.map, Except.map]
        simp only [placementFails, Bool.not_eq_true, Bool.or_eq_false_iff, constraintFails_eq_false] at hplace
        simp only [Bool.not_eq_true, Bool.or_eq_false_iff, Bool.not_eq_false'] at hskip
        obtain ⟨⟨hname, htype⟩, hfunction⟩ := hplace
        refine ⟨task, .head _, hinfo, hname, htype, hfunction, fun hdep => ?_, hskip.1.2, hskip.2⟩
        simpa [hdep, hskip.1.1] using hready

/-- The task a turn takes fits the offer as the turn reads it, against the table the turn
started from: the turn changes only the node table before its scan. -/
theorem scanOffer_fits {slaveId : String} {requestedTasks : List Task} {st : OffersState}
    {offer : Mesos.Offer} {state : State} {info : Mesos.TaskInfo}
    (h : (run env (scanOffer slaveId requestedTasks st offer) state).result = .ok (some info)) :
    ∃ task ∈ requestedTasks, taskInfo task slaveId = .ok info ∧
      Fits (offer.attributes.foldl readAttribute st.attributes)
        (offer.resources.foldl readResource (st.offerCpus, st.offerMem)).1
        (offer.resources.foldl readResource (st.offerCpus, st.offerMem)).2 state.taskList task := by
  simp only [scanOffer, requestIsNodeActive, sendUpdateNode, request_bind, run, serve,
    State.respond, Except.map, ret_bind, Prog.bind, State.handle] at h
  split at h <;> simp only [request_bind, pure_eq, ret_bind, run, serve, State.respond, Except.map,
    Prog.bind] at h <;> exact (matchTasks_fits env h :)

/-- The run of the loop over `offer :: offers` is its turn on `offer` followed by the run over
`offers`. -/
theorem run_offersLoop_cons {slaveId : String} {requestedTasks : List Task} {st : OffersState}
    {offer : Mesos.Offer} (offers : List Mesos.Offer) {state : State} {found : Option Mesos.TaskInfo}
    (h : (run env (scanOffer slaveId requestedTasks st offer) state).result = .ok found) :
    run env (offersLoop slaveId requestedTasks st (offer :: offers)) state =
      run env (offersLoop slaveId requestedTasks (st.next offer found) offers)
        (run env (scanOffer slaveId requestedTasks st offer) state).state := by
  rw [offersLoop_cons, run_bind_local env (spec_scanOffer _ _ _) _ h]

/-- The loop over a batch adds to each list what the scan gave each offer, in batch order: the
offer at index `i` found `found[i]`, what its scan returned from the variables and the table the
loop over the offers before `i` left. -/
theorem offersLoop_scans {slaveId : String} {requestedTasks : List Task} {st st' : OffersState}
    {batch : List Mesos.Offer} {state : State}
    (h : (run env (offersLoop slaveId requestedTasks st batch) state).result = .ok st') :
    ∃ found : List (Option Mesos.TaskInfo), found.length = batch.length ∧
      st'.tasksToStart = st.tasksToStart ++ (accepted batch found).map Prod.snd ∧
      st'.offersToAccept = st.offersToAccept ++ (accepted batch found).map Prod.fst ∧
      st'.offersToDecline = st.offersToDecline ++ declined batch found ∧
      ∀ i offer, batch[i]? = some offer → ∃ stᵢ f,
        (run env (offersLoop slaveId requestedTasks st (batch.take i)) state).result = .ok stᵢ ∧
        found[i]? = some f ∧
        (run env (scanOffer slaveId requestedTasks stᵢ offer)
          (run env (offersLoop slaveId requestedTasks st (batch.take i)) state).state).result =
            .ok f := by
  induction batch generalizing st state with
  | nil =>
    cases h
    exact ⟨[], rfl, by simp [accepted], by simp [accepted], by simp [declined], fun _ _ h => nomatch h⟩
  | cons offer batch ih =>
    rw [offersLoop_cons] at h
    obtain ⟨f, hf, h⟩ := run_bind_ok env h
    obtain ⟨found, hlen, h1, h2, h3, hscans⟩ := ih h
    refine ⟨f :: found, by simp [hlen], ?_, ?_, ?_, ?_⟩
    · cases f <;> simp [h1, OffersState.next, OffersState.record]
    · cases f <;> simp [h2, OffersState.next, OffersState.record]
    · cases f <;> simp [h3, OffersState.next, OffersState.record]
    rintro (_ | i) offer' hoffer
    · simp only [List.getElem?_cons_zero, Option.some.injEq] at hoffer
      subst hoffer
      exact ⟨st, f, rfl, List.getElem?_cons_zero, hf⟩
    · rw [List.getElem?_cons_succ] at hoffer ⊢
      rw [List.take_succ_cons, run_offersLoop_cons env _ hf]
      exact hscans i offer' hoffer

/-- An offer at index `i` that found a descriptor found it for a task of the snapshot that fits the
offer as the loop read it, with the table as the loop over the offers before `i` left it. -/
theorem offersLoop_fits {slaveId : String} {requestedTasks : List Task} {st st' : OffersState}
    {batch : List Mesos.Offer} {state : State}
    (h : (run env (offersLoop slaveId requestedTasks st batch) state).result = .ok st') :
    ∃ found : List (Option Mesos.TaskInfo), found.length = batch.length ∧
      st'.tasksToStart = st.tasksToStart ++ (accepted batch found).map Prod.snd ∧
      st'.offersToAccept = st.offersToAccept ++ (accepted batch found).map Prod.fst ∧
      st'.offersToDecline = st.offersToDecline ++ declined batch found ∧
      ∀ i offer info, batch[i]? = some offer → found[i]? = some (some info) →
        ∃ stᵢ, (run env (offersLoop slaveId requestedTasks st (batch.take i)) state).result = .ok stᵢ ∧
          ∃ task ∈ requestedTasks, taskInfo task slaveId = .ok info ∧
            Fits (offer.attributes.foldl readAttribute stᵢ.attributes)
              (offer.resources.foldl readResource (stᵢ.offerCpus, stᵢ.offerMem)).1
              (offer.resources.foldl readResource (stᵢ.offerCpus, stᵢ.offerMem)).2
              (run env (offersLoop slaveId requestedTasks st (batch.take i)) state).state.taskList task := by
  obtain ⟨found, hlen, h1, h2, h3, hscans⟩ := offersLoop_scans env h
  refine ⟨found, hlen, h1, h2, h3, fun i offer info hoffer hinfo => ?_⟩
  obtain ⟨stᵢ, f, hᵢ, hf, hscan⟩ := hscans i offer hoffer
  cases hinfo.symm.trans hf
  exact ⟨stᵢ, hᵢ, scanOffer_fits env hscan⟩

/-- The attribute variables after the loop hold the offers' attributes read in turn. -/
theorem offersLoop_attributes {slaveId : String} {requestedTasks : List Task} {st st' : OffersState}
    {batch : List Mesos.Offer} {state : State}
    (h : (run env (offersLoop slaveId requestedTasks st batch) state).result = .ok st') :
    st'.attributes = batch.foldl (fun a offer => offer.attributes.foldl readAttribute a) st.attributes := by
  induction batch generalizing st state with
  | nil => cases h; rfl
  | cons offer batch ih =>
    rw [offersLoop_cons] at h
    obtain ⟨f, -, h⟩ := run_bind_ok env h
    exact ih h

/-- A list kept from the pairs of two lists of one length is empty exactly when no element of the
second list is one the filter keeps. -/
theorem zip_filterMap_ne_nil_iff {α β γ : Type} {g : α × β → Option γ} {p : β → Bool}
    (hg : ∀ a b, (g (a, b)).isSome = p b) :
    ∀ {as : List α} {bs : List β}, bs.length = as.length →
      ((as.zip bs).filterMap g ≠ [] ↔ bs.any p)
  | [], [], _ => by simp
  | a :: as, b :: bs, h => by
    have ih := zip_filterMap_ne_nil_iff hg (Nat.succ.inj h)
    rw [List.zip_cons_cons, List.filterMap_cons, List.any_cons, ← hg a b]
    cases g (a, b) <;> simp [ih]
  | [], _ :: _, h | _ :: _, [], h => nomatch h

theorem accepted_ne_nil_iff {batch : List Mesos.Offer} {found : List (Option Mesos.TaskInfo)}
    (h : found.length = batch.length) : accepted batch found ≠ [] ↔ found.any Option.isSome :=
  zip_filterMap_ne_nil_iff (fun _ f => by cases f <;> rfl) h

theorem declined_ne_nil_iff {batch : List Mesos.Offer} {found : List (Option Mesos.TaskInfo)}
    (h : found.length = batch.length) : declined batch found ≠ [] ↔ found.any Option.isNone :=
  zip_filterMap_ne_nil_iff (fun _ f => by cases f <;> rfl) h

/-- Whenever the offers callback returns, it has made at most one `launch` and at most one
`decline`.  `found[i]` is what the scan of offer `i` returned, from the snapshot of requested tasks
and the variables and table the loop over the offers before it left.  A launch is made exactly when
some offer found a task, and carries the ids of those offers and their descriptors, pairwise and in
batch order; a decline is made exactly when some offer found none, and carries their ids in batch
order. -/
theorem offers_launch_decline (state : State) (first : Mesos.Offer) (rest : List Mesos.Offer)
    (h : (run env (offers (first :: rest)) state).result = .ok ()) :
    ∃ found : List (Option Mesos.TaskInfo), found.length = (first :: rest).length ∧
      (∀ i offer, (first :: rest)[i]? = some offer → ∃ stᵢ f,
        (run env (offersLoop first.slaveId (state.taskList.getTasksWithState .requested)
          OffersState.init ((first :: rest).take i)) state).result = .ok stᵢ ∧
        found[i]? = some f ∧
        (run env (scanOffer first.slaveId (state.taskList.getTasksWithState .requested) stᵢ offer)
          (run env (offersLoop first.slaveId (state.taskList.getTasksWithState .requested)
            OffersState.init ((first :: rest).take i)) state).state).result = .ok f) ∧
      (run env (offers (first :: rest)) state).calls =
        (if found.any Option.isSome then
          [.launch ((accepted (first :: rest) found).map Prod.fst)
            ((accepted (first :: rest) found).map Prod.snd)] else []) ++
        (if found.any Option.isNone then [.decline (declined (first :: rest) found)] else []) := by
  have hreq : requestListRequestedTasks.Spec (fun _ => True) (fun _ => False) fun _ => True :=
    ⟨trivial, fun reply => by cases reply <;> trivial⟩
  have hsnap : (run env requestListRequestedTasks state).result =
      .ok (state.taskList.getTasksWithState .requested) := rfl
  simp only [offers] at h ⊢
  rw [run_bind_local env hreq _ hsnap] at h ⊢
  obtain ⟨st, hl, h⟩ := run_bind_ok env h
  rw [run_bind_local env (spec_offersLoop _ _ _) _ hl]
  obtain ⟨found, hlen, h1, h2, h3, hscans⟩ := offersLoop_scans env hl
  obtain ⟨u, hlaunch, h⟩ := run_bind_ok env h
  rw [run_ite_callUnwrap env hlaunch] at h
  rw [run_bind, run_ite_callUnwrap env hlaunch]
  dsimp only
  rw [run_ite_callUnwrap env h]
  simp only [OffersState.init, List.nil_append] at h1 h2 h3
  refine ⟨found, hlen, hscans, ?_⟩
  simp only [h1, h2, h3, List.length_map, gt_iff_lt, List.length_pos, ne_eq,
    ← ne_eq, accepted_ne_nil_iff hlen, declined_ne_nil_iff hlen]

/-- An offer of nothing from the slave `s1`. -/
def emptyOffer (id : String) : Mesos.Offer := ⟨id, "s1", [], []⟩

/-- An offer from the slave `s1` of one cpu and 1024 MB. -/
def sizedOffer (id : String) : Mesos.Offer :=
  ⟨id, "s1", [], [⟨"cpus", "*", ⟨0x3FF0000000000000⟩⟩, ⟨"mem", "*", ⟨0x4090000000000000⟩⟩]⟩

/-- An offer from the slave `s1` of half a cpu and 1024 MB. -/
def halfCpuOffer (id : String) : Mesos.Offer :=
  ⟨id, "s1", [], [⟨"cpus", "*", ⟨0x3FE0000000000000⟩⟩, ⟨"mem", "*", ⟨0x4090000000000000⟩⟩]⟩

/-- The task `dns-a` with a need of one cpu. -/
def oneCpuTask : Task := { dnsA with cpu := ⟨0x3FF0000000000000⟩ }

/-- A state whose one task, `task`, is requested. -/
def requestedOnly (task : Task) : State :=
  { State.new "" with taskList := (∅ : TaskList).addNewTask task }

/-- With `dns-a`, which needs one cpu, the one requested task, a batch of an offer of one cpu and
one of half a cpu returns: the first offer is matched and launched, the second declined. -/
theorem offers_launch_decline_split :
    (run ⟨fun _ => true, 0⟩ (offers [sizedOffer "o1", halfCpuOffer "o2"])
      (requestedOnly oneCpuTask)).result = .ok () ∧
    .decline ["o2"] ∈ (run ⟨fun _ => true, 0⟩ (offers [sizedOffer "o1", halfCpuOffer "o2"])
      (requestedOnly oneCpuTask)).calls ∧
    ∃ found : List (Option Mesos.TaskInfo), found.length = [sizedOffer "o1", halfCpuOffer "o2"].length ∧
      (∀ i offer, [sizedOffer "o1", halfCpuOffer "o2"][i]? = some offer → ∃ stᵢ f,
        (run ⟨fun _ => true, 0⟩ (offersLoop (sizedOffer "o1").slaveId
          ((requestedOnly oneCpuTask).taskList.getTasksWithState .requested) OffersState.init
          ([sizedOffer "o1", halfCpuOffer "o2"].take i)) (requestedOnly oneCpuTask)).result = .ok stᵢ ∧
        found[i]? = some f ∧
        (run ⟨fun _ => true, 0⟩ (scanOffer (sizedOffer "o1").slaveId
          ((requestedOnly oneCpuTask).taskList.getTasksWithState .requested) stᵢ offer)
          (run ⟨fun _ => true, 0⟩ (offersLoop (sizedOffer "o1").slaveId
            ((requestedOnly oneCpuTask).taskList.getTasksWithState .requested) OffersState.init
            ([sizedOffer "o1", halfCpuOffer "o2"].take i)) (requestedOnly oneCpuTask)).state).result =
              .ok f) ∧
      (run ⟨fun _ => true, 0⟩ (offers [sizedOffer "o1", halfCpuOffer "o2"])
        (requestedOnly oneCpuTask)).calls =
        (if found.any Option.isSome then
          [.launch ((accepted [sizedOffer "o1", halfCpuOffer "o2"] found).map Prod.fst)
            ((accepted [sizedOffer "o1", halfCpuOffer "o2"] found).map Prod.snd)] else []) ++
        (if found.any Option.isNone then
          [.decline (declined [sizedOffer "o1", halfCpuOffer "o2"] found)] else []) :=
  have h : (run ⟨fun _ => true, 0⟩ (offers [sizedOffer "o1", halfCpuOffer "o2"])
      (requestedOnly oneCpuTask)).result = .ok () := rfl
  ⟨h, by decide, offers_launch_decline _ _ _ _ h⟩

/-- The task ids a call launches. -/
def launchedTaskIds : Mesos.Call → List String
  | .launch _ tasks => tasks.map (·.taskId)
  | _ => []

/-- With `dns-a` the one requested task, a batch of two offers that both fit it launches it twice
in one call: the snapshot still holds it after the first offer marked it `Accepted`. -/
theorem offers_launches_dnsA_twice :
    (run ⟨fun _ => true, 0⟩ (offers [emptyOffer "o1", emptyOffer "o2"]) dnsARequested).calls.map
      launchedTaskIds = [["dns-a", "dns-a"]] := by
  decide

/-! ### What each launch fits

The scan takes a task for an offer when the offer's attributes match the task's placement, the
task's dependency is `Running` and neither of the offer's resources is below the task's need,
each resource compared with `<` as the source writes it.  On a batch of one slave's offers, all
with the slave's attributes, each offer is read as it is alone.  An offer that lacks a `cpus` or a
`mem` resource is another matter: the variable keeps the value of an earlier offer of the batch,
so the launch result speaks only of the resources an offer has. -/

/-- A launch the callback makes carries the accept lists of its loop over the batch. -/
theorem offers_launch_mem {state : State} {first : Mesos.Offer} {rest : List Mesos.Offer}
    {offerIds : List String} {infos : List Mesos.TaskInfo}
    (h : .launch offerIds infos ∈ (run env (offers (first :: rest)) state).calls) :
    ∃ st, (run env (offersLoop first.slaveId (state.taskList.getTasksWithState .requested)
      OffersState.init (first :: rest)) state).result = .ok st ∧
      offerIds = st.offersToAccept ∧ infos = st.tasksToStart := by
  have hs : serve state .getRequestedTasks =
      .ok (.getRequestedTasks (state.taskList.getTasksWithState .requested), state) := rfl
  simp only [offers, requestListRequestedTasks, request_bind, run_request_ok env hs, ret_bind] at h
  rcases mem_calls_bind env h with h | ⟨st, hl, h⟩
  · exact ((spec_offersLoop _ _ _).mem_calls env h).elim
  refine (Spec.mem_calls (P := fun _ => True) (R := fun _ => True) (Q := fun c =>
    c = .launch st.offersToAccept st.tasksToStart ∨ c = .decline st.offersToDecline) env ?_ h).elim
    (fun h => ?_) fun h => nomatch h
  · refine Spec.bind (R := fun _ => True) ?_ fun _ _ => ?_ <;> split
    · exact spec_callUnwrap (.inl rfl)
    · trivial
    · exact spec_callUnwrap (.inr rfl)
    · trivial
  · cases h
    exact ⟨st, hl, rfl, rfl⟩

/-- On a batch of offers of one slave that all carry the same attributes, each launch pairs the
accepted offers with descriptors of tasks of the snapshot, in batch order, and the task launched
on offer `i` fits it: its placement constraints that are set name the offer's attributes, its
dependency was `Running` when the loop reached offer `i`, and each resource the offer has is not
below the task's need. -/
theorem offers_launch_fits (state : State) (first : Mesos.Offer) (rest : List Mesos.Offer)
    (hbatch : ∀ offer ∈ first :: rest,
      offer.slaveId = first.slaveId ∧ offer.attributes = first.attributes)
    {offerIds : List String} {infos : List Mesos.TaskInfo}
    (hlaunch : .launch offerIds infos ∈ (run env (offers (first :: rest)) state).calls) :
    ∃ found : List (Option Mesos.TaskInfo), found.length = (first :: rest).length ∧
      offerIds = (accepted (first :: rest) found).map Prod.fst ∧
      infos = (accepted (first :: rest) found).map Prod.snd ∧
      ∀ i offer info, (first :: rest)[i]? = some offer → found[i]? = some (some info) →
        ∃ task ∈ state.taskList.getTasksWithState .requested,
          taskInfo task first.slaveId = .ok info ∧
          (task.nodeName.length > 0 → task.nodeName = (offerAttributes offer).nodeName) ∧
          (task.nodeType.length > 0 → task.nodeType = (offerAttributes offer).nodeType) ∧
          (task.nodeFunction.length > 0 → task.nodeFunction = (offerAttributes offer).nodeFunction) ∧
          (task.dependentService.length > 0 →
            (run env (offersLoop first.slaveId (state.taskList.getTasksWithState .requested)
              OffersState.init ((first :: rest).take i)) state).state.taskList.getTaskState
                task.dependentService = .running) ∧
          ((∃ r ∈ offer.resources, r.name = "cpus") → (offerResources offer).1.lt task.cpu = false) ∧
          ((∃ r ∈ offer.resources, r.name = "mem") → (offerResources offer).2.lt task.memory = false) := by
  obtain ⟨st, hl, hids, hinfos⟩ := offers_launch_mem env hlaunch
  obtain ⟨found, hlen, h1, h2, -, hfits⟩ := offersLoop_fits env hl
  refine ⟨found, hlen, hids.trans (by simpa [OffersState.init] using h2),
    hinfos.trans (by simpa [OffersState.init] using h1), fun i offer info hoffer hinfo => ?_⟩
  obtain ⟨stᵢ, hᵢ, task, ht, htinfo, hfit⟩ := hfits i offer info hoffer hinfo
  have hsame : ∀ o ∈ first :: rest, o.attributes = first.attributes := fun o ho => (hbatch o ho).2
  have hattrs : offer.attributes.foldl readAttribute stᵢ.attributes = offerAttributes offer := by
    rw [offersLoop_attributes env hᵢ, offerAttributes, hsame offer (List.getElem?_mem hoffer),
      foldl_readAttribute_uniform fun o ho => hsame o (List.mem_of_mem_take ho)]
  have hres := foldl_readResource_start offer.resources (stᵢ.offerCpus, stᵢ.offerMem)
    (OffersState.init.offerCpus, OffersState.init.offerMem)
  rw [hattrs] at hfit
  exact ⟨task, ht, htinfo, hfit.nodeName, hfit.nodeType, hfit.nodeFunction, hfit.dependency,
    fun hc => hres.1 hc ▸ hfit.cpu, fun hm => hres.2 hm ▸ hfit.memory⟩

/-- The descriptor of `dns-a` on the slave `s1`. -/
def dnsAInfo : Mesos.TaskInfo :=
  { name := "dns-a", taskId := "dns-a", slaveId := "s1",
    command := { shell := false, arguments := [] },
    container :=
      { fieldType := .docker,
        docker := { image := "dns:1", privileged := false, network := some .host, parameters := [] },
        volumes := [] },
    resources := [⟨"mem", "*", F64.zero⟩, ⟨"cpus", "*", F64.zero⟩] }

theorem offers_launch_fits_dnsA :
    (∀ offer ∈ [sizedOffer "o1"],
      offer.slaveId = (sizedOffer "o1").slaveId ∧ offer.attributes = (sizedOffer "o1").attributes) ∧
    .launch ["o1"] [dnsAInfo] ∈ (run ⟨fun _ => true, 0⟩ (offers [sizedOffer "o1"]) dnsARequested).calls ∧
    ∃ found : List (Option Mesos.TaskInfo), found.length = [sizedOffer "o1"].length ∧
      ["o1"] = (accepted [sizedOffer "o1"] found).map Prod.fst ∧
      [dnsAInfo] = (accepted [sizedOffer "o1"] found).map Prod.snd ∧
      ∀ i offer info, [sizedOffer "o1"][i]? = some offer → found[i]? = some (some info) →
        ∃ task ∈ dnsARequested.taskList.getTasksWithState .requested,
          taskInfo task (sizedOffer "o1").slaveId = .ok info ∧
          (task.nodeName.length > 0 → task.nodeName = (offerAttributes offer).nodeName) ∧
          (task.nodeType.length > 0 → task.nodeType = (offerAttributes offer).nodeType) ∧
          (task.nodeFunction.length > 0 → task.nodeFunction = (offerAttributes offer).nodeFunction) ∧
          (task.dependentService.length > 0 →
            (run ⟨fun _ => true, 0⟩ (offersLoop (sizedOffer "o1").slaveId
              (dnsARequested.taskList.getTasksWithState .requested) OffersState.init
              ([sizedOffer "o1"].take i)) dnsARequested).state.taskList.getTaskState
                task.dependentService = .running) ∧
          ((∃ r ∈ offer.resources, r.name = "cpus") → (offerResources offer).1.lt task.cpu = false) ∧
          ((∃ r ∈ offer.resources, r.name = "mem") → (offerResources offer).2.lt task.memory = false) :=
  have hbatch : ∀ offer ∈ [sizedOffer "o1"],
      offer.slaveId = (sizedOffer "o1").slaveId ∧ offer.attributes = (sizedOffer "o1").attributes := by
    simp
  have hlaunch : .launch ["o1"] [dnsAInfo] ∈
      (run ⟨fun _ => true, 0⟩ (offers [sizedOffer "o1"]) dnsARequested).calls := by decide
  ⟨hbatch, hlaunch, offers_launch_fits _ dnsARequested (sizedOffer "o1") [] hbatch hlaunch⟩

/-- The offers a call launches on, each with the task it launches there. -/
def launchedPairs : Mesos.Call → List (String × String)
  | .launch offerIds tasks => offerIds.zip (tasks.map (·.taskId))
  | _ => []

/-- The task `dns-a` with a cpu need that is a NaN. -/
def nanCpuTask : Task := { dnsA with cpu := ⟨0x7FF8000000000000⟩ }

/-- Two offers of `s1` with no attributes, the first of one cpu and the second of none, both
launch `dns-a`, which needs one cpu: the second is judged on the cpus of the first, where an
offer read alone has `0.0`.  And `dns-a` with a NaN cpu need is launched on an offer of one cpu,
since `offer_cpus < task.cpu` is false for a NaN, though `task.cpu <= offer_cpus` is false too. -/
theorem offers_launch_unfit :
    (∀ offer ∈ [sizedOffer "o1", emptyOffer "o2"], offer.slaveId = "s1" ∧ offer.attributes = []) ∧
    (run ⟨fun _ => true, 0⟩ (offers [sizedOffer "o1", emptyOffer "o2"]) (requestedOnly oneCpuTask)).calls.flatMap
      launchedPairs = [("o1", "dns-a"), ("o2", "dns-a")] ∧
    oneCpuTask.cpu.le (offerResources (emptyOffer "o2")).1 = false ∧
    (run ⟨fun _ => true, 0⟩ (offers [sizedOffer "o1"]) (requestedOnly nanCpuTask)).calls.flatMap
      launchedPairs = [("o1", "dns-a")] ∧
    nanCpuTask.cpu.le (offerResources (sizedOffer "o1")).1 = false := by
  decide

/-! ### What the callback does to the task table -/

/-- How the callback may leave the task table `after` that it found as `before`: every entry is
as it was, except that an entry that was `Requested` may now be `Accepted` and, when its task is
placed by node type or function, have another node name.  No entry is added or removed. -/
def Touched (before after : TaskList) : Prop :=
  ∀ n, after.lookup n = before.lookup n ∨
    ∃ task, before.lookup n = some task ∧ task.state = .requested ∧
      ∃ taskState nodeName,
        after.lookup n = some { task with state := taskState, nodeName := nodeName } ∧
        (taskState = .requested ∨ taskState = .accepted) ∧
        (nodeName = task.nodeName ∨ task.nodeType.length > 0 ∨ task.nodeFunction.length > 0)

/-- A task of the snapshot is the `Requested` entry filed under its name. -/
theorem lookup_of_mem_getTasksWithState {taskList : TaskList}
    (hnames : EntriesSatisfy taskList fun n task => task.name = n) {task : Task}
    (ht : task ∈ taskList.getTasksWithState .requested) :
    taskList.lookup task.name = some task ∧ task.state = .requested := by
  simp only [TaskList.getTasksWithState, List.mem_filter, beq_iff_eq] at ht
  obtain ⟨k, hk⟩ := mem_values.mp ht.1
  rw [hnames k task hk]
  exact ⟨hk, ht.2⟩

/-- Each request of the callback keeps the table `Touched` from where the snapshot was taken. -/
theorem touched_handle {before : TaskList} (hnames : EntriesSatisfy before fun n task => task.name = n)
    {state : State} (h : Touched before state.taskList) {request : StateRequestMsg}
    (hr : OffersRequest (before.getTasksWithState .requested) request) :
    Touched before (state.handle request).taskList := by
  cases request with
  | updateTaskState taskName taskState =>
    obtain ⟨rfl, task, hmem, rfl⟩ := hr
    obtain ⟨hb, hreq⟩ := lookup_of_mem_getTasksWithState hnames hmem
    intro n
    simp only [State.handle, updateTaskState_taskList, TaskList.lookup_setTaskState]
    split_ifs with hn
    · subst hn
      refine .inr ⟨task, hb, hreq, ?_⟩
      rcases h task.name with h | ⟨task', hb', -, taskState, nodeName, h, -, hnode⟩
      · exact ⟨.accepted, task.nodeName, by rw [h, hb]; rfl, .inr rfl, .inl rfl⟩
      · cases hb.symm.trans hb'
        exact ⟨.accepted, nodeName, by rw [h]; rfl, .inr rfl, hnode⟩
    · exact h n
  | updateTaskNodeName taskName nodeName =>
    obtain ⟨task, hmem, rfl, hplaced⟩ := hr
    obtain ⟨hb, hreq⟩ := lookup_of_mem_getTasksWithState hnames hmem
    have hplaced : task.nodeType.length > 0 ∨ task.nodeFunction.length > 0 := by simpa using hplaced
    intro n
    simp only [State.handle, TaskList.lookup_setTaskNodeName]
    split_ifs with hn
    · subst hn
      refine .inr ⟨task, hb, hreq, ?_⟩
      rcases h task.name with h | ⟨task', hb', -, taskState, _, h, hstate, -⟩
      · exact ⟨.requested, nodeName, by rw [h, hb, ← hreq]; rfl, .inl rfl, .inr hplaced⟩
      · cases hb.symm.trans hb'
        exact ⟨taskState, nodeName, by rw [h]; rfl, hstate, .inr hplaced⟩
    · exact h n
  | getRequestedTasks | getIsNodeActive | updateNode | getTaskState => exact h
  | _ => exact hr.elim

/-- The callback is not atomic, but what it leaves behind is bounded: whether it returns or
panics, building a descriptor or unwrapping a failed `launch` or `decline`, it leaves the task
table `Touched`, each entry as it was or a `Requested` entry made `Accepted` and perhaps re-pinned
to an offer's node, with no entry added or removed.  A panic after a match leaves that match
`Accepted` without a launch. -/
theorem offers_touches_requested (state : State) (batch : List Mesos.Offer)
    (hnames : EntriesSatisfy state.taskList fun n task => task.name = n) :
    Touched state.taskList (run env (offers batch) state).state.taskList := by
  match batch with
  | [] => exact fun n => .inl rfl
  | first :: rest =>
    obtain ⟨p, hp, hspec⟩ := offers_after_snapshot env state first rest
    rw [hp]
    exact hspec.run_state env (I := fun s => Touched state.taskList s.taskList)
      (fun s _ hr hs => touched_handle hnames hs hr) fun n => .inl rfl

theorem offers_touches_requested_dnsA :
    EntriesSatisfy dnsARequested.taskList (fun n task => task.name = n) ∧
    Touched dnsARequested.taskList
      (run ⟨fun _ => false, 0⟩ (offers [emptyOffer "o1"]) dnsARequested).state.taskList :=
  have h : EntriesSatisfy dnsARequested.taskList (fun n task => task.name = n) :=
    (entriesSatisfy_empty _).insert rfl
  ⟨h, offers_touches_requested _ dnsARequested _ h⟩

/-- Two callbacks that panic after matching `dns-a` to the one offer: one whose `launch` call
fails, and one whose parameter string `--privileged` has a key without a value.  Each leaves
`dns-a` `Accepted`, with no launch. -/
theorem offers_panic_leaves_accepted :
    ((run ⟨fun _ => false, 0⟩ (offers [emptyOffer "o1"]) dnsARequested).result.toOption = none ∧
      (run ⟨fun _ => false, 0⟩ (offers [emptyOffer "o1"]) dnsARequested).state.taskList.getTaskState
        "dns-a" = .accepted) ∧
    ((run ⟨fun _ => true, 0⟩ (offers [emptyOffer "o1"])
        { State.new "" with
          taskList := (∅ : TaskList).addNewTask { dnsA with parameters := "--privileged" } }).result.toOption =
        none ∧
      (run ⟨fun _ => true, 0⟩ (offers [emptyOffer "o1"])
        { State.new "" with
          taskList := (∅ : TaskList).addNewTask { dnsA with parameters := "--privileged" } }).calls = [] ∧
      (run ⟨fun _ => true, 0⟩ (offers [emptyOffer "o1"])
        { State.new "" with
          taskList := (∅ : TaskList).addNewTask { dnsA with parameters := "--privileged" } }).state.taskList.getTaskState
        "dns-a" = .accepted) := by
  decide

end TorcScheduler

end Torc
