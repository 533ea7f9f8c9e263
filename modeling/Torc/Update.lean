import Torc.Client

/-! The status-update callback of `scheduler/scheduler_impl.rs` and the inspect-data handler of
`utils/docker.rs`, with the JSON values of `rustc_serialize` that the handler walks.

`update` reads the task name from the status's task id.  On `TASK_RUNNING` it decodes the
status's data, the output of `docker inspect`, takes the container id, its hostname and its ip on
the `torc` network from the first element of the array, falls back to the ip of the node named by
the hostname when the container has none, files id, ip and slave with `UpdateTaskInfo`, and then
sets the task `Running`.  On `TASK_KILLED` it removes the entry.  Every other status, and
`TASK_FINISHED` whose handler is commented out, changes nothing.  Each `unwrap` of the handler is
a panic of the callback's thread.

The bytes are decoded by the library (`String::from_utf8`, then `Json::from_str`); the model takes
that decoder as a parameter, with the message of its error. -/

namespace Torc

/-- `rustc_serialize::json::Json`.  An object is the list of its members; the source only looks
members up. -/
inductive Json where
  | i64 (n : Int)
  | u64 (n : Nat)
  | f64 (x : F64)
  | string (s : String)
  | boolean (b : Bool)
  | array (items : List Json)
  | object (members : List (String × Json))
  | null
  deriving Repr

namespace Json

/-- `Json::find`: the member `key` of an object; nothing for any other value. -/
def find (key : String) : Json → Option Json
  | .object members => members.lookup key
  | _ => none

/-- `Json::find_path`: the value reached by looking up each key in turn. -/
def findPath : Json → List String → Option Json
  | target, [] => some target
  | target, key :: keys =>
    match target.find key with
    | some target => findPath target keys
    | none => none

/-- `Json::as_array`. -/
def asArray : Json → Option (List Json)
  | .array items => some items
  | _ => none

/-- `Json::as_string`. -/
def asString : Json → Option String
  | .string s => some s
  | _ => none

end Json

namespace StateManager

open Prog

/-- The ip of the container on the `torc` network: `""` when the inspect data has none, nothing
when it is not a string (the `unwrap` that panics). -/
def torcIp (container : Json) : Option String :=
  match container.findPath ["NetworkSettings", "Networks", "torc", "IPAddress"] with
  | none => some ""
  | some ip => ip.asString

/-- `utils::handle_inspect_data` on the decoded inspect data `json` of the task `taskName` that
runs on the slave `slaveId`. -/
def handleInspectData (json : Json) (taskName slaveId : String) : Prog Unit :=
  match json.asArray with
  | none => Prog.panic unwrapNone
  | some [] => Prog.panic (indexOutOfBounds 0 0)
  | some (container :: _) =>
    match (container.findPath ["Id"]).bind Json.asString,
        (container.findPath ["Config", "Hostname"]).bind Json.asString, torcIp container with
    | some id, some nodeName, some newIp => do
      let newIp ← (if newIp.length = 0 then do
          let node ← requestNode nodeName
          ret ((node.map (·.ip)).getD newIp)
        else ret newIp)
      sendUpdateTaskInfo taskName id newIp slaveId
    | _, _, _ => Prog.panic unwrapNone

end StateManager

namespace TorcScheduler

open Prog StateManager

/-- `TorcScheduler::update` on the status `status`, with `decode` the library's decoding of the
inspect data. -/
def update (decode : List UInt8 → Except String Json) (status : Mesos.TaskStatus) : Prog Unit :=
  match status.state with
  | .taskRunning => do
    let _ ← (match decode status.data with
      | .ok json => handleInspectData json status.taskId status.slaveId
      | .error e => Prog.panic (unwrapFailed e))
    sendUpdateTaskState status.taskId .running
  | .taskKilled => sendRemoveTaskByName status.taskId
  | _ => pure ()

/-- The requests `update` sends: the readers and writers of the inspect-data handler,
`Running`, and the removal of a killed task. -/
def UpdateRequest : StateRequestMsg → Prop
  | .getNode _ | .updateTaskInfo _ _ _ _ | .removeTask _ => True
  | .updateTaskState _ taskState => taskState = .running
  | _ => False

theorem spec_update (decode : List UInt8 → Except String Json) (status : Mesos.TaskStatus) :
    (update decode status).Spec UpdateRequest (fun _ => False) fun _ => True := by
  have hinfo : ∀ taskName id ip slaveId,
      (sendUpdateTaskInfo taskName id ip slaveId).Spec UpdateRequest (fun _ => False) fun _ => True :=
    fun _ _ _ _ => ⟨trivial, fun _ => trivial⟩
  have hnode : ∀ nodeName,
      (requestNode nodeName).Spec UpdateRequest (fun _ => False) fun _ => True :=
    fun _ => ⟨trivial, fun reply => by cases reply <;> trivial⟩
  unfold update
  split
  · refine Spec.bind (R := fun _ => True) ?_ fun _ _ => ⟨rfl, fun _ => trivial⟩
    split
    · unfold handleInspectData
      split <;> try trivial
      split <;> try trivial
      refine Spec.bind (R := fun _ => True) ?_ fun _ _ => hinfo _ _ _ _
      split
      · exact (hnode _).bind fun _ _ => trivial
      · trivial
    · trivial
  · exact ⟨trivial, fun _ => trivial⟩
  · trivial

/-! ### The `TASK_RUNNING` status

`update` files what the inspect data says of the container and then sets the task `Running`.  The
ip filed is the container's ip on the `torc` network, or, when it has none, the ip of the node its
hostname names.  Every `unwrap` on the way is a panic: a payload the decoder rejects, an inspect
array that is empty, a container without a string id or hostname, and a hostname that names no
node when the ip is needed.  Then nothing is filed and the task stays in its state. -/

section Running

variable (env : Env)

/-- The ip that `handle_inspect_data` files for a container with ip `ip` on the host `nodeName`. -/
def filedIp (ip nodeName : String) (state : State) : String :=
  if ip.length = 0 then ((state.nodeList.lookup nodeName).map (·.ip)).getD ip else ip

@[simp] theorem run_sendUpdateTaskInfo (taskName id ip slaveId : String) (state : State) :
    run env (sendUpdateTaskInfo taskName id ip slaveId) state =
      ⟨.ok (), state.handle (.updateTaskInfo taskName id ip slaveId), []⟩ := rfl

@[simp] theorem run_sendUpdateTaskState (taskName : String) (taskState : TaskState) (state : State) :
    run env (sendUpdateTaskState taskName taskState) state =
      ⟨.ok (), state.handle (.updateTaskState taskName taskState), []⟩ := rfl

/-- The handler on inspect data whose first container has a string id, a string hostname and a
well-typed ip, when the node is there if its ip is needed. -/
theorem run_handleInspectData {container : Json} (rest : List Json) {id nodeName ip : String}
    (hid : (container.findPath ["Id"]).bind Json.asString = some id)
    (hhost : (container.findPath ["Config", "Hostname"]).bind Json.asString = some nodeName)
    (hip : torcIp container = some ip) (taskName slaveId : String) {state : State}
    (hnode : ip.length = 0 → nodeName ∈ state.nodeList) :
    run env (handleInspectData (.array (container :: rest)) taskName slaveId) state =
      ⟨.ok (), state.handle (.updateTaskInfo taskName id (filedIp ip nodeName state) slaveId), []⟩ := by
  simp only [handleInspectData, Json.asArray, hid, hhost, hip, filedIp]
  rw [run_bind]
  by_cases h0 : ip.length = 0
  · obtain ⟨node, hlookup⟩ := Option.isSome_iff_exists.mp (AList.lookup_isSome.mpr (hnode h0))
    have hserve : serve state (.getNode nodeName) = .ok (.getNode node, state) := by
      simp [serve, State.respond, NodeList.getNode, hlookup, Except.map, State.handle]
    simp [h0, requestNode, run_bind, run_request_ok env hserve, hlookup]
  · simp [h0]

/-- `update` on a `TASK_RUNNING` status whose inspect data the handler accepts: the info is filed,
then the task is set `Running`, with no call to the master. -/
theorem run_update_running (decode : List UInt8 → Except String Json) {status : Mesos.TaskStatus}
    (hrunning : status.state = .taskRunning) {container : Json} {rest : List Json}
    (hjson : decode status.data = .ok (.array (container :: rest))) {id nodeName ip : String}
    (hid : (container.findPath ["Id"]).bind Json.asString = some id)
    (hhost : (container.findPath ["Config", "Hostname"]).bind Json.asString = some nodeName)
    (hip : torcIp container = some ip) {state : State} (hnode : ip.length = 0 → nodeName ∈ state.nodeList) :
    run env (update decode status) state =
      ⟨.ok (), (state.handle (.updateTaskInfo status.taskId id (filedIp ip nodeName state)
        status.slaveId)).handle (.updateTaskState status.taskId .running), []⟩ := by
  simp only [update, hrunning, hjson]
  rw [run_bind, run_handleInspectData env rest hid hhost hip _ _ hnode]
  rfl

/-- On a `TASK_RUNNING` status for a task with an entry, whose inspect data has a first container
with a string id, a string hostname and an ip on `torc` that is a string or absent, `update` sets
the task `Running` and files the id and the slave when they are non-empty, and as ip the
container's ip when it is non-empty, else the ip of the node the hostname names when that is
non-empty.  The rest of the entry, the other entries and the node table stay as they were.  The
hostname must name a node when the ip is needed. -/
theorem update_running_files_info (decode : List UInt8 → Except String Json)
    {status : Mesos.TaskStatus} (hrunning : status.state = .taskRunning) {state : State}
    {task : Task} (htask : state.taskList.lookup status.taskId = some task) {container : Json}
    {rest : List Json} (hjson : decode status.data = .ok (.array (container :: rest)))
    {id nodeName ip : String} (hid : (container.findPath ["Id"]).bind Json.asString = some id)
    (hhost : (container.findPath ["Config", "Hostname"]).bind Json.asString = some nodeName)
    (hip : torcIp container = some ip) (hnode : ip.length = 0 → nodeName ∈ state.nodeList) :
    let after := run env (update decode status) state
    let nodeIp := ((state.nodeList.lookup nodeName).map (·.ip)).getD ""
    after.result = .ok () ∧
    after.state.taskList.lookup status.taskId =
      some { task with
        state := .running
        id := if id.length > 0 then id else task.id
        ip := if ip.length > 0 then ip else if nodeIp.length > 0 then nodeIp else task.ip
        slaveId := if status.slaveId.length > 0 then status.slaveId else task.slaveId } ∧
    (∀ n ≠ status.taskId, after.state.taskList.lookup n = state.taskList.lookup n) ∧
    after.state.nodeList = state.nodeList := by
  intro after nodeIp
  have hrun : after = _ := run_update_running env decode hrunning hjson hid hhost hip hnode
  refine ⟨by rw [hrun], ?_, fun n hn => by simp [hrun, State.handle, hn], by simp [hrun, State.handle]⟩
  have hfiled : filedIp ip nodeName state = if ip.length > 0 then ip else nodeIp := by
    obtain ⟨_ | ⟨c, cs⟩⟩ := ip <;> simp [filedIp, nodeIp]
  simp only [hrun, State.handle, updateTaskState_taskList, TaskList.lookup_setTaskState,
    TaskList.lookup_setTaskInfo, htask, hfiled, if_true, Option.map_some']
  by_cases hpos : ip.length > 0 <;> simp [hpos]

/-- The bytes of an ASCII text. -/
def asciiBytes (text : String) : List UInt8 := text.data.map fun c => c.toNat.toUInt8

/-- A decoder that knows one payload: the bytes of `text`, which decode to `json`. -/
def decodeText (text : String) (json : Json) (data : List UInt8) : Except String Json :=
  if data = asciiBytes text then .ok json else .error "SyntaxError"

/-- The state after `dns-a` was requested and matched to an offer. -/
def dnsAAccepted : State :=
  ((State.new "").handle (.startTask dnsA)).handle (.updateTaskState "dns-a" .accepted)

/-- The status `TASK_RUNNING` of `dns-a` on the slave `s1`, with the payload `data`. -/
def dnsARunningStatus (data : List UInt8) : Mesos.TaskStatus := ⟨"dns-a", .taskRunning, "s1", data⟩

/-- The inspect data of the container `c1f3` on the host `n1`, with the ip `10.0.0.7` on `torc`. -/
def c1f3Text : String :=
  "[\x7b\"Id\":\"c1f3\",\"Config\":\x7b\"Hostname\":\"n1\"\x7d,\"NetworkSettings\":" ++
    "\x7b\"Networks\":\x7b\"torc\":\x7b\"IPAddress\":\"10.0.0.7\"\x7d\x7d\x7d\x7d]"

/-- The first element of `c1f3Text`, decoded. -/
def c1f3Container : Json :=
  .object [("Id", .string "c1f3"), ("Config", .object [("Hostname", .string "n1")]),
    ("NetworkSettings", .object [("Networks", .object [("torc", .object [("IPAddress", .string "10.0.0.7")])])])]

theorem update_running_files_info_c1f3 :
    (dnsARunningStatus (asciiBytes c1f3Text)).state = .taskRunning ∧
    dnsAAccepted.taskList.lookup "dns-a" = some { dnsA with state := .accepted } ∧
    decodeText c1f3Text (.array [c1f3Container]) (asciiBytes c1f3Text) = .ok (.array [c1f3Container]) ∧
    (c1f3Container.findPath ["Id"]).bind Json.asString = some "c1f3" ∧
    (c1f3Container.findPath ["Config", "Hostname"]).bind Json.asString = some "n1" ∧
    torcIp c1f3Container = some "10.0.0.7" ∧ ("10.0.0.7".length = 0 → "n1" ∈ dnsAAccepted.nodeList) ∧
    let after := run ⟨fun _ => true, 0⟩
      (update (decodeText c1f3Text (.array [c1f3Container])) (dnsARunningStatus (asciiBytes c1f3Text)))
      dnsAAccepted
    let nodeIp := ((dnsAAccepted.nodeList.lookup "n1").map (·.ip)).getD ""
    after.result = .ok () ∧
    after.state.taskList.lookup "dns-a" =
      some { dnsA with
        state := .running
        id := if "c1f3".length > 0 then "c1f3" else dnsA.id
        ip := if "10.0.0.7".length > 0 then "10.0.0.7" else if nodeIp.length > 0 then nodeIp else dnsA.ip
        slaveId := if "s1".length > 0 then "s1" else dnsA.slaveId } ∧
    (∀ n ≠ "dns-a", after.state.taskList.lookup n = dnsAAccepted.taskList.lookup n) ∧
    after.state.nodeList = dnsAAccepted.nodeList :=
  have htask : dnsAAccepted.taskList.lookup "dns-a" = some { dnsA with state := .accepted } := rfl
  have hjson : decodeText c1f3Text (.array [c1f3Container]) (asciiBytes c1f3Text) =
      .ok (.array [c1f3Container]) := if_pos rfl
  have hrunning : (dnsARunningStatus (asciiBytes c1f3Text)).state = .taskRunning := rfl
  have hnode : "10.0.0.7".length = 0 → "n1" ∈ dnsAAccepted.nodeList := fun h => absurd h (by decide)
  ⟨hrunning, htask, hjson, rfl, rfl, rfl, hnode,
    update_running_files_info ⟨fun _ => true, 0⟩ (decodeText c1f3Text (.array [c1f3Container]))
      hrunning htask hjson rfl rfl rfl hnode⟩

/-- The payload `[{}]`: an inspect array whose container has no id. -/
def emptyContainerText : String := "[\x7b\x7d]"

/-- The inspect data of the container `c2` on the host `ghost`, with no ip on `torc`. -/
def ghostText : String := "[\x7b\"Id\":\"c2\",\"Config\":\x7b\"Hostname\":\"ghost\"\x7d\x7d]"

/-- The first element of `ghostText`, decoded. -/
def ghostContainer : Json := .object [("Id", .string "c2"), ("Config", .object [("Hostname", .string "ghost")])]

/-- A `TASK_RUNNING` status for `dns-a` whose inspect data is `[{}]` panics at the missing id, and
one whose container has no ip on `torc` and names the host `ghost`, which is no node, panics at
the node's reply; either way `dns-a` stays `Accepted`. -/
theorem update_running_missing_fields_fail :
    (run ⟨fun _ => true, 0⟩ (update (decodeText emptyContainerText (.array [.object []]))
        (dnsARunningStatus (asciiBytes emptyContainerText))) dnsAAccepted).result = .error unwrapNone ∧
    ((run ⟨fun _ => true, 0⟩ (update (decodeText emptyContainerText (.array [.object []]))
        (dnsARunningStatus (asciiBytes emptyContainerText))) dnsAAccepted).state.taskList.lookup
        "dns-a").map (·.state) = some .accepted ∧
    (run ⟨fun _ => true, 0⟩ (update (decodeText ghostText (.array [ghostContainer]))
        (dnsARunningStatus (asciiBytes ghostText))) dnsAAccepted).result =
      .error (unwrapFailed "RecvError") ∧
    ((run ⟨fun _ => true, 0⟩ (update (decodeText ghostText (.array [ghostContainer]))
        (dnsARunningStatus (asciiBytes ghostText))) dnsAAccepted).state.taskList.lookup
        "dns-a").map (·.state) = some .accepted :=
  ⟨rfl, rfl, rfl, rfl⟩

end Running

end TorcScheduler

end Torc
