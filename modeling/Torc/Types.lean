import Torc.Rust

/-! The records of the scheduler: the task and node records that the State Actor stores
(`state/task_list.rs`, `state/node_list.rs`), the task descriptor read from the configuration
(`utils/config.rs`), and the Mesos protobuf messages that the scheduler reads from offers and
status updates and writes into launch calls.  Only the fields that the code reads or writes are
kept of the protobuf messages. -/

namespace Torc

/-- `state::TaskState`: the life of a task entry, from the table's point of view. -/
inductive TaskState where
  | notRunning
  | requested
  | accepted
  | running
  deriving DecidableEq, Repr

/-- `SLA`: how many copies of a system service the health supervisor keeps. -/
inductive SLA where
  | none
  | singletonEachNode
  | singletonEachSlave
  deriving DecidableEq, Repr

/-- `task_list::Volume`. -/
structure Volume where
  hostPath : String
  containerPath : String
  readOnlyMode : Bool
  deriving DecidableEq, Repr

/-- `task_list::Task`, the record of the task table. -/
structure Task where
  name : String
  controller : String
  id : String
  image : String
  nodeName : String
  nodeType : String
  nodeFunction : String
  dependentService : String
  arguments : String
  parameters : String
  memory : F64
  cpu : F64
  volumes : List Volume
  privileged : Bool
  sla : SLA
  isMetered : Bool
  isSystemService : Bool
  isJob : Bool
  networkType : String
  ip : String
  slaveId : String
  state : TaskState
  lastUpdate : Int
  deriving DecidableEq, Repr

/-- A service `dns-a` with no placement, no dependency and no resource needs, on the host
network, as `send_start_task` files it. -/
def dnsA : Task :=
  { name := "dns-a", controller := "torc-controller", id := "", image := "dns:1", nodeName := "",
    nodeType := "", nodeFunction := "", dependentService := "", arguments := "", parameters := "",
    memory := F64.zero, cpu := F64.zero, volumes := [], privileged := false, sla := .none,
    isMetered := false, isSystemService := false, isJob := false, networkType := "host", ip := "",
    slaveId := "", state := .requested, lastUpdate := 0 }

/-- `node_list::Node`, the record of the node table. -/
structure Node where
  name : String
  ip : String
  externalIp : String
  managementIp : String
  nodeType : String
  nodeFunction : String
  active : Bool
  slaveId : String
  portId : Int
  reachable : Bool
  deriving DecidableEq, Repr

/-- `utils::config::Task`, a service as `read_task` reads it from the configuration. -/
structure Config.Task where
  name : String
  image : String
  nodeName : String
  nodeType : String
  nodeFunction : String
  numberOfInstances : Int
  dependentService : String
  arguments : String
  parameters : String
  memory : F64
  cpu : F64
  volumes : List Volume
  privileged : Bool
  sla : SLA
  isMetered : Bool
  isJob : Bool
  networkType : String
  deriving DecidableEq, Repr

/-- The system service `dns-a` as the configuration gives it. -/
def dnsAService : Config.Task :=
  { name := "dns-a", image := "dns:1", nodeName := "", nodeType := "", nodeFunction := "",
    numberOfInstances := 1, dependentService := "", arguments := "", parameters := "",
    memory := F64.zero, cpu := F64.zero, volumes := [], privileged := false, sla := .none,
    isMetered := false, isJob := false, networkType := "host" }

namespace Mesos

/-- An attribute of an offer: its name and the value of its `text` field, `""` when the attribute
is not a text attribute (the protobuf default). -/
structure Attribute where
  name : String
  text : String
  deriving DecidableEq, Repr

/-- A scalar resource: its name, its role and the value of its `scalar` field (0 when unset). -/
structure Resource where
  name : String
  role : String
  scalar : F64
  deriving DecidableEq, Repr

/-- An offer of one slave's resources. -/
structure Offer where
  id : String
  slaveId : String
  attributes : List Attribute
  resources : List Resource
  deriving DecidableEq, Repr

/-- `Volume_Mode`. -/
inductive VolumeMode where
  | rw
  | ro
  deriving DecidableEq, Repr

/-- A container volume of a launch. -/
structure Volume where
  hostPath : String
  containerPath : String
  mode : VolumeMode
  deriving DecidableEq, Repr

/-- `ContainerInfo_DockerInfo_Network`. -/
inductive Network where
  | host
  | bridge
  | none
  deriving DecidableEq, Repr

/-- A Docker `--key=value` parameter. -/
structure Parameter where
  key : String
  value : String
  deriving DecidableEq, Repr

/-- `ContainerInfo_DockerInfo`; `network` is `none` when the scheduler leaves it unset. -/
structure DockerInfo where
  image : String
  privileged : Bool
  network : Option Network
  parameters : List Parameter
  deriving DecidableEq, Repr

/-- `ContainerInfo_Type`. -/
inductive ContainerType where
  | docker
  | mesos
  deriving DecidableEq, Repr

/-- `ContainerInfo`. -/
structure ContainerInfo where
  fieldType : ContainerType
  docker : DockerInfo
  volumes : List Volume
  deriving DecidableEq, Repr

/-- `CommandInfo`. -/
structure CommandInfo where
  shell : Bool
  arguments : List String
  deriving DecidableEq, Repr

/-- `TaskInfo`, as `util::task_info_for_container` fills it in. -/
structure TaskInfo where
  name : String
  taskId : String
  slaveId : String
  command : CommandInfo
  container : ContainerInfo
  resources : List Resource
  deriving DecidableEq, Repr

/-- `mesos::proto::TaskState`, the state a status update reports. -/
inductive TaskState where
  | taskStaging
  | taskStarting
  | taskRunning
  | taskKilling
  | taskFinished
  | taskFailed
  | taskKilled
  | taskError
  | taskLost
  | taskDropped
  | taskUnreachable
  | taskGone
  | taskGoneByOperator
  | taskUnknown
  deriving DecidableEq, Repr

/-- A status update: the task id (the task's name), its state, the slave it runs on and the data
blob, which carries `docker inspect` output on `TASK_RUNNING`. -/
structure TaskStatus where
  taskId : String
  state : TaskState
  slaveId : String
  data : List UInt8
  deriving DecidableEq, Repr

/-- The calls of `SchedulerClient` that the framework makes. -/
inductive Call where
  | launch (offerIds : List String) (tasks : List TaskInfo)
  | decline (offerIds : List String)
  | kill (taskId : String)
  | reconcile (taskIds : List String)
  deriving DecidableEq, Repr

end Mesos

end Torc
