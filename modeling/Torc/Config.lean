import Torc.Types
import Mathlib.Data.List.Forall2

/-! The configuration file as `utils/config.rs` reads it.  The document is a `yaml_rust::Yaml` as
the loader builds it; indexing a node by a key gives `BadValue` when the node is no hash or lacks the
key, and each `as_*` accessor gives `None` on a node of another kind (`as_f64` reads only reals, so
an integer such as `512` does not read as a float).  The readers of `read_task` give a key's
default when the key is missing and otherwise unwrap the accessor, so a value of the wrong kind is
the panic of `unwrap`; here that panic is the error of `Except`.

`Reads` says which documents `read_task` reads and what it reads from them, field by field, and
`readTask_eq_ok_iff` proves the reader meets it. -/

namespace Torc

/-- `yaml_rust::Yaml`, a node of a loaded document.  A real keeps the value `parse_f64` reads from
its text: the loader makes a scalar a real only when that parse succeeds. -/
inductive Yaml where
  | real (value : F64)
  | integer (value : Int)
  | string (value : String)
  | boolean (value : Bool)
  | array (items : List Yaml)
  | hash (entries : List (Yaml × Yaml))
  | alias (index : Nat)
  | null
  | badValue

namespace Yaml

/-- Whether a key of a hash is `Yaml::String(key)`. -/
def isKey (key : String) : Yaml → Bool
  | .string s => s == key
  | _ => false

/-- `impl Index<&str> for Yaml`: the value of the key `key` in a hash, `BadValue` when the node is
no hash or has no such key. -/
def index (node : Yaml) (key : String) : Yaml :=
  match node with
  | .hash entries => ((entries.find? fun entry => entry.1.isKey key).map Prod.snd).getD .badValue
  | _ => .badValue

def isBadvalue : Yaml → Bool
  | .badValue => true
  | _ => false

def asStr : Yaml → Option String
  | .string s => some s
  | _ => none

def asBool : Yaml → Option Bool
  | .boolean b => some b
  | _ => none

def asI64 : Yaml → Option Int
  | .integer i => some i
  | _ => none

def asF64 : Yaml → Option F64
  | .real x => some x
  | _ => none

def asVec : Yaml → Option (List Yaml)
  | .array items => some items
  | _ => none

end Yaml

/-- `Option::unwrap`, its panic as the error. -/
def unwrap {α : Type} : Option α → Except String α
  | some a => .ok a
  | none => .error unwrapNone

@[simp] theorem unwrap_eq_ok {α : Type} {o : Option α} {a : α} : unwrap o = .ok a ↔ o = some a := by
  cases o <;> simp [unwrap]

namespace Config

/-! ### The readers -/

/-- The shape of `read_string`, `read_bool`, `read_float` and `read_int`: `default` when `element`
has no value under `key`, and otherwise the value as `asX` reads it, unwrapped. -/
def readValue {α : Type} (asX : Yaml → Option α) (element : Yaml) (key : String) (default : α) :
    Except String α :=
  match (element.index key).isBadvalue with
  | true => .ok default
  | false => unwrap (asX (element.index key))

/-- `read_string`. -/
def readString (element : Yaml) (key : String) : Except String String :=
  readValue Yaml.asStr element key ""

/-- `read_bool`. -/
def readBool (element : Yaml) (key : String) : Except String Bool :=
  readValue Yaml.asBool element key false

/-- `read_float`. -/
def readFloat (element : Yaml) (key : String) (default : F64) : Except String F64 :=
  readValue Yaml.asF64 element key default

/-- `read_int`. -/
def readInt (element : Yaml) (key : String) (default : Int) : Except String Int :=
  readValue Yaml.asI64 element key default

/-- One entry of `volumes`, as the loop of `read_volumes_for_service` reads it. -/
def readVolume (volume : Yaml) : Except String Volume := do
  let hostPath ← unwrap (volume.index "host_path").asStr
  let containerPath ← unwrap (volume.index "container_path").asStr
  let readOnlyMode ← unwrap (volume.index "read_only_mode").asBool
  pure ⟨hostPath, containerPath, readOnlyMode⟩

/-- `read_volumes_for_service`. -/
def readVolumesForService (service : Yaml) : Except String (List Volume) :=
  match (service.index "volumes").isBadvalue with
  | true => .ok []
  | false => do
    let volumes ← unwrap (service.index "volumes").asVec
    volumes.mapM readVolume

/-- The service level the `match` of `read_sla` gives a string. -/
def slaOf (sla : String) : SLA :=
  match sla with
  | "singleton_each_node" => .singletonEachNode
  | "singleton_each_slave" => .singletonEachSlave
  | _ => .none

/-- `read_sla`. -/
def readSla (service : Yaml) : Except String SLA :=
  match (service.index "sla").isBadvalue with
  | true => .ok .none
  | false => do
    let sla ← unwrap (service.index "sla").asStr
    pure (slaOf sla)

section ReadTask

variable (defaultMemory defaultCpu : F64)

/-- `read_task`, its fields read in the order of the source; `defaultMemory` and `defaultCpu` are
`DEFAULT_MEMORY` and `DEFAULT_CPU` of `utils`. -/
def readTask (service : Yaml) : Except String Config.Task := do
  let name ← unwrap (service.index "name").asStr
  let image ← unwrap (service.index "image_name").asStr
  let nodeName ← readString service "node_name"
  let nodeType ← readString service "node_type"
  let nodeFunction ← readString service "node_function"
  let numberOfInstances ← readInt service "number_of_instances" 1
  let dependentService ← readString service "dependent_service"
  let arguments ← readString service "arguments"
  let parameters ← readString service "parameters"
  let memory ← readFloat service "memory" defaultMemory
  let cpu ← readFloat service "cpu" defaultCpu
  let volumes ← readVolumesForService service
  let privileged ← readBool service "privileged"
  let sla ← readSla service
  let isMetered ← readBool service "is_metered"
  let isJob ← readBool service "is_job"
  let networkType ← unwrap (service.index "network_type").asStr
  pure
    { name := name, image := image, nodeName := nodeName, nodeType := nodeType,
      nodeFunction := nodeFunction, numberOfInstances := numberOfInstances,
      dependentService := dependentService, arguments := arguments, parameters := parameters,
      memory := memory, cpu := cpu, volumes := volumes, privileged := privileged, sla := sla,
      isMetered := isMetered, isJob := isJob, networkType := networkType }

end ReadTask

/-! ### What the readers read -/

theorem bind_eq_ok {ε α β : Type} {x : Except ε α} {f : α → Except ε β} {b : β} :
    (x >>= f) = .ok b ↔ ∃ a, x = .ok a ∧ f a = .ok b := by
  cases x <;> simp [bind, Except.bind]

/-- What a reader of the shape of `readValue` takes from the value `node` of its key: the default
when the key is missing, and otherwise the value itself, of the accessor's kind. -/
def ValueReads {α : Type} (asX : Yaml → Option α) (node : Yaml) (default value : α) : Prop :=
  node = .badValue ∧ value = default ∨ asX node = some value

theorem readValue_eq_ok {α : Type} {asX : Yaml → Option α} (hbad : asX .badValue = none)
    {element : Yaml} {key : String} {default value : α} :
    readValue asX element key default = .ok value ↔
      ValueReads asX (element.index key) default value := by
  unfold readValue ValueReads
  generalize element.index key = node
  cases node
  case badValue => simp [Yaml.isBadvalue, hbad, eq_comm]
  all_goals simp [Yaml.isBadvalue]

/-- What the loop of `read_volumes_for_service` reads from one entry. -/
def VolumeReads (item : Yaml) (volume : Volume) : Prop :=
  (item.index "host_path").asStr = some volume.hostPath ∧
    (item.index "container_path").asStr = some volume.containerPath ∧
    (item.index "read_only_mode").asBool = some volume.readOnlyMode

theorem readVolume_eq_ok {item : Yaml} {volume : Volume} :
    readVolume item = .ok volume ↔ VolumeReads item volume := by
  simp only [readVolume, bind_eq_ok, unwrap_eq_ok, VolumeReads]
  constructor
  · rintro ⟨hostPath, h1, containerPath, h2, readOnlyMode, h3, h⟩
    cases h
    exact ⟨h1, h2, h3⟩
  · rintro ⟨h1, h2, h3⟩
    exact ⟨_, h1, _, h2, _, h3, rfl⟩

theorem mapM_eq_ok {α β : Type} {f : α → Except String β} {xs : List α} {ys : List β} :
    xs.mapM f = .ok ys ↔ List.Forall₂ (fun x y => f x = .ok y) xs ys := by
  induction xs generalizing ys with
  | nil =>
    simp only [List.mapM_nil, pure, Except.pure, Except.ok.injEq, List.forall₂_nil_left_iff, eq_comm]
  | cons x xs ih =>
    simp only [List.mapM_cons, bind_eq_ok, ih, List.forall₂_cons_left_iff, pure, Except.pure,
      Except.ok.injEq]
    constructor
    · rintro ⟨y, hy, ys', hys, rfl⟩
      exact ⟨y, ys', hy, hys, rfl⟩
    · rintro ⟨y, ys', hy, hys, rfl⟩
      exact ⟨y, hy, ys', hys, rfl⟩

/-- The volumes `read_volumes_for_service` reads from the value `node` of `volumes`: none when
the key is missing, and otherwise one for each entry of the list. -/
def VolumesRead (node : Yaml) (volumes : List Volume) : Prop :=
  node = .badValue ∧ volumes = [] ∨
    ∃ items, node.asVec = some items ∧ List.Forall₂ VolumeReads items volumes

theorem readVolumesForService_eq_ok {service : Yaml} {volumes : List Volume} :
    readVolumesForService service = .ok volumes ↔ VolumesRead (service.index "volumes") volumes := by
  unfold readVolumesForService VolumesRead
  generalize service.index "volumes" = node
  have hitems : ∀ items : List Yaml, items.mapM readVolume = .ok volumes ↔
      List.Forall₂ VolumeReads items volumes := fun items => by
    simp only [mapM_eq_ok, readVolume_eq_ok]
  cases node
  case badValue => simp [Yaml.isBadvalue, Yaml.asVec, eq_comm]
  case array items =>
    simp only [Yaml.isBadvalue, Yaml.asVec, bind_eq_ok, unwrap_eq_ok, Option.some.injEq,
      exists_eq_left', hitems]
    simp
  all_goals simp [Yaml.isBadvalue, Yaml.asVec, bind_eq_ok, unwrap]

/-- `read_sla` reads the key `sla` as `read_string` does, and names the level by `slaOf`. -/
theorem readSla_eq (service : Yaml) : readSla service = slaOf <$> readString service "sla" := by
  unfold readSla readString readValue
  cases (service.index "sla").isBadvalue
  · cases (service.index "sla").asStr <;> rfl
  · rfl

section ReadTask

variable (defaultMemory defaultCpu : F64)

/-- The documents `read_task` reads without a panic, and the task it reads from them: the name,
the image and the network type are strings, every other key is missing or of its kind, and the
task holds each value read, or the key's default. -/
structure Reads (service : Yaml) (task : Config.Task) : Prop where
  name : (service.index "name").asStr = some task.name
  image : (service.index "image_name").asStr = some task.image
  nodeName : ValueReads Yaml.asStr (service.index "node_name") "" task.nodeName
  nodeType : ValueReads Yaml.asStr (service.index "node_type") "" task.nodeType
  nodeFunction : ValueReads Yaml.asStr (service.index "node_function") "" task.nodeFunction
  numberOfInstances :
    ValueReads Yaml.asI64 (service.index "number_of_instances") 1 task.numberOfInstances
  dependentService :
    ValueReads Yaml.asStr (service.index "dependent_service") "" task.dependentService
  arguments : ValueReads Yaml.asStr (service.index "arguments") "" task.arguments
  parameters : ValueReads Yaml.asStr (service.index "parameters") "" task.parameters
  memory : ValueReads Yaml.asF64 (service.index "memory") defaultMemory task.memory
  cpu : ValueReads Yaml.asF64 (service.index "cpu") defaultCpu task.cpu
  volumes : VolumesRead (service.index "volumes") task.volumes
  privileged : ValueReads Yaml.asBool (service.index "privileged") false task.privileged
  sla : ∃ sla, ValueReads Yaml.asStr (service.index "sla") "" sla ∧ task.sla = slaOf sla
  isMetered : ValueReads Yaml.asBool (service.index "is_metered") false task.isMetered
  isJob : ValueReads Yaml.asBool (service.index "is_job") false task.isJob
  networkType : (service.index "network_type").asStr = some task.networkType

theorem readString_eq_ok {element : Yaml} {key value : String} :
    readString element key = .ok value ↔ ValueReads Yaml.asStr (element.index key) "" value :=
  readValue_eq_ok rfl

theorem readBool_eq_ok {element : Yaml} {key : String} {value : Bool} :
    readBool element key = .ok value ↔ ValueReads Yaml.asBool (element.index key) false value :=
  readValue_eq_ok rfl

theorem readFloat_eq_ok {element : Yaml} {key : String} {default value : F64} :
    readFloat element key default = .ok value ↔
      ValueReads Yaml.asF64 (element.index key) default value :=
  readValue_eq_ok rfl

theorem readInt_eq_ok {element : Yaml} {key : String} {default value : Int} :
    readInt element key default = .ok value ↔
      ValueReads Yaml.asI64 (element.index key) default value :=
  readValue_eq_ok rfl

theorem readSla_eq_ok {service : Yaml} {sla : SLA} :
    readSla service = .ok sla ↔
      ∃ s, ValueReads Yaml.asStr (service.index "sla") "" s ∧ sla = slaOf s := by
  rw [readSla_eq]
  cases h : readString service "sla" with
  | error e => simp [h, readString_eq_ok.symm, Functor.map, Except.map]
  | ok s =>
    simp only [Functor.map, Except.map, Except.ok.injEq]
    exact ⟨fun hs => ⟨s, readString_eq_ok.mp h, hs.symm⟩, fun ⟨s', hs', hsla⟩ => by
      cases (readString_eq_ok.mpr hs').symm.trans h
      exact hsla.symm⟩

theorem readTask_reads {service : Yaml} {task : Config.Task}
    (h : readTask defaultMemory defaultCpu service = .ok task) :
    Reads defaultMemory defaultCpu service task := by
  simp only [readTask, bind_eq_ok, unwrap_eq_ok, readString_eq_ok, readInt_eq_ok, readFloat_eq_ok,
    readVolumesForService_eq_ok, readBool_eq_ok, readSla_eq_ok, pure, Except.pure,
    Except.ok.injEq] at h
  obtain ⟨_, h1, _, h2, _, h3, _, h4, _, h5, _, h6, _, h7, _, h8, _, h9, _, h10, _, h11, _, h12,
    _, h13, _, h14, _, h15, _, h16, _, h17, rfl⟩ := h
  exact ⟨h1, h2, h3, h4, h5, h6, h7, h8, h9, h10, h11, h12, h13, h14, h15, h16, h17⟩

theorem readTask_of_reads {service : Yaml} {task : Config.Task}
    (h : Reads defaultMemory defaultCpu service task) :
    readTask defaultMemory defaultCpu service = .ok task := by
  simp only [readTask, bind_eq_ok, unwrap_eq_ok, readString_eq_ok, readInt_eq_ok, readFloat_eq_ok,
    readVolumesForService_eq_ok, readBool_eq_ok, readSla_eq_ok, pure, Except.pure, Except.ok.injEq]
  exact ⟨_, h.name, _, h.image, _, h.nodeName, _, h.nodeType, _, h.nodeFunction, _,
    h.numberOfInstances, _, h.dependentService, _, h.arguments, _, h.parameters, _, h.memory, _,
    h.cpu, _, h.volumes, _, h.privileged, _, h.sla, _, h.isMetered, _, h.isJob, _, h.networkType,
    rfl⟩

/-- `read_task` reads a service without a panic exactly when the service is a document of `Reads`,
and the task it reads is the one `Reads` describes. -/
theorem readTask_eq_ok_iff (service : Yaml) (task : Config.Task) :
    readTask defaultMemory defaultCpu service = .ok task ↔
      Reads defaultMemory defaultCpu service task :=
  ⟨readTask_reads defaultMemory defaultCpu, readTask_of_reads defaultMemory defaultCpu⟩

/-! ### The panics -/

/-- Every failure of a read is the panic of `unwrap` on `None`. -/
def PanicsOnly {α : Type} (x : Except String α) : Prop :=
  ∀ msg, x = .error msg → msg = unwrapNone

theorem PanicsOnly.bind {α β : Type} {x : Except String α} {f : α → Except String β}
    (hx : PanicsOnly x) (hf : ∀ a, PanicsOnly (f a)) : PanicsOnly (x >>= f) := by
  intro msg h
  cases x with
  | error e =>
    cases h
    exact hx msg rfl
  | ok a => exact hf a msg h

theorem panicsOnly_unwrap {α : Type} (o : Option α) : PanicsOnly (unwrap o) := by
  intro msg h
  cases o <;> cases h
  rfl

theorem panicsOnly_readValue {α : Type} (asX : Yaml → Option α) (element : Yaml) (key : String)
    (default : α) : PanicsOnly (readValue asX element key default) := by
  unfold readValue
  split
  · nofun
  · exact panicsOnly_unwrap _

theorem panicsOnly_mapM {α β : Type} {f : α → Except String β} (hf : ∀ a, PanicsOnly (f a))
    (xs : List α) : PanicsOnly (xs.mapM f) := by
  induction xs with
  | nil => nofun
  | cons x xs ih =>
    rw [List.mapM_cons]
    exact (hf x).bind fun _ => ih.bind fun _ _ => nofun

theorem panicsOnly_readTask (service : Yaml) :
    PanicsOnly (readTask defaultMemory defaultCpu service) := by
  have hvolumes : PanicsOnly (readVolumesForService service) := by
    unfold readVolumesForService
    split
    · nofun
    · exact (panicsOnly_unwrap _).bind (panicsOnly_mapM fun _ => (panicsOnly_unwrap _).bind
        fun _ => (panicsOnly_unwrap _).bind fun _ => (panicsOnly_unwrap _).bind fun _ _ => nofun)
  have hsla : PanicsOnly (readSla service) := by
    rw [readSla_eq]
    exact (panicsOnly_readValue _ _ _ _).bind fun _ _ => nofun
  unfold readTask
  repeat' refine PanicsOnly.bind ?_ fun _ => ?_
  all_goals first
    | exact panicsOnly_unwrap _ | exact panicsOnly_readValue _ _ _ _ | exact hvolumes
    | exact hsla | nofun

/-- `as_f64` reads only reals: a service whose memory or cpu is written as an integer, such as
`memory: 512`, stops `read_task` with the panic of `unwrap`, whatever else it holds. -/
theorem readTask_integer_resource {service : Yaml} {i : Int}
    (h : service.index "memory" = .integer i ∨ service.index "cpu" = .integer i) :
    readTask defaultMemory defaultCpu service = .error unwrapNone := by
  cases hread : readTask defaultMemory defaultCpu service with
  | error msg => rw [panicsOnly_readTask defaultMemory defaultCpu service msg hread]
  | ok task =>
    have hreads := readTask_reads defaultMemory defaultCpu hread
    rcases h with h | h
    · simpa [ValueReads, h, Yaml.asF64] using hreads.memory
    · simpa [ValueReads, h, Yaml.asF64] using hreads.cpu

/-- The service `dns-a` with its memory written `512`. -/
def integerMemoryService : Yaml :=
  .hash [(.string "name", .string "dns-a"), (.string "image_name", .string "dns:1"),
    (.string "memory", .integer 512), (.string "network_type", .string "host")]

theorem readTask_integer_resource_512 :
    (integerMemoryService.index "memory" = .integer 512 ∨
      integerMemoryService.index "cpu" = .integer 512) ∧
    readTask F64.zero F64.zero integerMemoryService = .error unwrapNone :=
  ⟨.inl rfl, readTask_integer_resource F64.zero F64.zero (.inl rfl)⟩

end ReadTask

end Config

end Torc
