import Torc.Tables

/-! The State Actor of `state/state.rs`: the thread that owns the task table and the node table and
serves the requests of every other thread one at a time, in the order they reach its channel.
Each request carries the channel for its reply; here the reply simply goes back to the sender.

Every handler computes its reply from the tables as they are before it runs (the readers) or
replies with a fixed acknowledgement (the writers), so a turn of the loop in `start_serving` is
`serve`: the reply from `State.respond` and the new state from `State.handle`.  The one handler
that can panic is `get_node`, which unwraps the lookup of a node; the panic ends the actor's
thread, and `respond` gives its message instead of a reply.

`Reachable` gives the states that the loop can reach from its empty tables when each request is
one that the methods of `StateManager` build (`StateRequestMsg.Sent`). -/

namespace Torc

/-- `StateRequestMsg`, without the reply channel that every request carries. -/
inductive StateRequestMsg where
  | ping
  | getTaskState (taskName : String)
  | getTaskNameById (idPrefix : String)
  | getTaskIPByName (name : String)
  | updateTaskState (taskName : String) (taskState : TaskState)
  | updateTaskNodeName (taskName nodeName : String)
  | updateTaskInfo (taskName id ip slaveId : String)
  | startTask (task : Task)
  | removeTask (taskName : String)
  | getRequestedTasks
  | getRunningTasks
  | addNode (node : Node)
  | getIsNodeActive (nodeName : String)
  | updateNode (nodeName nodeType nodeFunction slaveId : String)
  | getNode (nodeName : String)
  | getNodes
  deriving DecidableEq, Repr

/-- `StateResponseMsg`. -/
inductive StateResponseMsg where
  | pong
  | tasksState (tasksState : TaskState)
  | taskName (taskName : String)
  | taskIP (taskIp : String)
  | updateTaskState
  | updateTaskInfo
  | updateTaskNodeName
  | startTask
  | removeTask
  | getRequestedTasks (requestedTasks : List Task)
  | getRunningTasks (runningTasks : List Task)
  | addNode
  | getIsNodeActive (isActive : Bool)
  | updateNode
  | getNodes (nodes : List Node)
  | getNode (node : Node)
  deriving DecidableEq, Repr

/-- The actor's `State`: the registry's address and the two tables, and `registered`, the tasks
posted to the external registry so far, oldest first. -/
structure State where
  controllerIp : String
  taskList : TaskList
  nodeList : NodeList
  registered : List Task

/-- The state `start_serving` begins with: both tables empty, nothing posted. -/
def State.new (controllerIp : String) : State := ⟨controllerIp, ∅, ∅, []⟩

/-- A state whose one task, `dns-a`, is `Requested`. -/
def dnsARequested : State := { State.new "" with taskList := (∅ : TaskList).addNewTask dnsA }

/-- Modelled from the spec: `register_running_task`, whose code is not among the repository's
files, posts the JSON encoding of `task` to the registry at the controller's address; a failed
post is logged and swallowed.  The model records the post. -/
def registerRunningTask (state : State) (task : Task) : State :=
  { state with registered := state.registered ++ [task] }

/-- `StateManager::update_task_state`: sets the state of the entry, then, when the new state is
`Running`, reads the entry back and posts it to the registry.  A missing entry is only logged. -/
def updateTaskState (state : State) (taskName : String) (taskState : TaskState) : State :=
  let state := { state with taskList := state.taskList.setTaskState taskName taskState }
  match taskState with
  | .running =>
    match state.taskList.getTask taskName with
    | .ok task => registerRunningTask state task
    | .error _ => state
  | _ => state

@[simp] theorem updateTaskState_taskList (state : State) (taskName : String) (taskState : TaskState) :
    (updateTaskState state taskName taskState).taskList =
      state.taskList.setTaskState taskName taskState := by
  unfold updateTaskState
  split <;> (dsimp only; try split) <;> rfl

@[simp] theorem updateTaskState_nodeList (state : State) (taskName : String) (taskState : TaskState) :
    (updateTaskState state taskName taskState).nodeList = state.nodeList := by
  unfold updateTaskState
  split <;> (dsimp only; try split) <;> rfl

namespace State

variable (state : State)

/-- The reply each handler sends, or the panic that ends the actor's thread. -/
def respond : StateRequestMsg → Except String StateResponseMsg
  | .ping => .ok .pong
  | .getTaskState taskName => .ok (.tasksState (state.taskList.getTaskState taskName))
  | .getTaskNameById idPrefix => .ok (.taskName (state.taskList.getTaskNameById idPrefix))
  | .getTaskIPByName name => .ok (.taskIP (state.taskList.getTaskIpByName name))
  | .updateTaskState _ _ => .ok .updateTaskState
  | .updateTaskNodeName _ _ => .ok .updateTaskNodeName
  | .updateTaskInfo _ _ _ _ => .ok .updateTaskInfo
  | .startTask _ => .ok .startTask
  | .removeTask _ => .ok .removeTask
  | .getRequestedTasks => .ok (.getRequestedTasks (state.taskList.getTasksWithState .requested))
  | .getRunningTasks => .ok (.getRunningTasks (state.taskList.getTasksWithState .running))
  | .addNode _ => .ok .addNode
  | .getIsNodeActive nodeName => .ok (.getIsNodeActive (state.nodeList.isNodeActive nodeName))
  | .updateNode _ _ _ _ => .ok .updateNode
  | .getNode nodeName =>
    match state.nodeList.getNode nodeName with
    | .ok node => .ok (.getNode node)
    | .error e => .error (unwrapFailed ("\"" ++ e ++ "\""))
  | .getNodes => .ok (.getNodes state.nodeList.getNodes)

/-- The state after each handler. -/
def handle : StateRequestMsg → State
  | .updateTaskState taskName taskState => updateTaskState state taskName taskState
  | .updateTaskNodeName taskName nodeName =>
    { state with taskList := state.taskList.setTaskNodeName taskName nodeName }
  | .updateTaskInfo taskName id ip slaveId =>
    { state with taskList := state.taskList.setTaskInfo taskName id ip slaveId }
  | .startTask task => { state with taskList := state.taskList.addNewTask task }
  | .removeTask taskName => { state with taskList := state.taskList.removeTaskByName taskName }
  | .addNode node => { state with nodeList := state.nodeList.addNewNode node }
  | .updateNode nodeName nodeType nodeFunction slaveId =>
    { state with nodeList := state.nodeList.updateNode nodeName nodeType nodeFunction slaveId }
  | _ => state

end State

/-- One turn of the loop in `start_serving`: the reply to `request` and the state after it. -/
def serve (state : State) (request : StateRequestMsg) : Except String (StateResponseMsg × State) :=
  (state.respond request).map fun reply => (reply, state.handle request)

/-- The loop of `start_serving` over requests in the order they reach the channel: the state after
the last one, or the panic that stopped the actor. -/
def startServing (state : State) : List StateRequestMsg → Except String State
  | [] => .ok state
  | request :: requests => do
    let (_, state) ← serve state request
    startServing state requests

/-- The requests that the methods of `StateManager` send: `send_start_task` sends a task in state
`Requested`, and `send_update_task_state` is called with `Accepted` (by the offers callback) and
`Running` (by the update callback) only. -/
def StateRequestMsg.Sent : StateRequestMsg → Prop
  | .startTask task => task.state = .requested
  | .updateTaskState _ taskState => taskState = .accepted ∨ taskState = .running
  | _ => True

/-- The states the actor reaches from its empty tables by serving requests that `StateManager`
sends, in any number and order. -/
inductive Reachable (controllerIp : String) : State → Prop
  | new : Reachable controllerIp (State.new controllerIp)
  | serve {state state' : State} {request : StateRequestMsg} {reply : StateResponseMsg} :
      Reachable controllerIp state → request.Sent → serve state request = .ok (reply, state') →
      Reachable controllerIp state'

theorem serve_eq_ok {state state' : State} {request : StateRequestMsg} {reply : StateResponseMsg} :
    serve state request = .ok (reply, state') ↔
      state.respond request = .ok reply ∧ state' = state.handle request := by
  unfold serve
  cases state.respond request <;> simp [Except.map, eq_comm]

/-- The actor replies to every request except `GetNode` for a name the node table lacks: there
`get_node` unwraps the failed lookup and the actor's thread panics. -/
theorem serve_error_iff (state : State) (request : StateRequestMsg) :
    (∃ msg, serve state request = .error msg) ↔
      ∃ nodeName, request = .getNode nodeName ∧ nodeName ∉ state.nodeList := by
  cases request with
  | getNode nodeName =>
    simp only [serve, State.respond, NodeList.getNode, ← AList.lookup_eq_none]
    cases h : state.nodeList.lookup nodeName <;> simp [Except.map, h]
  | _ => simp [serve, State.respond, Except.map]

end Torc
