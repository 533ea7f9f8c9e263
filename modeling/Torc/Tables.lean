import Torc.Types
import Mathlib.Data.List.AList

/-! The task table and the node table.  In the source each is a `HashMap` from a name to a record
behind a `Mutex`; here each is an association list with distinct keys, Mathlib's `AList`.  A
`HashMap` iterates in an order it does not specify; the model iterates in list order, one such
order.  `HashMap::insert` is `AList.insert` and `HashMap::remove` is `AList.erase`; the
`get_mut` pattern of the setters, which writes into an entry where it stands and leaves a missing
name missing, is `modifyEntry`.

Every operation comes with the lookup lemma that says what it does to each name, and the later
modules reason through those lemmas only. -/

namespace Torc

/-! ### Association lists keyed by name -/

section Entries

variable {V : Type}

theorem dlookup_kreplace (a a' : String) (b : V) (l : List (Σ _ : String, V)) :
    (l.kreplace a b).dlookup a' = if a' = a ∧ a ∈ l.keys then some b else l.dlookup a' := by
  induction l with
  | nil => simp [List.kreplace]
  | cons s l ih =>
    obtain ⟨k, v⟩ := s
    by_cases hk : a = k
    · subst hk
      have h : List.kreplace a b (⟨a, v⟩ :: l) = ⟨a, b⟩ :: l :=
        List.lookmap_cons_some (f := fun s : (Σ _ : String, V) =>
          if a = s.1 then some (⟨a, b⟩ : Σ _ : String, V) else none) _ (by simp)
      by_cases ha : a' = a
      · subst ha
        simp [h, List.dlookup_cons_eq]
      · simp [h, List.dlookup_cons_ne _ ⟨a, _⟩ ha, ha]
    · have h : List.kreplace a b (⟨k, v⟩ :: l) = ⟨k, v⟩ :: List.kreplace a b l :=
        List.lookmap_cons_none (f := fun s : (Σ _ : String, V) =>
          if a = s.1 then some (⟨a, b⟩ : Σ _ : String, V) else none) _ (by simp [hk])
      by_cases hka : a' = k
      · subst hka
        simp [h, List.dlookup_cons_eq, Ne.symm hk]
      · simp only [h, List.dlookup_cons_ne _ ⟨k, _⟩ hka, ih, List.keys_cons, List.mem_cons, hk,
          false_or]

/-- `HashMap::get_mut(k)` followed by an update `f` of the entry it finds; a missing key is left
missing. -/
def modifyEntry (m : AList (fun _ : String => V)) (k : String) (f : V → V) :
    AList (fun _ : String => V) :=
  match m.lookup k with
  | some v => m.replace k (f v)
  | none => m

@[simp] theorem lookup_modifyEntry (m : AList (fun _ : String => V)) (k k' : String) (f : V → V) :
    (modifyEntry m k f).lookup k' = if k' = k then (m.lookup k).map f else m.lookup k' := by
  unfold modifyEntry
  cases h : m.lookup k with
  | none =>
    split_ifs with hk
    · subst hk; exact h
    · rfl
  | some v =>
    have hmem : k ∈ m.entries.keys := AList.mem_keys.mp (AList.lookup_isSome.mp (by simp [h]))
    simp only [AList.lookup, AList.replace] at h ⊢
    rw [dlookup_kreplace]
    split_ifs with hk <;> simp_all

@[simp] theorem mem_modifyEntry {m : AList (fun _ : String => V)} {k k' : String} {f : V → V} :
    k' ∈ modifyEntry m k f ↔ k' ∈ m := by
  rw [← AList.lookup_isSome, ← AList.lookup_isSome, lookup_modifyEntry]
  split_ifs with hk
  · subst hk; simp
  · rfl

/-- `HashMap::values`, in the order of the list. -/
def values (m : AList (fun _ : String => V)) : List V := m.entries.map Sigma.snd

theorem mem_values {m : AList (fun _ : String => V)} {v : V} :
    v ∈ values m ↔ ∃ k, m.lookup k = some v := by
  simp only [values, List.mem_map, ← Option.mem_def, AList.mem_lookup_iff]
  exact ⟨fun ⟨⟨k, w⟩, hs, hw⟩ => ⟨k, hw ▸ hs⟩, fun ⟨k, hk⟩ => ⟨⟨k, v⟩, hk, rfl⟩⟩

/-- Every entry of `m` satisfies `P`, which may read the entry's key. -/
def EntriesSatisfy (m : AList (fun _ : String => V)) (P : String → V → Prop) : Prop :=
  ∀ k v, m.lookup k = some v → P k v

section EntriesSatisfy

variable {m : AList (fun _ : String => V)} {P : String → V → Prop}

theorem entriesSatisfy_empty (P : String → V → Prop) :
    EntriesSatisfy (∅ : AList (fun _ : String => V)) P := by
  intro k v h
  simp at h

theorem EntriesSatisfy.insert (h : EntriesSatisfy m P) {k : String} {v : V} (hv : P k v) :
    EntriesSatisfy (m.insert k v) P := by
  intro k' v' h'
  by_cases hk : k' = k
  · subst hk
    rw [AList.lookup_insert, Option.some.injEq] at h'
    exact h' ▸ hv
  · rw [AList.lookup_insert_ne hk] at h'
    exact h k' v' h'

theorem EntriesSatisfy.erase (h : EntriesSatisfy m P) (k : String) :
    EntriesSatisfy (m.erase k) P := by
  intro k' v' h'
  by_cases hk : k' = k
  · subst hk
    simp at h'
  · rw [AList.lookup_erase_ne hk] at h'
    exact h k' v' h'

theorem EntriesSatisfy.modifyEntry (h : EntriesSatisfy m P) {f : V → V}
    (hf : ∀ k v, P k v → P k (f v)) (k : String) : EntriesSatisfy (modifyEntry m k f) P := by
  intro k' v' h'
  rw [lookup_modifyEntry] at h'
  split_ifs at h' with hk
  · subst hk
    obtain ⟨v, hv, rfl⟩ := Option.map_eq_some'.mp h'
    exact hf k' v (h k' v hv)
  · exact h k' v' h'

theorem EntriesSatisfy.mono (h : EntriesSatisfy m P) {Q : String → V → Prop}
    (hPQ : ∀ k v, P k v → Q k v) : EntriesSatisfy m Q :=
  fun k v hv => hPQ k v (h k v hv)

/-- When every entry is filed under its own key, the records' keys are the list's keys, so they
are distinct. -/
theorem EntriesSatisfy.nodup_map {key : V → String} (h : EntriesSatisfy m fun k v => key v = k) :
    ((values m).map key).Nodup := by
  have : (values m).map key = m.keys := by
    simp only [values, AList.keys, List.keys, List.map_map]
    refine List.map_congr_left fun s hs => ?_
    exact h s.1 s.2 (AList.mem_lookup_iff.mpr hs)
  rw [this]
  exact m.keys_nodup

end EntriesSatisfy

end Entries

/-! ### The task table -/

/-- `TaskList`: the task table, keyed by task name. -/
abbrev TaskList := AList (fun _ : String => Task)

namespace TaskList

variable (taskList : TaskList)

/-- `TaskList::add_new_task`: `HashMap::insert`, which overwrites an entry of the same name. -/
def addNewTask (task : Task) : TaskList := taskList.insert task.name task

/-- `TaskList::remove_task_by_name`. -/
def removeTaskByName (taskName : String) : TaskList := taskList.erase taskName

/-- `TaskList::set_task_state`. -/
def setTaskState (taskName : String) (taskState : TaskState) : TaskList :=
  modifyEntry taskList taskName fun task => { task with state := taskState }

/-- `TaskList::set_task_node_name`. -/
def setTaskNodeName (taskName nodeName : String) : TaskList :=
  modifyEntry taskList taskName fun task => { task with nodeName := nodeName }

/-- `TaskList::set_task_info`: each of the id, the ip and the slave id is written only when the
new value is not empty. -/
def setTaskInfo (taskName taskId taskIp slaveId : String) : TaskList :=
  modifyEntry taskList taskName fun task =>
    { task with
      id := if taskId.length > 0 then taskId else task.id
      ip := if taskIp.length > 0 then taskIp else task.ip
      slaveId := if slaveId.length > 0 then slaveId else task.slaveId }

/-- `TaskList::get_task_state`: `NotRunning` for a name without an entry. -/
def getTaskState (taskName : String) : TaskState :=
  match taskList.lookup taskName with
  | some task => task.state
  | none => .notRunning

/-- `TaskList::get_task_name_by_id`: the name of the first entry, in iteration order, whose id is
not empty and starts with `idPrefix`; `""` when there is none. -/
def getTaskNameById (idPrefix : String) : String :=
  match ((values taskList).filter fun value => !value.id.isEmpty).find?
      (fun value => startsWith value.id idPrefix) with
  | some value => value.name
  | none => ""

/-- `get_task_name_by_id` answers the name of an entry whose id is not empty and starts with
`idPrefix`, or `""` when no entry has such an id. -/
theorem getTaskNameById_cases (idPrefix : String) :
    (∃ task ∈ values taskList, task.name = taskList.getTaskNameById idPrefix ∧ task.id ≠ "" ∧
      startsWith task.id idPrefix = true) ∨
    (taskList.getTaskNameById idPrefix = "" ∧
      ∀ task ∈ values taskList, task.id ≠ "" → startsWith task.id idPrefix = false) := by
  unfold getTaskNameById
  cases h : ((values taskList).filter fun value => !value.id.isEmpty).find?
      (fun value => startsWith value.id idPrefix) with
  | some value =>
    obtain ⟨hmem, hid⟩ := List.mem_filter.mp (List.mem_of_find?_eq_some h)
    exact .inl ⟨value, hmem, rfl, by simpa [isEmpty_eq_false_iff] using hid,
      List.find?_some (p := fun value : Task => startsWith value.id idPrefix) h⟩
  | none =>
    refine .inr ⟨rfl, fun task hmem hid => ?_⟩
    simpa using List.find?_eq_none.mp h task
      (List.mem_filter.mpr ⟨hmem, by simpa [isEmpty_eq_false_iff] using hid⟩)

/-- `TaskList::get_task_ip_by_name`: `""` for a name without an entry. -/
def getTaskIpByName (name : String) : String :=
  match taskList.lookup name with
  | some task => task.ip
  | none => ""

/-- `TaskList::get_task`. -/
def getTask (taskName : String) : Except String Task :=
  match taskList.lookup taskName with
  | some task => .ok task
  | none => .error "Can't find task"

/-- `TaskList::get_tasks_with_state`: the entries in state `taskState`, in iteration order. -/
def getTasksWithState (taskState : TaskState) : List Task :=
  (values taskList).filter fun value => value.state == taskState

variable {taskList}

@[simp] theorem lookup_addNewTask (task : Task) (n : String) :
    (taskList.addNewTask task).lookup n = if n = task.name then some task else taskList.lookup n := by
  split_ifs with h
  · subst h; exact AList.lookup_insert _
  · exact AList.lookup_insert_ne h

@[simp] theorem lookup_removeTaskByName (taskName n : String) :
    (taskList.removeTaskByName taskName).lookup n = if n = taskName then none else taskList.lookup n := by
  split_ifs with h
  · subst h; exact AList.lookup_erase _ _
  · exact AList.lookup_erase_ne h

@[simp] theorem lookup_setTaskState (taskName n : String) (taskState : TaskState) :
    (taskList.setTaskState taskName taskState).lookup n =
      if n = taskName then (taskList.lookup taskName).map fun task => { task with state := taskState }
      else taskList.lookup n :=
  lookup_modifyEntry _ _ _ _

@[simp] theorem lookup_setTaskNodeName (taskName n nodeName : String) :
    (taskList.setTaskNodeName taskName nodeName).lookup n =
      if n = taskName then (taskList.lookup taskName).map fun task => { task with nodeName := nodeName }
      else taskList.lookup n :=
  lookup_modifyEntry _ _ _ _

@[simp] theorem lookup_setTaskInfo (taskName n taskId taskIp slaveId : String) :
    (taskList.setTaskInfo taskName taskId taskIp slaveId).lookup n =
      if n = taskName then
        (taskList.lookup taskName).map fun task =>
          { task with
            id := if taskId.length > 0 then taskId else task.id
            ip := if taskIp.length > 0 then taskIp else task.ip
            slaveId := if slaveId.length > 0 then slaveId else task.slaveId }
      else taskList.lookup n :=
  lookup_modifyEntry _ _ _ _

end TaskList

/-- A task record with the fields that the table's updates write cleared: the state
(`set_task_state`), the node name (`set_task_node_name`), and the id, the ip and the slave id
(`set_task_info`).  An update of an entry keeps it. -/
def Task.withoutUpdates (task : Task) : Task :=
  { task with state := .requested, nodeName := "", id := "", ip := "", slaveId := "" }

/-! ### The node table -/

/-- `NodeList`: the node table, keyed by node name. -/
abbrev NodeList := AList (fun _ : String => Node)

namespace NodeList

variable (nodeList : NodeList)

/-- `NodeList::add_new_node`: `HashMap::insert`, which overwrites an entry of the same name. -/
def addNewNode (node : Node) : NodeList := nodeList.insert node.name node

/-- `NodeList::is_node_active`: false for a name without an entry. -/
def isNodeActive (nodeName : String) : Bool :=
  match nodeList.lookup nodeName with
  | some node => node.active
  | none => false

/-- `NodeList::update_node`: records what an offer says of the node and marks it active; a name
without an entry is only logged. -/
def updateNode (nodeName nodeType nodeFunction slaveId : String) : NodeList :=
  modifyEntry nodeList nodeName fun node =>
    { node with nodeType := nodeType, nodeFunction := nodeFunction, slaveId := slaveId,
                active := true }

/-- `NodeList::get_node`. -/
def getNode (nodeName : String) : Except String Node :=
  match nodeList.lookup nodeName with
  | some node => .ok node
  | none => .error "Can't find node"

/-- `NodeList::get_nodes`: every entry, in iteration order. -/
def getNodes : List Node := values nodeList

variable {nodeList}

@[simp] theorem lookup_addNewNode (node : Node) (n : String) :
    (nodeList.addNewNode node).lookup n = if n = node.name then some node else nodeList.lookup n := by
  split_ifs with h
  · subst h; exact AList.lookup_insert _
  · exact AList.lookup_insert_ne h

@[simp] theorem lookup_updateNode (nodeName nodeType nodeFunction slaveId n : String) :
    (nodeList.updateNode nodeName nodeType nodeFunction slaveId).lookup n =
      if n = nodeName then
        (nodeList.lookup nodeName).map fun node =>
          { node with nodeType := nodeType, nodeFunction := nodeFunction, slaveId := slaveId,
                      active := true }
      else nodeList.lookup n :=
  lookup_modifyEntry _ _ _ _

end NodeList

end Torc
