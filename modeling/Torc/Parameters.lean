import Torc.Offers

/-! The Docker parameters of a launch descriptor.  The offers callback appends ` --net=<type>` for
a network type it has no enum for, splits the parameter string at `-`, `=` and space, drops the
empty pieces, and pairs the tokens in a loop that reads a key and a value before it tests for the
end.  So an even number of tokens is paired in order, an odd number panics at the last key, and a
string of separators only, which has no token at all, panics at the first read.

The flags `--k1=v1 --k2=v2 … --kn=vn` come back as their pairs when no key or value holds a
separator.  A hyphen is a separator too: the key `log-driver` is two tokens. -/

namespace Torc

namespace TorcScheduler

open Prog

/-- `--k1=v1 --k2=v2 … --kn=vn`, the Docker flags of a list of keys and values. -/
def flagString : List (String × String) → String
  | [] => ""
  | [(key, value)] => "--" ++ key ++ "=" ++ value
  | (key, value) :: flags => "--" ++ key ++ "=" ++ value ++ " " ++ flagString flags

/-- The tokens `t0 t1 t2 t3 …` paired in order: `(t0, t1), (t2, t3), …`. -/
def pairUp : List String → List Mesos.Parameter
  | key :: value :: tokens => ⟨key, value⟩ :: pairUp tokens
  | _ => []

/-- A token of a flag: not empty, and free of `-`, `=` and space. -/
def PlainToken (s : String) : Prop := s ≠ "" ∧ ∀ c ∈ s.data, c ≠ '-' ∧ c ≠ '=' ∧ c ≠ ' '

instance : DecidablePred PlainToken := fun _ => inferInstanceAs (Decidable (_ ∧ _))

/-! ### The pairing loop -/

theorem parameterLoop_even : ∀ (tokens : List String) (count : Nat), tokens.length % 2 = 0 →
    tokens ≠ [] → parameterLoop (count + tokens.length) count tokens = .ok (pairUp tokens)
  | [], _, _, h => absurd rfl h
  | [_], _, h, _ => by simp at h
  | [key, value], count, _, _ => by simp [parameterLoop, pairUp]
  | key :: value :: token :: tokens, count, h, _ => by
    have ih := parameterLoop_even (token :: tokens) (count + 2) (by simp at h ⊢; omega)
      (List.cons_ne_nil _ _)
    simp only [List.length_cons] at ih ⊢
    rw [parameterLoop, if_neg (by omega),
      show count + (tokens.length + 1 + 1 + 1) = count + 2 + (tokens.length + 1) by omega, ih]
    rfl

theorem parameterLoop_odd : ∀ (tokens : List String) (count : Nat), tokens.length % 2 = 1 →
    parameterLoop (count + tokens.length) count tokens =
      .error (indexOutOfBounds (count + tokens.length) (count + tokens.length))
  | [], _, h => by simp at h
  | [_], _, _ => rfl
  | [_, _], _, h => by simp at h
  | key :: value :: token :: tokens, count, h => by
    have ih := parameterLoop_odd (token :: tokens) (count + 2) (by simp at h ⊢; omega)
    simp only [List.length_cons] at ih ⊢
    rw [parameterLoop, if_neg (by omega),
      show count + (tokens.length + 1 + 1 + 1) = count + 2 + (tokens.length + 1) by omega, ih]
    rfl

/-- What the parameter code of the callback gives for every string: nothing for the empty one, the
tokens paired in order when there are an even number of them and at least two, and otherwise the
panic of the read one past the last token. -/
theorem dockerParameters_eq (parameters : String) :
    dockerParameters parameters =
      let elmts := splitNonEmpty isParameterSeparator parameters
      if parameters.length > 0 then
        if elmts.length % 2 = 0 ∧ elmts ≠ [] then .ok (pairUp elmts)
        else .error (indexOutOfBounds elmts.length elmts.length)
      else .ok [] := by
  unfold dockerParameters
  dsimp only
  split_ifs with h0 heven
  · simpa using parameterLoop_even _ 0 heven.1 heven.2
  · rcases Nat.mod_two_eq_zero_or_one (splitNonEmpty isParameterSeparator parameters).length
      with h | h
    · rw [of_not_not fun hne => heven ⟨h, hne⟩]
      rfl
    · simpa using parameterLoop_odd _ 0 h
  · rfl

/-- A task whose parameter string is a single space, on the host network. -/
def blankParametersTask : Task := { dnsA with parameters := " " }

/-- The parameter string ` ` is not empty and has no token, an even number; the loop reads the
first token all the same, and the callback that matches the task panics there, with no launch. -/
theorem offers_blank_parameters_panic :
    " ".length > 0 ∧ splitNonEmpty isParameterSeparator " " = [] ∧
    dockerParameters " " = .error (indexOutOfBounds 0 0) ∧
    (run ⟨fun _ => true, 0⟩ (offers [emptyOffer "o1"])
      { State.new "" with taskList := (∅ : TaskList).addNewTask blankParametersTask }).result =
      .error (indexOutOfBounds 0 0) ∧
    (run ⟨fun _ => true, 0⟩ (offers [emptyOffer "o1"])
      { State.new "" with taskList := (∅ : TaskList).addNewTask blankParametersTask }).calls = [] :=
  ⟨by decide, by decide, rfl, rfl, by decide⟩

/-! ### Flags -/

theorem splitNonEmpty_plainToken {s : String} (h : PlainToken s) :
    splitNonEmpty isParameterSeparator ⟨s.data⟩ = [s] :=
  splitNonEmpty_of_forall h.1 fun c hc => by simp [isParameterSeparator, h.2 c hc]

theorem flagString_data_single (key value : String) :
    (flagString [(key, value)]).data = '-' :: '-' :: (key.data ++ '=' :: value.data) := by
  simp [flagString]

theorem flagString_data_cons (key value : String) (flag : String × String)
    (flags : List (String × String)) :
    (flagString ((key, value) :: flag :: flags)).data =
      '-' :: '-' :: (key.data ++ '=' :: (value.data ++ ' ' :: (flagString (flag :: flags)).data)) := by
  simp [flagString]

/-- The tokens of plain flags are their keys and values in order. -/
theorem splitNonEmpty_flagString : ∀ {flags : List (String × String)},
    (∀ flag ∈ flags, PlainToken flag.1 ∧ PlainToken flag.2) →
    splitNonEmpty isParameterSeparator (flagString flags) = flags.flatMap fun flag => [flag.1, flag.2]
  | [], _ => rfl
  | [(key, value)], h => by
    obtain ⟨hkey, hvalue⟩ : PlainToken key ∧ PlainToken value := h _ (.head _)
    show splitNonEmpty _ ⟨(flagString [(key, value)]).data⟩ = _
    rw [flagString_data_single, splitNonEmpty_cons rfl, splitNonEmpty_cons rfl,
      splitNonEmpty_append_cons rfl, splitNonEmpty_plainToken hkey, splitNonEmpty_plainToken hvalue]
    rfl
  | (key, value) :: flag :: flags, h => by
    obtain ⟨hkey, hvalue⟩ : PlainToken key ∧ PlainToken value := h _ (.head _)
    have ih := splitNonEmpty_flagString fun f hf => h f (.tail _ hf)
    show splitNonEmpty _ ⟨(flagString ((key, value) :: flag :: flags)).data⟩ = _
    rw [flagString_data_cons, splitNonEmpty_cons rfl, splitNonEmpty_cons rfl,
      splitNonEmpty_append_cons rfl, splitNonEmpty_append_cons rfl, splitNonEmpty_plainToken hkey,
      splitNonEmpty_plainToken hvalue]
    exact congrArg _ (congrArg _ ih)

/-- ` --net=<type>` adds the tokens `net` and the type. -/
theorem splitNonEmpty_net (s : String) {networkType : String} (h : PlainToken networkType) :
    splitNonEmpty isParameterSeparator (s ++ " --net=" ++ networkType) =
      splitNonEmpty isParameterSeparator s ++ ["net", networkType] := by
  have hdata : s ++ " --net=" ++ networkType =
      ⟨s.data ++ ' ' :: '-' :: '-' :: ("net".data ++ '=' :: networkType.data)⟩ :=
    String.ext (by simp)
  rw [hdata, splitNonEmpty_append_cons rfl, splitNonEmpty_cons rfl, splitNonEmpty_cons rfl,
    splitNonEmpty_append_cons rfl, splitNonEmpty_plainToken (s := "net") (by decide),
    splitNonEmpty_plainToken h]
  rfl

theorem pairUp_flatMap (flags : List (String × String)) :
    pairUp (flags.flatMap fun flag => [flag.1, flag.2]) = flags.map fun flag => ⟨flag.1, flag.2⟩ := by
  induction flags with
  | nil => rfl
  | cons flag flags ih =>
    show pairUp (flag.1 :: flag.2 :: flags.flatMap _) = _
    rw [pairUp, ih]
    rfl

theorem length_flatMap_pair (flags : List (String × String)) :
    (flags.flatMap fun flag => [flag.1, flag.2]).length = 2 * flags.length := by
  induction flags with
  | nil => rfl
  | cons flag flags ih =>
    show (flag.1 :: flag.2 :: flags.flatMap _).length = _
    simp only [List.length_cons, ih]
    omega

/-- A string whose tokens are the keys and values of some flags, at least one, has those flags as
parameters. -/
theorem dockerParameters_of_tokens {parameters : String} {flags : List (String × String)}
    (hne : flags ≠ [])
    (h : splitNonEmpty isParameterSeparator parameters = flags.flatMap fun flag => [flag.1, flag.2]) :
    dockerParameters parameters = .ok (flags.map fun flag => ⟨flag.1, flag.2⟩) := by
  have htokens : flags.flatMap (fun flag => [flag.1, flag.2]) ≠ [] := by
    cases flags with
    | nil => exact absurd rfl hne
    | cons flag flags => exact List.cons_ne_nil _ _
  have hlen : parameters.length > 0 := by
    refine Nat.pos_of_ne_zero fun h0 => htokens ?_
    rw [← h]
    simp [splitNonEmpty, String.toList, List.eq_nil_of_length_eq_zero h0]
  rw [dockerParameters_eq]
  simp only [h, if_pos hlen]
  rw [if_pos ⟨by rw [length_flatMap_pair]; omega, htokens⟩, pairUp_flatMap]

/-! ### The descriptor -/

theorem taskInfo_docker {task : Task} {parameters : List Mesos.Parameter}
    (h : dockerParameters (network task).2 = .ok parameters) (slaveId : String) :
    (taskInfo task slaveId).map (fun info => (info.container.docker.network,
      info.container.docker.parameters)) = .ok ((network task).1, parameters) := by
  rw [taskInfo, h]
  rfl

theorem network_of_enum {task : Task} {net : Mesos.Network}
    (h : (task.networkType, net) ∈ [("host", .host), ("bridge", .bridge), ("none", .none)]) :
    network task = (some net, task.parameters) := by
  simp only [List.mem_cons, Prod.mk.injEq, List.mem_singleton, List.not_mem_nil, or_false] at h
  unfold network
  rcases h with ⟨h, rfl⟩ | ⟨h, rfl⟩ | ⟨h, rfl⟩ <;> rw [h] <;> rfl

theorem network_of_other {task : Task} (h : task.networkType ∉ ["host", "bridge", "none"]) :
    network task = (none, task.parameters ++ " --net=" ++ task.networkType) := by
  simp only [List.mem_cons, List.mem_singleton, List.not_mem_nil, or_false, not_or] at h
  unfold network
  split <;> simp_all

/-- Plain flags come back as the descriptor's Docker parameters, in order: alone, with the
network as its enum, for the network types `host`, `bridge` and `none`; followed by the flag
`net` and the type for any other type that is itself a plain token. -/
theorem taskInfo_flagString (task : Task) (slaveId : String) {flags : List (String × String)}
    (hflags : ∀ flag ∈ flags, PlainToken flag.1 ∧ PlainToken flag.2)
    (hparameters : task.parameters = flagString flags) :
    (∀ net, (task.networkType, net) ∈ [("host", .host), ("bridge", .bridge), ("none", .none)] →
      (taskInfo task slaveId).map (fun info => (info.container.docker.network,
        info.container.docker.parameters)) = .ok (some net, flags.map fun flag => ⟨flag.1, flag.2⟩)) ∧
    (task.networkType ∉ ["host", "bridge", "none"] → PlainToken task.networkType →
      (taskInfo task slaveId).map (fun info => (info.container.docker.network,
        info.container.docker.parameters)) =
        .ok (none, (flags ++ [("net", task.networkType)]).map fun flag => ⟨flag.1, flag.2⟩)) := by
  constructor
  · intro net hnet
    have hparams : dockerParameters (network task).2 = .ok (flags.map fun flag => ⟨flag.1, flag.2⟩) := by
      rw [network_of_enum hnet, hparameters]
      cases flags with
      | nil => rfl
      | cons flag flags =>
        exact dockerParameters_of_tokens (List.cons_ne_nil _ _) (splitNonEmpty_flagString hflags)
    rw [taskInfo_docker hparams, network_of_enum hnet]
  · intro hother hplain
    have htokens : splitNonEmpty isParameterSeparator (network task).2 =
        (flags ++ [("net", task.networkType)]).flatMap fun flag => [flag.1, flag.2] := by
      rw [network_of_other hother, hparameters, splitNonEmpty_net _ hplain,
        splitNonEmpty_flagString hflags, List.flatMap_append]
      rfl
    rw [taskInfo_docker (dockerParameters_of_tokens (by simp) htokens), network_of_other hother]

theorem taskInfo_flagString_net :
    (∀ flag ∈ [("log", "json")], PlainToken flag.1 ∧ PlainToken flag.2) ∧
    { dnsA with parameters := flagString [("log", "json")], networkType := "overlay" }.parameters =
      flagString [("log", "json")] ∧
    { dnsA with parameters := flagString [("log", "json")], networkType := "overlay" }.networkType ∉
      ["host", "bridge", "none"] ∧
    PlainToken { dnsA with parameters := flagString [("log", "json")], networkType := "overlay" }.networkType ∧
    (taskInfo { dnsA with parameters := flagString [("log", "json")], networkType := "overlay" } "s1").map
      (fun info => (info.container.docker.network, info.container.docker.parameters)) =
      .ok (none, ([("log", "json")] ++ [("net", "overlay")]).map fun flag => ⟨flag.1, flag.2⟩) :=
  have hflags : ∀ flag ∈ [("log", "json")], PlainToken flag.1 ∧ PlainToken flag.2 := by decide
  have hother : "overlay" ∉ ["host", "bridge", "none"] := by decide
  have hplain : PlainToken "overlay" := by decide
  ⟨hflags, rfl, hother, hplain,
    (taskInfo_flagString { dnsA with parameters := flagString [("log", "json")], networkType := "overlay" }
      "s1" hflags rfl).2 hother hplain⟩

/-- The task `dns-a` with the flag `--log-driver=json`, on the host network. -/
def logDriverTask : Task := { dnsA with parameters := flagString [("log-driver", "json")] }

/-- The task `dns-a` with the flag `--opt=a=b`, on the host network. -/
def optTask : Task := { dnsA with parameters := flagString [("opt", "a=b")] }

/-- The task `dns-a` with no flags, on the network `my-net`. -/
def myNetTask : Task := { dnsA with networkType := "my-net" }

/-- Three descriptors that are never built, each from flags whose keys have no `=` and no space
and whose values and network type have no space: a hyphen in the key `log-driver`, an `=` in the
value `a=b`, and a hyphen in the network type `my-net` each make three tokens, which do not pair,
and the loop panics reading a fourth. -/
theorem taskInfo_separator_in_flag_panics :
    ("log-driver" ≠ "" ∧ '=' ∉ "log-driver".data ∧ ' ' ∉ "log-driver".data ∧ "json" ≠ "" ∧
      ' ' ∉ "json".data ∧ logDriverTask.networkType = "host" ∧
      taskInfo logDriverTask "s1" = .error (indexOutOfBounds 3 3)) ∧
    ("opt" ≠ "" ∧ '=' ∉ "opt".data ∧ ' ' ∉ "opt".data ∧ "a=b" ≠ "" ∧ ' ' ∉ "a=b".data ∧
      optTask.networkType = "host" ∧ taskInfo optTask "s1" = .error (indexOutOfBounds 3 3)) ∧
    (myNetTask.parameters = flagString [] ∧ "my-net" ≠ "" ∧ ' ' ∉ "my-net".data ∧
      myNetTask.networkType ∉ ["host", "bridge", "none"] ∧
      taskInfo myNetTask "s1" = .error (indexOutOfBounds 3 3)) :=
  ⟨⟨by decide, by decide, by decide, by decide, by decide, rfl, rfl⟩,
    ⟨by decide, by decide, by decide, by decide, by decide, rfl, rfl⟩,
    ⟨rfl, by decide, by decide, by decide, rfl⟩⟩

end TorcScheduler

end Torc
