import ContractCompiler.Proofs.Generation.ReadOnly
import ContractCompiler.Proofs.State.References

/-!
# Chains of members and lookups

A chain starts at an identifier and goes on by members and lookups (`Node.reach`). Lowering it
lowers the keys of its lookups in the order of the steps, and nothing else in it can fail
(`Node.chain_returned`).

What the chain becomes is decided by the identifier and by the kinds of the steps. A chain is state
exactly if it goes from `$state` to a member and from there on by lookups only: without a lookup it
is the item of that name, and otherwise the map of that name with all the keys. Any other chain is
opaque after its first step, or after the first member that follows a state, and no step makes an
opaque value state again (`Value.Opaque.reach`). Whatever is reached through a member of `$msg` is
built on the text of that member of the host's message info (`Value.BuiltOn.reach`).
-/

namespace ContractCompiler

set_option autoImplicit false

/-! ## Lowering a chain -/

/-- The key of a step, if it is a lookup. -/
def Access.key? : Access → Option Node
  | .member _ => none
  | .lookup key => some key

/-- The keys of the lookups among the steps, in order. -/
def keysOf (steps : List Access) : List Node :=
  steps.filterMap Access.key?

/-- Goes one step further than a value. -/
def Value.access (renderer : Renderer) (base : Value) : Access → Value
  | .member name => base.memberOf name
  | .lookup key => base.index (key.value renderer)

/-- What is reached from a value by steps in order. -/
def Value.reach (renderer : Renderer) (base : Value) (steps : List Access) : Value :=
  steps.foldl (Value.access renderer) base

/-- The first fault in lowering a node, if there is one. -/
def Node.firstFault? (renderer : Renderer) (env : Env) (node : Node) : Option Fault :=
  (node.events renderer).findSome? (·.fault? renderer env)

section Lowering

variable (renderer : Renderer) (env : Env)

/-- Lowering a node returns its first fault, or else its value. -/
theorem Node.lower_returned (node : Node) :
    returned (node.lower renderer env) =
      faultOr (node.value renderer) (node.firstFault? renderer env) := by
  rw [Node.lower_eq_replay, replay_returned]
  rfl

/-- The value of a chain is reached by the same steps. -/
theorem Node.value_reach (steps : List Access) (root : Node) :
    (root.reach steps).value renderer = (root.value renderer).reach renderer steps := by
  induction steps generalizing root with
  | nil => rfl
  | cons step rest ih =>
      have onward : (root.access step).value renderer =
          (root.value renderer).access renderer step := by
        cases step <;> rw [Node.access, Node.value, Value.access]
      show ((root.access step).reach rest).value renderer =
        ((root.value renderer).access renderer step).reach renderer rest
      rw [ih, onward]

/-- The events of a chain are those of its root and of its keys. -/
theorem Node.events_reach (steps : List Access) (root : Node) :
    (root.reach steps).events renderer =
      root.events renderer ++ (keysOf steps).flatMap (Node.events renderer) := by
  induction steps generalizing root with
  | nil => simp [Node.reach, keysOf]
  | cons step rest ih =>
      show ((root.access step).reach rest).events renderer = _
      rw [ih]
      cases step with
      | member name =>
          have noKey : keysOf (.member name :: rest) = keysOf rest := rfl
          rw [Node.access, Node.events, noKey]
      | lookup key =>
          have first : keysOf (.lookup key :: rest) = key :: keysOf rest := rfl
          rw [Node.access, Node.events, List.append_assoc, first, List.flatMap_cons]

/-- The first fault in lowering nodes one after another is that of the first node that has one. -/
theorem Node.firstFault?_flatMap (nodes : List Node) :
    (nodes.flatMap (Node.events renderer)).findSome? (·.fault? renderer env) =
      nodes.findSome? (Node.firstFault? renderer env) := by
  induction nodes with
  | nil => rfl
  | cons node rest ih =>
      rw [List.flatMap_cons, List.findSome?_append, ih, List.findSome?_cons, Node.firstFault?]
      cases (node.events renderer).findSome? (·.fault? renderer env) <;> rfl

/-- **Lowering a chain** fails with the fault of the first key that has one. -/
theorem Node.chain_returned (root : String) (steps : List Access) :
    returned (((Node.ident root).reach steps).lower renderer env) =
      faultOr ((Value.fragment root).reach renderer steps)
        ((keysOf steps).findSome? (Node.firstFault? renderer env)) := by
  rw [Node.lower_returned, Node.value_reach, Node.value, Node.firstFault?, Node.events_reach,
    Node.events, List.nil_append, Node.firstFault?_flatMap]

variable {renderer env}

/-- A node that is lowered has no fault and gives its value. -/
theorem Node.lower_ok {node : Node} {value : Value}
    (lowered : returned (node.lower renderer env) = .ok value) :
    node.firstFault? renderer env = none ∧ value = node.value renderer := by
  rw [Node.lower_returned] at lowered
  cases found : node.firstFault? renderer env with
  | none =>
      rw [found] at lowered
      cases lowered
      exact ⟨rfl, rfl⟩
  | some fault =>
      rw [found] at lowered
      cases lowered

/-- A node that is not lowered fails with its first fault. -/
theorem Node.lower_error {node : Node} {fault : Fault}
    (failed : returned (node.lower renderer env) = .error fault) :
    node.firstFault? renderer env = some fault := by
  rw [Node.lower_returned] at failed
  cases found : node.firstFault? renderer env with
  | none =>
      rw [found] at failed
      cases failed
  | some first =>
      rw [found] at failed
      cases failed
      rfl

/-- Nodes that are all lowered have no fault and give their values. -/
theorem Node.lower_ok_all {nodes : List Node} {values : List Value}
    (lowered : nodes.map (fun node => returned (node.lower renderer env)) = values.map .ok) :
    nodes.findSome? (Node.firstFault? renderer env) = none ∧
      values = nodes.map (Node.value renderer) := by
  induction nodes generalizing values with
  | nil =>
      cases values with
      | nil => exact ⟨rfl, rfl⟩
      | cons value rest => cases lowered
  | cons node rest ih =>
      cases values with
      | nil => cases lowered
      | cons value others =>
          obtain ⟨first, later⟩ := List.cons.inj lowered
          obtain ⟨passes, rfl⟩ := Node.lower_ok first
          obtain ⟨restPass, rfl⟩ := ih later
          refine ⟨?_, rfl⟩
          rw [List.findSome?_cons, passes]
          exact restPass

end Lowering

/-! ## State with keys -/

namespace Value

/-- State with the keys applied to it: an item, or a map if there are any. -/
def ofState (name : String) : List Value → Value
  | [] => .item name
  | key :: rest => .map name (key :: rest)

/-- A lookup in state adds a key. -/
theorem index_ofState (name : String) (keys : List Value) (key : Value) :
    (ofState name keys).index key = ofState name (keys ++ [key]) := by
  cases keys <;> rfl

/-- Lookups in state add their keys in order. -/
theorem reach_lookups (renderer : Renderer) (name : String) (nodes : List Node)
    (keys : List Value) :
    (ofState name keys).reach renderer (nodes.map .lookup) =
      ofState name (keys ++ nodes.map (Node.value renderer)) := by
  induction nodes generalizing keys with
  | nil => rw [List.map_nil, List.map_nil, List.append_nil, reach, List.foldl_nil]
  | cons node rest ih =>
      show ((ofState name keys).index (node.value renderer)).reach renderer (rest.map .lookup) = _
      rw [index_ofState, ih, List.append_assoc, List.map_cons]
      rfl

theorem ofState_eq_item {name other : String} {keys : List Value}
    (same : ofState name keys = .item other) : name = other ∧ keys = [] := by
  cases keys with
  | nil => exact ⟨Value.item.inj same, rfl⟩
  | cons => cases same

theorem ofState_eq_map {name other : String} {keys others : List Value}
    (same : ofState name keys = .map other others) : name = other ∧ keys = others ∧ keys ≠ [] := by
  cases keys with
  | nil => cases same
  | cons key rest =>
      obtain ⟨named, listed⟩ := Value.map.inj same
      exact ⟨named, listed, List.cons_ne_nil key rest⟩

/-! ## Opaque values -/

/-- A value that is not state and has no members that are. -/
structure Opaque (value : Value) : Prop where
  notState : value.isState = false
  notRoot : value ≠ .fragment stateRoot

/-- A member of anything but the text `$state` is opaque. -/
theorem Opaque.memberOf {base : Value} (other : base ≠ .fragment stateRoot) (name : String) :
    (base.memberOf name).Opaque where
  notState := by
    have plain := (memberOf_of_ne other name).2
    cases value : base.memberOf name with
    | item | map =>
        rw [value] at plain
        cases plain
    | fragment | lookup | member | binary => rfl
  notRoot := memberOf_ne_stateRoot base name

/-- A lookup in what is not state is opaque. -/
theorem Opaque.index {base : Value} (plain : base.isState = false) (key : Value) :
    (base.index key).Opaque where
  notState := by
    cases base with
    | item | map => cases plain
    | fragment | lookup | member | binary => rfl
  notRoot := index_ne_fragment base key stateRoot

theorem Opaque.access {value : Value} (opaqueValue : value.Opaque) (renderer : Renderer)
    (step : Access) : (value.access renderer step).Opaque := by
  cases step with
  | member name => exact .memberOf opaqueValue.notRoot name
  | lookup key => exact .index opaqueValue.notState _

/-- **What is reached from an opaque value is opaque.** -/
theorem Opaque.reach {value : Value} (opaqueValue : value.Opaque) (renderer : Renderer)
    (steps : List Access) : (value.reach renderer steps).Opaque := by
  induction steps generalizing value with
  | nil => exact opaqueValue
  | cons step rest ih => exact ih (opaqueValue.access renderer step)

/-! ## Values built on a text -/

/-- What a value is a member of or looked up in, all the way down. -/
def innermost : Value → Value
  | .lookup base _ => base.innermost
  | .member base _ => base.innermost
  | value => value

/-- A value that is built on a text, or on the text with further members. -/
def BuiltOn (start : String) (value : Value) : Prop :=
  ∃ text, value.innermost = .fragment text ∧
    (text = start ∨ ∃ further, text = start ++ "." ++ further)

/-- A step from a value that is built on a member of something is built on that member. -/
theorem BuiltOn.access {owner field : String} {value : Value}
    (built : value.BuiltOn (owner ++ "." ++ field)) (renderer : Renderer) (step : Access) :
    (value.access renderer step).BuiltOn (owner ++ "." ++ field) := by
  obtain ⟨text, base, longer⟩ := built
  have dotted : ∀ {root : String}, '.' ∉ root.toList → text ≠ root := by
    intro root plain
    rcases longer with rfl | ⟨further, rfl⟩
    · exact dotted_ne plain owner field
    · exact dotted_ne plain (owner ++ "." ++ field) further
  cases value with
  | item | map => cases base
  | binary => cases base
  | fragment own =>
      have same : own = text := Value.fragment.inj base
      subst same
      cases step with
      | member name =>
          -- Neither reserved text has a full stop in it, so the texts are joined.
          have joined : (Value.fragment own).memberOf name = .fragment (own ++ "." ++ name) := by
            rw [Value.memberOf, if_neg (dotted (by decide)), if_neg (dotted (by decide))]
          refine ⟨own ++ "." ++ name, ?_, .inr ?_⟩
          · rw [Value.access, joined, innermost]
            all_goals exact nofun
          · rcases longer with rfl | ⟨further, rfl⟩
            · exact ⟨name, rfl⟩
            · exact ⟨further ++ "." ++ name, by simp only [String.append_assoc]⟩
      | lookup key => exact ⟨own, rfl, longer⟩
  | lookup inner key => cases step <;> exact ⟨text, base, longer⟩
  | member inner name => cases step <;> exact ⟨text, base, longer⟩

/-- **What is reached from a member is built on it.** -/
theorem BuiltOn.reach {owner field : String} {value : Value}
    (built : value.BuiltOn (owner ++ "." ++ field)) (renderer : Renderer) (steps : List Access) :
    (value.reach renderer steps).BuiltOn (owner ++ "." ++ field) := by
  induction steps generalizing value with
  | nil => exact built
  | cons step rest ih => exact ih (built.access renderer step)

end Value

/-! ## What a chain becomes -/

/-- Steps are all lookups, or there is a first one that goes to a member. -/
theorem Access.lookups_or_member (steps : List Access) :
    (∃ nodes : List Node, steps = nodes.map .lookup) ∨
      ∃ (nodes : List Node) (name : String) (rest : List Access),
        steps = nodes.map .lookup ++ .member name :: rest := by
  induction steps with
  | nil => exact .inl ⟨[], rfl⟩
  | cons step rest ih =>
      cases step with
      | member name => exact .inr ⟨[], name, rest, rfl⟩
      | lookup key =>
          rcases ih with ⟨nodes, rfl⟩ | ⟨nodes, name, more, rfl⟩
          · exact .inl ⟨key :: nodes, rfl⟩
          · exact .inr ⟨key :: nodes, name, more, rfl⟩

/-- The keys of steps that are all lookups. -/
theorem keysOf_lookups (nodes : List Node) : keysOf (nodes.map .lookup) = nodes := by
  rw [keysOf, List.filterMap_map]
  exact List.filterMap_some

section Shapes

variable (renderer : Renderer)

/-- A chain of lookups on a member of `$state` is the state of that name. -/
theorem chain_state (name : String) (nodes : List Node) :
    (Value.fragment stateRoot).reach renderer (.member name :: nodes.map .lookup) =
      .ofState name (nodes.map (Node.value renderer)) :=
  Value.reach_lookups renderer name nodes []

/-- **A chain is state or opaque.** It is state only in the form `$state.x[…]…[…]`. -/
theorem chain_cases (root : String) (steps : List Access) :
    (root = stateRoot ∧ ∃ name, ∃ nodes : List Node, steps = .member name :: nodes.map .lookup) ∨
      ((Value.fragment root).reach renderer steps).isState = false := by
  cases steps with
  | nil => exact .inr rfl
  | cons first rest =>
      cases first with
      | lookup key =>
          have opaqueStart : ((Value.fragment root).index (key.value renderer)).Opaque :=
            .index rfl _
          exact .inr (opaqueStart.reach renderer rest).notState
      | member name =>
          by_cases isRoot : root = stateRoot
          · subst isRoot
            rcases Access.lookups_or_member rest with ⟨nodes, rfl⟩ | ⟨nodes, field, more, rfl⟩
            · exact .inl ⟨rfl, name, nodes, rfl⟩
            · -- A member of state is opaque.
              refine .inr ?_
              have split : (Value.fragment stateRoot).reach renderer
                    (.member name :: (nodes.map .lookup ++ .member field :: more)) =
                  ((Value.ofState name (nodes.map (Node.value renderer))).memberOf field).reach
                    renderer more := by
                rw [← chain_state renderer name nodes]
                simp only [Value.reach, List.foldl_cons, List.foldl_append]
                rfl
              have opaqueMember :
                  ((Value.ofState name (nodes.map (Node.value renderer))).memberOf field).Opaque :=
                .memberOf (by cases nodes <;> exact nofun) field
              rw [split]
              exact (opaqueMember.reach renderer more).notState
          · have opaqueStart : ((Value.fragment root).memberOf name).Opaque :=
              .memberOf (fun same => isRoot (Value.fragment.inj same)) name
            exact .inr (opaqueStart.reach renderer rest).notState

/-- A chain is an item exactly if it is a member of `$state`. -/
theorem chain_eq_item_iff (root : String) (steps : List Access) (name : String) :
    (Value.fragment root).reach renderer steps = .item name ↔
      root = stateRoot ∧ steps = [.member name] := by
  constructor
  · intro isItem
    rcases chain_cases renderer root steps with ⟨rfl, field, nodes, rfl⟩ | plain
    · rw [chain_state] at isItem
      obtain ⟨rfl, noKeys⟩ := Value.ofState_eq_item isItem
      rw [List.map_eq_nil_iff.mp noKeys]
      exact ⟨rfl, rfl⟩
    · rw [isItem] at plain
      cases plain
  · rintro ⟨rfl, rfl⟩
    rfl

/-- A chain is a map exactly if it goes on from a member of `$state` by lookups, one or more. -/
theorem chain_eq_map_iff (root : String) (steps : List Access) (name : String)
    (keys : List Value) :
    (Value.fragment root).reach renderer steps = .map name keys ↔
      root = stateRoot ∧ ∃ nodes : List Node, nodes ≠ [] ∧
        steps = .member name :: nodes.map .lookup ∧ keys = nodes.map (Node.value renderer) := by
  constructor
  · intro isMap
    rcases chain_cases renderer root steps with ⟨rfl, field, nodes, rfl⟩ | plain
    · rw [chain_state] at isMap
      obtain ⟨rfl, rfl, some⟩ := Value.ofState_eq_map isMap
      exact ⟨rfl, nodes, fun none => some (congrArg (List.map _) none), rfl, rfl⟩
    · rw [isMap] at plain
      cases plain
  · rintro ⟨rfl, nodes, some, rfl, rfl⟩
    rw [chain_state]
    cases nodes with
    | nil => exact absurd rfl some
    | cons node rest => rfl

/-- A chain that goes to a member of `$msg` is built on that member of the message info. -/
theorem chain_message (name : String) (rest : List Access) :
    ((Value.fragment messageRoot).reach renderer (.member name :: rest)).BuiltOn
      (messageInfo ++ "." ++ name) := by
  have start : (Value.fragment (messageInfo ++ "." ++ name)).BuiltOn (messageInfo ++ "." ++ name) :=
    ⟨_, rfl, .inl rfl⟩
  exact start.reach renderer rest

end Shapes

/-- **Lowering a chain.** If a key cannot be lowered, the chain fails as the first such key does. If
all keys are lowered to `values`, the chain is lowered. It becomes an item exactly if it is a member
of `$state`, a map with those keys exactly if it goes on from such a member by lookups only, one or
more, and in no other form does it become state. What goes to a member of `$msg` is built on that
member of the host's message info. -/
theorem Node.lower_chain (renderer : Renderer) (env : Env) (root : String) (steps : List Access) :
    (∀ before key after fault, keysOf steps = before ++ key :: after →
      (∀ earlier ∈ before, ∃ value, returned (earlier.lower renderer env) = .ok value) →
      returned (key.lower renderer env) = .error fault →
      returned (((Node.ident root).reach steps).lower renderer env) = .error fault) ∧
    ∀ values,
      (keysOf steps).map (fun key => returned (key.lower renderer env)) = values.map .ok →
      ∃ value, returned (((Node.ident root).reach steps).lower renderer env) = .ok value ∧
        (∀ name, value = .item name ↔ root = stateRoot ∧ steps = [.member name]) ∧
        (∀ name keys, value = .map name keys ↔ root = stateRoot ∧ ∃ nodes : List Node,
          nodes ≠ [] ∧ steps = .member name :: nodes.map .lookup ∧ keys = values) ∧
        (value.isState = true ↔ root = stateRoot ∧ ∃ name, ∃ nodes : List Node,
          steps = .member name :: nodes.map .lookup) ∧
        ∀ name rest, root = messageRoot → steps = .member name :: rest →
          value.BuiltOn ("info." ++ name) := by
  rw [Node.chain_returned]
  refine ⟨?_, ?_⟩
  · intro before key after fault split passing failing
    have nothing : before.findSome? (Node.firstFault? renderer env) = none := by
      rw [List.findSome?_eq_none_iff]
      intro earlier inBefore
      obtain ⟨value, lowered⟩ := passing earlier inBefore
      exact (Node.lower_ok lowered).1
    rw [split, List.findSome?_append, nothing, Option.none_or, List.findSome?_cons,
      Node.lower_error failing]
    rfl
  · intro values lowered
    obtain ⟨nothing, rfl⟩ := Node.lower_ok_all lowered
    rw [nothing]
    refine ⟨_, rfl, chain_eq_item_iff renderer root steps, ?_, ?_, ?_⟩
    · intro name keys
      rw [chain_eq_map_iff]
      refine and_congr_right fun _ => exists_congr fun nodes => and_congr_right fun _ =>
        and_congr_right fun form => ?_
      have allKeys : keysOf steps = nodes := by
        rw [form]
        exact keysOf_lookups nodes
      rw [allKeys]
    · constructor
      · intro isState
        rcases chain_cases renderer root steps with form | plain
        · exact form
        · rw [plain] at isState
          cases isState
      · rintro ⟨rfl, name, nodes, rfl⟩
        rw [chain_state]
        cases nodes <;> rfl
    · rintro name rest rfl rfl
      exact chain_message renderer name rest

/-- A chain of each form: `$state.m[a][return][emit e]` fails at its second key in a strict
generation, `$state.m[a][$state.k]` is a map, and `$msg.funds[0].amount` is built on
`info.funds`. -/
theorem chains_lowered :
    returned (((Node.ident stateRoot).reach [.member "m", .lookup (.ident "a"),
        .lookup (.ret none), .lookup (.emit (.ident "e"))]).lower nameTemplate
        { fallback := .strict, frames := [.exec "f"] }) =
      .error ⟨"exec f", .generation (.unsupportedNode "return")⟩ ∧
    returned (((Node.ident stateRoot).reach [.member "m", .lookup (.ident "a"),
        .lookup (.state "k")]).lower nameTemplate {}) =
      .ok (.map "m" [.fragment "a", .item "k"]) ∧
    ∃ value, returned (((Node.ident messageRoot).reach [.member "funds",
        .lookup (.literal (.int "0")), .member "amount"]).lower nameTemplate {}) = .ok value ∧
      value.BuiltOn "info.funds" := by
  refine ⟨?_, ?_, ?_⟩
  · refine (Node.lower_chain nameTemplate _ stateRoot _).1 [.ident "a"] (.ret none)
      [.emit (.ident "e")] _ rfl ?_ rfl
    intro earlier first
    rw [List.mem_singleton.mp first]
    exact ⟨.fragment "a", rfl⟩
  · obtain ⟨value, lowered, _, isMap, _, _⟩ := (Node.lower_chain nameTemplate {} stateRoot
      [.member "m", .lookup (.ident "a"), .lookup (.state "k")]).2 [.fragment "a", .item "k"] rfl
    rw [lowered, (isMap "m" [.fragment "a", .item "k"]).mpr
      ⟨rfl, [.ident "a", .state "k"], List.cons_ne_nil _ _, rfl, rfl⟩]
  · obtain ⟨value, lowered, _, _, _, onMessage⟩ := (Node.lower_chain nameTemplate {} messageRoot
      [.member "funds", .lookup (.literal (.int "0")), .member "amount"]).2 [.fragment "0"] rfl
    exact ⟨value, lowered, onMessage "funds" _ rfl rfl⟩

end ContractCompiler
