import ContractCompiler.Proofs.Generation.Replay

/-!
# The events of lowering

Lowering a node is a replay (`Node.lower_eq_replay`). Its events are read off the tree: a construct
is verified, then come the events of the parts that are lowered, in source order, and then its
binding is rendered; an expression has the events of its operands, left to right; a node without a
lowering is one event of its own. Contracts within a body have no events there, and in the body of
a contract neither have state declarations.

The bindings of the render events hold values, and values hold the texts of inner constructs. Both
are given by plain recursion over the tree (`Node.value`, `Node.binding?`), as they come out if
nothing fails. Since the replay stops at the first event that fails, they are never looked at
beyond it.
-/

namespace ContractCompiler

set_option autoImplicit false

/-! ## Values and bindings -/

mutual

/-- The value of a node, if nothing fails in lowering it. -/
def Node.value (renderer : Renderer) : Node → Value
  | .contract name body =>
      .fragment (textOf renderer
        (.ofContract name (stateDecls body) (Node.valuesExcept renderer Node.isLeftToUnit body)))
  | .exec name params body =>
      .fragment (textOf renderer
        (.ofHandler name params (Node.valuesExcept renderer Node.isContract body)))
  | .cond first elseIfs otherwise =>
      .fragment (textOf renderer
        (.ofConditional (first.slot renderer) (Clause.slots renderer elseIfs)
          (Node.otherwiseSlot renderer otherwise)))
  | .assign lhs rhs =>
      .fragment (textOf renderer
        (.ofAssignment lhs.isIdent (lhs.value renderer) (rhs.value renderer)))
  | .lookup item key => (item.value renderer).index (key.value renderer)
  | .member item name => (item.value renderer).memberOf name
  | .ident name => .fragment name
  | .literal value => .fragment value.spelling
  | .binary op lhs rhs => .binary op (lhs.value renderer) (rhs.value renderer)
  | .stateItem name type => placeholder (.stateItem name type)
  | .stateMap name keys type => placeholder (.stateMap name keys type)
  | .call func args => placeholder (.call func args)
  | .emit expr => placeholder (.emit expr)
  | .ret expr => placeholder (.ret expr)

/-- The values of a list of nodes, apart from those to skip. -/
def Node.valuesExcept (renderer : Renderer) (skip : Node → Bool) : List Node → List Value
  | [] => []
  | node :: rest =>
      if skip node then Node.valuesExcept renderer skip rest
      else node.value renderer :: Node.valuesExcept renderer skip rest

/-- The slot of the statements after `else`, if there are any. -/
def Node.otherwiseSlot (renderer : Renderer) : Option (List Node) → Slot
  | some body => .values (Node.valuesExcept renderer Node.isContract body)
  | none => .absent

/-- The slot of a clause. -/
def Clause.slot (renderer : Renderer) : Clause → Slot
  | .mk test body => .clause (test.value renderer) (Node.valuesExcept renderer Node.isContract body)

/-- The slots of a list of clauses. -/
def Clause.slots (renderer : Renderer) : List Clause → List Slot
  | [] => []
  | clause :: rest => clause.slot renderer :: Clause.slots renderer rest

end

/-- The binding of a construct, if nothing fails in lowering its parts. -/
def Node.binding? (renderer : Renderer) : Node → Option Binding
  | .contract name body =>
      some (.ofContract name (stateDecls body)
        (Node.valuesExcept renderer Node.isLeftToUnit body))
  | .exec name params body =>
      some (.ofHandler name params (Node.valuesExcept renderer Node.isContract body))
  | .cond first elseIfs otherwise =>
      some (.ofConditional (first.slot renderer) (Clause.slots renderer elseIfs)
        (Node.otherwiseSlot renderer otherwise))
  | .assign lhs rhs =>
      some (.ofAssignment lhs.isIdent (lhs.value renderer) (rhs.value renderer))
  | _ => none

/-! ## Events -/

/-- The events of a construct: it is verified, its parts are gone through, and its binding is
rendered, all inside of its frame. -/
def constructEvents (renderer : Renderer) (frame : Frame) (construct : Node) (parts : List Event) :
    List Event :=
  (.here (.verify construct) ::
    (parts ++ (construct.binding? renderer).toList.map fun binding => .here (.render binding))).map
    (.inside frame)

mutual

/-- The events of lowering a node, in order. -/
def Node.events (renderer : Renderer) : Node → List Event
  | .contract name body =>
      constructEvents renderer (.contract name) (.contract name body)
        ((Node.eventsExcept renderer Node.isLeftToUnit body).map (.under (stateDecls body)))
  | .exec name params body =>
      constructEvents renderer (.exec name) (.exec name params body)
        (Node.eventsExcept renderer Node.isContract body)
  | .cond first elseIfs otherwise =>
      constructEvents renderer .cond (.cond first elseIfs otherwise)
        (first.events renderer ++ (Clause.eventsOf renderer elseIfs ++
          Node.otherwiseEvents renderer otherwise))
  | .assign lhs rhs =>
      constructEvents renderer (.assign lhs) (.assign lhs rhs)
        (lhs.events renderer ++ rhs.events renderer)
  | .lookup item key => item.events renderer ++ key.events renderer
  | .member item _ => item.events renderer
  | .ident _ => []
  | .literal _ => []
  | .binary _ lhs rhs => lhs.events renderer ++ rhs.events renderer
  | .stateItem name type => [.here (.leaveOut (.stateItem name type))]
  | .stateMap name keys type => [.here (.leaveOut (.stateMap name keys type))]
  | .call func args => [.here (.leaveOut (.call func args))]
  | .emit expr => [.here (.leaveOut (.emit expr))]
  | .ret expr => [.here (.leaveOut (.ret expr))]

/-- The events of a list of nodes, apart from those to skip. -/
def Node.eventsExcept (renderer : Renderer) (skip : Node → Bool) : List Node → List Event
  | [] => []
  | node :: rest =>
      if skip node then Node.eventsExcept renderer skip rest
      else node.events renderer ++ Node.eventsExcept renderer skip rest

/-- The events of the statements after `else`, if there are any. -/
def Node.otherwiseEvents (renderer : Renderer) : Option (List Node) → List Event
  | some body => Node.eventsExcept renderer Node.isContract body
  | none => []

/-- The events of a clause: those of its condition, then those of its statements. -/
def Clause.events (renderer : Renderer) : Clause → List Event
  | .mk test body => test.events renderer ++ Node.eventsExcept renderer Node.isContract body

/-- The events of a list of clauses. -/
def Clause.eventsOf (renderer : Renderer) : List Clause → List Event
  | [] => []
  | clause :: rest => clause.events renderer ++ Clause.eventsOf renderer rest

end

/-- The events of the parts of a construct. -/
def Node.partEvents (renderer : Renderer) : Node → List Event
  | .contract _ body =>
      (Node.eventsExcept renderer Node.isLeftToUnit body).map (.under (stateDecls body))
  | .exec _ _ body => Node.eventsExcept renderer Node.isContract body
  | .cond first elseIfs otherwise =>
      first.events renderer ++ (Clause.eventsOf renderer elseIfs ++
        Node.otherwiseEvents renderer otherwise)
  | .assign lhs rhs => lhs.events renderer ++ rhs.events renderer
  | _ => []

/-! ## Lists of nodes -/

/-- The values of a list are those of its nodes that are not skipped. -/
theorem Node.valuesExcept_eq_map (renderer : Renderer) (skip : Node → Bool) (nodes : List Node) :
    Node.valuesExcept renderer skip nodes =
      (nodes.filter (!skip ·)).map (Node.value renderer) := by
  induction nodes with
  | nil => rw [Node.valuesExcept, List.filter_nil, List.map_nil]
  | cons node rest ih =>
      rw [Node.valuesExcept, ih, List.filter_cons]
      cases skip node <;> rfl

/-- The events of a list are those of its nodes that are not skipped. -/
theorem Node.eventsExcept_eq_flatMap (renderer : Renderer) (skip : Node → Bool)
    (nodes : List Node) :
    Node.eventsExcept renderer skip nodes =
      (nodes.filter (!skip ·)).flatMap (Node.events renderer) := by
  induction nodes with
  | nil => rw [Node.eventsExcept, List.filter_nil, List.flatMap_nil]
  | cons node rest ih =>
      rw [Node.eventsExcept, ih, List.filter_cons]
      cases skip node <;> rfl

/-! ## Binding and generating as replays -/

section Binders

variable (renderer : Renderer)

/-- Two replays whose values are combined. -/
theorem combine_replay {α β γ : Type} (combine : α → β → γ) (first : α) (second : β)
    (events further : List Event) :
    (replay renderer first events >>= fun left =>
      replay renderer second further >>= fun right => pure (combine left right)) =
      replay renderer (combine first second) (events ++ further) := by
  refine bind_replay renderer ?_
  rw [← map_eq_pure_bind, map_replay]

theorem bindContract_replay (name : String) (body : List Node) (items : List Value)
    (events : List Event) :
    bindContract name body (replay renderer items events) =
      replay renderer (.ofContract name (stateDecls body) items)
        (events.map (.under (stateDecls body))) := by
  show (declaring (stateDecls body) _ >>= fun items =>
    pure (Binding.ofContract name (stateDecls body) items)) = _
  rw [declaring_replay, ← map_eq_pure_bind, map_replay]

theorem bindFunction_replay (name : String) (params : List Param) (body : List Value)
    (events : List Event) :
    bindFunction name params (replay renderer body events) =
      replay renderer (.ofHandler name params body) events := by
  unfold bindFunction
  rw [← map_eq_pure_bind, map_replay]

theorem bindClause_replay (test : Value) (body : List Value) (events further : List Event) :
    bindClause (replay renderer test events) (replay renderer body further) =
      replay renderer (.clause test body) (events ++ further) :=
  combine_replay renderer Slot.clause test body events further

theorem bindConditional_replay (first : Slot) (elseIfs : List Slot) (otherwise : Slot)
    (events further last : List Event) :
    bindConditional (replay renderer first events) (replay renderer elseIfs further)
        (replay renderer otherwise last) =
      replay renderer (.ofConditional first elseIfs otherwise) (events ++ (further ++ last)) :=
  bind_replay renderer
    (combine_replay renderer (Binding.ofConditional first) elseIfs otherwise further last)

theorem bindAssignment_replay (targetIsIdent : Bool) (lhs rhs : Value)
    (events further : List Event) :
    bindAssignment targetIsIdent (replay renderer lhs events) (replay renderer rhs further) =
      replay renderer (.ofAssignment targetIsIdent lhs rhs) (events ++ further) :=
  combine_replay renderer (Binding.ofAssignment targetIsIdent) lhs rhs events further

/-- **Generating a construct** whose parts are a replay: it is verified, its parts are replayed and
its binding is rendered. -/
theorem generate_replay (frame : Frame) (construct : Node) {binding : Binding}
    (bound : construct.binding? renderer = some binding) (parts : List Event) :
    generate renderer frame construct.rules (replay renderer binding parts) =
      replay renderer (textOf renderer binding)
        (constructEvents renderer frame construct parts) := by
  have steps : (checkRules construct.rules >>= fun _ =>
        replay renderer binding parts >>= renderBinding renderer) =
      replay renderer (textOf renderer binding)
        ([.here (.verify construct)] ++ (parts ++ [.here (.render binding)])) := by
    rw [checkRules_eq_replay renderer]
    exact bind_replay renderer (bind_replay renderer (renderBinding_eq_replay renderer binding))
  unfold generate
  rw [steps, within_replay, constructEvents, bound]
  rfl

/-- The value of a construct is the text that is generated for it. -/
theorem rendered_generate_replay (frame : Frame) (construct : Node) {binding : Binding}
    (bound : construct.binding? renderer = some binding) (parts : List Event) :
    rendered (generate renderer frame construct.rules (replay renderer binding parts)) =
      replay renderer (.fragment (textOf renderer binding))
        (constructEvents renderer frame construct parts) := by
  unfold rendered
  rw [generate_replay renderer frame construct bound, ← map_eq_pure_bind, map_replay]

end Binders

/-! ## Lowering is a replay -/

mutual

/-- **Lowering a node** goes through the events of the node and gives its value. -/
theorem Node.lower_eq_replay (renderer : Renderer) : ∀ node : Node,
    node.lower renderer = replay renderer (node.value renderer) (node.events renderer)
  | .contract name body => by
      rw [Node.lower, Node.lowerExcept_eq_replay, bindContract_replay]
      exact rendered_generate_replay renderer (.contract name) (.contract name body) rfl _
  | .exec name params body => by
      rw [Node.lower, Node.lowerExcept_eq_replay, bindFunction_replay]
      exact rendered_generate_replay renderer (.exec name) (.exec name params body) rfl _
  | .cond first elseIfs otherwise => by
      rw [Node.lower, Clause.lower_eq_replay, Clause.lowerAll_eq_replay,
        Node.lowerOtherwise_eq_replay, bindConditional_replay]
      exact rendered_generate_replay renderer (.cond) (.cond first elseIfs otherwise) rfl _
  | .assign lhs rhs => by
      rw [Node.lower, Node.lower_eq_replay renderer lhs, Node.lower_eq_replay renderer rhs,
        bindAssignment_replay]
      exact rendered_generate_replay renderer (.assign lhs) (.assign lhs rhs) rfl _
  | .lookup item key => by
      rw [Node.lower, Node.lower_eq_replay renderer item, Node.lower_eq_replay renderer key,
        Node.value, Node.events]
      exact combine_replay renderer Value.index _ _ _ _
  | .member item name => by
      rw [Node.lower, Node.lower_eq_replay renderer item, ← map_eq_pure_bind, map_replay,
        Node.value, Node.events]
  | .ident name => by
      rw [Node.lower, Node.value, Node.events, pure_eq_replay renderer]
  | .literal value => by
      rw [Node.lower, Node.value, Node.events, pure_eq_replay renderer]
  | .binary op lhs rhs => by
      rw [Node.lower, Node.lower_eq_replay renderer lhs, Node.lower_eq_replay renderer rhs,
        Node.value, Node.events]
      exact combine_replay renderer (Value.binary op) _ _ _ _
  | .stateItem name type => by
      rw [Node.lower, Node.value, Node.events, leaveOut_eq_replay renderer]
  | .stateMap name keys type => by
      rw [Node.lower, Node.value, Node.events, leaveOut_eq_replay renderer]
  | .call func args => by
      rw [Node.lower, Node.value, Node.events, leaveOut_eq_replay renderer]
  | .emit expr => by
      rw [Node.lower, Node.value, Node.events, leaveOut_eq_replay renderer]
  | .ret expr => by
      rw [Node.lower, Node.value, Node.events, leaveOut_eq_replay renderer]

theorem Node.lowerExcept_eq_replay (renderer : Renderer) (skip : Node → Bool) :
    ∀ nodes : List Node, Node.lowerExcept renderer skip nodes =
      replay renderer (Node.valuesExcept renderer skip nodes)
        (Node.eventsExcept renderer skip nodes)
  | [] => by
      rw [Node.lowerExcept, Node.valuesExcept, Node.eventsExcept, pure_eq_replay renderer]
  | node :: rest => by
      rw [Node.lowerExcept, Node.valuesExcept, Node.eventsExcept]
      by_cases skipped : skip node = true
      · rw [if_pos skipped, if_pos skipped, if_pos skipped]
        exact Node.lowerExcept_eq_replay renderer skip rest
      · rw [if_neg skipped, if_neg skipped, if_neg skipped, Node.lower_eq_replay renderer node,
          Node.lowerExcept_eq_replay renderer skip rest]
        exact combine_replay renderer List.cons _ _ _ _

theorem Node.lowerOtherwise_eq_replay (renderer : Renderer) : ∀ otherwise : Option (List Node),
    Node.lowerOtherwise renderer otherwise =
      replay renderer (Node.otherwiseSlot renderer otherwise)
        (Node.otherwiseEvents renderer otherwise)
  | some body => by
      rw [Node.lowerOtherwise, Node.lowerExcept_eq_replay renderer Node.isContract body, map_replay,
        Node.otherwiseSlot, Node.otherwiseEvents]
  | none => by
      rw [Node.lowerOtherwise, Node.otherwiseSlot, Node.otherwiseEvents, pure_eq_replay renderer]

theorem Clause.lower_eq_replay (renderer : Renderer) : ∀ clause : Clause,
    clause.lower renderer = replay renderer (clause.slot renderer) (clause.events renderer)
  | .mk test body => by
      rw [Clause.lower, Node.lower_eq_replay renderer test,
        Node.lowerExcept_eq_replay renderer Node.isContract body, bindClause_replay, Clause.slot,
        Clause.events]

theorem Clause.lowerAll_eq_replay (renderer : Renderer) : ∀ clauses : List Clause,
    Clause.lowerAll renderer clauses =
      replay renderer (Clause.slots renderer clauses) (Clause.eventsOf renderer clauses)
  | [] => by
      rw [Clause.lowerAll, Clause.slots, Clause.eventsOf, pure_eq_replay renderer]
  | clause :: rest => by
      rw [Clause.lowerAll, Clause.lower_eq_replay renderer clause,
        Clause.lowerAll_eq_replay renderer rest, Clause.slots, Clause.eventsOf]
      exact combine_replay renderer List.cons _ _ _ _

end

/-! ## The walk -/

/-- **Lowering walks through the events of the node.** It fails exactly if some event fails. The
first event that fails gives the error, in the constructs open at that event on top of those that
were open before, and the renderer has been called for the render events up to it. If no event
fails, the renderer has been called for all of them. Nothing else is changed. -/
theorem Node.lower_walks_events (renderer : Renderer) (node : Node) (env : Env) :
    ((∃ fault left, node.lower renderer env = .error fault left) ↔
      ∃ event ∈ node.events renderer, event.Fails renderer env) ∧
    (∀ before event after cause, node.events renderer = before ++ event :: after →
      (∀ earlier ∈ before, ¬ earlier.Fails renderer env) →
      event.cause? renderer env = some cause →
      node.lower renderer env =
        .error ⟨trail (event.opened ++ env.frames), cause⟩
          { env with calls := (renderCalls env (before ++ [event])).reverse ++ env.calls }) ∧
    ((∀ event ∈ node.events renderer, ¬ event.Fails renderer env) →
      node.lower renderer env =
        .ok (node.value renderer)
          { env with calls := (renderCalls env (node.events renderer)).reverse ++ env.calls }) := by
  rw [Node.lower_eq_replay]
  have passes : ∀ event : Event, ¬ event.Fails renderer env → event.cause? renderer env = none :=
    fun event holds => Classical.not_not.mp holds
  refine ⟨⟨?_, ?_⟩, ?_, ?_⟩
  · rintro ⟨fault, left, failed⟩
    rcases passing_or_failing renderer env (node.events renderer) with
      passing | ⟨before, event, after, cause, split, _, failing⟩
    · rw [replay_passing renderer _ _ env passing] at failed
      cases failed
    · refine ⟨event, ?_, ?_⟩
      · rw [split]
        exact List.mem_append_right _ List.mem_cons_self
      · rw [Event.Fails, failing]
        exact Option.some_ne_none cause
  · rintro ⟨event, member, fails⟩
    rcases passing_or_failing renderer env (node.events renderer) with
      passing | ⟨before, first, after, cause, split, passing, failing⟩
    · exact absurd (passing event member) fails
    · rw [split, replay_failing renderer _ before first after cause env passing failing]
      exact ⟨_, _, rfl⟩
  · intro before event after cause split passing failing
    rw [split]
    exact replay_failing renderer _ before event after cause env
      (fun earlier member => passes earlier (passing earlier member)) failing
  · intro passing
    exact replay_passing renderer _ _ env fun event member => passes event (passing event member)

/-- A renderer that gives the name of the template. -/
def nameTemplate : Renderer := fun binding =>
  .ok binding.template.name

/-- A handler with an assignment, a return inside of a conditional, and an assignment to the
message context. -/
def returnInBranch : Node :=
  .exec "f" []
    [.assign (.ident "a") (.ident "b"), .cond (.mk (.ident "c") [.ret none]) [] none,
      .assign (.message "m") (.ident "b")]

/-- In a strict generation the return is the first event of `returnInBranch` that fails, although
the last assignment violates a rule as well. The first assignment has been rendered by then. -/
theorem returnInBranch_fails_at_return :
    returnInBranch.lower nameTemplate { fallback := .strict, frames := [.contract "T"] } =
      .error ⟨"contract T > exec f > if", .generation (.unsupportedNode "return")⟩
        { fallback := .strict, frames := [.contract "T"],
          calls := [⟨.ofAssignment true (.fragment "a") (.fragment "b"),
            [.assign (.ident "a"), .exec "f", .contract "T"], none⟩] } :=
  (returnInBranch.lower_walks_events nameTemplate
    { fallback := .strict, frames := [.contract "T"] }).2.1
    ((returnInBranch.events nameTemplate).take 4)
    { step := .leaveOut (.ret none), opened := [.cond, .exec "f"] }
    ((returnInBranch.events nameTemplate).drop 5)
    (.generation (.unsupportedNode "return"))
    rfl (by decide) rfl

end ContractCompiler
