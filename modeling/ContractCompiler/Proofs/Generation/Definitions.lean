import ContractCompiler.Proofs.Generation.Places
import ContractCompiler.Proofs.Generation.Programs
import Mathlib.Data.List.Basic

/-!
# Every contract is rendered once

Two traversals of the tree have to fit together. The contracts of a program are collected from all
nodes, whether or not these have a lowering, and each is compiled as a unit of its own. Lowering a
unit goes down the tree as well and leaves out the contracts in the lists that it comes by.

`Node.preorder` lists the nodes of a tree, each before those below it, and the collected contracts
are those of that list (`Node.contracts_eq_preorder`). Lowering goes through the children given by
`Node.loweredChildren`. If contracts stand in lists of items only, none of those children is a
contract, and the one binding of a contract that a unit renders is its own
(`Contract.steps_unitBindings`). So a compilation that succeeds renders the contracts of the tree in
their order, each once, and joins their texts (`Program.compile_renders_contracts`).
-/

namespace ContractCompiler

set_option autoImplicit false

/-! ## The tree in pre-order -/

/-- The nodes of a tree, each before those below it, in source order. -/
def Node.preorder (node : Node) : List Node :=
  node :: node.children.attach.flatMap fun child => child.val.preorder
termination_by sizeOf node
decreasing_by exact Node.sizeOf_child_lt child.property

theorem Node.preorder_eq (node : Node) :
    node.preorder = node :: node.children.flatMap Node.preorder := by
  rw [Node.preorder]
  simp [List.flatMap_subtype]

/-- The nodes of a program in pre-order. -/
def Program.preorder (program : Program) : List Node :=
  program.items.flatMap Node.preorder

/-- A node comes first among those at and below it. -/
theorem Node.self_mem_preorder (node : Node) : node ∈ node.preorder := by
  rw [Node.preorder_eq]
  exact List.mem_cons_self

/-- What stands below a node of the tree stands in the tree. -/
theorem Node.preorder_trans {node middle inner : Node} (outside : middle ∈ node.preorder)
    (within : inner ∈ middle.preorder) : inner ∈ node.preorder := by
  rw [Node.preorder_eq] at outside ⊢
  rcases List.mem_cons.mp outside with rfl | below
  · rwa [Node.preorder_eq] at within
  · obtain ⟨child, isChild, inChild⟩ := List.mem_flatMap.mp below
    refine List.mem_cons_of_mem _ (List.mem_flatMap.mpr ⟨child, isChild, ?_⟩)
    exact Node.preorder_trans inChild within
termination_by sizeOf node
decreasing_by exact Node.sizeOf_child_lt isChild

/-! ## Collecting contracts -/

theorem Node.contract?_eq_some_iff {node : Node} {contract : Contract} :
    node.contract? = some contract ↔ node = contract.node := by
  constructor
  · intro defines
    cases node with
    | contract =>
        cases defines
        rfl
    | _ => cases defines
  · rintro rfl
    rfl

theorem Node.contractsOf_eq_flatMap (nodes : List Node) :
    Node.contractsOf nodes = nodes.flatMap Node.contracts := by
  induction nodes with
  | nil => rfl
  | cons node rest ih => rw [Node.contractsOf, ih, List.flatMap_cons]

theorem Clause.contracts_eq_flatMap (clause : Clause) :
    clause.contracts = clause.children.flatMap Node.contracts := by
  obtain ⟨test, body⟩ := clause
  rw [Clause.contracts, Node.contractsOf_eq_flatMap]
  rfl

theorem Clause.contractsOf_eq_flatMap (clauses : List Clause) :
    Clause.contractsOf clauses = (clauses.flatMap Clause.children).flatMap Node.contracts := by
  induction clauses with
  | nil => rfl
  | cons clause rest ih =>
      rw [Clause.contractsOf, ih, Clause.contracts_eq_flatMap, List.flatMap_cons,
        List.flatMap_append]

/-- The contracts of a node are its own definition and those of its children. -/
theorem Node.contracts_eq (node : Node) :
    node.contracts = node.contract?.toList ++ node.children.flatMap Node.contracts := by
  cases node with
  | contract name body =>
      rw [Node.contracts, Node.contractsOf_eq_flatMap]
      rfl
  | exec name params body =>
      rw [Node.contracts, Node.contractsOf_eq_flatMap]
      rfl
  | cond first elseIfs otherwise =>
      cases otherwise with
      | none =>
          simp only [Node.contracts, Clause.contracts_eq_flatMap, Clause.contractsOf_eq_flatMap]
          simp [Node.contract?, Node.children]
      | some body =>
          simp only [Node.contracts, Clause.contracts_eq_flatMap, Clause.contractsOf_eq_flatMap,
            Node.contractsOf_eq_flatMap]
          simp [Node.contract?, Node.children]
  | call func args =>
      rw [Node.contracts, Node.contractsOf_eq_flatMap]
      rfl
  | ret expr => cases expr <;> simp [Node.contracts, Node.contract?, Node.children]
  | assign | lookup | member | binary | emit =>
      simp [Node.contracts, Node.contract?, Node.children]
  | stateItem | stateMap | ident | literal => simp [Node.contracts, Node.contract?, Node.children]

/-- **The contracts of a tree** are collected from all of its nodes in pre-order. -/
theorem Node.contracts_eq_preorder (node : Node) :
    node.contracts = node.preorder.filterMap Node.contract? := by
  have below : node.children.flatMap Node.contracts =
      node.children.flatMap fun child => child.preorder.filterMap Node.contract? :=
    List.flatMap_congr fun child isChild => child.contracts_eq_preorder
  rw [Node.contracts_eq, Node.preorder_eq, below, ← List.filterMap_flatMap]
  cases own : node.contract? <;> simp [own]
termination_by sizeOf node
decreasing_by exact Node.sizeOf_child_lt isChild

/-! ## Lowering through the tree -/

/-- The condition of a clause, then its statements apart from contracts. -/
def Clause.loweredChildren (clause : Clause) : List Node :=
  clause.test :: clause.body.filter (!·.isContract)

/-- The children that are lowered along with a node. Contracts in lists are left out, and so are
state declarations in the body of a contract; a node without a lowering is not looked into. -/
def Node.loweredChildren : Node → List Node
  | .contract _ body => body.filter (!·.isLeftToUnit)
  | .exec _ _ body => body.filter (!·.isContract)
  | .cond first elseIfs otherwise =>
      (first :: elseIfs).flatMap Clause.loweredChildren ++
        (otherwise.getD []).filter (!·.isContract)
  | .assign lhs rhs => [lhs, rhs]
  | .lookup item key => [item, key]
  | .member item _ => [item]
  | .binary _ lhs rhs => [lhs, rhs]
  | .stateItem .. | .stateMap .. | .ident _ | .literal _ | .call .. | .emit _ | .ret _ => []

/-- The steps of lowering a node, in order. -/
def Node.steps (renderer : Renderer) (node : Node) : List Step :=
  (node.events renderer).map Event.step

section Steps

variable (renderer : Renderer)

theorem Node.eventsExcept_steps (skip : Node → Bool) (nodes : List Node) :
    (Node.eventsExcept renderer skip nodes).map Event.step =
      (nodes.filter (!skip ·)).flatMap (Node.steps renderer) := by
  rw [Node.eventsExcept_eq_flatMap, List.map_flatMap]
  rfl

theorem Clause.events_steps (clause : Clause) :
    (clause.events renderer).map Event.step =
      clause.loweredChildren.flatMap (Node.steps renderer) := by
  obtain ⟨test, body⟩ := clause
  rw [Clause.events, List.map_append, Node.eventsExcept_steps]
  rfl

theorem Clause.eventsOf_steps (clauses : List Clause) :
    (Clause.eventsOf renderer clauses).map Event.step =
      (clauses.flatMap Clause.loweredChildren).flatMap (Node.steps renderer) := by
  induction clauses with
  | nil => rfl
  | cons clause rest ih =>
      rw [Clause.eventsOf, List.map_append, ih, Clause.events_steps, List.flatMap_cons,
        List.flatMap_append]

theorem Node.otherwiseEvents_steps (otherwise : Option (List Node)) :
    (Node.otherwiseEvents renderer otherwise).map Event.step =
      ((otherwise.getD []).filter (!·.isContract)).flatMap (Node.steps renderer) := by
  cases otherwise with
  | none => rfl
  | some body =>
      rw [Node.otherwiseEvents, Node.eventsExcept_steps]
      rfl

/-- The steps of the parts of a construct are those of the children that are lowered. -/
theorem Node.partEvents_steps {node : Node} {frame : Frame} (framed : node.frame? = some frame) :
    (node.partEvents renderer).map Event.step =
      node.loweredChildren.flatMap (Node.steps renderer) := by
  cases node with
  | contract name body =>
      rw [Node.partEvents, List.map_map]
      exact Node.eventsExcept_steps renderer Node.isLeftToUnit body
  | exec name params body => exact Node.eventsExcept_steps renderer Node.isContract body
  | cond first elseIfs otherwise =>
      rw [Node.partEvents, List.map_append, List.map_append, Clause.events_steps,
        Clause.eventsOf_steps, Node.otherwiseEvents_steps, Node.loweredChildren,
        List.flatMap_cons, List.flatMap_append, List.flatMap_append, List.append_assoc]
  | assign lhs rhs => simp [Node.partEvents, Node.loweredChildren, Node.steps]
  | stateItem | stateMap | lookup | member | ident | literal | binary | call | emit | ret =>
      cases framed

/-- A construct is verified, its lowered children are gone through, and it is rendered. -/
theorem Node.steps_of_frame {node : Node} {frame : Frame} (framed : node.frame? = some frame) :
    node.steps renderer =
      .verify node :: (node.loweredChildren.flatMap (Node.steps renderer) ++
        (node.binding? renderer).toList.map .render) := by
  have inner : Event.step ∘ Event.inside frame = Event.step := rfl
  rw [Node.steps, Node.events_of_frame framed, constructEvents, List.map_map, inner, List.map_cons,
    List.map_append, Node.partEvents_steps renderer framed, List.map_map]
  rfl

/-- The steps of an expression are those of its operands, or that of leaving it out. -/
theorem Node.mem_steps_of_plain {node : Node} (plain : node.frame? = none) {step : Step}
    (inSteps : step ∈ node.steps renderer) :
    step = .leaveOut node ∨ ∃ child ∈ node.loweredChildren, step ∈ child.steps renderer := by
  cases node with
  | contract | exec | cond | assign => cases plain
  | lookup | member | binary =>
      refine .inr ?_
      simpa [Node.steps, Node.events, Node.loweredChildren, or_and_right, exists_or] using inSteps
  | ident | literal => simp [Node.steps, Node.events] at inSteps
  | stateItem | stateMap | call | emit | ret =>
      refine .inl ?_
      simpa [Node.steps, Node.events, Event.here] using inSteps

end Steps

/-! ## Contracts in lists -/

/-- The children that are lowered on their own and not as an element of a list. -/
def Node.loneChildren : Node → List Node
  | .cond first elseIfs _ => (first :: elseIfs).map Clause.test
  | .assign lhs rhs => [lhs, rhs]
  | .lookup item key => [item, key]
  | .member item _ => [item]
  | .binary _ lhs rhs => [lhs, rhs]
  | _ => []

/-- At and below a node, no contract stands where a single expression is expected. -/
def Node.ContractsListed (node : Node) : Prop :=
  ∀ inner ∈ node.preorder, ∀ child ∈ inner.loneChildren, child.isContract = false

/-- Contracts stand in lists of items only: those of the program, of a contract, of a handler and of
the branches of a conditional, also below calls, emits and returns. These have no lowering, so what
stands in them directly makes no difference. -/
def Program.ContractsListed (program : Program) : Prop :=
  ∀ item ∈ program.items, item.ContractsListed

/-- A child that is lowered is a child, and only outside of lists can it be a contract. -/
theorem Node.lowered_child {node child : Node} (lowered : child ∈ node.loweredChildren) :
    child ∈ node.children ∧ (child.isContract = true → child ∈ node.loneChildren) := by
  -- In a list that is gone through without its contracts there is nothing to show.
  have kept : ∀ body : List Node, child ∈ body.filter (!·.isContract) →
      child ∈ body ∧ (child.isContract = true → child ∈ node.loneChildren) := by
    intro body inBody
    obtain ⟨listed, part⟩ := List.mem_filter.mp inBody
    exact ⟨listed, fun whole => by simp [whole] at part⟩
  cases node with
  | contract name body =>
      obtain ⟨listed, part⟩ := List.mem_filter.mp lowered
      exact ⟨listed, fun whole => by simp [Node.isLeftToUnit, whole] at part⟩
  | exec name params body => exact kept body lowered
  | cond first elseIfs otherwise =>
      rcases List.mem_append.mp lowered with inClauses | inOtherwise
      · obtain ⟨clause, isClause, inClause⟩ := List.mem_flatMap.mp inClauses
        have below : child ∈ clause.children →
            child ∈ (Node.cond first elseIfs otherwise).children := fun inside =>
          List.mem_append_left _ (List.mem_flatMap.mpr ⟨clause, isClause, inside⟩)
        rcases List.mem_cons.mp inClause with rfl | inBody
        · exact ⟨below List.mem_cons_self, fun _ => List.mem_map_of_mem isClause⟩
        · obtain ⟨listed, lone⟩ := kept clause.body inBody
          exact ⟨below (List.mem_cons_of_mem _ listed), lone⟩
      · obtain ⟨listed, lone⟩ := kept (otherwise.getD []) inOtherwise
        exact ⟨List.mem_append_right _ listed, lone⟩
  | assign | lookup | member | binary => exact ⟨lowered, fun _ => lowered⟩
  | stateItem | stateMap | ident | literal | call | emit | ret => cases lowered

/-- Where contracts stand in lists only, what is lowered below a node is no contract, and contracts
stand in lists only there as well. -/
theorem Node.ContractsListed.lowered_child {node child : Node} (listed : node.ContractsListed)
    (lowered : child ∈ node.loweredChildren) :
    child.isContract = false ∧ child.ContractsListed := by
  obtain ⟨below, lone⟩ := Node.lowered_child lowered
  refine ⟨?_, ?_⟩
  · by_contra whole
    rw [Bool.not_eq_false] at whole
    have part := listed node node.self_mem_preorder child (lone whole)
    rw [whole] at part
    cases part
  · intro inner within
    refine listed inner ?_
    rw [Node.preorder_eq]
    exact List.mem_cons_of_mem _ (List.mem_flatMap.mpr ⟨child, below, within⟩)

/-! ## The bindings of contracts -/

/-- The binding of a contract that a step renders, if it renders one. -/
def Step.unitBinding? : Step → Option Binding
  | .render binding => if binding.template = .contract then some binding else none
  | .verify _ | .leaveOut _ => none

/-- The bindings of contracts that a compilation has rendered, in order. -/
def Compilation.unitBindings {α : Type} (compilation : Compilation α) : List Binding :=
  (compilation.calls.map (·.binding)).filter (·.template = .contract)

/-- Only contracts are bound to the template for contracts. -/
theorem Node.template_ne_contract {renderer : Renderer} {node : Node} {binding : Binding}
    (bound : node.binding? renderer = some binding) (part : node.isContract = false) :
    binding.template ≠ .contract := by
  cases node with
  | contract => cases part
  | exec | cond =>
      cases bound
      exact Template.noConfusion
  | assign lhs rhs =>
      cases bound
      show Template.assigning (lhs.value renderer) ≠ .contract
      cases lhs.value renderer <;> exact Template.noConfusion
  | stateItem | stateMap | lookup | member | ident | literal | binary | call | emit | ret =>
      cases bound

section Units

variable (renderer : Renderer)

/-- **No contract is rendered in place.** -/
theorem Node.steps_no_unitBinding (node : Node) (part : node.isContract = false)
    (listed : node.ContractsListed) {step : Step} (inSteps : step ∈ node.steps renderer) :
    step.unitBinding? = none := by
  have inChild : (∃ child ∈ node.loweredChildren, step ∈ child.steps renderer) →
      step.unitBinding? = none := by
    rintro ⟨child, lowered, inSteps⟩
    obtain ⟨noContract, childListed⟩ := listed.lowered_child lowered
    exact child.steps_no_unitBinding noContract childListed inSteps
  cases framed : node.frame? with
  | none =>
      rcases Node.mem_steps_of_plain renderer framed inSteps with rfl | below
      · rfl
      · exact inChild below
  | some frame =>
      rw [Node.steps_of_frame renderer framed] at inSteps
      rcases List.mem_cons.mp inSteps with rfl | later
      · rfl
      rcases List.mem_append.mp later with below | rendered
      · exact inChild (List.mem_flatMap.mp below)
      · obtain ⟨binding, bound, rfl⟩ := List.mem_map.mp rendered
        exact if_neg (Node.template_ne_contract (Option.mem_toList.mp bound) part)
termination_by sizeOf node
decreasing_by exact Node.sizeOf_child_lt (Node.lowered_child lowered).1

/-- **A unit renders one contract**, its own. -/
theorem Contract.steps_unitBindings (contract : Contract) (listed : contract.node.ContractsListed) :
    (contract.node.steps renderer).filterMap Step.unitBinding? = [contract.binding renderer] := by
  have inside : (contract.node.loweredChildren.flatMap (Node.steps renderer)).filterMap
      Step.unitBinding? = [] := by
    rw [List.filterMap_eq_nil_iff]
    intro step below
    obtain ⟨child, lowered, inSteps⟩ := List.mem_flatMap.mp below
    obtain ⟨part, childListed⟩ := listed.lowered_child lowered
    exact child.steps_no_unitBinding renderer part childListed inSteps
  rw [@Node.steps_of_frame renderer contract.node (.contract contract.name) rfl,
    List.filterMap_cons_none rfl, List.filterMap_append, inside]
  rfl

/-- The bindings of contracts among the calls of the renderer. -/
theorem renderCalls_unitBindings (env : Env) (events : List Event) :
    ((renderCalls env events).map (·.binding)).filter (·.template = .contract) =
      (events.map Event.step).filterMap Step.unitBinding? := by
  induction events with
  | nil => rfl
  | cons event rest ih =>
      rw [renderCalls_cons, List.map_append, List.filter_append, ih, List.map_cons]
      cases step : event.step with
      | verify construct =>
          rw [List.filterMap_cons_none rfl]
          simp [Event.call?, step]
      | leaveOut node =>
          rw [List.filterMap_cons_none rfl]
          simp [Event.call?, step]
      | render binding =>
          by_cases whole : binding.template = .contract
          · simp [Event.call?, step, Step.unitBinding?, whole]
          · simp [Event.call?, step, Step.unitBinding?, whole]

end Units

/-! ## Programs -/

section Programs

variable {renderer : Renderer} {program : Program}

/-- The contracts of a program are those of its nodes in pre-order. -/
theorem Program.contracts_eq_preorder (program : Program) :
    program.contracts = program.preorder.filterMap Node.contract? := by
  rw [Program.contracts, Node.contractsOf_eq_flatMap, Program.preorder, List.filterMap_flatMap]
  exact List.flatMap_congr fun item _ => item.contracts_eq_preorder

/-- The rule about contracts in a program holds in each of its contracts. -/
theorem Program.ContractsListed.unit (listed : program.ContractsListed) {contract : Contract}
    (isUnit : contract ∈ program.contracts) : contract.node.ContractsListed := by
  rw [Program.contracts_eq_preorder] at isUnit
  obtain ⟨node, inTree, defines⟩ := List.mem_filterMap.mp isUnit
  obtain rfl := Node.contract?_eq_some_iff.mp defines
  obtain ⟨item, isItem, inItem⟩ := List.mem_flatMap.mp inTree
  intro inner within
  exact listed item isItem inner (Node.preorder_trans inItem within)

/-- A compilation that succeeds has rendered the contracts of the program, one after another. -/
theorem Program.compile_unitBindings {fallback : Fallback} (listed : program.ContractsListed)
    {text : String} (compiled : (program.compile renderer fallback).outcome = .ok text) :
    (program.compile renderer fallback).unitBindings =
      program.contracts.map (Contract.binding renderer) := by
  obtain ⟨_, calls, _⟩ := Program.compile_passing renderer fallback compiled
  have perUnit : (program.contracts.flatMap fun contract =>
        (contract.node.steps renderer).filterMap Step.unitBinding?) =
      program.contracts.flatMap fun contract => [contract.binding renderer] :=
    List.flatMap_congr fun contract isUnit =>
      contract.steps_unitBindings renderer (listed.unit isUnit)
  rw [Compilation.unitBindings, calls, renderCalls_unitBindings, Program.events,
    List.map_flatMap, List.filterMap_flatMap]
  exact perUnit.trans List.map_eq_flatMap.symm

/-- In a compilation that succeeds, the binding of each contract is rendered to its text. -/
theorem Program.compile_unitTexts {fallback : Fallback} {text : String}
    (compiled : (program.compile renderer fallback).outcome = .ok text) {contract : Contract}
    (isUnit : contract ∈ program.contracts) :
    renderer (contract.binding renderer) = .ok (contract.text renderer) := by
  obtain ⟨passing, _, _⟩ := Program.compile_passing renderer fallback compiled
  let rendering : Event := (Event.here (.render (contract.binding renderer))).inside
    (.contract contract.name)
  have inUnit : rendering ∈ contract.node.events renderer := by
    rw [@Node.events_of_frame renderer contract.node (.contract contract.name) rfl]
    exact mem_constructEvents.mpr (.inr (.inr ⟨contract.binding renderer, rfl, rfl⟩))
  have passes := passing rendering (List.mem_flatMap.mpr ⟨contract, isUnit, inUnit⟩)
  rw [Contract.text, textOf]
  cases answer : renderer (contract.binding renderer) with
  | ok text => rfl
  | error failure =>
      have rejected : rendering.cause? renderer { fallback } = some (.generation failure) := by
        simp [rendering, Event.cause?, Event.inside, Event.here, Step.cause?, answer]
      rw [passes] at rejected
      cases rejected

end Programs

/-- **Every contract is rendered once.** In a program whose contracts stand in lists of items only,
a compilation that succeeds renders bindings of contracts with the names of all contracts of the
tree, each once and in pre-order, and its text is that of those bindings, joined in this order. -/
theorem Program.compile_renders_contracts (renderer : Renderer) (fallback : Fallback)
    (program : Program) (listed : program.ContractsListed) (text : String)
    (compiled : (program.compile renderer fallback).outcome = .ok text) :
    (program.compile renderer fallback).unitBindings.map (·.text "name") =
      (program.preorder.filterMap Node.contract?).map (fun contract => .ok contract.name) ∧
    ∃ texts, (program.compile renderer fallback).unitBindings.map renderer = texts.map .ok ∧
      text = String.join texts := by
  rw [Program.compile_unitBindings listed compiled]
  refine ⟨?_, program.contracts.map (Contract.text renderer), ?_, ?_⟩
  · rw [← Program.contracts_eq_preorder, List.map_map]
    rfl
  · rw [List.map_map, List.map_map]
    exact List.map_congr_left fun contract isUnit => Program.compile_unitTexts compiled isUnit
  · exact (Program.compile_passing renderer fallback compiled).2.2

/-- A renderer that gives the name in a binding, if there is one. -/
def tellName : Renderer := fun binding =>
  .ok (((binding.text "name").toOption.map fun name => "<" ++ name ++ ">").getD "")

/-- A contract with further ones in a handler, in a branch and below a call. -/
def nestedContracts : Program where
  items :=
    [.contract "A"
      [.exec "f" []
        [.contract "B" [.stateItem "x" ⟨"u8"⟩],
          .cond (.mk (.ident "c") [.contract "C" []]) [] none],
        .call (.ident "g") [.exec "h" [] [.contract "D" []]]]]

/-- All four contracts of `nestedContracts` are rendered, in their order. -/
theorem nestedContracts_rendered :
    nestedContracts.ContractsListed ∧
    (nestedContracts.compile tellName .permissive).outcome = .ok "<A><B><C><D>" ∧
    (nestedContracts.compile tellName .permissive).unitBindings.map (·.text "name") =
      [.ok "A", .ok "B", .ok "C", .ok "D"] ∧
    ∃ texts, (nestedContracts.compile tellName .permissive).unitBindings.map tellName =
      texts.map .ok ∧ "<A><B><C><D>" = String.join texts := by
  have listed : nestedContracts.ContractsListed := by
    intro item isItem
    rw [List.mem_singleton.mp isItem]
    simp [Node.ContractsListed, Node.preorder_eq, Node.children, Clause.children, Clause.test,
      Clause.body, Node.loneChildren, Node.isContract, Node.kind]
  have compiled : (nestedContracts.compile tellName .permissive).outcome = .ok "<A><B><C><D>" :=
    rfl
  obtain ⟨names, texts⟩ :=
    Program.compile_renders_contracts tellName .permissive nestedContracts listed _ compiled
  refine ⟨listed, compiled, names.trans ?_, texts⟩
  rw [← Program.contracts_eq_preorder]
  rfl

end ContractCompiler
