import ContractCompiler.Proofs.Generation.Definitions
import ContractCompiler.Proofs.Generation.Exchange
import ContractCompiler.Proofs.Generation.Fallback

/-!
# Where nodes are left out

Every node of a tree stands at the end of a way down (`Node.mem_preorder_iff`). A node without a
lowering is left out where lowering comes to it. Lowering goes down from a unit through the places
that it lowers (`Spot.lowers`): it passes over contracts in lists of items and over state
declarations in the body of a contract, and it does not look into a node that it leaves out. The
nodes that a unit leaves out are those at the end of such a way down
(`Node.leaveOut_mem_steps_iff`), and if a program compiles, these are the nodes that it leaves a
placeholder for (`Program.mem_omitted_iff`).

To leave out a node is what lowering it comes to, and this tells the nodes without a lowering from
all others (`Node.lower_eq_leaveOut_iff`). So the nodes that are omitted are those for which a
placeholder has been returned (`Program.lower_of_mem_omitted`), and wherever lowering comes to a
node that it leaves out, the node is omitted (`Program.mem_omitted_iff_leaveOut`).
-/

namespace ContractCompiler

set_option autoImplicit false

/-! ## Ways down a tree -/

theorem ClauseSpot.mem_children (spot : ClauseSpot) (child : Node) :
    child ∈ (spot.fill child).children := by
  cases spot with
  | condition body => exact List.mem_cons_self
  | statement test before after => exact List.mem_cons_of_mem _ List.mem_append_cons_self

/-- What stands in a place is a child. -/
theorem Spot.mem_children (spot : Spot) (child : Node) : child ∈ (spot.fill child).children := by
  cases spot with
  | firstClause spot elseIfs otherwise =>
      exact List.mem_append_left _ (List.mem_flatMap.mpr
        ⟨_, List.mem_cons_self, spot.mem_children child⟩)
  | elseIfClause first before spot after otherwise =>
      exact List.mem_append_left _ (List.mem_flatMap.mpr
        ⟨_, List.mem_cons_of_mem _ List.mem_append_cons_self, spot.mem_children child⟩)
  | contractBody | handlerBody => exact List.mem_append_cons_self
  | elseBranch => exact List.mem_append_right _ List.mem_append_cons_self
  | assignTarget | lookupItem | memberItem | leftOperand | callee | emitted | result =>
      exact List.mem_cons_self
  | assignSource | lookupKey | rightOperand => exact List.mem_cons_of_mem _ List.mem_cons_self
  | argument => exact List.mem_cons_of_mem _ List.mem_append_cons_self

theorem Clause.exists_fill {clause : Clause} {child : Node} (below : child ∈ clause.children) :
    ∃ spot : ClauseSpot, spot.fill child = clause := by
  obtain ⟨test, body⟩ := clause
  rcases List.mem_cons.mp below with rfl | listed
  · exact ⟨.condition body, rfl⟩
  · obtain ⟨before, after, split⟩ := List.append_of_mem listed
    refine ⟨.statement test before after, ?_⟩
    rw [ClauseSpot.fill, ← split]
    rfl

/-- A child stands in some place. -/
theorem Node.exists_fill {node child : Node} (below : child ∈ node.children) :
    ∃ spot : Spot, spot.fill child = node := by
  cases node with
  | contract name body =>
      obtain ⟨before, after, rfl⟩ := List.append_of_mem below
      exact ⟨.contractBody name before after, rfl⟩
  | exec name params body =>
      obtain ⟨before, after, rfl⟩ := List.append_of_mem below
      exact ⟨.handlerBody name params before after, rfl⟩
  | cond first elseIfs otherwise =>
      rcases List.mem_append.mp below with inClauses | inOtherwise
      · obtain ⟨clause, isClause, inClause⟩ := List.mem_flatMap.mp inClauses
        obtain ⟨spot, rfl⟩ := Clause.exists_fill inClause
        rcases List.mem_cons.mp isClause with rfl | isElseIf
        · exact ⟨.firstClause spot elseIfs otherwise, rfl⟩
        · obtain ⟨before, after, rfl⟩ := List.append_of_mem isElseIf
          exact ⟨.elseIfClause first before spot after otherwise, rfl⟩
      · cases otherwise with
        | none => cases inOtherwise
        | some body =>
            obtain ⟨before, after, split⟩ := List.append_of_mem inOtherwise
            refine ⟨.elseBranch first elseIfs before after, ?_⟩
            rw [Spot.fill, ← split, Option.getD_some]
  | assign lhs rhs =>
      rcases List.mem_pair.mp below with rfl | rfl
      · exact ⟨.assignTarget rhs, rfl⟩
      · exact ⟨.assignSource lhs, rfl⟩
  | lookup item key =>
      rcases List.mem_pair.mp below with rfl | rfl
      · exact ⟨.lookupItem key, rfl⟩
      · exact ⟨.lookupKey item, rfl⟩
  | member item name =>
      obtain rfl := List.mem_singleton.mp below
      exact ⟨.memberItem name, rfl⟩
  | binary op lhs rhs =>
      rcases List.mem_pair.mp below with rfl | rfl
      · exact ⟨.leftOperand op rhs, rfl⟩
      · exact ⟨.rightOperand op lhs, rfl⟩
  | call func args =>
      rcases List.mem_cons.mp below with rfl | listed
      · exact ⟨.callee args, rfl⟩
      · obtain ⟨before, after, rfl⟩ := List.append_of_mem listed
        exact ⟨.argument func before after, rfl⟩
  | emit expr =>
      obtain rfl := List.mem_singleton.mp below
      exact ⟨.emitted, rfl⟩
  | ret expr =>
      obtain rfl := Option.mem_toList.mp below
      exact ⟨.result, rfl⟩
  | stateItem | stateMap | ident | literal => cases below

/-- A node of the tree stands at the end of a way down from its root. -/
theorem Node.exists_fillAll (root : Node) {inner : Node} (within : inner ∈ root.preorder) :
    ∃ way, fillAll way inner = root := by
  rw [Node.preorder_eq] at within
  rcases List.mem_cons.mp within with rfl | below
  · exact ⟨[], rfl⟩
  · obtain ⟨child, isChild, inChild⟩ := List.mem_flatMap.mp below
    obtain ⟨way, rfl⟩ := child.exists_fillAll inChild
    obtain ⟨spot, place⟩ := Node.exists_fill isChild
    exact ⟨spot :: way, place⟩
termination_by sizeOf root
decreasing_by exact Node.sizeOf_child_lt isChild

/-- **The nodes of a tree** are those at the end of some way down from its root. -/
theorem Node.mem_preorder_iff {root inner : Node} :
    inner ∈ root.preorder ↔ ∃ way, fillAll way inner = root := by
  refine ⟨root.exists_fillAll, ?_⟩
  rintro ⟨way, rfl⟩
  induction way with
  | nil => exact inner.self_mem_preorder
  | cons spot rest ih =>
      rw [fillAll, List.foldr_cons, ← fillAll, Node.preorder_eq]
      exact List.mem_cons_of_mem _ (List.mem_flatMap.mpr ⟨_, spot.mem_children _, ih⟩)

/-- **The contracts of a program** are those at the end of some way down from one of its items. -/
theorem Program.mem_contracts_iff {program : Program} {contract : Contract} :
    contract ∈ program.contracts ↔
      ∃ item ∈ program.items, ∃ way, fillAll way contract.node = item := by
  rw [Program.contracts_eq_preorder, List.mem_filterMap]
  simp only [Node.contract?_eq_some_iff, exists_eq_right, Program.preorder, List.mem_flatMap,
    Node.mem_preorder_iff]

/-! ## Nodes without a lowering -/

/-- Whether the node has no lowering. -/
def Node.isLeftOut : Node → Bool
  | .stateItem .. | .stateMap .. | .call .. | .emit _ | .ret _ => true
  | _ => false

section LeftOut

variable {node : Node}

/-- A placeholder stands for a node without a lowering. -/
theorem Node.value_of_isLeftOut (unsupported : node.isLeftOut = true) (renderer : Renderer) :
    node.value renderer = placeholder node := by
  cases node with
  | stateItem | stateMap | call | emit | ret => rw [Node.value]
  | contract | exec | cond | assign | lookup | member | ident | literal | binary =>
      cases unsupported

/-- Lowering leaves it out. -/
theorem Node.lower_of_isLeftOut (unsupported : node.isLeftOut = true) (renderer : Renderer) :
    node.lower renderer = leaveOut node := by
  cases node with
  | stateItem | stateMap | call | emit | ret => rw [Node.lower]
  | contract | exec | cond | assign | lookup | member | ident | literal | binary =>
      cases unsupported

theorem Node.steps_of_isLeftOut (unsupported : node.isLeftOut = true) (renderer : Renderer) :
    node.steps renderer = [.leaveOut node] := by
  cases node with
  | stateItem | stateMap | call | emit | ret =>
      rw [Node.steps, Node.events]
      rfl
  | contract | exec | cond | assign | lookup | member | ident | literal | binary =>
      cases unsupported

/-- How the labels of nodes without a lowering begin. -/
def leftOutLabels : List (List Char) :=
  [['s', 't'], ['f', 'n'], ['e', 'm'], ['r', 'e']]

/-- The label of a node tells whether it has a lowering. -/
theorem Node.isLeftOut_eq_label (node : Node) :
    node.isLeftOut = leftOutLabels.contains (node.describe.toList.take 2) := by
  cases node with
  | call func args =>
      have label : (Node.call func args).describe.toList.take 2 = ['f', 'n'] := by
        cases func <;> simp [Node.describe, Node.title, Node.kind, Kind.name]
      rw [label]
      rfl
  | contract | exec | stateItem | stateMap | lookup | member | ident | literal | cond | assign
  | binary | emit | ret =>
      simp [Node.isLeftOut, leftOutLabels, Node.describe, Node.title, Node.kind, Kind.name]

end LeftOut

/-! ## Places that are lowered -/

/-- Whether a node is lowered in the place in a clause. -/
def ClauseSpot.lowers : ClauseSpot → Node → Bool
  | .condition _, _ => true
  | .statement .., child => !child.isContract

/-- Whether a node is lowered in the place, along with the node around it. -/
def Spot.lowers : Spot → Node → Bool
  | .contractBody .., child => !child.isLeftToUnit
  | .handlerBody .., child | .elseBranch .., child => !child.isContract
  | .firstClause spot _ _, child | .elseIfClause _ _ spot _ _, child => spot.lowers child
  | .assignTarget _, _ | .assignSource _, _ | .lookupItem _, _ | .lookupKey _, _
  | .memberItem _, _ | .leftOperand .., _ | .rightOperand .., _ => true
  | .callee _, _ | .argument .., _ | .emitted, _ | .result, _ => false

theorem ClauseSpot.mem_loweredChildren {spot : ClauseSpot} {child : Node}
    (lowered : spot.lowers child = true) : child ∈ (spot.fill child).loweredChildren := by
  cases spot with
  | condition body => exact List.mem_cons_self
  | statement test before after =>
      exact List.mem_cons_of_mem _ (List.mem_filter.mpr ⟨List.mem_append_cons_self, lowered⟩)

/-- A node that is lowered in a place is a lowered child there. -/
theorem Spot.mem_loweredChildren {spot : Spot} {child : Node} (lowered : spot.lowers child = true) :
    child ∈ (spot.fill child).loweredChildren := by
  cases spot with
  | contractBody | handlerBody =>
      exact List.mem_filter.mpr ⟨List.mem_append_cons_self, lowered⟩
  | firstClause spot elseIfs otherwise =>
      exact List.mem_append_left _ (List.mem_flatMap.mpr
        ⟨_, List.mem_cons_self, ClauseSpot.mem_loweredChildren lowered⟩)
  | elseIfClause first before spot after otherwise =>
      exact List.mem_append_left _ (List.mem_flatMap.mpr
        ⟨_, List.mem_cons_of_mem _ List.mem_append_cons_self,
          ClauseSpot.mem_loweredChildren lowered⟩)
  | elseBranch first elseIfs before after =>
      exact List.mem_append_right _ (List.mem_filter.mpr ⟨List.mem_append_cons_self, lowered⟩)
  | assignTarget | assignSource | lookupItem | lookupKey | memberItem | leftOperand
  | rightOperand => simp [Spot.fill, Node.loweredChildren]
  | callee | argument | emitted | result => cases lowered

theorem Clause.exists_spot {clause : Clause} {child : Node}
    (lowered : child ∈ clause.loweredChildren) :
    ∃ spot : ClauseSpot, spot.fill child = clause ∧ spot.lowers child = true := by
  obtain ⟨test, body⟩ := clause
  rcases List.mem_cons.mp lowered with rfl | inBody
  · exact ⟨.condition body, rfl, rfl⟩
  · obtain ⟨listed, kept⟩ := List.mem_filter.mp inBody
    obtain ⟨before, after, split⟩ := List.append_of_mem listed
    refine ⟨.statement test before after, ?_, kept⟩
    rw [ClauseSpot.fill, ← split]
    rfl

/-- A lowered child stands in a place that is lowered. -/
theorem Node.exists_spot {node child : Node} (lowered : child ∈ node.loweredChildren) :
    ∃ spot : Spot, spot.fill child = node ∧ spot.lowers child = true := by
  cases node with
  | contract name body =>
      obtain ⟨listed, kept⟩ := List.mem_filter.mp lowered
      obtain ⟨before, after, rfl⟩ := List.append_of_mem listed
      exact ⟨.contractBody name before after, rfl, kept⟩
  | exec name params body =>
      obtain ⟨listed, kept⟩ := List.mem_filter.mp lowered
      obtain ⟨before, after, rfl⟩ := List.append_of_mem listed
      exact ⟨.handlerBody name params before after, rfl, kept⟩
  | cond first elseIfs otherwise =>
      rcases List.mem_append.mp lowered with inClauses | inOtherwise
      · obtain ⟨clause, isClause, inClause⟩ := List.mem_flatMap.mp inClauses
        obtain ⟨spot, rfl, kept⟩ := Clause.exists_spot inClause
        rcases List.mem_cons.mp isClause with rfl | isElseIf
        · exact ⟨.firstClause spot elseIfs otherwise, rfl, kept⟩
        · obtain ⟨before, after, rfl⟩ := List.append_of_mem isElseIf
          exact ⟨.elseIfClause first before spot after otherwise, rfl, kept⟩
      · obtain ⟨listed, kept⟩ := List.mem_filter.mp inOtherwise
        cases otherwise with
        | none => cases listed
        | some body =>
            obtain ⟨before, after, split⟩ := List.append_of_mem listed
            refine ⟨.elseBranch first elseIfs before after, ?_, kept⟩
            rw [Spot.fill, ← split, Option.getD_some]
  | assign lhs rhs =>
      rcases List.mem_pair.mp lowered with rfl | rfl
      · exact ⟨.assignTarget rhs, rfl, rfl⟩
      · exact ⟨.assignSource lhs, rfl, rfl⟩
  | lookup item key =>
      rcases List.mem_pair.mp lowered with rfl | rfl
      · exact ⟨.lookupItem key, rfl, rfl⟩
      · exact ⟨.lookupKey item, rfl, rfl⟩
  | member item name =>
      obtain rfl := List.mem_singleton.mp lowered
      exact ⟨.memberItem name, rfl, rfl⟩
  | binary op lhs rhs =>
      rcases List.mem_pair.mp lowered with rfl | rfl
      · exact ⟨.leftOperand op rhs, rfl, rfl⟩
      · exact ⟨.rightOperand op lhs, rfl, rfl⟩
  | stateItem | stateMap | ident | literal | call | emit | ret => cases lowered

/-! ## Ways down to nodes that are left out -/

/-- Whether each place on a way down is lowered, with the given node at its end. -/
def lowersAll : List Spot → Node → Bool
  | [], _ => true
  | spot :: rest, node => spot.lowers (fillAll rest node) && lowersAll rest node

/-- In lowering a node, another one at the end of a way down is left out. -/
structure Node.LeavesOut (root : Node) (way : List Spot) (node : Node) : Prop where
  unsupported : node.isLeftOut = true
  place : fillAll way node = root
  lowered : lowersAll way node = true

/-- The nodes that events leave out, in terms of their steps. -/
theorem mem_omissions {events : List Event} {node : Node} :
    node ∈ omissions events ↔ .leaveOut node ∈ events.map Event.step := by
  rw [omissions, List.mem_filterMap, List.mem_map]
  refine exists_congr fun event => and_congr_right fun _ => ?_
  unfold Event.omitted?
  cases event.step <;> simp

section Ways

variable (renderer : Renderer) {root node : Node}

/-- A node leaves out itself or what one of its lowered children leaves out. -/
theorem Node.leaveOut_mem_steps_cases (leaves : .leaveOut node ∈ root.steps renderer) :
    node = root ∧ node.isLeftOut = true ∨
      ∃ child ∈ root.loweredChildren, .leaveOut node ∈ child.steps renderer := by
  -- A construct has steps of its own, but it is not left out.
  have inside : ∀ frame, root.frame? = some frame →
      ∃ child ∈ root.loweredChildren, .leaveOut node ∈ child.steps renderer := by
    intro frame framed
    rw [Node.steps_of_frame renderer framed, List.mem_cons, List.mem_append] at leaves
    rcases leaves with verified | below | rendered
    · cases verified
    · exact List.mem_flatMap.mp below
    · obtain ⟨_, _, same⟩ := List.mem_map.mp rendered
      cases same
  cases root with
  | contract | exec | cond | assign => exact .inr (inside _ rfl)
  | lookup | member | binary =>
      refine .inr ?_
      simpa [Node.steps, Node.events, Node.loweredChildren, or_and_right, exists_or] using leaves
  | ident | literal => simp [Node.steps, Node.events] at leaves
  | stateItem | stateMap | call | emit | ret =>
      rw [Node.steps_of_isLeftOut rfl, List.mem_singleton] at leaves
      obtain rfl := Step.leaveOut.inj leaves
      exact .inl ⟨rfl, rfl⟩

/-- The steps of a lowered child are steps of the node. -/
theorem Node.steps_subset {child : Node} (lowered : child ∈ root.loweredChildren) :
    child.steps renderer ⊆ root.steps renderer := by
  have listed : child.steps renderer ⊆ root.loweredChildren.flatMap (Node.steps renderer) :=
    fun step inChild => List.mem_flatMap.mpr ⟨child, lowered, inChild⟩
  have inside : ∀ frame, root.frame? = some frame → child.steps renderer ⊆ root.steps renderer := by
    intro frame framed step inChild
    rw [Node.steps_of_frame renderer framed]
    exact List.mem_cons_of_mem _ (List.mem_append_left _ (listed inChild))
  cases root with
  | contract | exec | cond | assign => exact inside _ rfl
  | lookup | member | binary =>
      simpa [Node.steps, Node.events, Node.loweredChildren] using listed
  | ident | literal | stateItem | stateMap | call | emit | ret => cases lowered

/-- What is left out stands at the end of a way down through places that are lowered. -/
theorem Node.exists_way (root : Node) (leaves : .leaveOut node ∈ root.steps renderer) :
    ∃ way, root.LeavesOut way node := by
  rcases Node.leaveOut_mem_steps_cases renderer leaves with
    ⟨rfl, unsupported⟩ | ⟨child, isChild, below⟩
  · exact ⟨[], unsupported, rfl, rfl⟩
  · obtain ⟨way, unsupported, rfl, lowered⟩ := child.exists_way below
    obtain ⟨spot, place, spotLowers⟩ := Node.exists_spot isChild
    refine ⟨spot :: way, unsupported, place, ?_⟩
    rw [lowersAll, spotLowers, lowered, Bool.and_self]
termination_by sizeOf root
decreasing_by exact Node.sizeOf_child_lt (Node.lowered_child isChild).1

/-- What stands at the end of such a way is left out. -/
theorem Node.LeavesOut.leaveOut_mem_steps {way : List Spot} (leaves : root.LeavesOut way node) :
    .leaveOut node ∈ root.steps renderer := by
  obtain ⟨unsupported, rfl, lowered⟩ := leaves
  induction way with
  | nil =>
      rw [fillAll, List.foldr_nil, Node.steps_of_isLeftOut unsupported]
      exact List.mem_singleton_self _
  | cons spot rest ih =>
      rw [lowersAll, Bool.and_eq_true] at lowered
      exact Node.steps_subset renderer (Spot.mem_loweredChildren lowered.1) (ih lowered.2)

/-- **What lowering a node leaves out** is what stands at the end of a way down through places that
are lowered. -/
theorem Node.leaveOut_mem_steps_iff :
    .leaveOut node ∈ root.steps renderer ↔ ∃ way, root.LeavesOut way node := by
  constructor
  · exact Node.exists_way renderer root
  · rintro ⟨way, leaves⟩
    exact leaves.leaveOut_mem_steps renderer

/-- **Lowering a node is to leave it out** just for the nodes without a lowering. -/
theorem Node.lower_eq_leaveOut_iff :
    node.lower renderer = leaveOut node ↔ node.isLeftOut = true := by
  refine ⟨fun same => ?_, fun unsupported => Node.lower_of_isLeftOut unsupported renderer⟩
  have permissive : returned (node.lower renderer { fallback := .permissive }) =
      .ok (placeholder node) := by
    rw [same]
    rfl
  have strict : returned (node.lower renderer { fallback := .strict }) =
      .error ⟨trail [], .generation (.unsupportedNode node.describe)⟩ := by
    rw [same]
    rfl
  rw [Node.lower_eq_replay, replay_returned] at permissive strict
  rcases strict_run_cases renderer {} (node.events renderer) with
    ⟨_, _, sameFault⟩ | ⟨before, event, after, inner, met, _, leaves, _, fault⟩
  · -- Without omissions a strict run would end like the permissive one.
    have alike := (congrArg (faultOr (node.value renderer)) sameFault).symm.trans strict
    cases permissive.symm.trans alike
  · -- The strict run ends at a node that is left out, and names it.
    have label : inner.describe = node.describe := by
      have reported := (congrArg (faultOr (node.value renderer)) fault).symm.trans strict
      simp only [faultOr, Except.error.injEq, Fault.mk.injEq, Cause.generation.injEq,
        Failure.unsupportedNode.injEq] at reported
      exact reported.2
    have isMet : event ∈ metEvents renderer (Env.permissive {}) (node.events renderer) := by
      rw [met]
      exact List.mem_append_cons_self
    have inSteps : .leaveOut inner ∈ node.steps renderer :=
      mem_omissions.mp (List.mem_filterMap.mpr ⟨event, metEvents_isPrefix.subset isMet, leaves⟩)
    obtain ⟨way, unsupported, _, _⟩ := Node.exists_way renderer node inSteps
    rwa [Node.isLeftOut_eq_label, label, ← Node.isLeftOut_eq_label] at unsupported

end Ways

/-! ## Programs -/

/-- A node is left out in a unit of a program, after the given units. -/
def Program.LeavesOut (program : Program) (earlier : List Contract) (way : List Spot)
    (node : Node) : Prop :=
  ∃ unit later, program.contracts = earlier ++ unit :: later ∧ unit.node.LeavesOut way node

theorem Program.exists_leavesOut_iff {program : Program} {way : List Spot} {node : Node} :
    (∃ earlier, program.LeavesOut earlier way node) ↔
      ∃ unit ∈ program.contracts, unit.node.LeavesOut way node := by
  constructor
  · rintro ⟨earlier, unit, later, split, atEnd⟩
    refine ⟨unit, ?_, atEnd⟩
    rw [split]
    exact List.mem_append_cons_self
  · rintro ⟨unit, isUnit, atEnd⟩
    obtain ⟨earlier, later, split⟩ := List.append_of_mem isUnit
    exact ⟨earlier, unit, later, split, atEnd⟩

/-- The steps of a program are those of its units. -/
theorem Program.events_steps (renderer : Renderer) (program : Program) :
    (program.events renderer).map Event.step =
      program.contracts.flatMap fun unit => unit.node.steps renderer := by
  rw [Program.events, List.map_flatMap]
  rfl

/-- What is omitted has been left out, and a placeholder has been returned for it. -/
theorem Program.lower_of_mem_omitted {renderer : Renderer} {program : Program} {node : Node}
    (omitted : node ∈ program.omitted renderer) :
    node.lower renderer = leaveOut node ∧
      ∀ env : Env, env.fallback = .permissive →
        node.lower renderer env = .ok (placeholder node) env := by
  have listed : node ∈ omissions (program.events renderer) :=
    (metEvents_isPrefix.filterMap _).subset omitted
  have leaves := mem_omissions.mp listed
  rw [Program.events_steps] at leaves
  obtain ⟨unit, _, inUnit⟩ := List.mem_flatMap.mp leaves
  obtain ⟨way, unsupported, _, _⟩ := Node.exists_way renderer unit.node inUnit
  have lowered := Node.lower_of_isLeftOut unsupported renderer
  refine ⟨lowered, fun env permissive => ?_⟩
  rw [lowered, leaveOut, permissive]

/-- **The placeholders of a program.** If its permissive compilation succeeds, it leaves a
placeholder for each node that stands at the end of a way down in a unit, and for no other. -/
theorem Program.mem_omitted_iff {renderer : Renderer} {program : Program} {text : String}
    (compiled : (program.compile renderer .permissive).outcome = .ok text) {node : Node} :
    node ∈ program.omitted renderer ↔ ∃ earlier way, program.LeavesOut earlier way node := by
  obtain ⟨passing, _, _⟩ := Program.compile_passing renderer .permissive compiled
  rw [Program.omitted, metEvents_of_passing passing, mem_omissions, Program.events_steps,
    List.mem_flatMap, exists_comm]
  simp only [Program.exists_leavesOut_iff, Node.leaveOut_mem_steps_iff]
  constructor
  · rintro ⟨unit, isUnit, way, atEnd⟩
    exact ⟨way, unit, isUnit, atEnd⟩
  · rintro ⟨way, unit, isUnit, atEnd⟩
    exact ⟨unit, isUnit, way, atEnd⟩

/-- **Omitted nodes are those that lowering leaves out.** If the permissive compilation of a program
succeeds, a node is omitted exactly if it stands at the end of a way down through places that are
lowered, in some unit, and to lower it there is to leave it out. -/
theorem Program.mem_omitted_iff_leaveOut {renderer : Renderer} {program : Program} {text : String}
    (compiled : (program.compile renderer .permissive).outcome = .ok text) {node : Node} :
    node ∈ program.omitted renderer ↔
      ∃ unit ∈ program.contracts, ∃ way, fillAll way node = unit.node ∧
        lowersAll way node = true ∧ node.lower renderer = leaveOut node := by
  rw [Program.mem_omitted_iff compiled, exists_comm]
  simp only [Program.exists_leavesOut_iff, Node.lower_eq_leaveOut_iff]
  constructor
  · rintro ⟨way, unit, isUnit, unsupported, place, lowered⟩
    exact ⟨unit, isUnit, way, place, lowered, unsupported⟩
  · rintro ⟨unit, isUnit, way, place, lowered, unsupported⟩
    exact ⟨way, unit, isUnit, unsupported, place, lowered⟩

end ContractCompiler
