import ContractCompiler.Proofs.Generation.Rendered

/-!
# Where events take place

An event of a node is an event of the node itself or an event of one of its children, seen from the
node (`Node.events_cases`). Facts about events follow from this by induction on the tree.

`root.Holds frames owner node` says that `node` stands at or below `root`: the constructs on the way
down have the given frames, innermost first, and `owner` is the innermost contract among them.
Every construct that is verified is verified in its place: inside of its own frame and the frames
around it, and under the declarations of the innermost contract around it (`Node.events_located`).
-/

namespace ContractCompiler

set_option autoImplicit false

/-! ## Children -/

/-- The contract that a node defines. -/
def Node.contract? : Node → Option Contract
  | .contract name body => some ⟨name, body⟩
  | _ => none

/-- The state that a contract declares. -/
def Contract.stateTable (contract : Contract) : StateTable :=
  ⟨stateDecls contract.body⟩

theorem Clause.sizeOf_child_lt {clause : Clause} {child : Node} (below : child ∈ clause.children) :
    sizeOf child < sizeOf clause := by
  obtain ⟨test, body⟩ := clause
  rw [Clause.mk.sizeOf_spec]
  rcases List.mem_cons.mp below with rfl | inBody
  · omega
  · have smaller : sizeOf child < sizeOf body := List.sizeOf_lt_of_mem inBody
    omega

/-- A child is smaller than its node. -/
theorem Node.sizeOf_child_lt {node child : Node} (below : child ∈ node.children) :
    sizeOf child < sizeOf node := by
  cases node with
  | contract name body =>
      have smaller : sizeOf child < sizeOf body := List.sizeOf_lt_of_mem below
      rw [Node.contract.sizeOf_spec]
      omega
  | exec name params body =>
      have smaller : sizeOf child < sizeOf body := List.sizeOf_lt_of_mem below
      rw [Node.exec.sizeOf_spec]
      omega
  | cond first elseIfs otherwise =>
      rw [Node.cond.sizeOf_spec]
      simp only [Node.children, List.mem_append, List.mem_flatMap, List.mem_cons] at below
      rcases below with ⟨clause, rfl | further, inClause⟩ | inOtherwise
      · have smaller := Clause.sizeOf_child_lt inClause
        omega
      · have smaller := Clause.sizeOf_child_lt inClause
        have shorter := List.sizeOf_lt_of_mem further
        omega
      · cases otherwise with
        | none => cases inOtherwise
        | some body =>
            have smaller : sizeOf child < sizeOf body := List.sizeOf_lt_of_mem inOtherwise
            rw [Option.some.sizeOf_spec]
            omega
  | call func args =>
      rw [Node.call.sizeOf_spec]
      rcases List.mem_cons.mp below with rfl | inArgs
      · omega
      · have smaller := List.sizeOf_lt_of_mem inArgs
        omega
  | assign lhs rhs | lookup lhs rhs | binary op lhs rhs =>
      simp only [Node.children, List.mem_cons, List.not_mem_nil, or_false] at below
      simp only [Node.assign.sizeOf_spec, Node.lookup.sizeOf_spec, Node.binary.sizeOf_spec]
      rcases below with rfl | rfl <;> omega
  | member item name | emit item =>
      rw [List.mem_singleton.mp below]
      simp only [Node.member.sizeOf_spec, Node.emit.sizeOf_spec]
      omega
  | ret expr =>
      cases expr with
      | none => cases below
      | some expr =>
          rw [List.mem_singleton.mp below, Node.ret.sizeOf_spec, Option.some.sizeOf_spec]
          omega
  | stateItem | stateMap | ident | literal => cases below

/-! ## The events of a node and of its children -/

/-- An event of a child, seen from the node. -/
def Event.seenFrom (node : Node) (event : Event) : Event :=
  { event with
    opened := event.opened ++ node.frame?.toList
    declared := event.declared.or (node.contract?.map Contract.stateTable) }

/-- An expression opens nothing and declares nothing. -/
theorem Event.seenFrom_expression {node : Node} (plain : node.frame? = none) (event : Event) :
    event.seenFrom node = event := by
  have declares : node.contract? = none := by
    cases node with
    | contract => cases plain
    | _ => rfl
  simp [Event.seenFrom, plain, declares]

/-- The ways in which an event can be an event of a node. -/
inductive Node.EventCase (renderer : Renderer) (node : Node) : Event → Prop where
  | verify {frame : Frame} (framed : node.frame? = some frame) :
      EventCase renderer node ((Event.here (.verify node)).inside frame)
  | render {frame : Frame} {binding : Binding} (framed : node.frame? = some frame)
      (bound : node.binding? renderer = some binding) :
      EventCase renderer node ((Event.here (.render binding)).inside frame)
  | leaveOut (plain : node.frame? = none) : EventCase renderer node (.here (.leaveOut node))
  | child {child : Node} {event : Event} (below : child ∈ node.children)
      (member : event ∈ child.events renderer) : EventCase renderer node (event.seenFrom node)

section Cases

variable {renderer : Renderer} {event : Event}

/-- An event of a list of nodes is an event of one of them. -/
theorem Node.mem_eventsExcept {skip : Node → Bool} {nodes : List Node}
    (member : event ∈ Node.eventsExcept renderer skip nodes) :
    ∃ node ∈ nodes, event ∈ node.events renderer := by
  induction nodes with
  | nil =>
      rw [Node.eventsExcept] at member
      cases member
  | cons node rest ih =>
      have inRest : event ∈ Node.eventsExcept renderer skip rest →
          ∃ other ∈ node :: rest, event ∈ other.events renderer := by
        intro member
        obtain ⟨other, listed, inOther⟩ := ih member
        exact ⟨other, List.mem_cons_of_mem _ listed, inOther⟩
      rw [Node.eventsExcept] at member
      by_cases skipped : skip node = true
      · rw [if_pos skipped] at member
        exact inRest member
      · rw [if_neg skipped] at member
        rcases List.mem_append.mp member with inNode | later
        · exact ⟨node, List.mem_cons_self, inNode⟩
        · exact inRest later

/-- An event of a clause is an event of its condition or of a statement. -/
theorem Clause.mem_events {clause : Clause} (member : event ∈ clause.events renderer) :
    ∃ node ∈ clause.children, event ∈ node.events renderer := by
  obtain ⟨test, body⟩ := clause
  rw [Clause.events] at member
  rcases List.mem_append.mp member with inTest | inBody
  · exact ⟨test, List.mem_cons_self, inTest⟩
  · obtain ⟨node, listed, inNode⟩ := Node.mem_eventsExcept inBody
    exact ⟨node, List.mem_cons_of_mem _ listed, inNode⟩

theorem Clause.mem_eventsOf {clauses : List Clause}
    (member : event ∈ Clause.eventsOf renderer clauses) :
    ∃ node ∈ clauses.flatMap Clause.children, event ∈ node.events renderer := by
  induction clauses with
  | nil =>
      rw [Clause.eventsOf] at member
      cases member
  | cons clause rest ih =>
      rw [Clause.eventsOf] at member
      rw [List.flatMap_cons]
      rcases List.mem_append.mp member with inClause | later
      · obtain ⟨node, listed, inNode⟩ := Clause.mem_events inClause
        exact ⟨node, List.mem_append_left _ listed, inNode⟩
      · obtain ⟨node, listed, inNode⟩ := ih later
        exact ⟨node, List.mem_append_right _ listed, inNode⟩

theorem Node.mem_otherwiseEvents {otherwise : Option (List Node)}
    (member : event ∈ Node.otherwiseEvents renderer otherwise) :
    ∃ node ∈ otherwise.getD [], event ∈ node.events renderer := by
  cases otherwise with
  | none =>
      rw [Node.otherwiseEvents] at member
      cases member
  | some body =>
      rw [Node.otherwiseEvents] at member
      exact Node.mem_eventsExcept member

/-- An event of a part of a construct is an event of a child, under the declarations of the
construct if it is a contract. -/
theorem Node.mem_partEvents {node : Node} (member : event ∈ node.partEvents renderer) :
    ∃ child ∈ node.children, ∃ inner ∈ child.events renderer,
      event = { inner with
        declared := inner.declared.or (node.contract?.map Contract.stateTable) } := by
  -- Only a contract changes the declarations.
  have unchanged : node.contract? = none →
      (∃ child ∈ node.children, event ∈ child.events renderer) →
      ∃ child ∈ node.children, ∃ inner ∈ child.events renderer,
        event = { inner with
          declared := inner.declared.or (node.contract?.map Contract.stateTable) } := by
    rintro plain ⟨child, below, inChild⟩
    refine ⟨child, below, event, inChild, ?_⟩
    rw [plain, Option.map_none, Option.or_none]
  cases node with
  | contract name body =>
      obtain ⟨inner, inBody, rfl⟩ := List.mem_map.mp member
      obtain ⟨child, below, inChild⟩ := Node.mem_eventsExcept inBody
      exact ⟨child, below, inner, inChild, rfl⟩
  | exec name params body => exact unchanged rfl (Node.mem_eventsExcept member)
  | cond first elseIfs otherwise =>
      refine unchanged rfl ?_
      rw [Node.children, List.flatMap_cons, List.append_assoc]
      rcases List.mem_append.mp member with inFirst | later
      · obtain ⟨child, below, inChild⟩ := Clause.mem_events inFirst
        exact ⟨child, List.mem_append_left _ below, inChild⟩
      · rcases List.mem_append.mp later with further | last
        · obtain ⟨child, below, inChild⟩ := Clause.mem_eventsOf further
          exact ⟨child, List.mem_append_right _ (List.mem_append_left _ below), inChild⟩
        · obtain ⟨child, below, inChild⟩ := Node.mem_otherwiseEvents last
          exact ⟨child, List.mem_append_right _ (List.mem_append_right _ below), inChild⟩
  | assign lhs rhs =>
      refine unchanged rfl ?_
      rcases List.mem_append.mp member with inLeft | inRight
      · exact ⟨lhs, List.mem_cons_self, inLeft⟩
      · exact ⟨rhs, List.mem_cons_of_mem _ List.mem_cons_self, inRight⟩
  | stateItem | stateMap | lookup | member | ident | literal | binary | call | emit | ret =>
      cases member

/-- The events of a construct are those of its parts, between its verification and its
rendering. -/
theorem Node.events_of_frame {node : Node} {frame : Frame} (framed : node.frame? = some frame) :
    node.events renderer =
      constructEvents renderer frame node (node.partEvents renderer) := by
  cases node with
  | contract | exec | cond | assign =>
      cases framed
      rw [Node.events]
      rfl
  | stateItem | stateMap | lookup | member | ident | literal | binary | call | emit | ret =>
      cases framed

/-- An event of an expression is that of leaving it out or an event of an operand. -/
theorem Node.mem_events_of_plain {node : Node} (plain : node.frame? = none)
    (member : event ∈ node.events renderer) :
    event = .here (.leaveOut node) ∨ ∃ child ∈ node.children, event ∈ child.events renderer := by
  cases node with
  | contract | exec | cond | assign => cases plain
  | lookup lhs rhs | binary op lhs rhs =>
      rw [Node.events] at member
      rcases List.mem_append.mp member with inLeft | inRight
      · exact .inr ⟨lhs, List.mem_cons_self, inLeft⟩
      · exact .inr ⟨rhs, List.mem_cons_of_mem _ List.mem_cons_self, inRight⟩
  | member item name =>
      rw [Node.events] at member
      exact .inr ⟨item, List.mem_cons_self, member⟩
  | ident | literal =>
      rw [Node.events] at member
      cases member
  | stateItem | stateMap | call | emit | ret =>
      rw [Node.events] at member
      exact .inl (List.mem_singleton.mp member)

/-- **The events of a node** are its own and those of its children. -/
theorem Node.events_cases {node : Node} (member : event ∈ node.events renderer) :
    node.EventCase renderer event := by
  cases framed : node.frame? with
  | some frame =>
      rw [Node.events_of_frame framed] at member
      rcases mem_constructEvents.mp member with rfl | ⟨part, inParts, rfl⟩ | ⟨binding, bound, rfl⟩
      · exact .verify framed
      · obtain ⟨child, below, inner, inChild, rfl⟩ := Node.mem_partEvents inParts
        have seen : Event.inside frame { inner with
            declared := inner.declared.or (node.contract?.map Contract.stateTable) } =
              inner.seenFrom node := by
          rw [Event.seenFrom, framed]
          rfl
        rw [seen]
        exact .child below inChild
      · exact .render framed bound
  | none =>
      rcases Node.mem_events_of_plain framed member with rfl | ⟨child, below, inChild⟩
      · exact .leaveOut framed
      · rw [← Event.seenFrom_expression framed event]
        exact .child below inChild

end Cases

/-! ## Places in the tree -/

/-- A node stands at or below another one, inside of constructs with the given frames, innermost
first, of which `owner` is the innermost contract. -/
inductive Node.Holds : Node → List Frame → Option Contract → Node → Prop where
  | here (node : Node) : node.Holds [] none node
  | inside {node child inner : Node} {frames : List Frame} {owner : Option Contract}
      (below : child ∈ node.children) (held : child.Holds frames owner inner) :
      node.Holds (frames ++ node.frame?.toList) (owner.or node.contract?) inner

/-- All that a contract holds has an innermost contract around it, but for itself. -/
theorem Node.Holds.exists_owner {root : Contract} {frames : List Frame} {owner : Option Contract}
    {inner : Node} (held : (Node.contract root.name root.body).Holds frames owner inner) :
    inner = .contract root.name root.body ∨ ∃ contract, owner = some contract := by
  cases held with
  | here => exact .inl rfl
  | @inside _ _ _ _ owner below held =>
      refine .inr ?_
      cases owner with
      | none => exact ⟨root, rfl⟩
      | some nearer => exact ⟨nearer, rfl⟩

/-- **Constructs are verified in their place.** -/
theorem Node.events_located {renderer : Renderer} (node : Node) {event : Event}
    (member : event ∈ node.events renderer) {construct : Node}
    (verifies : event.step = .verify construct) :
    ∃ frames owner, node.Holds frames owner construct ∧
      event.opened = construct.frame?.toList ++ frames ∧
      event.declared = owner.map Contract.stateTable := by
  cases Node.events_cases member with
  | @verify frame framed =>
      cases verifies
      refine ⟨[], none, .here node, ?_, rfl⟩
      rw [framed]
      rfl
  | render => cases verifies
  | leaveOut => cases verifies
  | @child child inner below inChild =>
      -- The child is in its place below itself, and the node adds its frame and its declarations.
      obtain ⟨frames, owner, held, opened, declared⟩ := child.events_located inChild verifies
      refine ⟨_, _, .inside below held, ?_, ?_⟩
      · rw [Event.seenFrom, opened, List.append_assoc]
      · rw [Event.seenFrom, declared, Option.map_or]
termination_by sizeOf node
decreasing_by exact Node.sizeOf_child_lt below

end ContractCompiler
