import ContractCompiler.Proofs.Generation.Walk

/-!
# What is rendered

The events of a node are put together in few ways: one list after another, a single event for a
node without a lowering, the events of a construct around those of its parts, and the declarations
of a contract around those of its items. A relation between the events of a node under two
renderers that these ways preserve holds of every node (`Node.events_related`).

Two facts follow. A binding is rendered exactly for a construct that is verified in the same place
(`Node.events_verified_and_rendered`). And the events differ between renderers in the bindings only
(`Node.events_blank`): what is verified, what is left out, and where something is rendered is
decided by the tree.
-/

namespace ContractCompiler

set_option autoImplicit false

/-! ## Relations between events under two renderers -/

/-- A relation between lists of events that is preserved by all ways in which the events of a node
are put together. -/
structure EventCongruence (first second : Renderer)
    (related : List Event → List Event → Prop) : Prop where
  nil : related [] []
  append : ∀ {events others further more : List Event}, related events others →
    related further more → related (events ++ further) (others ++ more)
  leaveOut : ∀ node : Node, related [.here (.leaveOut node)] [.here (.leaveOut node)]
  construct : ∀ {frame : Frame} {construct : Node} {parts others : List Event},
    construct.frame? = some frame → related parts others →
      related (constructEvents first frame construct parts)
        (constructEvents second frame construct others)
  under : ∀ {decls : List StateDecl} {events others : List Event}, related events others →
    related (events.map (.under decls)) (others.map (.under decls))

section Congruence

variable {first second : Renderer} {related : List Event → List Event → Prop}

mutual

/-- **Events of a node are related** by every relation that is preserved by putting events
together. -/
theorem Node.events_related (congruence : EventCongruence first second related) :
    ∀ node : Node, related (node.events first) (node.events second)
  | .contract _ body => by
      simp only [Node.events]
      exact congruence.construct rfl
        (congruence.under (Node.eventsExcept_related congruence Node.isLeftToUnit body))
  | .exec _ _ body => by
      simp only [Node.events]
      exact congruence.construct rfl (Node.eventsExcept_related congruence Node.isContract body)
  | .cond clause elseIfs otherwise => by
      simp only [Node.events]
      exact congruence.construct rfl
        (congruence.append (Clause.events_related congruence clause)
          (congruence.append (Clause.eventsOf_related congruence elseIfs)
            (Node.otherwiseEvents_related congruence otherwise)))
  | .assign lhs rhs => by
      simp only [Node.events]
      exact congruence.construct rfl
        (congruence.append (Node.events_related congruence lhs)
          (Node.events_related congruence rhs))
  | .lookup item key => by
      simp only [Node.events]
      exact congruence.append (Node.events_related congruence item)
        (Node.events_related congruence key)
  | .member item _ => by
      simp only [Node.events]
      exact Node.events_related congruence item
  | .binary _ lhs rhs => by
      simp only [Node.events]
      exact congruence.append (Node.events_related congruence lhs)
        (Node.events_related congruence rhs)
  | .ident _ | .literal _ => by
      simp only [Node.events]
      exact congruence.nil
  | .stateItem .. | .stateMap .. | .call .. | .emit _ | .ret _ => by
      simp only [Node.events]
      exact congruence.leaveOut _

theorem Node.eventsExcept_related (congruence : EventCongruence first second related)
    (skip : Node → Bool) : ∀ nodes : List Node,
    related (Node.eventsExcept first skip nodes) (Node.eventsExcept second skip nodes)
  | [] => by
      simp only [Node.eventsExcept]
      exact congruence.nil
  | node :: rest => by
      simp only [Node.eventsExcept]
      by_cases skipped : skip node = true
      · rw [if_pos skipped, if_pos skipped]
        exact Node.eventsExcept_related congruence skip rest
      · rw [if_neg skipped, if_neg skipped]
        exact congruence.append (Node.events_related congruence node)
          (Node.eventsExcept_related congruence skip rest)

theorem Node.otherwiseEvents_related (congruence : EventCongruence first second related) :
    ∀ otherwise : Option (List Node),
      related (Node.otherwiseEvents first otherwise) (Node.otherwiseEvents second otherwise)
  | some body => by
      simp only [Node.otherwiseEvents]
      exact Node.eventsExcept_related congruence Node.isContract body
  | none => by
      simp only [Node.otherwiseEvents]
      exact congruence.nil

theorem Clause.events_related (congruence : EventCongruence first second related) :
    ∀ clause : Clause, related (clause.events first) (clause.events second)
  | .mk test body => by
      simp only [Clause.events]
      exact congruence.append (Node.events_related congruence test)
        (Node.eventsExcept_related congruence Node.isContract body)

theorem Clause.eventsOf_related (congruence : EventCongruence first second related) :
    ∀ clauses : List Clause,
      related (Clause.eventsOf first clauses) (Clause.eventsOf second clauses)
  | [] => by
      simp only [Clause.eventsOf]
      exact congruence.nil
  | clause :: rest => by
      simp only [Clause.eventsOf]
      exact congruence.append (Clause.events_related congruence clause)
        (Clause.eventsOf_related congruence rest)

end

end Congruence

/-! ## Constructs are verified and rendered in the same place -/

/-- A node that has a frame has a binding, whatever the renderer. -/
theorem Node.exists_binding (renderer : Renderer) {construct : Node} {frame : Frame}
    (framed : construct.frame? = some frame) :
    ∃ binding, construct.binding? renderer = some binding := by
  cases construct with
  | contract | exec | cond | assign => exact ⟨_, rfl⟩
  | stateItem | stateMap | lookup | member | ident | literal | binary | call | emit | ret =>
      cases framed

/-- The events of a construct are its verification, those of its parts, and its rendering. -/
theorem mem_constructEvents {renderer : Renderer} {frame : Frame} {construct : Node}
    {parts : List Event} {event : Event} :
    event ∈ constructEvents renderer frame construct parts ↔
      event = (Event.here (.verify construct)).inside frame ∨
      (∃ part ∈ parts, event = part.inside frame) ∨
      ∃ binding, construct.binding? renderer = some binding ∧
        event = (Event.here (.render binding)).inside frame := by
  simp only [constructEvents, List.map_cons, List.map_append, List.mem_cons, List.mem_append,
    List.mem_map, Option.mem_toList]
  constructor
  · rintro (rfl | ⟨part, member, rfl⟩ | ⟨_, ⟨binding, bound, rfl⟩, rfl⟩)
    · exact .inl rfl
    · exact .inr (.inl ⟨part, member, rfl⟩)
    · exact .inr (.inr ⟨binding, bound, rfl⟩)
  · rintro (rfl | ⟨part, member, rfl⟩ | ⟨binding, bound, rfl⟩)
    · exact .inl rfl
    · exact .inr (.inl ⟨part, member, rfl⟩)
    · exact .inr (.inr ⟨_, ⟨binding, bound, rfl⟩, rfl⟩)

/-- What is rendered is the binding of a construct that is verified inside of the same constructs
and under the same declarations, and what is verified is rendered there. -/
structure VerifiedAndRendered (renderer : Renderer) (events : List Event) : Prop where
  verified : ∀ event ∈ events, ∀ binding, event.step = .render binding →
    ∃ construct : Node, construct.binding? renderer = some binding ∧
      { event with step := .verify construct } ∈ events
  rendered : ∀ event ∈ events, ∀ construct : Node, event.step = .verify construct →
    ∃ binding, construct.binding? renderer = some binding ∧
      { event with step := .render binding } ∈ events

namespace VerifiedAndRendered

variable {renderer : Renderer} {events further : List Event}

theorem append (left : VerifiedAndRendered renderer events)
    (right : VerifiedAndRendered renderer further) :
    VerifiedAndRendered renderer (events ++ further) where
  verified := by
    intro event member binding renders
    rcases List.mem_append.mp member with inLeft | inRight
    · obtain ⟨construct, bound, verified⟩ := left.verified event inLeft binding renders
      exact ⟨construct, bound, List.mem_append_left _ verified⟩
    · obtain ⟨construct, bound, verified⟩ := right.verified event inRight binding renders
      exact ⟨construct, bound, List.mem_append_right _ verified⟩
  rendered := by
    intro event member construct verifies
    rcases List.mem_append.mp member with inLeft | inRight
    · obtain ⟨binding, bound, rendered⟩ := left.rendered event inLeft construct verifies
      exact ⟨binding, bound, List.mem_append_left _ rendered⟩
    · obtain ⟨binding, bound, rendered⟩ := right.rendered event inRight construct verifies
      exact ⟨binding, bound, List.mem_append_right _ rendered⟩

/-- A change of the place of events keeps what is verified with what is rendered. -/
theorem map (both : VerifiedAndRendered renderer events) {change : Event → Event}
    (keeps : ∀ event, (change event).step = event.step)
    (uniform : ∀ event step,
      change { event with step := step } = { change event with step := step }) :
    VerifiedAndRendered renderer (events.map change) where
  verified := by
    intro event member binding renders
    obtain ⟨original, inEvents, rfl⟩ := List.mem_map.mp member
    obtain ⟨construct, bound, verified⟩ :=
      both.verified original inEvents binding ((keeps original).symm.trans renders)
    exact ⟨construct, bound, List.mem_map.mpr ⟨_, verified, uniform original _⟩⟩
  rendered := by
    intro event member construct verifies
    obtain ⟨original, inEvents, rfl⟩ := List.mem_map.mp member
    obtain ⟨binding, bound, rendered⟩ :=
      both.rendered original inEvents construct ((keeps original).symm.trans verifies)
    exact ⟨binding, bound, List.mem_map.mpr ⟨_, rendered, uniform original _⟩⟩

theorem construct {frame : Frame} {construct : Node} (framed : construct.frame? = some frame)
    (parts : VerifiedAndRendered renderer events) :
    VerifiedAndRendered renderer (constructEvents renderer frame construct events) where
  verified := by
    intro event member binding renders
    rcases mem_constructEvents.mp member with rfl | ⟨part, inParts, rfl⟩ | ⟨own, bound, rfl⟩
    · cases renders
    · obtain ⟨inner, bound, verified⟩ := parts.verified part inParts binding renders
      exact ⟨inner, bound, mem_constructEvents.mpr (.inr (.inl ⟨_, verified, rfl⟩))⟩
    · cases renders
      exact ⟨construct, bound, mem_constructEvents.mpr (.inl rfl)⟩
  rendered := by
    intro event member inner verifies
    rcases mem_constructEvents.mp member with rfl | ⟨part, inParts, rfl⟩ | ⟨own, bound, rfl⟩
    · cases verifies
      obtain ⟨binding, bound⟩ := construct.exists_binding renderer framed
      exact ⟨binding, bound, mem_constructEvents.mpr (.inr (.inr ⟨binding, bound, rfl⟩))⟩
    · obtain ⟨binding, bound, rendered⟩ := parts.rendered part inParts inner verifies
      exact ⟨binding, bound, mem_constructEvents.mpr (.inr (.inl ⟨_, rendered, rfl⟩))⟩
    · cases verifies

end VerifiedAndRendered

/-- **Constructs are verified and rendered in the same place.** -/
theorem Node.events_verified_and_rendered (renderer : Renderer) (node : Node) :
    VerifiedAndRendered renderer (node.events renderer) := by
  have congruence : EventCongruence renderer renderer
      (fun events _ => VerifiedAndRendered renderer events) :=
    { nil := by
        constructor
        · intro event member
          cases member
        · intro event member
          cases member
      append := VerifiedAndRendered.append
      leaveOut := by
        intro node
        constructor
        · intro event member binding renders
          rw [List.mem_singleton.mp member] at renders
          cases renders
        · intro event member construct verifies
          rw [List.mem_singleton.mp member] at verifies
          cases verifies
      construct := fun framed parts => parts.construct framed
      under := fun both => both.map (fun _ => rfl) fun _ _ => rfl }
  exact Node.events_related congruence node

/-! ## The events without their bindings -/

/-- A step without its binding. -/
def Step.blank : Step → Step
  | .render _ => .render { template := .contract }
  | .verify construct => .verify construct
  | .leaveOut node => .leaveOut node

/-- An event without its binding. -/
def Event.blank (event : Event) : Event :=
  { event with step := event.step.blank }

/-- The events of a construct without their bindings. -/
theorem constructEvents_blank (renderer : Renderer) {frame : Frame} {construct : Node}
    (framed : construct.frame? = some frame) (parts : List Event) :
    (constructEvents renderer frame construct parts).map Event.blank =
      (.here (.verify construct) :: (parts.map Event.blank ++
        [.here (.render { template := .contract })])).map (.inside frame) := by
  obtain ⟨binding, bound⟩ := construct.exists_binding renderer framed
  simp only [constructEvents, bound, Option.toList_some, List.map_cons, List.map_append,
    List.map_nil, List.map_map]
  rfl

/-- **Renderers make a difference to bindings only.** -/
theorem Node.events_blank (first second : Renderer) (node : Node) :
    (node.events first).map Event.blank = (node.events second).map Event.blank := by
  have congruence : EventCongruence first second
      (fun events others => events.map Event.blank = others.map Event.blank) :=
    { nil := rfl
      append := by
        intro events others further more same alike
        rw [List.map_append, List.map_append, same, alike]
      leaveOut := fun _ => rfl
      construct := by
        intro frame construct parts others framed same
        rw [constructEvents_blank first framed, constructEvents_blank second framed, same]
      under := by
        intro decls events others same
        have commutes : Event.blank ∘ Event.under decls = Event.under decls ∘ Event.blank := rfl
        rw [List.map_map, List.map_map, commutes, ← List.map_map, ← List.map_map, same] }
  exact Node.events_related congruence node

end ContractCompiler
