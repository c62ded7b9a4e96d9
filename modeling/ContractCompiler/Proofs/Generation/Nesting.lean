import ContractCompiler.Output.CosmWasm
import ContractCompiler.Proofs.Generation.Exchange
import ContractCompiler.Proofs.Generation.Units
import Mathlib.Data.List.Forall2

/-!
# What a nested contract does to the unit around it

A contract that stands in a list of items inside of another contract is a unit of its own. Lowering
the outer contract skips it, so that nothing of its body should matter there. This module takes the
outer contract as a context with a hole (`Spot`, `fillAll`) and compares what becomes of it with two
bodies of the nested contract.

Lowering gives the same values and passes the same places. Verification, however, looks for state in
the whole of an operand or condition, and also in the body of a contract that is nested in it. The
constructs that look at the nested contract in this way are its watchers. A body makes a difference
only if a watcher is refused for an access to state in that body, which is checked against the
declarations of the contract around the watcher and not against those of the nested contract
(`Contract.compile_nested`). Where there is no watcher, the body makes no difference. Where there is
one, it may (`nestedHandler_refused`).
-/

namespace ContractCompiler

set_option autoImplicit false

/-! ## Watchers -/

/-- The assignments and conditionals on a way down that hold what stands at its end in an operand or
a condition. -/
def watchers : List Spot → Node → List Node
  | [], _ => []
  | spot :: rest, node =>
      if spot.isWatched then fillAll (spot :: rest) node :: watchers rest node
      else watchers rest node

/-- Accesses to state, and the constructs that look at them from outside. -/
structure Exposure where
  accesses : List StateTarget
  watchers : List Node

/-- The step verifies a watcher, and the rules object to one of the accesses. -/
def Exposure.Blamed (exposure : Exposure) (table : Option StateTable) (step : Step) : Prop :=
  ∃ construct ∈ exposure.watchers, ∃ declared violation, step = .verify construct ∧
    table = some declared ∧ declared.Refuses exposure.accesses violation ∧
    construct.rules table = .error violation

/-! ## Generation of nodes that look alike -/

/-- Two events in the same place that come to the same, unless a watcher is blamed at one of
them. -/
structure Event.Alike (renderer : Renderer) (exposure changed : Exposure) (event other : Event) :
    Prop where
  opened : event.opened = other.opened
  declared : event.declared = other.declared
  causes : ∀ fallback table,
    event.step.cause? renderer fallback table = other.step.cause? renderer fallback table ∨
      exposure.Blamed table event.step ∨ changed.Blamed table other.step

/-- Two nodes that are lowered to the same value through events that are alike. -/
structure Node.GeneratedAlike (renderer : Renderer) (exposure changed : Exposure)
    (node other : Node) : Prop where
  value : node.value renderer = other.value renderer
  events : List.Forall₂ (Event.Alike renderer exposure changed) (node.events renderer)
    (other.events renderer)

section Generated

variable {renderer : Renderer} {exposure changed : Exposure} {node other : Node}

theorem Event.Alike.refl (event : Event) : event.Alike renderer exposure changed event where
  opened := rfl
  declared := rfl
  causes _ _ := .inl rfl

/-- With further watchers events stay alike. -/
theorem Event.Alike.mono {more further : Exposure} {event other : Event}
    (alike : event.Alike renderer exposure changed other)
    (accesses : exposure.accesses = more.accesses) (watchers : exposure.watchers ⊆ more.watchers)
    (others : changed.accesses = further.accesses)
    (otherWatchers : changed.watchers ⊆ further.watchers) :
    event.Alike renderer more further other where
  opened := alike.opened
  declared := alike.declared
  causes fallback table := by
    rcases alike.causes fallback table with
      same | ⟨construct, listed, blamed⟩ | ⟨construct, listed, blamed⟩
    · exact .inl same
    · exact .inr (.inl ⟨construct, watchers listed, accesses ▸ blamed⟩)
    · exact .inr (.inr ⟨construct, otherWatchers listed, others ▸ blamed⟩)

theorem eventsAlike_refl (events : List Event) :
    List.Forall₂ (Event.Alike renderer exposure changed) events events :=
  List.forall₂_same.mpr fun event _ => .refl event

/-- A change of the place of events keeps them alike. -/
theorem eventsAlike_map {change : Event → Event} {events others : List Event}
    (alike : List.Forall₂ (Event.Alike renderer exposure changed) events others)
    (changes : ∀ {event other : Event}, event.Alike renderer exposure changed other →
      (change event).Alike renderer exposure changed (change other)) :
    List.Forall₂ (Event.Alike renderer exposure changed) (events.map change)
      (others.map change) :=
  List.forall₂_map_left_iff.mpr (List.forall₂_map_right_iff.mpr (alike.imp fun _ _ => changes))

theorem Event.Alike.inside {event other : Event}
    (alike : event.Alike renderer exposure changed other) (frame : Frame) :
    (event.inside frame).Alike renderer exposure changed (other.inside frame) where
  opened := congrArg (· ++ [frame]) alike.opened
  declared := alike.declared
  causes := alike.causes

theorem Event.Alike.under {event other : Event}
    (alike : event.Alike renderer exposure changed other) (decls : List StateDecl) :
    (event.under decls).Alike renderer exposure changed (other.under decls) where
  opened := alike.opened
  declared := congrArg (·.or (some ⟨decls⟩)) alike.declared
  causes := alike.causes

/-- The events of two constructs in the same frame with the same binding. -/
theorem constructEvents_alike {frame : Frame} {construct twin : Node}
    (verified : (Event.here (.verify construct)).Alike renderer exposure changed
      (.here (.verify twin)))
    (bound : construct.binding? renderer = twin.binding? renderer) {parts others : List Event}
    (alike : List.Forall₂ (Event.Alike renderer exposure changed) parts others) :
    List.Forall₂ (Event.Alike renderer exposure changed)
      (constructEvents renderer frame construct parts)
      (constructEvents renderer frame twin others) := by
  unfold constructEvents
  rw [bound]
  exact eventsAlike_map (.cons verified (List.rel_append alike (eventsAlike_refl _)))
    fun events => events.inside frame

/-- Constructs that are judged the same are verified alike. -/
theorem verified_of_rules_eq {construct twin : Node} (same : construct.rules = twin.rules) :
    (Event.here (.verify construct)).Alike renderer exposure changed (.here (.verify twin)) where
  opened := rfl
  declared := rfl
  causes fallback table := by
    refine .inl ?_
    show Step.cause? renderer fallback table (.verify construct) =
      Step.cause? renderer fallback table (.verify twin)
    rw [Step.cause?, Step.cause?, same]

/-- Watchers that are judged alike are verified alike. -/
theorem verified_of_judgedAlike {construct twin : Node}
    (judged : construct.JudgedAlike exposure.accesses changed.accesses twin)
    (watching : construct ∈ exposure.watchers) (twinWatching : twin ∈ changed.watchers) :
    (Event.here (.verify construct)).Alike renderer exposure changed (.here (.verify twin)) where
  opened := rfl
  declared := rfl
  causes fallback table := by
    rcases judged table with same | ⟨declared, violation, blamed⟩ | ⟨declared, violation, blamed⟩
    · refine .inl ?_
      show Step.cause? renderer fallback table (.verify construct) =
        Step.cause? renderer fallback table (.verify twin)
      rw [Step.cause?, Step.cause?, same]
    · exact .inr (.inl ⟨construct, watching, declared, violation, rfl, blamed⟩)
    · exact .inr (.inr ⟨twin, twinWatching, declared, violation, rfl, blamed⟩)

/-- What becomes of a construct is the text of its binding. -/
theorem Node.value_of_binding {binding : Binding} (bound : node.binding? renderer = some binding) :
    node.value renderer = .fragment (textOf renderer binding) := by
  cases node with
  | contract | exec | cond | assign =>
      rw [Node.binding?] at bound
      cases bound
      rw [Node.value]
  | stateItem | stateMap | lookup | member | ident | literal | binary | call | emit | ret =>
      cases bound

namespace Node.GeneratedAlike

theorem refl (node : Node) : node.GeneratedAlike renderer exposure changed node where
  value := rfl
  events := eventsAlike_refl _

theorem lookup {key otherKey : Node} (item : node.GeneratedAlike renderer exposure changed other)
    (keys : key.GeneratedAlike renderer exposure changed otherKey) :
    (Node.lookup node key).GeneratedAlike renderer exposure changed (.lookup other otherKey) where
  value := by rw [Node.value, Node.value, item.value, keys.value]
  events := by
    rw [Node.events, Node.events]
    exact List.rel_append item.events keys.events

theorem member (item : node.GeneratedAlike renderer exposure changed other) (name : String) :
    (Node.member node name).GeneratedAlike renderer exposure changed (.member other name) where
  value := by rw [Node.value, Node.value, item.value]
  events := by
    rw [Node.events, Node.events]
    exact item.events

theorem binary {rhs otherRhs : Node} (op : String)
    (left : node.GeneratedAlike renderer exposure changed other)
    (right : rhs.GeneratedAlike renderer exposure changed otherRhs) :
    (Node.binary op node rhs).GeneratedAlike renderer exposure changed
      (.binary op other otherRhs) where
  value := by rw [Node.value, Node.value, left.value, right.value]
  events := by
    rw [Node.events, Node.events]
    exact List.rel_append left.events right.events

/-- Nodes without a lowering that are described in the same words. -/
theorem leftOut (described : node.describe = other.describe)
    (plain : node.value renderer = placeholder node ∧
      node.events renderer = [.here (.leaveOut node)])
    (otherPlain : other.value renderer = placeholder other ∧
      other.events renderer = [.here (.leaveOut other)]) :
    node.GeneratedAlike renderer exposure changed other where
  value := by rw [plain.1, otherPlain.1, placeholder, placeholder, described]
  events := by
    rw [plain.2, otherPlain.2]
    refine .cons ⟨rfl, rfl, fun fallback table => .inl ?_⟩ .nil
    show Step.cause? renderer fallback table (.leaveOut node) =
      Step.cause? renderer fallback table (.leaveOut other)
    cases fallback with
    | permissive => rfl
    | strict => rw [Step.cause?, Step.cause?, described]

end Node.GeneratedAlike

end Generated

/-! ### Lists of items -/

section Lists

variable {renderer : Renderer} {exposure changed : Exposure} {node other : Node}

theorem Node.valuesExcept_append (skip : Node → Bool) (nodes more : List Node) :
    Node.valuesExcept renderer skip (nodes ++ more) =
      Node.valuesExcept renderer skip nodes ++ Node.valuesExcept renderer skip more := by
  simp only [Node.valuesExcept_eq_map, List.filter_append, List.map_append]

theorem Node.eventsExcept_append (skip : Node → Bool) (nodes more : List Node) :
    Node.eventsExcept renderer skip (nodes ++ more) =
      Node.eventsExcept renderer skip nodes ++ Node.eventsExcept renderer skip more := by
  simp only [Node.eventsExcept_eq_flatMap, List.filter_append, List.flatMap_append]

/-- In a list of items, what is generated for one of them is exchanged, unless it is skipped. -/
theorem Node.valuesExcept_alike {skip : Node → Bool} (skipped : skip node = skip other)
    (generated : skip node = false → node.GeneratedAlike renderer exposure changed other)
    (before after : List Node) :
    Node.valuesExcept renderer skip (before ++ node :: after) =
      Node.valuesExcept renderer skip (before ++ other :: after) := by
  rw [Node.valuesExcept_append, Node.valuesExcept_append, Node.valuesExcept, Node.valuesExcept,
    ← skipped]
  cases left : skip node with
  | true => rfl
  | false => rw [(generated left).value]

theorem Node.eventsExcept_alike {skip : Node → Bool} (skipped : skip node = skip other)
    (generated : skip node = false → node.GeneratedAlike renderer exposure changed other)
    (before after : List Node) :
    List.Forall₂ (Event.Alike renderer exposure changed)
      (Node.eventsExcept renderer skip (before ++ node :: after))
      (Node.eventsExcept renderer skip (before ++ other :: after)) := by
  rw [Node.eventsExcept_append, Node.eventsExcept_append, Node.eventsExcept, Node.eventsExcept,
    ← skipped]
  refine List.rel_append (eventsAlike_refl _) ?_
  cases left : skip node with
  | true => exact eventsAlike_refl _
  | false => exact List.rel_append (generated left).events (eventsAlike_refl _)

theorem Clause.slots_append (clauses more : List Clause) :
    Clause.slots renderer (clauses ++ more) =
      Clause.slots renderer clauses ++ Clause.slots renderer more := by
  induction clauses with
  | nil => rw [List.nil_append, Clause.slots, List.nil_append]
  | cons clause rest ih => rw [List.cons_append, Clause.slots, Clause.slots, ih, List.cons_append]

theorem Clause.eventsOf_append (clauses more : List Clause) :
    Clause.eventsOf renderer (clauses ++ more) =
      Clause.eventsOf renderer clauses ++ Clause.eventsOf renderer more := by
  induction clauses with
  | nil => rw [List.nil_append, Clause.eventsOf, List.nil_append]
  | cons clause rest ih =>
      rw [List.cons_append, Clause.eventsOf, Clause.eventsOf, ih, List.append_assoc]

end Lists

/-! ### The node around a place -/

/-- What is known of two nodes in the same place: they look alike, and unless they are contracts in
a list of items, which are skipped there, they are generated alike. -/
structure Spot.Hosts (renderer : Renderer) (exposure changed : Exposure) (spot : Spot)
    (node other : Node) : Prop where
  alike : node.LooksAlike exposure.accesses changed.accesses other
  generated : spot.isBody = true ∧ node.isContract = true ∨
    node.GeneratedAlike renderer exposure changed other

namespace Spot.Hosts

variable {renderer : Renderer} {exposure changed : Exposure} {spot : Spot} {node other : Node}

/-- Outside of lists of items nothing is skipped. -/
theorem generated_whole (hosts : spot.Hosts renderer exposure changed node other)
    (operand : spot.isBody = false) : node.GeneratedAlike renderer exposure changed other := by
  rcases hosts.generated with ⟨body, _⟩ | generated
  · rw [operand] at body
    cases body
  · exact generated

theorem generated_item (hosts : spot.Hosts renderer exposure changed node other)
    (item : node.isContract = false) : node.GeneratedAlike renderer exposure changed other := by
  rcases hosts.generated with ⟨_, nested⟩ | generated
  · rw [item] at nested
    cases nested
  · exact generated

theorem isContract_eq (hosts : spot.Hosts renderer exposure changed node other) :
    node.isContract = other.isContract := by
  rw [Node.isContract, Node.isContract, hosts.alike.kind]

theorem isLeftToUnit_eq (hosts : spot.Hosts renderer exposure changed node other) :
    node.isLeftToUnit = other.isLeftToUnit := by
  rw [Node.isLeftToUnit, Node.isLeftToUnit, hosts.isContract_eq, Node.isStateDecl,
    Node.isStateDecl, hosts.alike.kind]

theorem generated_kept (hosts : spot.Hosts renderer exposure changed node other)
    (kept : node.isLeftToUnit = false) : node.GeneratedAlike renderer exposure changed other :=
  hosts.generated_item (Bool.or_eq_false_iff.mp kept).1

theorem stateDecls_eq (hosts : spot.Hosts renderer exposure changed node other)
    (before after : List Node) :
    stateDecls (before ++ node :: after) = stateDecls (before ++ other :: after) := by
  simp only [stateDecls, List.filterMap_append, List.filterMap_cons, hosts.alike.decl]

/-- The statements of a handler or of a branch. -/
theorem values_eq (hosts : spot.Hosts renderer exposure changed node other)
    (before after : List Node) :
    Node.valuesExcept renderer Node.isContract (before ++ node :: after) =
      Node.valuesExcept renderer Node.isContract (before ++ other :: after) :=
  Node.valuesExcept_alike hosts.isContract_eq hosts.generated_item before after

theorem events_alike (hosts : spot.Hosts renderer exposure changed node other)
    (before after : List Node) :
    List.Forall₂ (Event.Alike renderer exposure changed)
      (Node.eventsExcept renderer Node.isContract (before ++ node :: after))
      (Node.eventsExcept renderer Node.isContract (before ++ other :: after)) :=
  Node.eventsExcept_alike hosts.isContract_eq hosts.generated_item before after

/-- A clause with either node in it. The place in the clause is a condition, where both nodes are
generated alike, or one of its statements. -/
theorem slot_eq (hosts : spot.Hosts renderer exposure changed node other) (inner : ClauseSpot)
    (condition : ∀ body, inner = .condition body →
      node.GeneratedAlike renderer exposure changed other) :
    (inner.fill node).slot renderer = (inner.fill other).slot renderer := by
  cases inner with
  | condition body =>
      simp only [ClauseSpot.fill, Clause.slot, (condition body rfl).value]
  | statement test before after =>
      simp only [ClauseSpot.fill, Clause.slot, hosts.values_eq before after]

theorem clauseEvents_alike (hosts : spot.Hosts renderer exposure changed node other)
    (inner : ClauseSpot)
    (condition : ∀ body, inner = .condition body →
      node.GeneratedAlike renderer exposure changed other) :
    List.Forall₂ (Event.Alike renderer exposure changed)
      ((inner.fill node).events renderer) ((inner.fill other).events renderer) := by
  cases inner with
  | condition body =>
      simp only [ClauseSpot.fill, Clause.events]
      exact List.rel_append (condition body rfl).events (eventsAlike_refl _)
  | statement test before after =>
      simp only [ClauseSpot.fill, Clause.events]
      exact List.rel_append (eventsAlike_refl _) (hosts.events_alike before after)

/-- Both nodes are bound to the slots of the construct in the same way. -/
theorem binding?_eq (hosts : spot.Hosts renderer exposure changed node other) :
    (spot.fill node).binding? renderer = (spot.fill other).binding? renderer := by
  cases spot with
  | contractBody name before after =>
      simp only [Spot.fill, Node.binding?, hosts.stateDecls_eq before after,
        Node.valuesExcept_alike hosts.isLeftToUnit_eq hosts.generated_kept before after]
  | handlerBody name params before after =>
      simp only [Spot.fill, Node.binding?, hosts.values_eq before after]
  | firstClause inner elseIfs otherwise =>
      have same := hosts.slot_eq inner fun body atCondition =>
        hosts.generated_whole (by rw [atCondition]; rfl)
      simp only [Spot.fill, Node.binding?, same]
  | elseIfClause first before inner after otherwise =>
      have same := hosts.slot_eq inner fun body atCondition =>
        hosts.generated_whole (by rw [atCondition]; rfl)
      simp only [Spot.fill, Node.binding?, Clause.slots_append, Clause.slots, same]
  | elseBranch first elseIfs before after =>
      simp only [Spot.fill, Node.binding?, Node.otherwiseSlot, hosts.values_eq before after]
  | assignTarget rhs =>
      simp only [Spot.fill, Node.binding?, (hosts.generated_whole rfl).value,
        hosts.alike.compound, hosts.alike.compound_other]
  | assignSource lhs =>
      simp only [Spot.fill, Node.binding?, (hosts.generated_whole rfl).value]
  | lookupItem | lookupKey | memberItem | leftOperand | rightOperand | callee | argument | emitted
  | result => rfl

/-- The parts of the construct are gone through alike. -/
theorem partEvents_alike (hosts : spot.Hosts renderer exposure changed node other) :
    List.Forall₂ (Event.Alike renderer exposure changed)
      ((spot.fill node).partEvents renderer) ((spot.fill other).partEvents renderer) := by
  cases spot with
  | contractBody name before after =>
      simp only [Spot.fill, Node.partEvents, hosts.stateDecls_eq before after]
      exact eventsAlike_map
        (Node.eventsExcept_alike hosts.isLeftToUnit_eq hosts.generated_kept before after)
        fun events => events.under _
  | handlerBody name params before after => exact hosts.events_alike before after
  | firstClause inner elseIfs otherwise =>
      have clause := hosts.clauseEvents_alike inner fun body atCondition =>
        hosts.generated_whole (by rw [atCondition]; rfl)
      exact List.rel_append clause (eventsAlike_refl _)
  | elseIfClause first before inner after otherwise =>
      have clause := hosts.clauseEvents_alike inner fun body atCondition =>
        hosts.generated_whole (by rw [atCondition]; rfl)
      simp only [Spot.fill, Node.partEvents, Clause.eventsOf_append, Clause.eventsOf]
      exact List.rel_append (eventsAlike_refl _)
        (List.rel_append
          (List.rel_append (eventsAlike_refl _) (List.rel_append clause (eventsAlike_refl _)))
          (eventsAlike_refl _))
  | elseBranch first elseIfs before after =>
      simp only [Spot.fill, Node.partEvents, Node.otherwiseEvents]
      exact List.rel_append (eventsAlike_refl _)
        (List.rel_append (eventsAlike_refl _) (hosts.events_alike before after))
  | assignTarget rhs =>
      exact List.rel_append (hosts.generated_whole rfl).events (eventsAlike_refl _)
  | assignSource lhs =>
      exact List.rel_append (eventsAlike_refl _) (hosts.generated_whole rfl).events
  | lookupItem | lookupKey | memberItem | leftOperand | rightOperand | callee | argument | emitted
  | result => exact .nil

theorem frame?_eq (hosts : spot.Hosts renderer exposure changed node other) :
    (spot.fill node).frame? = (spot.fill other).frame? := by
  cases spot with
  | assignTarget rhs =>
      simp only [Spot.fill, Node.frame?, Frame.assign, hosts.alike.spelling]
  | _ => rfl

/-- **A construct is verified alike** with either node in it, if it is listed among the watchers
where it is one. -/
theorem verified_alike (hosts : spot.Hosts renderer exposure changed node other)
    (watching : spot.isWatched = true → spot.fill node ∈ exposure.watchers)
    (twinWatching : spot.isWatched = true → spot.fill other ∈ changed.watchers) :
    (Event.here (.verify (spot.fill node))).Alike renderer exposure changed
      (.here (.verify (spot.fill other))) := by
  cases watched : spot.isWatched with
  | true =>
      exact verified_of_judgedAlike (hosts.alike.judgedAlike watched) (watching watched)
        (twinWatching watched)
  | false => exact verified_of_rules_eq (hosts.alike.rules_eq watched)

/-- **Generation is alike** around the place. -/
theorem generatedAlike (hosts : spot.Hosts renderer exposure changed node other)
    (watching : spot.isWatched = true → spot.fill node ∈ exposure.watchers)
    (twinWatching : spot.isWatched = true → spot.fill other ∈ changed.watchers) :
    (spot.fill node).GeneratedAlike renderer exposure changed (spot.fill other) := by
  cases framed : (spot.fill node).frame? with
  | some frame =>
      have twinFramed := hosts.frame?_eq ▸ framed
      obtain ⟨binding, bound⟩ := (spot.fill node).exists_binding renderer framed
      constructor
      · rw [Node.value_of_binding bound, Node.value_of_binding (hosts.binding?_eq ▸ bound)]
      · rw [Node.events_of_frame framed, Node.events_of_frame twinFramed]
        exact constructEvents_alike (hosts.verified_alike watching twinWatching)
          hosts.binding?_eq hosts.partEvents_alike
  | none =>
      cases spot with
      | contractBody | handlerBody | firstClause | elseIfClause | elseBranch | assignTarget
      | assignSource => cases framed
      | lookupItem key => exact (hosts.generated_whole rfl).lookup (.refl key)
      | lookupKey item => exact (Node.GeneratedAlike.refl item).lookup (hosts.generated_whole rfl)
      | memberItem name => exact (hosts.generated_whole rfl).member name
      | leftOperand op rhs => exact (hosts.generated_whole rfl).binary op (.refl rhs)
      | rightOperand op lhs =>
          exact (Node.GeneratedAlike.refl lhs).binary op (hosts.generated_whole rfl)
      | callee | argument | emitted | result =>
          refine .leftOut (hosts.alike.describe_fill _) ⟨?_, ?_⟩ ⟨?_, ?_⟩ <;>
            simp only [Spot.fill, Node.value, Node.events]

end Spot.Hosts

/-! ## Units around a nested contract -/

/-- What a nested contract with the given body shows to the constructs on the way down to it. -/
def exposureOf (way : List Spot) (name : String) (body : List Node) : Exposure :=
  ⟨Node.stateAccessesOf body, watchers way (.contract name body)⟩

section Nested

variable {renderer : Renderer} {name : String} {old new : List Node}

/-- With a further place around the way, the watchers stay watchers. -/
theorem watchers_subset (spot : Spot) (way : List Spot) (node : Node) :
    watchers way node ⊆ watchers (spot :: way) node := by
  rw [watchers]
  split
  · exact List.subset_cons_self _ _
  · exact List.Subset.refl _

theorem mem_watchers {spot : Spot} (watched : spot.isWatched = true) (way : List Spot)
    (node : Node) : fillAll (spot :: way) node ∈ watchers (spot :: way) node := by
  rw [watchers, if_pos watched]
  exact List.mem_cons_self

/-- Where there is a watcher, some place on the way is in an operand or a condition. -/
theorem exists_isWatched {way : List Spot} {node construct : Node}
    (watching : construct ∈ watchers way node) : ∃ place ∈ way, place.isWatched = true := by
  induction way with
  | nil => cases watching
  | cons spot rest ih =>
      rw [watchers] at watching
      split at watching
      · rename_i watched
        exact ⟨spot, List.mem_cons_self, watched⟩
      · obtain ⟨place, inRest, watched⟩ := ih watching
        exact ⟨place, List.mem_cons_of_mem _ inRest, watched⟩

theorem Spot.isWatched_of_isBody {spot : Spot} (body : spot.isBody = true) :
    spot.isWatched = false := by
  cases spot with
  | firstClause inner | elseIfClause _ _ inner =>
      cases inner with
      | condition => cases body
      | statement => rfl
  | contractBody | handlerBody | elseBranch => rfl
  | assignTarget | assignSource | lookupItem | lookupKey | memberItem | leftOperand
  | rightOperand | callee | argument | emitted | result => cases body

/-- A node around the nested contract looks the same with both bodies. -/
theorem fillAll_looksAlike (way : List Spot) (name : String) (old new : List Node) :
    (fillAll way (.contract name old)).LooksAlike (Node.stateAccessesOf old)
      (Node.stateAccessesOf new) (fillAll way (.contract name new)) := by
  induction way with
  | nil => exact .ofContract name old new
  | cons spot rest ih => exact ih.fill spot

/-- **A node around a nested contract is generated alike** with both bodies. The induction goes from
the list of items that the nested contract stands in to the outside, and a place adds the construct
around it to the watchers. -/
theorem fillAll_generatedAlike (renderer : Renderer) (outer : List Spot) {spot : Spot}
    (body : spot.isBody = true) (name : String) (old new : List Node) :
    (fillAll (outer ++ [spot]) (.contract name old)).GeneratedAlike renderer
      (exposureOf (outer ++ [spot]) name old) (exposureOf (outer ++ [spot]) name new)
      (fillAll (outer ++ [spot]) (.contract name new)) := by
  induction outer with
  | nil =>
      have hosts : spot.Hosts renderer (exposureOf [spot] name old) (exposureOf [spot] name new)
          (.contract name old) (.contract name new) :=
        ⟨.ofContract name old new, .inl ⟨body, rfl⟩⟩
      exact hosts.generatedAlike (fun watched => mem_watchers watched [] _)
        (fun watched => mem_watchers watched [] _)
  | cons further rest ih =>
      have kept : (fillAll (rest ++ [spot]) (.contract name old)).GeneratedAlike renderer
          (exposureOf (further :: rest ++ [spot]) name old)
          (exposureOf (further :: rest ++ [spot]) name new)
          (fillAll (rest ++ [spot]) (.contract name new)) :=
        ⟨ih.value, ih.events.imp fun _ _ alike =>
          alike.mono rfl (watchers_subset further _ _) rfl (watchers_subset further _ _)⟩
      have hosts : further.Hosts renderer (exposureOf (further :: rest ++ [spot]) name old)
          (exposureOf (further :: rest ++ [spot]) name new)
          (fillAll (rest ++ [spot]) (.contract name old))
          (fillAll (rest ++ [spot]) (.contract name new)) :=
        ⟨fillAll_looksAlike _ name old new, .inr kept⟩
      exact hosts.generatedAlike (fun watched => mem_watchers watched _ _)
        (fun watched => mem_watchers watched _ _)

end Nested

/-! ### The first fault -/

/-- The first fault in a list of events is met where a watcher is blamed. -/
def Exposure.Stops (exposure : Exposure) (renderer : Renderer) (env : Env) (events : List Event) :
    Prop :=
  ∃ event ∈ events, exposure.Blamed (event.table env) event.step ∧
    events.findSome? (·.fault? renderer env) = event.fault? renderer env

section FirstFault

variable {renderer : Renderer} {exposure changed : Exposure} {env : Env}

/-- A watcher that is blamed fails with the violation of the access. -/
theorem Event.fault?_of_rules {event : Event} {construct : Node} {violation : Violation}
    (verifies : event.step = .verify construct)
    (refused : construct.rules (event.table env) = .error violation) :
    event.fault? renderer env = some ⟨trail (event.frames env), .verification violation⟩ := by
  rw [Event.fault?, Event.cause?, verifies, Step.cause?, refused]
  rfl

/-- A list of events stops at its first one if a watcher is blamed there. -/
theorem Exposure.stops_of_blamed {event : Event}
    (blamed : exposure.Blamed (event.table env) event.step) (rest : List Event) :
    exposure.Stops renderer env (event :: rest) := by
  refine ⟨event, List.mem_cons_self, blamed, ?_⟩
  obtain ⟨construct, _, declared, violation, verifies, _, _, refused⟩ := blamed
  rw [List.findSome?_cons, Event.fault?_of_rules verifies refused]

theorem Exposure.Stops.cons {event : Event} {rest : List Event}
    (passes : event.fault? renderer env = none) (stops : exposure.Stops renderer env rest) :
    exposure.Stops renderer env (event :: rest) := by
  obtain ⟨last, member, blamed, found⟩ := stops
  refine ⟨last, List.mem_cons_of_mem _ member, blamed, ?_⟩
  rw [List.findSome?_cons, passes, found]

/-- Events that are alike fail in the same way, unless one of the lists stops where a watcher is
blamed. -/
theorem firstFault_alike (env : Env) {events others : List Event}
    (alike : List.Forall₂ (Event.Alike renderer exposure changed) events others) :
    events.findSome? (·.fault? renderer env) = others.findSome? (·.fault? renderer env) ∨
      exposure.Stops renderer env events ∨ changed.Stops renderer env others := by
  induction alike with
  | nil => exact .inl rfl
  | @cons event other rest more first _ ih =>
      have tables : event.table env = other.table env := by
        rw [Event.table, Event.table, first.declared]
      rcases first.causes env.fallback (event.table env) with same | blamed | blamed
      · have faults : event.fault? renderer env = other.fault? renderer env := by
          rw [Event.fault?, Event.fault?, Event.cause?, Event.cause?, same, tables, Event.frames,
            Event.frames, first.opened]
        cases verdict : other.fault? renderer env with
        | some fault =>
            refine .inl ?_
            rw [List.findSome?_cons, List.findSome?_cons, faults, verdict]
        | none =>
            rcases ih with rest | stops | stops
            · refine .inl ?_
              rw [List.findSome?_cons, List.findSome?_cons, faults, verdict, rest]
            · exact .inr (.inl (stops.cons (faults.trans verdict)))
            · exact .inr (.inr (stops.cons verdict))
      · exact .inr (.inl (Exposure.stops_of_blamed blamed _))
      · exact .inr (.inr (Exposure.stops_of_blamed (tables ▸ blamed) _))

end FirstFault

/-- A unit fails where a watcher is verified: an access is refused by the declarations of the
innermost contract around the watcher. -/
def Contract.FailsAtWatcher (renderer : Renderer) (fallback : Fallback) (unit : Contract)
    (exposure : Exposure) : Prop :=
  ∃ construct ∈ exposure.watchers, ∃ target ∈ exposure.accesses, ∃ frames owner violation,
    unit.node.Holds frames (some owner) construct ∧
    checkAccess owner.stateTable target = .error violation ∧
    (unit.compile renderer fallback).outcome =
      .error ⟨trail (construct.frame?.toList ++ frames), .verification violation⟩

/-- A unit whose events stop where a watcher is blamed fails there. -/
theorem Exposure.Stops.failsAtWatcher {renderer : Renderer} {fallback : Fallback} {unit : Contract}
    {exposure : Exposure}
    (stops : exposure.Stops renderer { fallback } (unit.node.events renderer)) :
    unit.FailsAtWatcher renderer fallback exposure := by
  obtain ⟨event, member, blamed, first⟩ := stops
  obtain ⟨construct, watching, declared, violation, verifies, inForce, refusal, refused⟩ := blamed
  obtain ⟨target, listed, unchecked⟩ := refusal
  obtain ⟨frames, owner, held, opened, declares⟩ := unit.node.events_located member verifies
  rw [Event.table, declares, Option.or_none] at inForce
  obtain ⟨contract, rfl, rfl⟩ := Option.map_eq_some_iff.mp inForce
  refine ⟨construct, watching, target, listed, frames, contract, violation, held, unchecked, ?_⟩
  rw [unit.compile_outcome, first, Event.fault?_of_rules verifies refused, Event.frames, opened,
    List.append_nil, faultOr]

/-- Units that are generated alike have the same outcome, unless one of them fails at a watcher. -/
theorem Contract.outcomes_alike {renderer : Renderer} {exposure changed : Exposure}
    {unit other : Contract} (fallback : Fallback)
    (generated : unit.node.GeneratedAlike renderer exposure changed other.node) :
    (unit.compile renderer fallback).outcome = (other.compile renderer fallback).outcome ∨
      unit.FailsAtWatcher renderer fallback exposure ∨
      other.FailsAtWatcher renderer fallback changed := by
  rcases firstFault_alike { fallback } generated.events with same | stops | stops
  · refine .inl ?_
    have texts : textOf renderer (unit.binding renderer) =
        textOf renderer (other.binding renderer) :=
      Value.fragment.inj ((Node.value_of_binding rfl).symm.trans
        (generated.value.trans (Node.value_of_binding rfl)))
    rw [unit.compile_outcome, other.compile_outcome, same, texts]
  · exact .inr (.inl stops.failsAtWatcher)
  · exact .inr (.inr stops.failsAtWatcher)

/-- A unit fails at a watcher only if the way leads through an operand or a condition. -/
theorem Contract.FailsAtWatcher.exists_watched {renderer : Renderer} {fallback : Fallback}
    {unit : Contract} {outer : List Spot} {spot : Spot} {name : String} {body : List Node}
    (fails : unit.FailsAtWatcher renderer fallback (exposureOf (outer ++ [spot]) name body))
    (item : spot.isBody = true) : ∃ place ∈ outer, place.isWatched = true := by
  obtain ⟨construct, watching, _⟩ := fails
  obtain ⟨place, onWay, watched⟩ := exists_isWatched watching
  rcases List.mem_append.mp onWay with inOuter | last
  · exact ⟨place, inOuter, watched⟩
  · rw [List.mem_singleton.mp last, Spot.isWatched_of_isBody item] at watched
    cases watched

/-- **The body of a nested contract** makes no difference to the unit around it if the way to it
leads through lists of items and places in expressions only. If it leads through an operand of an
assignment or a condition, the outcome can still differ only if one of the two units fails at such a
watcher, for an access in the body of the nested contract that the contract around the watcher does
not allow. -/
theorem Contract.compile_nested (renderer : Renderer) (fallback : Fallback) (outer : List Spot)
    (spot : Spot) (item : spot.isBody = true) (name : String) (old new : List Node)
    (unit other : Contract)
    (around : unit.node = fillAll (outer ++ [spot]) (.contract name old))
    (aroundNew : other.node = fillAll (outer ++ [spot]) (.contract name new)) :
    ((∀ place ∈ outer, place.isWatched = false) →
      (unit.compile renderer fallback).outcome = (other.compile renderer fallback).outcome) ∧
    ((unit.compile renderer fallback).outcome = (other.compile renderer fallback).outcome ∨
      unit.FailsAtWatcher renderer fallback (exposureOf (outer ++ [spot]) name old) ∨
      other.FailsAtWatcher renderer fallback (exposureOf (outer ++ [spot]) name new)) := by
  have generated := fillAll_generatedAlike renderer outer item name old new
  rw [← around, ← aroundNew] at generated
  have outcomes := Contract.outcomes_alike fallback generated
  refine ⟨fun unwatched => ?_, outcomes⟩
  have impossible : ¬ ∃ place ∈ outer, place.isWatched = true := by
    rintro ⟨place, inOuter, watched⟩
    rw [unwatched place inOuter] at watched
    cases watched
  rcases outcomes with same | fails | fails
  · exact same
  · exact (impossible (fails.exists_watched item)).elim
  · exact (impossible (fails.exists_watched item)).elim

/-- A contract that stores to the state that it declares. -/
def selfContained : Contract where
  name := "N"
  body :=
    [.stateItem "x" ⟨"u8"⟩, .exec "h" [] [.assign (.state "x") (.literal (.int "1"))]]

/-- A contract with a handler whose only statement is given. -/
def aroundStatement (statement : Node) : Contract where
  name := "T"
  body := [.exec "f" [] [statement]]

/-- A conditional with a contract nested in its branch. -/
def inBranch (body : List Node) : Node :=
  .cond (.mk (.ident "c") [.contract "N" body]) [] none

/-- An assignment with a handler for its operand, and a contract nested in the handler. -/
def inOperand (body : List Node) : Node :=
  .assign (.ident "a") (.exec "g" [] [.contract "N" body])

/-- In a branch the body makes no difference, and in an operand the unit fails for an access in
it. -/
theorem selfContained_nested :
    ((aroundStatement (inBranch selfContained.body)).compile nameTemplate .strict).outcome =
      ((aroundStatement (inBranch [])).compile nameTemplate .strict).outcome ∧
    (aroundStatement (inOperand selfContained.body)).FailsAtWatcher nameTemplate .strict
      (exposureOf [.contractBody "T" [] [], .handlerBody "f" [] [] [], .assignSource (.ident "a"),
        .handlerBody "g" [] [] []] "N" selfContained.body) := by
  constructor
  · exact (Contract.compile_nested nameTemplate .strict
      [.contractBody "T" [] [], .handlerBody "f" [] [] []]
      (.firstClause (.statement (.ident "c") [] []) [] none) rfl "N" selfContained.body [] _ _
      rfl rfl).1 (by decide)
  · rcases (Contract.compile_nested nameTemplate .strict
      [.contractBody "T" [] [], .handlerBody "f" [] [] [], .assignSource (.ident "a")]
      (.handlerBody "g" [] [] []) rfl "N" selfContained.body [] (aroundStatement (inOperand _))
      (aroundStatement (inOperand [])) rfl rfl).2 with same | fails | fails
    · cases same
    · exact fails
    · obtain ⟨_, _, _, _, _, _, _, _, _, failed⟩ := fails
      cases failed

/-- **A nested contract can be refused for its own state.** The contract `N` compiles, and so does
`T` around it if the body of `N` is empty. With its body, `T` fails at the assignment around `N`,
which is verified under the declarations of `T`. -/
theorem nestedHandler_refused :
    (selfContained.compile (CosmWasm.render {}) .strict).outcome.isOk = true ∧
    ((aroundStatement (inOperand [])).compile (CosmWasm.render {}) .strict).outcome.isOk = true ∧
    ((aroundStatement (inOperand selfContained.body)).compile (CosmWasm.render {})
        .strict).outcome =
      .error ⟨"contract T > exec f > assign a", .verification (.undeclaredState "x")⟩ :=
  ⟨rfl, rfl, rfl⟩

end ContractCompiler
