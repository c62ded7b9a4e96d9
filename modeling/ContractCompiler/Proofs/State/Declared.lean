import ContractCompiler.Proofs.Generation.Places
import ContractCompiler.Proofs.Generation.Units
import ContractCompiler.Proofs.Output.Rendering
import ContractCompiler.Proofs.State.References

/-!
# Generated code uses declared state

Where a contract compiles, the state that its generated code reads and writes should be declared in
the innermost contract around, with as many keys as the code applies. Verification checks the state
that it sees in the operands of a construct (`Node.rules_declares`), and the values that are
rendered refer to that state and to hidden state (`Node.refersAsRead`). So all references that are
rendered are declared exactly if the hidden ones are (`Contract.references_declared_iff`).
Verification does not look for hidden references, and a contract that has one may compile without
declaring any state (`literalRoot_undeclared`).
-/

namespace ContractCompiler

set_option autoImplicit false

/-! ## What verification establishes -/

/-- The table has a declaration of the name with as many keys as there are lookups. -/
def StateTable.Declares (table : StateTable) (target : StateTarget) : Prop :=
  ∃ decl ∈ table.decls, decl.name = target.key ∧ decl.keys.length = target.lookups

instance (table : StateTable) (target : StateTarget) : Decidable (table.Declares target) :=
  inferInstanceAs (Decidable (∃ decl ∈ table.decls, _))

/-- The declaration that is found for a name is a declaration of that name. -/
theorem StateTable.get?_eq_some {table : StateTable} {name : String} {decl : StateDecl}
    (found : table.get? name = some decl) : decl ∈ table.decls ∧ decl.name = name := by
  have named : decl.name = name := by simpa using List.find?_some found
  exact ⟨List.mem_reverse.mp (List.mem_of_find?_eq_some found), named⟩

/-- An access that passes is declared. -/
theorem checkAccess_declares {table : StateTable} {target : StateTarget}
    (passes : checkAccess table target = .ok ()) : table.Declares target := by
  unfold checkAccess at passes
  cases found : table.get? target.key with
  | none =>
      rw [found] at passes
      cases passes
  | some decl =>
      obtain ⟨declared, named⟩ := StateTable.get?_eq_some found
      refine ⟨decl, declared, named, ?_⟩
      simp only [found] at passes
      by_cases isMap : decl.isMap = true
      · rw [if_pos isMap] at passes
        split at passes
        · cases passes
        · split at passes
          · cases passes
          · omega
      · rw [if_neg isMap] at passes
        split at passes
        · have noKeys : decl.keys = [] := by simpa [StateDecl.isMap] using isMap
          rw [noKeys, List.length_nil]
          omega
        · cases passes

/-- Accesses that pass are declared. -/
theorem checkAccesses_declares {table : StateTable} {targets : List StateTarget}
    (passes : checkAccesses table targets = .ok ()) :
    ∀ target ∈ targets, table.Declares target := by
  induction targets with
  | nil =>
      intro target member
      cases member
  | cons first rest ih =>
      rw [checkAccesses] at passes
      cases verdict : checkAccess table first with
      | error violation =>
          rw [verdict] at passes
          cases passes
      | ok =>
          rw [verdict] at passes
          intro target member
          rcases List.mem_cons.mp member with rfl | inRest
          · exact checkAccess_declares verdict
          · exact ih passes target inRest

/-- The expressions of a construct whose state is verified: conditions, and both sides of an
assignment. -/
def Node.operands : Node → List Node
  | .cond first elseIfs _ => (first :: elseIfs).map Clause.test
  | .assign lhs rhs => [lhs, rhs]
  | _ => []

/-- **A construct that keeps its rules accesses declared state only**, as far as verification
sees. -/
theorem Node.rules_declares {construct : Node} {table : StateTable}
    (kept : construct.rules (some table) = .ok ()) :
    ∀ operand ∈ construct.operands, ∀ target ∈ operand.stateAccesses, table.Declares target := by
  intro operand isOperand target accessed
  cases construct with
  | cond first elseIfs otherwise =>
      exact checkAccesses_declares kept target (List.mem_flatMap.mpr ⟨operand, isOperand, accessed⟩)
  | assign lhs rhs =>
      simp only [Node.rules, assignmentRules] at kept
      split at kept
      · cases kept
      · cases verdict : checkAccesses table (lhs.stateAccesses ++ rhs.stateAccesses) with
        | error violation =>
            rw [verdict] at kept
            cases kept
        | ok =>
            refine checkAccesses_declares verdict target ?_
            simp only [Node.operands, List.mem_cons, List.not_mem_nil, or_false] at isOperand
            rcases isOperand with rfl | rfl
            · exact List.mem_append_left _ accessed
            · exact List.mem_append_right _ accessed
  | contract | exec | stateItem | stateMap | lookup | member | ident | literal | binary | call
  | emit | ret => cases isOperand

/-! ## What is rendered -/

/-- The condition in the slot of a clause. -/
def Slot.test? : Slot → Option Value
  | .pair (.value test) _ => some test
  | _ => none

/-- The values in a binding that stand for the operands of its construct: conditions, and both sides
of an assignment. -/
def Binding.operands (binding : Binding) : List Value :=
  match binding.template with
  | .setStateItem | .setStateMap | .setVariable =>
      ["lhs", "rhs"].filterMap fun key => (binding.value key).toOption
  | .conditional =>
      ((binding.get "if_clause").toOption.toList ++
        (binding.list "else_if_clauses").toOption.getD []).filterMap Slot.test?
  | .contract | .function => []

theorem Binding.operands_ofAssignment (targetIsIdent : Bool) (lhs rhs : Value) :
    (Binding.ofAssignment targetIsIdent lhs rhs).operands = [lhs, rhs] := by
  cases lhs <;> rfl

/-- The conditions of clauses are the values of their tests. -/
theorem Clause.slots_test? (renderer : Renderer) (clauses : List Clause) :
    (Clause.slots renderer clauses).filterMap Slot.test? =
      clauses.map fun clause => clause.test.value renderer := by
  induction clauses with
  | nil => rw [Clause.slots, List.filterMap_nil, List.map_nil]
  | cons clause rest ih =>
      obtain ⟨test, body⟩ := clause
      rw [Clause.slots, Clause.slot, List.map_cons, ← ih]
      rfl

/-- The operands in the binding of a construct are the values of its operands. -/
theorem Node.binding_operands {renderer : Renderer} {construct : Node} {binding : Binding}
    (bound : construct.binding? renderer = some binding) :
    binding.operands = construct.operands.map (Node.value renderer) := by
  cases construct with
  | contract | exec =>
      cases bound
      rfl
  | cond first elseIfs otherwise =>
      cases bound
      have tests := Clause.slots_test? renderer (first :: elseIfs)
      rw [Clause.slots] at tests
      rw [Node.operands, List.map_map]
      exact tests
  | assign lhs rhs =>
      cases bound
      exact Binding.operands_ofAssignment _ _ _
  | stateItem | stateMap | lookup | member | ident | literal | binary | call | emit | ret =>
      cases bound

/-- No text of a construct is `$state`, since it ends with a line feed. -/
theorem CosmWasm.render_sparesRoot (layout : Layout) : (CosmWasm.render layout).SparesRoot := by
  intro construct binding bound same
  obtain ⟨before, answer⟩ := CosmWasm.render_accepts layout bound
  have text : before ++ "\n" = stateRoot := by rwa [textOf, answer] at same
  have member : '\n' ∈ (before ++ "\n").toList := by simp
  rw [text] at member
  exact absurd member (by decide)

/-! ## The state of a call -/

/-- A call renders a construct whose innermost contract is `owner`. It is made where the construct
stands and under the declarations of that contract. -/
structure RenderCall.MadeUnder (renderer : Renderer) (root : Node) (owner : Contract)
    (call : RenderCall) : Prop where
  table : call.table = some owner.stateTable
  place : ∃ construct frames, root.Holds frames (some owner) construct ∧
    construct.binding? renderer = some call.binding ∧
    call.frames = construct.frame?.toList ++ frames

/-- What a call stores to is declared by the contract with the same shape, and so is everything that
its operands refer to. -/
structure RenderCall.StateDeclared (owner : Contract) (call : RenderCall) : Prop where
  item : call.binding.template = .setStateItem →
    ∃ key, call.binding.value "lhs" = .ok (.item key) ∧ owner.stateTable.Declares ⟨key, 0⟩
  map : call.binding.template = .setStateMap →
    ∃ base keys, call.binding.value "lhs" = .ok (.map base keys) ∧
      owner.stateTable.Declares ⟨base, keys.length⟩
  operands : ∀ operand ∈ call.binding.operands, ∀ target ∈ operand.references,
    owner.stateTable.Declares target

/-- What the binding of a construct stores to is one of its operands, and decides its template. -/
theorem Node.binding_stores {renderer : Renderer} {construct : Node} {binding : Binding}
    (bound : construct.binding? renderer = some binding)
    (stores : binding.template = .setStateItem ∨ binding.template = .setStateMap) :
    ∃ target, binding.template = .assigning target ∧ binding.value "lhs" = .ok target ∧
      target ∈ binding.operands := by
  cases construct with
  | assign lhs rhs =>
      obtain rfl := Option.some.inj bound
      refine ⟨lhs.value renderer, rfl, rfl, ?_⟩
      rw [Binding.operands_ofAssignment]
      exact List.mem_cons_self
  | contract | exec | cond =>
      cases bound
      rcases stores with item | map
      · cases item
      · cases map
  | stateItem | stateMap | lookup | member | ident | literal | binary | call | emit | ret =>
      cases bound

/-- If the operands of a call refer to declared state, so does what it stores to. -/
theorem RenderCall.stateDeclared_of_operands {renderer : Renderer} {owner : Contract}
    {call : RenderCall} {construct : Node}
    (bound : construct.binding? renderer = some call.binding)
    (declared : ∀ operand ∈ call.binding.operands, ∀ target ∈ operand.references,
      owner.stateTable.Declares target) : call.StateDeclared owner where
  item := by
    intro template
    obtain ⟨target, assigning, lhs, isOperand⟩ := Node.binding_stores bound (.inl template)
    rw [template] at assigning
    cases target with
    | item key =>
        refine ⟨key, lhs, declared _ isOperand _ ?_⟩
        rw [Value.references]
        exact List.mem_cons_self
    | map | fragment | lookup | member | binary => cases assigning
  map := by
    intro template
    obtain ⟨target, assigning, lhs, isOperand⟩ := Node.binding_stores bound (.inr template)
    rw [template] at assigning
    cases target with
    | map base keys =>
        refine ⟨base, keys, lhs, declared _ isOperand _ ?_⟩
        rw [Value.references]
        exact List.mem_cons_self
    | item | fragment | lookup | member | binary => cases assigning
  operands := declared

/-! ## Hidden references -/

/-- The operands that are verified at an event. -/
def Event.operands (event : Event) : List Node :=
  match event.step with
  | .verify construct => construct.operands
  | .render _ | .leaveOut _ => []

/-- The hidden references in what is verified at an event are declared all the same. -/
def Event.HiddenDeclared (event : Event) : Prop :=
  ∀ operand ∈ event.operands, ∀ reference ∈ operand.references, reference.hidden = true →
    ∃ table ∈ event.declared, table.Declares reference.target

instance (event : Event) : Decidable event.HiddenDeclared :=
  inferInstanceAs (Decidable (∀ operand ∈ event.operands, ∀ reference ∈ operand.references,
    reference.hidden = true → ∃ table ∈ event.declared, table.Declares reference.target))

/-- Where a construct is verified and its hidden references are declared, all its references are. -/
theorem Event.operands_declared {renderer : Renderer} {fallback : Fallback} {event : Event}
    {construct : Node} {table : StateTable}
    (passes : event.cause? renderer { fallback } = none)
    (verifies : event.step = .verify construct) (inForce : event.declared = some table)
    (hidden : event.HiddenDeclared) :
    ∀ operand ∈ construct.operands, ∀ reference ∈ operand.references,
      table.Declares reference.target := by
  have kept : construct.rules (some table) = .ok () := by
    rw [Event.cause?, Event.table, verifies, inForce, Option.some_or, Step.cause?] at passes
    cases verdict : construct.rules (some table) with
    | ok => rfl
    | error violation =>
        rw [verdict] at passes
        cases passes
  intro operand isOperand reference refers
  cases isHidden : reference.hidden with
  | false =>
      exact Node.rules_declares kept operand isOperand _
        (operand.visible_mem_stateAccesses reference refers isHidden)
  | true =>
      have verified : operand ∈ event.operands := by rwa [Event.operands, verifies]
      obtain ⟨own, isOwn, declares⟩ := hidden operand verified reference refers isHidden
      rw [inForce] at isOwn
      cases isOwn
      exact declares

/-! ## Contracts that compile -/

section Compiled

variable {contract : Contract} {renderer : Renderer} {fallback : Fallback} {text : String}

/-- A call of the renderer renders a construct that is verified in the same place. -/
theorem Contract.call_verified {call : RenderCall}
    (made : call ∈ (contract.compile renderer fallback).calls) :
    ∃ construct : Node, construct.binding? renderer = some call.binding ∧
      { step := .verify construct, opened := call.frames, declared := call.table } ∈
        contract.node.events renderer := by
  obtain ⟨event, member, calls⟩ := contract.compile_calls renderer fallback made
  obtain ⟨renders, frames, table⟩ := Event.call?_eq_some calls
  obtain ⟨construct, bound, verified⟩ :=
    (contract.node.events_verified_and_rendered renderer).verified event member _ renders
  refine ⟨construct, bound, ?_⟩
  simpa [frames, table, Event.frames, Event.table] using verified

/-- A construct that is verified in a contract that compiles is rendered in the same place. -/
theorem Contract.verified_call
    (compiled : (contract.compile renderer fallback).outcome = .ok text) {event : Event}
    (member : event ∈ contract.node.events renderer) {construct : Node}
    (verifies : event.step = .verify construct) :
    ∃ call ∈ (contract.compile renderer fallback).calls,
      construct.binding? renderer = some call.binding ∧ call.table = event.declared := by
  obtain ⟨binding, bound, rendered⟩ :=
    (contract.node.events_verified_and_rendered renderer).rendered event member construct verifies
  refine ⟨⟨binding, event.opened, event.declared⟩, ?_, bound, rfl⟩
  rw [(contract.compile_passing renderer fallback compiled).2]
  refine List.mem_filterMap.mpr ⟨_, rendered, ?_⟩
  simp [Event.call?, Event.frames, Event.table]

/-- **A call is made under the innermost contract** around the construct that it renders, unless it
renders the contract as a whole. -/
theorem Contract.call_owner {call : RenderCall}
    (made : call ∈ (contract.compile renderer fallback).calls)
    (part : call.binding.template ≠ .contract) :
    ∃ owner, call.MadeUnder renderer contract.node owner := by
  obtain ⟨construct, bound, verified⟩ := Contract.call_verified made
  obtain ⟨frames, owner, held, opened, declared⟩ := contract.node.events_located verified rfl
  rcases Node.Holds.exists_owner held with rfl | ⟨owner, rfl⟩
  · rw [← Option.some.inj bound] at part
    exact absurd rfl part
  · exact ⟨owner, declared, construct, frames, held, bound, opened⟩

end Compiled

/-- **Declared state.** In a contract that compiles, every call of the renderer but those for whole
contracts stores to state that the innermost contract around it declares with the same shape, and
has operands that refer to such state only, exactly if the hidden references are declared. -/
theorem Contract.references_declared_iff (contract : Contract) (layout : Layout)
    (fallback : Fallback) {text : String}
    (compiled : (contract.compile (CosmWasm.render layout) fallback).outcome = .ok text) :
    (∀ call ∈ (contract.compile (CosmWasm.render layout) fallback).calls,
      call.binding.template ≠ .contract →
        ∃ owner, call.MadeUnder (CosmWasm.render layout) contract.node owner ∧
          call.StateDeclared owner) ↔
      ∀ event ∈ contract.node.events (CosmWasm.render layout), event.HiddenDeclared := by
  have read := fun operand => Node.refersAsRead (CosmWasm.render_sparesRoot layout) operand
  constructor
  · intro declared event member operand verified reference refers _
    cases verifies : event.step with
    | verify construct =>
        rw [Event.operands, verifies] at verified
        obtain ⟨call, made, bound, table⟩ := Contract.verified_call compiled member verifies
        have isOperand : operand.value (CosmWasm.render layout) ∈ call.binding.operands := by
          rw [Node.binding_operands bound]
          exact List.mem_map_of_mem verified
        have part : call.binding.template ≠ .contract := by
          intro whole
          rw [Binding.operands, whole] at isOperand
          cases isOperand
        obtain ⟨owner, under, state⟩ := declared call made part
        refine ⟨owner.stateTable, table.symm.trans under.table, ?_⟩
        refine state.operands _ isOperand _ ?_
        rw [(read operand).references]
        exact List.mem_map_of_mem refers
    | render | leaveOut =>
        rw [Event.operands, verifies] at verified
        cases verified
  · intro hidden call made part
    obtain ⟨owner, under⟩ := Contract.call_owner made part
    obtain ⟨construct, bound, verified⟩ := Contract.call_verified made
    refine ⟨owner, under, RenderCall.stateDeclared_of_operands bound ?_⟩
    rw [Node.binding_operands bound]
    intro value listed target refers
    obtain ⟨operand, isOperand, rfl⟩ := List.mem_map.mp listed
    rw [(read operand).references] at refers
    obtain ⟨reference, isReference, rfl⟩ := List.mem_map.mp refers
    have passes := (contract.compile_passing _ fallback compiled).1 _ verified
    exact Event.operands_declared passes rfl under.table (hidden _ verified) operand isOperand
      reference isReference

/-- A contract whose conditional and assignment use an item and a map. The item is read through an
integer literal as well. -/
def ledger : Contract where
  name := "Ledger"
  body :=
    [.stateItem "owner" ⟨"Addr"⟩, .stateMap "shares" [⟨none, ⟨"Addr"⟩⟩] ⟨"Uint128"⟩,
      .exec "pay" []
        [.cond
          (.mk (.binary "==" (.state "owner") (.message "sender"))
            [.assign (.lookup (.state "shares") (.state "owner"))
              (.member (.literal (.int stateRoot)) "owner")])
          [] none]]

/-- In `ledger` all state is declared, the hidden reference included. -/
theorem ledger_references_declared :
    (ledger.compile (CosmWasm.render {}) .strict).calls.map (·.binding.template) =
      [.setStateMap, .conditional, .function, .contract] ∧
    ∀ call ∈ (ledger.compile (CosmWasm.render {}) .strict).calls,
      call.binding.template ≠ .contract →
        ∃ owner, call.MadeUnder (CosmWasm.render {}) ledger.node owner ∧
          call.StateDeclared owner :=
  ⟨by decide +kernel, (ledger.references_declared_iff {} .strict rfl).mpr (by decide +kernel)⟩

/-- A contract that declares nothing and assigns to a member of an integer literal with the digits
`$state`. -/
def literalRoot : Contract where
  name := "T"
  body :=
    [.exec "f" [] [.assign (.member (.literal (.int stateRoot)) "x") (.literal (.int "1"))]]

/-- **A contract can compile and store to undeclared state.** -/
theorem literalRoot_undeclared :
    (literalRoot.compile (CosmWasm.render {}) .strict).outcome.isOk = true ∧
    ¬ ∀ call ∈ (literalRoot.compile (CosmWasm.render {}) .strict).calls,
      call.binding.template ≠ .contract →
        ∃ owner, call.MadeUnder (CosmWasm.render {}) literalRoot.node owner ∧
          call.StateDeclared owner := by
  refine ⟨rfl, fun declared => ?_⟩
  let assignment : RenderCall :=
    { binding := .ofAssignment false (.item "x") (.fragment "1")
      frames := [⟨.assign, "$state.x"⟩, .exec "f", .contract "T"]
      table := some ⟨[]⟩ }
  obtain ⟨owner, under, state⟩ := declared assignment List.mem_cons_self (by decide)
  obtain ⟨key, _, decl, member, _⟩ := state.item rfl
  have nothing : owner.stateTable = ⟨[]⟩ := (Option.some.inj under.table).symm
  rw [nothing] at member
  cases member

end ContractCompiler
