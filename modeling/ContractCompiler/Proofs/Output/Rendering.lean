import ContractCompiler.Output.CosmWasm
import ContractCompiler.Proofs.Generation.Walk

/-!
# Rendering the bindings of constructs

The bindings that constructs are bound to have every slot that the CosmWasm source asks for, and
each slot holds what is asked of it. So rendering them never fails, and what is written is a
function of the parts of the construct: `CosmWasm.render_ofContract` and the statements after it
give the text for each construct. `CosmWasm.render_accepts` sums up that there is one, and that it
ends its last line.
-/

namespace ContractCompiler

set_option autoImplicit false

/-- A line ends with a line feed. -/
theorem Writer.line_text (writer : Writer) (content : String) :
    ∃ before, (writer.line content).text = before ++ "\n" := by
  unfold Writer.line
  split
  · exact ⟨_, rfl⟩
  · exact ⟨_, rfl⟩

namespace CosmWasm

/-- Items that all pass a check are collected. -/
theorem collect_map {α β : Type} (check : Slot → Except Failure β) (slot : α → Slot) (part : α → β)
    (passes : ∀ item, check (slot item) = .ok (part item)) (items : List α) :
    collect check (items.map slot) = .ok (items.map part) := by
  induction items with
  | nil => rfl
  | cons item rest ih =>
      rw [List.map_cons, collect, passes, ih]
      rfl

/-- The statements in a list of values are these values. -/
theorem statements_values (binding : Binding) (key : String) (values : List Value) :
    statements binding key (values.map .value) = .ok values := by
  have collected := collect_map (statement binding key) Slot.value id (fun _ => rfl) values
  rwa [List.map_id] at collected

/-! ## Contracts and handlers -/

/-- The text of a contract. -/
theorem render_ofContract (layout : Layout) (name : String) (decls : List StateDecl)
    (items : List Value) :
    render layout (.ofContract name decls items) =
      .ok (written layout (writeContract layout.header ⟨name, decls, items⟩)) := by
  let binding := Binding.ofContract name decls items
  have declared := collect_map (declaration binding) Slot.state id (fun _ => rfl) decls
  rw [List.map_id] at declared
  have parts : contractParts binding = .ok ⟨name, decls, items⟩ := by
    show (do
      let decls ← collect (declaration binding) (decls.map .state)
      let items ← statements binding "body" (items.map .value)
      return ContractParts.mk name decls items) = _
    rw [declared, statements_values]
    rfl
  show (contractParts binding).map _ = _
  rw [parts]
  rfl

/-- The text of a handler. -/
theorem render_ofHandler (layout : Layout) (name : String) (params : List Param)
    (body : List Value) :
    render layout (.ofHandler name params body) =
      .ok (written layout (writeHandler ⟨name, params, body⟩)) := by
  let binding := Binding.ofHandler name params body
  have named := collect_map (parameterIn binding) Param.slot id (fun _ => rfl) params
  rw [List.map_id] at named
  have parts : handlerParts binding = .ok ⟨name, params, body⟩ := by
    show (do
      let params ← collect (parameterIn binding) (params.map Param.slot)
      let body ← statements binding "body" (body.map .value)
      return HandlerParts.mk name params body) = _
    rw [named, statements_values]
    rfl
  show (handlerParts binding).map _ = _
  rw [parts]
  rfl

/-! ## Conditionals -/

/-- The slot of a branch. -/
def Branch.slot (branch : Branch) : Slot :=
  .clause branch.test branch.body

/-- The slot of the last branch, if there is one. -/
def lastSlot : Option (List Value) → Slot
  | some body => .values body
  | none => .absent

theorem branchIn_slot (binding : Binding) (key : String) (branch : Branch) :
    branchIn binding key branch.slot = .ok branch := by
  show (do
    let body ← statements binding key (branch.body.map .value)
    return Branch.mk branch.test body) = _
  rw [statements_values]
  rfl

theorem otherwiseIn_lastSlot (binding : Binding) (otherwise : Option (List Value)) :
    otherwiseIn binding (lastSlot otherwise) = .ok otherwise := by
  cases otherwise with
  | none => rfl
  | some body =>
      show (statements binding "else_body" (body.map .value)).map some = _
      rw [statements_values]
      rfl

/-- The text of a conditional. -/
theorem render_ofConditional (layout : Layout) (first : Branch) (elseIfs : List Branch)
    (otherwise : Option (List Value)) :
    render layout
        (.ofConditional first.slot (elseIfs.map Branch.slot) (lastSlot otherwise)) =
      .ok (written layout (writeConditional ⟨first, elseIfs, otherwise⟩)) := by
  let binding := Binding.ofConditional first.slot (elseIfs.map Branch.slot) (lastSlot otherwise)
  have further := collect_map (branchIn binding "else_if_clauses") Branch.slot id
    (branchIn_slot binding "else_if_clauses") elseIfs
  rw [List.map_id] at further
  have parts : conditionalParts binding = .ok ⟨first, elseIfs, otherwise⟩ := by
    show (do
      let first ← branchIn binding "if_clause" first.slot
      let elseIfs ← collect (branchIn binding "else_if_clauses") (elseIfs.map Branch.slot)
      let otherwise ← otherwiseIn binding (lastSlot otherwise)
      return ConditionalParts.mk first elseIfs otherwise) = _
    rw [branchIn_slot, further, otherwiseIn_lastSlot]
    rfl
  show (conditionalParts binding).map _ = _
  rw [parts]
  rfl

/-! ## Assignments -/

/-- The text that assigns a value to a target. -/
def assignmentText (introduces : Bool) (lhs : Value) (value : String) : String :=
  match lhs with
  | .item key => Text.screamingCase key ++ ".save(deps.storage, &" ++ value ++ ")?;\n"
  | .map base keys =>
      Text.screamingCase base ++ ".save(deps.storage, " ++ mapKey keys ++ ", &" ++ value ++ ")?;\n"
  | lhs => (if introduces then "let " else "") ++ expr lhs ++ " = " ++ value ++ ";\n"

/-- The assigned value is written like any other value. -/
theorem assigned_ofAssignment (targetIsIdent : Bool) (lhs rhs : Value) :
    assigned (.ofAssignment targetIsIdent lhs rhs) = .ok (expr rhs) := by
  cases rhs <;> rfl

/-- The text of an assignment to something that is not contract state. -/
theorem setVariable_ofAssignment (targetIsIdent : Bool) (lhs rhs : Value) :
    setVariable (.ofAssignment targetIsIdent lhs rhs) =
      .ok ((if targetIsIdent then "let " else "") ++ expr lhs ++ " = " ++ expr rhs ++ ";\n") := by
  show (do
    let value ← assigned (.ofAssignment targetIsIdent lhs rhs)
    return (if targetIsIdent then "let " else "") ++ expr lhs ++ " = " ++ value ++ ";\n") = _
  rw [assigned_ofAssignment]
  rfl

/-- The text of an assignment. -/
theorem render_ofAssignment (layout : Layout) (targetIsIdent : Bool) (lhs rhs : Value) :
    render layout (.ofAssignment targetIsIdent lhs rhs) =
      .ok (assignmentText targetIsIdent lhs (expr rhs)) := by
  have value := assigned_ofAssignment targetIsIdent lhs rhs
  cases lhs with
  | item key =>
      show (do
        let value ← assigned (.ofAssignment targetIsIdent (.item key) rhs)
        return Text.screamingCase key ++ ".save(deps.storage, &" ++ value ++ ")?;\n") = _
      rw [value]
      rfl
  | map base keys =>
      show (do
        let value ← assigned (.ofAssignment targetIsIdent (.map base keys) rhs)
        return Text.screamingCase base ++ ".save(deps.storage, " ++ mapKey keys ++ ", &" ++ value ++
          ")?;\n") = _
      rw [value]
      rfl
  | fragment | lookup | member | binary =>
      exact setVariable_ofAssignment targetIsIdent _ rhs

/-- An assignment ends its line. -/
theorem assignmentText_ends (introduces : Bool) (lhs : Value) (value : String) :
    ∃ before, assignmentText introduces lhs value = before ++ "\n" := by
  have saved : (")?;\n" : String) = ")?;" ++ "\n" := rfl
  have ended : (";\n" : String) = ";" ++ "\n" := rfl
  cases lhs with
  | item key =>
      rw [assignmentText, saved, ← String.append_assoc]
      exact ⟨_, rfl⟩
  | map base keys =>
      rw [assignmentText, saved, ← String.append_assoc]
      exact ⟨_, rfl⟩
  | fragment | lookup | member | binary =>
      simp only [assignmentText]
      rw [ended, ← String.append_assoc]
      exact ⟨_, rfl⟩

/-! ## Every construct -/

/-- A clause as a branch. -/
def branchOf (renderer : Renderer) (clause : Clause) : Branch :=
  ⟨clause.test.value renderer, Node.valuesExcept renderer Node.isContract clause.body⟩

theorem slots_eq_map (renderer : Renderer) (clauses : List Clause) :
    Clause.slots renderer clauses = (clauses.map (branchOf renderer)).map Branch.slot := by
  induction clauses with
  | nil => rw [Clause.slots, List.map_nil, List.map_nil]
  | cons clause rest ih =>
      obtain ⟨test, body⟩ := clause
      rw [Clause.slots, Clause.slot, ih]
      rfl

theorem otherwiseSlot_eq_lastSlot (renderer : Renderer) (otherwise : Option (List Node)) :
    Node.otherwiseSlot renderer otherwise =
      lastSlot (otherwise.map (Node.valuesExcept renderer Node.isContract)) := by
  cases otherwise with
  | none => rw [Node.otherwiseSlot, Option.map_none, lastSlot]
  | some body => rw [Node.otherwiseSlot, Option.map_some, lastSlot]

/-- **The binding of a construct is never rejected**, whichever renderer gave the texts in it, and
its text ends with a line feed. -/
theorem render_accepts (layout : Layout) {renderer : Renderer} {construct : Node}
    {binding : Binding} (bound : construct.binding? renderer = some binding) :
    ∃ before, render layout binding = .ok (before ++ "\n") := by
  -- What is written in a block ends with the line of its closing brace.
  have ends : ∀ text, render layout binding = .ok text → (∃ before, text = before ++ "\n") →
      ∃ before, render layout binding = .ok (before ++ "\n") := by
    rintro text answer ⟨before, rfl⟩
    exact ⟨before, answer⟩
  cases construct with
  | contract name body =>
      cases bound
      exact ends _ (render_ofContract layout name _ _) (Writer.line_text _ "\x7d")
  | exec name params body =>
      cases bound
      exact ends _ (render_ofHandler layout name params _) (Writer.line_text _ "\x7d")
  | cond first elseIfs otherwise =>
      cases bound
      obtain ⟨test, body⟩ := first
      rw [Clause.slot, slots_eq_map, otherwiseSlot_eq_lastSlot] at ends ⊢
      exact ends _ (render_ofConditional layout (branchOf renderer (.mk test body)) _ _)
        (Writer.line_text _ "\x7d")
  | assign lhs rhs =>
      cases bound
      exact ends _ (render_ofAssignment layout _ _ _) (assignmentText_ends _ _ _)
  | stateItem | stateMap | lookup | member | ident | literal | binary | call | emit | ret =>
      cases bound

end CosmWasm

end ContractCompiler
