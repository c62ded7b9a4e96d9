import ContractCompiler.Generation.Rules

/-!
# Lowering

Lowering turns a node into a value. Contracts, handlers, conditionals and assignments are generated
on the spot: the construct is verified, its parts are lowered and bound to the slots of its
template, the template is rendered, and the text is the value. Members and lookups on `$state`
become items and maps, members of `$msg` become members of the host's message info. State
declarations out of place, calls, emits and returns have no lowering.

A contract within another construct is left out there, since each contract is compiled as a unit of
its own.
-/

namespace ContractCompiler

set_option autoImplicit false

/-- The host's name for the context of the current message. -/
def messageInfo : String := "info"

/-- The value of a member. -/
def Value.memberOf (base : Value) (name : String) : Value :=
  match base with
  | .fragment text =>
      if text = stateRoot then .item name
      else if text = messageRoot then .fragment (messageInfo ++ "." ++ name)
      else .fragment (text ++ "." ++ name)
  | base => .member base name

/-- What takes the place of a node that has no lowering. -/
def placeholder (node : Node) : Value :=
  .fragment ("// Omitted: " ++ node.describe)

/-- Deals with a node that has no lowering. -/
def leaveOut (node : Node) : Gen Value := fun env =>
  match env.fallback with
  | .permissive => .ok (placeholder node) env
  | .strict => fail (.generation (.unsupportedNode node.describe)) env

/-! ## Bindings of the constructs -/

/-- The binding of a contract with the given state declarations and items. -/
def Binding.ofContract (name : String) (decls : List StateDecl) (items : List Value) : Binding :=
  { template := .contract,
    slots := [("name", .text name), ("state", .list (decls.map .state)), ("body", .values items)] }

/-- Binds a contract. Its items are lowered under its own state declarations. -/
def bindContract (name : String) (body : List Node) (items : Gen (List Value)) : Gen Binding := do
  let decls := stateDecls body
  let items ← declaring decls items
  return .ofContract name decls items

/-- A parameter in a binding. -/
def Param.slot (param : Param) : Slot :=
  .pair (.text param.name) (.type param.type)

/-- The binding of a handler with the given statements. -/
def Binding.ofHandler (name : String) (params : List Param) (body : List Value) : Binding :=
  { template := .function,
    slots := [("name", .text name), ("args", .list (params.map Param.slot)),
              ("body", .values body)] }

/-- Binds a handler. -/
def bindFunction (name : String) (params : List Param) (body : Gen (List Value)) : Gen Binding := do
  let body ← body
  return .ofHandler name params body

/-- A condition and the statements that it guards in a binding. -/
def Slot.clause (test : Value) (body : List Value) : Slot :=
  .pair (.value test) (.values body)

/-- Binds a clause. -/
def bindClause (test : Gen Value) (body : Gen (List Value)) : Gen Slot := do
  let test ← test
  let body ← body
  return .clause test body

/-- The binding of a conditional with the given clauses. -/
def Binding.ofConditional (first : Slot) (elseIfs : List Slot) (otherwise : Slot) : Binding :=
  { template := .conditional,
    slots := [("if_clause", first), ("else_if_clauses", .list elseIfs),
              ("else_body", otherwise)] }

/-- Binds a conditional. -/
def bindConditional (first : Gen Slot) (elseIfs : Gen (List Slot)) (otherwise : Gen Slot) :
    Gen Binding := do
  let first ← first
  let elseIfs ← elseIfs
  let otherwise ← otherwise
  return .ofConditional first elseIfs otherwise

/-- The binding of an assignment of one value to another. -/
def Binding.ofAssignment (targetIsIdent : Bool) (lhs rhs : Value) : Binding :=
  { template := .assigning lhs,
    slots := [("lhs", .value lhs), ("rhs", .value rhs), ("lhs_is_ident", .flag targetIsIdent),
              ("rhs_is_item", .flag rhs.isItem)] }

/-- Binds an assignment. -/
def bindAssignment (targetIsIdent : Bool) (lhs rhs : Gen Value) : Gen Binding := do
  let lhs ← lhs
  let rhs ← rhs
  return .ofAssignment targetIsIdent lhs rhs

/-- Whether an item of a contract body is not lowered: declarations are bound as they are, and
contracts are units of their own. -/
def Node.isLeftToUnit (node : Node) : Bool :=
  node.isContract || node.isStateDecl

/-- Generates a construct: verifies it, binds it and renders it. -/
def generate (renderer : Renderer) (frame : Frame)
    (rules : Option StateTable → Except Violation Unit) (binding : Gen Binding) : Gen String :=
  within frame do
    checkRules rules
    let binding ← binding
    renderBinding renderer binding

/-- The text of a construct as a value. -/
def rendered (text : Gen String) : Gen Value := do
  return .fragment (← text)

/-! ## Lowering -/

mutual

/-- Lowers a node. -/
def Node.lower (renderer : Renderer) : Node → Gen Value
  | .contract name body =>
      rendered (generate renderer (.contract name) (fun _ => contractRules body)
        (bindContract name body (Node.lowerExcept renderer Node.isLeftToUnit body)))
  | .exec name params body =>
      rendered (generate renderer (.exec name) (fun _ => handlerRules params)
        (bindFunction name params (Node.lowerExcept renderer Node.isContract body)))
  | .cond first elseIfs otherwise =>
      rendered (generate renderer .cond
        (conditionalRules ((first :: elseIfs).map Clause.test))
        (bindConditional (first.lower renderer) (Clause.lowerAll renderer elseIfs)
          (Node.lowerOtherwise renderer otherwise)))
  | .assign lhs rhs =>
      rendered (generate renderer (.assign lhs) (assignmentRules lhs rhs)
        (bindAssignment lhs.isIdent (lhs.lower renderer) (rhs.lower renderer)))
  | .lookup item key => do
      let base ← item.lower renderer
      let key ← key.lower renderer
      return base.index key
  | .member item name => do
      let base ← item.lower renderer
      return base.memberOf name
  | .ident name => return .fragment name
  | .literal value => return .fragment value.spelling
  | .binary op lhs rhs => do
      let lhs ← lhs.lower renderer
      let rhs ← rhs.lower renderer
      return .binary op lhs rhs
  | .stateItem name type => leaveOut (.stateItem name type)
  | .stateMap name keys type => leaveOut (.stateMap name keys type)
  | .call func args => leaveOut (.call func args)
  | .emit expr => leaveOut (.emit expr)
  | .ret expr => leaveOut (.ret expr)

/-- Lowers the nodes of a list in order, apart from those to skip. -/
def Node.lowerExcept (renderer : Renderer) (skip : Node → Bool) : List Node → Gen (List Value)
  | [] => return []
  | node :: rest =>
      if skip node then Node.lowerExcept renderer skip rest
      else do
        let value ← node.lower renderer
        let values ← Node.lowerExcept renderer skip rest
        return value :: values

/-- Lowers the statements after `else`, if there are any. -/
def Node.lowerOtherwise (renderer : Renderer) : Option (List Node) → Gen Slot
  | some body => Slot.values <$> Node.lowerExcept renderer Node.isContract body
  | none => return .absent

/-- Lowers a clause: its condition, then its statements. -/
def Clause.lower (renderer : Renderer) : Clause → Gen Slot
  | .mk test body =>
      bindClause (test.lower renderer) (Node.lowerExcept renderer Node.isContract body)

/-- Lowers clauses in order. -/
def Clause.lowerAll (renderer : Renderer) : List Clause → Gen (List Slot)
  | [] => return []
  | clause :: rest => do
      let slot ← clause.lower renderer
      let slots ← Clause.lowerAll renderer rest
      return slot :: slots

end

/-- Lowers the nodes of a list in order. Contracts are left out. -/
def Node.lowerAll (renderer : Renderer) (nodes : List Node) : Gen (List Value) :=
  Node.lowerExcept renderer Node.isContract nodes

/-! ## Single constructs -/

/-- The binding of a construct on its own, without verification and without a frame. -/
def Node.bind? (renderer : Renderer) : Node → Option (Gen Binding)
  | .contract name body =>
      some (bindContract name body (Node.lowerExcept renderer Node.isLeftToUnit body))
  | .exec name params body => some (bindFunction name params (Node.lowerAll renderer body))
  | .cond first elseIfs otherwise =>
      some (bindConditional (first.lower renderer) (Clause.lowerAll renderer elseIfs)
        (Node.lowerOtherwise renderer otherwise))
  | .assign lhs rhs =>
      some (bindAssignment lhs.isIdent (lhs.lower renderer) (rhs.lower renderer))
  | _ => none

/-- The frame of a construct. -/
def Node.frame? : Node → Option Frame
  | .contract name _ => some (.contract name)
  | .exec name _ _ => some (.exec name)
  | .cond .. => some .cond
  | .assign lhs _ => some (.assign lhs)
  | _ => none

/-- The rules for a node. -/
def Node.rules : Node → Option StateTable → Except Violation Unit
  | .contract _ body => fun _ => contractRules body
  | .exec _ params _ => fun _ => handlerRules params
  | .cond first elseIfs _ => conditionalRules ((first :: elseIfs).map Clause.test)
  | .assign lhs rhs => assignmentRules lhs rhs
  | _ => fun _ => .ok ()

/-- The text of a construct. -/
def Node.generate? (renderer : Renderer) (node : Node) : Option (Gen String) := do
  let frame ← node.frame?
  let binding ← node.bind? renderer
  some (generate renderer frame node.rules binding)

end ContractCompiler
