import ContractCompiler.Output.Writer
import ContractCompiler.Template
import ContractCompiler.Text.Identifier

/-!
# CosmWasm source

Renders bindings as the source of a CosmWasm contract. A contract becomes a module, its state
becomes storage constants named in capitals, and its handlers become functions. State is read
through the storage of `deps`; whatever was lowered to text is used as it stands.

Rendering takes two steps. The first collects what the template needs from the slots of the
binding and fails at the first slot that is empty or holds something else. The second writes and
cannot fail.
-/

namespace ContractCompiler

set_option autoImplicit false

/-- How source is laid out. -/
structure Layout where
  indentStyle : IndentStyle := .spaces 4
  /-- Whether a contract begins with a note that it is generated. -/
  header : Bool := true
  deriving DecidableEq, Repr

namespace CosmWasm

/-! ## Expressions -/

/-- Reads a state item. -/
def loadItem (key : String) : String :=
  Text.screamingCase key ++ ".load(deps.storage)?"

/-- A value in parentheses if it is an operation. -/
def parenthesized (value : Value) (text : String) : String :=
  match value with
  | .binary .. => "(" ++ text ++ ")"
  | _ => text

mutual

/-- The host expression for a value. An operation stands in parentheses where it is an operand of
another one. -/
def expr : Value → String
  | .item key => loadItem key
  | .map base keys => Text.screamingCase base ++ ".load(deps.storage, " ++ mapKey keys ++ ")?"
  | .fragment text => text
  | .lookup base key => expr base ++ "[" ++ expr key ++ "]"
  | .member base name => expr base ++ "." ++ name
  | .binary op lhs rhs =>
      parenthesized lhs (expr lhs) ++ " " ++ op ++ " " ++ parenthesized rhs (expr rhs)

/-- The key under which a map is accessed: a single one as it is, several ones as a tuple. -/
def mapKey : List Value → String
  | [] => "()"
  | [single] => "&" ++ expr single
  | first :: next :: rest => "(&" ++ expr first ++ furtherKeys (next :: rest) ++ ")"

/-- The keys after the first one. -/
def furtherKeys : List Value → String
  | [] => ""
  | key :: rest => ", &" ++ expr key ++ furtherKeys rest

end

/-! ## Declarations -/

/-- The host type for a type. -/
def hostType (type : TypeExpr) : String :=
  if type.isOptional then "Option<" ++ type.base ++ ">" else type.base

/-- The type of the keys of a map: a single one as it is, several ones as a tuple. -/
def keyType : List TypeExpr → String
  | [single] => "&" ++ hostType single
  | keys => "(" ++ ", ".intercalate (keys.map fun key => "&" ++ hostType key) ++ ")"

/-- The storage constant of a state. -/
def stateConst (decl : StateDecl) : String :=
  let name := Text.screamingCase decl.name
  if decl.isMap then
    "pub const " ++ name ++ ": Map<" ++ keyType decl.keys ++ ", " ++ hostType decl.type ++
      "> = Map::new(\"" ++ decl.name ++ "\");"
  else
    "pub const " ++ name ++ ": Item<" ++ hostType decl.type ++ "> = Item::new(\"" ++ decl.name ++
      "\");"

/-- A parameter in the signature of a function. -/
def parameter (param : Param) : String :=
  param.name ++ ": " ++ hostType param.type

/-- The parameters that the host passes to every handler. -/
def hostParams : List Param :=
  [⟨"deps", ⟨"DepsMut"⟩⟩, ⟨"env", ⟨"Env"⟩⟩, ⟨"info", ⟨"MessageInfo"⟩⟩]

/-- The signature of a handler. -/
def signature (name : String) (params : List Param) : String :=
  "pub fn exec_" ++ Text.snakeCase name ++ "(" ++
    ", ".intercalate ((hostParams ++ params).map parameter) ++
    ") -> Result<Response, ContractError>"

/-! ## Statements -/

/-- Applies a check to each item in turn. -/
def collect {α : Type} (check : Slot → Except Failure α) : List Slot → Except Failure (List α)
  | [] => .ok []
  | slot :: rest => do
      let value ← check slot
      let values ← collect check rest
      return value :: values

/-- The value of a slot that stands for a statement. -/
def statement (binding : Binding) (key : String) : Slot → Except Failure Value
  | .value value => .ok value
  | other => .error (binding.mismatch key "value" other)

/-- The statements in a list of slots. -/
def statements (binding : Binding) (key : String) (slots : List Slot) :
    Except Failure (List Value) :=
  collect (statement binding key) slots

/-- Writes a statement: text is embedded, any other value is an expression statement. -/
def writeStatement (writer : Writer) : Value → Writer
  | .fragment text => writer.embed text
  | value => writer.line (expr value ++ ";")

/-- Writes statements in order. -/
def writeStatements (values : List Value) (writer : Writer) : Writer :=
  values.foldl writeStatement writer

/-! ## Contracts -/

/-- What the template of a contract needs. -/
structure ContractParts where
  name : String
  decls : List StateDecl
  items : List Value

/-- The declaration in a slot. -/
def declaration (binding : Binding) : Slot → Except Failure StateDecl
  | .state decl => .ok decl
  | other => .error (binding.mismatch "state" "state declaration" other)

/-- Collects the parts of a contract. -/
def contractParts (binding : Binding) : Except Failure ContractParts := do
  let name ← binding.text "name"
  let state ← binding.list "state"
  let body ← binding.list "body"
  let decls ← collect (declaration binding) state
  let items ← statements binding "body" body
  return { name, decls, items }

/-- The note at the top of a generated contract. -/
def headerNote (name : String) : String :=
  "// Generated by cwscript from contract `" ++ name ++ "`. Do not edit."

/-- Writes the imports of a contract module. -/
def writeImports (writer : Writer) : Writer :=
  (((writer.line "use cosmwasm_std::*;").line "use cw_storage_plus::\x7bItem, Map\x7d;").blank).line
    "use crate::error::ContractError;"

/-- Writes the storage constants of a contract, if it has any, after an empty line. -/
def writeDecls (decls : List StateDecl) (writer : Writer) : Writer :=
  if decls.isEmpty then writer
  else decls.foldl (fun writer decl => writer.line (stateConst decl)) writer.blank

/-- Writes the items of a contract, each after an empty line. -/
def writeItems (items : List Value) (writer : Writer) : Writer :=
  items.foldl (fun writer item => writeStatement writer.blank item) writer

/-- Writes a contract: a module with its imports, its state and its items. -/
def writeContract (header : Bool) (parts : ContractParts) (writer : Writer) : Writer :=
  (if header then writer.line (headerNote parts.name) else writer).block
    ("pub mod " ++ Text.snakeCase parts.name)
    fun writer => writeItems parts.items (writeDecls parts.decls (writeImports writer))

/-! ## Handlers -/

/-- What the template of a handler needs. -/
structure HandlerParts where
  name : String
  params : List Param
  body : List Value

/-- The parameter in a slot. -/
def parameterIn (binding : Binding) : Slot → Except Failure Param
  | .pair (.text name) (.type type) => .ok ⟨name, type⟩
  | other => .error (binding.mismatch "args" "(name, type)" other)

/-- Collects the parts of a handler. -/
def handlerParts (binding : Binding) : Except Failure HandlerParts := do
  let name ← binding.text "name"
  let args ← binding.list "args"
  let params ← collect (parameterIn binding) args
  let body ← binding.list "body"
  let body ← statements binding "body" body
  return { name, params, body }

/-- The answer of a handler, which names its action. -/
def response (name : String) : String :=
  "Ok(Response::new().add_attribute(\"action\", \"" ++ name ++ "\"))"

/-- Writes a handler: a function with its statements and its answer. -/
def writeHandler (parts : HandlerParts) (writer : Writer) : Writer :=
  writer.block (signature parts.name parts.params) fun writer =>
    (writeStatements parts.body writer).line (response parts.name)

/-! ## Conditionals -/

/-- A condition with the statements that it guards. -/
structure Branch where
  test : Value
  body : List Value

/-- What the template of a conditional needs. -/
structure ConditionalParts where
  first : Branch
  elseIfs : List Branch
  otherwise : Option (List Value)

/-- The branch in a slot. -/
def branchIn (binding : Binding) (key : String) : Slot → Except Failure Branch
  | .pair (.value test) (.list body) => do
      let body ← statements binding key body
      return { test, body }
  | other => .error (binding.mismatch key "(condition, body)" other)

/-- The last branch, if there is one. -/
def otherwiseIn (binding : Binding) : Slot → Except Failure (Option (List Value))
  | .absent => .ok none
  | .list body => (statements binding "else_body" body).map some
  | other => .error (binding.mismatch "else_body" "list or absent" other)

/-- Collects the parts of a conditional. -/
def conditionalParts (binding : Binding) : Except Failure ConditionalParts := do
  let first ← binding.get "if_clause"
  let first ← branchIn binding "if_clause" first
  let elseIfs ← binding.list "else_if_clauses"
  let elseIfs ← collect (branchIn binding "else_if_clauses") elseIfs
  let otherwise ← binding.get "else_body"
  let otherwise ← otherwiseIn binding otherwise
  return { first, elseIfs, otherwise }

/-- Writes a branch up to its closing brace. -/
def writeBranch (opening : String) (branch : Branch) (writer : Writer) : Writer :=
  (writer.openBlock (opening ++ expr branch.test)).indented (writeStatements branch.body)

/-- Writes a conditional with its branches. -/
def writeConditional (parts : ConditionalParts) (writer : Writer) : Writer :=
  let writer := writeBranch "if " parts.first writer
  let writer := parts.elseIfs.foldl (fun writer branch => writeBranch "\x7d else if " branch writer)
    writer
  let writer := match parts.otherwise with
    | none => writer
    | some body => (writer.openBlock "\x7d else").indented (writeStatements body)
  writer.closeBlock

/-! ## Assignments -/

/-- The value that is assigned. A state item is read from storage. -/
def assigned (binding : Binding) : Except Failure String := do
  let rhs ← binding.value "rhs"
  let isItem ← binding.flag "rhs_is_item"
  match isItem, rhs with
  | true, .item key => return loadItem key
  | _, other => return expr other

/-- An assignment to a state item. -/
def setStateItem (binding : Binding) : Except Failure String := do
  match ← binding.value "lhs" with
  | .item key =>
      let value ← assigned binding
      return Text.screamingCase key ++ ".save(deps.storage, &" ++ value ++ ")?;\n"
  | other => throw (binding.mismatch "lhs" "state item" (.value other))

/-- An assignment to an entry of a state map. -/
def setStateMap (binding : Binding) : Except Failure String := do
  match ← binding.value "lhs" with
  | .map base keys =>
      let value ← assigned binding
      return Text.screamingCase base ++ ".save(deps.storage, " ++ mapKey keys ++ ", &" ++ value ++
        ")?;\n"
  | other => throw (binding.mismatch "lhs" "state map" (.value other))

/-- An assignment to anything else. A plain identifier is introduced by it. -/
def setVariable (binding : Binding) : Except Failure String := do
  let lhs ← binding.value "lhs"
  let value ← assigned binding
  let introduces ← binding.flag "lhs_is_ident"
  return (if introduces then "let " else "") ++ expr lhs ++ " = " ++ value ++ ";\n"

/-! ## The renderer -/

/-- The text of a piece of source that starts at the margin. -/
def written (layout : Layout) (write : Writer → Writer) : String :=
  (write (Writer.ofStyle layout.indentStyle)).text

/-- Renders bindings as CosmWasm source. -/
def render (layout : Layout) : Renderer := fun binding =>
  match binding.template with
  | .contract => (contractParts binding).map fun parts =>
      written layout (writeContract layout.header parts)
  | .function => (handlerParts binding).map fun parts => written layout (writeHandler parts)
  | .conditional => (conditionalParts binding).map fun parts =>
      written layout (writeConditional parts)
  | .setStateItem => setStateItem binding
  | .setStateMap => setStateMap binding
  | .setVariable => setVariable binding

end CosmWasm

end ContractCompiler
