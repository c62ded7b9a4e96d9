import ContractCompiler.Diagnostic
import ContractCompiler.Tree.Document
import ContractCompiler.Value

/-!
# Templates and their bindings

Generated code is made from six templates. A `Binding` names the template and gives what its slots
hold, in the order in which the slots were filled. A renderer turns a binding into text; it asks for
slots by name and by what they should hold, and fails if a slot is empty or holds something else.
-/

namespace ContractCompiler

set_option autoImplicit false

/-- The templates. -/
inductive Template where
  | contract
  | function
  | conditional
  | setStateItem
  | setStateMap
  | setVariable
  deriving DecidableEq, Repr

/-- The name of a template. -/
def Template.name : Template → String
  | .contract => "contract"
  | .function => "function"
  | .conditional => "conditional"
  | .setStateItem => "set-state-item"
  | .setStateMap => "set-state-map"
  | .setVariable => "set-variable"

/-- All templates. -/
def Template.all : List Template :=
  [.contract, .function, .conditional, .setStateItem, .setStateMap, .setVariable]

/-- The template that assigns to the given target. -/
def Template.assigning : Value → Template
  | .item _ => .setStateItem
  | .map .. => .setStateMap
  | _ => .setVariable

/-- What a slot holds. -/
inductive Slot where
  | text (content : String)
  | flag (holds : Bool)
  | value (lowered : Value)
  | type (written : TypeExpr)
  | state (decl : StateDecl)
  | pair (first second : Slot)
  | list (items : List Slot)
  /-- An optional part that the source leaves out. -/
  | absent

namespace Slot

/-- A slot that holds several values. -/
def values (items : List Value) : Slot :=
  .list (items.map .value)

/-- Whether the slot stands for a part that is left out. -/
def isAbsent : Slot → Bool
  | .absent => true
  | _ => false

/-- A type in an outline. -/
def outlineType (type : TypeExpr) : String :=
  "TypeExpr(" ++ Text.quoted type.text ++ ")"

/-- A state declaration in an outline. -/
def outlineDecl (decl : StateDecl) : String :=
  "StateDecl \x7b name: " ++ Text.quoted decl.name ++ ", keys: [" ++
    ", ".intercalate (decl.keys.map outlineType) ++ "], ty: " ++ outlineType decl.type ++ " \x7d"

mutual

/-- What a slot holds as a nested term on one line, for diagnostics. -/
def outline : Slot → String
  | .text content => "Text(" ++ Text.quoted content ++ ")"
  | .flag holds => "Flag(" ++ boolWord holds ++ ")"
  | .value lowered => "Value(" ++ lowered.outline ++ ")"
  | .type written => "Type(" ++ outlineType written ++ ")"
  | .state decl => "State(" ++ outlineDecl decl ++ ")"
  | .pair first second => "Pair(" ++ first.outline ++ ", " ++ second.outline ++ ")"
  | .list items => "List([" ++ outlineItems items ++ "])"
  | .absent => "Absent"

/-- The items of a list, with commas between them. -/
def outlineItems : List Slot → String
  | [] => ""
  | [item] => item.outline
  | item :: next :: rest => item.outline ++ ", " ++ outlineItems (next :: rest)

end

mutual

/-- What a slot holds as JSON. -/
def toJson : Slot → Json
  | .text content => .obj [("kind", .str "text"), ("value", .str content)]
  | .flag holds => .obj [("kind", .str "flag"), ("value", .bool holds)]
  | .value lowered => .obj [("kind", .str "value"), ("value", lowered.toJson)]
  | .type written => .obj [("kind", .str "type"), ("value", .str written.text)]
  | .state decl => .obj [("kind", .str "state"), ("value", decl.toJson)]
  | .pair first second =>
      .obj [("kind", .str "pair"), ("value", .arr [first.toJson, second.toJson])]
  | .list items => .obj [("kind", .str "list"), ("value", .arr (toJsons items))]
  | .absent => .obj [("kind", .str "absent")]

/-- What each slot of a list holds as JSON. -/
def toJsons : List Slot → List Json
  | [] => []
  | slot :: rest => slot.toJson :: toJsons rest

end

end Slot

/-- A template with its slots, in the order in which they were first filled. -/
structure Binding where
  template : Template
  slots : List (String × Slot) := []

namespace Binding

/-- Fills a slot. A slot that is filled again keeps its place. -/
def fill (binding : Binding) (key : String) (slot : Slot) : Binding :=
  { binding with slots := go binding.slots }
where
  /-- The slots with the one of that name replaced or added at the end. -/
  go : List (String × Slot) → List (String × Slot)
    | [] => [(key, slot)]
    | (name, old) :: rest => if name = key then (key, slot) :: rest else (name, old) :: go rest

/-- The complaint that a slot does not hold what is expected. -/
def mismatch (binding : Binding) (key expected : String) (found : Slot) : Failure :=
  .bindingShape binding.template.name key expected found.outline

/-- The slot of the given name. -/
def get (binding : Binding) (key : String) : Except Failure Slot :=
  match binding.slots.lookup key with
  | some slot => .ok slot
  | none => .error (.missingBinding binding.template.name key)

/-- The text in a slot. -/
def text (binding : Binding) (key : String) : Except Failure String := do
  match ← binding.get key with
  | .text text => return text
  | other => throw (binding.mismatch key "text" other)

/-- The truth value in a slot. -/
def flag (binding : Binding) (key : String) : Except Failure Bool := do
  match ← binding.get key with
  | .flag value => return value
  | other => throw (binding.mismatch key "flag" other)

/-- The value in a slot. -/
def value (binding : Binding) (key : String) : Except Failure Value := do
  match ← binding.get key with
  | .value value => return value
  | other => throw (binding.mismatch key "value" other)

/-- The list in a slot. -/
def list (binding : Binding) (key : String) : Except Failure (List Slot) := do
  match ← binding.get key with
  | .list items => return items
  | other => throw (binding.mismatch key "list" other)

/-- The binding as JSON. -/
def toJson (binding : Binding) : Json :=
  .obj [("template", .str binding.template.name),
    ("bindings", .obj (binding.slots.map fun (key, slot) => (key, slot.toJson)))]

end Binding

/-- Turns bindings into text. -/
abbrev Renderer := Binding → Except Failure String

end ContractCompiler
