import ContractCompiler.Generation.Context
import ContractCompiler.Text.Identifier

/-!
# Rules that constructs must keep

Each construct is verified before any text is produced for it.

* In a contract, no two state declarations and no two handlers may become the same identifier of
  generated code.
* In a handler, no two parameters may have the same name.
* In a conditional and in an assignment, the state that is accessed must be declared, and used with
  the shape and the number of keys of its declaration.
* Nothing that is reached through the message context may be assigned.

Outside of a contract the declared state is unknown and access to it is not checked.
-/

namespace ContractCompiler

set_option autoImplicit false

/-! ## Contracts -/

/-- The classes of names that generated code keeps apart. -/
inductive NameClass where
  | state
  | handler
  deriving DecidableEq, Repr

/-- A name that a contract introduces into generated code. -/
structure Claim where
  nameClass : NameClass
  name : String
  deriving DecidableEq, Repr

/-- How the names of each class are spelled in generated code. -/
abbrev Naming := NameClass → String → String

/-- The spelling of names in generated code: state becomes constants, handlers become functions. -/
def Naming.generated : Naming
  | .state => Text.screamingCase
  | .handler => Text.snakeCase

/-- The identifier that a name becomes. -/
def Claim.host (naming : Naming) (claim : Claim) : String :=
  naming claim.nameClass claim.name

/-- The name that an item of a contract body introduces. -/
def Node.claim? : Node → Option Claim
  | .stateItem name _ => some ⟨.state, name⟩
  | .stateMap name _ _ => some ⟨.state, name⟩
  | .exec name _ _ => some ⟨.handler, name⟩
  | _ => none

/-- Whether two names become the same identifier. -/
def Claim.clashes (naming : Naming) (earlier later : Claim) : Bool :=
  earlier.nameClass = later.nameClass && earlier.host naming = later.host naming

/-- The violation of a name that clashes with an earlier one. -/
def Claim.clash (naming : Naming) (earlier later : Claim) : Violation :=
  if earlier.name = later.name then
    match later.nameClass with
    | .state => .duplicateState later.name
    | .handler => .duplicateHandler later.name
  else .nameClash earlier.name later.name (later.host naming)

/-- Adds names in order. The first one that clashes with an earlier name is reported. -/
def checkClaims (naming : Naming) (earlier : List Claim) : List Claim → Except Violation Unit
  | [] => .ok ()
  | claim :: rest =>
      match earlier.find? (·.clashes naming claim) with
      | some first => .error (first.clash naming claim)
      | none => checkClaims naming (earlier ++ [claim]) rest

/-- The rules for a contract whose names are spelled in the given way. -/
def contractRulesBy (naming : Naming) (body : List Node) : Except Violation Unit :=
  checkClaims naming [] (body.filterMap Node.claim?)

/-- The rules for a contract. -/
def contractRules (body : List Node) : Except Violation Unit :=
  contractRulesBy .generated body

/-! ## Handlers -/

/-- The first name of a list that stands before it, or in `seen`. -/
def firstRepeated? (seen : List String) : List String → Option String
  | [] => none
  | name :: rest => if seen.contains name then some name else firstRepeated? (name :: seen) rest

/-- The rules for a handler. -/
def handlerRules (params : List Param) : Except Violation Unit :=
  match firstRepeated? [] (params.map (·.name)) with
  | some name => .error (.duplicateParam name)
  | none => .ok ()

/-! ## Access to state -/

/-- An access must be to declared state and fit its declaration. -/
def checkAccess (table : StateTable) (target : StateTarget) : Except Violation Unit :=
  match table.get? target.key with
  | none => .error (.undeclaredState target.key)
  | some decl =>
      if decl.isMap then
        if target.lookups = 0 then .error (.shapeMismatch target.key .map .item)
        else if target.lookups ≠ decl.keys.length then
          .error (.keyArity target.key decl.keys.length target.lookups)
        else .ok ()
      else if target.lookups = 0 then .ok ()
      else .error (.shapeMismatch target.key .item .map)

/-- Checks accesses in order. -/
def checkAccesses (table : StateTable) : List StateTarget → Except Violation Unit
  | [] => .ok ()
  | target :: rest => do
      checkAccess table target
      checkAccesses table rest

/-- The rules for a conditional with the given conditions. -/
def conditionalRules (tests : List Node) (table : Option StateTable) : Except Violation Unit :=
  match table with
  | none => .ok ()
  | some table => checkAccesses table (tests.flatMap Node.stateAccesses)

/-- The declaration of the state that an expression as a whole addresses. -/
def addressed? (table : StateTable) (node : Node) : Option StateDecl :=
  node.stateTarget?.bind fun target => table.get? target.key

/-- The declaration of the state item that an expression as a whole reads. -/
def addressedItem? (table : StateTable) (node : Node) : Option StateDecl :=
  (node.stateTarget?.filter (·.lookups = 0)).bind fun target => table.get? target.key

/-- State that is copied into state must have a type that fits. -/
def checkTypes (table : StateTable) (lhs rhs : Node) : Except Violation Unit :=
  match addressed? table lhs, addressedItem? table rhs with
  | some target, some source =>
      if target.type.accepts source.type then .ok ()
      else .error (.typeMismatch lhs.spelling target.type source.type)
  | _, _ => .ok ()

/-- The rules for an assignment. -/
def assignmentRules (lhs rhs : Node) (table : Option StateTable) : Except Violation Unit :=
  if lhs.isMessageAccess then .error (.readOnlyTarget lhs.spelling)
  else
    match table with
    | none => .ok ()
    | some table => do
        checkAccesses table (lhs.stateAccesses ++ rhs.stateAccesses)
        checkTypes table lhs rhs

end ContractCompiler
