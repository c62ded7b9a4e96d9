import ContractCompiler.Text.Quoted

/-!
# Contract syntax trees

A program is a list of nodes: contract definitions, what stands in them, and the statements and
expressions of their handlers. The tree is as permissive as the notation that feeds the compiler:
any node may stand in any place, and it is for the verification and the lowering to object.

Two identifiers are reserved. Members of `$state` are the persistent state of the contract, and
members of `$msg` are the context of the message being handled.
-/

namespace ContractCompiler

set_option autoImplicit false

/-- The reserved identifier for the persistent state of a contract. -/
def stateRoot : String := "$state"

/-- The reserved identifier for the context of the current message. -/
def messageRoot : String := "$msg"

/-! ## Types -/

/-- A type as it is written. A question mark at the end makes it optional. -/
structure TypeExpr where
  text : String
  deriving DecidableEq, Repr

/-- Whether a value of the type may be absent. -/
def TypeExpr.isOptional (type : TypeExpr) : Bool :=
  type.text.toList.getLast? = some '?'

/-- The type without the question marks at its end. -/
def TypeExpr.base (type : TypeExpr) : String :=
  String.ofList (type.text.toList.reverse.dropWhile (· = '?')).reverse

/-- Whether a value of type `found` may be stored where `expected` is declared. Types are opaque
to the compiler, so nothing is ruled out. -/
def TypeExpr.accepts (_expected _found : TypeExpr) : Bool :=
  true

/-- A parameter of a handler. -/
structure Param where
  name : String
  type : TypeExpr
  deriving DecidableEq, Repr

/-- A key of a state map; naming it is optional. -/
structure MapKey where
  name : Option String
  type : TypeExpr
  deriving DecidableEq, Repr

/-! ## Nodes -/

/-- A literal. The digits of a number are kept as they are written. -/
inductive Literal where
  | int (digits : String)
  | str (text : String)
  | bool (value : Bool)
  deriving DecidableEq, Repr

mutual

/-- A node of the syntax tree. -/
inductive Node where
  | contract (name : String) (body : List Node)
  | stateItem (name : String) (type : TypeExpr)
  | stateMap (name : String) (keys : List MapKey) (type : TypeExpr)
  | exec (name : String) (params : List Param) (body : List Node)
  /-- A conditional. Having no `else` differs from having an empty one. -/
  | cond (first : Clause) (elseIfs : List Clause) (otherwise : Option (List Node))
  | assign (lhs rhs : Node)
  | lookup (item key : Node)
  | member (item : Node) (name : String)
  | ident (name : String)
  | literal (value : Literal)
  | binary (op : String) (lhs rhs : Node)
  | call (func : Node) (args : List Node)
  | emit (expr : Node)
  | ret (expr : Option Node)

/-- A condition with the statements that it guards. -/
inductive Clause where
  | mk (test : Node) (body : List Node)

end

/-- The condition of a clause. -/
def Clause.test : Clause → Node
  | .mk test _ => test

/-- The statements of a clause. -/
def Clause.body : Clause → List Node
  | .mk _ body => body

/-- A contract definition. -/
structure Contract where
  name : String
  body : List Node

/-- A program. -/
structure Program where
  items : List Node

/-! ## Kinds -/

/-- The kinds of nodes. -/
inductive Kind where
  | contract
  | stateItem
  | stateMap
  | exec
  | cond
  | assign
  | lookup
  | member
  | ident
  | literal
  | binary
  | call
  | emit
  | ret
  deriving DecidableEq, Repr

/-- The word for a kind. -/
def Kind.name : Kind → String
  | .contract => "contract"
  | .stateItem => "state-item"
  | .stateMap => "state-map"
  | .exec => "exec"
  | .cond => "if"
  | .assign => "assign"
  | .lookup => "lookup"
  | .member => "member"
  | .ident => "ident"
  | .literal => "literal"
  | .binary => "binary"
  | .call => "fn-call"
  | .emit => "emit"
  | .ret => "return"

/-- All kinds. -/
def Kind.all : List Kind :=
  [.contract, .stateItem, .stateMap, .exec, .cond, .assign, .lookup, .member, .ident, .literal,
    .binary, .call, .emit, .ret]

/-- The kind of a node. -/
def Node.kind : Node → Kind
  | .contract .. => .contract
  | .stateItem .. => .stateItem
  | .stateMap .. => .stateMap
  | .exec .. => .exec
  | .cond .. => .cond
  | .assign .. => .assign
  | .lookup .. => .lookup
  | .member .. => .member
  | .ident .. => .ident
  | .literal .. => .literal
  | .binary .. => .binary
  | .call .. => .call
  | .emit .. => .emit
  | .ret .. => .ret

/-- Whether the node is a contract definition. -/
def Node.isContract (node : Node) : Bool :=
  node.kind == .contract

/-- Whether the node declares state. -/
def Node.isStateDecl (node : Node) : Bool :=
  node.kind == .stateItem || node.kind == .stateMap

/-- Whether the node is a plain identifier. -/
def Node.isIdent (node : Node) : Bool :=
  node.kind == .ident

/-! ## Spelling -/

/-- A truth value as a word. -/
def boolWord (value : Bool) : String :=
  if value then "true" else "false"

/-- A literal as it is written. -/
def Literal.spelling : Literal → String
  | .int digits => digits
  | .str text => Text.quoted text
  | .bool value => boolWord value

/-- The kind of a node, with its name if it has one. -/
def Node.title : Node → String
  | .contract name _ => "contract " ++ name
  | .stateItem name _ => "state-item " ++ name
  | .stateMap name _ _ => "state-map " ++ name
  | .exec name _ _ => "exec " ++ name
  | .call (.ident name) _ => "fn-call " ++ name
  | node => node.kind.name

/-- An expression about as it is written, such as `$state.balances[owner]`. -/
def Node.spelling : Node → String
  | .ident name => name
  | .literal value => value.spelling
  | .member item name => item.spelling ++ "." ++ name
  | .lookup item key => item.spelling ++ "[" ++ key.spelling ++ "]"
  | .binary op lhs rhs => lhs.spelling ++ " " ++ op ++ " " ++ rhs.spelling
  | node => node.title

/-- A short label for placeholders and diagnostics. -/
def Node.describe : Node → String
  | .ident name => "ident " ++ name
  | .literal value => "literal " ++ value.spelling
  | .member item name => "member " ++ (Node.member item name).spelling
  | .lookup item key => "lookup " ++ (Node.lookup item key).spelling
  | node => node.title

/-! ## Descendants -/

/-- The condition of a clause, then its statements. -/
def Clause.children (clause : Clause) : List Node :=
  clause.test :: clause.body

/-- The nodes directly below a node, in source order. -/
def Node.children : Node → List Node
  | .contract _ body => body
  | .exec _ _ body => body
  | .cond first elseIfs otherwise =>
      (first :: elseIfs).flatMap Clause.children ++ otherwise.getD []
  | .assign lhs rhs => [lhs, rhs]
  | .lookup item key => [item, key]
  | .member item _ => [item]
  | .binary _ lhs rhs => [lhs, rhs]
  | .call func args => func :: args
  | .emit expr => [expr]
  | .ret expr => expr.toList
  | .stateItem .. | .stateMap .. | .ident _ | .literal _ => []

mutual

/-- The contracts at and below a node, outer ones before those within them. -/
def Node.contracts : Node → List Contract
  | .contract name body => ⟨name, body⟩ :: Node.contractsOf body
  | .exec _ _ body => Node.contractsOf body
  | .cond first elseIfs otherwise =>
      first.contracts ++ Clause.contractsOf elseIfs ++
        match otherwise with
        | some body => Node.contractsOf body
        | none => []
  | .assign lhs rhs => lhs.contracts ++ rhs.contracts
  | .lookup item key => item.contracts ++ key.contracts
  | .member item _ => item.contracts
  | .binary _ lhs rhs => lhs.contracts ++ rhs.contracts
  | .call func args => func.contracts ++ Node.contractsOf args
  | .emit expr => expr.contracts
  | .ret (some expr) => expr.contracts
  | .ret none => []
  | .stateItem .. | .stateMap .. | .ident _ | .literal _ => []

/-- The contracts of a list of nodes. -/
def Node.contractsOf : List Node → List Contract
  | [] => []
  | node :: rest => node.contracts ++ Node.contractsOf rest

/-- The contracts of a clause. -/
def Clause.contracts : Clause → List Contract
  | .mk test body => test.contracts ++ Node.contractsOf body

/-- The contracts of a list of clauses. -/
def Clause.contractsOf : List Clause → List Contract
  | [] => []
  | clause :: rest => clause.contracts ++ Clause.contractsOf rest

end

/-- Every contract of a program, nested ones included. -/
def Program.contracts (program : Program) : List Contract :=
  Node.contractsOf program.items

/-! ## Access to state and message -/

/-- A member of the contract's state. -/
def Node.state (name : String) : Node :=
  .member (.ident stateRoot) name

/-- A member of the message context. -/
def Node.message (name : String) : Node :=
  .member (.ident messageRoot) name

/-- Whether the node is reached through `$msg` by members and lookups. -/
def Node.isMessageAccess : Node → Bool
  | .member (.ident root) _ => root == messageRoot
  | .member item _ => item.isMessageAccess
  | .lookup item _ => item.isMessageAccess
  | _ => false

/-- The state that an expression addresses: its name, and how many lookups are applied to it. -/
structure StateTarget where
  key : String
  lookups : Nat
  deriving DecidableEq, Repr

/-- The state that the node itself addresses: `$state.x` is an item, and each lookup on it adds a
key. -/
def Node.stateTarget? : Node → Option StateTarget
  | .member (.ident root) name => if root = stateRoot then some ⟨name, 0⟩ else none
  | .lookup item _ =>
      item.stateTarget?.map fun target => { target with lookups := target.lookups + 1 }
  | _ => none

mutual

/-- Every state that a node touches, outermost first. The keys of a map access are searched too,
so that `$state.m[$state.k]` touches `m` and then `k`. -/
def Node.stateAccesses : Node → List StateTarget
  | .lookup item key =>
      match (Node.lookup item key).stateTarget? with
      | some target => target :: (item.keyAccesses ++ key.stateAccesses)
      | none => item.stateAccesses ++ key.stateAccesses
  | .member item name =>
      match (Node.member item name).stateTarget? with
      | some target => [target]
      | none => item.stateAccesses
  | .contract _ body => Node.stateAccessesOf body
  | .exec _ _ body => Node.stateAccessesOf body
  | .cond first elseIfs otherwise =>
      first.stateAccesses ++ Clause.stateAccessesOf elseIfs ++
        match otherwise with
        | some body => Node.stateAccessesOf body
        | none => []
  | .assign lhs rhs => lhs.stateAccesses ++ rhs.stateAccesses
  | .binary _ lhs rhs => lhs.stateAccesses ++ rhs.stateAccesses
  | .call func args => func.stateAccesses ++ Node.stateAccessesOf args
  | .emit expr => expr.stateAccesses
  | .ret (some expr) => expr.stateAccesses
  | .ret none => []
  | .stateItem .. | .stateMap .. | .ident _ | .literal _ => []

/-- The states touched by the keys of a chain of lookups, first key first. -/
def Node.keyAccesses : Node → List StateTarget
  | .lookup item key => item.keyAccesses ++ key.stateAccesses
  | _ => []

/-- The states that a list of nodes touches. -/
def Node.stateAccessesOf : List Node → List StateTarget
  | [] => []
  | node :: rest => node.stateAccesses ++ Node.stateAccessesOf rest

/-- The states that a clause touches. -/
def Clause.stateAccesses : Clause → List StateTarget
  | .mk test body => test.stateAccesses ++ Node.stateAccessesOf body

/-- The states that a list of clauses touches. -/
def Clause.stateAccessesOf : List Clause → List StateTarget
  | [] => []
  | clause :: rest => clause.stateAccesses ++ Clause.stateAccessesOf rest

end

/-! ## Declarations -/

/-- A declared state: an item if it has no keys, else a map. -/
structure StateDecl where
  name : String
  keys : List TypeExpr
  type : TypeExpr
  deriving DecidableEq, Repr

/-- Whether the declared state is a map. -/
def StateDecl.isMap (decl : StateDecl) : Bool :=
  !decl.keys.isEmpty

/-- The state that a node declares. -/
def Node.stateDecl? : Node → Option StateDecl
  | .stateItem name type => some ⟨name, [], type⟩
  | .stateMap name keys type => some ⟨name, keys.map (·.type), type⟩
  | _ => none

/-- The state declared directly in a contract body, in source order. -/
def stateDecls (body : List Node) : List StateDecl :=
  body.filterMap Node.stateDecl?

end ContractCompiler
