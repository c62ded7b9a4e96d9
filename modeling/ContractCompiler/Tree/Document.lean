import ContractCompiler.Json.Reader
import ContractCompiler.Tree.Basic

/-!
# The JSON notation of syntax trees

A node is written as an object that gives its kind and its content, such as
`{"kind": "ident", "node": "x"}`. Writing spells out every field; reading supplies the fields that
have a default and accepts the other spellings that `Json.Reader` describes.
-/

namespace ContractCompiler

set_option autoImplicit false

open Json (Reader Field Fields)

/-! ## Writing -/

/-- The notation of a parameter. -/
def Param.toJson (param : Param) : Json :=
  .obj [("name", .str param.name), ("ty", .str param.type.text)]

/-- The notation of a map key. -/
def MapKey.toJson (key : MapKey) : Json :=
  .obj [("name", Json.textOrNull key.name), ("ty", .str key.type.text)]

/-- The notation of a literal. -/
def Literal.toJson : Literal → Json
  | .int digits => .obj [("int", .str digits)]
  | .str text => .obj [("str", .str text)]
  | .bool value => .obj [("bool", .bool value)]

/-- The notation of a state declaration. -/
def StateDecl.toJson (decl : StateDecl) : Json :=
  .obj [("name", .str decl.name), ("keys", Json.texts (decl.keys.map (·.text))),
    ("ty", .str decl.type.text)]

/-- A node of the given kind with its content. -/
def tagged (kind : Kind) (content : Json) : Json :=
  .obj [("kind", .str kind.name), ("node", content)]

mutual

/-- The notation of a node. -/
def Node.toJson : Node → Json
  | .contract name body =>
      tagged .contract (.obj [("name", .str name), ("body", .arr (Node.toJsons body))])
  | .stateItem name type =>
      tagged .stateItem (.obj [("name", .str name), ("ty", .str type.text)])
  | .stateMap name keys type =>
      tagged .stateMap
        (.obj [("name", .str name), ("keys", .arr (keys.map MapKey.toJson)),
          ("ty", .str type.text)])
  | .exec name params body =>
      tagged .exec
        (.obj [("name", .str name), ("args", .arr (params.map Param.toJson)),
          ("body", .arr (Node.toJsons body))])
  | .cond first elseIfs otherwise =>
      tagged .cond
        (.obj [("if_clause", first.toJson), ("else_if_clauses", .arr (Clause.toJsons elseIfs)),
          ("else_body",
            match otherwise with
            | some body => .arr (Node.toJsons body)
            | none => .null)])
  | .assign lhs rhs => tagged .assign (.obj [("lhs", lhs.toJson), ("rhs", rhs.toJson)])
  | .lookup item key => tagged .lookup (.obj [("item", item.toJson), ("key", key.toJson)])
  | .member item name => tagged .member (.obj [("item", item.toJson), ("member", .str name)])
  | .ident name => tagged .ident (.str name)
  | .literal value => tagged .literal value.toJson
  | .binary op lhs rhs =>
      tagged .binary (.obj [("op", .str op), ("lhs", lhs.toJson), ("rhs", rhs.toJson)])
  | .call func args =>
      tagged .call (.obj [("func", func.toJson), ("args", .arr (Node.toJsons args))])
  | .emit expr => tagged .emit (.obj [("expr", expr.toJson)])
  | .ret (some expr) => tagged .ret (.obj [("expr", expr.toJson)])
  | .ret none => tagged .ret (.obj [("expr", .null)])

/-- The notation of each node of a list. -/
def Node.toJsons : List Node → List Json
  | [] => []
  | node :: rest => node.toJson :: Node.toJsons rest

/-- The notation of a clause. -/
def Clause.toJson : Clause → Json
  | .mk test body => .obj [("cond", test.toJson), ("body", .arr (Node.toJsons body))]

/-- The notation of each clause of a list. -/
def Clause.toJsons : List Clause → List Json
  | [] => []
  | clause :: rest => clause.toJson :: Clause.toJsons rest

end

/-- The notation of a program. -/
def Program.toJson (program : Program) : Json :=
  .obj [("items", .arr (Node.toJsons program.items))]

/-! ## Reading -/

/-- A type. -/
def TypeExpr.reader : Reader TypeExpr :=
  Json.textReader.map TypeExpr.mk

/-- A parameter. -/
def Param.reader : Reader Param :=
  (Json.recordReader (.cons ⟨"name", Json.textReader, none⟩
    (.cons ⟨"ty", TypeExpr.reader, none⟩ .nil))).map fun (name, type, ()) => ⟨name, type⟩

/-- A map key. -/
def MapKey.reader : Reader MapKey :=
  (Json.recordReader (.cons ⟨"name", Json.optionalReader Json.textReader, some none⟩
    (.cons ⟨"ty", TypeExpr.reader, none⟩ .nil))).map fun (name, type, ()) => ⟨name, type⟩

/-- A literal. -/
def Literal.reader : Reader Literal :=
  Json.choiceReader
    [("int", .holding (Json.textReader.map .int)),
      ("str", .holding (Json.textReader.map .str)),
      ("bool", .holding (Json.flagReader.map .bool))]

/-- A state declaration. -/
def StateDecl.reader : Reader StateDecl :=
  (Json.recordReader (.cons ⟨"name", Json.textReader, none⟩
    (.cons ⟨"keys", Json.listReader TypeExpr.reader, none⟩
      (.cons ⟨"ty", TypeExpr.reader, none⟩ .nil)))).map
    fun (name, keys, type, ()) => ⟨name, keys, type⟩

/-- The kinds of nodes under their names. -/
def Kind.named : List (String × Kind) :=
  Kind.all.map fun kind => (kind.name, kind)

/-- A contract, given how the nodes in it are read. -/
def Contract.readerOver (node : Reader Node) : Reader Contract :=
  (Json.recordReader (.cons ⟨"name", Json.textReader, none⟩
    (.cons ⟨"body", Json.listReader node, some []⟩ .nil))).map
    fun (name, body, ()) => ⟨name, body⟩

/-- A clause, given how the nodes in it are read. -/
def Clause.readerOver (node : Reader Node) : Reader Clause :=
  (Json.recordReader (.cons ⟨"cond", node, none⟩
    (.cons ⟨"body", Json.listReader node, some []⟩ .nil))).map
    fun (test, body, ()) => .mk test body

/-- The content of a node of the given kind, given how the nodes in it are read. -/
def Node.contentReader (node : Reader Node) : Kind → Reader Node
  | .contract => (Contract.readerOver node).map fun contract => .contract contract.name contract.body
  | .stateItem =>
      (Json.recordReader (.cons ⟨"name", Json.textReader, none⟩
        (.cons ⟨"ty", TypeExpr.reader, none⟩ .nil))).map
        fun (name, type, ()) => .stateItem name type
  | .stateMap =>
      (Json.recordReader (.cons ⟨"name", Json.textReader, none⟩
        (.cons ⟨"keys", Json.listReader MapKey.reader, none⟩
          (.cons ⟨"ty", TypeExpr.reader, none⟩ .nil)))).map
        fun (name, keys, type, ()) => .stateMap name keys type
  | .exec =>
      (Json.recordReader (.cons ⟨"name", Json.textReader, none⟩
        (.cons ⟨"args", Json.listReader Param.reader, some []⟩
          (.cons ⟨"body", Json.listReader node, some []⟩ .nil)))).map
        fun (name, params, body, ()) => .exec name params body
  | .cond =>
      (Json.recordReader (.cons ⟨"if_clause", Clause.readerOver node, none⟩
        (.cons ⟨"else_if_clauses", Json.listReader (Clause.readerOver node), some []⟩
          (.cons ⟨"else_body", Json.optionalReader (Json.listReader node), some none⟩ .nil)))).map
        fun (first, elseIfs, otherwise, ()) => .cond first elseIfs otherwise
  | .assign =>
      (Json.recordReader (.cons ⟨"lhs", node, none⟩ (.cons ⟨"rhs", node, none⟩ .nil))).map
        fun (lhs, rhs, ()) => .assign lhs rhs
  | .lookup =>
      (Json.recordReader (.cons ⟨"item", node, none⟩ (.cons ⟨"key", node, none⟩ .nil))).map
        fun (item, key, ()) => .lookup item key
  | .member =>
      (Json.recordReader (.cons ⟨"item", node, none⟩
        (.cons ⟨"member", Json.textReader, none⟩ .nil))).map
        fun (item, name, ()) => .member item name
  | .ident => Json.textReader.map .ident
  | .literal => Literal.reader.map .literal
  | .binary =>
      (Json.recordReader (.cons ⟨"op", Json.textReader, none⟩
        (.cons ⟨"lhs", node, none⟩ (.cons ⟨"rhs", node, none⟩ .nil)))).map
        fun (op, lhs, rhs, ()) => .binary op lhs rhs
  | .call =>
      (Json.recordReader (.cons ⟨"func", node, none⟩
        (.cons ⟨"args", Json.listReader node, some []⟩ .nil))).map
        fun (func, args, ()) => .call func args
  | .emit =>
      (Json.recordReader (.cons ⟨"expr", node, none⟩ .nil)).map fun (expr, ()) => .emit expr
  | .ret =>
      (Json.recordReader (.cons ⟨"expr", Json.optionalReader node, some none⟩ .nil)).map
        fun (expr, ()) => .ret expr

/-- A node within which at most `height - 1` further nodes are nested. -/
def Node.readerUpTo : (height : Nat) → Reader Node
  | 0 => fun _ _ => .error .malformed
  | height + 1 =>
      Json.taggedReader "kind" "node" Kind.named (Node.contentReader (Node.readerUpTo height))

/-- A node. Every node enters a level of the document, so the limit on levels is reached before
the limit on nested nodes. -/
def Node.reader : Reader Node :=
  Node.readerUpTo (Json.maxLevels + 1)

/-- A contract. -/
def Contract.reader : Reader Contract :=
  Contract.readerOver Node.reader

/-- A program. -/
def Program.reader : Reader Program :=
  (Json.recordReader (.cons ⟨"items", Json.listReader Node.reader, none⟩ .nil)).map
    fun (items, ()) => ⟨items⟩

/-- The program that a text spells. -/
def Program.parse (text : String) : Except Json.Problem Program :=
  Program.reader.run text

end ContractCompiler
