import ContractCompiler.Proofs.Json.Readers
import ContractCompiler.Proofs.Json.Written
import ContractCompiler.Tree.Document

/-!
# Reading back a program that was written

A node is found in its notation wherever the levels that are left suffice for the nesting
(`Node.finds`). The reader of nodes admits only so many nested nodes, but every node takes up a
level, so that limit is never the one that is met: the notation of a node has one level more than
its content, and its reader admits one more nested node.

The notation spells out all fields and has no numbers, so its written forms are read as the program
that they were made from, up to a nesting of 127 levels and no further (`Program.parse_written`).
-/

namespace ContractCompiler

set_option autoImplicit false

open Json

/-! ## Parts without nodes -/

theorem TypeExpr.finds (limit : Nat) (type : TypeExpr) :
    Finds limit TypeExpr.reader (.str type.text) type :=
  (textReader_finds limit type.text).map TypeExpr.mk

theorem Param.finds (limit : Nat) (param : Param) :
    Finds limit Param.reader param.toJson param :=
  recordReader_finds _ (by simp) (.cons (textReader_finds limit param.name)
    (.cons (param.type.finds limit) .nil))

theorem MapKey.finds (limit : Nat) (key : MapKey) :
    Finds limit MapKey.reader key.toJson key :=
  recordReader_finds _ (by simp) (.cons (optionalReader_finds_text limit key.name)
    (.cons (key.type.finds limit) .nil))

theorem Literal.finds (limit : Nat) (literal : Literal) :
    Finds limit Literal.reader literal.toJson literal := by
  cases literal with
  | int digits => exact choiceReader_finds rfl ((textReader_finds limit digits).map Literal.int)
  | str text => exact choiceReader_finds rfl ((textReader_finds limit text).map Literal.str)
  | bool value => exact choiceReader_finds rfl ((flagReader_finds limit value).map Literal.bool)

/-! ## Nodes -/

/-- Every kind has a name of its own. -/
theorem Kind.lookup_name (kind : Kind) : Kind.named.lookup kind.name = some kind := by
  cases kind <;> decide

/-- A node is found if its content is, with one nested node less. Where none is admitted, no level
is left that it could take up. -/
theorem Node.finds_tagged {kind : Kind} {content : Json} {node : Node}
    (finds : ∀ height, Finds height (Node.contentReader (Node.readerUpTo height) kind) content node)
    (height : Nat) : Finds height (Node.readerUpTo height) (tagged kind content) node := by
  cases height with
  | zero => exact fun _ left => absurd left (Nat.not_lt_zero _)
  | succ height => exact taggedReader_finds (by decide) kind.lookup_name (finds height)

theorem Node.toJson_ne_null (node : Node) : node.toJson ≠ .null := by
  cases node with
  | cond _ _ otherwise => cases otherwise <;> exact nofun
  | ret expr => cases expr <;> exact nofun
  | _ => exact nofun

mutual

/-- **Every node is found in its notation.** -/
theorem Node.finds : ∀ (node : Node) (height : Nat),
    Finds height (Node.readerUpTo height) node.toJson node
  | .contract name body => Node.finds_tagged fun height =>
      Finds.map (recordReader_finds _ (by simp) (.cons (textReader_finds height name)
        (.cons (listReader_finds (Node.finds_list body height)) .nil))) _
  | .stateItem name type => Node.finds_tagged fun height =>
      recordReader_finds _ (by simp) (.cons (textReader_finds height name)
        (.cons (type.finds height) .nil))
  | .stateMap name keys type => Node.finds_tagged fun height =>
      recordReader_finds _ (by simp) (.cons (textReader_finds height name)
        (.cons (listReader_finds_map (MapKey.finds height) keys)
          (.cons (type.finds height) .nil)))
  | .exec name params body => Node.finds_tagged fun height =>
      recordReader_finds _ (by simp) (.cons (textReader_finds height name)
        (.cons (listReader_finds_map (Param.finds height) params)
          (.cons (listReader_finds (Node.finds_list body height)) .nil)))
  | .cond first elseIfs none => Node.finds_tagged fun height =>
      recordReader_finds _ (by simp) (.cons (first.finds height)
        (.cons (listReader_finds (Clause.finds_list elseIfs height))
          (.cons (optionalReader_finds_none height _) .nil)))
  | .cond first elseIfs (some body) => Node.finds_tagged fun height =>
      recordReader_finds _ (by simp) (.cons (first.finds height)
        (.cons (listReader_finds (Clause.finds_list elseIfs height))
          (.cons ((listReader_finds (Node.finds_list body height)).optional nofun) .nil)))
  | .assign lhs rhs => Node.finds_tagged fun height =>
      recordReader_finds _ (by simp) (.cons (lhs.finds height)
        (.cons (rhs.finds height) .nil))
  | .lookup item key => Node.finds_tagged fun height =>
      recordReader_finds _ (by simp) (.cons (item.finds height)
        (.cons (key.finds height) .nil))
  | .member item name => Node.finds_tagged fun height =>
      recordReader_finds _ (by simp) (.cons (item.finds height)
        (.cons (textReader_finds height name) .nil))
  | .ident name => Node.finds_tagged fun height => (textReader_finds height name).map Node.ident
  | .literal value => Node.finds_tagged fun height => (value.finds height).map Node.literal
  | .binary op lhs rhs => Node.finds_tagged fun height =>
      recordReader_finds _ (by simp) (.cons (textReader_finds height op)
        (.cons (lhs.finds height) (.cons (rhs.finds height) .nil)))
  | .call func args => Node.finds_tagged fun height =>
      recordReader_finds _ (by simp) (.cons (func.finds height)
        (.cons (listReader_finds (Node.finds_list args height)) .nil))
  | .emit expr => Node.finds_tagged fun height =>
      recordReader_finds _ (by simp) (.cons (expr.finds height) .nil)
  | .ret none => Node.finds_tagged fun height =>
      recordReader_finds _ (by simp) (.cons (optionalReader_finds_none height _) .nil)
  | .ret (some expr) => Node.finds_tagged fun height =>
      recordReader_finds _ (by simp)
        (.cons ((expr.finds height).optional expr.toJson_ne_null) .nil)

theorem Node.finds_list : ∀ (nodes : List Node) (height : Nat),
    List.Forall₂ (Finds height (Node.readerUpTo height)) (Node.toJsons nodes) nodes
  | [], _ => .nil
  | node :: rest, height => .cons (node.finds height) (Node.finds_list rest height)

theorem Clause.finds : ∀ (clause : Clause) (height : Nat),
    Finds height (Clause.readerOver (Node.readerUpTo height)) clause.toJson clause
  | .mk test body, height =>
      recordReader_finds _ (by simp) (.cons (test.finds height)
        (.cons (listReader_finds (Node.finds_list body height)) .nil))

theorem Clause.finds_list : ∀ (clauses : List Clause) (height : Nat),
    List.Forall₂ (Finds height (Clause.readerOver (Node.readerUpTo height)))
      (Clause.toJsons clauses) clauses
  | [], _ => .nil
  | clause :: rest, height => .cons (clause.finds height) (Clause.finds_list rest height)

end

/-! ## Numbers -/

@[simp] theorem numberless_tagged (kind : Kind) (content : Json) :
    (tagged kind content).numberless = content.numberless := by
  simp [tagged]

@[simp] theorem MapKey.numberless_toJson (key : MapKey) : key.toJson.numberless = true := by
  obtain ⟨name, type⟩ := key
  cases name <;> rfl

@[simp] theorem Literal.numberless_toJson (literal : Literal) :
    literal.toJson.numberless = true := by
  cases literal <;> rfl

mutual

/-- The notation of a node has no numbers, not even for number literals. -/
theorem Node.numberless_toJson : ∀ node : Node, node.toJson.numberless = true
  | .contract _ body => by simp [Node.toJson, Node.numberless_toJsons body]
  | .stateItem _ _ => rfl
  | .stateMap _ keys _ => by
      simp [Node.toJson, numberlessItems_map MapKey.numberless_toJson keys]
  | .exec _ params body => by
      have plain : ∀ param : Param, param.toJson.numberless = true := fun _ => rfl
      simp [Node.toJson, numberlessItems_map plain params, Node.numberless_toJsons body]
  | .cond first elseIfs none => by
      simp [Node.toJson, first.numberless_toJson, Clause.numberless_toJsons elseIfs]
  | .cond first elseIfs (some body) => by
      simp [Node.toJson, first.numberless_toJson, Clause.numberless_toJsons elseIfs,
        Node.numberless_toJsons body]
  | .assign lhs rhs => by simp [Node.toJson, lhs.numberless_toJson, rhs.numberless_toJson]
  | .lookup item key => by simp [Node.toJson, item.numberless_toJson, key.numberless_toJson]
  | .member item _ => by simp [Node.toJson, item.numberless_toJson]
  | .ident _ => rfl
  | .literal _ => by simp [Node.toJson]
  | .binary _ lhs rhs => by simp [Node.toJson, lhs.numberless_toJson, rhs.numberless_toJson]
  | .call func args => by
      simp [Node.toJson, func.numberless_toJson, Node.numberless_toJsons args]
  | .emit expr => by simp [Node.toJson, expr.numberless_toJson]
  | .ret none => rfl
  | .ret (some expr) => by simp [Node.toJson, expr.numberless_toJson]

theorem Node.numberless_toJsons : ∀ nodes : List Node, numberlessItems (Node.toJsons nodes) = true
  | [] => rfl
  | node :: rest => by
      simp [Node.toJsons, node.numberless_toJson, Node.numberless_toJsons rest]

theorem Clause.numberless_toJson : ∀ clause : Clause, clause.toJson.numberless = true
  | .mk test body => by
      simp [Clause.toJson, test.numberless_toJson, Node.numberless_toJsons body]

theorem Clause.numberless_toJsons : ∀ clauses : List Clause,
    numberlessItems (Clause.toJsons clauses) = true
  | [] => rfl
  | clause :: rest => by
      simp [Clause.toJsons, clause.numberless_toJson, Clause.numberless_toJsons rest]

end

/-! ## Programs -/

theorem Program.finds (program : Program) :
    Finds (maxLevels + 1) Program.reader program.toJson program :=
  recordReader_finds _ (by simp)
    (.cons (listReader_finds (Node.finds_list program.items (maxLevels + 1))) .nil)

theorem Program.numberless_toJson (program : Program) : program.toJson.numberless = true := by
  simp [Program.toJson, Node.numberless_toJsons program.items]

/-- However the notation of a program is laid out, it is read as the program, if it is not nested
too deep. -/
theorem Program.parse_of_spells {text : String} {program : Program}
    (spells : Spells text.toList (tokensThen program.toJson [])) :
    Program.parse text =
      if program.toJson.depth ≤ 127 then .ok program else .error .malformed := by
  rw [Program.parse, Reader.run, read_of_spells spells,
    program.finds { levels := maxLevels } (Nat.lt_succ_self maxLevels)]
  exact ifWithin_bind_ok rfl

/-- **A written program is read back.** Both written forms of a program are read as exactly that
program if its notation is nested at most 127 levels deep, and are rejected if it is nested
deeper. -/
theorem Program.parse_written (program : Program) :
    Program.parse program.toJson.compact =
      (if program.toJson.depth ≤ 127 then .ok program else .error .malformed) ∧
    Program.parse program.toJson.spread =
      (if program.toJson.depth ≤ 127 then .ok program else .error .malformed) :=
  ⟨Program.parse_of_spells (spells_compact program.numberless_toJson),
    Program.parse_of_spells (spells_spread program.numberless_toJson)⟩

end ContractCompiler
