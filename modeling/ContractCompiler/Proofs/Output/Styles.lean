import ContractCompiler.Proofs.Output.Agreement
import ContractCompiler.Proofs.Output.Margins

/-!
# Indentation styles

Source is written in a style of indentation. This module compares what is written in two styles.
Every construct is written from the margin and then embedded in the construct around it, which takes
its text apart into lines and indents each of them. Text can also end up inside an expression, in
the middle of a line, and an expression with line feeds in it becomes several lines.

Nodes have values of the same form in both styles, with the same text up to margins
(`CosmWasm.value_alike`). So a program fails with the same fault in both styles, or it becomes two
texts that have the same lines without leading blanks (`Program.compile_indentStyle`).
-/

namespace ContractCompiler

set_option autoImplicit false

namespace CosmWasm

/-! ## Values in two styles -/

/-- Values that are written the same up to margins. -/
def AlikeExpr (value other : Value) : Prop :=
  Reindented (expr value).toList (expr other).toList

/-- Values of the same form that are written the same up to margins, each key of a map included. -/
inductive Alike : Value → Value → Prop
  | item (key : String) : Alike (.item key) (.item key)
  | map (base : String) {keys otherKeys : List Value}
      (alike : List.Forall₂ AlikeExpr keys otherKeys) : Alike (.map base keys) (.map base otherKeys)
  | fragment {text other : String} (reindented : Reindented text.toList other.toList) :
      Alike (.fragment text) (.fragment other)
  | lookup {base key otherBase otherKey : Value}
      (alike : AlikeExpr (.lookup base key) (.lookup otherBase otherKey)) :
      Alike (.lookup base key) (.lookup otherBase otherKey)
  | member {base otherBase : Value} (name : String)
      (alike : AlikeExpr (.member base name) (.member otherBase name)) :
      Alike (.member base name) (.member otherBase name)
  | binary (op : String) {lhs rhs otherLhs otherRhs : Value}
      (alike : AlikeExpr (.binary op lhs rhs) (.binary op otherLhs otherRhs)) :
      Alike (.binary op lhs rhs) (.binary op otherLhs otherRhs)

theorem furtherKeys_reindented {keys others : List Value}
    (alike : List.Forall₂ AlikeExpr keys others) :
    Reindented (furtherKeys keys).toList (furtherKeys others).toList := by
  induction alike with
  | nil => exact .refl _
  | cons first _ ih =>
      rw [furtherKeys, furtherKeys]
      exact ((Reindented.refl _).concat first).concat ih

theorem mapKey_reindented {keys others : List Value} (alike : List.Forall₂ AlikeExpr keys others) :
    Reindented (mapKey keys).toList (mapKey others).toList := by
  cases alike with
  | nil => exact .refl _
  | cons first rest =>
      cases rest with
      | nil =>
          rw [mapKey, mapKey]
          exact (Reindented.refl _).concat first
      | cons next rest =>
          rw [mapKey, mapKey]
          exact (((Reindented.refl _).concat first).concat
            (furtherKeys_reindented (.cons next rest))).concat (.refl _)

namespace Alike

variable {value other second otherSecond : Value}

theorem expr (alike : Alike value other) : AlikeExpr value other := by
  cases alike with
  | item key => exact .refl _
  | map base keys =>
      rw [AlikeExpr, CosmWasm.expr, CosmWasm.expr]
      exact ((Reindented.refl _).concat (mapKey_reindented keys)).concat (.refl _)
  | fragment reindented =>
      rw [AlikeExpr, CosmWasm.expr, CosmWasm.expr]
      exact reindented
  | lookup alike => exact alike
  | member _ alike => exact alike
  | binary _ alike => exact alike

/-- The parentheses around an operation are the same. -/
theorem parenthesized (alike : Alike value other) :
    Reindented (CosmWasm.parenthesized value (CosmWasm.expr value)).toList
      (CosmWasm.parenthesized other (CosmWasm.expr other)).toList := by
  have whole := alike.expr
  cases alike with
  | binary op => exact ((Reindented.refl _).concat whole).concat (.refl _)
  | item | map | fragment | lookup | member => exact whole

/-! ### Lowering values that are alike -/

theorem operation (op : String) (lhs : Alike value other) (rhs : Alike second otherSecond) :
    Alike (.binary op value second) (.binary op other otherSecond) := by
  refine .binary op ?_
  rw [AlikeExpr, CosmWasm.expr, CosmWasm.expr]
  exact (((lhs.parenthesized.concat (.refl _)).concat (.refl _)).concat (.refl _)).concat
    rhs.parenthesized

theorem index (base : Alike value other) (key : Alike second otherSecond) :
    Alike (value.index second) (other.index otherSecond) := by
  have written : AlikeExpr (.lookup value second) (.lookup other otherSecond) := by
    rw [AlikeExpr, CosmWasm.expr, CosmWasm.expr]
    exact ((base.expr.concat (.refl _)).concat key.expr).concat (.refl _)
  cases base with
  | item base => exact .map base (.cons key.expr .nil)
  | map base keys => exact .map base (List.rel_append keys (.cons key.expr .nil))
  | fragment | lookup | member | binary => exact .lookup written

theorem memberOf (base : Alike value other) (name : String) :
    Alike (value.memberOf name) (other.memberOf name) := by
  have written : AlikeExpr (.member value name) (.member other name) := by
    rw [AlikeExpr, CosmWasm.expr, CosmWasm.expr]
    exact (base.expr.concat (.refl _)).concat (.refl _)
  cases base with
  | @fragment text other reindented =>
      -- The roots stand on a single line: both texts are such a root, or none is.
      have same : ∀ root : String, '\n' ∉ root.toList → (text = root ↔ other = root) := by
        intro root unbroken
        constructor
        · rintro rfl
          exact (String.toList_inj.mp (reindented.eq_of_unbroken (.inl unbroken))).symm
        · rintro rfl
          exact String.toList_inj.mp (reindented.eq_of_unbroken (.inr unbroken))
      unfold Value.memberOf
      simp only [same stateRoot (by decide), same messageRoot (by decide)]
      split
      · exact .item name
      · split
        · exact .fragment (.refl _)
        · exact .fragment ((reindented.concat (.refl _)).concat (.refl _))
  | item | map | lookup | member | binary => exact .member name written

end Alike

/-! ## Texts in two styles -/

theorem assignmentText_reindented (introduces : Bool) {lhs otherLhs rhs otherRhs : Value}
    (target : Alike lhs otherLhs) (assigned : AlikeExpr rhs otherRhs) :
    Reindented (assignmentText introduces lhs (expr rhs)).toList
      (assignmentText introduces otherLhs (expr otherRhs)).toList := by
  have written := target.expr
  cases target with
  | item key => exact ((Reindented.refl _).concat assigned).concat (.refl _)
  | map base keys =>
      exact ((((Reindented.refl _).concat (mapKey_reindented keys)).concat (.refl _)).concat
        assigned).concat (.refl _)
  | fragment | lookup | member | binary =>
      exact ((((Reindented.refl _).concat written).concat (.refl _)).concat assigned).concat
        (.refl _)

section Statements

variable {indentation other : Indentation} (blanks : IsMargin indentation.text.toList)
  (otherBlanks : IsMargin other.text.toList)
include blanks otherBlanks

theorem statementText_reindented {value otherValue : Value} (alike : Alike value otherValue) :
    ReindentedLines (statementText indentation value) (statementText other otherValue) := by
  have written := alike.expr.concat (.refl ";".toList)
  cases alike with
  | fragment reindented => exact reindented.embedded blanks otherBlanks
  | item | map | lookup | member | binary => exact written.indentedLine blanks otherBlanks

theorem statementsText_reindented {values otherValues : List Value}
    (alike : List.Forall₂ Alike values otherValues) :
    ReindentedLines (statementsText indentation values) (statementsText other otherValues) := by
  refine .join alike ?_
  intro value otherValue same
  exact statementText_reindented blanks otherBlanks same

theorem itemsText_reindented {items otherItems : List Value}
    (alike : List.Forall₂ Alike items otherItems) :
    ReindentedLines (itemsText indentation items) (itemsText other otherItems) := by
  refine .join alike ?_
  intro item otherItem same
  exact ReindentedLines.blank.append (statementText_reindented blanks otherBlanks same)

/-- The same line at two indentations. -/
theorem line_reindented (content : String) :
    ReindentedLines (indentation.line content) (other.line content) :=
  (Reindented.refl content.toList).indentedLine blanks otherBlanks

theorem importsText_reindented :
    ReindentedLines (importsText indentation) (importsText other) :=
  have line := line_reindented blanks otherBlanks
  (((line _).append (line _)).append .blank).append (line _)

theorem declsText_reindented (decls : List StateDecl) :
    ReindentedLines (declsText indentation decls) (declsText other decls) := by
  unfold declsText
  split
  · exact .empty
  · have same : List.Forall₂ (· = ·) decls decls := List.forall₂_refl decls
    refine ReindentedLines.blank.append (.join same ?_)
    rintro decl _ rfl
    exact line_reindented blanks otherBlanks (stateConst decl)

end Statements

/-- Branches with conditions and statements that are alike. -/
structure AlikeBranch (branch other : Branch) : Prop where
  test : Alike branch.test other.test
  body : List.Forall₂ Alike branch.body other.body

section Constructs

variable (header : Bool) (style other : IndentStyle)

theorem inner_isMargin (layout : Layout) : IsMargin (inner layout).text.toList :=
  Indentation.deeper_isMargin layout.indentStyle

theorem contractText_reindented (name : String) (decls : List StateDecl)
    {items otherItems : List Value} (alike : List.Forall₂ Alike items otherItems) :
    Reindented (contractText ⟨style, header⟩ ⟨name, decls, items⟩).toList
      (contractText ⟨other, header⟩ ⟨name, decls, otherItems⟩).toList := by
  have blanks := inner_isMargin ⟨style, header⟩
  have otherBlanks := inner_isMargin ⟨other, header⟩
  have lines := (importsText_reindented blanks otherBlanks).append
    ((declsText_reindented blanks otherBlanks decls).append
      ((itemsText_reindented blanks otherBlanks alike).append .closing))
  have whole := ReindentedLines.opened (.refl ((if header then headerNote name ++ "\n" else "") ++
    ("pub mod " ++ Text.snakeCase name)).toList) lines
  simpa only [contractText, contractOpening, String.append_assoc] using whole

theorem handlerText_reindented (name : String) (params : List Param)
    {body otherBody : List Value} (alike : List.Forall₂ Alike body otherBody) :
    Reindented (handlerText ⟨style, header⟩ ⟨name, params, body⟩).toList
      (handlerText ⟨other, header⟩ ⟨name, params, otherBody⟩).toList := by
  have blanks := inner_isMargin ⟨style, header⟩
  have otherBlanks := inner_isMargin ⟨other, header⟩
  have lines := (statementsText_reindented blanks otherBlanks alike).append
    ((line_reindented blanks otherBlanks (response name)).append .closing)
  have whole := ReindentedLines.opened (.refl (signature name params).toList) lines
  simpa only [handlerText, String.append_assoc] using whole

/-- Statements one level below the margin, in two styles. -/
theorem innerStatements_reindented {values otherValues : List Value}
    (alike : List.Forall₂ Alike values otherValues) :
    ReindentedLines (statementsText (Indentation.ofStyle style).deeper values)
      (statementsText (Indentation.ofStyle other).deeper otherValues) :=
  statementsText_reindented (Indentation.deeper_isMargin style)
    (Indentation.deeper_isMargin other) alike

/-- The same line at the margin, in two styles. -/
theorem marginLine_reindented (content : String) :
    ReindentedLines ((Indentation.ofStyle style).line content)
      ((Indentation.ofStyle other).line content) :=
  line_reindented (Indentation.ofStyle_isMargin style) (Indentation.ofStyle_isMargin other) content

/-- A branch after the first one. -/
theorem branchText_reindented (opening : String) {branch otherBranch : Branch}
    (alike : AlikeBranch branch otherBranch) :
    ReindentedLines (branchText (.ofStyle style) opening branch)
      (branchText (.ofStyle other) opening otherBranch) := by
  have test := ((Reindented.refl opening.toList).concat alike.test.expr).concat
    (.refl " \x7b".toList)
  have line := test.indentedLine (Indentation.ofStyle_isMargin style)
    (Indentation.ofStyle_isMargin other)
  rw [branchText, branchText]
  exact line.append (innerStatements_reindented style other alike.body)

theorem lastBranchText_reindented {otherwise otherOtherwise : Option (List Value)}
    (alike : Option.Rel (List.Forall₂ Alike) otherwise otherOtherwise) :
    ReindentedLines (lastBranchText (.ofStyle style) otherwise)
      (lastBranchText (.ofStyle other) otherOtherwise) := by
  cases alike with
  | none => exact .empty
  | some body =>
      rw [lastBranchText, lastBranchText]
      exact (marginLine_reindented style other "\x7d else \x7b").append
        (innerStatements_reindented style other body)

theorem conditionalText_reindented {first otherFirst : Branch} {elseIfs otherElseIfs : List Branch}
    {otherwise otherOtherwise : Option (List Value)} (firstAlike : AlikeBranch first otherFirst)
    (elseIfsAlike : List.Forall₂ AlikeBranch elseIfs otherElseIfs)
    (otherwiseAlike : Option.Rel (List.Forall₂ Alike) otherwise otherOtherwise) :
    Reindented (conditionalText (.ofStyle style) ⟨first, elseIfs, otherwise⟩).toList
      (conditionalText (.ofStyle other) ⟨otherFirst, otherElseIfs, otherOtherwise⟩).toList := by
  have further : ReindentedLines
      (String.join (elseIfs.map (branchText (.ofStyle style) "\x7d else if ")))
      (String.join (otherElseIfs.map (branchText (.ofStyle other) "\x7d else if "))) := by
    refine .join elseIfsAlike ?_
    intro branch otherBranch alike
    exact branchText_reindented style other "\x7d else if " alike
  have lines := (innerStatements_reindented style other firstAlike.body).append
    (further.append ((lastBranchText_reindented style other otherwiseAlike).append
      (marginLine_reindented style other "\x7d")))
  have whole := ReindentedLines.opened
    ((Reindented.refl "if ".toList).concat firstAlike.test.expr) lines
  have brace : ∀ text : String, " \x7b" ++ ("\n" ++ text) = " \x7b\n" ++ text := by
    intro text
    rw [← String.append_assoc]
    rfl
  simpa only [conditionalText, branchText, Indentation.line_ofStyle, String.append_assoc, brace]
    using whole

/-! ## Nodes in two styles -/

mutual

/-- **A node has values that are alike** in two styles. -/
theorem value_alike : ∀ node : Node,
    Alike (node.value (render ⟨style, header⟩)) (node.value (render ⟨other, header⟩))
  | .contract name body => by
      rw [value_contract, value_contract]
      exact .fragment (contractText_reindented header style other name (stateDecls body)
        (valuesExcept_alike Node.isLeftToUnit body))
  | .exec name params body => by
      rw [value_exec, value_exec]
      exact .fragment (handlerText_reindented header style other name params
        (valuesExcept_alike Node.isContract body))
  | .cond first elseIfs otherwise => by
      rw [value_cond, value_cond]
      exact .fragment (conditionalText_reindented style other (branchOf_alike first)
        (branches_alike elseIfs) (otherwise_alike otherwise))
  | .assign lhs rhs => by
      rw [value_assign, value_assign]
      exact .fragment (assignmentText_reindented lhs.isIdent (value_alike lhs)
        (value_alike rhs).expr)
  | .lookup item key => by
      rw [Node.value, Node.value]
      exact (value_alike item).index (value_alike key)
  | .member item name => by
      rw [Node.value, Node.value]
      exact (value_alike item).memberOf name
  | .binary op lhs rhs => by
      rw [Node.value, Node.value]
      exact .operation op (value_alike lhs) (value_alike rhs)
  | .ident _ | .literal _ | .stateItem _ _ | .stateMap _ _ _ | .call _ _ | .emit _ | .ret _ => by
      rw [Node.value, Node.value]
      exact .fragment (.refl _)

theorem valuesExcept_alike (skip : Node → Bool) : ∀ nodes : List Node,
    List.Forall₂ Alike (Node.valuesExcept (render ⟨style, header⟩) skip nodes)
      (Node.valuesExcept (render ⟨other, header⟩) skip nodes)
  | [] => by
      rw [Node.valuesExcept, Node.valuesExcept]
      exact .nil
  | node :: rest => by
      rw [Node.valuesExcept, Node.valuesExcept]
      by_cases skipped : skip node = true
      · rw [if_pos skipped, if_pos skipped]
        exact valuesExcept_alike skip rest
      · rw [if_neg skipped, if_neg skipped]
        exact .cons (value_alike node) (valuesExcept_alike skip rest)

theorem otherwise_alike : ∀ otherwise : Option (List Node),
    Option.Rel (List.Forall₂ Alike)
      (otherwise.map (Node.valuesExcept (render ⟨style, header⟩) Node.isContract))
      (otherwise.map (Node.valuesExcept (render ⟨other, header⟩) Node.isContract))
  | none => .none
  | some body => .some (valuesExcept_alike Node.isContract body)

theorem branchOf_alike : ∀ clause : Clause,
    AlikeBranch (branchOf (render ⟨style, header⟩) clause)
      (branchOf (render ⟨other, header⟩) clause)
  | .mk test body => ⟨value_alike test, valuesExcept_alike Node.isContract body⟩

theorem branches_alike : ∀ clauses : List Clause,
    List.Forall₂ AlikeBranch (clauses.map (branchOf (render ⟨style, header⟩)))
      (clauses.map (branchOf (render ⟨other, header⟩)))
  | [] => .nil
  | clause :: rest => .cons (branchOf_alike clause) (branches_alike rest)

end

end Constructs

/-- The text of a unit in two styles. -/
theorem contract_text_reindented (header : Bool) (style other : IndentStyle) (contract : Contract) :
    Reindented (contract.text (render ⟨style, header⟩)).toList
      (contract.text (render ⟨other, header⟩)).toList := by
  rw [contract_text, contract_text]
  exact contractText_reindented header style other contract.name (stateDecls contract.body)
    (valuesExcept_alike header style other Node.isLeftToUnit contract.body)

end CosmWasm

/-! ## Programs in two styles -/

/-- Accepting renderers meet the same first fault in a program. -/
theorem Program.firstFault_eq {first second : Renderer} (accepts : first.Accepting)
    (admits : second.Accepting) (program : Program) (env : Env) :
    (program.events first).findSome? (·.fault? first env) =
      (program.events second).findSome? (·.fault? second env) := by
  unfold Program.events
  induction program.contracts with
  | nil => rw [List.flatMap_nil, List.flatMap_nil, List.findSome?_nil, List.findSome?_nil]
  | cons contract rest ih =>
      rw [List.flatMap_cons, List.flatMap_cons, List.findSome?_append, List.findSome?_append, ih,
        ContractCompiler.firstFault_eq accepts admits]

/-- The texts of units, joined, in two styles. -/
theorem Program.texts_reindented (header : Bool) (style other : IndentStyle)
    (contracts : List Contract) :
    Reindented
      (String.join (contracts.map (Contract.text (CosmWasm.render ⟨style, header⟩)))).toList
      (String.join (contracts.map (Contract.text (CosmWasm.render ⟨other, header⟩)))).toList := by
  induction contracts with
  | nil => exact .nil
  | cons contract rest ih =>
      rw [List.map_cons, List.map_cons, String.join_cons, String.join_cons]
      exact (CosmWasm.contract_text_reindented header style other contract).concat ih

/-- **The style of indentation matters to the margins of lines only.** In any two styles a program
fails with the same fault, or it becomes two texts with the same lines, in number and, without the
blanks at their beginning, in content. -/
theorem Program.compile_indentStyle (program : Program) (fallback : Fallback) (header : Bool)
    (style other : IndentStyle) :
    (∃ fault,
      (program.compile (CosmWasm.render ⟨style, header⟩) fallback).outcome = .error fault ∧
      (program.compile (CosmWasm.render ⟨other, header⟩) fallback).outcome = .error fault) ∨
    ∃ text otherText,
      (program.compile (CosmWasm.render ⟨style, header⟩) fallback).outcome = .ok text ∧
      (program.compile (CosmWasm.render ⟨other, header⟩) fallback).outcome = .ok otherText ∧
      bareLines text = bareLines otherText := by
  have faults := program.firstFault_eq (CosmWasm.render_accepting ⟨style, header⟩)
    (CosmWasm.render_accepting ⟨other, header⟩) { fallback }
  rw [Program.compile_eq, Program.compile_eq, faults]
  cases (program.events (CosmWasm.render ⟨other, header⟩)).findSome?
      (·.fault? (CosmWasm.render ⟨other, header⟩) { fallback }) with
  | some fault => exact .inl ⟨fault, rfl, rfl⟩
  | none =>
      have texts := Program.texts_reindented header style other program.contracts
      exact .inr ⟨_, _, rfl, rfl, texts.bareLines_eq⟩

end ContractCompiler
