import ContractCompiler.Proofs.Generation.Programs
import ContractCompiler.Proofs.Output.Rendering

/-!
# The texts of constructs

Writing only adds to the text that is there, and what it adds depends on nothing but the indentation
(`Writer.Adds`). So the text of a construct is put together from the texts of its parts: a contract
is its opening, its constants and its items, a handler is its signature, its statements and its
answer, a conditional is its branches. What was generated on its own and is embedded is taken apart
into lines, each of which is written at the indentation of the place.
-/

namespace ContractCompiler

set_option autoImplicit false

/-! ## Lines at an indentation -/

namespace Indentation

/-- A line at an indentation. -/
def line (indentation : Indentation) (content : String) : String :=
  if content = "" then "\n" else indentation.text ++ content ++ "\n"

/-- The lines of a text at an indentation. -/
def embedded (indentation : Indentation) (content : String) : String :=
  String.join ((Text.lines content).map indentation.line)

@[simp] theorem text_ofStyle (style : IndentStyle) : (ofStyle style).text = "" := rfl

/-- At the margin a line is its content. -/
@[simp] theorem line_ofStyle (style : IndentStyle) (content : String) :
    (ofStyle style).line content = content ++ "\n" := by
  unfold line
  split
  · next empty => rw [empty, String.empty_append]
  · rw [text_ofStyle, String.empty_append]

end Indentation

/-! ## What writing adds -/

namespace Writer

/-- The writing adds the text that is given for the indentation, and comes back to it. -/
def Adds (write : Writer → Writer) (added : Indentation → String) : Prop :=
  ∀ writer, write writer = { writer with text := writer.text ++ added writer.indentation }

theorem adds_line (content : String) : Adds (·.line content) (·.line content) := by
  intro writer
  show writer.line content = _
  unfold line Indentation.line
  split
  · rfl
  · simp only [String.append_assoc]

theorem adds_blank : Adds blank fun _ => "\n" :=
  fun _ => rfl

namespace Adds

variable {write next : Writer → Writer} {added further : Indentation → String}

/-- One writing after another. -/
theorem comp (adds : Adds write added) (nextAdds : Adds next further) :
    Adds (fun writer => next (write writer)) fun indentation =>
      added indentation ++ further indentation := by
  intro writer
  show next (write writer) = _
  rw [nextAdds (write writer), adds writer, ← String.append_assoc]

/-- Writing one level deeper. -/
theorem indented (adds : Adds write added) :
    Adds (·.indented write) fun indentation => added indentation.deeper := by
  intro writer
  show (write writer.indent).dedent = _
  rw [adds writer.indent]
  rfl

/-- Writing items one after another. -/
theorem foldl {α : Type} {step : Writer → α → Writer} {added : α → Indentation → String}
    (adds : ∀ item, Adds (step · item) (added item)) (items : List α) :
    Adds (fun writer => items.foldl step writer) fun indentation =>
      String.join (items.map (added · indentation)) := by
  induction items with
  | nil =>
      intro writer
      exact congrArg (Writer.mk · writer.indentation) String.append_empty.symm
  | cons item rest ih =>
      have whole := (adds item).comp ih
      simp only [List.foldl_cons, List.map_cons, String.join_cons]
      exact whole

/-- Writing a block. -/
theorem block (adds : Adds write added) (header : String) :
    Adds (·.block header write) fun indentation =>
      indentation.line (header ++ " \x7b") ++ added indentation.deeper ++
        indentation.line "\x7d" :=
  ((adds_line _).comp adds.indented).comp (adds_line _)

end Adds

theorem adds_embed (content : String) : Adds (·.embed content) (·.embedded content) :=
  Adds.foldl adds_line (Text.lines content)

end Writer

namespace CosmWasm

open Writer (Adds)

/-- What is written from the margin. -/
theorem written_eq {write : Writer → Writer} {added : Indentation → String}
    (adds : Adds write added) (layout : Layout) :
    written layout write = added (.ofStyle layout.indentStyle) := by
  rw [written, adds]
  exact String.empty_append

/-- The indentation one level below the margin. -/
def inner (layout : Layout) : Indentation :=
  (Indentation.ofStyle layout.indentStyle).deeper

/-! ## Statements -/

/-- A statement at an indentation. -/
def statementText (indentation : Indentation) : Value → String
  | .fragment text => indentation.embedded text
  | value => indentation.line (expr value ++ ";")

/-- Statements at an indentation. -/
def statementsText (indentation : Indentation) (values : List Value) : String :=
  String.join (values.map (statementText indentation))

theorem adds_writeStatement (value : Value) :
    Adds (writeStatement · value) (statementText · value) := by
  cases value with
  | fragment text => exact Writer.adds_embed text
  | item | map | lookup | member | binary => exact Writer.adds_line _

theorem adds_writeStatements (values : List Value) :
    Adds (writeStatements values) (statementsText · values) :=
  Adds.foldl adds_writeStatement values

theorem statementsText_cons (indentation : Indentation) (value : Value) (values : List Value) :
    statementsText indentation (value :: values) =
      statementText indentation value ++ statementsText indentation values := by
  rw [statementsText, List.map_cons, String.join_cons, statementsText]

theorem statementsText_append (indentation : Indentation) (values more : List Value) :
    statementsText indentation (values ++ more) =
      statementsText indentation values ++ statementsText indentation more := by
  rw [statementsText, List.map_append, String.join_append, statementsText, statementsText]

/-! ## Contracts -/

/-- The imports of a contract module. -/
def importsText (indentation : Indentation) : String :=
  indentation.line "use cosmwasm_std::*;" ++
    indentation.line "use cw_storage_plus::\x7bItem, Map\x7d;" ++ "\n" ++
    indentation.line "use crate::error::ContractError;"

/-- The storage constants of a contract. -/
def declsText (indentation : Indentation) (decls : List StateDecl) : String :=
  if decls.isEmpty then ""
  else "\n" ++ String.join (decls.map fun decl => indentation.line (stateConst decl))

/-- The items of a contract. -/
def itemsText (indentation : Indentation) (items : List Value) : String :=
  String.join (items.map fun item => "\n" ++ statementText indentation item)

/-- A contract up to its constants. -/
def contractOpening (layout : Layout) (name : String) : String :=
  (if layout.header then headerNote name ++ "\n" else "") ++
    ("pub mod " ++ Text.snakeCase name ++ " \x7b\n") ++ importsText (inner layout)

/-- A contract. -/
def contractText (layout : Layout) (parts : ContractParts) : String :=
  contractOpening layout parts.name ++ declsText (inner layout) parts.decls ++
    itemsText (inner layout) parts.items ++ "\x7d\n"

theorem adds_writeImports : Adds writeImports importsText := by
  have libraries := (Writer.adds_line "use cosmwasm_std::*;").comp
    (Writer.adds_line "use cw_storage_plus::\x7bItem, Map\x7d;")
  have whole := (libraries.comp Writer.adds_blank).comp
    (Writer.adds_line "use crate::error::ContractError;")
  exact whole

theorem adds_writeDecls (decls : List StateDecl) : Adds (writeDecls decls) (declsText · decls) := by
  unfold writeDecls declsText
  cases decls with
  | nil =>
      intro writer
      exact congrArg (Writer.mk · writer.indentation) String.append_empty.symm
  | cons decl rest =>
      exact Writer.adds_blank.comp
        (Adds.foldl (fun decl => Writer.adds_line (stateConst decl)) (decl :: rest))

theorem adds_writeItems (items : List Value) : Adds (writeItems items) (itemsText · items) :=
  Adds.foldl (fun item => Writer.adds_blank.comp (adds_writeStatement item)) items

theorem itemsText_cons (indentation : Indentation) (item : Value) (items : List Value) :
    itemsText indentation (item :: items) =
      "\n" ++ statementText indentation item ++ itemsText indentation items := by
  rw [itemsText, List.map_cons, String.join_cons, itemsText]

theorem itemsText_append (indentation : Indentation) (items more : List Value) :
    itemsText indentation (items ++ more) =
      itemsText indentation items ++ itemsText indentation more := by
  rw [itemsText, List.map_append, String.join_append, itemsText, itemsText]

/-- What is written for a contract. -/
theorem written_contract (layout : Layout) (parts : ContractParts) :
    written layout (writeContract layout.header parts) = contractText layout parts := by
  have body := ((adds_writeImports.comp (adds_writeDecls parts.decls)).comp
    (adds_writeItems parts.items)).block ("pub mod " ++ Text.snakeCase parts.name)
  unfold writeContract
  cases header : layout.header with
  | true =>
      have whole := (Writer.adds_line (headerNote parts.name)).comp body
      refine (written_eq whole layout).trans ?_
      simp only [contractText, contractOpening, header, Indentation.line_ofStyle, inner,
        if_true, String.append_assoc]
      rfl
  | false =>
      refine (written_eq body layout).trans ?_
      simp only [contractText, contractOpening, header, Indentation.line_ofStyle, inner,
        String.append_assoc]
      rfl

/-! ## Handlers -/

/-- A handler. -/
def handlerText (layout : Layout) (parts : HandlerParts) : String :=
  signature parts.name parts.params ++ " \x7b\n" ++ statementsText (inner layout) parts.body ++
    (inner layout).line (response parts.name) ++ "\x7d\n"

/-- What is written for a handler. -/
theorem written_handler (layout : Layout) (parts : HandlerParts) :
    written layout (writeHandler parts) = handlerText layout parts := by
  have whole := ((adds_writeStatements parts.body).comp
    (Writer.adds_line (response parts.name))).block (signature parts.name parts.params)
  refine (written_eq whole layout).trans ?_
  simp only [handlerText, Indentation.line_ofStyle, inner, String.append_assoc]
  rfl

/-! ## Conditionals -/

/-- A branch up to its closing brace, after the words that open it. -/
def branchText (indentation : Indentation) (opening : String) (branch : Branch) : String :=
  indentation.line (opening ++ expr branch.test ++ " \x7b") ++
    statementsText indentation.deeper branch.body

/-- The last branch up to its closing brace, if there is one. -/
def lastBranchText (indentation : Indentation) : Option (List Value) → String
  | none => ""
  | some body => indentation.line "\x7d else \x7b" ++ statementsText indentation.deeper body

/-- A conditional. -/
def conditionalText (indentation : Indentation) (parts : ConditionalParts) : String :=
  branchText indentation "if " parts.first ++
    String.join (parts.elseIfs.map (branchText indentation "\x7d else if ")) ++
    lastBranchText indentation parts.otherwise ++ indentation.line "\x7d"

theorem adds_writeBranch (opening : String) (branch : Branch) :
    Adds (writeBranch opening branch) (branchText · opening branch) :=
  (Writer.adds_line _).comp (adds_writeStatements branch.body).indented

theorem adds_writeConditional (parts : ConditionalParts) :
    Adds (writeConditional parts) (conditionalText · parts) := by
  obtain ⟨first, elseIfs, otherwise⟩ := parts
  have branches := (adds_writeBranch "if " first).comp
    (Adds.foldl (adds_writeBranch "\x7d else if ") elseIfs)
  cases otherwise with
  | none =>
      simp only [conditionalText, lastBranchText, String.append_empty]
      exact branches.comp (Writer.adds_line "\x7d")
  | some body =>
      have last := (Writer.adds_line "\x7d else \x7b").comp (adds_writeStatements body).indented
      exact (branches.comp last).comp (Writer.adds_line "\x7d")

/-- What is written for a conditional. -/
theorem written_conditional (layout : Layout) (parts : ConditionalParts) :
    written layout (writeConditional parts) =
      conditionalText (.ofStyle layout.indentStyle) parts :=
  written_eq (adds_writeConditional parts) layout

/-! ## Constructs as values -/

theorem textOf_eq {renderer : Renderer} {binding : Binding} {text : String}
    (answer : renderer binding = .ok text) : textOf renderer binding = text := by
  rw [textOf, answer]

section Values

variable (layout : Layout)

theorem value_contract (name : String) (body : List Node) :
    (Node.contract name body).value (render layout) =
      .fragment (contractText layout
        ⟨name, stateDecls body, Node.valuesExcept (render layout) Node.isLeftToUnit body⟩) := by
  rw [Node.value, textOf_eq (render_ofContract ..), written_contract]

theorem value_exec (name : String) (params : List Param) (body : List Node) :
    (Node.exec name params body).value (render layout) =
      .fragment (handlerText layout
        ⟨name, params, Node.valuesExcept (render layout) Node.isContract body⟩) := by
  rw [Node.value, textOf_eq (render_ofHandler ..), written_handler]

theorem value_cond (first : Clause) (elseIfs : List Clause) (otherwise : Option (List Node)) :
    (Node.cond first elseIfs otherwise).value (render layout) =
      .fragment (conditionalText (.ofStyle layout.indentStyle)
        ⟨branchOf (render layout) first, elseIfs.map (branchOf (render layout)),
          otherwise.map (Node.valuesExcept (render layout) Node.isContract)⟩) := by
  obtain ⟨test, body⟩ := first
  rw [Node.value, Clause.slot, slots_eq_map, otherwiseSlot_eq_lastSlot, ← written_conditional]
  exact congrArg Value.fragment
    (textOf_eq (render_ofConditional layout (branchOf (render layout) (.mk test body)) _ _))

theorem value_assign (lhs rhs : Node) :
    (Node.assign lhs rhs).value (render layout) =
      .fragment (assignmentText lhs.isIdent (lhs.value (render layout))
        (expr (rhs.value (render layout)))) := by
  rw [Node.value, textOf_eq (render_ofAssignment ..)]

/-- The text of a unit. -/
theorem contract_text (contract : Contract) :
    contract.text (render layout) =
      contractText layout ⟨contract.name, stateDecls contract.body,
        Node.valuesExcept (render layout) Node.isLeftToUnit contract.body⟩ := by
  rw [Contract.text, Contract.binding, textOf_eq (render_ofContract ..), written_contract]

end Values

end CosmWasm

end ContractCompiler
