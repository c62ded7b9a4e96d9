import ContractCompiler.Proofs.Generation.Definitions
import ContractCompiler.Proofs.Output.Blocks
import ContractCompiler.Proofs.Output.Names
import ContractCompiler.Proofs.Text.Literals

/-!
# Properly nested source

The source of a contract is properly nested if the names, types, operators and literals in it are
tidy and no construct stands where an expression belongs (`Contract.compile_properlyNested`). That
holds in every style of indentation and however deep handlers and conditionals are nested.

An expression is a piece of a line (`CosmWasm.value_neat`). A construct is written from the margin,
as lines that close all blocks that they open, and keeps its form where it is embedded
(`CosmWasm.value_settles`).
-/

namespace ContractCompiler

set_option autoImplicit false

open Text (IsTidy)

/-! ## Tidy trees -/

/-- The names, types, operators and literal texts of a node itself. -/
def Node.ownTexts : Node → List String
  | .contract name _ => [name]
  | .stateItem name type => [name, type.text]
  | .stateMap name keys type =>
      name :: type.text :: keys.flatMap fun key => key.name.toList ++ [key.type.text]
  | .exec name params _ => name :: params.flatMap fun param => [param.name, param.type.text]
  | .member _ name => [name]
  | .ident name => [name]
  | .literal (.int digits) => [digits]
  | .literal (.str text) => [text]
  | .binary op _ _ => [op]
  | _ => []

/-- At and below a node all texts are tidy, and where a single expression belongs there is no
contract, handler, conditional or assignment. -/
structure Node.IsTidy (node : Node) : Prop where
  texts : ∀ inner ∈ node.preorder, ∀ text ∈ inner.ownTexts, Text.IsTidy text
  expressions : ∀ inner ∈ node.preorder, ∀ part ∈ inner.loneChildren, part.frame? = none

namespace Node.IsTidy

variable {node part : Node}

theorem own (tidy : node.IsTidy) {text : String} (listed : text ∈ node.ownTexts) :
    Text.IsTidy text :=
  tidy.texts node node.self_mem_preorder text listed

theorem plain (tidy : node.IsTidy) (lone : part ∈ node.loneChildren) : part.frame? = none :=
  tidy.expressions node node.self_mem_preorder part lone

theorem child (tidy : node.IsTidy) (isChild : part ∈ node.children) : part.IsTidy := by
  have within : ∀ inner ∈ part.preorder, inner ∈ node.preorder := by
    intro inner inPart
    rw [Node.preorder_eq]
    exact List.mem_cons_of_mem _ (List.mem_flatMap.mpr ⟨part, isChild, inPart⟩)
  refine ⟨?_, ?_⟩
  · intro inner inPart
    exact tidy.texts inner (within inner inPart)
  · intro inner inPart
    exact tidy.expressions inner (within inner inPart)

end Node.IsTidy

/-! ## Literals and types -/

namespace Text

theorem hexDigits_isPlain (n : Nat) : (hexDigits n).all isPlain = true := by
  have digit : ∀ value < 16, isPlain (Nat.digitChar value) = true := by decide
  rw [List.all_eq_true]
  intro c listed
  obtain ⟨value, small, rfl⟩ := exists_digit_of_mem listed
  exact digit value small

/-- A quoted character is a piece of a line, also where it is written by its number. -/
theorem quoteCharBy_inline (visible : Char → Bool) {c : Char} (plain : isPlain c = true) :
    Inline (String.ofList (quoteCharBy visible c)) := by
  rcases quoteCharBy_cases visible c with
    ⟨letter, listed, _, written⟩ | ⟨_, _, _, written⟩ | written
  · have letters : escapeLetters.all isPlain = true := by decide
    have plainLetter := List.all_eq_true.mp letters letter listed
    have plainMark : isPlain '\\' = true := rfl
    rw [written]
    exact .of_plain (by simp [plainMark, plainLetter])
  · rw [written]
    exact .of_plain (by simp [plain])
  · have number : Inline (String.ofList (hexDigits c.toNat)) :=
      .of_plain (by rw [String.toList_ofList]; exact hexDigits_isPlain c.toNat)
    have escape : Inline "\\u" := .of_plain rfl
    have same : "\\u" ++ ("\x7b" ++ String.ofList (hexDigits c.toNat) ++ "\x7d") =
        String.ofList (['\\', 'u', '\x7b'] ++ (hexDigits c.toNat ++ ['\x7d'])) := by
      rw [← String.toList_inj]
      simp [String.toList_append]
    rw [written, ← same]
    exact escape.append number.braced

/-- A quoted text is a piece of a line. -/
theorem quotedBy_piece (visible : Char → Bool) {text : String}
    (plain : text.toList.all isPlain = true) : Piece (quotedBy visible text) := by
  have inner : ∀ chars : List Char, chars.all isPlain = true →
      Inline (String.ofList (chars.flatMap (quoteCharBy visible))) := by
    intro chars
    induction chars with
    | nil => exact fun _ => .empty
    | cons c rest ih =>
        intro allPlain
        rw [List.all_cons, Bool.and_eq_true] at allPlain
        rw [List.flatMap_cons, String.ofList_append]
        exact (quoteCharBy_inline visible allPlain.1).append (ih allPlain.2)
  have mark : Piece "\"" := .of_tidy (by decide)
  have same : "\"" ++ String.ofList (text.toList.flatMap (quoteCharBy visible)) ++ "\"" =
      quotedBy visible text := by
    rw [← String.toList_inj, quotedBy]
    simp [String.toList_append]
  rw [← same]
  exact (mark.append (inner _ plain)).append mark.toInline

end Text

theorem Literal.spelling_piece {value : Literal}
    (tidy : ∀ text ∈ (Node.literal value).ownTexts, IsTidy text) : Piece value.spelling := by
  cases value with
  | int digits => exact .of_tidy (tidy digits List.mem_cons_self)
  | str text => exact Text.quotedBy_piece _ (tidy text List.mem_cons_self).plain
  | bool value => cases value <;> exact .of_tidy (by decide)

theorem TypeExpr.base_inline {type : TypeExpr} (tidy : IsTidy type.text) : Inline type.base := by
  refine .of_plain (List.all_eq_true.mpr ?_)
  intro c listed
  rw [TypeExpr.base, String.toList_ofList, List.mem_reverse] at listed
  have inType := List.mem_reverse.mp ((List.dropWhile_sublist _).mem listed)
  exact List.all_eq_true.mp tidy.plain c inType

namespace CosmWasm

theorem hostType_inline {type : TypeExpr} (tidy : IsTidy type.text) : Inline (hostType type) := by
  unfold hostType
  split
  · have opening : Inline "Option<" := .of_plain rfl
    exact (opening.append (TypeExpr.base_inline tidy)).append (.of_plain rfl)
  · exact TypeExpr.base_inline tidy

/-! ## Expressions as pieces of a line -/

/-- A value that is written as a piece of a line, with each key of a map. -/
inductive Neat : Value → Prop
  | item {key : String} (tidy : IsTidy key) : Neat (.item key)
  | map {base : String} {keys : List Value} (tidy : IsTidy base)
      (pieces : ∀ key ∈ keys, Piece (expr key)) : Neat (.map base keys)
  | fragment {text : String} (piece : Piece text) : Neat (.fragment text)
  | lookup {base key : Value} (piece : Piece (expr (.lookup base key))) : Neat (.lookup base key)
  | member {base : Value} {name : String} (piece : Piece (expr (.member base name))) :
      Neat (.member base name)
  | binary {op : String} {lhs rhs : Value} (piece : Piece (expr (.binary op lhs rhs))) :
      Neat (.binary op lhs rhs)

theorem furtherKeys_inline {keys : List Value} (pieces : ∀ key ∈ keys, Piece (expr key)) :
    Inline (furtherKeys keys) := by
  induction keys with
  | nil =>
      rw [furtherKeys]
      exact .empty
  | cons key rest ih =>
      have comma : Inline ", &" := .of_plain rfl
      rw [furtherKeys]
      exact (comma.append (pieces key List.mem_cons_self).toInline).append
        (ih fun other listed => pieces other (List.mem_cons_of_mem key listed))

theorem mapKey_inline {keys : List Value} (pieces : ∀ key ∈ keys, Piece (expr key)) :
    Inline (mapKey keys) := by
  cases keys with
  | nil =>
      rw [mapKey]
      exact .of_plain rfl
  | cons first rest =>
      have firstInline := (pieces first List.mem_cons_self).toInline
      cases rest with
      | nil =>
          have borrow : Inline "&" := .of_plain rfl
          rw [mapKey]
          exact borrow.append firstInline
      | cons next rest =>
          have opening : Inline "(&" := .of_plain rfl
          have further := furtherKeys_inline fun key listed =>
            pieces key (List.mem_cons_of_mem first listed)
          rw [mapKey]
          exact ((opening.append firstInline).append further).append (.of_plain rfl)

namespace Neat

variable {value second : Value}

theorem expr (neat : Neat value) : Piece (CosmWasm.expr value) := by
  cases neat with
  | item tidy =>
      rw [CosmWasm.expr, loadItem]
      exact (Piece.of_tidy tidy.screamingCase).append (.of_plain rfl)
  | map tidy pieces =>
      rw [CosmWasm.expr]
      exact (((Piece.of_tidy tidy.screamingCase).append (.of_plain rfl)).append
        (mapKey_inline pieces)).append (.of_plain rfl)
  | fragment piece =>
      rw [CosmWasm.expr]
      exact piece
  | lookup piece => exact piece
  | member piece => exact piece
  | binary piece => exact piece

theorem parenthesized (neat : Neat value) :
    Piece (CosmWasm.parenthesized value (CosmWasm.expr value)) := by
  have piece := neat.expr
  cases neat with
  | binary =>
      have opening : Piece "(" := .of_tidy (by decide)
      exact (opening.append piece.toInline).append (.of_plain rfl)
  | item | map | fragment | lookup | member => exact piece

theorem operation {op : String} (tidy : IsTidy op) (lhs : Neat value) (rhs : Neat second) :
    Neat (.binary op value second) := by
  have space : Inline " " := .of_plain rfl
  refine .binary ?_
  rw [CosmWasm.expr]
  exact (((lhs.parenthesized.append space).append (.of_tidy tidy)).append space).append
    rhs.parenthesized.toInline

theorem index (base : Neat value) (key : Neat second) : Neat (value.index second) := by
  have written : Piece (CosmWasm.expr (.lookup value second)) := by
    rw [CosmWasm.expr]
    exact ((base.expr.append (.of_plain rfl)).append key.expr.toInline).append
      (.of_plain rfl)
  cases base with
  | item tidy => exact .map tidy fun other listed => List.mem_singleton.mp listed ▸ key.expr
  | map tidy pieces =>
      refine .map tidy fun other listed => ?_
      rcases List.mem_append.mp listed with earlier | last
      · exact pieces other earlier
      · exact List.mem_singleton.mp last ▸ key.expr
  | fragment | lookup | member | binary => exact .lookup written

theorem memberOf (base : Neat value) {name : String} (tidy : IsTidy name) :
    Neat (value.memberOf name) := by
  have dot : Inline "." := .of_plain rfl
  have written : Piece (CosmWasm.expr (.member value name)) := by
    rw [CosmWasm.expr]
    exact (base.expr.append dot).append (.of_tidy tidy)
  cases base with
  | fragment piece =>
      unfold Value.memberOf
      simp only
      split
      · exact .item tidy
      split
      · have info : Piece messageInfo := .of_tidy (by decide)
        exact .fragment ((info.append dot).append (.of_tidy tidy))
      · exact .fragment ((piece.append dot).append (.of_tidy tidy))
  | item | map | lookup | member | binary => exact .member written

end Neat

/-- What stands for a node that has no lowering. -/
theorem placeholder_neat {node : Node} (described : Inline node.describe) :
    Neat (placeholder node) := by
  have mark : Piece "// Omitted: " := .of_tidy (by decide)
  exact .fragment (mark.append described)

/-- The label of a call, whose function may be a plain name. -/
theorem describe_call_inline {func : Node} (tidy : func.IsTidy) (args : List Node) :
    Inline (Node.call func args).describe := by
  have plain : Inline Kind.call.name := .of_plain rfl
  cases func with
  | ident name =>
      have label : Inline "fn-call " := .of_plain rfl
      exact label.append (.of_tidy (tidy.own List.mem_cons_self))
  | contract | stateItem | stateMap | exec | cond | assign | lookup | member | literal | binary
  | call | emit | ret => exact plain

/-- **An expression is written as a piece of a line.** -/
theorem value_neat (layout : Layout) (node : Node) (tidy : node.IsTidy)
    (plain : node.frame? = none) : Neat (node.value (render layout)) := by
  -- Its operands are expressions as well.
  have operands : ∀ part ∈ node.children, part ∈ node.loneChildren →
      Neat (part.value (render layout)) := fun part isChild lone =>
    value_neat layout part (tidy.child isChild) (tidy.plain lone)
  cases node with
  | contract | exec | cond | assign => cases plain
  | lookup item key =>
      have base := operands item (by simp [Node.children]) (by simp [Node.loneChildren])
      have index := operands key (by simp [Node.children]) (by simp [Node.loneChildren])
      rw [Node.value]
      exact base.index index
  | member item name =>
      have base := operands item (by simp [Node.children]) (by simp [Node.loneChildren])
      rw [Node.value]
      exact base.memberOf (tidy.own List.mem_cons_self)
  | binary op lhs rhs =>
      have left := operands lhs (by simp [Node.children]) (by simp [Node.loneChildren])
      have right := operands rhs (by simp [Node.children]) (by simp [Node.loneChildren])
      rw [Node.value]
      exact .operation (tidy.own List.mem_cons_self) left right
  | ident name =>
      rw [Node.value]
      exact .fragment (.of_tidy (tidy.own List.mem_cons_self))
  | literal value =>
      rw [Node.value]
      exact .fragment (Literal.spelling_piece fun text listed => tidy.own listed)
  | stateItem name type =>
      have label : Inline "state-item " := .of_plain rfl
      rw [Node.value]
      exact placeholder_neat (label.append (.of_tidy (tidy.own List.mem_cons_self)))
  | stateMap name keys type =>
      have label : Inline "state-map " := .of_plain rfl
      rw [Node.value]
      exact placeholder_neat (label.append (.of_tidy (tidy.own List.mem_cons_self)))
  | call func args =>
      rw [Node.value]
      exact placeholder_neat (describe_call_inline (tidy.child List.mem_cons_self) args)
  | emit expr =>
      have label : Inline Kind.emit.name := .of_plain rfl
      rw [Node.value]
      exact placeholder_neat label
  | ret expr =>
      have label : Inline Kind.ret.name := .of_plain rfl
      rw [Node.value]
      exact placeholder_neat label
termination_by sizeOf node
decreasing_by exact Node.sizeOf_child_lt isChild

/-! ## Statements -/

/-- A value that is written as nested lines wherever it is a statement. -/
def Settles (unit : String) (value : Value) : Prop :=
  ∀ depth, Nests unit depth (statementText ⟨unit, depth⟩ value) depth

/-- A piece is embedded as a line. -/
theorem embedded_piece (indentation : Indentation) {text : String} (piece : Piece text) :
    indentation.embedded text = indentation.line text := by
  have begun : ([] : List Char).reverse ++ text.toList ≠ [] := by
    obtain ⟨c, rest, split, _⟩ := piece.begins
    rw [split]
    exact List.cons_ne_nil _ _
  rw [Indentation.embedded_eq_linesText, Text.linesFrom_last piece.unbroken begun]
  simp [Indentation.linesText]

theorem Neat.settles {value : Value} (neat : Neat value) (unit : String) : Settles unit value := by
  intro depth
  have ended := neat.expr.append (.of_plain (rfl : ";".toList.all Text.isPlain = true))
  cases neat with
  | fragment piece =>
      rw [statementText, embedded_piece _ piece]
      exact .piece piece depth
  | item | map | lookup | member | binary => exact .piece ended depth

section Constructs

variable {style : IndentStyle}

theorem Settles.of_nests {text : String} (nests : Nests style.unit 0 text 0) :
    Settles style.unit (.fragment text) := by
  intro depth
  have embedded := nests.embedded style.unit_isMargin depth
  rwa [Nat.zero_add] at embedded

theorem statementsText_nests {values : List Value}
    (settle : ∀ value ∈ values, Settles style.unit value) (depth : Nat) :
    Nests style.unit depth (statementsText ⟨style.unit, depth⟩ values) depth := by
  apply Nests.join
  intro value listed
  exact settle value listed depth

theorem itemsText_nests {items : List Value} (settle : ∀ item ∈ items, Settles style.unit item)
    (depth : Nat) : Nests style.unit depth (itemsText ⟨style.unit, depth⟩ items) depth := by
  apply Nests.join
  intro item listed
  exact .blank (settle item listed depth)

/-! ## Constructs -/

/-- A piece at the margin. -/
theorem margin_nests {content : String} (piece : Piece content) :
    Nests style.unit 0 (content ++ "\n") 0 := by
  have nests : Nests style.unit 0 ((Indentation.ofStyle style).line content) 0 := .piece piece 0
  rwa [Indentation.line_ofStyle] at nests

/-- A piece at the margin that a block is opened after. -/
theorem header_nests {content : String} (piece : Piece content) :
    Nests style.unit 0 (content ++ " \x7b\n") 1 := by
  have nests : Nests style.unit 0 ((Indentation.ofStyle style).line (content ++ " \x7b")) 1 :=
    .opening piece 0
  rwa [Indentation.line_ofStyle, String.append_assoc] at nests

/-- The brace at the margin. -/
theorem footer_nests : Nests style.unit 1 "\x7d\n" 0 := by
  have nests : Nests style.unit 1 ((Indentation.ofStyle style).line "\x7d") 0 := .closing 0
  rwa [Indentation.line_ofStyle] at nests

theorem assignmentText_nests (introduces : Bool) {lhs rhs : Value} (target : Neat lhs)
    (assigned : Neat rhs) :
    Nests style.unit 0 (assignmentText introduces lhs (expr rhs)) 0 := by
  have value := assigned.expr.toInline
  have ending : Inline ")?;" := .of_plain rfl
  have plainly : Nests style.unit 0
      ((if introduces then "let " else "") ++ expr lhs ++ " = " ++ expr rhs ++ ";\n") 0 := by
    have sign : Inline " = " := .of_plain rfl
    have stop : Inline ";" := .of_plain rfl
    have opening : Piece ((if introduces then "let " else "") ++ expr lhs) := by
      cases introduces with
      | true =>
          have word : Piece "let " := .of_tidy (by decide)
          exact word.append target.expr.toInline
      | false =>
          rw [if_neg Bool.false_ne_true, String.empty_append]
          exact target.expr
    have nests : Nests style.unit 0 _ 0 :=
      margin_nests (((opening.append sign).append value).append stop)
    rwa [String.append_assoc] at nests
  cases target with
  | item tidy =>
      have save : Inline ".save(deps.storage, &" := .of_plain rfl
      have name := Piece.of_tidy tidy.screamingCase
      have nests : Nests style.unit 0 _ 0 :=
        margin_nests (((name.append save).append value).append ending)
      rwa [String.append_assoc] at nests
  | map tidy pieces =>
      have save : Inline ".save(deps.storage, " := .of_plain rfl
      have borrow : Inline ", &" := .of_plain rfl
      have name := Piece.of_tidy tidy.screamingCase
      have nests : Nests style.unit 0 _ 0 :=
        margin_nests (((((name.append save).append (mapKey_inline pieces)).append borrow).append
          value).append ending)
      rwa [String.append_assoc] at nests
  | fragment | lookup | member | binary => exact plainly

theorem signature_piece {name : String} {params : List Param} (tidy : IsTidy name)
    (tidyParams : ∀ param ∈ params, IsTidy param.name ∧ IsTidy param.type.text) :
    Piece (signature name params) := by
  have opening : Piece "pub fn exec_" := .of_tidy (by decide)
  have paren : Inline "(" := .of_plain rfl
  have result : Inline ") -> Result<Response, ContractError>" := .of_plain rfl
  have comma : Inline ", " := .of_plain rfl
  have colon : Inline ": " := .of_plain rfl
  have hostTidy : ∀ param ∈ hostParams, IsTidy param.name ∧ IsTidy param.type.text := by decide
  have parameters : Inline (", ".intercalate ((hostParams ++ params).map parameter)) := by
    apply comma.intercalate
    intro text listed
    obtain ⟨param, isParam, rfl⟩ := List.mem_map.mp listed
    have tidyParam : IsTidy param.name ∧ IsTidy param.type.text :=
      (List.mem_append.mp isParam).elim (hostTidy param) (tidyParams param)
    exact ((Inline.of_tidy tidyParam.1).append colon).append (hostType_inline tidyParam.2)
  exact (((opening.append (.of_tidy tidy.snakeCase)).append paren).append parameters).append result

theorem response_piece {name : String} (tidy : IsTidy name) : Piece (response name) := by
  have opening : Piece "Ok(Response::new().add_attribute(\"action\", \"" := .of_tidy (by decide)
  have ending : Inline "\"))" := .of_plain rfl
  exact (opening.append (.of_tidy tidy)).append ending

/-- A handler closes the block of its statements. -/
theorem handlerText_nests (header : Bool) {name : String} {params : List Param} {body : List Value}
    (tidy : IsTidy name)
    (tidyParams : ∀ param ∈ params, IsTidy param.name ∧ IsTidy param.type.text)
    (settle : ∀ value ∈ body, Settles style.unit value) :
    Nests style.unit 0 (handlerText ⟨style, header⟩ ⟨name, params, body⟩) 0 := by
  have head : Nests style.unit 0 _ 1 := header_nests (signature_piece tidy tidyParams)
  have statements := statementsText_nests settle 1
  have answer : Nests style.unit 1 ((inner ⟨style, header⟩).line (response name)) 1 :=
    .piece (response_piece tidy) 1
  exact ((head.append statements).append answer).append footer_nests

/-- A branch whose condition is a piece of a line and whose statements settle. -/
structure FitBranch (unit : String) (branch : Branch) : Prop where
  test : Neat branch.test
  body : ∀ value ∈ branch.body, Settles unit value

/-- **A conditional closes the block of its last branch**; every other branch is closed where the
next one is opened. -/
theorem conditionalText_nests {first : Branch} {elseIfs : List Branch}
    {otherwise : Option (List Value)} (fits : FitBranch style.unit first)
    (elseIfsFit : ∀ branch ∈ elseIfs, FitBranch style.unit branch)
    (otherwiseFits : ∀ body, otherwise = some body → ∀ value ∈ body, Settles style.unit value) :
    Nests style.unit 0 (conditionalText (.ofStyle style) ⟨first, elseIfs, otherwise⟩) 0 := by
  have opening : Nests style.unit 0 (branchText (.ofStyle style) "if " first) 1 := by
    have word : Piece "if " := .of_tidy (by decide)
    have head : Nests style.unit 0 _ 1 := .opening (word.append fits.test.expr.toInline) 0
    exact head.append (statementsText_nests fits.body 1)
  have further : Nests style.unit 1
      (String.join (elseIfs.map (branchText (.ofStyle style) "\x7d else if "))) 1 := by
    apply Nests.join
    intro branch listed
    have fit := elseIfsFit branch listed
    have words : Inline " else if " := .of_plain rfl
    have head : Nests style.unit 1 _ 1 := .reopening (words.append fit.test.expr.toInline) 0
    rw [← String.append_assoc] at head
    exact head.append (statementsText_nests fit.body 1)
  have last : Nests style.unit 1 (lastBranchText (.ofStyle style) otherwise) 1 := by
    cases otherwise with
    | none => exact .done 1
    | some body =>
        have word : Inline " else" := .of_plain rfl
        have head : Nests style.unit 1 _ 1 := .reopening word 0
        exact head.append (statementsText_nests (otherwiseFits body rfl) 1)
  have closing : Nests style.unit 1 ((Indentation.ofStyle style).line "\x7d") 0 := .closing 0
  exact ((opening.append further).append last).append closing

theorem keyType_inline {keys : List TypeExpr} (tidy : ∀ key ∈ keys, IsTidy key.text) :
    Inline (keyType keys) := by
  have borrow : Inline "&" := .of_plain rfl
  unfold keyType
  split
  · next single => exact borrow.append (hostType_inline (tidy single List.mem_cons_self))
  · have opening : Inline "(" := .of_plain rfl
    have comma : Inline ", " := .of_plain rfl
    have types : Inline (", ".intercalate (keys.map fun key => "&" ++ hostType key)) := by
      apply comma.intercalate
      intro text listed
      obtain ⟨key, isKey, rfl⟩ := List.mem_map.mp listed
      exact borrow.append (hostType_inline (tidy key isKey))
    exact (opening.append types).append (.of_plain rfl)

theorem stateConst_piece {decl : StateDecl} (name : IsTidy decl.name)
    (keys : ∀ key ∈ decl.keys, IsTidy key.text) (type : IsTidy decl.type.text) :
    Piece (stateConst decl) := by
  have opening : Piece "pub const " := .of_tidy (by decide)
  have constant := opening.append (.of_tidy name.screamingCase)
  have ending : Inline "\");" := .of_plain rfl
  unfold stateConst
  split
  · have map : Inline ": Map<" := .of_plain rfl
    have comma : Inline ", " := .of_plain rfl
    have new : Inline "> = Map::new(\"" := .of_plain rfl
    exact ((((((constant.append map).append (keyType_inline keys)).append comma).append
      (hostType_inline type)).append new).append (.of_tidy name)).append ending
  · have item : Inline ": Item<" := .of_plain rfl
    have new : Inline "> = Item::new(\"" := .of_plain rfl
    exact ((((constant.append item).append (hostType_inline type)).append new).append
      (.of_tidy name)).append ending

theorem importsText_nests (depth : Nat) :
    Nests style.unit depth (importsText ⟨style.unit, depth⟩) depth := by
  have standard : Piece "use cosmwasm_std::*;" := .of_tidy (by decide)
  have storage : Piece "use cw_storage_plus::\x7bItem, Map\x7d;" := by
    have opening : Piece "use cw_storage_plus::" := .of_tidy (by decide)
    have names : Inline "Item, Map" := .of_plain rfl
    have stop : Inline ";" := .of_plain rfl
    exact (opening.append names.braced).append stop
  have error : Piece "use crate::error::ContractError;" := .of_tidy (by decide)
  exact (((Nests.piece standard depth).append (.piece storage depth)).append
    (.emptyLine depth)).append (.piece error depth)

theorem declsText_nests {decls : List StateDecl} (pieces : ∀ decl ∈ decls, Piece (stateConst decl))
    (depth : Nat) : Nests style.unit depth (declsText ⟨style.unit, depth⟩ decls) depth := by
  unfold declsText
  split
  · exact .done depth
  · refine .blank (Nests.join ?_)
    intro decl listed
    exact .piece (pieces decl listed) depth

/-- A contract closes the block of its module. -/
theorem contractText_nests (header : Bool) {name : String} {decls : List StateDecl}
    {items : List Value} (tidy : IsTidy name) (pieces : ∀ decl ∈ decls, Piece (stateConst decl))
    (settle : ∀ item ∈ items, Settles style.unit item) :
    Nests style.unit 0 (contractText ⟨style, header⟩ ⟨name, decls, items⟩) 0 := by
  have note : Nests style.unit 0 (if header then headerNote name ++ "\n" else "") 0 := by
    cases header with
    | true =>
        have opening : Piece "// Generated by cwscript from contract `" := .of_tidy (by decide)
        have ending : Inline "`. Do not edit." := .of_plain rfl
        exact margin_nests ((opening.append (.of_tidy tidy)).append ending)
    | false => exact .done 0
  have module : Piece "pub mod " := .of_tidy (by decide)
  have head : Nests style.unit 0 ("pub mod " ++ Text.snakeCase name ++ " \x7b\n") 1 :=
    header_nests (module.append (.of_tidy tidy.snakeCase))
  have opening := (note.append head).append (importsText_nests 1)
  exact ((opening.append (declsText_nests pieces 1)).append (itemsText_nests settle 1)).append
    footer_nests

end Constructs

/-! ## Nodes -/

/-- What holds of the values of nodes holds of those that are not skipped. -/
theorem forall_valuesExcept {renderer : Renderer} {skip : Node → Bool} {nodes : List Node}
    {property : Value → Prop} (each : ∀ node ∈ nodes, property (node.value renderer)) :
    ∀ value ∈ Node.valuesExcept renderer skip nodes, property value := by
  intro value listed
  rw [Node.valuesExcept_eq_map] at listed
  obtain ⟨node, kept, rfl⟩ := List.mem_map.mp listed
  exact each node (List.mem_filter.mp kept).1

theorem stateDecl?_piece {node : Node} (tidy : node.IsTidy) {decl : StateDecl}
    (declares : node.stateDecl? = some decl) : Piece (stateConst decl) := by
  cases node with
  | stateItem name type =>
      cases declares
      refine stateConst_piece (tidy.own (by simp [Node.ownTexts])) ?_
        (tidy.own (by simp [Node.ownTexts]))
      intro key listed
      cases listed
  | stateMap name keys type =>
      cases declares
      refine stateConst_piece (tidy.own (by simp [Node.ownTexts])) ?_
        (tidy.own (by simp [Node.ownTexts]))
      intro key listed
      obtain ⟨mapKey, isKey, rfl⟩ := List.mem_map.mp listed
      refine tidy.own ?_
      simp only [Node.ownTexts, List.mem_cons, List.mem_flatMap]
      exact .inr (.inr ⟨mapKey, isKey, by simp⟩)
  | contract | exec | cond | assign | lookup | member | ident | literal | binary | call | emit
  | ret => cases declares

/-- A contract whose items settle is written as nested lines. -/
theorem contract_nests {style : IndentStyle} {header : Bool} {name : String} {body : List Node}
    (tidy : (Node.contract name body).IsTidy)
    (settle : ∀ item ∈ body, Settles style.unit (item.value (render ⟨style, header⟩))) :
    Nests style.unit 0 (contractText ⟨style, header⟩ ⟨name, stateDecls body,
      Node.valuesExcept (render ⟨style, header⟩) Node.isLeftToUnit body⟩) 0 := by
  refine contractText_nests header (tidy.own List.mem_cons_self) ?_ (forall_valuesExcept settle)
  intro decl listed
  obtain ⟨item, isItem, declares⟩ := List.mem_filterMap.mp listed
  exact stateDecl?_piece (tidy.child isItem) declares

/-- **A node is written as nested lines wherever it is a statement.** -/
theorem value_settles (layout : Layout) (node : Node) (tidy : node.IsTidy) :
    Settles layout.indentStyle.unit (node.value (render layout)) := by
  have below : ∀ part ∈ node.children,
      Settles layout.indentStyle.unit (part.value (render layout)) := fun part isChild =>
    value_settles layout part (tidy.child isChild)
  obtain ⟨style, header⟩ := layout
  cases node with
  | contract name body =>
      rw [value_contract]
      exact .of_nests (contract_nests tidy below)
  | exec name params body =>
      rw [value_exec]
      refine .of_nests (handlerText_nests header (tidy.own List.mem_cons_self) ?_
        (forall_valuesExcept below))
      intro param listed
      have own : ∀ text ∈ [param.name, param.type.text], IsTidy text := by
        intro text isText
        refine tidy.own (List.mem_cons_of_mem name ?_)
        exact List.mem_flatMap.mpr ⟨param, listed, isText⟩
      exact ⟨own _ (by simp), own _ (by simp)⟩
  | cond first elseIfs otherwise =>
      have fits : ∀ clause ∈ first :: elseIfs,
          FitBranch style.unit (branchOf (render ⟨style, header⟩) clause) := by
        intro clause listed
        have inClause : ∀ part ∈ clause.children,
            part ∈ (Node.cond first elseIfs otherwise).children := by
          intro part isPart
          exact List.mem_append_left _ (List.mem_flatMap.mpr ⟨clause, listed, isPart⟩)
        refine ⟨?_, forall_valuesExcept ?_⟩
        · refine value_neat ⟨style, header⟩ clause.test
            (tidy.child (inClause _ List.mem_cons_self)) (tidy.plain ?_)
          exact List.mem_map_of_mem listed
        · intro part isPart
          exact below part (inClause part (List.mem_cons_of_mem _ isPart))
      rw [value_cond]
      refine .of_nests (conditionalText_nests (fits first List.mem_cons_self) ?_ ?_)
      · intro branch listed
        obtain ⟨clause, isClause, rfl⟩ := List.mem_map.mp listed
        exact fits clause (List.mem_cons_of_mem first isClause)
      · intro body isBody
        obtain ⟨nodes, rfl, rfl⟩ := Option.map_eq_some_iff.mp isBody
        refine forall_valuesExcept fun part isPart => below part ?_
        exact List.mem_append_right _ isPart
  | assign lhs rhs =>
      have target := value_neat ⟨style, header⟩ lhs (tidy.child (by simp [Node.children]))
        (tidy.plain (by simp [Node.loneChildren]))
      have assigned := value_neat ⟨style, header⟩ rhs (tidy.child (by simp [Node.children]))
        (tidy.plain (by simp [Node.loneChildren]))
      rw [value_assign]
      exact .of_nests (assignmentText_nests lhs.isIdent target assigned)
  | stateItem | stateMap | lookup | member | ident | literal | binary | call | emit | ret =>
      exact (value_neat ⟨style, header⟩ _ tidy rfl).settles style.unit
termination_by sizeOf node
decreasing_by exact Node.sizeOf_child_lt isChild

end CosmWasm

/-- **Source is properly nested.** If the texts of a contract are tidy and no construct stands where
an expression belongs, then the source that the contract is compiled to opens every block before it
closes it, closes all of them, and indents every line by the blocks that are open before it. -/
theorem Contract.compile_properlyNested (contract : Contract) (layout : Layout)
    (fallback : Fallback) (tidy : contract.node.IsTidy) {text : String}
    (compiled : (contract.compile (CosmWasm.render layout) fallback).outcome = .ok text) :
    ProperlyNested layout.indentStyle text := by
  rw [contract.text_of_compile compiled, CosmWasm.contract_text]
  apply Nests.properlyNested
  apply CosmWasm.contract_nests tidy
  intro item isItem
  exact CosmWasm.value_settles layout item (tidy.child isItem)

/-- A contract with a conditional in a conditional, and with a text that is written by numbers. -/
def guardedLimit : Contract where
  name := "Guarded"
  body :=
    [.stateMap "limits" [⟨some "owner", ⟨"Addr"⟩⟩] ⟨"u64?"⟩,
      .exec "setLimit" [⟨"limit", ⟨"u64"⟩⟩]
        [.cond
          (.mk (.binary "==" (.message "sender") (.literal (.str "\u200b")))
            [.cond (.mk (.ident "paused") []) [] (some [.call (.ident "log") []])])
          [.mk (.literal (.bool true))
            [.assign (.lookup (.state "limits") (.message "sender")) (.ident "limit")]]
          (some [.ret none])]]

/-- The contract is compiled to source that is properly nested. -/
theorem guardedLimit_properlyNested :
    guardedLimit.node.IsTidy ∧
    ∃ text, (guardedLimit.compile (CosmWasm.render ⟨.tabs, true⟩) .permissive).outcome = .ok text ∧
      ProperlyNested .tabs text := by
  have tidy : guardedLimit.node.IsTidy := by
    constructor <;>
      simp only [guardedLimit, Contract.node, Node.message, Node.state, Node.preorder_eq,
        Node.children, Clause.children, Clause.test, Clause.body, Node.ownTexts, Node.loneChildren,
        List.flatMap_cons, List.flatMap_nil, List.append_nil, List.cons_append, List.nil_append,
        List.map_cons, List.map_nil, Option.getD_some, List.forall_mem_cons] <;>
      decide
  have succeeds :
      (guardedLimit.compile (CosmWasm.render ⟨.tabs, true⟩) .permissive).outcome.isOk = true := by
    decide +kernel
  cases compiled : (guardedLimit.compile (CosmWasm.render ⟨.tabs, true⟩) .permissive).outcome with
  | error fault =>
      rw [compiled] at succeeds
      cases succeeds
  | ok text =>
      exact ⟨tidy, text, rfl,
        guardedLimit.compile_properlyNested ⟨.tabs, true⟩ .permissive tidy compiled⟩

end ContractCompiler
