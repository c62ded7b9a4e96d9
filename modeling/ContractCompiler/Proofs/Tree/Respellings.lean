import ContractCompiler.Proofs.Json.FormReaders
import ContractCompiler.Proofs.Tree.RoundTrip

/-!
# Other spellings of a program

A program is written in one notation and read in many. The fields of its objects may come in any
order, the content of a node before its kind included; fields with unknown names may stand among
them; records and nodes may be arrays; fields that have their default may be left out; and there may
be blanks between all tokens. `Program.Respells` puts these together, each choice made on its own at
each place.

The form of a node is written as the node is (`Node.form_written`), and the reader of nodes finds
the node in every spelling of its form (`Node.findsAll`). So every spelling of a program whose
notation is nested at most 127 levels deep is read as that program (`Program.parse_respelled`).
-/

namespace ContractCompiler

set_option autoImplicit false

open Json

/-! ## The forms of nodes -/

/-- The form of a parameter. -/
def Param.form (param : Param) : Form :=
  .record [⟨"name", .text param.name, false⟩, ⟨"ty", .text param.type.text, false⟩]

/-- The form of a name that may be missing. -/
def nameForm : Option String → Form
  | none => .null
  | some name => .text name

/-- The form of a map key, whose name may be left out if it has none. -/
def MapKey.form (key : MapKey) : Form :=
  .record [⟨"name", nameForm key.name, key.name.isNone⟩, ⟨"ty", .text key.type.text, false⟩]

/-- The form of a literal. -/
def Literal.form : Literal → Form
  | .int digits => .choice "int" (.text digits)
  | .str text => .choice "str" (.text text)
  | .bool value => .choice "bool" (.flag value)

/-- The form of a node of the given kind with its content. -/
def Kind.form (kind : Kind) (content : Form) : Form :=
  .tagged "kind" "node" kind.name content

mutual

/-- The form of a node. A list of nodes, parameters or clauses may be left out if it is empty, and
so may a missing `else` and a missing result. -/
def Node.form : Node → Form
  | .contract name body =>
      Kind.contract.form (.record [⟨"name", .text name, false⟩,
        ⟨"body", .list (Node.forms body), body.isEmpty⟩])
  | .stateItem name type =>
      Kind.stateItem.form (.record [⟨"name", .text name, false⟩, ⟨"ty", .text type.text, false⟩])
  | .stateMap name keys type =>
      Kind.stateMap.form (.record [⟨"name", .text name, false⟩,
        ⟨"keys", .list (keys.map MapKey.form), false⟩, ⟨"ty", .text type.text, false⟩])
  | .exec name params body =>
      Kind.exec.form (.record [⟨"name", .text name, false⟩,
        ⟨"args", .list (params.map Param.form), params.isEmpty⟩,
        ⟨"body", .list (Node.forms body), body.isEmpty⟩])
  | .cond first elseIfs otherwise =>
      Kind.cond.form (.record [⟨"if_clause", first.form, false⟩,
        ⟨"else_if_clauses", .list (Clause.forms elseIfs), elseIfs.isEmpty⟩,
        ⟨"else_body",
          match otherwise with
          | some body => .list (Node.forms body)
          | none => .null, otherwise.isNone⟩])
  | .assign lhs rhs =>
      Kind.assign.form (.record [⟨"lhs", lhs.form, false⟩, ⟨"rhs", rhs.form, false⟩])
  | .lookup item key =>
      Kind.lookup.form (.record [⟨"item", item.form, false⟩, ⟨"key", key.form, false⟩])
  | .member item name =>
      Kind.member.form (.record [⟨"item", item.form, false⟩, ⟨"member", .text name, false⟩])
  | .ident name => Kind.ident.form (.text name)
  | .literal value => Kind.literal.form value.form
  | .binary op lhs rhs =>
      Kind.binary.form (.record [⟨"op", .text op, false⟩, ⟨"lhs", lhs.form, false⟩,
        ⟨"rhs", rhs.form, false⟩])
  | .call func args =>
      Kind.call.form (.record [⟨"func", func.form, false⟩,
        ⟨"args", .list (Node.forms args), args.isEmpty⟩])
  | .emit expr => Kind.emit.form (.record [⟨"expr", expr.form, false⟩])
  | .ret (some expr) => Kind.ret.form (.record [⟨"expr", expr.form, false⟩])
  | .ret none => Kind.ret.form (.record [⟨"expr", .null, true⟩])

/-- The form of each node of a list. -/
def Node.forms : List Node → List Form
  | [] => []
  | node :: rest => node.form :: Node.forms rest

/-- The form of a clause. -/
def Clause.form : Clause → Form
  | .mk test body =>
      .record [⟨"cond", test.form, false⟩, ⟨"body", .list (Node.forms body), body.isEmpty⟩]

/-- The form of each clause of a list. -/
def Clause.forms : List Clause → List Form
  | [] => []
  | clause :: rest => clause.form :: Clause.forms rest

end

/-- The form of a program. -/
def Program.form (program : Program) : Form :=
  .record [⟨"items", .list (Node.forms program.items), false⟩]

/-- The text is a spelling of the program: of its notation or of any other way to put it, with any
blanks between the tokens. -/
def Program.Respells (program : Program) (text : String) : Prop :=
  ∃ json, program.form.Spelled json ∧ Spells text.toList (tokensThen json [])

/-! ## The notation is one of the spellings -/

theorem MapKey.form_written (key : MapKey) : key.form.written = key.toJson := by
  obtain ⟨name, type⟩ := key
  cases name <;> rfl

theorem Literal.form_written (literal : Literal) : literal.form.written = literal.toJson := by
  cases literal <;> rfl

@[simp] theorem Kind.form_written (kind : Kind) (content : Form) :
    (kind.form content).written = tagged kind content.written :=
  rfl

mutual

/-- **The form of a node is written as the node is.** -/
theorem Node.form_written : ∀ node : Node, node.form.written = node.toJson
  | .ident name => by simp [Node.form, Node.toJson]
  | .literal value => by simp [Node.form, Node.toJson, value.form_written]
  | .stateItem name type => by simp [Node.form, Node.toJson]
  | .stateMap name keys type => by
      have written : (keys.map MapKey.form).map Form.written = keys.map MapKey.toJson := by
        rw [List.map_map]
        exact List.map_congr_left fun key _ => key.form_written
      simp [Node.form, Node.toJson, written]
  | .member item name => by simp [Node.form, Node.toJson, item.form_written]
  | .lookup item key => by simp [Node.form, Node.toJson, item.form_written, key.form_written]
  | .binary op lhs rhs => by simp [Node.form, Node.toJson, lhs.form_written, rhs.form_written]
  | .assign lhs rhs => by simp [Node.form, Node.toJson, lhs.form_written, rhs.form_written]
  | .contract name body => by simp [Node.form, Node.toJson, Node.forms_written body]
  | .exec name params body => by
      have written : (params.map Param.form).map Form.written = params.map Param.toJson := by
        rw [List.map_map]
        rfl
      simp [Node.form, Node.toJson, Node.forms_written body, written]
  | .cond first elseIfs none => by
      simp [Node.form, Node.toJson, first.form_written, Clause.forms_written elseIfs]
  | .cond first elseIfs (some body) => by
      simp [Node.form, Node.toJson, first.form_written, Clause.forms_written elseIfs,
        Node.forms_written body]
  | .call func args => by
      simp [Node.form, Node.toJson, func.form_written, Node.forms_written args]
  | .emit expr => by simp [Node.form, Node.toJson, expr.form_written]
  | .ret none => by simp [Node.form, Node.toJson]
  | .ret (some expr) => by simp [Node.form, Node.toJson, expr.form_written]

theorem Node.forms_written : ∀ nodes : List Node,
    (Node.forms nodes).map Form.written = Node.toJsons nodes
  | [] => by simp [Node.forms, Node.toJsons]
  | node :: rest => by
      simp [Node.forms, Node.toJsons, node.form_written, Node.forms_written rest]

theorem Clause.form_written : ∀ clause : Clause, clause.form.written = clause.toJson
  | .mk test body => by
      simp [Clause.form, Clause.toJson, test.form_written, Node.forms_written body]

theorem Clause.forms_written : ∀ clauses : List Clause,
    (Clause.forms clauses).map Form.written = Clause.toJsons clauses
  | [] => by simp [Clause.forms, Clause.toJsons]
  | clause :: rest => by
      simp [Clause.forms, Clause.toJsons, clause.form_written, Clause.forms_written rest]

end

theorem Program.form_written (program : Program) : program.form.written = program.toJson := by
  simp [Program.form, Program.toJson, Node.forms_written program.items]

/-! ## Reading every spelling -/

theorem TypeExpr.findsAll (limit : Nat) (type : TypeExpr) :
    FindsAll limit TypeExpr.reader (.text type.text) type :=
  (textReader_findsAll limit type.text).map TypeExpr.mk

theorem Param.findsAll (limit : Nat) (param : Param) :
    FindsAll limit Param.reader param.form param :=
  recordReader_findsAll _ (by simp) (.required (textReader_findsAll limit param.name)
    (.required (param.type.findsAll limit) .nil))

theorem nameForm_findsAll (limit : Nat) (name : Option String) :
    FindsAll limit (optionalReader textReader) (nameForm name) name := by
  cases name with
  | none => exact optionalReader_findsAll_null limit textReader
  | some name =>
      refine (textReader_findsAll limit name).optional ?_
      intro spelled
      cases spelled

theorem MapKey.findsAll (limit : Nat) (key : MapKey) :
    FindsAll limit MapKey.reader key.form key := by
  refine recordReader_findsAll _ (by simp) (.cons (nameForm_findsAll limit key.name) ?_
    (.required (key.type.findsAll limit) .nil))
  intro missing
  rw [Option.isNone_iff_eq_none.mp missing]

theorem Literal.findsAll (limit : Nat) (literal : Literal) :
    FindsAll limit Literal.reader literal.form literal := by
  cases literal with
  | int digits =>
      exact choiceReader_findsAll rfl ((textReader_findsAll limit digits).map Literal.int)
  | str text =>
      exact choiceReader_findsAll rfl ((textReader_findsAll limit text).map Literal.str)
  | bool value =>
      exact choiceReader_findsAll rfl ((flagReader_findsAll limit value).map Literal.bool)

/-- A list is found if each of its elements is found in its form. -/
theorem listReader_findsAll_map {α : Type} {limit : Nat} {reader : Reader α} {form : α → Form}
    (found : ∀ value, FindsAll limit reader (form value) value) (values : List α) :
    FindsAll limit (listReader reader) (.list (values.map form)) values := by
  apply listReader_findsAll
  rw [List.forall₂_map_left_iff, List.forall₂_same]
  intro value _
  exact found value

/-- A node is found if its content is, with one nested node less. -/
theorem Node.findsAll_tagged {kind : Kind} {content : Form} {node : Node}
    (found : ∀ height,
      FindsAll height (Node.contentReader (Node.readerUpTo height) kind) content node)
    (height : Nat) : FindsAll height (Node.readerUpTo height) (kind.form content) node := by
  cases height with
  | zero =>
      intro json _ place left
      exact absurd left (Nat.not_lt_zero _)
  | succ height => exact taggedReader_findsAll (by decide) kind.lookup_name (found height)

theorem Node.not_form_spelled_null (node : Node) : ¬ node.form.Spelled .null := by
  unfold Node.form
  split <;> exact Form.not_record_spelled_null _

mutual

/-- **Every node is found in all its spellings.** -/
theorem Node.findsAll : ∀ (node : Node) (height : Nat),
    FindsAll height (Node.readerUpTo height) node.form node
  | .ident name => by
      rw [Node.form]
      exact Node.findsAll_tagged fun height => (textReader_findsAll height name).map Node.ident
  | .literal value => by
      rw [Node.form]
      exact Node.findsAll_tagged fun height => (value.findsAll height).map Node.literal
  | .stateItem name type => by
      rw [Node.form]
      exact Node.findsAll_tagged fun height => recordReader_findsAll _ (by simp)
        (.required (textReader_findsAll height name) (.required (type.findsAll height) .nil))
  | .stateMap name keys type => by
      rw [Node.form]
      exact Node.findsAll_tagged fun height => recordReader_findsAll _ (by simp)
        (.required (textReader_findsAll height name)
          (.required (listReader_findsAll_map (MapKey.findsAll height) keys)
            (.required (type.findsAll height) .nil)))
  | .member item name => by
      rw [Node.form]
      exact Node.findsAll_tagged fun height => recordReader_findsAll _ (by simp)
        (.required (item.findsAll height) (.required (textReader_findsAll height name) .nil))
  | .lookup item key => by
      rw [Node.form]
      exact Node.findsAll_tagged fun height => recordReader_findsAll _ (by simp)
        (.required (item.findsAll height) (.required (key.findsAll height) .nil))
  | .binary op lhs rhs => by
      rw [Node.form]
      exact Node.findsAll_tagged fun height => recordReader_findsAll _ (by simp)
        (.required (textReader_findsAll height op)
          (.required (lhs.findsAll height) (.required (rhs.findsAll height) .nil)))
  | .assign lhs rhs => by
      rw [Node.form]
      exact Node.findsAll_tagged fun height => recordReader_findsAll _ (by simp)
        (.required (lhs.findsAll height) (.required (rhs.findsAll height) .nil))
  | .contract name body => by
      rw [Node.form]
      exact Node.findsAll_tagged fun height => FindsAll.map (recordReader_findsAll _ (by simp)
        (.required (textReader_findsAll height name)
          (.listOrNone rfl (listReader_findsAll (Node.findsAll_list body height)) .nil))) _
  | .exec name params body => by
      rw [Node.form]
      exact Node.findsAll_tagged fun height => recordReader_findsAll _ (by simp)
        (.required (textReader_findsAll height name)
          (.listOrNone rfl (listReader_findsAll_map (Param.findsAll height) params)
            (.listOrNone rfl (listReader_findsAll (Node.findsAll_list body height)) .nil)))
  | .cond first elseIfs none => by
      rw [Node.form]
      exact Node.findsAll_tagged fun height => recordReader_findsAll _ (by simp)
        (.required (first.findsAll height)
          (.listOrNone rfl (listReader_findsAll (Clause.findsAll_list elseIfs height))
            (.cons (optionalReader_findsAll_null height _) (fun _ => rfl) .nil)))
  | .cond first elseIfs (some body) => by
      rw [Node.form]
      exact Node.findsAll_tagged fun height => recordReader_findsAll _ (by simp)
        (.required (first.findsAll height)
          (.listOrNone rfl (listReader_findsAll (Clause.findsAll_list elseIfs height))
            (.required ((listReader_findsAll (Node.findsAll_list body height)).optional
              (Form.not_list_spelled_null _)) .nil)))
  | .call func args => by
      rw [Node.form]
      exact Node.findsAll_tagged fun height => recordReader_findsAll _ (by simp)
        (.required (func.findsAll height)
          (.listOrNone rfl (listReader_findsAll (Node.findsAll_list args height)) .nil))
  | .emit expr => by
      rw [Node.form]
      exact Node.findsAll_tagged fun height => recordReader_findsAll _ (by simp)
        (.required (expr.findsAll height) .nil)
  | .ret none => by
      rw [Node.form]
      exact Node.findsAll_tagged fun height => recordReader_findsAll _ (by simp)
        (.cons (optionalReader_findsAll_null height _) (fun _ => rfl) .nil)
  | .ret (some expr) => by
      rw [Node.form]
      exact Node.findsAll_tagged fun height => recordReader_findsAll _ (by simp)
        (.required ((expr.findsAll height).optional expr.not_form_spelled_null) .nil)

theorem Node.findsAll_list : ∀ (nodes : List Node) (height : Nat),
    List.Forall₂ (FindsAll height (Node.readerUpTo height))
      (Node.forms nodes) nodes
  | [], _ => by
      rw [Node.forms]
      exact .nil
  | node :: rest, height => by
      rw [Node.forms]
      exact .cons (node.findsAll height) (Node.findsAll_list rest height)

theorem Clause.findsAll : ∀ (clause : Clause) (height : Nat),
    FindsAll height (Clause.readerOver (Node.readerUpTo height)) clause.form clause
  | .mk test body, height => by
      rw [Clause.form]
      exact recordReader_findsAll _ (by simp) (.required (test.findsAll height)
        (.listOrNone rfl (listReader_findsAll (Node.findsAll_list body height)) .nil))

theorem Clause.findsAll_list : ∀ (clauses : List Clause) (height : Nat),
    List.Forall₂
      (FindsAll height (Clause.readerOver (Node.readerUpTo height)))
      (Clause.forms clauses) clauses
  | [], _ => by
      rw [Clause.forms]
      exact .nil
  | clause :: rest, height => by
      rw [Clause.forms]
      exact .cons (clause.findsAll height) (Clause.findsAll_list rest height)

end

theorem Program.findsAll (program : Program) :
    FindsAll (maxLevels + 1) Program.reader program.form program :=
  recordReader_findsAll _ (by simp)
    (.required (listReader_findsAll (Node.findsAll_list program.items (maxLevels + 1))) .nil)

/-- A text that spells a spelling of the notation is read as the program. -/
theorem Program.parse_of_respells {program : Program} (shallow : program.toJson.depth ≤ 127)
    {text : String} (respells : program.Respells text) : Program.parse text = .ok program := by
  obtain ⟨json, spelled, spells⟩ := respells
  have within : json.depth ≤ maxLevels := by
    have bounded := program.form.depth_le spelled
    rw [program.form_written] at bounded
    exact Nat.le_trans bounded shallow
  rw [Program.parse, Reader.run, read_of_spells spells,
    program.findsAll json spelled { levels := maxLevels } (Nat.lt_succ_self maxLevels), ifWithin,
    if_pos within]
  rfl

/-- **Every spelling of a program is read as that program**, if its notation is nested at most 127
levels deep. The written forms are among the spellings. -/
theorem Program.parse_respelled (program : Program) (shallow : program.toJson.depth ≤ 127) :
    program.Respells program.toJson.compact ∧ program.Respells program.toJson.spread ∧
      ∀ text, program.Respells text → Program.parse text = .ok program := by
  have notated : program.form.Spelled program.toJson := by
    have written := program.form.spelled_written
    rwa [program.form_written] at written
  have plain := program.form.numberless notated
  refine ⟨⟨_, notated, spells_compact plain⟩, ⟨_, notated, spells_spread plain⟩, ?_⟩
  intro text respells
  exact Program.parse_of_respells shallow respells

/-- A program with a handler that assigns the result of a call. -/
def timedPause : Program where
  items := [.exec "pause" [] [.assign (.ident "since") (.call (.ident "now") [])]]

/-- The call, with an unknown field and without its arguments. -/
def respelledCall : Json :=
  .obj [("kind", .str "fn-call"),
    ("node", .obj [("line", .str "7"), ("func", .arr [.str "ident", .str "now"])])]

/-- The assignment as an array. Its sides are swapped, and on the left the content stands before the
kind. -/
def respelledAssignment : Json :=
  .arr [.str "assign", .obj
    [("rhs", respelledCall), ("lhs", .obj [("node", .str "since"), ("kind", .str "ident")])]]

/-- The program as an array. The content of the handler is an array as well and stands before its
kind, with an unknown field between them. -/
def respelledPause : Json :=
  .arr [.arr [.obj
    [("node", .arr [.str "pause", .arr [], .arr [respelledAssignment]]), ("note", .null),
      ("kind", .str "exec")]]]

theorem respelledCall_spelled : (Node.call (.ident "now") []).form.Spelled respelledCall := by
  have func : (Node.ident "now").form.Spelled (.arr [.str "ident", .str "now"]) :=
    .array (.given rfl (.given rfl (.ended (by simp))))
  have unknown : ∀ extra ∈ [("line", Json.str "7")],
      extra.1 ∉ ["func", "args"] ∧ IsScalar extra.2 := by
    intro extra listed
    rw [List.mem_singleton.mp listed]
    exact ⟨by decide, .str "7"⟩
  refine .reordered (.given rfl (.given ?_ .nil)) (.refl _)
  exact .object (.given func (.leftOut rfl .nil)) unknown (.swap _ _ _)

theorem respelledAssignment_spelled :
    (Node.assign (.ident "since") (.call (.ident "now") [])).form.Spelled respelledAssignment := by
  have target : (Node.ident "since").form.Spelled
      (.obj [("node", .str "since"), ("kind", .str "ident")]) :=
    .reordered (.given rfl (.given rfl .nil)) (.swap _ _ _)
  refine .array (.given rfl (.given ?_ (.ended (by simp))))
  exact .reordered (.given target (.given respelledCall_spelled .nil)) (.swap _ _ _)

theorem respelledPause_spelled : timedPause.form.Spelled respelledPause := by
  have unknown : ∀ extra ∈ [("note", Json.null)],
      extra.1 ∉ ["kind", "node"] ∧ IsScalar extra.2 := by
    intro extra listed
    rw [List.mem_singleton.mp listed]
    exact ⟨by decide, .null⟩
  refine .array (.given ⟨_, rfl, .cons ?_ .nil⟩ (.ended (by simp)))
  refine .object (.given rfl (.given ?_ .nil)) unknown (@List.perm_append_comm _ [_, _] [_])
  refine .array (.given rfl (.given ⟨_, rfl, .nil⟩ (.given ⟨_, rfl, ?_⟩ (.ended (by simp)))))
  exact .cons respelledAssignment_spelled .nil

/-- The program is read from its other spelling. -/
theorem timedPause_respelled :
    timedPause.toJson.depth ≤ 127 ∧ timedPause.Respells respelledPause.spread ∧
      Program.parse respelledPause.spread = .ok timedPause := by
  have shallow : timedPause.toJson.depth ≤ 127 := by decide
  have respells : timedPause.Respells respelledPause.spread :=
    ⟨_, respelledPause_spelled, spells_spread (by decide)⟩
  exact ⟨shallow, respells, (timedPause.parse_respelled shallow).2.2 _ respells⟩

end ContractCompiler
