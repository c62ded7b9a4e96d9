import ContractCompiler.Proofs.Generation.Nesting
import ContractCompiler.Proofs.Generation.Omissions
import ContractCompiler.Proofs.Output.Holes

/-!
# What placeholders comment out

The placeholder of a node that is left out is a comment, and a comment takes what follows it on its
line. This module goes up from the node to its unit, through every place that is lowered, and says
what the placeholder is followed by in the text of the program.

Each place puts a comment in one hole into another hole around it
(`CosmWasm.exists_leads_of_spot`). The first place above the node decides what the placeholder is
followed by (`Passes.first`), and no place above it changes that (`Passes.onward`). So a placeholder
is alone on its line exactly if the node is an item of a contract or a statement, or if its
description has a line feed (`CosmWasm.placeholder_alone_iff`). Anywhere else the code after it is
commented out, as the semicolon in `CosmWasm.assignedCall_swallowed`.
-/

namespace ContractCompiler

set_option autoImplicit false

/-! ## One place above a comment -/

/-- Whether the place is among the statements of a clause. -/
def ClauseSpot.isStatement : ClauseSpot → Bool
  | .condition _ => false
  | .statement .. => true

namespace CosmWasm

/-! ### Lists of items -/

section Lists

variable {child : Node} (before after : List Node)

/-- An item of a list that is not skipped. -/
theorem valuesExcept_around (renderer : Renderer) {skip : Node → Bool}
    (lowered : (!skip child) = true) :
    Node.valuesExcept renderer skip (before ++ child :: after) =
      Node.valuesExcept renderer skip before ++
        child.value renderer :: Node.valuesExcept renderer skip after := by
  rw [Node.valuesExcept_append, Node.valuesExcept, if_neg (by simpa using lowered)]

/-- An item of a contract that is lowered declares no state. -/
theorem stateDecls_around (lowered : (!child.isLeftToUnit) = true) :
    stateDecls (before ++ child :: after) = stateDecls before ++ stateDecls after := by
  have nothing : child.stateDecl? = none := by
    cases child with
    | stateItem | stateMap => cases lowered
    | _ => rfl
  rw [stateDecls, List.filterMap_append, List.filterMap_cons, nothing]
  rfl

/-- The statements of a handler or of a branch, one level below the margin. -/
def bodyText (layout : Layout) (body : List Node) : String :=
  statementsText (inner layout) (Node.valuesExcept (render layout) Node.isContract body)

theorem bodyText_around (layout : Layout) (lowered : (!child.isContract) = true) :
    bodyText layout (before ++ child :: after) =
      bodyText layout before ++ statementText (inner layout) (child.value (render layout)) ++
        bodyText layout after := by
  rw [bodyText, valuesExcept_around before after _ lowered, statementsText_append,
    statementsText_cons, String.append_assoc]
  rfl

end Lists

/-! ### Clauses -/

section Clauses

variable (layout : Layout)

/-- A clause up to its closing brace, after the words that open it. -/
def clauseText (opening : String) (clause : Clause) : String :=
  opening ++ expr (clause.test.value (render layout)) ++ " \x7b\n" ++ bodyText layout clause.body

/-- What comes after the clauses of a conditional. -/
def conditionalEnd : Option (List Node) → String
  | none => "\x7d\n"
  | some body => "\x7d else \x7b\n" ++ bodyText layout body ++ "\x7d\n"

/-- Clauses after the first one. -/
def elseIfsText (clauses : List Clause) : String :=
  String.join (clauses.map (clauseText layout "\x7d else if "))

theorem elseIfsText_around (before after : List Clause) (clause : Clause) :
    elseIfsText layout (before ++ clause :: after) =
      elseIfsText layout before ++ clauseText layout "\x7d else if " clause ++
        elseIfsText layout after := by
  rw [elseIfsText, List.map_append, List.map_cons, String.join_append, String.join_cons,
    String.append_assoc]
  rfl

theorem branchText_branchOf (opening : String) (clause : Clause) :
    branchText (.ofStyle layout.indentStyle) opening (branchOf (render layout) clause) =
      clauseText layout opening clause := by
  rw [branchText, Indentation.line_ofStyle, clauseText]
  simp only [String.append_assoc]
  rfl

/-- A conditional as its clauses and what comes after them. -/
theorem value_cond_clauses (first : Clause) (elseIfs : List Clause)
    (otherwise : Option (List Node)) :
    (Node.cond first elseIfs otherwise).value (render layout) =
      .fragment (clauseText layout "if " first ++ elseIfsText layout elseIfs ++
        conditionalEnd layout otherwise) := by
  have further : (elseIfs.map (branchOf (render layout))).map
      (branchText (.ofStyle layout.indentStyle) "\x7d else if ") =
      elseIfs.map (clauseText layout "\x7d else if ") := by
    rw [List.map_map]
    exact List.map_congr_left fun clause _ => branchText_branchOf layout _ clause
  rw [value_cond, conditionalText, branchText_branchOf, further, ← elseIfsText]
  cases otherwise with
  | none =>
      rw [Option.map_none, lastBranchText, Indentation.line_ofStyle, String.append_empty]
      rfl
  | some body =>
      rw [Option.map_some, lastBranchText, Indentation.line_ofStyle, Indentation.line_ofStyle,
        conditionalEnd]
      simp only [String.append_assoc]
      rfl

/-- The clause with a value in the place. -/
def clauseAround (opening : String) : ClauseSpot → Value → String
  | .condition body, value => opening ++ expr value ++ " \x7b\n" ++ bodyText layout body
  | .statement test before after, value =>
      opening ++ expr (test.value (render layout)) ++ " \x7b\n" ++
        (bodyText layout before ++ statementText (inner layout) value ++ bodyText layout after)

theorem clauseText_fill (opening : String) {spot : ClauseSpot} {child : Node}
    (lowered : spot.lowers child = true) :
    clauseText layout opening (spot.fill child) =
      clauseAround layout opening spot (child.value (render layout)) := by
  cases spot with
  | condition body => rfl
  | statement test before after =>
      rw [clauseAround, ← bodyText_around before after layout lowered]
      rfl

/-- Text around a clause. -/
theorem becomes_clause (spot : ClauseSpot) (hole : ValueHole) (front opening back : String) :
    hole.Becomes spot.isStatement fun text =>
      .fragment (front ++ clauseAround layout opening spot (hole.fill text) ++ back) := by
  cases spot with
  | condition body =>
      have goesOn : GoesOn (" \x7b\n" ++ (bodyText layout body ++ back)).toList :=
        GoesOn.append_string (by decide) _
      refine (becomes_expr hole (front ++ opening) goesOn).congr fun text => ?_
      rw [clauseAround]
      simp only [String.append_assoc]
  | statement test before after =>
      refine (becomes_statement (inner layout) hole
        (front ++ (opening ++ expr (test.value (render layout)) ++ " \x7b\n" ++
          bodyText layout before))
        (bodyText layout after ++ back)).congr fun text => ?_
      rw [clauseAround]
      simp only [String.append_assoc]

end Clauses

/-! ### Every place -/

/-- In the place, a node whose value has a comment in the one hole gives a node whose value has it
in the other. -/
def Leads (layout : Layout) (spot : Spot) (hole next : ValueHole) : Prop :=
  ∀ (child : Node) (text : List Char), child.isIdent = false → spot.lowers child = true →
    child.value (render layout) = hole.fill text →
    ∃ further, (spot.fill child).value (render layout) = next.fill further ∧
      Passes spot.isBody hole next text further

section Leads

variable {layout : Layout} {spot : Spot} {hole : ValueHole}

theorem exists_leads {around : List Char → Value} (becomes : hole.Becomes spot.isBody around)
    (agree : ∀ (child : Node) (text : List Char), child.isIdent = false →
      spot.lowers child = true → child.value (render layout) = hole.fill text →
      (spot.fill child).value (render layout) = around text) :
    ∃ next, Leads layout spot hole next := by
  obtain ⟨next, passes⟩ := becomes
  refine ⟨next, fun child text compound lowered value => ?_⟩
  obtain ⟨further, same, passed⟩ := passes text
  exact ⟨further, (agree child text compound lowered value).trans same, passed⟩

/-- A place for an operand. -/
theorem leads_operand (next : ValueHole) (structured : next.isFragment = false)
    (operand : spot.isBody = false)
    (agree : ∀ (child : Node) (text : List Char), child.value (render layout) = hole.fill text →
      (spot.fill child).value (render layout) = next.fill text) :
    ∃ next, Leads layout spot hole next :=
  ⟨next, fun child text _ _ value =>
    ⟨text, agree child text value, .kept structured operand⟩⟩

end Leads

section Places

variable (layout : Layout) (hole : ValueHole)

theorem leads_contractBody (name : String) (before after : List Node) :
    ∃ next, Leads layout (.contractBody name before after) hole next := by
  refine exists_leads (becomes_statement (inner layout) hole
    (contractOpening layout name ++
      declsText (inner layout) (stateDecls before ++ stateDecls after) ++
      itemsText (inner layout) (Node.valuesExcept (render layout) Node.isLeftToUnit before) ++
      "\n")
    (itemsText (inner layout) (Node.valuesExcept (render layout) Node.isLeftToUnit after) ++
      "\x7d\n"))
    fun child text _ lowered value => ?_
  rw [Spot.fill, value_contract, valuesExcept_around before after _ lowered,
    stateDecls_around before after lowered, value, contractText, itemsText_append, itemsText_cons]
  simp only [String.append_assoc]

theorem leads_handlerBody (name : String) (params : List Param) (before after : List Node) :
    ∃ next, Leads layout (.handlerBody name params before after) hole next := by
  refine exists_leads (becomes_statement (inner layout) hole
    (signature name params ++ " \x7b\n" ++ bodyText layout before)
    (bodyText layout after ++ (inner layout).line (response name) ++ "\x7d\n"))
    fun child text _ lowered value => ?_
  rw [Spot.fill, value_exec, handlerText, ← bodyText, bodyText_around before after layout lowered,
    value]
  simp only [String.append_assoc]

theorem leads_firstClause (spot : ClauseSpot) (elseIfs : List Clause)
    (otherwise : Option (List Node)) :
    ∃ next, Leads layout (.firstClause spot elseIfs otherwise) hole next := by
  have body : (Spot.firstClause spot elseIfs otherwise).isBody = spot.isStatement := by
    cases spot <;> rfl
  have becomes := becomes_clause layout spot hole "" "if "
    (elseIfsText layout elseIfs ++ conditionalEnd layout otherwise)
  rw [← body] at becomes
  refine exists_leads becomes fun child text _ lowered value => ?_
  rw [Spot.fill, value_cond_clauses, clauseText_fill layout _ lowered, value]
  simp only [String.empty_append, String.append_assoc]

theorem leads_elseIfClause (first : Clause) (before : List Clause) (spot : ClauseSpot)
    (after : List Clause) (otherwise : Option (List Node)) :
    ∃ next, Leads layout (.elseIfClause first before spot after otherwise) hole next := by
  have body : (Spot.elseIfClause first before spot after otherwise).isBody = spot.isStatement := by
    cases spot <;> rfl
  have becomes := becomes_clause layout spot hole
    (clauseText layout "if " first ++ elseIfsText layout before) "\x7d else if "
    (elseIfsText layout after ++ conditionalEnd layout otherwise)
  rw [← body] at becomes
  refine exists_leads becomes fun child text _ lowered value => ?_
  rw [Spot.fill, value_cond_clauses, elseIfsText_around, clauseText_fill layout _ lowered, value]
  simp only [String.append_assoc]

theorem leads_elseBranch (first : Clause) (elseIfs : List Clause) (before after : List Node) :
    ∃ next, Leads layout (.elseBranch first elseIfs before after) hole next := by
  refine exists_leads (becomes_statement (inner layout) hole
    (clauseText layout "if " first ++ elseIfsText layout elseIfs ++ "\x7d else \x7b\n" ++
      bodyText layout before)
    (bodyText layout after ++ "\x7d\n"))
    fun child text _ lowered value => ?_
  rw [Spot.fill, value_cond_clauses, conditionalEnd, bodyText_around before after layout lowered,
    value]
  simp only [String.append_assoc]

theorem leads_assignTarget (rhs : Node) :
    ∃ next, Leads layout (.assignTarget rhs) hole next := by
  obtain ⟨front, back, goesOn, around⟩ :=
    assignmentText_fill hole (expr (rhs.value (render layout)))
  refine exists_leads (becomes_followed hole front goesOn around)
    fun child text compound _ value => ?_
  rw [Spot.fill, value_assign, compound, value]

theorem leads_assignSource (lhs : Node) :
    ∃ next, Leads layout (.assignSource lhs) hole next := by
  obtain ⟨front, back, goesOn, around⟩ :=
    assignmentText_around lhs.isIdent (lhs.value (render layout))
  refine exists_leads (becomes_expr hole front goesOn) fun child text _ _ value => ?_
  rw [Spot.fill, value_assign, around, value]

/-- A member of text goes on after the comment, and a member of anything else is an operand. -/
theorem leads_memberItem (name : String) :
    ∃ next, Leads layout (.memberItem name) hole next := by
  cases bare : hole.isFragment with
  | true =>
      obtain ⟨front, rfl⟩ := ValueHole.eq_fragment bare
      have goesOn : GoesOn ('.' :: name.toList) := ⟨'.', _, by decide, by decide, rfl⟩
      refine ⟨.fragment front, fun child text _ _ value =>
        ⟨text ++ '.' :: name.toList, ?_, .followed goesOn fun _ => rfl⟩⟩
      rw [Spot.fill, Node.value, value, ValueHole.fill_fragment_memberOf]
  | false =>
      refine leads_operand (.memberBase hole name) rfl rfl fun child text value => ?_
      rw [Spot.fill, Node.value, value, ValueHole.fill_memberOf bare]

/-- **One place above a comment.** Whatever comment stands in a hole, the place puts it into one and
the same hole around it. -/
theorem exists_leads_of_spot (spot : Spot) : ∃ next, Leads layout spot hole next := by
  cases spot with
  | contractBody name before after => exact leads_contractBody layout hole name before after
  | handlerBody name params before after =>
      exact leads_handlerBody layout hole name params before after
  | firstClause spot elseIfs otherwise => exact leads_firstClause layout hole spot elseIfs otherwise
  | elseIfClause first before spot after otherwise =>
      exact leads_elseIfClause layout hole first before spot after otherwise
  | elseBranch first elseIfs before after =>
      exact leads_elseBranch layout hole first elseIfs before after
  | assignTarget rhs => exact leads_assignTarget layout hole rhs
  | assignSource lhs => exact leads_assignSource layout hole lhs
  | lookupItem key =>
      refine leads_operand (hole.index (key.value (render layout))) (hole.isFragment_index _) rfl
        fun child text value => ?_
      rw [Spot.fill, Node.value, value, ValueHole.fill_index]
  | lookupKey item =>
      refine leads_operand (.keyOf (item.value (render layout)) hole)
        (ValueHole.isFragment_keyOf _ hole) rfl fun child text value => ?_
      rw [Spot.fill, Node.value, value, ValueHole.fill_keyOf]
  | memberItem name => exact leads_memberItem layout hole name
  | leftOperand op rhs =>
      refine leads_operand (.leftOperand op hole (rhs.value (render layout))) rfl rfl
        fun child text value => ?_
      rw [Spot.fill, Node.value, value, ValueHole.fill]
  | rightOperand op lhs =>
      refine leads_operand (.rightOperand op (lhs.value (render layout)) hole) rfl rfl
        fun child text value => ?_
      rw [Spot.fill, Node.value, value, ValueHole.fill]
  | callee | argument | emitted | result =>
      refine ⟨hole, fun child text _ lowered => ?_⟩
      cases lowered

end Places

end CosmWasm

/-! ## The whole way up -/

/-- What follows a description is settled: the end of the line if the comment is an item or the
description itself ends the line, and something else otherwise. -/
structure Settled (item : Bool) (description text : List Char) : Prop where
  alone : item = true ∨ '\n' ∈ description → Alone description text
  swallows : item = false → '\n' ∉ description → Swallows description text

/-- A comment on its way up: a part of a value that is no fragment, with nothing after it yet, or
settled. -/
def Follows (item : Bool) (hole : ValueHole) (description text : List Char) : Prop :=
  item = false ∧ hole.isFragment = false ∧ text = description ∨ Settled item description text

section Settled

variable {item : Bool} {description text : List Char}

theorem Settled.append (settled : Settled item description text) (added : List Char) :
    Settled item description (text ++ added) where
  alone reason := (settled.alone reason).append added
  swallows operand unbroken := (settled.swallows operand unbroken).append added

theorem Settled.carried (settled : Settled item description text) {carried : List Char}
    (carries : Carried text carried) : Settled item description carried where
  alone reason := carries.alone (settled.alone reason)
  swallows operand unbroken := carries.swallows (settled.swallows operand unbroken)

/-- A comment with code after it. -/
theorem Settled.of_goesOn {added : List Char} (goesOn : GoesOn added) :
    Settled false description (description ++ added) where
  alone reason := by
    rcases reason with impossible | broken
    · cases impossible
    · exact .of_broken broken added
  swallows _ unbroken := .of_goesOn unbroken goesOn

/-- A comment that is embedded as an item. -/
theorem Settled.of_carried {carried : List Char} (carries : Carried description carried) :
    Settled true description carried where
  alone _ := carries.ended
  swallows impossible := by cases impossible

variable {hole next : ValueHole} {further : List Char}

/-- The first place above a placeholder decides what it is followed by. -/
theorem Passes.first (passes : Passes item hole next description further)
    (bare : hole.isFragment = true) : Follows item next description further := by
  cases passes with
  | kept structured operand => exact .inl ⟨operand, structured, rfl⟩
  | followed goesOn code =>
      obtain rfl := code bare
      exact .inr (.of_goesOn goesOn)
  | embedded _ listed carries added =>
      obtain rfl := listed
      exact .inr ((Settled.of_carried carries).append added)

/-- No place above it changes that. -/
theorem Passes.onward {other : Bool} (passes : Passes other hole next text further)
    (follows : Follows item hole description text) : Follows item next description further := by
  rcases follows with ⟨rfl, inside, rfl⟩ | settled
  · cases passes with
    | kept structured _ => exact .inl ⟨rfl, structured, rfl⟩
    | followed goesOn _ => exact .inr (.of_goesOn goesOn)
    | embedded bare _ _ _ =>
        rw [inside] at bare
        cases bare
  · refine .inr ?_
    cases passes with
    | kept => exact settled
    | followed => exact settled.append _
    | embedded _ _ carries added => exact (settled.carried carries).append added

/-- Only the description is on the line of the comment exactly if the comment is an item or the
description ends the line. -/
theorem Settled.line_isPrefix_iff (settled : Settled item description text) :
    text.takeWhile (· ≠ '\n') <+: description ↔ item = true ∨ '\n' ∈ description := by
  constructor
  · intro alone
    by_contra neither
    rw [not_or, Bool.not_eq_true] at neither
    exact (settled.swallows neither.1 neither.2).line_not_isPrefix alone
  · intro reason
    exact (settled.alone reason).line_isPrefix

/-- A description without line endings is there as a whole. -/
theorem Settled.isPrefix (settled : Settled item description text) (unbroken : '\n' ∉ description)
    (unreturned : '\r' ∉ description) : description <+: text := by
  cases item with
  | true =>
      obtain ⟨shown, hidden, rest, rfl, ending, _, rfl⟩ := settled.alone (.inl rfl)
      cases hidden with
      | nil =>
          rw [List.append_nil]
          exact List.prefix_append shown _
      | cons c further =>
          rcases ending c rfl with rfl | rfl
          · exact absurd List.mem_append_cons_self unbroken
          · exact absurd List.mem_append_cons_self unreturned
  | false =>
      obtain ⟨_, c, rest, _, _, rfl⟩ := settled.swallows rfl unbroken
      exact List.prefix_append description _

end Settled

/-! ## Ways down to placeholders -/

theorem Node.isIdent_of_isLeftOut {node : Node} (unsupported : node.isLeftOut = true) :
    node.isIdent = false := by
  cases node with
  | ident => cases unsupported
  | _ => rfl

theorem Node.isIdent_fillAll {node : Node} (compound : node.isIdent = false) (way : List Spot) :
    (fillAll way node).isIdent = false := by
  cases way with
  | nil => exact compound
  | cons spot rest => cases spot <;> rfl

namespace CosmWasm

/-- **The value of a node with a placeholder in it.** The hole is the same for all nodes that are
left out at the end of the way, and the last place on the way decides what the placeholder is
followed by. -/
theorem exists_hole (layout : Layout) (way : List Spot) (last : Spot) :
    ∃ hole : ValueHole, ∀ node, node.isLeftOut = true →
      lowersAll (way ++ [last]) node = true →
      ∃ text, (fillAll (way ++ [last]) node).value (render layout) = hole.fill text ∧
        Follows last.isBody hole node.describe.toList text := by
  induction way with
  | nil =>
      obtain ⟨next, leads⟩ := exists_leads_of_spot layout (.fragment "") last
      refine ⟨next, fun node unsupported lowered => ?_⟩
      have value : node.value (render layout) =
          (ValueHole.fragment "").fill node.describe.toList := by
        rw [Node.value_of_isLeftOut unsupported, placeholder, ValueHole.fill, String.empty_append,
          commented, String.ofList_toList]
        rfl
      rw [List.nil_append, lowersAll, lowersAll, Bool.and_true] at lowered
      obtain ⟨further, whole, passes⟩ :=
        leads node _ (Node.isIdent_of_isLeftOut unsupported) lowered value
      exact ⟨further, whole, passes.first rfl⟩
  | cons spot rest ih =>
      obtain ⟨hole, inside⟩ := ih
      obtain ⟨next, leads⟩ := exists_leads_of_spot layout hole spot
      refine ⟨next, fun node unsupported lowered => ?_⟩
      rw [List.cons_append, lowersAll, Bool.and_eq_true] at lowered
      obtain ⟨text, value, follows⟩ := inside node unsupported lowered.2
      have compound := Node.isIdent_fillAll (Node.isIdent_of_isLeftOut unsupported) (rest ++ [last])
      obtain ⟨further, whole, passes⟩ := leads _ text compound lowered.1 value
      exact ⟨further, whole, passes.onward follows⟩

/-- **A placeholder in the text of a unit.** What is written before it depends on the way down to it
only. -/
theorem exists_front (layout : Layout) (way : List Spot) (last : Spot) :
    ∃ front : String, ∀ (unit : Contract) (node : Node),
      unit.node.LeavesOut (way ++ [last]) node →
      ∃ text, unit.text (render layout) = front ++ commented text ∧
        Settled last.isBody node.describe.toList text := by
  obtain ⟨hole, inside⟩ := exists_hole layout way last
  have whole : ∀ (unit : Contract) (node : Node), unit.node.LeavesOut (way ++ [last]) node →
      ∃ text, .fragment (unit.text (render layout)) = hole.fill text ∧
        Follows last.isBody hole node.describe.toList text := by
    rintro unit node ⟨unsupported, place, lowered⟩
    obtain ⟨text, value, follows⟩ := inside node unsupported lowered
    refine ⟨text, ?_, follows⟩
    rw [← value, place, contract_text]
    exact (value_contract layout unit.name unit.body).symm
  -- The text of a unit is a fragment, so no other kind of hole is possible.
  cases hole with
  | fragment front =>
      refine ⟨front, fun unit node leaves => ?_⟩
      obtain ⟨text, value, ⟨_, structured, _⟩ | settled⟩ := whole unit node leaves
      · cases structured
      · exact ⟨text, Value.fragment.inj value, settled⟩
  | mapKey | lookupBase | lookupKey | memberBase | leftOperand | rightOperand =>
      refine ⟨"", fun unit node leaves => ?_⟩
      obtain ⟨text, value, _⟩ := whole unit node leaves
      cases value

/-- A unit is a construct, so that a node that it leaves out stands below it. -/
theorem exists_last {unit : Contract} {way : List Spot} {node : Node}
    (leaves : unit.node.LeavesOut way node) : ∃ outer last, way = outer ++ [last] := by
  rcases List.eq_nil_or_concat way with rfl | ⟨outer, last, rfl⟩
  · have same : node = unit.node := leaves.place
    have unsupported := leaves.unsupported
    rw [same] at unsupported
    cases unsupported
  · exact ⟨outer, last, List.concat_eq_append⟩

/-- **What placeholders comment out.** If a program compiles, there is a placeholder for each node
without a lowering that lowering comes to, and what is written before it depends only on the units
before and on the way down to the node. On its line nothing but the description of the node follows
the mark exactly if the node is an item of a contract or a statement, or if its description has a
line feed. A description without line endings is there as a whole. -/
theorem placeholder_alone_iff (layout : Layout) :
    (∀ (program : Program) (text : String),
      (program.compile (render layout) .permissive).outcome = .ok text →
      ∀ node, node ∈ program.omitted (render layout) ↔
        ∃ earlier way last, program.LeavesOut earlier (way ++ [last]) node) ∧
    ∀ (way : List Spot) (last : Spot), ∃ front : String,
      ∀ (program : Program) (earlier : List Contract) (node : Node) (text : String),
        (program.compile (render layout) .permissive).outcome = .ok text →
        program.LeavesOut earlier (way ++ [last]) node →
        ∃ rest : String,
          text = String.join (earlier.map (Contract.text (render layout))) ++ front ++
            ("// Omitted: " ++ rest) ∧
          (rest.toList.takeWhile (· ≠ '\n') <+: node.describe.toList ↔
            last.isBody = true ∨ '\n' ∈ node.describe.toList) ∧
          ('\n' ∉ node.describe.toList → '\r' ∉ node.describe.toList →
            node.describe.toList <+: rest.toList) := by
  constructor
  · intro program text compiled node
    rw [Program.mem_omitted_iff compiled]
    constructor
    · rintro ⟨earlier, way, unit, later, units, leaves⟩
      obtain ⟨outer, last, rfl⟩ := exists_last leaves
      exact ⟨earlier, outer, last, unit, later, units, leaves⟩
    · rintro ⟨earlier, way, last, leaves⟩
      exact ⟨earlier, way ++ [last], leaves⟩
  · intro way last
    obtain ⟨front, written⟩ := exists_front layout way last
    refine ⟨front, ?_⟩
    rintro program earlier node text compiled ⟨unit, later, units, leaves⟩
    obtain ⟨description, ofUnit, settled⟩ := written unit node leaves
    obtain ⟨_, _, joined⟩ := Program.compile_passing (render layout) .permissive compiled
    have whole := settled.append (String.join (later.map (Contract.text (render layout)))).toList
    refine ⟨String.ofList description ++ String.join (later.map (Contract.text (render layout))),
      ?_, ?_⟩
    · rw [joined, units, List.map_append, List.map_cons, String.join_append, String.join_cons,
        ofUnit]
      simp only [commented, omissionMark, String.append_assoc]
    · rw [String.toList_append, String.toList_ofList]
      exact ⟨whole.line_isPrefix_iff, whole.isPrefix⟩

/-- A handler that calls `g` in a statement and assigns the result of `h` to `a`. -/
def callAndAssignment : Program :=
  singleHandler [.call (.ident "g") [], .assign (.ident "a") (.call (.ident "h") [])]

/-- The statement leaves a placeholder on a line of its own, and the assignment does not. -/
theorem callAndAssignment_placeholders :
    ∃ text, (callAndAssignment.compile (render {}) .permissive).outcome = .ok text ∧
      Node.call (.ident "g") [] ∈ callAndAssignment.omitted (render {}) ∧
      (∃ front rest, text = front ++ ("// Omitted: " ++ rest) ∧
        rest.toList.takeWhile (· ≠ '\n') <+: "fn-call g".toList ∧
        "fn-call g".toList <+: rest.toList) ∧
      ∃ front rest, text = front ++ ("// Omitted: " ++ rest) ∧
        ¬ rest.toList.takeWhile (· ≠ '\n') <+: "fn-call h".toList ∧
        "fn-call h".toList <+: rest.toList := by
  have statement : callAndAssignment.LeavesOut []
      ([.contractBody "T" [] []] ++
        [.handlerBody "f" [] [] [.assign (.ident "a") (.call (.ident "h") [])]])
      (.call (.ident "g") []) :=
    ⟨_, [], rfl, rfl, rfl, rfl⟩
  have source : callAndAssignment.LeavesOut []
      ([.contractBody "T" [] [], .handlerBody "f" [] [.call (.ident "g") []] []] ++
        [.assignSource (.ident "a")])
      (.call (.ident "h") []) :=
    ⟨_, [], rfl, rfl, rfl, rfl⟩
  refine ⟨_, rfl, ((placeholder_alone_iff {}).1 _ _ rfl _).mpr ⟨_, _, _, statement⟩, ?_, ?_⟩
  · obtain ⟨front, placed⟩ := (placeholder_alone_iff {}).2 _ _
    obtain ⟨rest, split, alone, shown⟩ := placed _ _ _ _ rfl statement
    exact ⟨_, rest, split, alone.mpr (.inl rfl), shown (by decide) (by decide)⟩
  · obtain ⟨front, placed⟩ := (placeholder_alone_iff {}).2 _ _
    obtain ⟨rest, split, alone, shown⟩ := placed _ _ _ _ rfl source
    refine ⟨_, rest, split, fun only => ?_, shown (by decide) (by decide)⟩
    rcases alone.mp only with item | broken
    · cases item
    · exact absurd broken (by decide)

/-- **The end of an assignment is commented out** where the result of a call is assigned. -/
theorem assignedCall_swallowed :
    ((singleHandler [.assign (.ident "a") (.call (.ident "g") [])]).compile (render {})
        .permissive).outcome =
      .ok ("// Generated by cwscript from contract `T`. Do not edit.\n" ++
        "pub mod t \x7b\n" ++
        "    use cosmwasm_std::*;\n" ++
        "    use cw_storage_plus::\x7bItem, Map\x7d;\n" ++
        "\n" ++
        "    use crate::error::ContractError;\n" ++
        "\n" ++
        "    pub fn exec_f(deps: DepsMut, env: Env, info: MessageInfo) -> " ++
        "Result<Response, ContractError> \x7b\n" ++
        "        let a = // Omitted: fn-call g;\n" ++
        "        Ok(Response::new().add_attribute(\"action\", \"f\"))\n" ++
        "    \x7d\n" ++
        "\x7d\n") := by
  decide +kernel

end CosmWasm

end ContractCompiler
