import ContractCompiler.Proofs.Generation.ReadOnly
import ContractCompiler.Proofs.State.References

/-!
# Exchanging a part of a node

A place below a node is a context with a hole (`Spot`), and a way down to a place is a list of them
(`fillAll`). Two nodes look alike to verification (`Node.LooksAlike`) if it cannot tell them apart
but for a part of the state that they touch. A contract looks the same whatever its body is
(`Node.LooksAlike.ofContract`), and nodes that look alike do so from every place above them
(`Node.LooksAlike.fill`).

Rules ask for the state that is touched only in the operands of assignments and in conditions. A
construct that holds the place elsewhere is judged the same (`Node.LooksAlike.rules_eq`). One that
holds it there is judged the same unless an access that is exchanged is refused
(`Node.LooksAlike.judgedAlike`).
-/

namespace ContractCompiler

set_option autoImplicit false

/-! ## Contexts -/

/-- A place for a node in a clause. -/
inductive ClauseSpot where
  | condition (body : List Node)
  | statement (test : Node) (before after : List Node)

/-- The clause with a node in the place. -/
def ClauseSpot.fill : ClauseSpot → Node → Clause
  | .condition body, node => .mk node body
  | .statement test before after, node => .mk test (before ++ node :: after)

/-- A place for a node directly below another one. -/
inductive Spot where
  | contractBody (name : String) (before after : List Node)
  | handlerBody (name : String) (params : List Param) (before after : List Node)
  | firstClause (spot : ClauseSpot) (elseIfs : List Clause) (otherwise : Option (List Node))
  | elseIfClause (first : Clause) (before : List Clause) (spot : ClauseSpot) (after : List Clause)
      (otherwise : Option (List Node))
  | elseBranch (first : Clause) (elseIfs : List Clause) (before after : List Node)
  | assignTarget (rhs : Node)
  | assignSource (lhs : Node)
  | lookupItem (key : Node)
  | lookupKey (item : Node)
  | memberItem (name : String)
  | leftOperand (op : String) (rhs : Node)
  | rightOperand (op : String) (lhs : Node)
  | callee (args : List Node)
  | argument (func : Node) (before after : List Node)
  | emitted
  | result

namespace Spot

/-- The node with another one in the place. -/
def fill : Spot → Node → Node
  | .contractBody name before after, node => .contract name (before ++ node :: after)
  | .handlerBody name params before after, node => .exec name params (before ++ node :: after)
  | .firstClause spot elseIfs otherwise, node => .cond (spot.fill node) elseIfs otherwise
  | .elseIfClause first before spot after otherwise, node =>
      .cond first (before ++ spot.fill node :: after) otherwise
  | .elseBranch first elseIfs before after, node =>
      .cond first elseIfs (some (before ++ node :: after))
  | .assignTarget rhs, node => .assign node rhs
  | .assignSource lhs, node => .assign lhs node
  | .lookupItem key, node => .lookup node key
  | .lookupKey item, node => .lookup item node
  | .memberItem name, node => .member node name
  | .leftOperand op rhs, node => .binary op node rhs
  | .rightOperand op lhs, node => .binary op lhs node
  | .callee args, node => .call node args
  | .argument func before after, node => .call func (before ++ node :: after)
  | .emitted, node => .emit node
  | .result, node => .ret (some node)

/-- Whether the place is in a list of items: the body of a contract or of a handler, or a branch of
a conditional. -/
def isBody : Spot → Bool
  | .contractBody .. | .handlerBody .. | .elseBranch .. => true
  | .firstClause (.statement ..) .. | .elseIfClause _ _ (.statement ..) .. => true
  | _ => false

/-- Whether the place is an operand of an assignment or a condition. -/
def isWatched : Spot → Bool
  | .firstClause (.condition _) .. | .elseIfClause _ _ (.condition _) .. => true
  | .assignTarget _ | .assignSource _ => true
  | _ => false

end Spot

/-- The node with another one at the end of a way down, outermost place first. -/
def fillAll (way : List Spot) (node : Node) : Node :=
  way.foldr Spot.fill node

/-! ## Accesses with a part exchanged -/

/-- Two lists that are the same but for one place, where one has `old` and the other has `new`. -/
def Exchanged (old new : List StateTarget) (accesses others : List StateTarget) : Prop :=
  accesses = others ∨
    ∃ before after, accesses = before ++ (old ++ after) ∧ others = before ++ (new ++ after)

section Exchanged

variable {old new accesses others : List StateTarget}

theorem Exchanged.between (exchanged : Exchanged old new accesses others)
    (before after : List StateTarget) :
    Exchanged old new (before ++ (accesses ++ after)) (before ++ (others ++ after)) := by
  rcases exchanged with rfl | ⟨front, back, rfl, rfl⟩
  · exact .inl rfl
  · refine .inr ⟨before ++ front, back ++ after, ?_, ?_⟩ <;> simp only [List.append_assoc]

theorem checkAccesses_append (table : StateTable) (targets more : List StateTarget) :
    checkAccesses table (targets ++ more) =
      (checkAccesses table targets >>= fun _ => checkAccesses table more) := by
  induction targets with
  | nil => rfl
  | cons target rest ih =>
      rw [List.cons_append, checkAccesses, checkAccesses, ih]
      cases checkAccess table target <;> rfl

/-- Some access of a list is refused, with the given violation. -/
def StateTable.Refuses (table : StateTable) (targets : List StateTarget) (violation : Violation) :
    Prop :=
  ∃ target ∈ targets, checkAccess table target = .error violation

/-- An exchange makes a difference to the verdict only if one of the exchanged accesses is
refused. -/
theorem Exchanged.checkAccesses (exchanged : Exchanged old new accesses others)
    (table : StateTable) :
    checkAccesses table accesses = checkAccesses table others ∨
      (∃ violation, table.Refuses old violation ∧
        checkAccesses table accesses = .error violation) ∨
      ∃ violation, table.Refuses new violation ∧ checkAccesses table others = .error violation := by
  rcases exchanged with rfl | ⟨before, after, rfl, rfl⟩
  · exact .inl rfl
  rw [checkAccesses_append, checkAccesses_append, checkAccesses_append, checkAccesses_append]
  cases ContractCompiler.checkAccesses table before with
  | error violation => exact .inl rfl
  | ok =>
      cases ofOld : ContractCompiler.checkAccesses table old with
      | error violation =>
          exact .inr (.inl ⟨violation, checkAccesses_error ofOld, rfl⟩)
      | ok =>
          cases ofNew : ContractCompiler.checkAccesses table new with
          | error violation =>
              exact .inr (.inr ⟨violation, checkAccesses_error ofNew, rfl⟩)
          | ok => exact .inl rfl

end Exchanged

/-! ## Nodes that look alike -/

/-- Two nodes that verification cannot tell apart but for a part of the state that they touch. -/
structure Node.LooksAlike (old new : List StateTarget) (node other : Node) : Prop where
  kind : node.kind = other.kind
  compound : node.isIdent = false
  spelling : node.spelling = other.spelling
  message : node.isMessageAccess = other.isMessageAccess
  target : node.stateTarget? = other.stateTarget?
  claim : node.claim? = other.claim?
  decl : node.stateDecl? = other.stateDecl?
  accesses : Exchanged old new node.stateAccesses other.stateAccesses
  keys : Exchanged old new node.keyAccesses other.keyAccesses

theorem Node.stateAccessesOf_append (nodes more : List Node) :
    Node.stateAccessesOf (nodes ++ more) =
      Node.stateAccessesOf nodes ++ Node.stateAccessesOf more := by
  induction nodes with
  | nil => rfl
  | cons node rest ih =>
      rw [List.cons_append, Node.stateAccessesOf, Node.stateAccessesOf, ih, List.append_assoc]

theorem Clause.stateAccessesOf_append (clauses more : List Clause) :
    Clause.stateAccessesOf (clauses ++ more) =
      Clause.stateAccessesOf clauses ++ Clause.stateAccessesOf more := by
  induction clauses with
  | nil => rfl
  | cons clause rest ih =>
      rw [List.cons_append, Clause.stateAccessesOf, Clause.stateAccessesOf, ih, List.append_assoc]

/-- A conditional touches what its clauses touch, then what the statements after `else` touch. -/
theorem Node.stateAccesses_cond (first : Clause) (elseIfs : List Clause)
    (otherwise : Option (List Node)) :
    (Node.cond first elseIfs otherwise).stateAccesses =
      first.stateAccesses ++
        (Clause.stateAccessesOf elseIfs ++ Node.stateAccessesOf (otherwise.getD [])) := by
  cases otherwise with
  | none => rw [Node.stateAccesses, List.append_assoc, Option.getD_none, Node.stateAccessesOf]
  | some body => rw [Node.stateAccesses, List.append_assoc, Option.getD_some]

/-- The name of a call is told only if an identifier is called. -/
theorem Node.title_call {func : Node} (compound : func.isIdent = false) (args : List Node) :
    (Node.call func args).title = "fn-call" := by
  cases func with
  | ident => cases compound
  | _ => rfl

/-- A member of anything but an identifier is no state. -/
theorem Node.stateTarget?_member {item : Node} (compound : item.isIdent = false) (name : String) :
    (Node.member item name).stateTarget? = none := by
  cases item with
  | ident => cases compound
  | _ => rfl

namespace Node.LooksAlike

variable {old new : List StateTarget} {node other : Node}

theorem compound_other (alike : node.LooksAlike old new other) : other.isIdent = false := by
  have whole := alike.compound
  rwa [Node.isIdent, alike.kind] at whole

/-- In a list of nodes, one of them is exchanged. -/
theorem accessesOf (alike : node.LooksAlike old new other) (before after : List Node) :
    Exchanged old new (Node.stateAccessesOf (before ++ node :: after))
      (Node.stateAccessesOf (before ++ other :: after)) := by
  rw [Node.stateAccessesOf_append, Node.stateAccessesOf_append, Node.stateAccessesOf,
    Node.stateAccessesOf]
  exact alike.accesses.between _ _

/-- In a clause, its condition or one of its statements is exchanged. -/
theorem accessesOfClause (alike : node.LooksAlike old new other) (spot : ClauseSpot) :
    Exchanged old new (spot.fill node).stateAccesses (spot.fill other).stateAccesses := by
  cases spot with
  | condition body =>
      rw [ClauseSpot.fill, ClauseSpot.fill, Clause.stateAccesses, Clause.stateAccesses]
      exact alike.accesses.between [] _
  | statement test before after =>
      rw [ClauseSpot.fill, ClauseSpot.fill, Clause.stateAccesses, Clause.stateAccesses]
      simpa only [List.append_nil] using (alike.accessesOf before after).between _ []

/-- A lookup in one of the nodes. -/
theorem accessesOfItem (alike : node.LooksAlike old new other) (key : Node) :
    Exchanged old new (Node.lookup node key).stateAccesses
      (Node.lookup other key).stateAccesses := by
  cases addressed : node.stateTarget? with
  | some target =>
      rw [Node.stateAccesses_lookup_some addressed,
        Node.stateAccesses_lookup_some (alike.target ▸ addressed)]
      exact alike.keys.between [_] _
  | none =>
      rw [Node.stateAccesses_lookup_none addressed,
        Node.stateAccesses_lookup_none (alike.target ▸ addressed)]
      exact alike.accesses.between [] _

/-- A lookup with one of the nodes as its key. -/
theorem accessesOfKey (alike : node.LooksAlike old new other) (item : Node) :
    Exchanged old new (Node.lookup item node).stateAccesses
      (Node.lookup item other).stateAccesses := by
  cases addressed : item.stateTarget? with
  | some target =>
      rw [Node.stateAccesses_lookup_some addressed, Node.stateAccesses_lookup_some addressed]
      simpa only [List.append_nil, List.cons_append] using
        alike.accesses.between (_ :: item.keyAccesses) []
  | none =>
      rw [Node.stateAccesses_lookup_none addressed, Node.stateAccesses_lookup_none addressed]
      simpa only [List.append_nil] using alike.accesses.between _ []

/-- A member of one of the nodes. -/
theorem accessesOfMember (alike : node.LooksAlike old new other) (name : String) :
    Exchanged old new (Node.member node name).stateAccesses
      (Node.member other name).stateAccesses := by
  rw [Node.stateAccesses, Node.stateAccesses, Node.stateTarget?_member alike.compound,
    Node.stateTarget?_member alike.compound_other]
  exact alike.accesses

/-- What a node with the exchanged one in it touches. -/
theorem accesses_fill (alike : node.LooksAlike old new other) (spot : Spot) :
    Exchanged old new (spot.fill node).stateAccesses (spot.fill other).stateAccesses := by
  have last : ∀ front : List StateTarget,
      Exchanged old new (front ++ node.stateAccesses) (front ++ other.stateAccesses) := by
    intro front
    simpa only [List.append_nil] using alike.accesses.between front []
  cases spot with
  | contractBody name before after | handlerBody name params before after =>
      simp only [Spot.fill, Node.stateAccesses]
      exact alike.accessesOf before after
  | firstClause spot elseIfs otherwise =>
      rw [Spot.fill, Spot.fill, Node.stateAccesses_cond, Node.stateAccesses_cond]
      exact (alike.accessesOfClause spot).between [] _
  | elseIfClause first before spot after otherwise =>
      rw [Spot.fill, Spot.fill, Node.stateAccesses_cond, Node.stateAccesses_cond,
        Clause.stateAccessesOf_append, Clause.stateAccessesOf_append, Clause.stateAccessesOf,
        Clause.stateAccessesOf]
      simpa only [List.append_assoc] using (alike.accessesOfClause spot).between
        (first.stateAccesses ++ Clause.stateAccessesOf before)
        (Clause.stateAccessesOf after ++ Node.stateAccessesOf (otherwise.getD []))
  | elseBranch first elseIfs before after =>
      rw [Spot.fill, Spot.fill, Node.stateAccesses_cond, Node.stateAccesses_cond]
      simpa only [Option.getD_some, List.append_assoc, List.append_nil] using
        (alike.accessesOf before after).between
          (first.stateAccesses ++ Clause.stateAccessesOf elseIfs) []
  | assignTarget rhs | leftOperand op rhs =>
      simp only [Spot.fill, Node.stateAccesses]
      exact alike.accesses.between [] _
  | assignSource lhs | rightOperand op lhs =>
      simp only [Spot.fill, Node.stateAccesses]
      exact last _
  | lookupItem key => exact alike.accessesOfItem key
  | lookupKey item => exact alike.accessesOfKey item
  | memberItem name => exact alike.accessesOfMember name
  | callee args =>
      simp only [Spot.fill, Node.stateAccesses]
      exact alike.accesses.between [] _
  | argument func before after =>
      simp only [Spot.fill, Node.stateAccesses]
      simpa only [List.append_nil] using (alike.accessesOf before after).between _ []
  | emitted | result =>
      simp only [Spot.fill, Node.stateAccesses]
      exact alike.accesses

/-- What the keys of a chain with the exchanged node in it touch. -/
theorem keys_fill (alike : node.LooksAlike old new other) (spot : Spot) :
    Exchanged old new (spot.fill node).keyAccesses (spot.fill other).keyAccesses := by
  cases spot with
  | lookupItem key =>
      simp only [Spot.fill, Node.keyAccesses]
      exact alike.keys.between [] _
  | lookupKey item =>
      simp only [Spot.fill, Node.keyAccesses]
      simpa only [List.append_nil] using alike.accesses.between _ []
  | _ =>
      simp only [Spot.fill, Node.keyAccesses]
      exact .inl rfl

/-- **Nodes that look alike** do so from every place above them. -/
theorem fill (alike : node.LooksAlike old new other) (spot : Spot) :
    (spot.fill node).LooksAlike old new (spot.fill other) where
  kind := by cases spot <;> rfl
  compound := by cases spot <;> rfl
  spelling := by
    cases spot with
    | lookupItem | lookupKey | memberItem | leftOperand | rightOperand =>
        simp only [Spot.fill, Node.spelling, alike.spelling]
    | callee args =>
        simp only [Spot.fill, Node.spelling, Node.title_call alike.compound,
          Node.title_call alike.compound_other]
    | argument func before after => cases func <;> rfl
    | _ => rfl
  message := by
    cases spot with
    | lookupItem key =>
        simp only [Spot.fill, Node.isMessageAccess, alike.message]
    | memberItem name =>
        have ofNode := Node.isMessageAccess_access alike.compound (.member name)
        have ofOther := Node.isMessageAccess_access alike.compound_other (.member name)
        exact ofNode.trans (alike.message.trans ofOther.symm)
    | lookupKey item => simp only [Spot.fill, Node.isMessageAccess]
    | _ => rfl
  target := by
    cases spot with
    | lookupItem key => simp only [Spot.fill, Node.stateTarget?, alike.target]
    | memberItem name =>
        simp only [Spot.fill, Node.stateTarget?_member alike.compound,
          Node.stateTarget?_member alike.compound_other]
    | lookupKey item => simp only [Spot.fill, Node.stateTarget?]
    | _ => rfl
  claim := by cases spot <;> rfl
  decl := by cases spot <;> rfl
  accesses := alike.accesses_fill spot
  keys := alike.keys_fill spot

/-- A contract looks the same whatever its body is. -/
theorem ofContract (name : String) (body changed : List Node) :
    (Node.contract name body).LooksAlike (Node.stateAccessesOf body)
      (Node.stateAccessesOf changed) (.contract name changed) where
  kind := rfl
  compound := rfl
  spelling := rfl
  message := rfl
  target := rfl
  claim := rfl
  decl := rfl
  accesses := by
    rw [Node.stateAccesses, Node.stateAccesses]
    exact .inr ⟨[], [], (List.append_nil _).symm, (List.append_nil _).symm⟩
  keys := .inl rfl

/-- Nodes that look alike are left out in the same words. -/
theorem describe_fill (alike : node.LooksAlike old new other) (spot : Spot) :
    (spot.fill node).describe = (spot.fill other).describe := by
  have spelled := (alike.fill spot).spelling
  cases spot with
  | lookupItem key => exact congrArg ("lookup " ++ ·) spelled
  | lookupKey item => exact congrArg ("lookup " ++ ·) spelled
  | memberItem name => exact congrArg ("member " ++ ·) spelled
  | callee | argument => exact spelled
  | _ => rfl

end Node.LooksAlike

/-! ## Verification of constructs that look alike -/

/-- The rules say the same about two constructs, or they object to an access that is exchanged. -/
def Node.JudgedAlike (old new : List StateTarget) (construct other : Node) : Prop :=
  ∀ table, construct.rules table = other.rules table ∨
    (∃ declared violation, table = some declared ∧ declared.Refuses old violation ∧
      construct.rules table = .error violation) ∨
    ∃ declared violation, table = some declared ∧ declared.Refuses new violation ∧
      other.rules table = .error violation

section Judged

variable {old new : List StateTarget} {node other : Node}

/-- Conditionals that differ in a part of the state that their conditions touch. -/
theorem Node.judgedAlike_cond {first otherFirst : Clause} {elseIfs otherElseIfs : List Clause}
    {otherwise otherOtherwise : Option (List Node)}
    (accesses : Exchanged old new
      (((first :: elseIfs).map Clause.test).flatMap Node.stateAccesses)
      (((otherFirst :: otherElseIfs).map Clause.test).flatMap Node.stateAccesses)) :
    (Node.cond first elseIfs otherwise).JudgedAlike old new
      (.cond otherFirst otherElseIfs otherOtherwise) := by
  intro table
  cases table with
  | none => exact .inl rfl
  | some declared =>
      rcases accesses.checkAccesses declared with
        same | ⟨violation, refused, error⟩ | ⟨violation, refused, error⟩
      · exact .inl same
      · exact .inr (.inl ⟨declared, violation, rfl, refused, error⟩)
      · exact .inr (.inr ⟨declared, violation, rfl, refused, error⟩)

/-- Assignments whose operands look alike. -/
theorem Node.judgedAlike_assign {lhs rhs otherLhs otherRhs : Node}
    (spelling : lhs.spelling = otherLhs.spelling)
    (message : lhs.isMessageAccess = otherLhs.isMessageAccess)
    (target : lhs.stateTarget? = otherLhs.stateTarget?)
    (source : rhs.stateTarget? = otherRhs.stateTarget?)
    (accesses : Exchanged old new (lhs.stateAccesses ++ rhs.stateAccesses)
      (otherLhs.stateAccesses ++ otherRhs.stateAccesses)) :
    (Node.assign lhs rhs).JudgedAlike old new (.assign otherLhs otherRhs) := by
  intro table
  cases readOnly : otherLhs.isMessageAccess with
  | true =>
      refine .inl ?_
      simp only [Node.rules, assignmentRules, message, readOnly, if_true, spelling]
  | false =>
      cases table with
      | none =>
          refine .inl ?_
          simp only [Node.rules, assignmentRules, message, readOnly, Bool.false_eq_true, if_false]
      | some declared =>
          have types : checkTypes declared lhs rhs = checkTypes declared otherLhs otherRhs := by
            simp only [checkTypes, addressed?, addressedItem?, target, source, spelling]
          have ofNode : (Node.assign lhs rhs).rules (some declared) =
              (checkAccesses declared (lhs.stateAccesses ++ rhs.stateAccesses) >>=
                fun _ => checkTypes declared otherLhs otherRhs) := by
            simp only [Node.rules, assignmentRules, message, readOnly, Bool.false_eq_true, if_false,
              types]
          have ofOther : (Node.assign otherLhs otherRhs).rules (some declared) =
              (checkAccesses declared (otherLhs.stateAccesses ++ otherRhs.stateAccesses) >>=
                fun _ => checkTypes declared otherLhs otherRhs) := by
            simp only [Node.rules, assignmentRules, readOnly, Bool.false_eq_true, if_false]
          rw [ofNode, ofOther]
          rcases accesses.checkAccesses declared with
            same | ⟨violation, refused, error⟩ | ⟨violation, refused, error⟩
          · exact .inl (by rw [same])
          · exact .inr (.inl ⟨declared, violation, rfl, refused, by rw [error]; rfl⟩)
          · exact .inr (.inr ⟨declared, violation, rfl, refused, by rw [error]; rfl⟩)

/-- A watcher is judged alike with either node in it. -/
theorem Node.LooksAlike.judgedAlike (alike : node.LooksAlike old new other) {spot : Spot}
    (watched : spot.isWatched = true) : (spot.fill node).JudgedAlike old new (spot.fill other) := by
  cases spot with
  | firstClause inner elseIfs otherwise =>
      cases inner with
      | condition body =>
          refine Node.judgedAlike_cond ?_
          simp only [ClauseSpot.fill, List.map_cons, Clause.test, List.flatMap_cons]
          exact alike.accesses.between [] _
      | statement => cases watched
  | elseIfClause first before inner after otherwise =>
      cases inner with
      | condition body =>
          refine Node.judgedAlike_cond ?_
          have condition : ∀ inserted : Node,
              ((ClauseSpot.condition body).fill inserted).test = inserted := fun _ => rfl
          simp only [List.map_cons, List.map_append, List.flatMap_cons, List.flatMap_append,
            condition]
          simpa only [List.append_assoc] using alike.accesses.between
            (first.test.stateAccesses ++ (before.map Clause.test).flatMap Node.stateAccesses) _
      | statement => cases watched
  | assignTarget rhs =>
      exact Node.judgedAlike_assign alike.spelling alike.message alike.target rfl
        (alike.accesses.between [] _)
  | assignSource lhs =>
      refine Node.judgedAlike_assign rfl rfl rfl alike.target ?_
      simpa only [List.append_nil] using alike.accesses.between lhs.stateAccesses []
  | contractBody | handlerBody | elseBranch | lookupItem | lookupKey | memberItem | leftOperand
  | rightOperand | callee | argument | emitted | result => cases watched

/-- A construct that is no watcher is judged the same with either node in it. -/
theorem Node.LooksAlike.rules_eq (alike : node.LooksAlike old new other) {spot : Spot}
    (unwatched : spot.isWatched = false) : (spot.fill node).rules = (spot.fill other).rules := by
  cases spot with
  | contractBody name before after =>
      simp only [Spot.fill, Node.rules, contractRules, contractRulesBy, List.filterMap_append,
        List.filterMap_cons, alike.claim]
  | firstClause inner elseIfs otherwise =>
      cases inner with
      | condition => cases unwatched
      | statement test before after => rfl
  | elseIfClause first before inner after otherwise =>
      cases inner with
      | condition => cases unwatched
      | statement test stmtsBefore stmtsAfter =>
          simp only [Spot.fill, ClauseSpot.fill, Node.rules, List.map_cons, List.map_append,
            Clause.test]
  | assignTarget | assignSource => cases unwatched
  | handlerBody | elseBranch | lookupItem | lookupKey | memberItem | leftOperand | rightOperand
  | callee | argument | emitted | result => rfl

end Judged

end ContractCompiler
