import ContractCompiler.Proofs.Generation.Definitions
import ContractCompiler.Proofs.State.Expressions

/-!
# Spellings before and after lowering

A term and the value that it is lowered to can both be spelled about as in the source, but the two
are trees of different shapes. Lowering gathers the keys of a state map in one list, joins members
to the text before them and keeps a member apart only where its base has structure. Spelling the
value undoes all of that (`Value.spelling_index`, `Value.spelling_memberOf`), with one exception:
members of the message context become members of the host's message info.

`Node.forwarded` makes that replacement in the tree. A term is lowered to a value that is spelled
like the term with the replacement made, and so like the term itself if it does not read the message
(`Node.lower_spelled`).
-/

namespace ContractCompiler

set_option autoImplicit false

/-! ## Spellings of values -/

namespace Value

theorem spellKeys_append (keys more : List Value) :
    spellKeys (keys ++ more) = spellKeys keys ++ spellKeys more := by
  induction keys with
  | nil => simp [spellKeys]
  | cons key rest ih => simp only [List.cons_append, spellKeys, ih, String.append_assoc]

/-- A lookup is spelled behind its base, whether it is kept or its key joins those of a map. -/
theorem spelling_index (base key : Value) :
    (base.index key).spelling = base.spelling ++ "[" ++ key.spelling ++ "]" := by
  cases base with
  | item name => simp [index, spelling, spellKeys, String.append_assoc]
  | map name keys => simp [index, spelling, spellKeys_append, spellKeys, String.append_assoc]
  | fragment | lookup | member | binary => simp only [index, spelling]

/-- A member is spelled behind its base, apart from members of the text `$msg`. -/
theorem spelling_memberOf {base : Value} (other : base ≠ .fragment messageRoot) (name : String) :
    (base.memberOf name).spelling = base.spelling ++ "." ++ name := by
  cases base with
  | fragment text =>
      have differs : text ≠ messageRoot := by
        intro same
        exact other (congrArg Value.fragment same)
      unfold memberOf
      by_cases root : text = stateRoot
      · simp only [spelling, root]
        rfl
      · simp only [if_neg root, if_neg differs, spelling]
  | item | map | lookup | member | binary => simp only [memberOf, spelling]

end Value

/-! ## Reading the message -/

/-- The node with `info` in place of each item that is spelled `$msg` and has a member read. -/
def Node.forwarded : Node → Node
  | .member item name =>
      .member (if item.spelling = messageRoot then .ident messageInfo else item.forwarded) name
  | .lookup item key => .lookup item.forwarded key.forwarded
  | .binary op lhs rhs => .binary op lhs.forwarded rhs.forwarded
  | node => node

/-- No member at or below the node is read from an item that is spelled `$msg`. -/
def Node.SparesMessage (node : Node) : Prop :=
  ∀ item name, .member item name ∈ node.preorder → item.spelling ≠ messageRoot

theorem Node.SparesMessage.child {node child : Node} (spares : node.SparesMessage)
    (isChild : child ∈ node.children) : child.SparesMessage := by
  intro item name below
  apply spares item name
  rw [Node.preorder_eq]
  exact List.mem_cons_of_mem node (List.mem_flatMap.mpr ⟨child, isChild, below⟩)

namespace Node.IsTerm

variable {node : Node}

/-- A term is spelled `$msg` exactly if it becomes that text. -/
theorem spelling_eq_messageRoot_iff (term : node.IsTerm) (renderer : Renderer) :
    node.spelling = messageRoot ↔ node.value renderer = .fragment messageRoot := by
  -- Whatever is put together has a mark in its spelling that `$msg` does not have.
  have marked : ∀ mark : Char, mark ∈ node.spelling.toList → mark ∉ messageRoot.toList →
      node.value renderer ≠ .fragment messageRoot →
      (node.spelling = messageRoot ↔ node.value renderer = .fragment messageRoot) := by
    intro mark within without differs
    refine iff_of_false ?_ differs
    intro same
    rw [same] at within
    exact without within
  cases term with
  | ident name => rw [Node.spelling, Node.value, Value.fragment.injEq]
  | literal value => rw [Node.spelling, Node.value, Value.fragment.injEq]
  | member ofItem name =>
      apply marked '.'
      · simp [Node.spelling]
      · decide
      · rw [Node.value]
        exact memberOf_ne_undotted (by decide) _ _
  | lookup ofItem ofKey =>
      apply marked '['
      · simp [Node.spelling]
      · decide
      · rw [Node.value]
        exact index_ne_fragment _ _ _
  | binary op ofLeft ofRight =>
      apply marked ' '
      · simp [Node.spelling]
      · decide
      · rw [Node.value]
        intro same
        cases same

/-- **The value of a term is spelled like the term** in which the message info is read. -/
theorem spelling_value (term : node.IsTerm) (renderer : Renderer) :
    (node.value renderer).spelling = node.forwarded.spelling := by
  induction term with
  | ident | literal => simp only [Node.value, Node.forwarded, Node.spelling, Value.spelling]
  | @member item ofItem name spelled =>
      rw [Node.value, Node.forwarded, Node.spelling]
      by_cases message : item.spelling = messageRoot
      · rw [if_pos message, (ofItem.spelling_eq_messageRoot_iff renderer).mp message]
        rfl
      · have other := mt (ofItem.spelling_eq_messageRoot_iff renderer).mpr message
        rw [if_neg message, Value.spelling_memberOf other, spelled]
  | lookup _ _ itemSpelled keySpelled =>
      rw [Node.value, Node.forwarded, Node.spelling, Value.spelling_index, itemSpelled, keySpelled]
  | binary op _ _ leftSpelled rightSpelled =>
      rw [Node.value, Node.forwarded, Node.spelling, Value.spelling, leftSpelled, rightSpelled]

/-- Nothing is replaced in a term that does not read the message. -/
theorem forwarded_eq_self (term : node.IsTerm) (spares : node.SparesMessage) :
    node.forwarded = node := by
  induction term with
  | ident | literal => simp only [Node.forwarded]
  | @member item _ name same =>
      have other := spares item name (Node.self_mem_preorder _)
      rw [Node.forwarded, if_neg other, same (spares.child (by simp [Node.children]))]
  | lookup _ _ itemSame keySame =>
      rw [Node.forwarded, itemSame (spares.child (by simp [Node.children])),
        keySame (spares.child (by simp [Node.children]))]
  | binary op _ _ leftSame rightSame =>
      rw [Node.forwarded, leftSame (spares.child (by simp [Node.children])),
        rightSame (spares.child (by simp [Node.children]))]

end Node.IsTerm

/-- **Lowering keeps the spelling.** In every environment and by every renderer a term is lowered to
a value that is spelled like the term with `info` in place of each item spelled `$msg` that has a
member read. A term without such a member is lowered to a value that is spelled like itself. -/
theorem Node.lower_spelled (renderer : Renderer) (env : Env) (node : Node) (term : node.IsTerm) :
    ∃ value, node.lower renderer env = .ok value env ∧
      value.spelling = node.forwarded.spelling ∧
      (node.SparesMessage → value.spelling = node.spelling) := by
  refine ⟨node.value renderer, term.lower_eq renderer env, term.spelling_value renderer, ?_⟩
  intro spares
  rw [term.spelling_value, term.forwarded_eq_self spares]

/-- The expression `$state.balances[$msg.sender].amount + $msg.funds[0]`. -/
def senderBalance : Node :=
  .binary "+"
    (.member (.lookup (.state "balances") (.message "sender")) "amount")
    (.lookup (.message "funds") (.literal (.int "0")))

/-- The expression `$state.allowances[owner][$state.spender].limit`. -/
def spenderLimit : Node :=
  .member (.lookup (.lookup (.state "allowances") (.ident "owner")) (.state "spender")) "limit"

/-- The message is read in a key and as an operand of its own; without it the spelling stays. -/
theorem senderBalance_spelled :
    (∃ value, senderBalance.lower nameTemplate { frames := [.exec "f"] } =
        .ok value { frames := [.exec "f"] } ∧
      value.spelling = "$state.balances[info.sender].amount + info.funds[0]") ∧
    ∃ value, spenderLimit.lower nameTemplate {} = .ok value {} ∧
      value.spelling = "$state.allowances[owner][$state.spender].limit" := by
  have term : senderBalance.IsTerm :=
    .binary "+" (.member (.lookup (.member (.ident _) _) (.member (.ident _) _)) _)
      (.lookup (.member (.ident _) _) (.literal _))
  have limitTerm : spenderLimit.IsTerm :=
    .member (.lookup (.lookup (.member (.ident _) _) (.ident _)) (.member (.ident _) _)) _
  have spares : spenderLimit.SparesMessage := by
    intro item name listed
    simp only [spenderLimit, Node.state, Node.preorder_eq, Node.children, List.flatMap_cons,
      List.flatMap_nil, List.append_nil, List.cons_append, List.nil_append, List.mem_cons,
      List.not_mem_nil, or_false, reduceCtorEq, false_or, Node.member.injEq] at listed
    rcases listed with ⟨rfl, _⟩ | ⟨rfl, _⟩ | ⟨rfl, _⟩
    · decide
    · decide
    · decide
  obtain ⟨value, lowered, spelled, _⟩ :=
    Node.lower_spelled nameTemplate { frames := [.exec "f"] } senderBalance term
  obtain ⟨limit, limitLowered, _, same⟩ := Node.lower_spelled nameTemplate {} spenderLimit limitTerm
  exact ⟨⟨value, lowered, spelled.trans (by decide)⟩,
    ⟨limit, limitLowered, (same spares).trans (by decide)⟩⟩

end ContractCompiler
