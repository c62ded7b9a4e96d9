import ContractCompiler.Proofs.State.References

/-!
# What lowering refers to is what verification sees

Identifiers and literals, put together by members, lookups and operations, are terms. Lowering
builds the value of a term from its parts upwards and adds a key to a state map with every lookup.
Verification goes from the whole down to its parts and counts the lookups that it passes. Both find
the same state, as often and in the same order, whatever is nested in the keys
(`Node.lower_refers_to_stateAccesses`), as long as no integer literal stands for `$state`.

A term is lowered without an event, so it cannot fail, and the renderer has no part in its value
(`Node.IsTerm.value_eq`).
-/

namespace ContractCompiler

set_option autoImplicit false

/-! ## Terms and expressions -/

/-- A term: identifiers and literals, put together by members, lookups and operations. -/
inductive Node.IsTerm : Node → Prop where
  | ident (name : String) : IsTerm (.ident name)
  | literal (value : Literal) : IsTerm (.literal value)
  | member {item : Node} (ofItem : item.IsTerm) (name : String) : IsTerm (.member item name)
  | lookup {item key : Node} (ofItem : item.IsTerm) (ofKey : key.IsTerm) :
      IsTerm (.lookup item key)
  | binary (op : String) {lhs rhs : Node} (ofLeft : lhs.IsTerm) (ofRight : rhs.IsTerm) :
      IsTerm (.binary op lhs rhs)

namespace Node.IsTerm

variable {node : Node}

/-- Nothing can fail in lowering a term. -/
theorem events_eq_nil (term : node.IsTerm) (renderer : Renderer) : node.events renderer = [] := by
  induction term with
  | ident | literal => rw [Node.events]
  | member _ _ ofItem => rw [Node.events, ofItem]
  | lookup _ _ ofItem ofKey => rw [Node.events, ofItem, ofKey, List.append_nil]
  | binary _ _ _ ofLeft ofRight => rw [Node.events, ofLeft, ofRight, List.append_nil]

/-- The renderer has no part in the value of a term. -/
theorem value_eq (term : node.IsTerm) (first second : Renderer) :
    node.value first = node.value second := by
  induction term with
  | ident | literal => rw [Node.value, Node.value]
  | member _ _ ofItem => rw [Node.value, Node.value, ofItem]
  | lookup _ _ ofItem ofKey => rw [Node.value, Node.value, ofItem, ofKey]
  | binary _ _ _ ofLeft ofRight => rw [Node.value, Node.value, ofLeft, ofRight]

/-- **A term is lowered to its value**, and the environment is left as it is. -/
theorem lower_eq (term : node.IsTerm) (renderer : Renderer) (env : Env) :
    node.lower renderer env = .ok (node.value renderer) env := by
  rw [Node.lower_eq_replay, term.events_eq_nil]
  rfl

end Node.IsTerm

/-- An expression: a term in which no integer literal is written `$state`. -/
inductive Node.IsExpression : Node → Prop where
  | ident (name : String) : IsExpression (.ident name)
  | literal {value : Literal} (visible : value ≠ .int stateRoot) : IsExpression (.literal value)
  | member {item : Node} (ofItem : item.IsExpression) (name : String) :
      IsExpression (.member item name)
  | lookup {item key : Node} (ofItem : item.IsExpression) (ofKey : key.IsExpression) :
      IsExpression (.lookup item key)
  | binary (op : String) {lhs rhs : Node} (ofLeft : lhs.IsExpression)
      (ofRight : rhs.IsExpression) : IsExpression (.binary op lhs rhs)

namespace Node.IsExpression

variable {node : Node}

theorem isTerm (expression : node.IsExpression) : node.IsTerm := by
  induction expression with
  | ident name => exact .ident name
  | literal => exact .literal _
  | member _ name ofItem => exact .member ofItem name
  | lookup _ _ ofItem ofKey => exact .lookup ofItem ofKey
  | binary op _ _ ofLeft ofRight => exact .binary op ofLeft ofRight

/-- The renderer has no part in the value of an expression. -/
theorem value_eq (expression : node.IsExpression) (first second : Renderer) :
    node.value first = node.value second :=
  expression.isTerm.value_eq first second

/-- **An expression is lowered to its value**, and the environment is left as it is. -/
theorem lower_eq (expression : node.IsExpression) (renderer : Renderer) (env : Env) :
    node.lower renderer env = .ok (node.value renderer) env :=
  expression.isTerm.lower_eq renderer env

/-! ## Nothing is hidden in an expression -/

/-- An expression that becomes the text `$state` is the identifier. -/
theorem stateRoot?_ne_hidden (expression : node.IsExpression) : node.stateRoot? ≠ some true := by
  cases expression with
  | ident name =>
      rw [Node.stateRoot?]
      split <;> simp
  | @literal value visible =>
      cases value with
      | int digits =>
          have other : digits ≠ stateRoot := fun same => visible (congrArg Literal.int same)
          rw [Node.stateRoot?, if_neg other]
          intro hidden
          cases hidden
      | str | bool =>
          intro hidden
          cases hidden
  | member | lookup | binary =>
      intro hidden
      cases hidden

/-- The state that an expression is, is not hidden. -/
theorem reference?_visible (expression : node.IsExpression) {reference : Reference}
    (found : node.reference? = some reference) : reference.hidden = false := by
  induction expression generalizing reference with
  | ident | literal | binary => cases found
  | member ofItem name =>
      rw [Node.reference?] at found
      obtain ⟨hidden, root, rfl⟩ := Option.map_eq_some_iff.mp found
      cases hidden with
      | false => rfl
      | true => exact absurd root ofItem.stateRoot?_ne_hidden
  | lookup _ _ ofItem =>
      rw [Node.reference?] at found
      obtain ⟨inner, chain, rfl⟩ := Option.map_eq_some_iff.mp found
      have visible : inner.hidden = false := ofItem chain
      exact visible

/-- Verification finds that an expression is state exactly if lowering does. -/
theorem reference?_eq (expression : node.IsExpression) :
    node.reference? = node.stateTarget?.map fun target => ⟨target, false⟩ := by
  cases found : node.reference? with
  | some reference =>
      obtain ⟨target, hidden⟩ := reference
      have visible : hidden = false := expression.reference?_visible found
      subst visible
      rw [(node.stateTarget?_eq_some_iff target).mpr found]
      rfl
  | none =>
      cases addressed : node.stateTarget? with
      | none => rfl
      | some target =>
          rw [(node.stateTarget?_eq_some_iff target).mp addressed] at found
          cases found

end Node.IsExpression

/-! ## The same state in the same order -/

/-- Both ways of listing state agree on a node: on all that it touches, and on what the keys touch
if the node is a chain of lookups. -/
structure Node.ListedAlike (node : Node) : Prop where
  all : node.references.map Reference.target = node.stateAccesses
  keys : node.keyReferences.map Reference.target = node.keyAccesses

namespace Node.ListedAlike

/-- A node that touches nothing and has no keys. -/
theorem empty {node : Node} (references : node.references = [])
    (accesses : node.stateAccesses = []) (keyReferences : node.keyReferences = [])
    (keyAccesses : node.keyAccesses = []) : node.ListedAlike where
  all := by rw [references, accesses, List.map_nil]
  keys := by rw [keyReferences, keyAccesses, List.map_nil]

theorem member {item : Node} (expression : item.IsExpression) (ofItem : item.ListedAlike)
    (name : String) : (Node.member item name).ListedAlike where
  all := by
    have agree := (expression.member name).reference?_eq
    rw [Node.reference?] at agree
    rw [Node.references, Node.stateAccesses]
    cases root : item.stateRoot? with
    | some hidden =>
        rw [root, Option.map_some, eq_comm, Option.map_eq_some_iff] at agree
        obtain ⟨target, addressed, same⟩ := agree
        cases same
        rw [addressed]
        rfl
    | none =>
        rw [root, Option.map_none, eq_comm, Option.map_eq_none_iff] at agree
        rw [agree]
        exact ofItem.all
  keys := by simp only [Node.keyReferences, Node.keyAccesses, List.map_nil]

/-- A chain of lookups in state comes before its keys; any other lookup is the sum of its parts. -/
theorem lookup {item key : Node} (expression : item.IsExpression) (ofItem : item.ListedAlike)
    (ofKey : key.ListedAlike) : (Node.lookup item key).ListedAlike where
  all := by
    have agree := expression.reference?_eq
    rw [Node.references]
    cases addressed : item.stateTarget? with
    | some target =>
        rw [addressed, Option.map_some] at agree
        rw [agree, Node.stateAccesses_lookup_some addressed, List.map_cons, List.map_append,
          ofItem.keys, ofKey.all]
        rfl
    | none =>
        rw [addressed, Option.map_none] at agree
        rw [agree, Node.stateAccesses_lookup_none addressed, List.map_append, ofItem.all,
          ofKey.all]
  keys := by
    rw [Node.keyReferences, Node.keyAccesses, List.map_append, ofItem.keys, ofKey.all]

theorem binary {lhs rhs : Node} (ofLeft : lhs.ListedAlike) (ofRight : rhs.ListedAlike)
    (op : String) : (Node.binary op lhs rhs).ListedAlike where
  all := by
    rw [Node.references, Node.stateAccesses, List.map_append, ofLeft.all, ofRight.all]
  keys := by simp only [Node.keyReferences, Node.keyAccesses, List.map_nil]

end Node.ListedAlike

/-- In an expression all references are seen by verification, in their order. -/
theorem Node.IsExpression.listedAlike {node : Node} (expression : node.IsExpression) :
    node.ListedAlike := by
  induction expression with
  | ident | literal =>
      refine .empty ?_ ?_ ?_ ?_
      · rw [Node.references]
        all_goals exact nofun
      · rw [Node.stateAccesses]
      · rw [Node.keyReferences]
        exact nofun
      · rw [Node.keyAccesses]
        exact nofun
  | member ofItem name alike => exact alike.member ofItem name
  | lookup ofItem _ itemAlike keyAlike => exact itemAlike.lookup ofItem keyAlike
  | binary op _ _ leftAlike rightAlike => exact leftAlike.binary rightAlike op

/-- **Lowering refers to what verification sees.** An expression is lowered in every environment and
by every renderer, and the state that its value refers to is the state that verification finds in
the tree: the same targets with the same numbers of keys, each as often, in the same order. -/
theorem Node.lower_refers_to_stateAccesses (renderer : Renderer) (env : Env) (node : Node)
    (expression : node.IsExpression) :
    ∃ value, node.lower renderer env = .ok value env ∧ value.references = node.stateAccesses := by
  refine ⟨node.value renderer, expression.lower_eq renderer env, ?_⟩
  -- A renderer that answers with nothing never makes up the text `$state`.
  have spares : Renderer.SparesRoot fun _ => .ok "" := by
    intro construct binding _
    exact (by decide : "" ≠ stateRoot)
  rw [expression.value_eq renderer fun _ => .ok "", (node.refersAsRead spares).references,
    expression.listedAlike.all]

/-- The expression `$state.m[$state.k[a]].f + $state.n["x"][$msg.sender]`. -/
def keysWithinKeys : Node :=
  .binary "+"
    (.member (.lookup (.state "m") (.lookup (.state "k") (.ident "a"))) "f")
    (.lookup (.lookup (.state "n") (.literal (.str "x"))) (.message "sender"))

/-- The key `k` of `m` comes right after `m`, and `n` has two keys. -/
theorem keysWithinKeys_references :
    keysWithinKeys.IsExpression ∧
    ∃ value, keysWithinKeys.lower nameTemplate { frames := [.exec "f"] } =
        .ok value { frames := [.exec "f"] } ∧
      value.references = [⟨"m", 1⟩, ⟨"k", 1⟩, ⟨"n", 2⟩] := by
  have expression : keysWithinKeys.IsExpression :=
    .binary "+"
      (.member (.lookup (.member (.ident _) _) (.lookup (.member (.ident _) _) (.ident _))) _)
      (.lookup (.lookup (.member (.ident _) _) (.literal nofun)) (.member (.ident _) _))
  exact ⟨expression,
    Node.lower_refers_to_stateAccesses nameTemplate { frames := [.exec "f"] } _ expression⟩

end ContractCompiler
