import ContractCompiler.Proofs.Generation.Programs
import ContractCompiler.Proofs.Generation.Rendered
import ContractCompiler.Proofs.State.Chains
import ContractCompiler.Proofs.State.Expressions
import Mathlib.Tactic.Choose

/-!
# Normal values

A value can spell access to state in more than one way: an item could be a map without keys, an
entry of a map could be a lookup in an item, and a member of a text could be the text with the
member in it. Lowering always takes the same way. In a normal value, and in all parts of it, a map
has a key, a lookup is not in state, and a member is not of a text (`Value.Normal`).

Members and lookups of normal values are normal, and the text of a construct is normal whatever went
into it. So every node has a normal value, and bindings hold such values only (`Node.lower_normal`).
Nothing more can be said about the values of nodes: every normal value is one
(`Value.normal_iff_lowered`).
-/

namespace ContractCompiler

set_option autoImplicit false

/-! ## Normal values -/

/-- A value in normal form, with all its parts. -/
inductive Value.Normal : Value → Prop where
  | item (key : String) : Normal (.item key)
  | map (base : String) {keys : List Value} (applied : keys ≠ [])
      (ofKeys : ∀ key ∈ keys, Normal key) : Normal (.map base keys)
  | fragment (text : String) : Normal (.fragment text)
  | lookup {base key : Value} (notState : base.isState = false) (ofBase : Normal base)
      (ofKey : Normal key) : Normal (.lookup base key)
  | member {base : Value} (notText : base.fragment? = none) (ofBase : Normal base)
      (name : String) : Normal (.member base name)
  | binary (op : String) {lhs rhs : Value} (ofLeft : Normal lhs) (ofRight : Normal rhs) :
      Normal (.binary op lhs rhs)

namespace Value.Normal

/-- A lookup in a normal value is normal: in state it adds a key. -/
theorem index {base key : Value} (ofBase : base.Normal) (ofKey : key.Normal) :
    (base.index key).Normal := by
  cases ofBase with
  | item name =>
      refine .map name (List.cons_ne_nil key []) fun other listed => ?_
      rwa [List.mem_singleton.mp listed]
  | @map name keys _ ofKeys =>
      refine .map name (List.append_ne_nil_of_right_ne_nil keys (List.cons_ne_nil key [])) ?_
      intro other listed
      rcases List.mem_append.mp listed with earlier | last
      · exact ofKeys other earlier
      · rwa [List.mem_singleton.mp last]
  | fragment text => exact .lookup rfl (.fragment text) ofKey
  | lookup notState inBase inKey => exact .lookup rfl (.lookup notState inBase inKey) ofKey
  | member notText inBase name => exact .lookup rfl (.member notText inBase name) ofKey
  | binary op inLeft inRight => exact .lookup rfl (.binary op inLeft inRight) ofKey

/-- A member of a normal value is normal: of a text it is an item or a text. -/
theorem memberOf {base : Value} (ofBase : base.Normal) (name : String) :
    (base.memberOf name).Normal := by
  cases ofBase with
  | fragment text =>
      unfold Value.memberOf
      dsimp only
      split
      · exact .item name
      · split
        · exact .fragment _
        · exact .fragment _
  | item key => exact .member rfl (.item key) name
  | map base applied ofKeys => exact .member rfl (.map base applied ofKeys) name
  | lookup notState inBase inKey => exact .member rfl (.lookup notState inBase inKey) name
  | member notText inBase inner => exact .member rfl (.member notText inBase inner) name
  | binary op inLeft inRight => exact .member rfl (.binary op inLeft inRight) name

end Value.Normal

/-- **Every node has a normal value.** -/
theorem Node.value_normal (renderer : Renderer) : ∀ node : Node, (node.value renderer).Normal
  | .binary op lhs rhs => by
      rw [Node.value]
      exact .binary op (lhs.value_normal renderer) (rhs.value_normal renderer)
  | .lookup item key => by
      rw [Node.value]
      exact (item.value_normal renderer).index (key.value_normal renderer)
  | .member item name => by
      rw [Node.value]
      exact (item.value_normal renderer).memberOf name
  | .contract .. | .exec .. | .cond .. | .assign .. | .ident _ | .literal _ | .stateItem ..
  | .stateMap .. | .call .. | .emit _ | .ret _ => by
      rw [Node.value]
      exact .fragment _

/-! ## Values in bindings -/

/-- The slot holds the value, as it is or in one of its parts. -/
inductive Slot.Holds : Slot → Value → Prop where
  | value (lowered : Value) : Holds (.value lowered) lowered
  | first {first : Slot} {lowered : Value} (inFirst : Holds first lowered) (second : Slot) :
      Holds (.pair first second) lowered
  | second (first : Slot) {second : Slot} {lowered : Value} (inSecond : Holds second lowered) :
      Holds (.pair first second) lowered
  | item {items : List Slot} {item : Slot} {lowered : Value} (listed : item ∈ items)
      (inItem : Holds item lowered) : Holds (.list items) lowered

/-- The binding holds the value in one of its slots. -/
def Binding.Holds (binding : Binding) (lowered : Value) : Prop :=
  ∃ entry ∈ binding.slots, entry.2.Holds lowered

section Holds

variable {lowered : Value}

theorem Slot.Holds.mem_of_values {values : List Value}
    (holds : (Slot.values values).Holds lowered) : lowered ∈ values := by
  cases holds with
  | item listed inItem =>
      obtain ⟨value, member, rfl⟩ := List.mem_map.mp listed
      cases inItem
      exact member

theorem Slot.Holds.of_clause {test : Value} {body : List Value}
    (holds : (Slot.clause test body).Holds lowered) : lowered = test ∨ lowered ∈ body := by
  cases holds with
  | first inFirst =>
      cases inFirst
      exact .inl rfl
  | second _ inSecond => exact .inr inSecond.mem_of_values

/-- The values of a list belong to nodes of the list. -/
theorem Node.exists_of_mem_valuesExcept {renderer : Renderer} {skip : Node → Bool}
    {nodes : List Node} (listed : lowered ∈ Node.valuesExcept renderer skip nodes) :
    ∃ node : Node, lowered = node.value renderer := by
  rw [Node.valuesExcept_eq_map] at listed
  obtain ⟨node, _, rfl⟩ := List.mem_map.mp listed
  exact ⟨node, rfl⟩

theorem Clause.exists_of_slot_holds {renderer : Renderer} {clause : Clause}
    (holds : (clause.slot renderer).Holds lowered) :
    ∃ node : Node, lowered = node.value renderer := by
  obtain ⟨test, body⟩ := clause
  rw [Clause.slot] at holds
  rcases holds.of_clause with rfl | listed
  · exact ⟨test, rfl⟩
  · exact Node.exists_of_mem_valuesExcept listed

theorem Clause.exists_of_mem_slots {renderer : Renderer} {clauses : List Clause} {slot : Slot}
    (listed : slot ∈ Clause.slots renderer clauses) :
    ∃ clause : Clause, slot = clause.slot renderer := by
  induction clauses with
  | nil =>
      rw [Clause.slots] at listed
      cases listed
  | cons clause rest ih =>
      rw [Clause.slots] at listed
      rcases List.mem_cons.mp listed with rfl | later
      · exact ⟨clause, rfl⟩
      · exact ih later

/-- The binding of an assignment holds its two operands. -/
theorem Binding.holds_ofAssignment {targetIsIdent : Bool} {lhs rhs : Value} :
    (Binding.ofAssignment targetIsIdent lhs rhs).Holds lowered ↔ lowered = lhs ∨ lowered = rhs := by
  constructor
  · rintro ⟨entry, listed, inSlot⟩
    simp only [Binding.ofAssignment, List.mem_cons, List.not_mem_nil, or_false] at listed
    rcases listed with rfl | rfl | rfl | rfl
    · cases inSlot
      exact .inl rfl
    · cases inSlot
      exact .inr rfl
    · cases inSlot
    · cases inSlot
  · rintro (rfl | rfl)
    · exact ⟨_, List.mem_cons_self, .value _⟩
    · exact ⟨_, List.mem_cons_of_mem _ List.mem_cons_self, .value _⟩

/-- **The binding of a construct holds values of nodes only.** -/
theorem Node.exists_of_binding_holds {renderer : Renderer} {construct : Node} {binding : Binding}
    (bound : construct.binding? renderer = some binding) (holds : binding.Holds lowered) :
    ∃ node : Node, lowered = node.value renderer := by
  cases construct with
  | contract name body =>
      cases bound
      obtain ⟨entry, listed, inSlot⟩ := holds
      simp only [Binding.ofContract, List.mem_cons, List.not_mem_nil, or_false] at listed
      rcases listed with rfl | rfl | rfl
      · cases inSlot
      · cases inSlot with
        | item ofState inItem =>
            obtain ⟨decl, _, rfl⟩ := List.mem_map.mp ofState
            cases inItem
      · exact Node.exists_of_mem_valuesExcept inSlot.mem_of_values
  | exec name params body =>
      cases bound
      obtain ⟨entry, listed, inSlot⟩ := holds
      simp only [Binding.ofHandler, List.mem_cons, List.not_mem_nil, or_false] at listed
      rcases listed with rfl | rfl | rfl
      · cases inSlot
      · cases inSlot with
        | item ofParam inItem =>
            obtain ⟨param, _, rfl⟩ := List.mem_map.mp ofParam
            cases inItem with
            | first inName => cases inName
            | second _ inType => cases inType
      · exact Node.exists_of_mem_valuesExcept inSlot.mem_of_values
  | cond first elseIfs otherwise =>
      cases bound
      obtain ⟨entry, listed, inSlot⟩ := holds
      simp only [Binding.ofConditional, List.mem_cons, List.not_mem_nil, or_false] at listed
      rcases listed with rfl | rfl | rfl
      · exact Clause.exists_of_slot_holds inSlot
      · cases inSlot with
        | item ofClause inItem =>
            obtain ⟨clause, rfl⟩ := Clause.exists_of_mem_slots ofClause
            exact Clause.exists_of_slot_holds inItem
      · cases otherwise with
        | none =>
            rw [Node.otherwiseSlot] at inSlot
            cases inSlot
        | some body =>
            rw [Node.otherwiseSlot] at inSlot
            exact Node.exists_of_mem_valuesExcept inSlot.mem_of_values
  | assign lhs rhs =>
      cases bound
      rcases Binding.holds_ofAssignment.mp holds with rfl | rfl
      · exact ⟨lhs, rfl⟩
      · exact ⟨rhs, rfl⟩
  | stateItem | stateMap | lookup | member | ident | literal | binary | call | emit | ret =>
      cases bound

end Holds

/-- **Lowering gives normal values.** If a node is lowered, its value is normal. Whether or not it
is, every binding that is handed to the renderer on the way holds normal values only. -/
theorem Node.lower_normal (renderer : Renderer) (node : Node) (env : Env) :
    (∀ value left, node.lower renderer env = .ok value left → value.Normal) ∧
    ∃ made, (leftBehind (node.lower renderer env)).calls = made ++ env.calls ∧
      ∀ call ∈ made, ∀ value, call.binding.Holds value → value.Normal := by
  rw [Node.lower_eq_replay]
  constructor
  · intro value left lowered
    obtain ⟨_, rfl, _⟩ := replay_eq_ok renderer lowered
    exact node.value_normal renderer
  · rw [replay_leftBehind_eq]
    refine ⟨_, rfl, fun call made value holds => ?_⟩
    obtain ⟨event, met, calls⟩ := List.mem_filterMap.mp (List.mem_reverse.mp made)
    have inEvents := metEvents_isPrefix.subset met
    obtain ⟨construct, bound, _⟩ := (node.events_verified_and_rendered renderer).verified event
      inEvents call.binding (Event.call?_eq_some calls).1
    obtain ⟨part, rfl⟩ := Node.exists_of_binding_holds bound holds
    exact part.value_normal renderer

/-- The assignment `$state.m[$state.k] = $state.config.owner`. -/
def storedMember : Node :=
  .assign (.lookup (.state "m") (.state "k")) (.member (.state "config") "owner")

/-- `storedMember` is lowered to a normal text. One binding is handed over for it, which holds an
entry of a map and a member of an item, and both are normal. -/
theorem storedMember_normal :
    ∃ left call, storedMember.lower nameTemplate {} = .ok (.fragment "set-state-map") left ∧
      left.calls = [call] ∧
      call.binding =
        .ofAssignment false (.map "m" [.item "k"]) (.member (.item "config") "owner") ∧
      (∀ value, call.binding.Holds value ↔
        value = .map "m" [.item "k"] ∨ value = .member (.item "config") "owner") ∧
      Value.Normal (.fragment "set-state-map") ∧ Value.Normal (.map "m" [.item "k"]) ∧
      Value.Normal (.member (.item "config") "owner") := by
  obtain ⟨ofText, made, calls, ofBindings⟩ := storedMember.lower_normal nameTemplate {}
  obtain rfl : [⟨.ofAssignment false (.map "m" [.item "k"]) (.member (.item "config") "owner"),
      [.assign (.lookup (.state "m") (.state "k"))], none⟩] = made := by
    rwa [List.append_nil] at calls
  have normal := ofBindings _ List.mem_cons_self
  refine ⟨_, _, rfl, rfl, rfl, fun value => Binding.holds_ofAssignment, ofText _ _ rfl, ?_, ?_⟩
  · exact normal _ (Binding.holds_ofAssignment.mpr (.inl rfl))
  · exact normal _ (Binding.holds_ofAssignment.mpr (.inr rfl))

/-! ## Every normal value is lowered -/

/-- Lookups with expressions as keys make an expression of an expression. -/
theorem Node.IsExpression.reach_lookups {root : Node} (ofRoot : root.IsExpression)
    {keys : List Node} (ofKeys : ∀ key ∈ keys, key.IsExpression) :
    (root.reach (keys.map .lookup)).IsExpression := by
  induction keys generalizing root with
  | nil => exact ofRoot
  | cons key rest ih =>
      exact ih (.lookup ofRoot (ofKeys key List.mem_cons_self)) fun later listed =>
        ofKeys later (List.mem_cons_of_mem _ listed)

/-- A normal value is the value of an expression. -/
theorem Value.Normal.exists_expression {value : Value} (normal : value.Normal) :
    ∃ node : Node, node.IsExpression ∧ ∀ renderer, node.value renderer = value := by
  induction normal with
  | item key =>
      refine ⟨.state key, .member (.ident stateRoot) key, fun renderer => ?_⟩
      rw [Node.state, Node.value, Node.value]
      rfl
  | @map base keys applied _ ih =>
      have : Nonempty Node := ⟨.ident ""⟩
      choose! source expressions values using ih
      have root : (Node.state base).IsExpression := .member (.ident stateRoot) base
      refine ⟨(Node.state base).reach ((keys.map source).map .lookup),
        root.reach_lookups (List.forall_mem_map.mpr expressions), fun renderer => ?_⟩
      have item : (Node.state base).value renderer = Value.ofState base [] := by
        rw [Node.state, Node.value, Node.value]
        rfl
      have sources : (keys.map source).map (Node.value renderer) = keys := by
        rw [List.map_map]
        refine (List.map_congr_left fun key listed => ?_).trans (List.map_id keys)
        exact values key listed renderer
      rw [Node.value_reach, item, Value.reach_lookups, sources, List.nil_append]
      cases keys with
      | nil => exact absurd rfl applied
      | cons key rest => rfl
  | fragment text =>
      refine ⟨.ident text, .ident text, fun renderer => ?_⟩
      rw [Node.value]
  | @lookup base key notState _ _ ofBase ofKey =>
      obtain ⟨item, itemExpression, itemValue⟩ := ofBase
      obtain ⟨keyNode, keyExpression, keyValue⟩ := ofKey
      refine ⟨.lookup item keyNode, .lookup itemExpression keyExpression, fun renderer => ?_⟩
      rw [Node.value, itemValue, keyValue]
      cases base with
      | item | map => cases notState
      | fragment | lookup | member | binary => rfl
  | @member base notText _ name ofBase =>
      obtain ⟨item, itemExpression, itemValue⟩ := ofBase
      refine ⟨.member item name, .member itemExpression name, fun renderer => ?_⟩
      rw [Node.value, itemValue]
      cases base with
      | fragment => cases notText
      | item | map | lookup | member | binary => rfl
  | @binary op lhs rhs _ _ ofLeft ofRight =>
      obtain ⟨left, leftExpression, leftValue⟩ := ofLeft
      obtain ⟨right, rightExpression, rightValue⟩ := ofRight
      refine ⟨.binary op left right, .binary op leftExpression rightExpression, fun renderer => ?_⟩
      rw [Node.value, leftValue, rightValue]

/-- **The values of nodes are the normal values.** -/
theorem Value.normal_iff_lowered (renderer : Renderer) (env : Env) (value : Value) :
    value.Normal ↔ ∃ node : Node, returned (node.lower renderer env) = .ok value := by
  constructor
  · intro normal
    obtain ⟨node, expression, hasValue⟩ := normal.exists_expression
    refine ⟨node, ?_⟩
    rw [expression.lower_eq, hasValue]
    rfl
  · rintro ⟨node, lowered⟩
    obtain ⟨_, rfl⟩ := Node.lower_ok lowered
    exact node.value_normal renderer

end ContractCompiler
