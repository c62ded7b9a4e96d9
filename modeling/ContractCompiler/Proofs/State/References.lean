import ContractCompiler.Proofs.Generation.Walk

/-!
# References to state

Verification looks for access to state in the tree, and lowering looks for it in the texts that it
has made: a member of whatever has become the text `$state` is a state item. The two agree on the
identifier `$state`. They differ on an integer literal with that text, which verification takes for
a number. Such a reference is called hidden.

`Value.references` lists the state that a value refers to, and `Node.references` lists what the
value of a node will refer to, hidden or not, without lowering it (`Node.refersAsRead`). What is not
hidden is seen by verification (`Node.visible_mem_stateAccesses`).
-/

namespace ContractCompiler

set_option autoImplicit false

/-! ## References of values -/

mutual

/-- The state that a value refers to. A map comes before what its keys refer to. -/
def Value.references : Value → List StateTarget
  | .item key => [⟨key, 0⟩]
  | .map base keys => ⟨base, keys.length⟩ :: Value.referencesOf keys
  | .fragment _ => []
  | .lookup base key => base.references ++ key.references
  | .member base _ => base.references
  | .binary _ lhs rhs => lhs.references ++ rhs.references

/-- The state that a list of values refers to. -/
def Value.referencesOf : List Value → List StateTarget
  | [] => []
  | value :: rest => value.references ++ Value.referencesOf rest

end

/-- The state that a value is, with the keys applied to it. -/
def Value.state? : Value → Option (String × List Value)
  | .item key => some (key, [])
  | .map base keys => some (base, keys)
  | .fragment _ | .lookup .. | .member .. | .binary .. => none

namespace Value

theorem referencesOf_append (values more : List Value) :
    referencesOf (values ++ more) = referencesOf values ++ referencesOf more := by
  induction values with
  | nil => rw [List.nil_append, referencesOf, List.nil_append]
  | cons value rest ih =>
      rw [List.cons_append, referencesOf, referencesOf, ih, List.append_assoc]

/-- A lookup in state adds a key. -/
theorem index_of_state {value : Value} {base : String} {keys : List Value}
    (state : value.state? = some (base, keys)) (key : Value) :
    value.index key = .map base (keys ++ [key]) := by
  cases value with
  | item | map =>
      cases state
      rfl
  | fragment | lookup | member | binary => cases state

/-- A lookup in anything else is kept. -/
theorem index_of_no_state {value : Value} (plain : value.state? = none) (key : Value) :
    value.index key = .lookup value key := by
  cases value with
  | item | map => cases plain
  | fragment | lookup | member | binary => rfl

/-- A member of anything but the text `$state` refers to what it is a member of, and is no state
itself. -/
theorem memberOf_of_ne {base : Value} (other : base ≠ .fragment stateRoot) (name : String) :
    (base.memberOf name).references = base.references ∧ (base.memberOf name).state? = none := by
  cases base with
  | fragment text =>
      have differs : text ≠ stateRoot := fun same => other (congrArg Value.fragment same)
      unfold memberOf
      simp only [if_neg differs]
      split <;> exact ⟨by simp only [references], rfl⟩
  | item | map | lookup | member | binary =>
      refine ⟨?_, rfl⟩
      show (Value.member _ name).references = _
      simp only [references]

end Value

/-! ## References of nodes -/

/-- A reference to state. It is hidden if it is made through an integer literal. -/
structure Reference where
  target : StateTarget
  hidden : Bool
  deriving DecidableEq, Repr

/-- The reference with one more lookup applied to it. -/
def Reference.indexed (reference : Reference) : Reference :=
  { reference with
    target := { reference.target with lookups := reference.target.lookups + 1 } }

/-- Whether a node becomes the text `$state`, and if it does, whether it is an integer literal. -/
def Node.stateRoot? : Node → Option Bool
  | .ident name => if name = stateRoot then some false else none
  | .literal (.int digits) => if digits = stateRoot then some true else none
  | _ => none

/-- The state that the value of a node is, if it is state. -/
def Node.reference? : Node → Option Reference
  | .member item name => item.stateRoot?.map fun hidden => ⟨⟨name, 0⟩, hidden⟩
  | .lookup item _ => item.reference?.map Reference.indexed
  | _ => none

mutual

/-- The state that the value of a node refers to, in the order of `Value.references`. -/
def Node.references : Node → List Reference
  | .lookup item key =>
      match item.reference? with
      | some reference => reference.indexed :: (item.keyReferences ++ key.references)
      | none => item.references ++ key.references
  | .member item name =>
      match item.stateRoot? with
      | some hidden => [⟨⟨name, 0⟩, hidden⟩]
      | none => item.references
  | .binary _ lhs rhs => lhs.references ++ rhs.references
  | _ => []

/-- The state that the keys of a chain of lookups refer to, first key first. -/
def Node.keyReferences : Node → List Reference
  | .lookup item key => item.keyReferences ++ key.references
  | _ => []

end

/-! ## What lowering takes for state -/

/-- A renderer that never answers to the binding of a construct with the text `$state`. -/
def Renderer.SparesRoot (renderer : Renderer) : Prop :=
  ∀ (construct : Node) (binding : Binding), construct.binding? renderer = some binding →
    textOf renderer binding ≠ stateRoot

/-- A text with a full stop in it is not a text without one. -/
theorem dotted_ne {root : String} (plain : '.' ∉ root.toList) (text name : String) :
    text ++ "." ++ name ≠ root := by
  intro same
  have member : '.' ∈ (text ++ "." ++ name).toList := by simp
  rw [same] at member
  exact plain member

theorem placeholder_ne_stateRoot (node : Node) : placeholder node ≠ .fragment stateRoot := by
  intro same
  have first : ("// Omitted: " ++ node.describe).toList.head? = some '/' := by simp
  rw [Value.fragment.inj same] at first
  exact absurd first (by decide)

/-- A member never becomes a text without a full stop. -/
theorem memberOf_ne_undotted {root : String} (plain : '.' ∉ root.toList) (base : Value)
    (name : String) : base.memberOf name ≠ .fragment root := by
  intro same
  unfold Value.memberOf at same
  split at same
  · split at same
    · cases same
    · split at same
      · exact dotted_ne plain _ _ (Value.fragment.inj same)
      · exact dotted_ne plain _ _ (Value.fragment.inj same)
  · cases same

/-- A member never becomes the text `$state`. -/
theorem memberOf_ne_stateRoot (base : Value) (name : String) :
    base.memberOf name ≠ .fragment stateRoot :=
  memberOf_ne_undotted (by decide) base name

/-- A lookup never becomes a text. -/
theorem index_ne_fragment (base key : Value) (text : String) : base.index key ≠ .fragment text := by
  intro same
  cases base <;> cases same

/-- A literal that is spelled `$state` is an integer. -/
theorem Literal.spelling_eq_stateRoot {value : Literal} (same : value.spelling = stateRoot) :
    value = .int stateRoot := by
  cases value with
  | int digits => rw [← same, Literal.spelling]
  | str text =>
      have first := congrArg (·.toList.head?) same
      simp only [Literal.spelling, Text.quoted, Text.quotedBy, String.toList_ofList,
        List.cons_append, List.head?_cons] at first
      exact absurd first (by decide)
  | bool value => cases value <;> exact absurd same (by decide)

/-- A node becomes the text `$state` exactly if it is the identifier or an integer literal of that
spelling. -/
theorem Node.value_eq_stateRoot {renderer : Renderer} (spares : renderer.SparesRoot) (node : Node) :
    node.value renderer = .fragment stateRoot ↔ node.stateRoot?.isSome := by
  -- What becomes of a construct is the text of its binding.
  have construct : ∀ binding, node.binding? renderer = some binding →
      node.value renderer = .fragment (textOf renderer binding) → node.stateRoot? = none →
      (node.value renderer = .fragment stateRoot ↔ node.stateRoot?.isSome) := by
    intro binding bound value none
    rw [value, none]
    constructor
    · intro same
      exact absurd (Value.fragment.inj same) (spares node binding bound)
    · intro some
      cases some
  cases node with
  | contract | exec | cond | assign => exact construct _ rfl (by rw [Node.value]) rfl
  | lookup item key =>
      rw [Node.value]
      refine ⟨fun same => absurd same (index_ne_fragment _ _ _), fun some => ?_⟩
      cases some
  | member item name =>
      rw [Node.value]
      refine ⟨fun same => absurd same (memberOf_ne_stateRoot _ _), fun some => ?_⟩
      cases some
  | ident name =>
      rw [Node.value, Node.stateRoot?]
      by_cases root : name = stateRoot
      · simp [root]
      · simp [root]
  | literal value =>
      rw [Node.value]
      constructor
      · intro same
        rw [Literal.spelling_eq_stateRoot (Value.fragment.inj same)]
        rfl
      · intro some
        cases value with
        | int digits =>
            by_cases root : digits = stateRoot
            · rw [root, Literal.spelling]
            · rw [Node.stateRoot?, if_neg root] at some
              cases some
        | str | bool => cases some
  | binary op lhs rhs =>
      rw [Node.value]
      refine ⟨fun same => ?_, fun some => ?_⟩
      · cases same
      · cases some
  | stateItem | stateMap | call | emit | ret =>
      rw [Node.value]
      refine ⟨fun same => absurd same (placeholder_ne_stateRoot _), fun some => ?_⟩
      cases some

/-- What is known of the value of a node without lowering it: what it refers to, and whether it is
state, and which. -/
structure Node.RefersAsRead (renderer : Renderer) (node : Node) : Prop where
  references : (node.value renderer).references = node.references.map Reference.target
  plain : node.reference? = none → (node.value renderer).state? = none
  state : ∀ reference, node.reference? = some reference → ∃ keys,
    (node.value renderer).state? = some (reference.target.key, keys) ∧
      keys.length = reference.target.lookups ∧
      Value.referencesOf keys = node.keyReferences.map Reference.target

namespace Node.RefersAsRead

variable {renderer : Renderer}

/-- A node whose value is text refers to nothing. -/
theorem text {node : Node} {text : String} (value : node.value renderer = .fragment text)
    (nothing : node.references = []) (none : node.reference? = none) :
    node.RefersAsRead renderer where
  references := by
    rw [value, nothing, Value.references, List.map_nil]
  plain := by
    intro _
    rw [value, Value.state?]
  state := by
    intro reference some
    rw [none] at some
    cases some

/-- A lookup refers to the state it looks into, with one more key, or to what its parts refer
to. -/
theorem lookup {item key : Node} (ofItem : item.RefersAsRead renderer)
    (ofKey : key.RefersAsRead renderer) : (Node.lookup item key).RefersAsRead renderer := by
  cases chain : item.reference? with
  | none =>
      have value : (Node.lookup item key).value renderer =
          .lookup (item.value renderer) (key.value renderer) := by
        rw [Node.value, Value.index_of_no_state (ofItem.plain chain)]
      have none : (Node.lookup item key).reference? = none := by
        rw [Node.reference?, chain, Option.map_none]
      refine ⟨?_, ?_, ?_⟩
      · rw [value, Value.references, ofItem.references, ofKey.references, Node.references, chain,
          List.map_append]
      · intro _
        rw [value, Value.state?]
      · intro reference some
        rw [none] at some
        cases some
  | some reference =>
      obtain ⟨keys, isState, count, inKeys⟩ := ofItem.state reference chain
      have value : (Node.lookup item key).value renderer =
          .map reference.target.key (keys ++ [key.value renderer]) := by
        rw [Node.value, Value.index_of_state isState]
      have found : (Node.lookup item key).reference? = some reference.indexed := by
        rw [Node.reference?, chain, Option.map_some]
      have inAll : Value.referencesOf (keys ++ [key.value renderer]) =
          (Node.lookup item key).keyReferences.map Reference.target := by
        rw [Value.referencesOf_append, inKeys, Value.referencesOf, Value.referencesOf,
          List.append_nil, ofKey.references, Node.keyReferences, List.map_append]
      have length : (keys ++ [key.value renderer]).length = reference.indexed.target.lookups := by
        rw [List.length_append, count]
        rfl
      refine ⟨?_, ?_, ?_⟩
      · rw [value, Value.references, inAll, length, Node.references, chain, List.map_cons,
          Node.keyReferences]
        rfl
      · intro none
        rw [found] at none
        cases none
      · intro other some
        rw [found] at some
        cases some
        rw [value]
        exact ⟨_, rfl, length, inAll⟩

/-- A member of the state root is an item; any other member refers to what it is a member of. -/
theorem member (spares : renderer.SparesRoot) {item : Node} (ofItem : item.RefersAsRead renderer)
    (name : String) : (Node.member item name).RefersAsRead renderer := by
  have isRoot := item.value_eq_stateRoot spares
  cases root : item.stateRoot? with
  | none =>
      have other : item.value renderer ≠ .fragment stateRoot := by
        rw [Ne, isRoot, root]
        exact Bool.false_ne_true
      obtain ⟨same, plain⟩ := Value.memberOf_of_ne other name
      have none : (Node.member item name).reference? = none := by
        rw [Node.reference?, root, Option.map_none]
      refine ⟨?_, ?_, ?_⟩
      · rw [Node.value, same, ofItem.references, Node.references, root]
      · intro _
        rw [Node.value, plain]
      · intro reference some
        rw [none] at some
        cases some
  | some hidden =>
      have text : item.value renderer = .fragment stateRoot := by
        rw [isRoot, root]
        rfl
      have value : (Node.member item name).value renderer = .item name := by
        rw [Node.value, text]
        rfl
      have found : (Node.member item name).reference? = some ⟨⟨name, 0⟩, hidden⟩ := by
        rw [Node.reference?, root, Option.map_some]
      refine ⟨?_, ?_, ?_⟩
      · rw [value, Value.references, Node.references, root]
        rfl
      · intro none
        rw [found] at none
        cases none
      · intro reference some
        rw [found] at some
        cases some
        rw [value]
        refine ⟨[], rfl, rfl, ?_⟩
        simp only [Value.referencesOf, Node.keyReferences, List.map_nil]

theorem binary {lhs rhs : Node} (ofLeft : lhs.RefersAsRead renderer)
    (ofRight : rhs.RefersAsRead renderer) (op : String) :
    (Node.binary op lhs rhs).RefersAsRead renderer where
  references := by
    rw [Node.value, Value.references, ofLeft.references, ofRight.references, Node.references,
      List.map_append]
  plain := by
    intro _
    rw [Node.value, Value.state?]
  state := by
    intro reference some
    cases some

end Node.RefersAsRead

/-- **The value of a node refers to the state that is read off the tree.** -/
theorem Node.refersAsRead {renderer : Renderer} (spares : renderer.SparesRoot) :
    ∀ node : Node, node.RefersAsRead renderer
  | .lookup item key => (item.refersAsRead spares).lookup (key.refersAsRead spares)
  | .member item name => (item.refersAsRead spares).member spares name
  | .binary op lhs rhs => (lhs.refersAsRead spares).binary (rhs.refersAsRead spares) op
  | .contract .. | .exec .. | .cond .. | .assign .. | .ident _ | .literal _ => by
      refine .text (by rw [Node.value]) ?_ rfl
      simp only [Node.references]
  | .stateItem .. | .stateMap .. | .call .. | .emit _ | .ret _ => by
      refine .text (by rw [Node.value, placeholder]) ?_ rfl
      simp only [Node.references]

/-! ## What verification sees -/

/-- Verification and lowering agree on what an expression addresses, hidden references apart. -/
theorem Node.stateTarget?_eq_some_iff : ∀ (node : Node) (target : StateTarget),
    node.stateTarget? = some target ↔ node.reference? = some ⟨target, false⟩
  | .member item name, target => by
      cases item with
      | ident root =>
          by_cases isRoot : root = stateRoot
          · simp [Node.stateTarget?, Node.reference?, Node.stateRoot?, isRoot]
          · simp [Node.stateTarget?, Node.reference?, Node.stateRoot?, isRoot]
      | literal value =>
          cases value with
          | int digits =>
              by_cases isRoot : digits = stateRoot
              · simp [Node.stateTarget?, Node.reference?, Node.stateRoot?, isRoot]
              · simp [Node.stateTarget?, Node.reference?, Node.stateRoot?, isRoot]
          | str | bool => simp [Node.stateTarget?, Node.reference?, Node.stateRoot?]
      | contract | exec | cond | assign | stateItem | stateMap | lookup | member | binary | call
      | emit | ret => simp [Node.stateTarget?, Node.reference?, Node.stateRoot?]
  | .lookup item key, target => by
      simp only [Node.stateTarget?, Node.reference?, Option.map_eq_some_iff]
      constructor
      · rintro ⟨inner, found, rfl⟩
        exact ⟨⟨inner, false⟩, (item.stateTarget?_eq_some_iff inner).mp found, rfl⟩
      · rintro ⟨⟨inner, hidden⟩, found, same⟩
        cases same
        exact ⟨inner, (item.stateTarget?_eq_some_iff inner).mpr found, rfl⟩
  | .contract .. , _ | .exec .. , _ | .cond .. , _ | .assign .. , _ | .ident _, _ | .literal _, _
  | .stateItem .. , _ | .stateMap .. , _ | .binary .. , _ | .call .. , _ | .emit _, _
  | .ret _, _ => by
      simp [Node.stateTarget?, Node.reference?]

/-- The keys of a chain are seen as keys if the chain addresses state, and as parts if not. -/
structure Node.KeysSeen (node : Node) : Prop where
  asKeys : ∀ target, node.stateTarget? = some target → ∀ reference ∈ node.keyReferences,
    reference.hidden = false → reference.target ∈ node.keyAccesses
  asParts : node.stateTarget? = none → ∀ reference ∈ node.keyReferences,
    reference.hidden = false → reference.target ∈ node.stateAccesses

/-- A lookup in what addresses state touches that state and what the keys touch. -/
theorem Node.stateAccesses_lookup_some {item key : Node} {target : StateTarget}
    (addressed : item.stateTarget? = some target) :
    (Node.lookup item key).stateAccesses =
      { target with lookups := target.lookups + 1 } ::
        (item.keyAccesses ++ key.stateAccesses) := by
  rw [Node.stateAccesses, Node.stateTarget?, addressed]
  rfl

/-- A lookup in anything else touches what its parts touch. -/
theorem Node.stateAccesses_lookup_none {item key : Node} (other : item.stateTarget? = none) :
    (Node.lookup item key).stateAccesses = item.stateAccesses ++ key.stateAccesses := by
  rw [Node.stateAccesses, Node.stateTarget?, other]
  rfl

mutual

/-- **Verification sees every reference that is not hidden.** -/
theorem Node.visible_mem_stateAccesses : ∀ (node : Node) (reference : Reference),
    reference ∈ node.references → reference.hidden = false →
      reference.target ∈ node.stateAccesses
  | .lookup item key, reference, listed, visible => by
      have inKey : reference ∈ key.references → reference.target ∈ key.stateAccesses :=
        fun listed => key.visible_mem_stateAccesses reference listed visible
      rw [Node.references] at listed
      cases addressed : item.stateTarget? with
      | some target =>
          have chain := (item.stateTarget?_eq_some_iff target).mp addressed
          rw [chain] at listed
          rw [Node.stateAccesses_lookup_some addressed]
          rcases List.mem_cons.mp listed with rfl | inKeys
          · exact List.mem_cons_self
          · refine List.mem_cons_of_mem _ ?_
            rcases List.mem_append.mp inKeys with inItem | last
            · exact List.mem_append_left _
                (item.keysSeen.asKeys target addressed reference inItem visible)
            · exact List.mem_append_right _ (inKey last)
      | none =>
          rw [Node.stateAccesses_lookup_none addressed]
          cases chain : item.reference? with
          | none =>
              rw [chain] at listed
              rcases List.mem_append.mp listed with inItem | last
              · exact List.mem_append_left _
                  (item.visible_mem_stateAccesses reference inItem visible)
              · exact List.mem_append_right _ (inKey last)
          | some root =>
              rw [chain] at listed
              rcases List.mem_cons.mp listed with rfl | inKeys
              · -- A visible root would be addressed in the eyes of verification as well.
                obtain ⟨target, hidden⟩ := root
                have hidden : hidden = false := visible
                subst hidden
                rw [(item.stateTarget?_eq_some_iff target).mpr chain] at addressed
                cases addressed
              · rcases List.mem_append.mp inKeys with inItem | last
                · exact List.mem_append_left _
                    (item.keysSeen.asParts addressed reference inItem visible)
                · exact List.mem_append_right _ (inKey last)
  | .member item name, reference, listed, visible => by
      rw [Node.references] at listed
      cases root : item.stateRoot? with
      | some hidden =>
          rw [root] at listed
          obtain rfl := List.mem_singleton.mp listed
          have hidden : hidden = false := visible
          subst hidden
          have addressed : (Node.member item name).stateTarget? = some ⟨name, 0⟩ := by
            rw [Node.stateTarget?_eq_some_iff, Node.reference?, root, Option.map_some]
          rw [Node.stateAccesses, addressed]
          exact List.mem_singleton.mpr rfl
      | none =>
          rw [root] at listed
          have other : (Node.member item name).stateTarget? = none := by
            rw [Option.eq_none_iff_forall_ne_some]
            intro target addressed
            rw [Node.stateTarget?_eq_some_iff, Node.reference?, root] at addressed
            cases addressed
          rw [Node.stateAccesses, other]
          exact item.visible_mem_stateAccesses reference listed visible
  | .binary op lhs rhs, reference, listed, visible => by
      rw [Node.references] at listed
      rw [Node.stateAccesses]
      rcases List.mem_append.mp listed with inLeft | inRight
      · exact List.mem_append_left _ (lhs.visible_mem_stateAccesses reference inLeft visible)
      · exact List.mem_append_right _ (rhs.visible_mem_stateAccesses reference inRight visible)
  | .contract .. , _, listed, _ | .exec .. , _, listed, _ | .cond .. , _, listed, _
  | .assign .. , _, listed, _ | .ident _, _, listed, _ | .literal _, _, listed, _
  | .stateItem .. , _, listed, _ | .stateMap .. , _, listed, _ | .call .. , _, listed, _
  | .emit _, _, listed, _ | .ret _, _, listed, _ => by
      simp only [Node.references] at listed
      cases listed

theorem Node.keysSeen : ∀ node : Node, node.KeysSeen
  | .lookup item key => by
      have inKey : ∀ reference ∈ key.references, reference.hidden = false →
          reference.target ∈ key.stateAccesses := key.visible_mem_stateAccesses
      constructor
      · intro target addressed reference listed visible
        rw [Node.stateTarget?] at addressed
        obtain ⟨inner, addressed, _⟩ := Option.map_eq_some_iff.mp addressed
        rw [Node.keyReferences] at listed
        rw [Node.keyAccesses]
        rcases List.mem_append.mp listed with inItem | last
        · exact List.mem_append_left _
            (item.keysSeen.asKeys inner addressed reference inItem visible)
        · exact List.mem_append_right _ (inKey reference last visible)
      · intro other reference listed visible
        rw [Node.stateTarget?, Option.map_eq_none_iff] at other
        rw [Node.keyReferences] at listed
        rw [Node.stateAccesses_lookup_none other]
        rcases List.mem_append.mp listed with inItem | last
        · exact List.mem_append_left _ (item.keysSeen.asParts other reference inItem visible)
        · exact List.mem_append_right _ (inKey reference last visible)
  | .member .. | .binary .. | .contract .. | .exec .. | .cond .. | .assign .. | .ident _
  | .literal _ | .stateItem .. | .stateMap .. | .call .. | .emit _ | .ret _ => by
      constructor
      · intro target _ reference listed
        simp only [Node.keyReferences] at listed
        cases listed
      · intro _ reference listed
        simp only [Node.keyReferences] at listed
        cases listed

end

end ContractCompiler
