import ContractCompiler.Output.CosmWasm
import ContractCompiler.Proofs.State.Expressions

/-!
# What the text of an expression tells

An operation that is an operand of another one is written in parentheses. As the base of a member or
of a lookup it is not, so that a member of a sum is written like a sum whose last term has that
member (`CosmWasm.memberOfSum_ambiguous`).

The text of an expression is a `Phrase`: chains of members and lookups, with operators between them,
where a chain begins with a word or with a phrase in parentheses. A phrase can be read back from its
characters, one after another (`Phrase.read_marks`). So two expressions have the same text exactly if
they are the same phrase. An expression in which no member or lookup has an operation as its base is
found again from its phrase (`Node.IsPlain.recovered`), and so from its text
(`CosmWasm.expr_tells_phrase`).
-/

namespace ContractCompiler

set_option autoImplicit false

/-! ## Plain expressions -/

/-- A text of letters. -/
def IsWord (text : String) : Prop :=
  text ≠ "" ∧ ∀ c ∈ text.toList, c.isAlpha = true

/-- The operators, each a single character. -/
def operatorMarks : List Char :=
  ['+', '-', '*', '/', '<', '>']

/-- One of the operators. -/
def IsOperator (op : String) : Prop :=
  ∃ mark ∈ operatorMarks, op = String.ofList [mark]

instance (text : String) : Decidable (IsWord text) :=
  decidable_of_iff (text ≠ "" ∧ text.toList.all Char.isAlpha = true)
    (and_congr_right fun _ => List.all_eq_true)

instance (op : String) : Decidable (IsOperator op) :=
  decidable_of_iff (op ∈ operatorMarks.map fun mark => String.ofList [mark])
    (List.mem_map.trans (exists_congr fun _ => and_congr_right fun _ => eq_comm))

/-- An expression of identifiers, members, lookups and operations, whose names are words. -/
inductive Node.IsPlain : Node → Prop where
  | ident {name : String} (word : IsWord name) : IsPlain (.ident name)
  | member {item : Node} {name : String} (ofItem : item.IsPlain) (word : IsWord name) :
      IsPlain (.member item name)
  | lookup {item key : Node} (ofItem : item.IsPlain) (ofKey : key.IsPlain) :
      IsPlain (.lookup item key)
  | binary {op : String} {lhs rhs : Node} (operator : IsOperator op) (ofLeft : lhs.IsPlain)
      (ofRight : rhs.IsPlain) : IsPlain (.binary op lhs rhs)

/-- Whether the node is an operation. -/
def Node.isOperation : Node → Bool
  | .binary .. => true
  | _ => false

/-- Whether no member and no lookup in an expression has an operation as its base. -/
def Node.isGrouped : Node → Bool
  | .member item _ => !item.isOperation && item.isGrouped
  | .lookup item key => !item.isOperation && item.isGrouped && key.isGrouped
  | .binary _ lhs rhs => lhs.isGrouped && rhs.isGrouped
  | _ => true

/-! ## Phrases -/

mutual

/-- Chains with operators between them. -/
inductive Phrase where
  | single (only : Chain)
  | operation (before : Phrase) (op : String) (last : Chain)

/-- A word or a phrase in parentheses, followed by members and lookups. -/
inductive Chain where
  | word (name : String)
  | group (inner : Phrase)
  | member (base : Chain) (name : String)
  | index (base : Chain) (key : Phrase)

end

mutual

/-- The characters of a phrase. -/
def Phrase.marks : Phrase → List Char
  | .single only => only.marks
  | .operation before op last => before.marks ++ ' ' :: (op.toList ++ ' ' :: last.marks)

/-- The characters of a chain. -/
def Chain.marks : Chain → List Char
  | .word name => name.toList
  | .group inner => '(' :: (inner.marks ++ [')'])
  | .member base name => base.marks ++ '.' :: name.toList
  | .index base key => base.marks ++ '[' :: (key.marks ++ [']'])

end

mutual

/-- All names are words, and all operators are known. -/
def Phrase.Plain : Phrase → Prop
  | .single only => only.Plain
  | .operation before op last => before.Plain ∧ IsOperator op ∧ last.Plain

/-- All names are words, and all operators are known. -/
def Chain.Plain : Chain → Prop
  | .word name => IsWord name
  | .group inner => inner.Plain
  | .member base name => base.Plain ∧ IsWord name
  | .index base key => base.Plain ∧ key.Plain

end

namespace Phrase

/-- The last chain of a phrase. -/
def last : Phrase → Chain
  | .single only => only
  | .operation _ _ last => last

/-- The phrase with another chain as its last one. -/
def setLast : Phrase → Chain → Phrase
  | .single _, other => .single other
  | .operation before op _, other => .operation before op other

/-- The phrase with another one in place of its last chain. -/
def extend (front : Phrase) : Phrase → Phrase
  | .single only => front.setLast only
  | .operation before op last => .operation (front.extend before) op last

@[simp] theorem last_setLast (phrase : Phrase) (other : Chain) :
    (phrase.setLast other).last = other := by
  cases phrase <;> rfl

@[simp] theorem setLast_setLast (phrase : Phrase) (other another : Chain) :
    (phrase.setLast other).setLast another = phrase.setLast another := by
  cases phrase <;> rfl

theorem extend_single (only : Chain) : ∀ phrase : Phrase, (single only).extend phrase = phrase
  | .single _ => by rw [extend, setLast]
  | .operation before op last => by rw [extend, extend_single only before]

end Phrase

/-! ## Reading a phrase back -/

/-- The chain with a letter added to its last word. -/
def Chain.push : Chain → Char → Chain
  | .word name, letter => .word (name.push letter)
  | .member base name, letter => .member base (name.push letter)
  | .group inner, _ => .group inner
  | .index base key, _ => .index base key

/-- The phrase that is being read, and the phrases around it, innermost first. In each of these the
last chain is the one that the inner phrase belongs to. -/
structure Reading where
  current : Phrase
  outer : List Phrase := []

namespace Reading

/-- Nothing is read yet. -/
def start : Reading :=
  { current := .single (.word "") }

/-- Changes the chain that is being read. -/
def onLast (reading : Reading) (change : Chain → Chain) : Reading :=
  { reading with current := reading.current.setLast (change reading.current.last) }

/-- Begins a phrase within the one that is being read. -/
def enter (reading : Reading) : Reading :=
  { current := .single (.word ""), outer := reading.current :: reading.outer }

/-- Ends the phrase that is being read, which becomes a part of the last chain around it. -/
def leave (reading : Reading) (part : Chain → Phrase → Chain) : Reading :=
  match reading.outer with
  | [] => reading
  | around :: further =>
      { current := around.setLast (part around.last reading.current), outer := further }

/-- Reads a character. -/
def step (reading : Reading) (mark : Char) : Reading :=
  if mark.isAlpha then reading.onLast (·.push mark)
  else if mark = '.' then reading.onLast (·.member "")
  else if mark = '(' ∨ mark = '[' then reading.enter
  else if mark = ')' then reading.leave fun _ inner => .group inner
  else if mark = ']' then reading.leave Chain.index
  else if mark ∈ operatorMarks then
    { reading with current := .operation reading.current (String.ofList [mark]) (.word "") }
  else reading

/-- Reads characters in order. -/
def steps (reading : Reading) (marks : List Char) : Reading :=
  marks.foldl step reading

@[simp] theorem steps_nil (reading : Reading) : reading.steps [] = reading := rfl

@[simp] theorem steps_cons (reading : Reading) (mark : Char) (rest : List Char) :
    reading.steps (mark :: rest) = (reading.step mark).steps rest := rfl

@[simp] theorem steps_append (reading : Reading) (marks more : List Char) :
    reading.steps (marks ++ more) = (reading.steps marks).steps more :=
  List.foldl_append

variable (current : Phrase) (outer : List Phrase)

theorem step_dot :
    step ⟨current, outer⟩ '.' = ⟨current.setLast (current.last.member ""), outer⟩ := by
  simp [step, onLast]

theorem step_open {mark : Char} (opens : mark = '(' ∨ mark = '[') :
    step ⟨current, outer⟩ mark = ⟨.single (.word ""), current :: outer⟩ := by
  rcases opens with rfl | rfl <;> simp [step, enter]

theorem step_close (around : Phrase) :
    step ⟨current, around :: outer⟩ ')' = ⟨around.setLast (.group current), outer⟩ := by
  simp [step, leave]

theorem step_closeKey (around : Phrase) :
    step ⟨current, around :: outer⟩ ']' =
      ⟨around.setLast (around.last.index current), outer⟩ := by
  simp [step, leave]

theorem step_blank : step ⟨current, outer⟩ ' ' = ⟨current, outer⟩ := by
  simp [step, operatorMarks]

theorem step_operator {mark : Char} (operator : mark ∈ operatorMarks) :
    step ⟨current, outer⟩ mark =
      ⟨.operation current (String.ofList [mark]) (.word ""), outer⟩ := by
  have other : mark.isAlpha = false ∧ mark ≠ '.' ∧ ¬ (mark = '(' ∨ mark = '[') ∧ mark ≠ ')' ∧
      mark ≠ ']' := by
    simp only [operatorMarks, List.mem_cons, List.not_mem_nil, or_false] at operator
    rcases operator with rfl | rfl | rfl | rfl | rfl | rfl <;> decide
  simp [step, other, operator]

/-- The letters of a word are added to the last word. -/
theorem steps_letters {letters : List Char} (alphabetic : ∀ c ∈ letters, c.isAlpha = true) :
    steps ⟨current, outer⟩ letters =
      ⟨current.setLast (letters.foldl Chain.push current.last), outer⟩ := by
  induction letters generalizing current with
  | nil => cases current <;> rfl
  | cons letter rest ih =>
      have further : ∀ c ∈ rest, c.isAlpha = true := fun c inRest =>
        alphabetic c (List.mem_cons_of_mem _ inRest)
      rw [steps_cons, step, if_pos (alphabetic letter List.mem_cons_self), onLast,
        ih _ further]
      simp

/-- Letters that are added to a word one by one. -/
theorem foldl_push {chainOf : String → Chain}
    (pushes : ∀ name letter, (chainOf name).push letter = chainOf (name.push letter))
    (front : String) (letters : List Char) :
    letters.foldl Chain.push (chainOf front) = chainOf (front ++ String.ofList letters) := by
  induction letters generalizing front with
  | nil => rw [List.foldl_nil, String.ofList_nil, String.append_empty]
  | cons letter rest ih =>
      have joined : front.push letter ++ String.ofList rest =
          front ++ String.ofList (letter :: rest) := by
        apply String.toList_inj.mp
        simp
      rw [List.foldl_cons, pushes, ih, joined]

/-- A word is read after the beginning of a chain or after a dot. -/
theorem steps_word {chainOf : String → Chain}
    (pushes : ∀ name letter, (chainOf name).push letter = chainOf (name.push letter))
    (begun : current.last = chainOf "") {name : String} (word : IsWord name) :
    steps ⟨current, outer⟩ name.toList = ⟨current.setLast (chainOf name), outer⟩ := by
  rw [steps_letters current outer word.2, begun, foldl_push pushes, String.empty_append,
    String.ofList_toList]

mutual

/-- A chain is read where a chain is to begin. -/
theorem steps_chain (outer : List Phrase) : ∀ (chain : Chain) (_ : chain.Plain) (current : Phrase),
    current.last = .word "" →
      steps ⟨current, outer⟩ chain.marks = ⟨current.setLast chain, outer⟩
  | .word name, plain, current, begun => by
      rw [Chain.Plain] at plain
      rw [Chain.marks, steps_word current outer (fun _ _ => rfl) begun plain]
  | .group inner, plain, current, begun => by
      rw [Chain.Plain] at plain
      have within := steps_phrase (current :: outer) inner plain (.single (.word "")) rfl
      rw [Chain.marks, steps_cons, step_open current outer (.inl rfl), steps_append, within,
        Phrase.extend_single, steps_cons, step_close, steps_nil]
  | .member base name, plain, current, begun => by
      rw [Chain.Plain] at plain
      have before := steps_chain outer base plain.1 current begun
      have ended : ((current.setLast base).setLast (base.member "")).last = base.member "" :=
        Phrase.last_setLast _ _
      rw [Chain.marks, steps_append, before, steps_cons, step_dot, Phrase.last_setLast,
        steps_word _ outer (fun _ _ => rfl) ended plain.2, Phrase.setLast_setLast,
        Phrase.setLast_setLast]
  | .index base key, plain, current, begun => by
      rw [Chain.Plain] at plain
      have before := steps_chain outer base plain.1 current begun
      have within := steps_phrase (current.setLast base :: outer) key plain.2
        (.single (.word "")) rfl
      rw [Chain.marks, steps_append, before, steps_cons, step_open _ outer (.inr rfl),
        steps_append, within, Phrase.extend_single, steps_cons, step_closeKey,
        Phrase.last_setLast, Phrase.setLast_setLast, steps_nil]

/-- A phrase is read where a chain is to begin. -/
theorem steps_phrase (outer : List Phrase) : ∀ (phrase : Phrase) (_ : phrase.Plain)
    (current : Phrase), current.last = .word "" →
      steps ⟨current, outer⟩ phrase.marks = ⟨current.extend phrase, outer⟩
  | .single only, plain, current, begun => by
      rw [Phrase.Plain] at plain
      rw [Phrase.marks, steps_chain outer only plain current begun, Phrase.extend]
  | .operation before op last, plain, current, begun => by
      rw [Phrase.Plain] at plain
      obtain ⟨plainBefore, ⟨mark, listed, rfl⟩, plainLast⟩ := plain
      have front := steps_phrase outer before plainBefore current begun
      rw [Phrase.marks, steps_append, front, steps_cons, step_blank, String.toList_ofList,
        List.singleton_append, steps_cons, step_operator _ _ listed, steps_cons, step_blank,
        steps_chain outer last plainLast _ rfl, Phrase.extend]
      rfl

end

end Reading

/-- The phrase that is read from a text. -/
def Phrase.read (text : String) : Phrase :=
  (Reading.start.steps text.toList).current

/-- **A phrase is read back** from its characters. -/
theorem Phrase.read_marks {phrase : Phrase} (plain : phrase.Plain) {text : String}
    (written : text.toList = phrase.marks) : Phrase.read text = phrase := by
  have whole := Reading.steps_phrase [] phrase plain (.single (.word "")) rfl
  rw [Phrase.extend_single] at whole
  rw [Phrase.read, written, Reading.start, whole]

/-! ## The phrase of an expression -/

namespace Phrase

/-- A phrase, an operator, and a further phrase. -/
def join (front : Phrase) (op : String) : Phrase → Phrase
  | .single only => .operation front op only
  | .operation before inner last => .operation (front.join op before) inner last

/-- The phrase of a node as an operand: in parentheses if the node is an operation. -/
def operand (node : Node) (phrase : Phrase) : Phrase :=
  if node.isOperation then .single (.group phrase) else phrase

/-- What is added to the last chain is added to the phrase. -/
theorem marks_setLast {phrase : Phrase} {other : Chain} {added : List Char}
    (adds : other.marks = phrase.last.marks ++ added) :
    (phrase.setLast other).marks = phrase.marks ++ added := by
  cases phrase with
  | single only =>
      rw [setLast, marks, marks, adds]
      rfl
  | operation before op last =>
      rw [setLast, marks, marks, adds]
      simp [Phrase.last]

theorem marks_join (front : Phrase) (op : String) : ∀ phrase : Phrase,
    (front.join op phrase).marks = front.marks ++ ' ' :: (op.toList ++ ' ' :: phrase.marks)
  | .single only => by rw [join, marks, marks]
  | .operation before inner last => by
      rw [join, marks, marks_join front op before, marks]
      simp

theorem Plain.last {phrase : Phrase} (plain : phrase.Plain) : phrase.last.Plain := by
  cases phrase with
  | single only => rwa [Phrase.Plain] at plain
  | operation before op last =>
      rw [Phrase.Plain] at plain
      exact plain.2.2

theorem Plain.setLast {phrase : Phrase} (plain : phrase.Plain) {other : Chain}
    (plainOther : other.Plain) : (phrase.setLast other).Plain := by
  cases phrase with
  | single only => rwa [Phrase.setLast, Phrase.Plain]
  | operation before op last =>
      rw [Phrase.Plain] at plain
      rw [Phrase.setLast, Phrase.Plain]
      exact ⟨plain.1, plain.2.1, plainOther⟩

theorem Plain.operand {phrase : Phrase} (plain : phrase.Plain) (node : Node) :
    (operand node phrase).Plain := by
  unfold Phrase.operand
  split
  · rwa [Phrase.Plain, Chain.Plain]
  · exact plain

theorem Plain.join {front : Phrase} (plain : front.Plain) {op : String} (operator : IsOperator op) :
    ∀ {phrase : Phrase}, phrase.Plain → (front.join op phrase).Plain
  | .single only, plainOnly => by
      rw [Phrase.Plain] at plainOnly
      rw [Phrase.join, Phrase.Plain]
      exact ⟨plain, operator, plainOnly⟩
  | .operation before inner last, plainWhole => by
      rw [Phrase.Plain] at plainWhole
      rw [Phrase.join, Phrase.Plain]
      exact ⟨plain.join operator plainWhole.1, plainWhole.2⟩

end Phrase

/-- The phrase of an expression. A member or a lookup goes to the last chain of its base. -/
def Node.phrase : Node → Phrase
  | .ident name => .single (.word name)
  | .member item name => item.phrase.setLast (item.phrase.last.member name)
  | .lookup item key => item.phrase.setLast (item.phrase.last.index key.phrase)
  | .binary op lhs rhs => (Phrase.operand lhs lhs.phrase).join op (Phrase.operand rhs rhs.phrase)
  | _ => .single (.word "")

namespace Node.IsPlain

variable {node : Node}

theorem isExpression (plain : node.IsPlain) : node.IsExpression := by
  induction plain with
  | ident => exact .ident _
  | member _ _ ofItem => exact ofItem.member _
  | lookup _ _ ofItem ofKey => exact ofItem.lookup ofKey
  | binary _ _ _ ofLeft ofRight => exact .binary _ ofLeft ofRight

theorem phrase_plain (plain : node.IsPlain) : node.phrase.Plain := by
  induction plain with
  | ident word =>
      rw [Node.phrase, Phrase.Plain, Chain.Plain]
      exact word
  | member _ word ofItem =>
      rw [Node.phrase]
      refine ofItem.setLast ?_
      rw [Chain.Plain]
      exact ⟨ofItem.last, word⟩
  | lookup _ _ ofItem ofKey =>
      rw [Node.phrase]
      refine ofItem.setLast ?_
      rw [Chain.Plain]
      exact ⟨ofItem.last, ofKey⟩
  | binary operator _ _ ofLeft ofRight =>
      rw [Node.phrase]
      exact (ofLeft.operand _).join operator (ofRight.operand _)

/-- A plain expression does not become a reserved identifier. -/
theorem value_ne_reserved (plain : node.IsPlain) (renderer : Renderer) (root : String)
    (reserved : '$' ∈ root.toList) (undotted : '.' ∉ root.toList) :
    node.value renderer ≠ .fragment root := by
  cases plain with
  | ident word =>
      rw [Node.value]
      intro same
      cases same
      exact absurd (word.2 '$' reserved) (by decide)
  | member =>
      rw [Node.value]
      exact memberOf_ne_undotted undotted _ _
  | lookup =>
      rw [Node.value]
      exact index_ne_fragment _ _ _
  | binary =>
      rw [Node.value]
      exact nofun

end Node.IsPlain

/-! ## The expression of a phrase -/

mutual

/-- The expression that is written as a phrase, if its operations are grouped. -/
def Phrase.node : Phrase → Node
  | .single only => only.node
  | .operation before op last => .binary op before.node last.node

/-- The expression that is written as a chain. -/
def Chain.node : Chain → Node
  | .word name => .ident name
  | .group inner => inner.node
  | .member base name => .member base.node name
  | .index base key => .lookup base.node key.node

end

/-- What is known of a grouped expression: it is found from its phrase, which is a single chain
unless the expression is an operation. -/
structure Node.Recovered (node : Node) : Prop where
  found : node.phrase.node = node
  single : node.isOperation = false → ∃ chain, node.phrase = .single chain

namespace Node.Recovered

variable {node : Node}

/-- As an operand, a grouped expression is a single chain, from which it is found. -/
theorem operand (recovered : node.Recovered) :
    ∃ chain, Phrase.operand node node.phrase = .single chain ∧ chain.node = node := by
  unfold Phrase.operand
  cases operation : node.isOperation with
  | true => exact ⟨.group node.phrase, rfl, by rw [Chain.node, recovered.found]⟩
  | false =>
      obtain ⟨chain, single⟩ := recovered.single operation
      have found := recovered.found
      rw [single, Phrase.node] at found
      exact ⟨chain, single, found⟩

/-- A suffix of a chain is found again. -/
theorem suffix {whole : Node} (recovered : node.Recovered) (base : node.isOperation = false)
    (extended : Chain → Chain)
    (phrase : whole.phrase = node.phrase.setLast (extended node.phrase.last))
    (found : ∀ chain : Chain, chain.node = node → (extended chain).node = whole) :
    whole.Recovered := by
  obtain ⟨chain, single⟩ := recovered.single base
  have inner := recovered.found
  rw [single, Phrase.node] at inner
  have extension : whole.phrase = .single (extended chain) := by
    rw [phrase, single]
    rfl
  refine ⟨?_, fun _ => ⟨_, extension⟩⟩
  rw [extension, Phrase.node]
  exact found chain inner

end Node.Recovered

/-- **A grouped expression is found from its phrase.** -/
theorem Node.IsPlain.recovered {node : Node} (plain : node.IsPlain)
    (grouped : node.isGrouped = true) : node.Recovered := by
  induction plain with
  | ident word => exact ⟨rfl, fun _ => ⟨_, rfl⟩⟩
  | member _ word ofItem =>
      rw [Node.isGrouped, Bool.and_eq_true, Bool.not_eq_true'] at grouped
      refine (ofItem grouped.2).suffix grouped.1 (·.member _) (by rw [Node.phrase]) ?_
      intro chain found
      rw [Chain.node, found]
  | lookup _ _ ofItem ofKey =>
      rw [Node.isGrouped, Bool.and_eq_true, Bool.and_eq_true, Bool.not_eq_true'] at grouped
      refine (ofItem grouped.1.2).suffix grouped.1.1 (·.index _) (by rw [Node.phrase]) ?_
      intro chain found
      rw [Chain.node, found, (ofKey grouped.2).found]
  | @binary op lhs rhs operator _ _ ofLeft ofRight =>
      rw [Node.isGrouped, Bool.and_eq_true] at grouped
      obtain ⟨left, leftSingle, leftFound⟩ := (ofLeft grouped.1).operand
      obtain ⟨right, rightSingle, rightFound⟩ := (ofRight grouped.2).operand
      refine ⟨?_, nofun⟩
      rw [Node.phrase, leftSingle, rightSingle, Phrase.join, Phrase.node, Phrase.node, leftFound,
        rightFound]

/-! ## The text of an expression -/

namespace CosmWasm

/-- The text of a member follows that of its base, unless the base stands for the state or for the
message. -/
theorem expr_memberOf {value : Value} (notState : value ≠ .fragment stateRoot)
    (notMessage : value ≠ .fragment messageRoot) (name : String) :
    expr (value.memberOf name) = expr value ++ "." ++ name := by
  cases value with
  | fragment text =>
      rw [Value.memberOf, if_neg fun same => notState (congrArg _ same),
        if_neg fun same => notMessage (congrArg _ same), expr, expr]
  | item | map | lookup | member | binary => simp only [Value.memberOf, expr]

/-- The text of a lookup outside of the state. -/
theorem expr_index {value : Value} (outside : value.state? = none) (key : Value) :
    expr (value.index key) = expr value ++ "[" ++ expr key ++ "]" := by
  rw [Value.index_of_no_state outside, expr]

/-- A member is no operation. -/
theorem parenthesized_memberOf (value : Value) (name text : String) :
    parenthesized (value.memberOf name) text = text := by
  unfold Value.memberOf
  split
  · split
    · rfl
    · split <;> rfl
  · rfl

/-- What is known of the value of a plain expression: it is no state, its text is the phrase of the
expression, and it is an operation if the expression is one. -/
structure WrittenAs (node : Node) (value : Value) : Prop where
  outside : value.state? = none
  marks : (expr value).toList = node.phrase.marks
  enclosed : ∀ text, parenthesized value text =
    if node.isOperation then "(" ++ text ++ ")" else text

/-- As an operand, the value is written like the phrase of the operand. -/
theorem WrittenAs.operand {node : Node} {value : Value} (written : WrittenAs node value) :
    (parenthesized value (expr value)).toList = (Phrase.operand node node.phrase).marks := by
  rw [written.enclosed, Phrase.operand]
  split
  · rw [Phrase.marks, Chain.marks, ← written.marks]
    simp
  · exact written.marks

/-- **The text of a plain expression is its phrase.** -/
theorem writtenAs_value (renderer : Renderer) {node : Node} (plain : node.IsPlain) :
    WrittenAs node (node.value renderer) := by
  induction plain with
  | ident word =>
      rw [Node.value]
      refine ⟨rfl, ?_, fun text => rfl⟩
      rw [expr, Node.phrase, Phrase.marks, Chain.marks]
  | @member item name plainItem word ofItem =>
      have notState := plainItem.value_ne_reserved renderer stateRoot (by decide) (by decide)
      have notMessage := plainItem.value_ne_reserved renderer messageRoot (by decide) (by decide)
      rw [Node.value]
      refine ⟨(Value.memberOf_of_ne notState name).2, ?_, parenthesized_memberOf _ name⟩
      have added : (item.phrase.last.member name).marks =
          item.phrase.last.marks ++ '.' :: name.toList := by rw [Chain.marks]
      rw [expr_memberOf notState notMessage, Node.phrase, Phrase.marks_setLast added,
        ← ofItem.marks]
      simp
  | @lookup item key _ _ ofItem ofKey =>
      have added : (item.phrase.last.index key.phrase).marks =
          item.phrase.last.marks ++ '[' :: (key.phrase.marks ++ [']']) := by rw [Chain.marks]
      rw [Node.value]
      refine ⟨?_, ?_, ?_⟩
      · rw [Value.index_of_no_state ofItem.outside]
        rfl
      · rw [expr_index ofItem.outside, Node.phrase, Phrase.marks_setLast added, ← ofItem.marks,
          ← ofKey.marks]
        simp
      · rw [Value.index_of_no_state ofItem.outside]
        exact fun text => rfl
  | @binary op lhs rhs operator _ _ ofLeft ofRight =>
      rw [Node.value]
      refine ⟨rfl, ?_, fun text => rfl⟩
      rw [expr, Node.phrase, Phrase.marks_join, ← ofLeft.operand, ← ofRight.operand]
      simp

/-- The phrase of a plain expression is read from its text. -/
theorem read_expr (renderer : Renderer) {node : Node} (plain : node.IsPlain) :
    Phrase.read (expr (node.value renderer)) = node.phrase :=
  Phrase.read_marks plain.phrase_plain (writtenAs_value renderer plain).marks

/-- **The text of an expression tells its phrase, and no more.** Plain expressions are lowered in
every environment and by every renderer. Two of them have the same text exactly if they are the same
phrase. If in both of them no member and no lookup has an operation as its base, they have the same
text only if they are the same expression. -/
theorem expr_tells_phrase (renderer : Renderer) (env : Env) (first second : Node)
    (plain : first.IsPlain) (alsoPlain : second.IsPlain) :
    ∃ value other, first.lower renderer env = .ok value env ∧
      second.lower renderer env = .ok other env ∧
      (expr value = expr other ↔ first.phrase = second.phrase) ∧
      (first.isGrouped = true → second.isGrouped = true →
        (expr value = expr other ↔ first = second)) := by
  have ofFirst := (writtenAs_value renderer plain).marks
  have ofSecond := (writtenAs_value renderer alsoPlain).marks
  have samePhrase : expr (first.value renderer) = expr (second.value renderer) ↔
      first.phrase = second.phrase := by
    constructor
    · intro same
      rw [← read_expr renderer plain, ← read_expr renderer alsoPlain, same]
    · intro same
      rw [← String.toList_inj, ofFirst, ofSecond, same]
  refine ⟨_, _, plain.isExpression.lower_eq renderer env,
    alsoPlain.isExpression.lower_eq renderer env, samePhrase, ?_⟩
  intro grouped alsoGrouped
  rw [samePhrase]
  constructor
  · intro same
    rw [← (plain.recovered grouped).found, ← (alsoPlain.recovered alsoGrouped).found, same]
  · intro same
    rw [same]

/-- The product `(a + b) * c`. -/
def productOfSum : Node :=
  .binary "*" (.binary "+" (.ident "a") (.ident "b")) (.ident "c")

/-- The sum `a + b * c`. -/
def sumOfProduct : Node :=
  .binary "+" (.ident "a") (.binary "*" (.ident "b") (.ident "c"))

/-- The product of a sum and the sum of a product have different texts. -/
theorem productOfSum_distinct :
    productOfSum.IsPlain ∧ sumOfProduct.IsPlain ∧
    ∃ value other, productOfSum.lower nameTemplate {} = .ok value {} ∧
      sumOfProduct.lower nameTemplate {} = .ok other {} ∧ expr value ≠ expr other := by
  have a : (Node.ident "a").IsPlain := .ident (by decide)
  have b : (Node.ident "b").IsPlain := .ident (by decide)
  have c : (Node.ident "c").IsPlain := .ident (by decide)
  have product : productOfSum.IsPlain := .binary (by decide) (.binary (by decide) a b) c
  have sum : sumOfProduct.IsPlain := .binary (by decide) a (.binary (by decide) b c)
  have distinct : productOfSum ≠ sumOfProduct := by simp [productOfSum, sumOfProduct]
  obtain ⟨value, other, lowered, alsoLowered, _, tells⟩ :=
    expr_tells_phrase nameTemplate {} productOfSum sumOfProduct product sum
  refine ⟨product, sum, value, other, lowered, alsoLowered, ?_⟩
  intro same
  exact distinct ((tells rfl rfl).mp same)

/-- The member `m` of the sum of `a` and `b`. -/
def memberOfSum : Node :=
  .member (.binary "+" (.ident "a") (.ident "b")) "m"

/-- The sum of `a` and of the member `m` of `b`. -/
def sumWithMember : Node :=
  .binary "+" (.ident "a") (.member (.ident "b") "m")

/-- **A member of a sum is written like a sum with a member.** -/
theorem memberOfSum_ambiguous :
    memberOfSum.IsPlain ∧ sumWithMember.IsPlain ∧ memberOfSum ≠ sumWithMember ∧
    (∃ value, memberOfSum.lower (render {}) {} = .ok value {} ∧ expr value = "a + b.m") ∧
    ∃ value, sumWithMember.lower (render {}) {} = .ok value {} ∧ expr value = "a + b.m" := by
  have a : (Node.ident "a").IsPlain := .ident (by decide)
  have b : (Node.ident "b").IsPlain := .ident (by decide)
  refine ⟨.member (.binary (by decide) a b) (by decide),
    .binary (by decide) a (.member b (by decide)), nofun, ⟨_, rfl, rfl⟩, _, rfl, rfl⟩

end CosmWasm

end ContractCompiler
