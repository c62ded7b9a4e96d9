import ContractCompiler.Proofs.Output.Rendering

/-!
# Operations behind a reference

Storage takes keys and values by reference, so in source that accesses storage a `&` stands before
every key of a map and before every value that is saved. It binds closer than any operator. An
operation behind it has to be enclosed in parentheses, or else the `&` is read as a part of its left
operand.

`CosmWasm.enclosedExpr` is the expression as it should be written. The expression that is written
lacks a pair of parentheses for each operation that stands behind a `&` (`CosmWasm.expr_lacks`). So
the two are the same exactly if no operation stands there, and the same holds of assignments
(`CosmWasm.bindAssignment_borrows`). Where a sum is saved to the state, the `&` goes to its left
operand (`CosmWasm.increment_unenclosed`).
-/

namespace ContractCompiler

set_option autoImplicit false

/-! ## Values behind a reference -/

/-- Whether the value is an operation. -/
def Value.isOperation : Value → Bool
  | .binary .. => true
  | _ => false

mutual

/-- The values that stand behind a `&` in the expression for a value. -/
def Value.borrowed : Value → List Value
  | .map _ keys => Value.borrowedKeys keys
  | .lookup base key => base.borrowed ++ key.borrowed
  | .member base _ => base.borrowed
  | .binary _ lhs rhs => lhs.borrowed ++ rhs.borrowed
  | .item _ | .fragment _ => []

/-- The keys of a map, each with the values behind a `&` within it. -/
def Value.borrowedKeys : List Value → List Value
  | [] => []
  | key :: rest => key :: (key.borrowed ++ Value.borrowedKeys rest)

end

/-- The values that stand behind a `&` in an assignment. -/
def Value.borrowedIn (target value : Value) : List Value :=
  match target with
  | .item _ => value :: value.borrowed
  | .map _ keys => Value.borrowedKeys keys ++ value :: value.borrowed
  | target => target.borrowed ++ value.borrowed

namespace CosmWasm

/-! ## Expressions with all parentheses -/

mutual

/-- The host expression for a value, with an operation behind a `&` in parentheses. -/
def enclosedExpr : Value → String
  | .item key => loadItem key
  | .map base keys => Text.screamingCase base ++ ".load(deps.storage, " ++ enclosedKey keys ++ ")?"
  | .fragment text => text
  | .lookup base key => enclosedExpr base ++ "[" ++ enclosedExpr key ++ "]"
  | .member base name => enclosedExpr base ++ "." ++ name
  | .binary op lhs rhs =>
      parenthesized lhs (enclosedExpr lhs) ++ " " ++ op ++ " " ++
        parenthesized rhs (enclosedExpr rhs)

/-- The key of a map, with operations in parentheses. -/
def enclosedKey : List Value → String
  | [] => "()"
  | [single] => "&" ++ parenthesized single (enclosedExpr single)
  | first :: next :: rest =>
      "(&" ++ parenthesized first (enclosedExpr first) ++ enclosedFurther (next :: rest) ++ ")"

/-- The keys after the first one, with operations in parentheses. -/
def enclosedFurther : List Value → String
  | [] => ""
  | key :: rest => ", &" ++ parenthesized key (enclosedExpr key) ++ enclosedFurther rest

end

/-- The text that assigns a value to a target, with operations behind a `&` in parentheses. -/
def enclosedAssignment (introduces : Bool) (target value : Value) : String :=
  match target with
  | .item key =>
      Text.screamingCase key ++ ".save(deps.storage, &" ++
        parenthesized value (enclosedExpr value) ++ ")?;\n"
  | .map base keys =>
      Text.screamingCase base ++ ".save(deps.storage, " ++ enclosedKey keys ++ ", &" ++
        parenthesized value (enclosedExpr value) ++ ")?;\n"
  | target =>
      (if introduces then "let " else "") ++ enclosedExpr target ++ " = " ++ enclosedExpr value ++
        ";\n"

/-! ## Parentheses that are missing -/

/-- The second text is the first one without a number of pairs of parentheses. -/
inductive Lacks : Nat → String → String → Prop where
  | same (text : String) : Lacks 0 text text
  | append {pairs more : Nat} {intended text further rest : String}
      (front : Lacks pairs intended text) (back : Lacks more further rest) :
      Lacks (pairs + more) (intended ++ further) (text ++ rest)
  | pair {pairs : Nat} {intended text : String} (within : Lacks pairs intended text) :
      Lacks (pairs + 1) ("(" ++ intended ++ ")") text

namespace Lacks

variable {pairs : Nat} {intended text : String}

theorem length (lacks : Lacks pairs intended text) :
    intended.length = text.length + 2 * pairs := by
  induction lacks with
  | same => rfl
  | append _ _ front back =>
      rw [String.length_append, String.length_append, front, back]
      omega
  | pair _ ih =>
      rw [String.length_append, String.length_append, ih]
      show 1 + _ + 1 = _
      omega

/-- Nothing is missing exactly if no pair is. -/
theorem eq_iff (lacks : Lacks pairs intended text) : text = intended ↔ pairs = 0 := by
  constructor
  · intro same
    have length := lacks.length
    rw [same] at length
    omega
  · intro nothing
    induction lacks with
    | same => rfl
    | append _ _ front back =>
        rw [front (Nat.eq_zero_of_add_eq_zero_right nothing),
          back (Nat.eq_zero_of_add_eq_zero_left nothing)]
    | pair => cases nothing

theorem prepend (lacks : Lacks pairs intended text) (front : String) :
    Lacks pairs (front ++ intended) (front ++ text) := by
  have joined := (same front).append lacks
  rwa [Nat.zero_add] at joined

theorem close (lacks : Lacks pairs intended text) (back : String) :
    Lacks pairs (intended ++ back) (text ++ back) :=
  lacks.append (same back)

/-- An operand is in parentheses in either text. -/
theorem operand (lacks : Lacks pairs intended text) (value : Value) :
    Lacks pairs (parenthesized value intended) (parenthesized value text) := by
  cases value with
  | binary => exact (lacks.prepend "(").close ")"
  | item | map | fragment | lookup | member => exact lacks

/-- Behind a `&` the parentheses around an operation are missing. -/
theorem borrowed (lacks : Lacks pairs intended text) (value : Value) :
    Lacks ([value].countP Value.isOperation + pairs) (parenthesized value intended) text := by
  cases value with
  | binary =>
      rw [Nat.add_comm]
      exact lacks.pair
  | item | map | fragment | lookup | member =>
      show Lacks (0 + pairs) intended text
      rwa [Nat.zero_add]

end Lacks

theorem countP_borrowedKeys_cons (key : Value) (rest : List Value) :
    (Value.borrowedKeys (key :: rest)).countP Value.isOperation =
      [key].countP Value.isOperation + key.borrowed.countP Value.isOperation +
        (Value.borrowedKeys rest).countP Value.isOperation := by
  rw [Value.borrowedKeys, ← List.singleton_append, List.countP_append, List.countP_append,
    Nat.add_assoc]

mutual

/-- **The expression that is written lacks a pair of parentheses** for each operation behind a
`&`. -/
theorem expr_lacks : ∀ value : Value,
    Lacks (value.borrowed.countP Value.isOperation) (enclosedExpr value) (expr value)
  | .item key => by
      rw [enclosedExpr, expr, Value.borrowed]
      exact .same _
  | .fragment text => by
      rw [enclosedExpr, expr, Value.borrowed]
      exact .same _
  | .map base keys => by
      rw [enclosedExpr, expr, Value.borrowed]
      exact ((mapKey_lacks keys).prepend _).close _
  | .lookup base key => by
      rw [enclosedExpr, expr, Value.borrowed, List.countP_append]
      exact (((expr_lacks base).close _).append (expr_lacks key)).close _
  | .member base name => by
      rw [enclosedExpr, expr, Value.borrowed]
      exact ((expr_lacks base).close _).close _
  | .binary op lhs rhs => by
      rw [enclosedExpr, expr, Value.borrowed, List.countP_append]
      exact (((((expr_lacks lhs).operand lhs).close _).close _).close _).append
        ((expr_lacks rhs).operand rhs)

theorem mapKey_lacks : ∀ keys : List Value,
    Lacks ((Value.borrowedKeys keys).countP Value.isOperation) (enclosedKey keys) (mapKey keys)
  | [] => by
      rw [enclosedKey, mapKey, Value.borrowedKeys]
      exact .same _
  | [single] => by
      rw [enclosedKey, mapKey, countP_borrowedKeys_cons, Value.borrowedKeys, List.countP_nil,
        Nat.add_zero]
      exact ((expr_lacks single).borrowed single).prepend _
  | first :: next :: rest => by
      rw [enclosedKey, mapKey, countP_borrowedKeys_cons]
      exact ((((expr_lacks first).borrowed first).prepend _).append
        (furtherKeys_lacks (next :: rest))).close _

theorem furtherKeys_lacks : ∀ keys : List Value,
    Lacks ((Value.borrowedKeys keys).countP Value.isOperation) (enclosedFurther keys)
      (furtherKeys keys)
  | [] => by
      rw [enclosedFurther, furtherKeys, Value.borrowedKeys]
      exact .same _
  | key :: rest => by
      rw [enclosedFurther, furtherKeys, countP_borrowedKeys_cons]
      exact (((expr_lacks key).borrowed key).prepend _).append (furtherKeys_lacks rest)

end

/-- An assignment lacks a pair of parentheses for each operation behind a `&`. -/
theorem assignmentText_lacks (introduces : Bool) (target value : Value) :
    Lacks ((target.borrowedIn value).countP Value.isOperation)
      (enclosedAssignment introduces target value)
      (assignmentText introduces target (expr value)) := by
  have ofValue := (expr_lacks value).borrowed value
  have saved : ∀ value : Value, (value :: value.borrowed).countP Value.isOperation =
      [value].countP Value.isOperation + value.borrowed.countP Value.isOperation := by
    intro value
    rw [← List.singleton_append, List.countP_append]
  cases target with
  | item key =>
      rw [Value.borrowedIn, enclosedAssignment, assignmentText, saved]
      exact (ofValue.prepend _).close _
  | map base keys =>
      rw [Value.borrowedIn, enclosedAssignment, assignmentText, List.countP_append, saved]
      exact ((((mapKey_lacks keys).prepend _).close _).append ofValue).close _
  | fragment | lookup | member | binary =>
      simp only [Value.borrowedIn, enclosedAssignment, assignmentText, List.countP_append]
      exact ((((expr_lacks _).prepend _).close _).append (expr_lacks value)).close _

theorem countP_isOperation_eq_zero (values : List Value) :
    values.countP Value.isOperation = 0 ↔ ∀ value ∈ values, value.isOperation = false := by
  simp [List.countP_eq_zero]

/-- The binding of an assignment holds the values of its two sides. -/
theorem bindAssignment_eq_ok {renderer : Renderer} {lhs rhs : Node} {env left : Env}
    {binding : Binding}
    (bound : bindAssignment lhs.isIdent (lhs.lower renderer) (rhs.lower renderer) env =
      .ok binding left) :
    binding = .ofAssignment lhs.isIdent (lhs.value renderer) (rhs.value renderer) := by
  rw [Node.lower_eq_replay, Node.lower_eq_replay, bindAssignment_replay] at bound
  exact (replay_eq_ok renderer bound).2.1

/-- **An assignment applies each `&` to a whole value exactly if no operation stands behind one.**
Every binding of an assignment is rendered. Its text is the one in which an operation behind a `&` is
enclosed in parentheses, but for a pair of parentheses at each such operation. The same holds of
every value that is rendered as an expression, and so of every map that is read. -/
theorem bindAssignment_borrows (layout : Layout) (renderer : Renderer) (lhs rhs : Node)
    (env left : Env) (binding : Binding)
    (bound : bindAssignment lhs.isIdent (lhs.lower renderer) (rhs.lower renderer) env =
      .ok binding left) :
    (∃ text, render layout binding = .ok text ∧
      Lacks (((lhs.value renderer).borrowedIn (rhs.value renderer)).countP Value.isOperation)
        (enclosedAssignment lhs.isIdent (lhs.value renderer) (rhs.value renderer)) text ∧
      (text = enclosedAssignment lhs.isIdent (lhs.value renderer) (rhs.value renderer) ↔
        ∀ behind ∈ (lhs.value renderer).borrowedIn (rhs.value renderer),
          behind.isOperation = false)) ∧
    ∀ value, Lacks (value.borrowed.countP Value.isOperation) (enclosedExpr value) (expr value) ∧
      (expr value = enclosedExpr value ↔
        ∀ behind ∈ value.borrowed, behind.isOperation = false) := by
  refine ⟨?_, ?_⟩
  · have lacks := assignmentText_lacks lhs.isIdent (lhs.value renderer) (rhs.value renderer)
    rw [bindAssignment_eq_ok bound]
    refine ⟨_, render_ofAssignment layout _ _ _, lacks, ?_⟩
    rw [lacks.eq_iff, countP_isOperation_eq_zero]
  · intro value
    refine ⟨expr_lacks value, ?_⟩
    rw [(expr_lacks value).eq_iff, countP_isOperation_eq_zero]

/-- The map entry `$state.m[a][b]`. -/
def entryTarget : Node :=
  .lookup (.lookup (.state "m") (.ident "a")) (.ident "b")

/-- The map entry `$state.n[c]`. -/
def entrySource : Node :=
  .lookup (.state "n") (.ident "c")

/-- In `$state.m[a][b] = $state.n[c]` both keys, the value and its key stand behind a `&`, and none
of them is an operation. -/
theorem entrySource_enclosed :
    returned (bindAssignment false (entryTarget.lower nameTemplate)
        (entrySource.lower nameTemplate) {}) =
      .ok (.ofAssignment false (.map "m" [.fragment "a", .fragment "b"])
        (.map "n" [.fragment "c"])) ∧
    ∃ text, render {} (.ofAssignment false (.map "m" [.fragment "a", .fragment "b"])
        (.map "n" [.fragment "c"])) = .ok text ∧
      text = enclosedAssignment false (.map "m" [.fragment "a", .fragment "b"])
        (.map "n" [.fragment "c"]) := by
  obtain ⟨text, rendered, _, enclosed⟩ :=
    (bindAssignment_borrows {} nameTemplate entryTarget entrySource {} _ _ rfl).1
  exact ⟨rfl, text, rendered, enclosed.mpr (by decide)⟩

/-- The assignment `$state.count = $state.count + 1`. -/
def increment : Node :=
  .assign (.state "count") (.binary "+" (.state "count") (.literal (.int "1")))

/-- **The `&` is applied to the left operand only** where a sum is saved. -/
theorem increment_unenclosed :
    returned (increment.lower (render {}) {}) =
      .ok (.fragment "COUNT.save(deps.storage, &COUNT.load(deps.storage)? + 1)?;\n") ∧
    enclosedAssignment false (.item "count") (.binary "+" (.item "count") (.fragment "1")) =
      "COUNT.save(deps.storage, &(COUNT.load(deps.storage)? + 1))?;\n" :=
  ⟨rfl, rfl⟩

end CosmWasm

end ContractCompiler
