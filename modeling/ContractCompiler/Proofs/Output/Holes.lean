import ContractCompiler.Proofs.Output.Comments

/-!
# Values around a comment

A value with a comment somewhere in it is a value with a hole (`ValueHole`). What is written for
such a value before and after the comment does not depend on the comment. In an expression the text
goes on after it, unless the comment ends the expression (`CosmWasm.expr_fill`). In an assignment
there is always code after it (`CosmWasm.assignmentText_fill`). As a statement, a value that is text
is embedded, and any other value is an expression that is ended by a semicolon
(`CosmWasm.statementText_fill`).

So the text around a value does one of three things to a comment in it (`Passes`): it keeps the
comment, as an operand of a larger value; it writes code right after it; or it embeds it as a
statement, which ends its line.
-/

namespace ContractCompiler

set_option autoImplicit false

/-! ## Values around a comment -/

/-- A value with a place for a comment in it. -/
inductive ValueHole where
  /-- The text before the comment. What stands after it is put in along with the comment. -/
  | fragment (front : String)
  | mapKey (base : String) (before : List Value) (inner : ValueHole) (after : List Value)
  | lookupBase (inner : ValueHole) (key : Value)
  | lookupKey (base : Value) (inner : ValueHole)
  | memberBase (inner : ValueHole) (name : String)
  | leftOperand (op : String) (inner : ValueHole) (rhs : Value)
  | rightOperand (op : String) (lhs : Value) (inner : ValueHole)

namespace ValueHole

/-- The value with a comment in the place. -/
def fill : ValueHole → List Char → Value
  | .fragment front, text => .fragment (front ++ commented text)
  | .mapKey base before inner after, text => .map base (before ++ inner.fill text :: after)
  | .lookupBase inner key, text => .lookup (inner.fill text) key
  | .lookupKey base inner, text => .lookup base (inner.fill text)
  | .memberBase inner name, text => .member (inner.fill text) name
  | .leftOperand op inner rhs, text => .binary op (inner.fill text) rhs
  | .rightOperand op lhs inner, text => .binary op lhs (inner.fill text)

/-- Whether the comment is a part of a fragment. -/
def isFragment : ValueHole → Bool
  | .fragment _ => true
  | _ => false

theorem eq_fragment {hole : ValueHole} (bare : hole.isFragment = true) :
    ∃ front, hole = .fragment front := by
  cases hole with
  | fragment front => exact ⟨front, rfl⟩
  | mapKey | lookupBase | lookupKey | memberBase | leftOperand | rightOperand => cases bare

/-- The place after a lookup in the value. -/
def index : ValueHole → Value → ValueHole
  | .mapKey base before inner after, key => .mapKey base before inner (after ++ [key])
  | hole, key => .lookupBase hole key

theorem fill_index (hole : ValueHole) (key : Value) (text : List Char) :
    (hole.index key).fill text = (hole.fill text).index key := by
  cases hole <;> simp [index, fill, Value.index]

theorem isFragment_index (hole : ValueHole) (key : Value) : (hole.index key).isFragment = false := by
  cases hole <;> rfl

/-- The place after the value is looked up in another one. -/
def keyOf : Value → ValueHole → ValueHole
  | .item base, hole => .mapKey base [] hole []
  | .map base keys, hole => .mapKey base keys hole []
  | base, hole => .lookupKey base hole

theorem fill_keyOf (base : Value) (hole : ValueHole) (text : List Char) :
    (keyOf base hole).fill text = base.index (hole.fill text) := by
  cases base <;> rfl

theorem isFragment_keyOf (base : Value) (hole : ValueHole) : (keyOf base hole).isFragment = false := by
  cases base <;> rfl

/-- A member of a value that is no fragment. -/
theorem fill_memberOf {hole : ValueHole} (structured : hole.isFragment = false)
    (text : List Char) (name : String) :
    (hole.fill text).memberOf name = (ValueHole.memberBase hole name).fill text := by
  cases hole with
  | fragment => cases structured
  | mapKey | lookupBase | lookupKey | memberBase | leftOperand | rightOperand => rfl

/-- Text with a comment in it is no root, so its members are text that goes on. -/
theorem fill_fragment_memberOf (front : String) (text : List Char) (name : String) :
    ((ValueHole.fragment front).fill text).memberOf name =
      (ValueHole.fragment front).fill (text ++ '.' :: name.toList) := by
  have apart : ∀ root : String, '/' ∉ root.toList → front ++ commented text ≠ root := by
    rintro root unmarked rfl
    refine unmarked ?_
    simp [commented, omissionMark]
  rw [fill, Value.memberOf, if_neg (apart _ (by decide)), if_neg (apart _ (by decide)),
    String.append_assoc, String.append_assoc, commented_append, String.toList_append]
  rfl

end ValueHole

/-! ## Expressions around a comment -/

/-- The text is empty or begins with a character that does not end a line. -/
def Continues (text : String) : Prop :=
  text = "" ∨ GoesOn text.toList

theorem GoesOn.append_string {text : String} (goesOn : GoesOn text.toList) (added : String) :
    GoesOn (text ++ added).toList := by
  rw [String.toList_append]
  exact goesOn.append _

theorem Continues.goesOn {text added : String} (continues : Continues text)
    (goesOn : GoesOn added.toList) : GoesOn (text ++ added).toList := by
  rcases continues with rfl | already
  · rwa [String.empty_append]
  · exact already.append_string added

theorem Continues.append {text added : String} (continues : Continues text)
    (further : Continues added) : Continues (text ++ added) := by
  rcases further with rfl | goesOn
  · rwa [String.append_empty]
  · exact .inr (continues.goesOn goesOn)

namespace CosmWasm

theorem furtherKeys_append (keys more : List Value) :
    furtherKeys (keys ++ more) = furtherKeys keys ++ furtherKeys more := by
  induction keys with
  | nil => rw [List.nil_append, furtherKeys, String.empty_append]
  | cons key rest ih =>
      rw [List.cons_append, furtherKeys, furtherKeys, ih]
      simp only [String.append_assoc]

theorem continues_furtherKeys (keys : List Value) : Continues (furtherKeys keys) := by
  cases keys with
  | nil => exact .inl (by rw [furtherKeys])
  | cons key rest =>
      rw [furtherKeys, String.append_assoc]
      exact .inr (GoesOn.append_string (by decide) _)

/-- One of the keys of a map. -/
theorem mapKey_around (before after : List Value) :
    ∃ front back, Continues back ∧
      ∀ key, mapKey (before ++ key :: after) = front ++ expr key ++ back := by
  cases before with
  | nil =>
      cases after with
      | nil =>
          refine ⟨"&", "", .inl rfl, fun key => ?_⟩
          rw [List.nil_append, mapKey, String.append_empty]
      | cons next rest =>
          refine ⟨"(&", furtherKeys (next :: rest) ++ ")",
            .inr ((continues_furtherKeys _).goesOn (by decide)), fun key => ?_⟩
          rw [List.nil_append, mapKey]
          simp only [String.append_assoc]
  | cons first more =>
      refine ⟨"(&" ++ expr first ++ furtherKeys more ++ ", &", furtherKeys after ++ ")",
        .inr ((continues_furtherKeys _).goesOn (by decide)), fun key => ?_⟩
      have several : mapKey (first :: (more ++ key :: after)) =
          "(&" ++ expr first ++ furtherKeys (more ++ key :: after) ++ ")" := by
        cases more with
        | nil => rw [List.nil_append, mapKey]
        | cons => rw [List.cons_append, mapKey]
      rw [List.cons_append, several, furtherKeys_append, furtherKeys]
      simp only [String.append_assoc]

/-- An operand is put in parentheses whatever the comment in it is. -/
theorem parenthesized_fill (hole : ValueHole) :
    ∃ opening closing, Continues closing ∧
      ∀ text inner, parenthesized (hole.fill text) inner = opening ++ inner ++ closing := by
  cases hole with
  | leftOperand | rightOperand => exact ⟨"(", ")", .inr (by decide), fun _ _ => rfl⟩
  | fragment | mapKey | lookupBase | lookupKey | memberBase =>
      refine ⟨"", "", .inl rfl, fun text inner => ?_⟩
      rw [String.empty_append, String.append_empty]
      rfl

/-- **A comment in an expression.** What stands before it and after it does not depend on it, and
the text goes on after it, unless it ends there. -/
theorem expr_fill (hole : ValueHole) :
    ∃ front back, Continues back ∧
      ∀ text, expr (hole.fill text) = front ++ commented text ++ back := by
  induction hole with
  | fragment front =>
      refine ⟨front, "", .inl rfl, fun text => ?_⟩
      rw [ValueHole.fill, expr, String.append_empty]
  | mapKey base before inner after ih =>
      obtain ⟨front, back, continues, around⟩ := ih
      obtain ⟨opening, closing, closes, keys⟩ := mapKey_around before after
      refine ⟨Text.screamingCase base ++ ".load(deps.storage, " ++ opening ++ front,
        back ++ closing ++ ")?", .inr ((continues.append closes).goesOn (by decide)),
        fun text => ?_⟩
      rw [ValueHole.fill, expr, keys, around]
      simp only [String.append_assoc]
  | lookupBase inner key ih =>
      obtain ⟨front, back, continues, around⟩ := ih
      refine ⟨front, back ++ ("[" ++ (expr key ++ "]")),
        .inr (continues.goesOn (GoesOn.append_string (by decide) _)), fun text => ?_⟩
      rw [ValueHole.fill, expr, around]
      simp only [String.append_assoc]
  | lookupKey base inner ih =>
      obtain ⟨front, back, continues, around⟩ := ih
      refine ⟨expr base ++ "[" ++ front, back ++ "]", .inr (continues.goesOn (by decide)),
        fun text => ?_⟩
      rw [ValueHole.fill, expr, around]
      simp only [String.append_assoc]
  | memberBase inner name ih =>
      obtain ⟨front, back, continues, around⟩ := ih
      refine ⟨front, back ++ ("." ++ name),
        .inr (continues.goesOn (GoesOn.append_string (by decide) _)), fun text => ?_⟩
      rw [ValueHole.fill, expr, around]
      simp only [String.append_assoc]
  | leftOperand op inner rhs ih =>
      obtain ⟨front, back, continues, around⟩ := ih
      obtain ⟨opening, closing, closes, parentheses⟩ := parenthesized_fill inner
      refine ⟨opening ++ front,
        back ++ closing ++ (" " ++ (op ++ (" " ++ parenthesized rhs (expr rhs)))),
        .inr ((continues.append closes).goesOn (GoesOn.append_string (by decide) _)),
        fun text => ?_⟩
      rw [ValueHole.fill, expr, parentheses, around]
      simp only [String.append_assoc]
  | rightOperand op lhs inner ih =>
      obtain ⟨front, back, continues, around⟩ := ih
      obtain ⟨opening, closing, closes, parentheses⟩ := parenthesized_fill inner
      refine ⟨parenthesized lhs (expr lhs) ++ " " ++ op ++ " " ++ opening ++ front,
        back ++ closing, continues.append closes, fun text => ?_⟩
      rw [ValueHole.fill, expr, parentheses, around]
      simp only [String.append_assoc]

/-! ## Assignments around a comment -/

/-- The value that is assigned is followed by the end of the assignment. -/
theorem assignmentText_around (introduces : Bool) (lhs : Value) :
    ∃ front back, GoesOn back.toList ∧
      ∀ value, assignmentText introduces lhs value = front ++ value ++ back := by
  cases lhs with
  | item key => exact ⟨_, ")?;\n", by decide, fun _ => rfl⟩
  | map base keys => exact ⟨_, ")?;\n", by decide, fun _ => rfl⟩
  | fragment | lookup | member | binary => exact ⟨_, ";\n", by decide, fun _ => rfl⟩

/-- A comment in the target is followed by the value that is assigned. -/
theorem assignmentText_fill (hole : ValueHole) (value : String) :
    ∃ front back, GoesOn back.toList ∧
      ∀ text, assignmentText false (hole.fill text) value = front ++ commented text ++ back := by
  -- All targets but maps are written as they are.
  have written : (∀ text, assignmentText false (hole.fill text) value =
        "" ++ expr (hole.fill text) ++ " = " ++ value ++ ";\n") →
      ∃ front back, GoesOn back.toList ∧
        ∀ text, assignmentText false (hole.fill text) value =
          front ++ commented text ++ back := by
    intro same
    obtain ⟨front, back, continues, around⟩ := expr_fill hole
    refine ⟨front, back ++ (" = " ++ (value ++ ";\n")),
      continues.goesOn (GoesOn.append_string (by decide) _), fun text => ?_⟩
    rw [same, around]
    simp only [String.empty_append, String.append_assoc]
  cases hole with
  | mapKey base before inner after =>
      obtain ⟨front, back, continues, around⟩ := expr_fill inner
      obtain ⟨opening, closing, closes, keys⟩ := mapKey_around before after
      refine ⟨Text.screamingCase base ++ ".save(deps.storage, " ++ opening ++ front,
        back ++ closing ++ (", &" ++ (value ++ ")?;\n")),
        (continues.append closes).goesOn (GoesOn.append_string (by decide) _), fun text => ?_⟩
      rw [ValueHole.fill, assignmentText, keys, around]
      simp only [String.append_assoc]
  | fragment | lookupBase | lookupKey | memberBase | leftOperand | rightOperand =>
      exact written fun _ => rfl

/-! ## Statements around a comment -/

/-- In a larger expression that is a statement, a comment is followed by the rest of it. -/
theorem statementText_fill (indentation : Indentation) {hole : ValueHole}
    (structured : hole.isFragment = false) :
    ∃ front back, GoesOn back.toList ∧
      ∀ text, statementText indentation (hole.fill text) = front ++ commented text ++ back := by
  obtain ⟨front, back, continues, around⟩ := expr_fill hole
  refine ⟨indentation.text ++ front, back ++ (";" ++ "\n"), continues.goesOn (by decide),
    fun text => ?_⟩
  have line : statementText indentation (hole.fill text) =
      indentation.line (expr (hole.fill text) ++ ";") := by
    cases hole with
    | fragment => cases structured
    | mapKey | lookupBase | lookupKey | memberBase | leftOperand | rightOperand => rfl
  rw [line, Indentation.line, if_neg, around]
  · simp only [String.append_assoc]
  · intro empty
    have ended := congrArg String.toList empty
    simp at ended

end CosmWasm

/-! ## From one hole to the next -/

/-- What becomes of the text after the mark of a comment, from a hole to the next one around it,
which may hold it as an item of a list. -/
inductive Passes (item : Bool) (hole next : ValueHole) (text : List Char) : List Char → Prop where
  /-- The comment is a part of a larger value. -/
  | kept (structured : next.isFragment = false) (operand : item = false) :
      Passes item hole next text text
  /-- Code is written after the comment. -/
  | followed {added : List Char} (goesOn : GoesOn added)
      (code : hole.isFragment = true → item = false) : Passes item hole next text (text ++ added)
  /-- The comment is embedded as an item. -/
  | embedded {carried : List Char} (bare : hole.isFragment = true) (listed : item = true)
      (carries : Carried text carried) (added : List Char) :
      Passes item hole next text (carried ++ added)

/-- The values for all comments in a hole are those of another hole. -/
def ValueHole.Becomes (item : Bool) (hole : ValueHole) (around : List Char → Value) : Prop :=
  ∃ next : ValueHole, ∀ text, ∃ further, around text = next.fill further ∧
    Passes item hole next text further

theorem ValueHole.Becomes.congr {item : Bool} {hole : ValueHole} {around other : List Char → Value}
    (becomes : hole.Becomes item around) (same : ∀ text, other text = around text) :
    hole.Becomes item other := by
  have whole : other = around := funext same
  rwa [whole]

namespace CosmWasm

/-- Text around a statement. -/
theorem becomes_statement (indentation : Indentation) (hole : ValueHole) (front back : String) :
    hole.Becomes true fun text =>
      .fragment (front ++ statementText indentation (hole.fill text) ++ back) := by
  cases bare : hole.isFragment with
  | true =>
      obtain ⟨before, rfl⟩ := ValueHole.eq_fragment bare
      obtain ⟨opening, embedded⟩ := indentation.embedded_comment before
      refine ⟨.fragment (front ++ opening), fun text => ?_⟩
      obtain ⟨carried, carries, same⟩ := embedded text
      refine ⟨carried ++ back.toList, ?_, .embedded rfl rfl carries _⟩
      show Value.fragment (front ++ indentation.embedded (before ++ commented text) ++ back) = _
      rw [same, ValueHole.fill, ← commented_append]
      simp only [String.append_assoc]
  | false =>
      obtain ⟨opening, closing, goesOn, around⟩ := statementText_fill indentation bare
      refine ⟨.fragment (front ++ opening), fun text => ⟨text ++ (closing ++ back).toList, ?_,
        .followed (goesOn.append_string back) (by simp [bare])⟩⟩
      show Value.fragment (front ++ statementText indentation (hole.fill text) ++ back) = _
      rw [around, ValueHole.fill, ← commented_append]
      simp only [String.append_assoc]

/-- Text with a comment in it that is followed by code. -/
theorem becomes_followed (hole : ValueHole) {around : List Char → String} (front : String)
    {back : String} (goesOn : GoesOn back.toList)
    (same : ∀ text, around text = front ++ commented text ++ back) :
    hole.Becomes false fun text => .fragment (around text) := by
  refine ⟨.fragment front, fun text => ⟨text ++ back.toList, ?_, .followed goesOn fun _ => rfl⟩⟩
  show Value.fragment (around text) = _
  rw [same, ValueHole.fill, String.append_assoc, commented_append]

/-- Text around an expression. -/
theorem becomes_expr (hole : ValueHole) (front : String) {back : String}
    (goesOn : GoesOn back.toList) :
    hole.Becomes false fun text => .fragment (front ++ expr (hole.fill text) ++ back) := by
  obtain ⟨opening, closing, continues, around⟩ := expr_fill hole
  refine becomes_followed hole (front ++ opening) (continues.goesOn goesOn) fun text => ?_
  rw [around]
  simp only [String.append_assoc]

end CosmWasm

end ContractCompiler
