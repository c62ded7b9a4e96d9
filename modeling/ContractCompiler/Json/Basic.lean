import ContractCompiler.Json.Token

/-!
# JSON values

The values that JSON texts denote, and their two written forms. An object is the list of its
fields in order. Both forms are sequences of tokens; the compact one has no blanks, the spread one
puts every item and every field on a line of its own.
-/

namespace ContractCompiler

set_option autoImplicit false

/-- A JSON value. -/
inductive Json where
  | null
  | bool (value : Bool)
  /-- A number, as it is spelled. -/
  | num (literal : String)
  | str (text : String)
  | arr (items : List Json)
  | obj (fields : List (String × Json))

namespace Json

/-- The number of a count. -/
def nat (n : Nat) : Json :=
  .num (String.ofList (Nat.toDigits 10 n))

/-- An array of texts. -/
def texts (items : List String) : Json :=
  .arr (items.map .str)

/-- The value, or `null` where there is none. -/
def orNull (value : Option Json) : Json :=
  value.getD .null

/-- The text, or `null` where there is none. -/
def textOrNull (text : Option String) : Json :=
  orNull (text.map .str)

/-! ## Nesting -/

mutual

/-- How deep objects and arrays are nested. -/
def depth : Json → Nat
  | .null | .bool _ | .num _ | .str _ => 0
  | .arr items => depthItems items + 1
  | .obj fields => depthFields fields + 1

/-- The depth of the deepest item. -/
def depthItems : List Json → Nat
  | [] => 0
  | item :: rest => max (depth item) (depthItems rest)

/-- The depth of the deepest field. -/
def depthFields : List (String × Json) → Nat
  | [] => 0
  | (_, value) :: rest => max (depth value) (depthFields rest)

end

/-! ## The compact form -/

mutual

/-- The tokens of a value, followed by `rest`. -/
def tokensThen : Json → List Token → List Token
  | .null, rest => .null :: rest
  | .bool value, rest => .bool value :: rest
  | .num literal, rest => .num literal :: rest
  | .str text, rest => .str (some text) :: rest
  | .arr items, rest => .openBracket :: itemTokensThen items (.closeBracket :: rest)
  | .obj fields, rest => .openBrace :: fieldTokensThen fields (.closeBrace :: rest)

/-- The tokens of the items of an array. -/
def itemTokensThen : List Json → List Token → List Token
  | [], rest => rest
  | [item], rest => tokensThen item rest
  | item :: next :: more, rest =>
      tokensThen item (.comma :: itemTokensThen (next :: more) rest)

/-- The tokens of the fields of an object. -/
def fieldTokensThen : List (String × Json) → List Token → List Token
  | [], rest => rest
  | [(name, value)], rest => .str (some name) :: .colon :: tokensThen value rest
  | (name, value) :: next :: more, rest =>
      .str (some name) :: .colon ::
        tokensThen value (.comma :: fieldTokensThen (next :: more) rest)

end

/-- The value on one line, without blanks. -/
def compact (value : Json) : String :=
  String.ofList ((tokensThen value []).flatMap Token.text)

/-! ## The spread form -/

/-- A new line, indented by two spaces a level. -/
def newline (level : Nat) : List Char :=
  '\n' :: List.replicate (2 * level) ' '

mutual

/-- The spread form of a value that stands at `level`, followed by `rest`. -/
def spreadThen (level : Nat) : Json → List Char → List Char
  | .null, rest => Token.null.text ++ rest
  | .bool value, rest => (Token.bool value).text ++ rest
  | .num literal, rest => literal.toList ++ rest
  | .str text, rest => escaped text ++ rest
  | .arr [], rest => '[' :: ']' :: rest
  | .arr (item :: more), rest =>
      '[' :: newline (level + 1) ++
        spreadThen (level + 1) item
          (spreadItemsThen (level + 1) more (newline level ++ ']' :: rest))
  | .obj [], rest => '\x7b' :: '\x7d' :: rest
  | .obj ((name, value) :: more), rest =>
      '\x7b' :: newline (level + 1) ++ escaped name ++ ':' :: ' ' ::
        spreadThen (level + 1) value
          (spreadFieldsThen (level + 1) more (newline level ++ '\x7d' :: rest))

/-- The items after the first one. -/
def spreadItemsThen (level : Nat) : List Json → List Char → List Char
  | [], rest => rest
  | item :: more, rest =>
      ',' :: newline level ++ spreadThen level item (spreadItemsThen level more rest)

/-- The fields after the first one. -/
def spreadFieldsThen (level : Nat) : List (String × Json) → List Char → List Char
  | [], rest => rest
  | (name, value) :: more, rest =>
      ',' :: newline level ++ escaped name ++ ':' :: ' ' ::
        spreadThen level value (spreadFieldsThen level more rest)

end

/-- The value with every item and field on a line of its own. -/
def spread (value : Json) : String :=
  String.ofList (spreadThen 0 value [])

end Json

end ContractCompiler
