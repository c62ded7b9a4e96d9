import ContractCompiler.Json.Basic

/-!
# Documents: texts as far as they can be read

Whoever reads a JSON text wants to know the first thing that is wrong with it. A text can be wrong
in its form, and a reader of values can object to a field long before the place where the form
breaks. A `Doc` therefore keeps all that stands before the break: a container that is never closed
keeps the items it has and is marked as open, and a value that never begins is `Doc.broken`.

A text breaks in one place only. So in a document that was read from a text, an open container is
the last thing in the container around it, and whatever is closed is well-formed throughout.
-/

namespace ContractCompiler.Json

set_option autoImplicit false

/-- A JSON text as far as it can be read. A string or field name is missing where the text spells
an unpaired surrogate. -/
inductive Doc where
  | null
  | bool (value : Bool)
  | num (literal : String)
  | str (text : Option String)
  | arr (items : List Doc) (closed : Bool)
  | obj (fields : List (Option String × Doc)) (closed : Bool)
  /-- The text breaks before the value is complete. -/
  | broken

mutual

/-- The document of a value. -/
def Doc.ofJson : Json → Doc
  | .null => .null
  | .bool value => .bool value
  | .num literal => .num literal
  | .str text => .str (some text)
  | .arr items => .arr (Doc.ofItems items) true
  | .obj fields => .obj (Doc.ofFields fields) true

/-- The documents of the items of an array. -/
def Doc.ofItems : List Json → List Doc
  | [] => []
  | item :: rest => Doc.ofJson item :: Doc.ofItems rest

/-- The documents of the fields of an object. -/
def Doc.ofFields : List (String × Json) → List (Option String × Doc)
  | [] => []
  | (name, value) :: rest => (some name, Doc.ofJson value) :: Doc.ofFields rest

end

/-- Whether the value is complete. What it contains need not be looked at, since the text breaks
in one place only. -/
def Doc.whole : Doc → Bool
  | .arr _ closed | .obj _ closed => closed
  | .broken => false
  | .null | .bool _ | .num _ | .str _ => true

/-! ## Reading a document from tokens -/

/-- A container or field that has been opened and not yet completed. -/
inductive Opened where
  /-- An array and its items, last one first. -/
  | items (read : List Doc)
  /-- An object and its fields, last one first. -/
  | fields (read : List (Option String × Doc))
  /-- A field of the object below it, whose value is still to come. -/
  | field (name : Option String)

/-- What may come next. -/
inductive Await where
  /-- A value. -/
  | value
  /-- The first item of an array, or its end. -/
  | itemOrEnd
  /-- The first field name of an object, or its end. -/
  | nameOrEnd
  /-- A field name. -/
  | name
  /-- The colon after a field name. -/
  | colon
  /-- A comma, or the end of the container. -/
  | commaOrEnd

/-- The state of the reader. -/
inductive Progress where
  /-- In the middle of the document, innermost container first. -/
  | reading (opened : List Opened) (await : Await)
  /-- The document is complete; `trailing` tells whether more tokens followed. -/
  | complete (doc : Doc) (trailing : Bool)
  /-- The text has broken. -/
  | broken (doc : Doc)

/-- The document that remains when the text breaks inside the given containers, the innermost of
which ends with `last`. -/
def abandon : List Opened → Option Doc → Doc
  | [], last => last.getD .broken
  | .items read :: outer, last => abandon outer (some (.arr (last.toList ++ read).reverse false))
  | .fields read :: outer, _ => abandon outer (some (.obj read.reverse false))
  | .field name :: .fields read :: outer, last =>
      abandon outer (some (.obj ((name, last.getD .broken) :: read).reverse false))
  | .field _ :: outer, last => abandon outer last

/-- Puts a complete value where it belongs. -/
def deliver (doc : Doc) : List Opened → Progress
  | [] => .complete doc false
  | .items read :: outer => .reading (.items (doc :: read) :: outer) .commaOrEnd
  | .field name :: .fields read :: outer =>
      .reading (.fields ((name, doc) :: read) :: outer) .commaOrEnd
  | opened => .broken (abandon opened none)

/-- Begins a value with the given token. -/
def begin (opened : List Opened) : Token → Progress
  | .openBrace => .reading (.fields [] :: opened) .nameOrEnd
  | .openBracket => .reading (.items [] :: opened) .itemOrEnd
  | .null => deliver .null opened
  | .bool value => deliver (.bool value) opened
  | .num literal => deliver (.num literal) opened
  | .str text => deliver (.str text) opened
  | .closeBrace | .closeBracket | .colon | .comma | .bad => .broken (abandon opened none)

/-- Ends the innermost container. -/
def finishContainer : List Opened → Progress
  | .items read :: outer => deliver (.arr read.reverse true) outer
  | .fields read :: outer => deliver (.obj read.reverse true) outer
  | opened => .broken (abandon opened none)

/-- Reads one token. -/
def Progress.step (progress : Progress) (token : Token) : Progress :=
  match progress with
  | .complete doc _ => .complete doc true
  | .broken doc => .broken doc
  | .reading opened await =>
      match await, token, opened with
      | .value, _, _ => begin opened token
      | .itemOrEnd, .closeBracket, _ => finishContainer opened
      | .itemOrEnd, _, _ => begin opened token
      | .nameOrEnd, .closeBrace, _ => finishContainer opened
      | .nameOrEnd, .str name, _ => .reading (.field name :: opened) .colon
      | .name, .str name, _ => .reading (.field name :: opened) .colon
      | .colon, .colon, _ => .reading opened .value
      | .commaOrEnd, .comma, .items _ :: _ => .reading opened .value
      | .commaOrEnd, .comma, .fields _ :: _ => .reading opened .name
      | .commaOrEnd, .closeBracket, .items _ :: _ => finishContainer opened
      | .commaOrEnd, .closeBrace, .fields _ :: _ => finishContainer opened
      | _, _, _ => .broken (abandon opened none)

/-- A document, and whether anything but blanks follows it. -/
structure Reading where
  doc : Doc
  trailing : Bool

/-- The end of the tokens. -/
def Progress.finish : Progress → Reading
  | .complete doc trailing => ⟨doc, trailing⟩
  | .broken doc => ⟨doc, false⟩
  | .reading opened _ => ⟨abandon opened none, false⟩

/-- The document that a list of tokens spells. -/
def ofTokens (tokens : List Token) : Reading :=
  (tokens.foldl Progress.step (.reading [] .value)).finish

/-- The document of a text. -/
def read (text : String) : Reading :=
  ofTokens (tokens text.toList)

/-! ## Values -/

mutual

/-- The value of a document, if the text was well-formed throughout. -/
def Doc.toJson? : Doc → Option Json
  | .null => some .null
  | .bool value => some (.bool value)
  | .num literal => some (.num literal)
  | .str text => text.map .str
  | .arr items closed => if closed then (Doc.toItems? items).map .arr else none
  | .obj fields closed => if closed then (Doc.toFields? fields).map .obj else none
  | .broken => none

/-- The values of the items of an array. -/
def Doc.toItems? : List Doc → Option (List Json)
  | [] => some []
  | item :: rest => do
      let item ← Doc.toJson? item
      let rest ← Doc.toItems? rest
      return item :: rest

/-- The values of the fields of an object. -/
def Doc.toFields? : List (Option String × Doc) → Option (List (String × Json))
  | [] => some []
  | (name, value) :: rest => do
      let name ← name
      let value ← Doc.toJson? value
      let rest ← Doc.toFields? rest
      return (name, value) :: rest

end

/-- The value of a text that is one well-formed JSON document. -/
def parse? (text : String) : Option Json :=
  let reading := read text
  if reading.trailing then none else reading.doc.toJson?

end ContractCompiler.Json
