import ContractCompiler.Json.Doc
import ContractCompiler.Json.Number
import ContractCompiler.Json.Problem

/-!
# Readers of values

A `Reader` finds a value of some type in a document and reports the first problem that is met on
the way from left to right.

Two things about the surroundings matter to a reader. Objects and arrays that are read may be
nested only so deep; each one that is entered uses up a level. And a value is sometimes set aside
before it is known what it stands for, when the word that tells so comes after it. What is set
aside is checked as plain JSON first, and some spellings of words are allowed only there.

Fields that a reader has no use for are skipped: they must be well-formed, but may be nested to any
depth, hold numbers of any size and spell unpaired surrogates.
-/

namespace ContractCompiler.Json

set_option autoImplicit false

/-- Where a value stands: how many more levels may be entered, and whether it was set aside. -/
structure Place where
  levels : Nat
  aside : Bool := false

/-- Finds a value in a document. -/
abbrev Reader (α : Type) := Place → Doc → Except Problem α

/-- How deep the objects and arrays of a text may be nested. -/
def maxLevels : Nat := 127

/-- Reads a whole text. What follows the value is looked at last. -/
def Reader.run {α : Type} (reader : Reader α) (text : String) : Except Problem α := do
  let reading := read text
  let value ← reader { levels := maxLevels } reading.doc
  if reading.trailing then throw .malformed
  return value

/-- Applies a function to the value that is read. -/
def Reader.map {α β : Type} (f : α → β) (reader : Reader α) : Reader β :=
  fun place doc => (reader place doc).map f

/-- Goes on inside an object or array. -/
def enter {α : Type} (place : Place) (inside : Place → Except Problem α) : Except Problem α :=
  match place.levels with
  | 0 => .error .malformed
  | levels + 1 => inside { place with levels }

/-- The value, provided that nothing is left over. -/
def ended {α : Type} (nothingLeft : Bool) (value : α) : Except Problem α :=
  if nothingLeft then .ok value else .error .malformed

/-! ## Simple values -/

/-- A text. -/
def textReader : Reader String
  | _, .str (some text) => .ok text
  | _, _ => .error .malformed

/-- A truth value. -/
def flagReader : Reader Bool
  | _, .bool value => .ok value
  | _, _ => .error .malformed

/-- A count. -/
def countReader : Reader Nat
  | _, .num literal =>
      match count? literal with
      | some n => .ok n
      | none => .error .malformed
  | _, _ => .error .malformed

/-- A value or `null`. -/
def optionalReader {α : Type} (reader : Reader α) : Reader (Option α)
  | _, .null => .ok none
  | place, doc => (reader place doc).map some

/-- Reads items in order. -/
def readItems {α : Type} (reader : Reader α) (place : Place) : List Doc → Except Problem (List α)
  | [] => .ok []
  | item :: rest => do
      let value ← reader place item
      let values ← readItems reader place rest
      return value :: values

/-- An array. -/
def listReader {α : Type} (reader : Reader α) : Reader (List α)
  | place, .arr items closed => enter place fun inside => do
      let values ← readItems reader inside items
      ended closed values
  | _, _ => .error .malformed

/-! ## Setting values aside -/

mutual

/-- Whether a document is plain JSON that can be set aside: complete, not nested deeper than
`levels`, with texts free of unpaired surrogates and numbers in range. -/
def Doc.plain (levels : Nat) : Doc → Bool
  | .null | .bool _ => true
  | .num literal => inRange literal
  | .str text => text.isSome
  | .arr items closed =>
      match levels with
      | 0 => false
      | levels + 1 => plainItems levels items && closed
  | .obj fields closed =>
      match levels with
      | 0 => false
      | levels + 1 => plainFields levels fields && closed
  | .broken => false

/-- Whether every item can be set aside. -/
def plainItems (levels : Nat) : List Doc → Bool
  | [] => true
  | item :: rest => Doc.plain levels item && plainItems levels rest

/-- Whether every field can be set aside. -/
def plainFields (levels : Nat) : List (Option String × Doc) → Bool
  | [] => true
  | (name, value) :: rest => name.isSome && Doc.plain levels value && plainFields levels rest

end

/-! ## Records -/

/-- A field of a record: its name, how its value is read, and the value it has when it is left
out, unless it must be given. -/
structure Field (α : Type) where
  name : String
  reader : Reader α
  default : Option α := none

/-- The fields of a record in the order of their declaration. -/
inductive Fields : List Type → Type 1
  | nil : Fields []
  | cons {α : Type} {types : List Type} (field : Field α) (rest : Fields types) :
      Fields (α :: types)

/-- A value for each field. -/
def Values : List Type → Type
  | [] => Unit
  | α :: types => α × Values types

/-- The values of the fields met so far. -/
def Slots : List Type → Type
  | [] => Unit
  | α :: types => Option α × Slots types

/-- No field met yet. -/
def Fields.start : {types : List Type} → Fields types → Slots types
  | _, .nil => ()
  | _, .cons _ rest => (none, rest.start)

/-- Takes in one field of an object. A field that the record does not know is skipped. -/
def Fields.take {types : List Type} (fields : Fields types) (place : Place) (name : String)
    (doc : Doc) (slots : Slots types) : Except Problem (Slots types) :=
  match types, fields, slots with
  | _, .nil, () => ended doc.whole ()
  | _, .cons field rest, (slot, slots) =>
      if field.name = name then
        if slot.isSome then .error (.duplicate name)
        else (field.reader place doc).map fun value => (some value, slots)
      else (rest.take place name doc slots).map fun slots => (slot, slots)

/-- Takes in the fields of an object in their order. -/
def Fields.takeAll {types : List Type} (fields : Fields types) (place : Place) :
    List (Option String × Doc) → Slots types → Except Problem (Slots types)
  | [], slots => .ok slots
  | (none, _) :: _, _ => .error .malformed
  | (some name, doc) :: rest, slots => do
      let slots ← fields.take place name doc slots
      fields.takeAll place rest slots

/-- The values once the object has ended. The first field that is missing is reported. -/
def Fields.finish : {types : List Type} → Fields types → Slots types → Except Problem (Values types)
  | _, .nil, () => .ok ()
  | _, .cons field rest, (slot, slots) =>
      match slot <|> field.default with
      | none => .error (.missing field.name)
      | some value => (rest.finish slots).map fun values => (value, values)

/-- The values of a record that is written as an array. Fields at the end that have a default may
be left off. -/
def Fields.positional : {types : List Type} → Fields types → Place → List Doc → (closed : Bool) →
    Except Problem (Values types)
  | _, .nil, _, items, closed => ended (items.isEmpty && closed) ()
  | _, .cons field rest, place, item :: items, closed => do
      let value ← field.reader place item
      let values ← rest.positional place items closed
      return (value, values)
  | _, .cons field rest, place, [], closed =>
      match closed, field.default with
      | true, some value => (rest.positional place [] closed).map fun values => (value, values)
      | _, _ => .error .malformed

/-- A record, as an object or as the array of its fields. -/
def recordReader {types : List Type} (fields : Fields types) : Reader (Values types)
  | place, .obj entries closed => enter place fun inside => do
      let slots ← fields.takeAll inside entries fields.start
      let _ ← ended closed ()
      fields.finish slots
  | place, .arr items closed => enter place fun inside => fields.positional inside items closed
  | _, _ => .error .malformed

/-! ## Alternatives -/

/-- One of several named alternatives: a mere word, or a word with a value. -/
inductive Alternative (α : Type) where
  | word (value : α)
  | holding (reader : Reader α)

/-- The alternative of the given name. -/
def findAlternative {α : Type} (alternatives : List (String × Alternative α)) (name : String) :
    Except Problem (Alternative α) :=
  match alternatives.lookup name with
  | some alternative => .ok alternative
  | none => .error (.unknownVariant name (alternatives.map (·.1)))

/-- Whether a value may stand beside a mere word: `null`, and an empty object where the choice was
set aside. -/
def besideWord (place : Place) : Doc → Bool
  | .null => true
  | .obj [] _ => place.aside
  | _ => false

/-- A choice between named alternatives. A mere word is a text or an object whose only field has
that name; a word with a value is such an object. -/
def choiceReader {α : Type} (alternatives : List (String × Alternative α)) : Reader α
  | _, .str (some name) => do
      match ← findAlternative alternatives name with
      | .word value => return value
      | .holding _ => throw .malformed
  | place, .obj ((some name, doc) :: rest) closed => enter place fun inside => do
      if place.aside && !rest.isEmpty then throw .malformed
      let value ← match ← findAlternative alternatives name with
        | .word value => ended (besideWord place doc) value
        | .holding reader => reader inside doc
      ended (rest.isEmpty && closed) value
  | _, _ => .error .malformed

/-- A choice between mere words. -/
def wordReader {α : Type} (words : List (String × α)) : Reader α :=
  choiceReader (words.map fun (name, value) => (name, .word value))

/-! ## Values under a tag -/

/-- The name of a kind. Where the value was set aside the kind may also be given by its place in
the list. -/
def kindReader {κ : Type} (kinds : List (String × κ)) : Reader κ
  | _, .str (some name) =>
      match kinds.lookup name with
      | some kind => .ok kind
      | none => .error (.unknownVariant name (kinds.map (·.1)))
  | place, .num literal =>
      match place.aside, (count? literal).bind fun n => kinds[n]? with
      | true, some (_, kind) => .ok kind
      | _, _ => .error .malformed
  | _, _ => .error .malformed

/-- Reads the rest of an object in which both the tag and the content have been met. -/
def afterBoth {α : Type} (tagName contentName : String) (value : α) (closed : Bool) :
    List (Option String × Doc) → Except Problem α
  | [] => ended closed value
  | (none, _) :: _ => .error .malformed
  | (some name, doc) :: rest =>
      if name = tagName ∨ name = contentName then .error (.duplicate name)
      else if doc.whole then afterBoth tagName contentName value closed rest
      else .error .malformed

/-- Reads the rest of an object in which only the tag has been met. -/
def afterTag {α : Type} (tagName contentName : String) (content : Reader α) (place : Place)
    (closed : Bool) : List (Option String × Doc) → Except Problem α
  | [] => if closed then .error (.missing contentName) else .error .malformed
  | (none, _) :: _ => .error .malformed
  | (some name, doc) :: rest =>
      if name = tagName then .error (.duplicate name)
      else if name = contentName then do
        let value ← content place doc
        afterBoth tagName contentName value closed rest
      else if doc.whole then afterTag tagName contentName content place closed rest
      else .error .malformed

/-- Reads the rest of an object in which only the content has been met and set aside. -/
def afterContent {κ α : Type} (tagName contentName : String) (tag : Reader κ)
    (content : κ → Reader α) (place : Place) (held : Doc) (closed : Bool) :
    List (Option String × Doc) → Except Problem α
  | [] => if closed then .error (.missing tagName) else .error .malformed
  | (none, _) :: _ => .error .malformed
  | (some name, doc) :: rest =>
      if name = contentName then .error (.duplicate name)
      else if name = tagName then do
        let kind ← tag place doc
        let value ← content kind { place with aside := true } held
        afterBoth tagName contentName value closed rest
      else if doc.whole then afterContent tagName contentName tag content place held closed rest
      else .error .malformed

/-- Reads an object in which neither the tag nor the content has been met. -/
def beforeBoth {κ α : Type} (tagName contentName : String) (tag : Reader κ)
    (content : κ → Reader α) (place : Place) (closed : Bool) :
    List (Option String × Doc) → Except Problem α
  | [] => if closed then .error (.missing tagName) else .error .malformed
  | (none, _) :: _ => .error .malformed
  | (some name, doc) :: rest =>
      if name = tagName then do
        let kind ← tag place doc
        afterTag tagName contentName (content kind) place closed rest
      else if name = contentName then
        if doc.plain place.levels then
          afterContent tagName contentName tag content place doc closed rest
        else .error .malformed
      else if doc.whole then beforeBoth tagName contentName tag content place closed rest
      else .error .malformed

/-- A value whose kind is told by one field and whose content stands in another, in either order.
In an object the kind is a choice between words. The value may also be written as an array of the
kind and the content; there the kind is a mere name. -/
def taggedReader {κ α : Type} (tagName contentName : String) (kinds : List (String × κ))
    (content : κ → Reader α) : Reader α
  | place, .obj entries closed => enter place fun inside =>
      beforeBoth tagName contentName (wordReader kinds) content inside closed entries
  | place, .arr (kind :: rest) closed => enter place fun inside => do
      let kind ← kindReader kinds inside kind
      match rest with
      | [] => throw .malformed
      | doc :: rest =>
          let value ← content kind inside doc
          ended (rest.isEmpty && closed) value
  | _, _ => .error .malformed

/-! ## Records that hold their own tag -/

/-- Goes through the fields of an object, reads the tag where it is met and sets the other fields
aside. -/
def splitTag {κ : Type} (tagName : String) (tag : Reader κ) (place : Place) :
    List (Option String × Doc) → Option κ → Except Problem (Option κ × List (Option String × Doc))
  | [], kind => .ok (kind, [])
  | (none, _) :: _, _ => .error .malformed
  | (some name, doc) :: rest, kind =>
      if name = tagName then
        if kind.isSome then .error (.duplicate name)
        else do
          let kind ← tag place doc
          splitTag tagName tag place rest (some kind)
      else if doc.plain place.levels then do
        let (kind, held) ← splitTag tagName tag place rest kind
        return (kind, (some name, doc) :: held)
      else .error .malformed

/-- A record with a field that tells its kind and thereby which other fields it has. As an array
it begins with the kind. -/
def selfTaggedReader {κ α : Type} (tagName : String) (tag : Reader κ) (content : κ → Reader α) :
    Reader α
  | place, .obj entries closed => do
      let (kind, held) ← enter place fun inside => do
        let parts ← splitTag tagName tag inside entries none
        ended closed parts
      match kind with
      | none => throw (.missing tagName)
      | some kind => content kind { place with aside := true } (.obj held true)
  | place, .arr [] closed => enter place fun _ =>
      if closed then .error (.missing tagName) else .error .malformed
  | place, .arr (kind :: rest) closed => do
      let kind ← enter place fun inside => do
        let kind ← tag inside kind
        ended (plainItems inside.levels rest && closed) kind
      content kind { place with aside := true } (.arr rest true)
  | _, _ => .error .malformed

end ContractCompiler.Json
