import ContractCompiler.Json.Reader
import ContractCompiler.Text.Quoted

/-!
# Lowered values

Lowering turns an expression into a value that a template can hold. Access to the state of the
contract keeps its structure, as an item or as a map with the keys applied to it. Everything else
that is already text is a fragment; lookups, members and operations keep their parts where a part
has structure.
-/

namespace ContractCompiler

set_option autoImplicit false

open Json (Reader)

/-- A lowered value. -/
inductive Value where
  /-- A state item. -/
  | item (key : String)
  /-- A state map with the keys applied to it, first one first. -/
  | map (base : String) (keys : List Value)
  /-- Text that is used as it stands. -/
  | fragment (text : String)
  /-- A lookup in something that is not contract state. -/
  | lookup (base key : Value)
  /-- A member of something that has structure. -/
  | member (base : Value) (name : String)
  | binary (op : String) (lhs rhs : Value)

namespace Value

/-- The text of a fragment. -/
def fragment? : Value → Option String
  | .fragment text => some text
  | _ => none

/-- Whether the value is a state item. -/
def isItem : Value → Bool
  | .item _ => true
  | _ => false

/-- Whether the value is contract state. -/
def isState : Value → Bool
  | .item _ | .map .. => true
  | _ => false

/-- Applies a lookup. The first lookup on an item makes it a map; further ones add their keys. -/
def index : Value → Value → Value
  | .item base, key => .map base [key]
  | .map base keys, key => .map base (keys ++ [key])
  | base, key => .lookup base key

/-! ## Spelling -/

mutual

/-- The value about as it is written in the source. -/
def spelling : Value → String
  | .item key => "$state." ++ key
  | .map base keys => "$state." ++ base ++ spellKeys keys
  | .fragment text => text
  | .lookup base key => base.spelling ++ "[" ++ key.spelling ++ "]"
  | .member base name => base.spelling ++ "." ++ name
  | .binary op lhs rhs => lhs.spelling ++ " " ++ op ++ " " ++ rhs.spelling

/-- The keys of a map, each in brackets. -/
def spellKeys : List Value → String
  | [] => ""
  | key :: rest => "[" ++ key.spelling ++ "]" ++ spellKeys rest

end

mutual

/-- The value as a nested term on one line, for diagnostics. -/
def outline : Value → String
  | .item key => "Item(ItemRef \x7b key: " ++ Text.quoted key ++ " \x7d)"
  | .map base keys =>
      "Map(MapRef \x7b base_key: " ++ Text.quoted base ++ ", keys: [" ++ outlineKeys keys ++ "] \x7d)"
  | .fragment text => "Fragment \x7b text: " ++ Text.quoted text ++ " \x7d"
  | .lookup base key => "Lookup \x7b base: " ++ base.outline ++ ", key: " ++ key.outline ++ " \x7d"
  | .member base name =>
      "Member \x7b base: " ++ base.outline ++ ", member: " ++ Text.quoted name ++ " \x7d"
  | .binary op lhs rhs =>
      "Op \x7b op: " ++ Text.quoted op ++ ", lhs: " ++ lhs.outline ++ ", rhs: " ++ rhs.outline ++ " \x7d"

/-- The keys of a map, with commas between them. -/
def outlineKeys : List Value → String
  | [] => ""
  | [key] => key.outline
  | key :: next :: rest => key.outline ++ ", " ++ outlineKeys (next :: rest)

end

/-! ## Document form -/

mutual

/-- The value as JSON. -/
def toJson : Value → Json
  | .item key => .obj [("kind", .str "item"), ("key", .str key)]
  | .map base keys =>
      .obj [("kind", .str "map"), ("base_key", .str base), ("keys", .arr (toJsons keys))]
  | .fragment text => .obj [("kind", .str "fragment"), ("text", .str text)]
  | .lookup base key => .obj [("kind", .str "lookup"), ("base", base.toJson), ("key", key.toJson)]
  | .member base name =>
      .obj [("kind", .str "member"), ("base", base.toJson), ("member", .str name)]
  | .binary op lhs rhs =>
      .obj [("kind", .str "op"), ("op", .str op), ("lhs", lhs.toJson), ("rhs", rhs.toJson)]

/-- The values of a list as JSON. -/
def toJsons : List Value → List Json
  | [] => []
  | value :: rest => value.toJson :: toJsons rest

end

/-- The kinds of values, each with the reader of its fields, given how the values in it are
read. -/
def kinds (value : Reader Value) : List (String × Reader Value) :=
  [("item",
      (Json.recordReader (.cons ⟨"key", Json.textReader, none⟩ .nil)).map
        fun (key, ()) => .item key),
    ("map",
      (Json.recordReader (.cons ⟨"base_key", Json.textReader, none⟩
        (.cons ⟨"keys", Json.listReader value, none⟩ .nil))).map
        fun (base, keys, ()) => .map base keys),
    ("fragment",
      (Json.recordReader (.cons ⟨"text", Json.textReader, none⟩ .nil)).map
        fun (text, ()) => .fragment text),
    ("lookup",
      (Json.recordReader (.cons ⟨"base", value, none⟩ (.cons ⟨"key", value, none⟩ .nil))).map
        fun (base, key, ()) => .lookup base key),
    ("member",
      (Json.recordReader (.cons ⟨"base", value, none⟩
        (.cons ⟨"member", Json.textReader, none⟩ .nil))).map
        fun (base, name, ()) => .member base name),
    ("op",
      (Json.recordReader (.cons ⟨"op", Json.textReader, none⟩
        (.cons ⟨"lhs", value, none⟩ (.cons ⟨"rhs", value, none⟩ .nil)))).map
        fun (op, lhs, rhs, ()) => .binary op lhs rhs)]

/-- A value within which at most `height - 1` further values are nested. -/
def readerUpTo : (height : Nat) → Reader Value
  | 0 => fun _ _ => .error .malformed
  | height + 1 =>
      Json.selfTaggedReader "kind" (Json.kindReader (kinds (readerUpTo height))) id

/-- A value. Every value enters a level of the document, so the limit on levels is reached before
the limit on nested values. -/
def reader : Reader Value :=
  readerUpTo (Json.maxLevels + 1)

end Value

end ContractCompiler
