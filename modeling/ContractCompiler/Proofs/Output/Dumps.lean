import ContractCompiler.Output.Dump
import ContractCompiler.Proofs.Json.Written

/-!
# Reading back binding dumps

A dump is the JSON form of a binding, spread over lines. Nothing is lost in it: `Binding.ofJson?`
finds the binding in the JSON form, and the text of the dump is read as that form, whatever stands
in the strings and however deep slots and values are nested (`dump_readBack`).

Three notations are nested in a dump. A slot gives its kind and, apart from `absent`, what it holds
in a field of its own. A lowered value gives its kind beside its parts. A declaration has no kind at
all, since it stands in one place only. Each has a reader below, which takes exactly the fields that
are written, in their order.
-/

namespace ContractCompiler

set_option autoImplicit false

/-! ## Reading the JSON form -/

mutual

/-- The value that has the given JSON form. -/
def Value.ofJson? : Json → Option Value
  | .obj [("kind", .str "item"), ("key", .str key)] => some (.item key)
  | .obj [("kind", .str "map"), ("base_key", .str base), ("keys", .arr keys)] =>
      (Value.ofJsons? keys).map (.map base)
  | .obj [("kind", .str "fragment"), ("text", .str text)] => some (.fragment text)
  | .obj [("kind", .str "lookup"), ("base", base), ("key", key)] => do
      return .lookup (← Value.ofJson? base) (← Value.ofJson? key)
  | .obj [("kind", .str "member"), ("base", base), ("member", .str name)] => do
      return .member (← Value.ofJson? base) name
  | .obj [("kind", .str "op"), ("op", .str op), ("lhs", lhs), ("rhs", rhs)] => do
      return .binary op (← Value.ofJson? lhs) (← Value.ofJson? rhs)
  | _ => none

/-- The values that have the given JSON forms. -/
def Value.ofJsons? : List Json → Option (List Value)
  | [] => some []
  | json :: rest => do
      return (← Value.ofJson? json) :: (← Value.ofJsons? rest)

end

/-- The type that has the given JSON form. -/
def TypeExpr.ofJson? : Json → Option TypeExpr
  | .str text => some ⟨text⟩
  | _ => none

/-- The declaration that has the given JSON form. -/
def StateDecl.ofJson? : Json → Option StateDecl
  | .obj [("name", .str name), ("keys", .arr keys), ("ty", type)] => do
      return ⟨name, ← keys.mapM TypeExpr.ofJson?, ← TypeExpr.ofJson? type⟩
  | _ => none

mutual

/-- The slot that has the given JSON form. -/
def Slot.ofJson? : Json → Option Slot
  | .obj [("kind", .str "text"), ("value", .str content)] => some (.text content)
  | .obj [("kind", .str "flag"), ("value", .bool holds)] => some (.flag holds)
  | .obj [("kind", .str "value"), ("value", lowered)] => (Value.ofJson? lowered).map .value
  | .obj [("kind", .str "type"), ("value", written)] => (TypeExpr.ofJson? written).map .type
  | .obj [("kind", .str "state"), ("value", decl)] => (StateDecl.ofJson? decl).map .state
  | .obj [("kind", .str "pair"), ("value", .arr [first, second])] => do
      return .pair (← Slot.ofJson? first) (← Slot.ofJson? second)
  | .obj [("kind", .str "list"), ("value", .arr items)] => (Slot.ofJsons? items).map .list
  | .obj [("kind", .str "absent")] => some .absent
  | _ => none

/-- The slots that have the given JSON forms. -/
def Slot.ofJsons? : List Json → Option (List Slot)
  | [] => some []
  | json :: rest => do
      return (← Slot.ofJson? json) :: (← Slot.ofJsons? rest)

end

/-- The template of the given name. -/
def Template.ofName? (name : String) : Option Template :=
  Template.all.find? (·.name = name)

/-- The slots of a binding, each under its name. -/
def Binding.slotsOfJson? (fields : List (String × Json)) : Option (List (String × Slot)) :=
  fields.mapM fun (name, json) => (Slot.ofJson? json).map (name, ·)

/-- The binding that has the given JSON form. -/
def Binding.ofJson? : Json → Option Binding
  | .obj [("template", .str name), ("bindings", .obj fields)] => do
      return ⟨← Template.ofName? name, ← Binding.slotsOfJson? fields⟩
  | _ => none

/-! ## The JSON form is read back -/

mutual

theorem Value.ofJson?_toJson : ∀ value : Value, Value.ofJson? value.toJson = some value
  | .item key => by simp [Value.toJson, Value.ofJson?]
  | .map base keys => by simp [Value.toJson, Value.ofJson?, Value.ofJsons?_toJsons keys]
  | .fragment text => by simp [Value.toJson, Value.ofJson?]
  | .lookup base key => by
      simp [Value.toJson, Value.ofJson?, Value.ofJson?_toJson base, Value.ofJson?_toJson key]
  | .member base name => by simp [Value.toJson, Value.ofJson?, Value.ofJson?_toJson base]
  | .binary op lhs rhs => by
      simp [Value.toJson, Value.ofJson?, Value.ofJson?_toJson lhs, Value.ofJson?_toJson rhs]

theorem Value.ofJsons?_toJsons : ∀ values : List Value,
    Value.ofJsons? (Value.toJsons values) = some values
  | [] => by simp [Value.toJsons, Value.ofJsons?]
  | value :: rest => by
      simp [Value.toJsons, Value.ofJsons?, Value.ofJson?_toJson value,
        Value.ofJsons?_toJsons rest]

end

/-- Items that are read back one by one are read back as a list. -/
theorem mapM_map_eq_some {α β : Type} {read : β → Option α} {write : α → β}
    (readBack : ∀ item, read (write item) = some item) (items : List α) :
    (items.map write).mapM read = some items := by
  induction items with
  | nil => rfl
  | cons item rest ih => simp [readBack, ih]

theorem StateDecl.ofJson?_toJson (decl : StateDecl) :
    StateDecl.ofJson? decl.toJson = some decl := by
  have keys : (decl.keys.map fun key => Json.str key.text).mapM TypeExpr.ofJson? =
      some decl.keys := by
    apply mapM_map_eq_some
    intro key
    rfl
  simp [StateDecl.toJson, Json.texts, StateDecl.ofJson?, TypeExpr.ofJson?, keys, Function.comp_def]

mutual

theorem Slot.ofJson?_toJson : ∀ slot : Slot, Slot.ofJson? slot.toJson = some slot
  | .text content => by simp [Slot.toJson, Slot.ofJson?]
  | .flag holds => by simp [Slot.toJson, Slot.ofJson?]
  | .value lowered => by simp [Slot.toJson, Slot.ofJson?, lowered.ofJson?_toJson]
  | .type written => by simp [Slot.toJson, Slot.ofJson?, TypeExpr.ofJson?]
  | .state decl => by simp [Slot.toJson, Slot.ofJson?, decl.ofJson?_toJson]
  | .pair first second => by
      simp [Slot.toJson, Slot.ofJson?, first.ofJson?_toJson, second.ofJson?_toJson]
  | .list items => by simp [Slot.toJson, Slot.ofJson?, Slot.ofJsons?_toJsons items]
  | .absent => by simp [Slot.toJson, Slot.ofJson?]

theorem Slot.ofJsons?_toJsons : ∀ slots : List Slot,
    Slot.ofJsons? (Slot.toJsons slots) = some slots
  | [] => by simp [Slot.toJsons, Slot.ofJsons?]
  | slot :: rest => by
      simp [Slot.toJsons, Slot.ofJsons?, slot.ofJson?_toJson, Slot.ofJsons?_toJsons rest]

end

theorem Template.ofName?_name (template : Template) :
    Template.ofName? template.name = some template := by
  cases template <;> decide

theorem Binding.toJson_eq (binding : Binding) :
    binding.toJson = .obj [("template", .str binding.template.name),
      ("bindings", .obj (binding.slots.map fun entry => (entry.1, entry.2.toJson)))] :=
  rfl

/-- **A binding is found in its JSON form**, with its slots in their order. -/
theorem Binding.ofJson?_toJson (binding : Binding) :
    Binding.ofJson? binding.toJson = some binding := by
  have slots : Binding.slotsOfJson? (binding.slots.map fun entry => (entry.1, entry.2.toJson)) =
      some binding.slots := by
    apply mapM_map_eq_some
    intro entry
    simp [entry.2.ofJson?_toJson]
  simp [Binding.toJson_eq, Binding.ofJson?, Template.ofName?_name, slots]

/-! ## The text of a dump -/

mutual

theorem Value.numberless_toJson : ∀ value : Value, value.toJson.numberless = true
  | .item _ | .fragment _ => rfl
  | .map _ keys => by simp [Value.toJson, Value.numberless_toJsons keys]
  | .lookup base key => by simp [Value.toJson, base.numberless_toJson, key.numberless_toJson]
  | .member base _ => by simp [Value.toJson, base.numberless_toJson]
  | .binary _ lhs rhs => by simp [Value.toJson, lhs.numberless_toJson, rhs.numberless_toJson]

theorem Value.numberless_toJsons : ∀ values : List Value,
    Json.numberlessItems (Value.toJsons values) = true
  | [] => rfl
  | value :: rest => by
      simp [Value.toJsons, value.numberless_toJson, Value.numberless_toJsons rest]

end

mutual

theorem Slot.numberless_toJson : ∀ slot : Slot, slot.toJson.numberless = true
  | .text _ | .flag _ | .type _ | .absent => rfl
  | .value lowered => by simp [Slot.toJson, lowered.numberless_toJson]
  | .state decl => by
      have keys : Json.numberlessItems (decl.keys.map fun key => .str key.text) = true := by
        apply Json.numberlessItems_map
        intro key
        rfl
      simp [Slot.toJson, StateDecl.toJson, Json.texts, Function.comp_def, keys]
  | .pair first second => by
      simp [Slot.toJson, first.numberless_toJson, second.numberless_toJson]
  | .list items => by simp [Slot.toJson, Slot.numberless_toJsons items]

theorem Slot.numberless_toJsons : ∀ slots : List Slot,
    Json.numberlessItems (Slot.toJsons slots) = true
  | [] => rfl
  | slot :: rest => by simp [Slot.toJsons, slot.numberless_toJson, Slot.numberless_toJsons rest]

end

/-- The JSON form of a binding has no numbers. -/
theorem Binding.numberless_toJson (binding : Binding) : binding.toJson.numberless = true := by
  have slots : ∀ slots : List (String × Slot),
      Json.numberlessFields (slots.map fun entry => (entry.1, entry.2.toJson)) = true := by
    intro slots
    induction slots with
    | nil => rfl
    | cons entry rest ih => simp [entry.2.numberless_toJson, ih]
  simp [Binding.toJson_eq, slots binding.slots]

namespace Json

mutual

/-- The document of a value is well-formed throughout. -/
theorem Doc.toJson?_ofJson : ∀ json : Json, (Doc.ofJson json).toJson? = some json
  | .null | .bool _ | .num _ | .str _ => rfl
  | .arr items => by simp [Doc.ofJson, Doc.toJson?, Doc.toItems?_ofItems items]
  | .obj fields => by simp [Doc.ofJson, Doc.toJson?, Doc.toFields?_ofFields fields]

theorem Doc.toItems?_ofItems : ∀ items : List Json,
    Doc.toItems? (Doc.ofItems items) = some items
  | [] => rfl
  | item :: rest => by
      simp [Doc.ofItems, Doc.toItems?, Doc.toJson?_ofJson item, Doc.toItems?_ofItems rest]

theorem Doc.toFields?_ofFields : ∀ fields : List (String × Json),
    Doc.toFields? (Doc.ofFields fields) = some fields
  | [] => rfl
  | (name, value) :: rest => by
      simp [Doc.ofFields, Doc.toFields?, Doc.toJson?_ofJson value, Doc.toFields?_ofFields rest]

end

/-- A text that spells the tokens of a value is a JSON document of that value. -/
theorem parse?_of_spells {text : String} {json : Json}
    (spells : Spells text.toList (tokensThen json [])) : parse? text = some json := by
  simp [parse?, read_of_spells spells, Doc.toJson?_ofJson]

end Json

/-- The JSON form of a binding is spread over a text that is a document of it. -/
theorem Binding.parse?_spread (binding : Binding) :
    Json.parse? binding.toJson.spread = some binding.toJson :=
  Json.parse?_of_spells (Json.spells_spread binding.numberless_toJson)

/-- Bindings with the same document are the same. -/
theorem Binding.eq_of_spread_eq {first second : Binding}
    (same : first.toJson.spread = second.toJson.spread) : first = second := by
  have forms : first.toJson = second.toJson := by
    have parsed := first.parse?_spread
    rw [same, second.parse?_spread] at parsed
    exact (Option.some.inj parsed).symm
  have found := first.ofJson?_toJson
  rw [forms, second.ofJson?_toJson] at found
  exact (Option.some.inj found).symm

/-- **Nothing is lost in a dump.** Every binding has a dump: a JSON document and a line feed after
it. The binding is found in the document with everything in it, its slots in their order. So no two
bindings have the same dump. -/
theorem dump_readBack (binding : Binding) :
    (∃ document json, dump binding = .ok (document ++ "\n") ∧ Json.parse? document = some json ∧
      Binding.ofJson? json = some binding) ∧
    ∀ other, dump other = dump binding ↔ other = binding := by
  refine ⟨⟨_, _, rfl, binding.parse?_spread, binding.ofJson?_toJson⟩, ?_⟩
  intro other
  constructor
  · intro same
    have texts : other.toJson.spread ++ "\n" = binding.toJson.spread ++ "\n" := Except.ok.inj same
    exact Binding.eq_of_spread_eq ((String.append_left_inj "\n").mp texts)
  · rintro rfl
    rfl

end ContractCompiler
