import ContractCompiler.Json.Reader
import Mathlib.Data.List.Forall2

/-!
# Readers and the values that were written

A reader is right about a written value if it finds the value wherever the levels that are left
suffice for the nesting of the notation, and otherwise only complains that the text is malformed
(`Finds`). Every way of putting readers together keeps this: lists, options, records with all their
fields in order, choices and values under a tag. Each container takes up one level on either side.
-/

namespace ContractCompiler.Json

set_option autoImplicit false

/-- The value, if the nesting is within the levels that are left. -/
def ifWithin {α : Type} (depth : Nat) (place : Place) (value : α) : Except Problem α :=
  if depth ≤ place.levels then .ok value else .error .malformed

/-- The reader finds the value in the notation, if the levels that are left suffice for it. Only
places with fewer than `limit` levels count: a reader that admits no more than `limit` nested values
need not be right about the others. -/
def Finds {α : Type} (limit : Nat) (reader : Reader α) (json : Json) (value : α) : Prop :=
  ∀ place : Place, place.levels < limit →
    reader place (.ofJson json) = ifWithin json.depth place value

section Within

variable {α β : Type} {depth other : Nat} {place : Place} {value : α}

theorem ifWithin_zero : ifWithin 0 place value = .ok value :=
  if_pos (Nat.zero_le _)

theorem ifWithin_map (f : α → β) :
    (ifWithin depth place value).map f = ifWithin depth place (f value) := by
  unfold ifWithin
  split <;> rfl

/-- Two parts that stand beside each other: the deeper one decides. -/
theorem ifWithin_bind {next : α → Except Problem β} {result : β}
    (continues : next value = ifWithin other place result) :
    (ifWithin depth place value >>= next) = ifWithin (max depth other) place result := by
  by_cases first : depth ≤ place.levels
  · have opened : (ifWithin depth place value >>= next) = next value := by
      rw [ifWithin, if_pos first]
      rfl
    rw [opened, continues, ifWithin, ifWithin]
    simp only [Nat.max_le, first, true_and]
  · rw [ifWithin, if_neg first, ifWithin, if_neg (fun both => first (Nat.max_le.mp both).1)]
    rfl

theorem ifWithin_bind_ok {next : α → Except Problem β} {result : β}
    (ends : next value = .ok result) :
    (ifWithin depth place value >>= next) = ifWithin depth place result := by
  rw [ifWithin_bind (ends.trans ifWithin_zero.symm), Nat.max_zero]

/-- An object or array takes up a level. -/
theorem enter_eq_ifWithin {inside : Place → Except Problem α}
    (within : ∀ inner : Place, inner.levels < place.levels →
      inside inner = ifWithin depth inner value) :
    enter place inside = ifWithin (depth + 1) place value := by
  obtain ⟨levels, aside⟩ := place
  cases levels with
  | zero => rfl
  | succ levels =>
      show inside { levels, aside } = _
      rw [within { levels, aside } (Nat.lt_succ_self levels), ifWithin, ifWithin]
      simp only [Nat.add_le_add_iff_right]

end Within

/-! ## Simple values -/

section Simple

variable {α β : Type} {limit : Nat} {reader : Reader α} {json : Json} {value : α}

theorem Finds.map (finds : Finds limit reader json value) (f : α → β) :
    Finds limit (reader.map f) json (f value) := by
  intro place left
  rw [Reader.map, finds place left, ifWithin_map]

theorem textReader_finds (limit : Nat) (text : String) :
    Finds limit textReader (.str text) text :=
  fun _ _ => ifWithin_zero.symm

theorem flagReader_finds (limit : Nat) (value : Bool) :
    Finds limit flagReader (.bool value) value :=
  fun _ _ => ifWithin_zero.symm

theorem optionalReader_finds_none (limit : Nat) (reader : Reader α) :
    Finds limit (optionalReader reader) .null none :=
  fun _ _ => ifWithin_zero.symm

/-- A value that is there is found, provided that it is not written as `null`. -/
theorem Finds.optional (finds : Finds limit reader json value) (written : json ≠ .null) :
    Finds limit (optionalReader reader) json (some value) := by
  intro place left
  have present : optionalReader reader place (.ofJson json) =
      (reader place (.ofJson json)).map some := by
    cases json with
    | null => exact absurd rfl written
    | _ => rfl
  rw [present, finds place left, ifWithin_map]

/-- An optional text, which is written as `null` if it is absent. -/
theorem optionalReader_finds_text (limit : Nat) (text : Option String) :
    Finds limit (optionalReader textReader) (textOrNull text) text := by
  cases text with
  | none => exact optionalReader_finds_none limit textReader
  | some text => exact (textReader_finds limit text).optional nofun

end Simple

/-! ## Lists -/

section Lists

variable {α : Type} {limit : Nat} {reader : Reader α} {items : List Json} {values : List α}

theorem readItems_finds (finds : List.Forall₂ (Finds limit reader) items values) {place : Place}
    (left : place.levels < limit) :
    readItems reader place (Doc.ofItems items) = ifWithin (depthItems items) place values := by
  induction finds with
  | nil => exact ifWithin_zero.symm
  | @cons item value items values found _ ih =>
      have rest : (readItems reader place (Doc.ofItems items) >>= fun others =>
          pure (value :: others)) = ifWithin (depthItems items) place (value :: values) := by
        rw [ih]
        exact ifWithin_map _
      rw [Doc.ofItems, readItems, found place left, depthItems]
      exact ifWithin_bind rest

/-- **A list** is found if each of its items is. -/
theorem listReader_finds (finds : List.Forall₂ (Finds limit reader) items values) :
    Finds limit (listReader reader) (.arr items) values := by
  intro place left
  rw [Doc.ofJson, listReader, depth]
  refine enter_eq_ifWithin fun inner below => ?_
  rw [readItems_finds finds (by omega)]
  exact ifWithin_bind_ok rfl

/-- A list is found if each of its items is found as it is written. -/
theorem listReader_finds_map {write : α → Json}
    (finds : ∀ value, Finds limit reader (write value) value) (values : List α) :
    Finds limit (listReader reader) (.arr (values.map write)) values :=
  listReader_finds
    (List.forall₂_map_left_iff.mpr (List.forall₂_same.mpr fun value _ => finds value))

end Lists

/-! ## Records -/

/-- The names of the fields. -/
@[simp] def Fields.names : {types : List Type} → Fields types → List String
  | _, .nil => []
  | _, .cons field rest => field.name :: rest.names

/-- The object gives all fields of the record in their order, each one by its name and with a value
that its reader finds. -/
inductive Fields.Given (limit : Nat) :
    {types : List Type} → Fields types → List (String × Json) → Values types → Prop
  | nil : Given limit .nil [] ()
  | cons {α : Type} {types : List Type} {field : Field α} {rest : Fields types}
      {json : Json} {entries : List (String × Json)} {value : α} {values : Values types}
      (finds : Finds limit field.reader json value)
      (given : Given limit rest entries values) :
      Given limit (.cons field rest) ((field.name, json) :: entries) (value, values)

/-- The slots in which these values stand. -/
def Values.filled : {types : List Type} → Values types → Slots types
  | [], () => ()
  | _ :: _, (value, values) => (some value, Values.filled values)

section Records

variable {limit : Nat} {types : List Type} {place : Place}

/-- Fields of other names pass by the first field of a record. -/
theorem Fields.takeAll_cons {α : Type} (field : Field α) (rest : Fields types) (slot : Option α)
    {entries : List (String × Json)} (fresh : ∀ entry ∈ entries, entry.1 ≠ field.name)
    (slots : Slots types) :
    (Fields.cons field rest).takeAll place (Doc.ofFields entries) (slot, slots) =
      (rest.takeAll place (Doc.ofFields entries) slots).map fun slots => (slot, slots) := by
  induction entries generalizing slots with
  | nil => rfl
  | cons entry entries ih =>
      obtain ⟨name, json⟩ := entry
      have other : field.name ≠ name := (fresh _ List.mem_cons_self).symm
      have passes := ih fun entry member => fresh entry (List.mem_cons_of_mem _ member)
      simp only [Doc.ofFields, Fields.takeAll, Fields.take, if_neg other]
      cases rest.take place name (.ofJson json) slots with
      | error problem => rfl
      | ok slots => exact passes slots

theorem Fields.Given.map_names {fields : Fields types} {entries : List (String × Json)}
    {values : Values types} (given : fields.Given limit entries values) :
    entries.map (·.1) = fields.names := by
  induction given with
  | nil => rfl
  | cons _ _ ih => rw [List.map_cons, ih, Fields.names]

/-- All fields are taken in, none of them twice. -/
theorem Fields.Given.takeAll {fields : Fields types} {entries : List (String × Json)}
    {values : Values types} (given : fields.Given limit entries values)
    (distinct : fields.names.Nodup) (left : place.levels < limit) :
    fields.takeAll place (Doc.ofFields entries) fields.start =
      ifWithin (depthFields entries) place values.filled := by
  induction given with
  | nil => exact ifWithin_zero.symm
  | @cons _ _ field rest json entries value values finds given ih =>
      obtain ⟨new, distinct⟩ := List.nodup_cons.mp distinct
      have fresh : ∀ entry ∈ entries, entry.1 ≠ field.name := by
        rintro entry member same
        rw [← given.map_names, ← same] at new
        exact new (List.mem_map_of_mem member)
      have taken : (Fields.cons field rest).take place field.name (.ofJson json)
          (Fields.cons field rest).start =
            ifWithin json.depth place (some value, rest.start) := by
        rw [Fields.start, Fields.take, if_pos rfl, finds place left]
        exact ifWithin_map _
      rw [Doc.ofFields, Fields.takeAll, taken, depthFields]
      refine ifWithin_bind ?_
      rw [Fields.takeAll_cons field rest (some value) fresh, ih distinct, ifWithin_map]
      rfl

/-- A record whose fields have all been met is complete. -/
theorem Fields.finish_filled (fields : Fields types) (values : Values types) :
    fields.finish values.filled = .ok values := by
  induction fields with
  | nil => rfl
  | cons field rest ih =>
      obtain ⟨value, values⟩ := values
      show (rest.finish values.filled).map _ = _
      rw [ih values]
      rfl

/-- **A record** is found if each of its fields is. -/
theorem recordReader_finds {β : Type} {fields : Fields types} {entries : List (String × Json)}
    {values : Values types} (f : Values types → β) (distinct : fields.names.Nodup)
    (given : fields.Given limit entries values) :
    Finds limit ((recordReader fields).map f) (.obj entries) (f values) := by
  refine Finds.map (fun place left => ?_) f
  rw [Doc.ofJson, recordReader, depth]
  refine enter_eq_ifWithin fun inner below => ?_
  rw [given.takeAll distinct (by omega)]
  exact ifWithin_bind_ok (fields.finish_filled values)

end Records

/-! ## Alternatives and tags -/

section Tags

variable {α κ : Type} {limit : Nat} {json : Json} {value : α}

/-- **A choice** is found if the value beside its word is. -/
theorem choiceReader_finds {alternatives : List (String × Alternative α)} {name : String}
    {reader : Reader α} (holds : alternatives.lookup name = some (.holding reader))
    (finds : Finds limit reader json value) :
    Finds limit (choiceReader alternatives) (.obj [(name, json)]) value := by
  intro place left
  have found : findAlternative alternatives name = .ok (.holding reader) := by
    rw [findAlternative, holds]
  rw [Doc.ofJson, Doc.ofFields, Doc.ofFields, choiceReader, depth, depthFields, depthFields]
  refine enter_eq_ifWithin fun inner below => ?_
  rw [found, List.isEmpty_nil, Bool.not_true, Bool.and_false]
  show (reader inner (.ofJson json) >>= fun value => ended true value) = _
  rw [finds inner (by omega), Nat.max_zero]
  exact ifWithin_bind_ok rfl

theorem lookup_map_word (words : List (String × κ)) (name : String) :
    (words.map fun (name, kind) => (name, Alternative.word kind)).lookup name =
      (words.lookup name).map Alternative.word := by
  induction words with
  | nil => rfl
  | cons entry words ih =>
      obtain ⟨word, kind⟩ := entry
      rw [List.map_cons, List.lookup_cons, List.lookup_cons]
      cases name == word with
      | true => rfl
      | false => exact ih

/-- A mere word is found in the table of words. -/
theorem wordReader_of_lookup {words : List (String × κ)} {name : String} {kind : κ}
    (named : words.lookup name = some kind) (place : Place) :
    wordReader words place (.ofJson (.str name)) = .ok kind := by
  rw [Doc.ofJson, wordReader, choiceReader, findAlternative, lookup_map_word, named]
  rfl

/-- **A value under a tag** is found if the content is found for the kind that the tag tells. -/
theorem taggedReader_finds {tagName contentName : String} (distinct : contentName ≠ tagName)
    {kinds : List (String × κ)} {content : κ → Reader α} {name : String} {kind : κ}
    (named : kinds.lookup name = some kind) (finds : Finds limit (content kind) json value) :
    Finds (limit + 1) (taggedReader tagName contentName kinds content)
      (.obj [(tagName, .str name), (contentName, json)]) value := by
  intro place left
  rw [Doc.ofJson, Doc.ofFields, Doc.ofFields, Doc.ofFields, taggedReader, depth, depthFields,
    depthFields, depthFields, depth, Nat.zero_max]
  refine enter_eq_ifWithin fun inner below => ?_
  rw [beforeBoth, if_pos rfl, wordReader_of_lookup named]
  show afterTag tagName contentName (content kind) inner true [(some contentName, .ofJson json)] = _
  rw [afterTag, if_neg distinct, if_pos rfl, finds inner (by omega), Nat.max_zero]
  exact ifWithin_bind_ok rfl

end Tags

end ContractCompiler.Json
