import ContractCompiler.Proofs.Json.Written
import Mathlib.Data.List.Forall2

/-!
# Forms of notation

The same value can be spelled in several ways. The fields of an object may stand in any order and
among fields that nobody asks for, a record may be an array of its fields, and what has a default
may be left out. A `Form` is a notation together with all the ways to spell it.

Forms are put together as notations are: from texts, lists, records and choices. Each part of a form
is spelled independently of the others. No spelling has a number in it, and none is nested deeper
than the notation itself.
-/

namespace ContractCompiler.Json

set_option autoImplicit false

/-! ## Depth and numbers, field by field -/

section Parts

variable {items : List Json} {fields : List (String × Json)}

theorem depthItems_le_iff {bound : Nat} :
    depthItems items ≤ bound ↔ ∀ item ∈ items, item.depth ≤ bound := by
  induction items with
  | nil => simp [depthItems]
  | cons item rest ih => rw [depthItems, Nat.max_le, ih, List.forall_mem_cons]

theorem depthFields_le_iff {bound : Nat} :
    depthFields fields ≤ bound ↔ ∀ field ∈ fields, field.2.depth ≤ bound := by
  induction fields with
  | nil => simp [depthFields]
  | cons field rest ih =>
      obtain ⟨name, value⟩ := field
      rw [depthFields, Nat.max_le, ih, List.forall_mem_cons]

theorem numberlessItems_iff :
    numberlessItems items = true ↔ ∀ item ∈ items, item.numberless = true := by
  induction items with
  | nil => simp
  | cons item rest ih => simp [ih]

theorem numberlessFields_iff :
    numberlessFields fields = true ↔ ∀ field ∈ fields, field.2.numberless = true := by
  induction fields with
  | nil => simp
  | cons field rest ih =>
      obtain ⟨name, value⟩ := field
      simp [ih]

/-- The order of fields has no part in how deep they are nested. -/
theorem depthFields_perm {other : List (String × Json)} (order : fields.Perm other) :
    depthFields fields = depthFields other := by
  apply Nat.le_antisymm
  · rw [depthFields_le_iff]
    intro field listed
    exact depthFields_le_iff.mp (Nat.le_refl _) field (order.mem_iff.mp listed)
  · rw [depthFields_le_iff]
    intro field listed
    exact depthFields_le_iff.mp (Nat.le_refl _) field (order.mem_iff.mpr listed)

end Parts

/-! ## Forms -/

/-- A notation, and all the ways to spell it. -/
structure Form where
  written : Json
  Spelled : Json → Prop
  spelled_written : Spelled written
  numberless : ∀ {json}, Spelled json → json.numberless = true
  depth_le : ∀ {json}, Spelled json → json.depth ≤ written.depth

namespace Form

/-- A notation that is spelled in one way only. -/
def exactly (json : Json) (plain : json.numberless = true) : Form where
  written := json
  Spelled := (· = json)
  spelled_written := rfl
  numberless := by
    rintro _ rfl
    exact plain
  depth_le := by
    rintro _ rfl
    exact Nat.le_refl _

def null : Form :=
  exactly .null rfl

def flag (value : Bool) : Form :=
  exactly (.bool value) rfl

def text (text : String) : Form :=
  exactly (.str text) rfl

/-- Each item of a list is spelled in a way of its form. -/
theorem exists_of_mem_items {forms : List Form} {items : List Json}
    (spelled : List.Forall₂ Spelled forms items) {item : Json} (listed : item ∈ items) :
    ∃ form ∈ forms, form.Spelled item := by
  induction spelled with
  | nil => cases listed
  | @cons form first forms items spelled _ ih =>
      rcases List.mem_cons.mp listed with rfl | later
      · exact ⟨form, List.mem_cons_self, spelled⟩
      · obtain ⟨other, isForm, otherSpelled⟩ := ih later
        exact ⟨other, List.mem_cons_of_mem form isForm, otherSpelled⟩

/-- A list, each item of which is spelled in one of its ways. -/
def list (forms : List Form) : Form where
  written := .arr (forms.map written)
  Spelled json := ∃ items, json = .arr items ∧ List.Forall₂ Spelled forms items
  spelled_written := by
    refine ⟨_, rfl, List.forall₂_map_right_iff.mpr (List.forall₂_same.mpr ?_)⟩
    intro form _
    exact form.spelled_written
  numberless := by
    rintro _ ⟨items, rfl, spelled⟩
    refine numberlessItems_iff.mpr ?_
    intro item listed
    obtain ⟨form, _, itemSpelled⟩ := exists_of_mem_items spelled listed
    exact form.numberless itemSpelled
  depth_le := by
    rintro _ ⟨items, rfl, spelled⟩
    refine Nat.succ_le_succ (depthItems_le_iff.mpr ?_)
    intro item listed
    obtain ⟨form, isForm, itemSpelled⟩ := exists_of_mem_items spelled listed
    have within := depthItems_le_iff.mp (Nat.le_refl (depthItems (forms.map written))) form.written
      (List.mem_map_of_mem isForm)
    exact Nat.le_trans (form.depth_le itemSpelled) within

/-- A word with a value beside it. Nothing else may stand in the object. -/
def choice (word : String) (content : Form) : Form where
  written := .obj [(word, content.written)]
  Spelled json := ∃ value, json = .obj [(word, value)] ∧ content.Spelled value
  spelled_written := ⟨_, rfl, content.spelled_written⟩
  numberless := by
    rintro _ ⟨value, rfl, spelled⟩
    simp [content.numberless spelled]
  depth_le := by
    rintro _ ⟨value, rfl, spelled⟩
    have inner := content.depth_le spelled
    simp only [depth, depthFields]
    omega

end Form

/-! ## Records -/

/-- A field of a record: its name, the form of its value, and whether it may be left out. -/
structure FormField where
  name : String
  form : Form
  omissible : Bool

/-- The fields of a record by name, in the order of their declaration, without some that may be left
out. -/
inductive GivesFields : List FormField → List (String × Json) → Prop
  | nil : GivesFields [] []
  | given {field : FormField} {fields : List FormField} {json : Json}
      {entries : List (String × Json)} (spelled : field.form.Spelled json)
      (rest : GivesFields fields entries) :
      GivesFields (field :: fields) ((field.name, json) :: entries)
  | leftOut {field : FormField} {fields : List FormField} {entries : List (String × Json)}
      (omissible : field.omissible = true) (rest : GivesFields fields entries) :
      GivesFields (field :: fields) entries

/-- The fields of a record by position. Only at the end some may be left out. -/
inductive GivesItems : List FormField → List Json → Prop
  | ended {fields : List FormField} (omissible : ∀ field ∈ fields, field.omissible = true) :
      GivesItems fields []
  | given {field : FormField} {fields : List FormField} {json : Json} {items : List Json}
      (spelled : field.form.Spelled json) (rest : GivesItems fields items) :
      GivesItems (field :: fields) (json :: items)

/-- `null`, a truth value or a text. -/
inductive IsScalar : Json → Prop
  | null : IsScalar .null
  | bool (value : Bool) : IsScalar (.bool value)
  | str (text : String) : IsScalar (.str text)

/-- The spellings of a record: an object with its fields in any order, among others with unknown
names, or the array of its fields. -/
inductive RecordSpelled (fields : List FormField) : Json → Prop
  | object {given extras entries : List (String × Json)} (gives : GivesFields fields given)
      (unknown : ∀ extra ∈ extras, extra.1 ∉ fields.map FormField.name ∧ IsScalar extra.2)
      (order : entries.Perm (given ++ extras)) : RecordSpelled fields (.obj entries)
  | array {items : List Json} (gives : GivesItems fields items) : RecordSpelled fields (.arr items)

section Records

variable {fields : List FormField}

theorem IsScalar.depth_eq {json : Json} (scalar : IsScalar json) : json.depth = 0 := by
  cases scalar <;> rfl

theorem IsScalar.numberless {json : Json} (scalar : IsScalar json) : json.numberless = true := by
  cases scalar <;> rfl

/-- What is given by name is spelled in a way of its field. -/
theorem GivesFields.exists_of_mem {entries : List (String × Json)}
    (gives : GivesFields fields entries) {entry : String × Json} (listed : entry ∈ entries) :
    ∃ field ∈ fields, entry.1 = field.name ∧ field.form.Spelled entry.2 := by
  induction gives with
  | nil => cases listed
  | @given field fields json entries spelled _ ih =>
      rcases List.mem_cons.mp listed with rfl | later
      · exact ⟨field, List.mem_cons_self, rfl, spelled⟩
      · obtain ⟨other, isField, found⟩ := ih later
        exact ⟨other, List.mem_cons_of_mem field isField, found⟩
  | @leftOut field _ _ _ _ ih =>
      obtain ⟨other, isField, found⟩ := ih listed
      exact ⟨other, List.mem_cons_of_mem field isField, found⟩

/-- What is given by position is spelled in a way of its field. -/
theorem GivesItems.exists_of_mem {items : List Json} (gives : GivesItems fields items)
    {item : Json} (listed : item ∈ items) : ∃ field ∈ fields, field.form.Spelled item := by
  induction gives with
  | ended => cases listed
  | @given field fields json items spelled _ ih =>
      rcases List.mem_cons.mp listed with rfl | later
      · exact ⟨field, List.mem_cons_self, spelled⟩
      · obtain ⟨other, isField, found⟩ := ih later
        exact ⟨other, List.mem_cons_of_mem field isField, found⟩

/-- All fields, as they are written. -/
theorem givesFields_written (fields : List FormField) :
    GivesFields fields (fields.map fun field => (field.name, field.form.written)) := by
  induction fields with
  | nil => exact .nil
  | cons field rest ih => exact .given field.form.spelled_written ih

/-- Nothing needs to stand among the fields. -/
theorem RecordSpelled.reordered {given entries : List (String × Json)}
    (gives : GivesFields fields given) (order : entries.Perm given) :
    RecordSpelled fields (.obj entries) := by
  rw [← List.append_nil given] at order
  refine .object gives ?_ order
  intro extra listed
  cases listed

/-- What stands in a spelling of a record is a scalar or spelled in a way of one of the fields. -/
theorem RecordSpelled.numberless {json : Json} (spelled : RecordSpelled fields json) :
    json.numberless = true := by
  cases spelled with
  | object gives unknown order =>
      refine numberlessFields_iff.mpr ?_
      intro entry listed
      rcases List.mem_append.mp (order.mem_iff.mp listed) with known | extra
      · obtain ⟨field, _, _, fieldSpelled⟩ := gives.exists_of_mem known
        exact field.form.numberless fieldSpelled
      · exact (unknown entry extra).2.numberless
  | array gives =>
      refine numberlessItems_iff.mpr ?_
      intro item listed
      obtain ⟨field, _, fieldSpelled⟩ := gives.exists_of_mem listed
      exact field.form.numberless fieldSpelled

theorem RecordSpelled.depth_le {json : Json} (spelled : RecordSpelled fields json) :
    json.depth ≤
      depthFields (fields.map fun field => (field.name, field.form.written)) + 1 := by
  have within : ∀ field ∈ fields, ∀ json, field.form.Spelled json →
      json.depth ≤ depthFields (fields.map fun field => (field.name, field.form.written)) := by
    intro field isField json fieldSpelled
    have whole := depthFields_le_iff.mp
      (Nat.le_refl (depthFields (fields.map fun field => (field.name, field.form.written))))
      (field.name, field.form.written) (List.mem_map_of_mem isField)
    exact Nat.le_trans (field.form.depth_le fieldSpelled) whole
  cases spelled with
  | object gives unknown order =>
      refine Nat.succ_le_succ (depthFields_le_iff.mpr ?_)
      intro entry listed
      rcases List.mem_append.mp (order.mem_iff.mp listed) with known | extra
      · obtain ⟨field, isField, _, fieldSpelled⟩ := gives.exists_of_mem known
        exact within field isField entry.2 fieldSpelled
      · rw [(unknown entry extra).2.depth_eq]
        exact Nat.zero_le _
  | array gives =>
      refine Nat.succ_le_succ (depthItems_le_iff.mpr ?_)
      intro item listed
      obtain ⟨field, isField, fieldSpelled⟩ := gives.exists_of_mem listed
      exact within field isField item fieldSpelled

end Records

namespace Form

/-- A record. -/
def record (fields : List FormField) : Form where
  written := .obj (fields.map fun field => (field.name, field.form.written))
  Spelled := RecordSpelled fields
  spelled_written := .reordered (givesFields_written fields) (.refl _)
  numberless := RecordSpelled.numberless
  depth_le := RecordSpelled.depth_le

/-- A value whose kind is told by one field and whose content stands in another. -/
def tagged (tagName contentName kind : String) (content : Form) : Form :=
  record [⟨tagName, text kind, false⟩, ⟨contentName, content, false⟩]

/-! ### How forms are written -/

@[simp] theorem written_null : null.written = .null := rfl

@[simp] theorem written_text (string : String) : (text string).written = .str string := rfl

@[simp] theorem written_list (forms : List Form) :
    (list forms).written = .arr (forms.map written) := rfl

@[simp] theorem written_record (fields : List FormField) :
    (record fields).written =
      .obj (fields.map fun field => (field.name, field.form.written)) := rfl

/-- A record is never spelled `null`. -/
theorem not_record_spelled_null (fields : List FormField) : ¬ (record fields).Spelled .null := by
  intro spelled
  cases spelled

/-- A list is never spelled `null`. -/
theorem not_list_spelled_null (forms : List Form) : ¬ (list forms).Spelled .null := by
  rintro ⟨items, same, _⟩
  cases same

end Form

end ContractCompiler.Json
