import ContractCompiler.Proofs.Json.Forms
import ContractCompiler.Proofs.Json.Readers
import Mathlib.Data.List.Nodup

/-!
# Readers and the forms that they read

A reader is right about a form if it finds the value in every spelling of it (`FindsAll`). The
ways of putting readers together match the ways of putting forms together.

A record is read from its fields in any order: what has been taken in depends on which names have
been seen and not on when (`Fields.Formed.takeAll`). A value under a tag is read as it comes if the
tag stands first, and is set aside otherwise; both ways lead to the same value
(`taggedReader_findsAll`).
-/

namespace ContractCompiler.Json

set_option autoImplicit false

/-- The reader finds the value in every spelling of the form. -/
def FindsAll {α : Type} (limit : Nat) (reader : Reader α) (form : Form) (value : α) : Prop :=
  ∀ json, form.Spelled json → Finds limit reader json value

/-! ## Simple values, lists and choices -/

section Simple

variable {α β : Type} {limit : Nat} {reader : Reader α} {form : Form} {value : α}

theorem textReader_findsAll (limit : Nat) (text : String) :
    FindsAll limit textReader (.text text) text := by
  rintro _ rfl
  exact textReader_finds limit text

theorem flagReader_findsAll (limit : Nat) (value : Bool) :
    FindsAll limit flagReader (.flag value) value := by
  rintro _ rfl
  exact flagReader_finds limit value

theorem optionalReader_findsAll_null (limit : Nat) (reader : Reader α) :
    FindsAll limit (optionalReader reader) .null none := by
  rintro _ rfl
  exact optionalReader_finds_none limit reader

theorem FindsAll.map (found : FindsAll limit reader form value) (f : α → β) :
    FindsAll limit (reader.map f) form (f value) := by
  intro json spelled
  exact (found json spelled).map f

/-- A value that is there is found, provided that it is never spelled `null`. -/
theorem FindsAll.optional (found : FindsAll limit reader form value)
    (visible : ¬ form.Spelled .null) :
    FindsAll limit (optionalReader reader) form (some value) := by
  intro json spelled
  refine (found json spelled).optional ?_
  rintro rfl
  exact visible spelled

theorem listReader_findsAll {forms : List Form} {values : List α}
    (found : List.Forall₂ (FindsAll limit reader) forms values) :
    FindsAll limit (listReader reader) (.list forms) values := by
  rintro _ ⟨items, rfl, spelled⟩
  apply listReader_finds
  induction found generalizing items with
  | nil =>
      cases spelled
      exact .nil
  | cons first _ ih =>
      cases spelled with
      | cons firstSpelled rest => exact .cons (first _ firstSpelled) (ih _ rest)

theorem choiceReader_findsAll {alternatives : List (String × Alternative α)} {word : String}
    (holds : alternatives.lookup word = some (.holding reader))
    (found : FindsAll limit reader form value) :
    FindsAll limit (choiceReader alternatives) (.choice word form) value := by
  rintro _ ⟨json, rfl, spelled⟩
  exact choiceReader_finds holds (found json spelled)

end Simple

/-! ## Records -/

/-- The form of each field is read as the value of the field, and a field that may be left out has
its default. -/
inductive Fields.Formed (limit : Nat) :
    {types : List Type} → Fields types → List FormField → Values types → Prop
  | nil : Formed limit .nil [] ()
  | cons {α : Type} {types : List Type} {field : Field α} {rest : Fields types} {form : Form}
      {omissible : Bool} {forms : List FormField} {value : α} {values : Values types}
      (found : FindsAll limit field.reader form value)
      (default : omissible = true → field.default = some value)
      (formed : Formed limit rest forms values) :
      Formed limit (.cons field rest) (⟨field.name, form, omissible⟩ :: forms) (value, values)

/-- A field that must be given needs no default. -/
theorem Fields.Formed.required {limit : Nat} {α : Type} {types : List Type} {field : Field α}
    {rest : Fields types} {form : Form} {forms : List FormField} {value : α}
    {values : Values types} (found : FindsAll limit field.reader form value)
    (formed : rest.Formed limit forms values) :
    (Fields.cons field rest).Formed limit (⟨field.name, form, false⟩ :: forms) (value, values) := by
  refine .cons found ?_ formed
  intro omissible
  cases omissible

/-- A list that may be left out if it is empty. -/
theorem Fields.Formed.listOrNone {limit : Nat} {α : Type} {types : List Type}
    {field : Field (List α)} {rest : Fields types} {form : Form} {forms : List FormField}
    {value : List α} {values : Values types} (default : field.default = some [])
    (found : FindsAll limit field.reader form value) (formed : rest.Formed limit forms values) :
    (Fields.cons field rest).Formed limit (⟨field.name, form, value.isEmpty⟩ :: forms)
      (value, values) := by
  refine .cons found ?_ formed
  intro empty
  rw [default, List.isEmpty_iff.mp empty]

/-- The slots after fields of these names have been met. -/
def Fields.slots : {types : List Type} → Fields types → Values types → List String → Slots types
  | _, .nil, _, _ => ()
  | _, .cons field rest, (value, values), seen =>
      (if field.name ∈ seen then some value else none, rest.slots values seen)

section Records

variable {limit : Nat} {types : List Type} {place : Place} {fields : Fields types}
  {forms : List FormField} {values : Values types}

theorem whole_ofJson (json : Json) : (Doc.ofJson json).whole = true := by
  cases json <;> rfl

theorem Fields.slots_nil (fields : Fields types) (values : Values types) :
    fields.slots values [] = fields.start := by
  induction fields with
  | nil => rfl
  | cons field rest ih =>
      obtain ⟨value, values⟩ := values
      rw [Fields.slots, if_neg List.not_mem_nil, ih, Fields.start]

/-- A name that is not among those of the fields changes nothing. -/
theorem Fields.slots_cons_of_notMem {name : String} (unknown : name ∉ fields.names)
    (values : Values types) (seen : List String) :
    fields.slots values (name :: seen) = fields.slots values seen := by
  induction fields with
  | nil => rfl
  | cons field rest ih =>
      obtain ⟨value, values⟩ := values
      rw [Fields.names, List.mem_cons, not_or] at unknown
      have same : field.name ∈ name :: seen ↔ field.name ∈ seen := by
        rw [List.mem_cons, or_iff_right (Ne.symm unknown.1)]
      simp only [Fields.slots, same, ih unknown.2]
      rfl

theorem Fields.Formed.map_names (formed : fields.Formed limit forms values) :
    forms.map FormField.name = fields.names := by
  induction formed with
  | nil => rfl
  | cons _ _ _ ih => rw [List.map_cons, ih, Fields.names]

/-- An entry of an object that a record is read from: its value is spelled in a way of the field of
its name, and is a scalar if there is no such field. -/
structure Fits (forms : List FormField) (entry : String × Json) : Prop where
  spelled : ∀ field ∈ forms, field.name = entry.1 → field.form.Spelled entry.2
  scalar : entry.1 ∉ forms.map FormField.name → entry.2.depth = 0

/-- **One entry is taken in**: its name has been seen then. -/
theorem Fields.Formed.take (formed : fields.Formed limit forms values)
    (distinct : fields.names.Nodup) (left : place.levels < limit) {entry : String × Json}
    (fits : Fits forms entry) {seen : List String}
    (new : entry.1 ∈ fields.names → entry.1 ∉ seen) :
    fields.take place entry.1 (.ofJson entry.2) (fields.slots values seen) =
      ifWithin entry.2.depth place (fields.slots values (entry.1 :: seen)) := by
  induction formed with
  | nil =>
      rw [fits.scalar List.not_mem_nil, ifWithin_zero]
      show ended (Doc.ofJson entry.2).whole () = _
      rw [whole_ofJson]
      rfl
  | @cons α types field rest form omissible forms value values found _ formed ih =>
      obtain ⟨notLater, distinct⟩ := List.nodup_cons.mp distinct
      rw [Fields.slots, Fields.take]
      by_cases same : field.name = entry.1
      · have first := fits.spelled _ List.mem_cons_self same
        have known : entry.1 ∈ (Fields.cons field rest).names := same ▸ List.mem_cons_self
        have unseen : field.name ∉ seen := same ▸ new known
        rw [if_pos same, if_neg unseen, found _ first place left, Fields.slots, ← same,
          if_pos List.mem_cons_self, slots_cons_of_notMem notLater]
        exact ifWithin_map _
      · have later : Fits forms entry :=
          { spelled := fun field listed => fits.spelled field (List.mem_cons_of_mem _ listed)
            scalar := by
              intro unknown
              refine fits.scalar ?_
              rw [List.map_cons, List.mem_cons, not_or]
              exact ⟨Ne.symm same, unknown⟩ }
        have unchanged : field.name ∈ entry.1 :: seen ↔ field.name ∈ seen := by
          rw [List.mem_cons, or_iff_right same]
        rw [if_neg same, ih distinct later fun known => new (List.mem_cons_of_mem _ known)]
        simp only [Fields.slots, unchanged]
        exact ifWithin_map _

/-- **All entries are taken in**, in whatever order they come. -/
theorem Fields.Formed.takeAll (formed : fields.Formed limit forms values)
    (distinct : fields.names.Nodup) (left : place.levels < limit)
    {entries : List (String × Json)} (fits : ∀ entry ∈ entries, Fits forms entry)
    (apart : entries.Pairwise fun entry other => entry.1 = other.1 → entry.1 ∉ fields.names)
    {seen : List String} (new : ∀ entry ∈ entries, entry.1 ∈ fields.names → entry.1 ∉ seen) :
    fields.takeAll place (Doc.ofFields entries) (fields.slots values seen) =
      ifWithin (depthFields entries) place
        (fields.slots values ((entries.map (·.1)).reverse ++ seen)) := by
  induction entries generalizing seen with
  | nil => exact ifWithin_zero.symm
  | cons entry rest ih =>
      obtain ⟨first, apart⟩ := List.pairwise_cons.mp apart
      have taken := formed.take distinct left (fits entry List.mem_cons_self)
        (new entry List.mem_cons_self)
      have newer : ∀ other ∈ rest, other.1 ∈ fields.names → other.1 ∉ entry.1 :: seen := by
        intro other listed known
        rw [List.mem_cons, not_or]
        refine ⟨?_, new other (List.mem_cons_of_mem entry listed) known⟩
        intro same
        exact first other listed same.symm (same ▸ known)
      have onward := ih (fun other listed => fits other (List.mem_cons_of_mem entry listed)) apart
        newer
      rw [Doc.ofFields, Fields.takeAll, taken, depthFields, List.map_cons, List.reverse_cons,
        List.append_assoc, List.singleton_append]
      exact ifWithin_bind onward

/-- A record is complete if each field has been seen or has its default. -/
theorem Fields.Formed.finish (formed : fields.Formed limit forms values) {seen : List String}
    (complete : ∀ field ∈ forms, field.name ∈ seen ∨ field.omissible = true) :
    fields.finish (fields.slots values seen) = .ok values := by
  induction formed with
  | nil => rfl
  | @cons α types field rest form omissible forms value values _ default _ ih =>
      have filled : ((if field.name ∈ seen then some value else none) <|> field.default) =
          some value := by
        split
        · rfl
        · next unseen =>
            exact default ((complete _ List.mem_cons_self).resolve_left unseen)
      have behind := ih fun other listed => complete other (List.mem_cons_of_mem _ listed)
      rw [Fields.slots, Fields.finish, filled]
      show (rest.finish (rest.slots values seen)).map _ = _
      rw [behind]
      rfl

/-- A record that is written as an array. -/
theorem Fields.Formed.positional (formed : fields.Formed limit forms values)
    (left : place.levels < limit) {items : List Json} (gives : GivesItems forms items) :
    fields.positional place (Doc.ofItems items) true =
      ifWithin (depthItems items) place values := by
  induction formed generalizing items with
  | nil =>
      cases gives
      exact ifWithin_zero.symm
  | @cons α types field rest form omissible forms value values found default _ ih =>
      cases gives with
      | ended omissible =>
          have last : GivesItems forms [] :=
            .ended fun other listed => omissible other (List.mem_cons_of_mem _ listed)
          have behind := ih last
          have given := default (omissible _ List.mem_cons_self)
          rw [Doc.ofItems] at behind ⊢
          simp only [Fields.positional, given, behind]
          exact ifWithin_map _
      | @given _ _ json items spelled gives =>
          rw [Doc.ofItems, Fields.positional, found json spelled place left, depthItems]
          refine ifWithin_bind ?_
          rw [ih gives]
          exact ifWithin_map _

/-- The names that are given are among those of the fields, each at most once. -/
theorem GivesFields.names_sublist {entries : List (String × Json)}
    (gives : GivesFields forms entries) :
    (entries.map (·.1)).Sublist (forms.map FormField.name) := by
  induction gives with
  | nil => exact .slnil
  | given _ _ ih => exact ih.cons_cons _
  | leftOut _ _ ih => exact ih.cons _

/-- Every field is given or may be left out. -/
theorem GivesFields.complete {entries : List (String × Json)} (gives : GivesFields forms entries) :
    ∀ field ∈ forms, field.name ∈ entries.map (·.1) ∨ field.omissible = true := by
  induction gives with
  | nil =>
      intro field listed
      cases listed
  | given _ _ ih =>
      intro field listed
      rcases List.mem_cons.mp listed with rfl | later
      · exact .inl List.mem_cons_self
      · exact (ih field later).imp_left (List.mem_cons_of_mem _)
  | leftOut omissible _ ih =>
      intro field listed
      rcases List.mem_cons.mp listed with rfl | later
      · exact .inr omissible
      · exact ih field later

section Entries

variable {given extras entries : List (String × Json)} (distinct : (forms.map FormField.name).Nodup)
  (gives : GivesFields forms given)
  (unknown : ∀ extra ∈ extras, extra.1 ∉ forms.map FormField.name ∧ IsScalar extra.2)
  (order : entries.Perm (given ++ extras))
include distinct gives unknown order

/-- The entries of a spelled record fit. -/
theorem fits_of_spelled : ∀ entry ∈ entries, Fits forms entry := by
  intro entry listed
  rcases List.mem_append.mp (order.mem_iff.mp listed) with known | extra
  · obtain ⟨field, isField, named, spelled⟩ := gives.exists_of_mem known
    refine ⟨?_, ?_⟩
    · intro other isOther same
      have one : other = field :=
        List.inj_on_of_nodup_map distinct isOther isField (same.trans named)
      rwa [one]
    · intro absent
      exact absurd (named ▸ List.mem_map_of_mem isField) absent
  · obtain ⟨absent, scalar⟩ := unknown entry extra
    refine ⟨?_, fun _ => scalar.depth_eq⟩
    intro field isField same
    exact absurd (same ▸ List.mem_map_of_mem isField) absent

/-- No known name stands twice in a spelled record. -/
theorem apart_of_spelled :
    entries.Pairwise fun entry other =>
      entry.1 = other.1 → entry.1 ∉ forms.map FormField.name := by
  have symmetric : ∀ {entry other : String × Json},
      (entry.1 = other.1 → entry.1 ∉ forms.map FormField.name) →
      other.1 = entry.1 → other.1 ∉ forms.map FormField.name := by
    intro entry other apart same
    rw [same]
    exact apart same.symm
  rw [order.pairwise_iff symmetric, List.pairwise_append]
  refine ⟨?_, ?_, ?_⟩
  · have once := gives.names_sublist.nodup distinct
    rw [List.Nodup, List.pairwise_map] at once
    exact once.imp fun different same => absurd same different
  · refine List.pairwise_of_forall_mem_list fun entry listed _ _ _ => ?_
    exact (unknown entry listed).1
  · intro entry _ other listed same
    rw [same]
    exact (unknown other listed).1

end Entries

/-- **A record is found however it is spelled**, if each of its fields is. -/
theorem recordReader_findsAll {β : Type} (f : Values types → β) (distinct : fields.names.Nodup)
    (formed : fields.Formed limit forms values) :
    FindsAll limit ((recordReader fields).map f) (.record forms) (f values) := by
  intro json spelled
  refine Finds.map (fun place left => ?_) f
  cases spelled with
  | @object given extras entries gives unknown order =>
      have formsDistinct : (forms.map FormField.name).Nodup := formed.map_names ▸ distinct
      have fits := fits_of_spelled formsDistinct gives unknown order
      have apart := apart_of_spelled formsDistinct gives unknown order
      rw [formed.map_names] at apart
      have complete : ∀ field ∈ forms,
          field.name ∈ (entries.map (·.1)).reverse ++ [] ∨ field.omissible = true := by
        intro field listed
        refine (gives.complete field listed).imp_left fun named => ?_
        obtain ⟨entry, isEntry, same⟩ := List.mem_map.mp named
        rw [List.append_nil, List.mem_reverse, ← same]
        exact List.mem_map_of_mem (order.mem_iff.mpr (List.mem_append_left _ isEntry))
      rw [Doc.ofJson, recordReader, depth]
      refine enter_eq_ifWithin fun inner below => ?_
      rw [← fields.slots_nil values, formed.takeAll distinct (by omega) fits apart
        (fun entry _ _ => List.not_mem_nil)]
      exact ifWithin_bind_ok (formed.finish complete)
  | array gives =>
      rw [Doc.ofJson, recordReader, depth]
      refine enter_eq_ifWithin fun inner below => ?_
      exact formed.positional (by omega) gives

end Records

/-! ## Values under a tag -/

mutual

/-- A value without numbers can be set aside if the levels that are left suffice for it. -/
theorem plain_ofJson : ∀ json : Json, json.numberless = true → ∀ levels : Nat,
    (Doc.ofJson json).plain levels = decide (json.depth ≤ levels)
  | .arr items, plain, 0 => by simp [Doc.ofJson, Doc.plain, depth]
  | .arr items, plain, levels + 1 => by
      have inside := plainItems_ofItems items plain levels
      simp [Doc.ofJson, Doc.plain, depth, inside]
  | .obj fields, plain, 0 => by simp [Doc.ofJson, Doc.plain, depth]
  | .obj fields, plain, levels + 1 => by
      have inside := plainFields_ofFields fields plain levels
      simp [Doc.ofJson, Doc.plain, depth, inside]
  | .null, _, levels | .bool _, _, levels | .str _, _, levels => by
      simp [Doc.ofJson, Doc.plain, depth]
  | .num _, plain, _ => by cases plain

theorem plainItems_ofItems : ∀ items : List Json, numberlessItems items = true → ∀ levels : Nat,
    plainItems levels (Doc.ofItems items) = decide (depthItems items ≤ levels)
  | [], _, levels => by simp [Doc.ofItems, plainItems, depthItems]
  | item :: rest, plain, levels => by
      obtain ⟨plainItem, plainRest⟩ := Bool.and_eq_true_iff.mp plain
      rw [Doc.ofItems, plainItems, plain_ofJson item plainItem, plainItems_ofItems rest plainRest,
        depthItems, ← Bool.decide_and]
      exact decide_eq_decide.mpr Nat.max_le.symm

theorem plainFields_ofFields : ∀ fields : List (String × Json), numberlessFields fields = true →
    ∀ levels : Nat, plainFields levels (Doc.ofFields fields) = decide (depthFields fields ≤ levels)
  | [], _, levels => by simp [Doc.ofFields, plainFields, depthFields]
  | (name, value) :: rest, plain, levels => by
      obtain ⟨plainValue, plainRest⟩ := Bool.and_eq_true_iff.mp plain
      rw [Doc.ofFields, plainFields, plain_ofJson value plainValue,
        plainFields_ofFields rest plainRest, depthFields, Option.isSome_some, Bool.true_and,
        ← Bool.decide_and]
      exact decide_eq_decide.mpr Nat.max_le.symm

end

section Tags

variable {α κ : Type} {tagName contentName : String} {place : Place}
  {extras : List (String × Json)}

/-- The fields have other names than the tag and the content. -/
def Beside (tagName contentName : String) (extras : List (String × Json)) : Prop :=
  ∀ extra ∈ extras, extra.1 ≠ tagName ∧ extra.1 ≠ contentName

theorem Beside.of_cons {extra : String × Json}
    (beside : Beside tagName contentName (extra :: extras)) :
    (extra.1 ≠ tagName ∧ extra.1 ≠ contentName) ∧ Beside tagName contentName extras := by
  refine ⟨beside extra List.mem_cons_self, ?_⟩
  intro other listed
  exact beside other (List.mem_cons_of_mem _ listed)

/-- The same holds of the parts that the fields are split into. -/
theorem Beside.parts {a b c : List (String × Json)} (beside : Beside tagName contentName extras)
    (order : (a ++ b ++ c).Perm extras) :
    Beside tagName contentName a ∧ Beside tagName contentName b ∧
      Beside tagName contentName c := by
  have all : Beside tagName contentName (a ++ b ++ c) := by
    intro extra listed
    exact beside extra (order.mem_iff.mp listed)
  refine ⟨?_, ?_, ?_⟩ <;> intro extra listed <;> exact all extra (by simp [listed])

theorem beforeBoth_beside (beside : Beside tagName contentName extras) (tag : Reader κ)
    (content : κ → Reader α) (rest : List (String × Json)) :
    beforeBoth tagName contentName tag content place true (Doc.ofFields (extras ++ rest)) =
      beforeBoth tagName contentName tag content place true (Doc.ofFields rest) := by
  induction extras with
  | nil => rfl
  | cons extra extras ih =>
      obtain ⟨⟨notTag, notContent⟩, beside⟩ := beside.of_cons
      rw [List.cons_append, Doc.ofFields, beforeBoth, if_neg notTag, if_neg notContent,
        whole_ofJson, if_pos rfl, ih beside]

theorem afterTag_beside (beside : Beside tagName contentName extras) (content : Reader α)
    (rest : List (String × Json)) :
    afterTag tagName contentName content place true (Doc.ofFields (extras ++ rest)) =
      afterTag tagName contentName content place true (Doc.ofFields rest) := by
  induction extras with
  | nil => rfl
  | cons extra extras ih =>
      obtain ⟨⟨notTag, notContent⟩, beside⟩ := beside.of_cons
      rw [List.cons_append, Doc.ofFields, afterTag, if_neg notTag, if_neg notContent,
        whole_ofJson, if_pos rfl, ih beside]

theorem afterContent_beside (beside : Beside tagName contentName extras) (tag : Reader κ)
    (content : κ → Reader α) (held : Doc) (rest : List (String × Json)) :
    afterContent tagName contentName tag content place held true (Doc.ofFields (extras ++ rest)) =
      afterContent tagName contentName tag content place held true (Doc.ofFields rest) := by
  induction extras with
  | nil => rfl
  | cons extra extras ih =>
      obtain ⟨⟨notTag, notContent⟩, beside⟩ := beside.of_cons
      rw [List.cons_append, Doc.ofFields, afterContent, if_neg notContent, if_neg notTag,
        whole_ofJson, if_pos rfl, ih beside]

theorem afterBoth_beside (beside : Beside tagName contentName extras) (value : α) :
    afterBoth tagName contentName value true (Doc.ofFields extras) = .ok value := by
  induction extras with
  | nil => rfl
  | cons extra extras ih =>
      obtain ⟨⟨notTag, notContent⟩, beside⟩ := beside.of_cons
      have neither : ¬ (extra.1 = tagName ∨ extra.1 = contentName) := by
        rintro (same | same)
        · exact notTag same
        · exact notContent same
      rw [Doc.ofFields, afterBoth, if_neg neither, whole_ofJson, if_pos rfl, ih beside]

section Orders

variable {limit : Nat} {kinds : List (String × κ)} {content : κ → Reader α} {name : String}
  {kind : κ} {json : Json} {value : α} {a b c : List (String × Json)}
  (distinct : contentName ≠ tagName) (named : kinds.lookup name = some kind)
  (finds : Finds limit (content kind) json value) (left : place.levels < limit)
  (aBeside : Beside tagName contentName a) (bBeside : Beside tagName contentName b)
  (cBeside : Beside tagName contentName c)
include distinct named finds left aBeside bBeside cBeside

/-- The tag stands first, so the content is read as it comes. -/
theorem beforeBoth_tagFirst :
    beforeBoth tagName contentName (wordReader kinds) content place true
        (Doc.ofFields (a ++ (tagName, .str name) :: (b ++ (contentName, json) :: c))) =
      ifWithin json.depth place value := by
  rw [beforeBoth_beside aBeside, Doc.ofFields, beforeBoth, if_pos rfl, wordReader_of_lookup named]
  show afterTag tagName contentName (content kind) place true
    (Doc.ofFields (b ++ (contentName, json) :: c)) = _
  rw [afterTag_beside bBeside, Doc.ofFields, afterTag, if_neg distinct, if_pos rfl,
    finds place left]
  exact ifWithin_bind_ok (afterBoth_beside cBeside value)

/-- The content stands first. It is set aside, which it can be at the levels at which it can be
read. -/
theorem beforeBoth_contentFirst (plain : json.numberless = true) :
    beforeBoth tagName contentName (wordReader kinds) content place true
        (Doc.ofFields (a ++ (contentName, json) :: (b ++ (tagName, .str name) :: c))) =
      ifWithin json.depth place value := by
  rw [beforeBoth_beside aBeside, Doc.ofFields, beforeBoth, if_neg distinct, if_pos rfl,
    plain_ofJson json plain]
  by_cases shallow : json.depth ≤ place.levels
  · have held : content kind { place with aside := true } (.ofJson json) = .ok value := by
      rw [finds { place with aside := true } left, ifWithin, if_pos shallow]
    rw [if_pos (decide_eq_true shallow), afterContent_beside bBeside, Doc.ofFields, afterContent,
      if_neg (Ne.symm distinct), if_pos rfl, wordReader_of_lookup named, ifWithin, if_pos shallow]
    show (content kind { place with aside := true } (.ofJson json) >>= fun value => _) = _
    rw [held]
    exact afterBoth_beside cBeside value
  · rw [if_neg (by simpa using shallow), ifWithin, if_neg shallow]

end Orders

end Tags

/-- Where two of the elements of a list stand. -/
theorem split_of_perm {α : Type} {first second : α} {others entries : List α}
    (order : entries.Perm (first :: second :: others)) :
    ∃ a b c, (a ++ b ++ c).Perm others ∧
      (entries = a ++ first :: (b ++ second :: c) ∨
        entries = a ++ second :: (b ++ first :: c)) := by
  obtain ⟨front, back, rfl⟩ := List.append_of_mem (order.mem_iff.mpr List.mem_cons_self)
  have around : (front ++ back).Perm (second :: others) :=
    (List.perm_middle.symm.trans order).cons_inv
  rcases List.mem_append.mp (around.mem_iff.mpr List.mem_cons_self) with before | after
  · obtain ⟨a, b, rfl⟩ := List.append_of_mem before
    refine ⟨a, b, back, ?_, .inr (by simp)⟩
    rw [List.append_assoc, List.cons_append] at around
    have rest := (List.perm_middle.symm.trans around).cons_inv
    rwa [← List.append_assoc] at rest
  · obtain ⟨b, c, rfl⟩ := List.append_of_mem after
    refine ⟨front, b, c, ?_, .inl rfl⟩
    rw [← List.append_assoc] at around
    exact (List.perm_middle.symm.trans around).cons_inv

/-- What is given for a tag and a content. -/
theorem GivesFields.of_tagged {tagName contentName kind : String} {content : Form}
    {given : List (String × Json)}
    (gives : GivesFields [⟨tagName, .text kind, false⟩, ⟨contentName, content, false⟩] given) :
    ∃ json, content.Spelled json ∧ given = [(tagName, .str kind), (contentName, json)] := by
  cases gives with
  | leftOut omissible => cases omissible
  | given isKind rest =>
      cases isKind
      cases rest with
      | leftOut omissible => cases omissible
      | @given _ _ json _ spelled rest =>
          cases rest
          exact ⟨json, spelled, rfl⟩

theorem GivesItems.of_tagged {tagName contentName kind : String} {content : Form}
    {items : List Json}
    (gives : GivesItems [⟨tagName, .text kind, false⟩, ⟨contentName, content, false⟩] items) :
    ∃ json, content.Spelled json ∧ items = [.str kind, json] := by
  cases gives with
  | ended omissible => cases omissible _ List.mem_cons_self
  | given isKind rest =>
      cases isKind
      cases rest with
      | ended omissible => cases omissible _ List.mem_cons_self
      | @given _ _ json _ spelled rest =>
          cases rest
          exact ⟨json, spelled, rfl⟩

/-- **A value under a tag is found however it is spelled**, if its content is. -/
theorem taggedReader_findsAll {α κ : Type} {tagName contentName : String}
    (distinct : contentName ≠ tagName) {kinds : List (String × κ)} {content : κ → Reader α}
    {name : String} {kind : κ} (named : kinds.lookup name = some kind) {form : Form} {limit : Nat}
    {value : α} (found : FindsAll limit (content kind) form value) :
    FindsAll (limit + 1) (taggedReader tagName contentName kinds content)
      (.tagged tagName contentName name form) value := by
  intro json spelled place left
  cases spelled with
  | @object given extras entries gives unknown order =>
      obtain ⟨inner, innerSpelled, rfl⟩ := gives.of_tagged
      have flat : depthFields extras = 0 := by
        refine Nat.le_zero.mp (depthFields_le_iff.mpr ?_)
        intro extra listed
        exact Nat.le_of_eq (unknown extra listed).2.depth_eq
      have nested : depthFields entries = inner.depth := by
        rw [depthFields_perm order, List.cons_append, List.cons_append, List.nil_append,
          depthFields, depthFields, flat, depth, Nat.zero_max, Nat.max_zero]
      have beside : Beside tagName contentName extras := by
        intro extra listed
        simpa using (unknown extra listed).1
      rw [Doc.ofJson, taggedReader, depth, nested]
      refine enter_eq_ifWithin fun inside below => ?_
      have finds := found inner innerSpelled
      obtain ⟨a, b, c, others, placed⟩ := split_of_perm order
      obtain ⟨aBeside, bBeside, cBeside⟩ := beside.parts others
      rcases placed with rfl | rfl
      · exact beforeBoth_tagFirst distinct named finds (by omega) aBeside bBeside cBeside
      · exact beforeBoth_contentFirst distinct named finds (by omega) aBeside bBeside cBeside
          (form.numberless innerSpelled)
  | array gives =>
      obtain ⟨inner, innerSpelled, rfl⟩ := gives.of_tagged
      rw [Doc.ofJson, Doc.ofItems, Doc.ofItems, Doc.ofItems, taggedReader, depth, depthItems,
        depthItems, depthItems, depth, Nat.zero_max, Nat.max_zero]
      refine enter_eq_ifWithin fun inside below => ?_
      have told : kindReader kinds inside (.ofJson (.str name)) = .ok kind := by
        rw [Doc.ofJson, kindReader, named]
      rw [told]
      show (content kind inside (.ofJson inner) >>= fun value => ended true value) = _
      rw [found inner innerSpelled inside (by omega)]
      exact ifWithin_bind_ok rfl

end ContractCompiler.Json
