import ContractCompiler.Proofs.Generation.ReadOnly
import ContractCompiler.Proofs.Output.Names

/-!
# Names that clash

Two names of a contract clash if they are spelled differently and become the same identifier of
generated code. The change of case sets a mark before a capital letter or does not, depending on
what stands before it, so that identifiers cannot be compared with names place by place. But it
adds nothing except underscores and alters nothing except case. What remains of a name without
underscores and in small letters, its substance, is therefore that of the identifier
(`Text.substance_snakeCase`, `Text.substance_screamingCase`), and names that clash have the same
substance. A name in small letters is its own identifier up to case, so one of two names that clash
has a capital letter (`Program.nameClash_sameSubstance`).

This is about names of ASCII characters. Of the casing it takes no more than what it does to these
(`Text.Casing.ExtendsAscii`).
-/

namespace ContractCompiler

set_option autoImplicit false

/-! ## The substance of a name -/

namespace Text

/-- Whether the name has ASCII characters only. -/
def isAscii (name : String) : Bool :=
  name.toList.all (·.toNat < 128)

/-- Whether there is a capital letter in the name. -/
def hasCapital (name : String) : Bool :=
  name.toList.any isUppercase

/-- The characters of a text other than underscores, in small letters. -/
def bareLetters (text : List Char) : List Char :=
  (text.filter (· ≠ '_')).map Char.toLower

/-- A name without underscores and in small letters. -/
def substance (name : String) : String :=
  String.ofList (bareLetters name.toList)

theorem bareLetters_append (text rest : List Char) :
    bareLetters (text ++ rest) = bareLetters text ++ bareLetters rest := by
  rw [bareLetters, List.filter_append, List.map_append, bareLetters, bareLetters]

theorem bareLetters_cons (c : Char) (rest : List Char) :
    bareLetters (c :: rest) = bareLetters [c] ++ bareLetters rest :=
  bareLetters_append [c] rest

/-- What a change of case leaves of an ASCII character. -/
theorem ascii_case {c : Char} (ascii : c.toNat < 128) :
    c.toLower.toNat < 128 ∧ bareLetters [c.toLower] = bareLetters [c] ∧
      bareLetters [c.toUpper] = bareLetters [c] ∧
      (c.isUpper = false → c.toUpper.toLower = c) := by
  have checked : ∀ code < 128, (Char.ofNat code).toLower.toNat < 128 ∧
      bareLetters [(Char.ofNat code).toLower] = bareLetters [Char.ofNat code] ∧
      bareLetters [(Char.ofNat code).toUpper] = bareLetters [Char.ofNat code] ∧
      ((Char.ofNat code).isUpper = false →
        (Char.ofNat code).toUpper.toLower = Char.ofNat code) := by
    decide
  have ofChar := checked c.toNat ascii
  rwa [Char.ofNat_toNat] at ofChar

theorem isAscii_iff {name : String} : isAscii name = true ↔ ∀ c ∈ name.toList, c.toNat < 128 := by
  simp [isAscii]

/-- A casing that treats ASCII characters as usual. -/
structure Casing.ExtendsAscii (casing : Casing) : Prop where
  isUpper : ∀ c : Char, c.toNat < 128 → casing.isUpper c = c.isUpper
  toLower : ∀ c : Char, c.toNat < 128 → casing.toLower c = [c.toLower]
  toUpper : ∀ c : Char, c.toNat < 128 → casing.toUpper c = [c.toUpper]

theorem Casing.unicode_extendsAscii : Casing.unicode.ExtendsAscii where
  isUpper _ ascii := if_pos ascii
  toLower _ ascii := if_pos ascii
  toUpper _ ascii := if_pos ascii

/-! ## Changes of case -/

section Changes

variable {casing : Casing} (usual : casing.ExtendsAscii) {text : List Char}
  (ascii : ∀ c ∈ text, c.toNat < 128)
include usual ascii

/-- A name of ASCII characters has an identifier of such. -/
theorem snakeFrom_ascii (wordEnd : Bool) : ∀ c ∈ casing.snakeFrom wordEnd text, c.toNat < 128 := by
  induction text generalizing wordEnd with
  | nil =>
      intro c listed
      cases listed
  | cons first rest ih =>
      obtain ⟨ofFirst, ofRest⟩ := List.forall_mem_cons.mp ascii
      intro c listed
      rw [Casing.snakeFrom] at listed
      split at listed
      · rw [usual.toLower first ofFirst] at listed
        rcases List.mem_append.mp listed with front | inRest
        · rcases List.mem_append.mp front with mark | small
          · split at mark
            · rw [List.mem_singleton.mp mark]
              decide
            · cases mark
          · rw [List.mem_singleton.mp small]
            exact (ascii_case ofFirst).1
        · exact ih ofRest false c inRest
      · rcases List.mem_cons.mp listed with rfl | inRest
        · exact ofFirst
        · exact ih ofRest _ c inRest

/-- Small letters and marks between words do not change the substance, whatever stood before. -/
theorem bareLetters_snakeFrom (wordEnd : Bool) :
    bareLetters (casing.snakeFrom wordEnd text) = bareLetters text := by
  induction text generalizing wordEnd with
  | nil => rfl
  | cons c rest ih =>
      obtain ⟨ofFirst, ofRest⟩ := List.forall_mem_cons.mp ascii
      rw [Casing.snakeFrom]
      split
      · have mark : bareLetters (if wordEnd then ['_'] else []) = [] := by
          cases wordEnd <;> rfl
        rw [usual.toLower c ofFirst, bareLetters_append, bareLetters_append, mark,
          (ascii_case ofFirst).2.1, ih ofRest, List.nil_append, ← bareLetters_cons]
      · rw [bareLetters_cons, ih ofRest, ← bareLetters_cons]

/-- Nor do capitals. -/
theorem bareLetters_flatMap_toUpper :
    bareLetters (text.flatMap casing.toUpper) = bareLetters text := by
  induction text with
  | nil => rfl
  | cons c rest ih =>
      obtain ⟨ofFirst, ofRest⟩ := List.forall_mem_cons.mp ascii
      rw [List.flatMap_cons, usual.toUpper c ofFirst, bareLetters_append,
        (ascii_case ofFirst).2.2.1, ih ofRest, ← bareLetters_cons]

/-- Without capital letters the capital forms determine a text. -/
theorem map_toLower_flatMap_toUpper (small : text.any casing.isUpper = false) :
    (text.flatMap casing.toUpper).map Char.toLower = text := by
  induction text with
  | nil => rfl
  | cons c rest ih =>
      obtain ⟨ofFirst, ofRest⟩ := List.forall_mem_cons.mp ascii
      rw [List.any_cons, Bool.or_eq_false_iff, usual.isUpper c ofFirst] at small
      rw [List.flatMap_cons, usual.toUpper c ofFirst, List.map_append, ih ofRest small.2,
        List.map_singleton, (ascii_case ofFirst).2.2.2 small.1, List.singleton_append]

end Changes

/-- Without capital letters a text stays as it is. -/
theorem snakeFrom_of_small {casing : Casing} {text : List Char}
    (small : text.any casing.isUpper = false) (wordEnd : Bool) :
    casing.snakeFrom wordEnd text = text := by
  induction text generalizing wordEnd with
  | nil => rfl
  | cons c rest ih =>
      rw [List.any_cons, Bool.or_eq_false_iff] at small
      rw [Casing.snakeFrom, if_neg (by rw [small.1]; exact Bool.false_ne_true), ih small.2]

/-! ## Names that become alike -/

section Names

variable {casing : Casing} {name : String}

theorem snakeCase_of_small (small : name.toList.any casing.isUpper = false) :
    casing.snakeCase name = name := by
  rw [Casing.snakeCase, snakeFrom_of_small small, String.ofList_toList]

variable (usual : casing.ExtendsAscii) (ascii : isAscii name = true)
include usual ascii

theorem substance_snakeCase : substance (casing.snakeCase name) = substance name := by
  rw [substance, Casing.snakeCase, String.toList_ofList,
    bareLetters_snakeFrom usual (isAscii_iff.mp ascii), substance]

theorem substance_screamingCase : substance (casing.screamingCase name) = substance name := by
  have small := snakeFrom_ascii usual (isAscii_iff.mp ascii) false
  rw [← substance_snakeCase usual ascii, substance, Casing.screamingCase, Casing.snakeCase,
    String.toList_ofList, String.toList_ofList, bareLetters_flatMap_toUpper usual small, substance,
    String.toList_ofList]

/-- A name without capital letters is found again in its capitals. -/
theorem map_toLower_screamingCase (small : name.toList.any casing.isUpper = false) :
    (casing.screamingCase name).toList.map Char.toLower = name.toList := by
  rw [Casing.screamingCase, String.toList_ofList, snakeCase_of_small small,
    map_toLower_flatMap_toUpper usual (isAscii_iff.mp ascii) small]

end Names

/-- **Names that become alike have the same substance**, and they are the same if there is no
capital letter in them. -/
theorem substance_eq_of_alike {casing : Casing} (usual : casing.ExtendsAscii)
    {first second : String} (ascii : isAscii first = true) (otherAscii : isAscii second = true)
    (alike : casing.screamingCase first = casing.screamingCase second ∨
      casing.snakeCase first = casing.snakeCase second) :
    substance first = substance second ∧
      (first.toList.any casing.isUpper = false → second.toList.any casing.isUpper = false →
        first = second) := by
  rcases alike with alike | alike
  · refine ⟨?_, ?_⟩
    · rw [← substance_screamingCase usual ascii, alike, substance_screamingCase usual otherAscii]
    · intro small otherSmall
      rw [← String.toList_inj, ← map_toLower_screamingCase usual ascii small, alike,
        map_toLower_screamingCase usual otherAscii otherSmall]
  · refine ⟨?_, ?_⟩
    · rw [← substance_snakeCase usual ascii, alike, substance_snakeCase usual otherAscii]
    · intro small otherSmall
      rw [← snakeCase_of_small small, alike, snakeCase_of_small otherSmall]

end Text

/-! ## Clashes -/

/-- A clash is reported by the rules for a contract only, and for names that are spelled differently
and become alike. -/
theorem Node.rules_nameClash {node : Node} {table : Option StateTable} {first second host : String}
    (refused : node.rules table = .error (.nameClash first second host)) :
    first ≠ second ∧ (Text.screamingCase first = Text.screamingCase second ∨
      Text.snakeCase first = Text.snakeCase second) := by
  cases node with
  | contract name body =>
      obtain ⟨before, item, after, _, _, taken⟩ := contractRulesBy_eq_error_iff.mp refused
      cases taken with
      | alikeState _ _ differs alike => exact ⟨differs, .inl alike⟩
      | alikeHandler _ _ differs alike => exact ⟨differs, .inr alike⟩
  | exec name params body =>
      change handlerRules params = _ at refused
      unfold handlerRules at refused
      split at refused <;> cases refused
  | cond clause elseIfs otherwise =>
      cases table with
      | none => cases refused
      | some table => cases checkAccesses_error_isUseOfState refused
  | assign lhs rhs =>
      rcases assignmentRules_error refused with ⟨_, same⟩ | useOfState
      · cases same
      · cases useOfState
  | stateItem | stateMap | lookup | member | ident | literal | binary | call | emit | ret =>
      cases refused

/-- A violation that ends a compilation is one of the rules for some construct. -/
theorem Program.exists_rules_of_compile {program : Program} {renderer : Renderer}
    {fallback : Fallback} {context : String} {violation : Violation}
    (failed : (program.compile renderer fallback).outcome =
      .error ⟨context, .verification violation⟩) :
    ∃ (construct : Node) (table : Option StateTable),
      construct.rules table = .error violation := by
  rw [Program.compile_eq] at failed
  cases found : (program.events renderer).findSome? (·.fault? renderer { fallback }) with
  | none =>
      rw [found] at failed
      cases failed
  | some fault =>
      rw [found] at failed
      cases failed
      obtain ⟨event, _, faulty⟩ := List.exists_of_findSome?_eq_some found
      obtain ⟨cause, fails, same⟩ := Option.map_eq_some_iff.mp faulty
      have isCause : cause = .verification violation := congrArg Fault.cause same
      rw [isCause] at fails
      rcases Step.fails_cases fails with ⟨construct, other, _, refused, reported⟩ |
        ⟨_, _, _, _, reported⟩ | ⟨_, _, _, reported⟩
      · cases reported
        exact ⟨construct, _, refused⟩
      · cases reported
      · cases reported

/-- **Names that differ in substance never clash.** Names of ASCII characters that become the same
constant or the same function are equal without underscores and in small letters, and altogether
equal if neither has a capital letter. So whenever the compilation of a program ends with a clash of
such names, they have the same substance, and one of them has a capital letter. -/
theorem Program.nameClash_sameSubstance (first second : String)
    (ascii : Text.isAscii first = true) (otherAscii : Text.isAscii second = true) :
    (Text.screamingCase first = Text.screamingCase second ∨
        Text.snakeCase first = Text.snakeCase second →
      Text.substance first = Text.substance second ∧
        (Text.hasCapital first = false → Text.hasCapital second = false → first = second)) ∧
    ∀ (program : Program) (renderer : Renderer) (fallback : Fallback) (context host : String),
      (program.compile renderer fallback).outcome =
        .error ⟨context, .verification (.nameClash first second host)⟩ →
      Text.substance first = Text.substance second ∧
        (Text.hasCapital first = true ∨ Text.hasCapital second = true) := by
  have related := @Text.substance_eq_of_alike .unicode Text.Casing.unicode_extendsAscii first second
    ascii otherAscii
  refine ⟨related, ?_⟩
  intro program renderer fallback context host failed
  obtain ⟨construct, table, refused⟩ := Program.exists_rules_of_compile failed
  obtain ⟨differs, alike⟩ := Node.rules_nameClash refused
  obtain ⟨sameSubstance, same⟩ := related alike
  refine ⟨sameSubstance, ?_⟩
  cases capital : Text.hasCapital first with
  | true => exact .inl rfl
  | false =>
      cases otherCapital : Text.hasCapital second with
      | true => exact .inr rfl
      | false => exact absurd (same capital otherCapital) differs

/-- A program with one contract that declares two states. -/
def twoStates (first second : String) : Program where
  items := [.contract "T" [.stateItem first ⟨"u64"⟩, .stateItem second ⟨"u64"⟩]]

/-- The states `fooBar2_` and `foo_bar2_` clash, and both have the substance `foobar2`. -/
theorem fooBar_sameSubstance :
    ((twoStates "fooBar2_" "foo_bar2_").compile (CosmWasm.render {}) .strict).outcome =
      .error ⟨"contract T",
        .verification (.nameClash "fooBar2_" "foo_bar2_" "FOO_BAR2_")⟩ ∧
    Text.substance "fooBar2_" = Text.substance "foo_bar2_" ∧
      Text.substance "foo_bar2_" = "foobar2" ∧
      Text.screamingCase "foo_bar" ≠ Text.screamingCase "foobar" := by
  have clash : ((twoStates "fooBar2_" "foo_bar2_").compile (CosmWasm.render {}) .strict).outcome =
      .error ⟨"contract T",
        .verification (.nameClash "fooBar2_" "foo_bar2_" "FOO_BAR2_")⟩ := by
    decide +kernel
  have same := (Program.nameClash_sameSubstance "fooBar2_" "foo_bar2_" (by decide) (by decide)).2
    _ _ _ _ _ clash
  refine ⟨clash, same.1, by decide, ?_⟩
  intro alike
  have spelled := ((Program.nameClash_sameSubstance "foo_bar" "foobar" (by decide) (by decide)).1
    (.inl alike)).2 (by decide) (by decide)
  exact absurd spelled (by decide)

end ContractCompiler
