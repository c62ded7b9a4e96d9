import ContractCompiler.Text.Identifier

/-!
# Tidy texts

A text is tidy if it begins with something other than white space and has no brace and no line
ending in it (`Text.IsTidy`). Such a text can stand anywhere on a line of source without any effect
on how the source is laid out.

A tidy name stays tidy in small letters and in capitals (`Text.IsTidy.snakeCase`,
`Text.IsTidy.screamingCase`): no character has white space or a brace for a small or a capital form,
unless it is that character itself (`Text.KeepsLayout`).
-/

namespace ContractCompiler.Text

set_option autoImplicit false

/-! ## White space and braces -/

/-- The code points of white space. -/
def spaceRuns : List Run :=
  [⟨0x09, 0x0D, 1⟩, ⟨0x20, 0x20, 1⟩, ⟨0x85, 0x85, 1⟩, ⟨0xA0, 0xA0, 1⟩, ⟨0x1680, 0x1680, 1⟩,
    ⟨0x2000, 0x200A, 1⟩, ⟨0x2028, 0x2029, 1⟩, ⟨0x202F, 0x202F, 1⟩, ⟨0x205F, 0x205F, 1⟩,
    ⟨0x3000, 0x3000, 1⟩]

/-- Whether the character is white space. -/
def isSpace (c : Char) : Bool :=
  inRuns spaceRuns c

/-- Whether the character can stand anywhere on a line: it is neither a brace nor ends a line. -/
def isPlain (c : Char) : Bool :=
  c != '\x7b' && c != '\x7d' && c != '\n' && c != '\r'

/-- A text that begins visibly and has no brace and no line ending in it. -/
structure IsTidy (text : String) : Prop where
  plain : text.toList.all isPlain = true
  begins : ∃ c rest, text.toList = c :: rest ∧ isSpace c = false

theorem isTidy_iff {text : String} :
    IsTidy text ↔ text.toList.all isPlain = true ∧ text.toList.head?.map isSpace = some false := by
  constructor
  · rintro ⟨plain, c, rest, split, visible⟩
    exact ⟨plain, by rw [split, List.head?_cons, Option.map_some, visible]⟩
  · rintro ⟨plain, first⟩
    obtain ⟨c, isFirst, visible⟩ := Option.map_eq_some_iff.mp first
    obtain ⟨rest, split⟩ := List.head?_eq_some_iff.mp isFirst
    exact ⟨plain, c, rest, split, visible⟩

instance : DecidablePred IsTidy :=
  fun _ => decidable_of_iff _ isTidy_iff.symm

/-! ## Case mappings -/

/-- The code points of braces and of white space. -/
def layoutRuns : List Run :=
  ⟨0x7B, 0x7B, 1⟩ :: ⟨0x7D, 0x7D, 1⟩ :: spaceRuns

/-- Whether the character is a brace or white space. -/
def isLayout (c : Char) : Bool :=
  inRuns layoutRuns c

theorem isLayout_of_isSpace {c : Char} (space : isSpace c = true) : isLayout c = true := by
  unfold isLayout inRuns layoutRuns
  rw [List.any_cons, List.any_cons]
  exact Bool.or_eq_true_iff.mpr (.inr (Bool.or_eq_true_iff.mpr (.inr space)))

theorem isPlain_of_not_isLayout {c : Char} (visible : isLayout c = false) : isPlain c = true := by
  have other : ∀ mark, isLayout mark = true → (c != mark) = true := by
    intro mark layout
    rw [bne_iff_ne]
    rintro rfl
    rw [layout] at visible
    cases visible
  unfold isPlain
  rw [other '\x7b' (by decide), other '\x7d' (by decide), other '\n' (by decide),
    other '\r' (by decide)]
  rfl

/-- Whether no member of the run is moved into the other run. -/
def Shift.misses (shift : Shift) (run : Run) : Bool :=
  shift.run.last + shift.distance < run.first || run.last < shift.run.first + shift.distance

theorem toNat_ofNat_cases (code : Nat) :
    (Char.ofNat code).toNat = code ∨ (Char.ofNat code).toNat = 0 := by
  by_cases valid : code.isValidChar
  · rw [Char.ofNat, dif_pos valid]
    exact .inl rfl
  · rw [Char.ofNat, dif_neg valid]
    exact .inr rfl

/-- A shift that misses the runs of braces and white space yields none of these. -/
theorem shifted?_not_isLayout {table : List Shift} {c d : Char}
    (clear : ∀ shift ∈ table, layoutRuns.all shift.misses = true)
    (moved : shifted? table c = some d) : isLayout d = false := by
  obtain ⟨shift, found, rfl⟩ := Option.map_eq_some_iff.mp moved
  have held := List.find?_some found
  have missed := clear shift (List.mem_of_find?_eq_some found)
  have positive : ∀ run ∈ layoutRuns, 0 < run.first := by decide
  rw [isLayout, inRuns, List.any_eq_false]
  intro run listed
  have apart := List.all_eq_true.mp missed run listed
  have first := positive run listed
  simp only [Run.contains, Bool.and_eq_true, decide_eq_true_eq] at held
  simp only [Shift.misses, Bool.or_eq_true, decide_eq_true_eq] at apart
  simp only [Run.contains, Bool.and_eq_true, decide_eq_true_eq]
  rintro ⟨⟨above, below⟩, _⟩
  rcases toNat_ofNat_cases (Int.toNat (c.toNat + shift.distance)) with same | zero <;> omega

/-- A case mapping that leads neither to braces nor to white space. -/
structure IsClear (expansions : List (Nat × List Nat)) (shifts : List Shift) : Prop where
  expands : ∀ expansion ∈ expansions, expansion.2 ≠ [] ∧
    expansion.2.all (fun code => !isLayout (Char.ofNat code)) = true
  shifts : ∀ shift ∈ shifts, layoutRuns.all shift.misses = true

theorem lower_isClear : IsClear lowerExpansions lowerShifts where
  expands := by decide
  shifts := by decide +kernel

theorem upper_isClear : IsClear upperExpansions upperShifts where
  expands := by decide +kernel
  shifts := by decide +kernel

/-- A mapping of characters to texts that leads to a brace or to white space from itself only. -/
structure KeepsLayout (mapping : Char → List Char) : Prop where
  ne_nil : ∀ c, mapping c ≠ []
  eq_of_mem : ∀ {c d : Char}, d ∈ mapping c → isLayout d = true → d = c

theorem IsClear.mapCase_keepsLayout {expansions : List (Nat × List Nat)} {shifts : List Shift}
    (clear : IsClear expansions shifts) : KeepsLayout (mapCase expansions shifts) where
  ne_nil c := by
    unfold mapCase
    split
    · next codes found =>
        obtain ⟨before, after, split, _⟩ := List.lookup_eq_some_iff.mp found
        simpa using (clear.expands (c.toNat, codes) (by simp [split])).1
    · exact List.cons_ne_nil _ _
  eq_of_mem := by
    intro c d mapped layout
    unfold mapCase at mapped
    split at mapped
    · next codes found =>
        obtain ⟨code, listed, rfl⟩ := List.mem_map.mp mapped
        obtain ⟨before, after, split, _⟩ := List.lookup_eq_some_iff.mp found
        have visible := (clear.expands (c.toNat, codes) (by simp [split])).2
        have other := List.all_eq_true.mp visible code listed
        simp [layout] at other
    · rw [List.mem_singleton] at mapped
      cases moved : shifted? shifts c with
      | none => rwa [moved] at mapped
      | some e =>
          rw [moved, Option.getD_some] at mapped
          have visible := shifted?_not_isLayout clear.shifts moved
          rw [← mapped, layout] at visible
          cases visible

/-- ASCII characters are mapped one to one, the others by tables. -/
theorem KeepsLayout.of_ascii {mapping : Char → List Char} (keeps : KeepsLayout mapping)
    {ascii : Char → Char} (kept : ∀ code < 128, isLayout (ascii (Char.ofNat code)) = true →
      ascii (Char.ofNat code) = Char.ofNat code) :
    KeepsLayout fun c => if c.toNat < 128 then [ascii c] else mapping c where
  ne_nil c := by
    show ite _ _ _ ≠ []
    split
    · exact List.cons_ne_nil _ _
    · exact keeps.ne_nil c
  eq_of_mem := by
    intro c d mapped layout
    change d ∈ ite _ _ _ at mapped
    split at mapped
    · next small =>
        have same := kept c.toNat small
        rw [Char.ofNat_toNat] at same
        rw [List.mem_singleton] at mapped
        subst mapped
        exact same layout
    · exact keeps.eq_of_mem mapped layout

theorem lowercase_keepsLayout : KeepsLayout lowercase :=
  lower_isClear.mapCase_keepsLayout.of_ascii (by decide)

theorem uppercase_keepsLayout : KeepsLayout uppercase :=
  upper_isClear.mapCase_keepsLayout.of_ascii (by decide)

/-! ## Names in small letters and in capitals -/

/-- The form of a visible character begins visibly. -/
theorem KeepsLayout.begins {mapping : Char → List Char} (keeps : KeepsLayout mapping) {c : Char}
    (visible : isSpace c = false) :
    ∃ first rest, mapping c = first :: rest ∧ isSpace first = false := by
  obtain ⟨first, rest, mapped⟩ := List.exists_cons_of_ne_nil (keeps.ne_nil c)
  refine ⟨first, rest, mapped, ?_⟩
  rw [← Bool.not_eq_true]
  intro space
  have same : first = c := keeps.eq_of_mem (by simp [mapped]) (isLayout_of_isSpace space)
  rw [same, visible] at space
  cases space

/-- What makes up a name in small letters: an underscore, or something that does not lay out the
text unless it stands in the name. -/
theorem mem_of_mem_snakeFrom {casing : Casing} (keeps : KeepsLayout casing.toLower)
    {text : List Char} {wordEnd : Bool} {c : Char} (listed : c ∈ casing.snakeFrom wordEnd text)
    (layout : isLayout c = true) : c ∈ text := by
  induction text generalizing wordEnd with
  | nil => cases listed
  | cons first rest ih =>
      rw [Casing.snakeFrom] at listed
      split at listed
      · rcases List.mem_append.mp listed with front | further
        · rcases List.mem_append.mp front with mark | small
          · split at mark
            · rw [List.mem_singleton] at mark
              subst mark
              exact absurd layout (by decide)
            · cases mark
          · rw [keeps.eq_of_mem small layout]
            exact List.mem_cons_self
        · exact List.mem_cons_of_mem _ (ih further)
      · rcases List.mem_cons.mp listed with rfl | further
        · exact List.mem_cons_self
        · exact List.mem_cons_of_mem _ (ih further)

/-- A text whose braces and white space stand in a plain text is plain. -/
theorem all_isPlain_of_layout {text other : List Char} (plain : text.all isPlain = true)
    (within : ∀ c ∈ other, isLayout c = true → c ∈ text) : other.all isPlain = true := by
  rw [List.all_eq_true]
  intro c listed
  cases layout : isLayout c with
  | true => exact List.all_eq_true.mp plain c (within c listed layout)
  | false => exact isPlain_of_not_isLayout layout

namespace IsTidy

variable {casing : Casing} {name : String}

theorem snakeCaseBy (keeps : KeepsLayout casing.toLower) (tidy : IsTidy name) :
    IsTidy (casing.snakeCase name) where
  plain := by
    rw [Casing.snakeCase, String.toList_ofList]
    exact all_isPlain_of_layout tidy.plain fun c listed layout =>
      mem_of_mem_snakeFrom keeps listed layout
  begins := by
    obtain ⟨c, rest, split, visible⟩ := tidy.begins
    rw [Casing.snakeCase, String.toList_ofList, split, Casing.snakeFrom]
    split
    · obtain ⟨first, further, small, firstVisible⟩ := keeps.begins visible
      exact ⟨first, _, by rw [small]; rfl, firstVisible⟩
    · exact ⟨c, _, rfl, visible⟩

theorem screamingCaseBy (keepsLower : KeepsLayout casing.toLower)
    (keepsUpper : KeepsLayout casing.toUpper) (tidy : IsTidy name) :
    IsTidy (casing.screamingCase name) where
  plain := by
    rw [Casing.screamingCase, String.toList_ofList]
    refine all_isPlain_of_layout (tidy.snakeCaseBy keepsLower).plain fun c listed layout => ?_
    obtain ⟨small, inName, mapped⟩ := List.mem_flatMap.mp listed
    rwa [keepsUpper.eq_of_mem mapped layout]
  begins := by
    obtain ⟨c, rest, split, visible⟩ := (tidy.snakeCaseBy keepsLower).begins
    obtain ⟨first, further, capital, firstVisible⟩ := keepsUpper.begins visible
    rw [Casing.screamingCase, String.toList_ofList, split, List.flatMap_cons, capital]
    exact ⟨first, _, rfl, firstVisible⟩

theorem snakeCase (tidy : IsTidy name) : IsTidy (Text.snakeCase name) :=
  tidy.snakeCaseBy lowercase_keepsLayout

theorem screamingCase (tidy : IsTidy name) : IsTidy (Text.screamingCase name) :=
  tidy.screamingCaseBy lowercase_keepsLayout uppercase_keepsLayout

end IsTidy

end ContractCompiler.Text
