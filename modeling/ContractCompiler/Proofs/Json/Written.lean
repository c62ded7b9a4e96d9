import ContractCompiler.Json.Doc

/-!
# Reading what was written

A text spells tokens if their spellings stand in it one after another, with any blanks between and
around them (`Spells`). Splitting such a text gives back the tokens (`tokens_of_spells`), and the
tokens of a value give back its document (`ofTokens_tokensThen`), so the text is read as that value
and nothing else (`read_of_spells`). Both written forms of a value spell its tokens
(`spells_compact`, `spells_spread`).

Numbers are left out. What spells a number depends on the character after it, and the notation of
syntax trees has no use for them.
-/

namespace ContractCompiler.Json

set_option autoImplicit false

/-! ## Strings -/

theorem hexValue?_hexDigit : ∀ n < 16, hexValue? (hexDigit n) = some n := by
  decide

/-- The three ways to write a character in a string: by a letter, by its number, or as it is. -/
theorem escapeChar_cases (c : Char) :
    (∃ letter, letter ≠ 'u' ∧ namedEscape? letter = some c ∧ escapeChar c = ['\\', letter]) ∨
    (c.toNat < 0x20 ∧ escapeChar c =
      ['\\', 'u', '0', '0', hexDigit (c.toNat / 16), hexDigit (c.toNat % 16)]) ∨
    (c ≠ '"' ∧ c ≠ '\\' ∧ ¬ c.toNat < 0x20 ∧ escapeChar c = [c]) := by
  by_cases named : c ∈ ['"', '\\', '\n', '\r', '\t', '\x08', '\x0c']
  · left
    simp only [List.mem_cons, List.not_mem_nil, or_false] at named
    rcases named with rfl | rfl | rfl | rfl | rfl | rfl | rfl
    · exact ⟨'"', by decide, rfl, rfl⟩
    · exact ⟨'\\', by decide, rfl, rfl⟩
    · exact ⟨'n', by decide, rfl, rfl⟩
    · exact ⟨'r', by decide, rfl, rfl⟩
    · exact ⟨'t', by decide, rfl, rfl⟩
    · exact ⟨'b', by decide, rfl, rfl⟩
    · exact ⟨'f', by decide, rfl, rfl⟩
  · right
    simp only [List.mem_cons, List.not_mem_nil, or_false, not_or] at named
    obtain ⟨quote, backslash, newline, carriage, tab, backspace, feed⟩ := named
    by_cases control : c.toNat < 0x20
    · left
      refine ⟨control, ?_⟩
      simp only [escapeChar, quote, backslash, newline, carriage, tab, backspace, feed, control,
        if_false, if_true]
    · right
      refine ⟨quote, backslash, control, ?_⟩
      simp only [escapeChar, quote, backslash, newline, carriage, tab, backspace, feed, control,
        if_false]

/-- A digit of a numeric escape. -/
theorem splitter_hexDigit {digit : Nat} (small : digit < 16) (s : OpenString) (left value : Nat)
    (out : List Token) :
    Splitter.step { within := .unit s left value, out } (hexDigit digit) =
      { within := if left ≤ 1 then .string (s.pushUnit (value * 16 + digit))
          else .unit s (left - 1) (value * 16 + digit),
        out } := by
  simp only [Splitter.step, hexValue?_hexDigit digit small]
  split <;> rfl

/-- A unit below the surrogates is a character. -/
theorem OpenString.pushUnit_of_control {c : Char} (control : c.toNat < 0x20) (s : OpenString) :
    s.pushUnit c.toNat = s.push c := by
  have noTrail : ¬ (0xDC00 ≤ c.toNat ∧ c.toNat ≤ 0xDFFF) := by omega
  have noLead : ¬ (0xD800 ≤ c.toNat ∧ c.toNat ≤ 0xDBFF) := by omega
  rw [OpenString.pushUnit, if_neg noTrail, if_neg noLead, Char.ofNat_toNat]

/-- **A character that is written in a string** is read back, however it is escaped. -/
theorem splitter_escapeChar (c : Char) (s : OpenString) (out : List Token) :
    (escapeChar c).foldl Splitter.step { within := .string s, out } =
      { within := .string (s.push c), out } := by
  rcases escapeChar_cases c with ⟨letter, noUnit, named, written⟩ | ⟨control, written⟩ |
    ⟨quote, backslash, shown, written⟩
  · rw [written]
    show Splitter.step { within := .escape s, out } letter = _
    simp only [Splitter.step, noUnit, named, if_false]
  · rw [written]
    show Splitter.step (Splitter.step { within := .unit s 2 0, out } (hexDigit (c.toNat / 16)))
      (hexDigit (c.toNat % 16)) = _
    have value : (0 * 16 + c.toNat / 16) * 16 + c.toNat % 16 = c.toNat := by omega
    rw [splitter_hexDigit (by omega)]
    show Splitter.step { within := .unit s 1 (0 * 16 + c.toNat / 16), out } _ = _
    rw [splitter_hexDigit (by omega), value, OpenString.pushUnit_of_control control]
    rfl
  · rw [written]
    show Splitter.step { within := .string s, out } c = _
    simp only [Splitter.step, quote, backslash, shown, if_false]

theorem splitter_escapeChars (chars : List Char) (read : List Char) (out : List Token) :
    (chars.flatMap escapeChar).foldl Splitter.step { within := .string { read }, out } =
      { within := .string { read := chars.reverse ++ read }, out } := by
  induction chars generalizing read with
  | nil => rfl
  | cons c rest ih =>
      rw [List.flatMap_cons, List.foldl_append, splitter_escapeChar]
      show (rest.flatMap escapeChar).foldl Splitter.step
        { within := .string { read := c :: read }, out } = _
      rw [ih, List.reverse_cons, List.append_assoc, List.singleton_append]

/-! ## Tokens -/

/-- Whether a token has a spelling that ends by itself. -/
def Token.isPlain : Token → Bool
  | .num _ | .str none | .bad => false
  | _ => true

/-- The spelling of a token is split off whole. -/
theorem splitter_token {token : Token} (plain : token.isPlain = true) (out : List Token) :
    token.text.foldl Splitter.step { out } = { out := token :: out } := by
  cases token with
  | str text =>
      cases text with
      | none => cases plain
      | some text =>
          show (text.toList.flatMap escapeChar ++ ['"']).foldl Splitter.step
            { within := .string {}, out } = _
          rw [List.foldl_append, splitter_escapeChars]
          simp [Splitter.step, Splitter.emit, OpenString.close]
  | bool value => cases value <;> rfl
  | openBrace | closeBrace | openBracket | closeBracket | colon | comma | null => rfl
  | num | bad => cases plain

/-- A text spells tokens: their spellings stand in it in order, with any blanks between them. -/
inductive Spells : List Char → List Token → Prop where
  | nil : Spells [] []
  | blank {c : Char} {text : List Char} {tokens : List Token} (blank : isBlank c = true)
      (rest : Spells text tokens) : Spells (c :: text) tokens
  | token {token : Token} {text : List Char} {tokens : List Token} (plain : token.isPlain = true)
      (rest : Spells text tokens) : Spells (token.text ++ text) (token :: tokens)

/-- **Splitting a text** gives back the tokens that it spells. -/
theorem tokens_of_spells {text : List Char} {spelled : List Token} (spells : Spells text spelled) :
    tokens text = spelled := by
  suffices onward : ∀ out, text.foldl Splitter.step { out } = { out := spelled.reverse ++ out } by
    rw [tokens, onward, List.append_nil]
    exact List.reverse_reverse spelled
  induction spells with
  | nil =>
      intro out
      rfl
  | @blank c text tokens blank _ ih =>
      intro out
      have skipped : Splitter.step { out } c = { out } := by
        simp [Splitter.step, Splitter.start, blank]
      rw [List.foldl_cons, skipped, ih]
  | @token token text tokens plain _ ih =>
      intro out
      rw [List.foldl_append, splitter_token plain, ih, List.reverse_cons, List.append_assoc,
        List.singleton_append]

/-! ## Documents -/

/-- Where an array may also end, its items begin as they do elsewhere. -/
theorem foldl_itemTokensThen_itemOrEnd (item : Json) (more : List Json) (rest : List Token)
    (opened : List Opened) :
    (itemTokensThen (item :: more) rest).foldl Progress.step (.reading opened .itemOrEnd) =
      (itemTokensThen (item :: more) rest).foldl Progress.step (.reading opened .value) := by
  cases more <;> cases item <;> rfl

/-- Where an object may also end, its fields begin as they do elsewhere. -/
theorem foldl_fieldTokensThen_nameOrEnd (field : String × Json) (more : List (String × Json))
    (rest : List Token) (opened : List Opened) :
    (fieldTokensThen (field :: more) rest).foldl Progress.step (.reading opened .nameOrEnd) =
      (fieldTokensThen (field :: more) rest).foldl Progress.step (.reading opened .name) := by
  cases more <;> rfl

mutual

/-- **The tokens of a value** are read as its document, which goes where it belongs. -/
theorem foldl_tokensThen : ∀ (value : Json) (rest : List Token) (opened : List Opened),
    (tokensThen value rest).foldl Progress.step (.reading opened .value) =
      rest.foldl Progress.step (deliver (.ofJson value) opened)
  | .null, _, _ => rfl
  | .bool _, _, _ => rfl
  | .num _, _, _ => rfl
  | .str _, _, _ => rfl
  | .arr [], _, _ => rfl
  | .arr (item :: more), rest, opened => by
      show (itemTokensThen (item :: more) (.closeBracket :: rest)).foldl Progress.step
        (.reading (.items [] :: opened) .itemOrEnd) = _
      rw [foldl_itemTokensThen_itemOrEnd,
        foldl_itemTokensThen (item :: more) (List.cons_ne_nil item more)]
      rfl
  | .obj [], _, _ => rfl
  | .obj (field :: more), rest, opened => by
      show (fieldTokensThen (field :: more) (.closeBrace :: rest)).foldl Progress.step
        (.reading (.fields [] :: opened) .nameOrEnd) = _
      rw [foldl_fieldTokensThen_nameOrEnd,
        foldl_fieldTokensThen (field :: more) (List.cons_ne_nil field more)]
      rfl

/-- The tokens of the items of an array, up to its end. -/
theorem foldl_itemTokensThen : ∀ items : List Json, items ≠ [] → ∀ (rest : List Token)
    (read : List Doc) (opened : List Opened),
    (itemTokensThen items (.closeBracket :: rest)).foldl Progress.step
        (.reading (.items read :: opened) .value) =
      rest.foldl Progress.step (deliver (.arr (read.reverse ++ Doc.ofItems items) true) opened)
  | [], nonempty, _, _, _ => absurd rfl nonempty
  | [item], _, rest, read, opened => by
      rw [itemTokensThen, foldl_tokensThen item]
      show rest.foldl Progress.step (deliver (.arr (.ofJson item :: read).reverse true) opened) = _
      rw [List.reverse_cons]
      rfl
  | item :: next :: more, _, rest, read, opened => by
      rw [itemTokensThen, foldl_tokensThen item]
      show (itemTokensThen (next :: more) (.closeBracket :: rest)).foldl Progress.step
        (.reading (.items (.ofJson item :: read) :: opened) .value) = _
      rw [foldl_itemTokensThen (next :: more) (List.cons_ne_nil next more), List.reverse_cons,
        List.append_assoc]
      rfl

/-- The tokens of the fields of an object, up to its end. -/
theorem foldl_fieldTokensThen : ∀ fields : List (String × Json), fields ≠ [] →
    ∀ (rest : List Token) (read : List (Option String × Doc)) (opened : List Opened),
    (fieldTokensThen fields (.closeBrace :: rest)).foldl Progress.step
        (.reading (.fields read :: opened) .name) =
      rest.foldl Progress.step (deliver (.obj (read.reverse ++ Doc.ofFields fields) true) opened)
  | [], nonempty, _, _, _ => absurd rfl nonempty
  | [(name, value)], _, rest, read, opened => by
      show (tokensThen value (.closeBrace :: rest)).foldl Progress.step
        (.reading (.field (some name) :: .fields read :: opened) .value) = _
      rw [foldl_tokensThen value]
      show rest.foldl Progress.step
        (deliver (.obj ((some name, .ofJson value) :: read).reverse true) opened) = _
      rw [List.reverse_cons]
      rfl
  | (name, value) :: next :: more, _, rest, read, opened => by
      show (tokensThen value (.comma :: fieldTokensThen (next :: more) (.closeBrace :: rest))).foldl
        Progress.step (.reading (.field (some name) :: .fields read :: opened) .value) = _
      rw [foldl_tokensThen value]
      show (fieldTokensThen (next :: more) (.closeBrace :: rest)).foldl Progress.step
        (.reading (.fields ((some name, .ofJson value) :: read) :: opened) .name) = _
      rw [foldl_fieldTokensThen (next :: more) (List.cons_ne_nil next more), List.reverse_cons,
        List.append_assoc]
      rfl

end

/-- The tokens of a value are those of its document, with nothing left over. -/
theorem ofTokens_tokensThen (value : Json) :
    ofTokens (tokensThen value []) = ⟨.ofJson value, false⟩ := by
  rw [ofTokens, foldl_tokensThen]
  rfl

/-! ## Written forms -/

mutual

/-- Whether no number occurs in a value. -/
@[simp] def numberless : Json → Bool
  | .num _ => false
  | .arr items => numberlessItems items
  | .obj fields => numberlessFields fields
  | .null | .bool _ | .str _ => true

/-- Whether no number occurs in the items of an array. -/
@[simp] def numberlessItems : List Json → Bool
  | [] => true
  | item :: rest => item.numberless && numberlessItems rest

/-- Whether no number occurs in the fields of an object. -/
@[simp] def numberlessFields : List (String × Json) → Bool
  | [] => true
  | (_, value) :: rest => value.numberless && numberlessFields rest

end

theorem numberlessItems_map {α : Type} {write : α → Json}
    (plain : ∀ value, (write value).numberless = true) (values : List α) :
    numberlessItems (values.map write) = true := by
  induction values with
  | nil => rfl
  | cons value values ih => rw [List.map_cons, numberlessItems, plain value, ih, Bool.and_self]

namespace Spells

variable {text : List Char} {spelled : List Token}

/-- The tokens that a text spells are plain. -/
theorem plain (spells : Spells text spelled) : ∀ token ∈ spelled, token.isPlain = true := by
  induction spells with
  | nil => simp
  | blank _ _ ih => exact ih
  | token plain _ ih =>
      intro token listed
      rcases List.mem_cons.mp listed with rfl | later
      · exact plain
      · exact ih token later

/-- A new line is blank. -/
theorem newline (level : Nat) (spells : Spells text spelled) :
    Spells (newline level ++ text) spelled := by
  refine .blank rfl ?_
  induction 2 * level with
  | zero => exact spells
  | succ n ih => exact .blank rfl ih

/-- A field name, a colon and a space before a value. -/
theorem field (name : String) (spells : Spells text spelled) :
    Spells (escaped name ++ ':' :: ' ' :: text) (.str (some name) :: .colon :: spelled) :=
  @Spells.token (.str (some name)) _ _ rfl (@Spells.token .colon _ _ rfl (.blank rfl spells))

/-- Plain tokens, one after another, spell themselves. -/
theorem flatMap_text {spelled : List Token} (plain : ∀ token ∈ spelled, token.isPlain = true) :
    Spells (spelled.flatMap Token.text) spelled := by
  induction spelled with
  | nil => exact .nil
  | cons token rest ih =>
      rw [List.flatMap_cons]
      exact .token (plain token List.mem_cons_self)
        (ih fun later listed => plain later (List.mem_cons_of_mem _ listed))

end Spells

/-- The tokens that follow the first item of an array. -/
def moreItemTokens : List Json → List Token → List Token
  | [], rest => rest
  | item :: more, rest => .comma :: itemTokensThen (item :: more) rest

/-- The tokens that follow the first field of an object. -/
def moreFieldTokens : List (String × Json) → List Token → List Token
  | [], rest => rest
  | field :: more, rest => .comma :: fieldTokensThen (field :: more) rest

theorem itemTokensThen_cons (item : Json) (more : List Json) (rest : List Token) :
    itemTokensThen (item :: more) rest = tokensThen item (moreItemTokens more rest) := by
  cases more <;> rfl

theorem fieldTokensThen_cons (name : String) (value : Json) (more : List (String × Json))
    (rest : List Token) :
    fieldTokensThen ((name, value) :: more) rest =
      .str (some name) :: .colon :: tokensThen value (moreFieldTokens more rest) := by
  cases more <;> rfl

mutual

/-- **The spread form of a value** spells its tokens. -/
theorem spells_spreadThen : ∀ (value : Json) (level : Nat), value.numberless = true →
    ∀ {text : List Char} {rest : List Token}, Spells text rest →
      Spells (spreadThen level value text) (tokensThen value rest)
  | .null, _, _, _, _, onward => @Spells.token .null _ _ rfl onward
  | .bool value, _, _, _, _, onward => @Spells.token (.bool value) _ _ rfl onward
  | .str string, _, _, _, _, onward => @Spells.token (.str (some string)) _ _ rfl onward
  | .num _, _, plain, _, _, _ => by cases plain
  | .arr [], _, _, _, _, onward =>
      @Spells.token .openBracket _ _ rfl (@Spells.token .closeBracket _ _ rfl onward)
  | .arr (item :: more), level, plain, text, rest, onward => by
      obtain ⟨plainItem, plainMore⟩ := Bool.and_eq_true_iff.mp plain
      have closed : Spells (newline level ++ ']' :: text) (.closeBracket :: rest) :=
        (@Spells.token .closeBracket _ _ rfl onward).newline level
      have items := spells_spreadItemsThen more (level + 1) plainMore closed
      have first := spells_spreadThen item (level + 1) plainItem items
      rw [spreadThen, tokensThen, itemTokensThen_cons]
      exact @Spells.token .openBracket _ _ rfl (first.newline (level + 1))
  | .obj [], _, _, _, _, onward =>
      @Spells.token .openBrace _ _ rfl (@Spells.token .closeBrace _ _ rfl onward)
  | .obj ((name, value) :: more), level, plain, text, rest, onward => by
      obtain ⟨plainValue, plainMore⟩ := Bool.and_eq_true_iff.mp plain
      have closed : Spells (newline level ++ '\x7d' :: text) (.closeBrace :: rest) :=
        (@Spells.token .closeBrace _ _ rfl onward).newline level
      have fields := spells_spreadFieldsThen more (level + 1) plainMore closed
      have first := (spells_spreadThen value (level + 1) plainValue fields).field name
      rw [spreadThen, tokensThen, fieldTokensThen_cons, List.append_assoc]
      exact @Spells.token .openBrace _ _ rfl (first.newline (level + 1))

theorem spells_spreadItemsThen : ∀ (items : List Json) (level : Nat),
    numberlessItems items = true → ∀ {text : List Char} {rest : List Token}, Spells text rest →
      Spells (spreadItemsThen level items text) (moreItemTokens items rest)
  | [], _, _, _, _, onward => onward
  | item :: more, level, plain, text, rest, onward => by
      obtain ⟨plainItem, plainMore⟩ := Bool.and_eq_true_iff.mp plain
      have items := spells_spreadItemsThen more level plainMore onward
      have first := spells_spreadThen item level plainItem items
      rw [spreadItemsThen, moreItemTokens, itemTokensThen_cons]
      exact @Spells.token .comma _ _ rfl (first.newline level)

theorem spells_spreadFieldsThen : ∀ (fields : List (String × Json)) (level : Nat),
    numberlessFields fields = true → ∀ {text : List Char} {rest : List Token}, Spells text rest →
      Spells (spreadFieldsThen level fields text) (moreFieldTokens fields rest)
  | [], _, _, _, _, onward => onward
  | (name, value) :: more, level, plain, text, rest, onward => by
      obtain ⟨plainValue, plainMore⟩ := Bool.and_eq_true_iff.mp plain
      have fields := spells_spreadFieldsThen more level plainMore onward
      have first := (spells_spreadThen value level plainValue fields).field name
      rw [spreadFieldsThen, moreFieldTokens, fieldTokensThen_cons, List.append_assoc]
      exact @Spells.token .comma _ _ rfl (first.newline level)

end

/-- The compact form of a value spells its tokens as well. -/
theorem spells_compact {value : Json} (plain : value.numberless = true) :
    Spells value.compact.toList (tokensThen value []) := by
  rw [compact, String.toList_ofList]
  exact Spells.flatMap_text (spells_spreadThen value 0 plain .nil).plain

theorem spells_spread {value : Json} (plain : value.numberless = true) :
    Spells value.spread.toList (tokensThen value []) := by
  rw [spread, String.toList_ofList]
  exact spells_spreadThen value 0 plain .nil

/-- **A text that spells the tokens of a value** is read as that value. -/
theorem read_of_spells {text : String} {value : Json}
    (spells : Spells text.toList (tokensThen value [])) : read text = ⟨.ofJson value, false⟩ := by
  rw [read, tokens_of_spells spells, ofTokens_tokensThen]

end ContractCompiler.Json
