import ContractCompiler.Json.Token
import ContractCompiler.Text.Quoted

/-!
# String literals

A string is written as a literal: between double quotes, with an escape for every character that
could end the literal or that cannot be seen. `Text.readLiteral` reads a literal in the way in which
generated code is read, up to the first double quote that is not escaped.

Which characters can be seen is a matter of tables. All that is needed of them is that no control
character can be seen (`Text.HidesControls`). Each character is then written so that it is read back
whatever follows it (`Text.readFrom_quoteCharBy`). By induction on the string the whole literal is
read back, and ends at its last quote, since every quote before that is escaped. There is no control
character in it, so it stays on one line (`Text.quotedBy_isLiteral`).
-/

namespace ContractCompiler.Text

set_option autoImplicit false

/-! ## Reading a literal -/

/-- Whether the character is a control character. -/
def isControl (c : Char) : Bool :=
  c.toNat < 0x20 || 0x7F ≤ c.toNat && c.toNat ≤ 0x9F

/-- No control character can be seen. -/
def HidesControls (visible : Char → Bool) : Prop :=
  ∀ c, visible c = true → isControl c = false

/-- What a backslash with the given character stands for, if that is a fixed character. -/
def escaped? (c : Char) : Option Char :=
  if c = '"' then some '"'
  else if c = '\\' then some '\\'
  else if c = 'n' then some '\n'
  else if c = 'r' then some '\r'
  else if c = 't' then some '\t'
  else if c = '0' then some (Char.ofNat 0)
  else none

/-- How far a literal has been read. -/
inductive LiteralPart where
  /-- Between two characters. -/
  | between
  /-- After a backslash. -/
  | escape
  /-- After the mark of a number: an opening brace must follow. -/
  | mark
  /-- Among the hexadecimal digits of a code point: their value and how many there are. -/
  | digits (code count : Nat)

/-- The rest of a literal: the characters that it stands for, and the text after its closing quote.
A literal does not go beyond its line. A code point has one to six digits and is that of a
character. -/
def readFrom : LiteralPart → List Char → Option (List Char × List Char)
  | _, [] => none
  | .between, c :: rest =>
      if c = '"' then some ([], rest)
      else if c = '\\' then readFrom .escape rest
      else if c = '\n' ∨ c = '\r' then none
      else (readFrom .between rest).map (Prod.map (c :: ·) id)
  | .escape, c :: rest =>
      if c = 'u' then readFrom .mark rest
      else (escaped? c).bind fun meant =>
        (readFrom .between rest).map (Prod.map (meant :: ·) id)
  | .mark, c :: rest => if c = '\x7b' then readFrom (.digits 0 0) rest else none
  | .digits code count, c :: rest =>
      if c = '\x7d' then
        if 1 ≤ count ∧ count ≤ 6 ∧ code.isValidChar then
          (readFrom .between rest).map (Prod.map (Char.ofNat code :: ·) id)
        else none
      else (Json.hexValue? c).bind fun digit =>
        readFrom (.digits (code * 16 + digit) (count + 1)) rest

/-- Reads a literal at the beginning of a text: the characters that it stands for, and the text
after it. -/
def readLiteral : List Char → Option (List Char × List Char)
  | [] => none
  | c :: rest => if c = '"' then readFrom .between rest else none

/-- Whether the character after the text is escaped: a backslash stands before it that is not
escaped itself. -/
def endsEscaping (text : List Char) : Bool :=
  text.foldl (fun escaping c => !escaping && c == '\\') false

/-- The text is a literal on a single line, and the value is what it stands for. -/
structure IsLiteral (value text : String) : Prop where
  /-- It stands between double quotes, and just those inside of them are escaped. -/
  delimited : ∃ inner, text.toList = '"' :: (inner ++ ['"']) ∧
    ∀ front back, inner ++ ['"'] = front ++ '"' :: back →
      (endsEscaping front = true ↔ back ≠ [])
  /-- There is no control character in it, and so no line end. -/
  visible : ∀ c ∈ text.toList, isControl c = false
  /-- It is read back, whatever follows it. -/
  readBack : ∀ rest, readLiteral (text.toList ++ rest) = some (value.toList, rest)

namespace IsLiteral

variable {value other text : String}

/-- A literal stands for one value only. -/
theorem value_eq (isLiteral : IsLiteral value text) (alsoLiteral : IsLiteral other text) :
    value = other := by
  have same := (isLiteral.readBack []).symm.trans (alsoLiteral.readBack [])
  exact String.toList_inj.mp (Prod.mk.inj (Option.some.inj same)).1

theorem ne_empty (isLiteral : IsLiteral value text) : text ≠ "" := by
  obtain ⟨inner, delimited, _⟩ := isLiteral.delimited
  rintro rfl
  cases delimited

theorem notMem (isLiteral : IsLiteral value text) {c : Char} (control : isControl c = true) :
    c ∉ text.toList := by
  intro listed
  rw [isLiteral.visible c listed] at control
  cases control

end IsLiteral

/-! ## Digits -/

/-- Every digit but the last belongs to the number without its last digit. -/
theorem hexDigits_of_le {n : Nat} (large : 16 ≤ n) :
    hexDigits n = hexDigits (n / 16) ++ [Nat.digitChar (n % 16)] :=
  Nat.toDigits_of_base_le (by decide) large

theorem exists_digit_of_mem {n : Nat} {c : Char} (listed : c ∈ hexDigits n) :
    ∃ digit < 16, c = Nat.digitChar digit := by
  induction n using Nat.strongRecOn with
  | ind n ih =>
      by_cases small : n < 16
      · rw [hexDigits, Nat.toDigits_of_lt_base small, List.mem_singleton] at listed
        exact ⟨n, small, listed⟩
      · rw [hexDigits_of_le (by omega)] at listed
        rcases List.mem_append.mp listed with front | last
        · exact ih (n / 16) (by omega) front
        · exact ⟨n % 16, by omega, List.mem_singleton.mp last⟩

/-- The character stands for itself in a literal. -/
structure IsInert (c : Char) : Prop where
  notQuote : c ≠ '"'
  notBackslash : c ≠ '\\'
  notControl : isControl c = false

instance : DecidablePred IsInert :=
  fun c => decidable_of_iff (c ≠ '"' ∧ c ≠ '\\' ∧ isControl c = false)
    ⟨fun inert => ⟨inert.1, inert.2.1, inert.2.2⟩,
      fun inert => ⟨inert.notQuote, inert.notBackslash, inert.notControl⟩⟩

/-- A digit does not end the number that it is in, and is read as its value. -/
theorem digitChar_facts : ∀ digit < 16,
    Nat.digitChar digit ≠ '\x7d' ∧ Json.hexValue? (Nat.digitChar digit) = some digit ∧
      IsInert (Nat.digitChar digit) := by
  decide

/-- The digits of a number are read as the number. -/
theorem readFrom_hexDigits (n : Nat) (rest : List Char) :
    readFrom (.digits 0 0) (hexDigits n ++ rest) =
      readFrom (.digits n (hexDigits n).length) rest := by
  have step : ∀ {digit : Nat}, digit < 16 → ∀ (code count : Nat) (further : List Char),
      readFrom (.digits code count) (Nat.digitChar digit :: further) =
        readFrom (.digits (code * 16 + digit) (count + 1)) further := by
    intro digit small code count further
    obtain ⟨notBrace, value, _⟩ := digitChar_facts digit small
    rw [readFrom, if_neg notBrace, value, Option.bind_some]
  induction n using Nat.strongRecOn generalizing rest with
  | ind n ih =>
      by_cases small : n < 16
      · rw [hexDigits, Nat.toDigits_of_lt_base small, List.singleton_append, step small,
          Nat.zero_mul, Nat.zero_add]
        rfl
      · have whole : n / 16 * 16 + n % 16 = n := by omega
        rw [hexDigits_of_le (by omega), List.append_assoc, List.singleton_append,
          ih (n / 16) (by omega), step (by omega), whole, List.length_append]
        rfl

/-- A character has a number of at most six digits. -/
theorem length_hexDigits_toNat (c : Char) : (hexDigits c.toNat).length ≤ 6 := by
  have valid : c.toNat < 0xD800 ∨ 0xDFFF < c.toNat ∧ c.toNat < 0x110000 := c.valid
  rw [hexDigits, Nat.length_toDigits_le_iff (by decide) (by decide)]
  omega

/-! ## Characters in a literal -/

/-- The characters that a backslash gives a fixed meaning to. -/
def escapeLetters : List Char :=
  ['"', '\\', 'n', 'r', 't', '0']

theorem escapeLetters_facts {letter : Char} (listed : letter ∈ escapeLetters) :
    letter ≠ 'u' ∧ isControl letter = false := by
  have checked : escapeLetters.all
      (fun letter => decide (letter ≠ 'u' ∧ isControl letter = false)) = true := by decide
  exact of_decide_eq_true (List.all_eq_true.mp checked letter listed)

/-- A character is written with a backslash, as it is, or by its number. -/
theorem quoteCharBy_cases (visible : Char → Bool) (c : Char) :
    (∃ letter ∈ escapeLetters, escaped? letter = some c ∧ quoteCharBy visible c = ['\\', letter]) ∨
    (visible c = true ∧ c ≠ '"' ∧ c ≠ '\\' ∧ quoteCharBy visible c = [c]) ∨
    quoteCharBy visible c = ['\\', 'u', '\x7b'] ++ (hexDigits c.toNat ++ ['\x7d']) := by
  unfold quoteCharBy
  split
  · next isQuote => exact .inl ⟨'"', by decide, by rw [isQuote]; rfl, rfl⟩
  next notQuote =>
  split
  · next isBackslash => exact .inl ⟨'\\', by decide, by rw [isBackslash]; rfl, rfl⟩
  next notBackslash =>
  split
  · next isFeed => exact .inl ⟨'n', by decide, by rw [isFeed]; rfl, rfl⟩
  split
  · next isReturn => exact .inl ⟨'r', by decide, by rw [isReturn]; rfl, rfl⟩
  split
  · next isTab => exact .inl ⟨'t', by decide, by rw [isTab]; rfl, rfl⟩
  split
  · next isNull => exact .inl ⟨'0', by decide, by rw [isNull]; rfl, rfl⟩
  split
  · next seen => exact .inr (.inl ⟨seen, notQuote, notBackslash, rfl⟩)
  · exact .inr (.inr (List.append_assoc ..))

/-! ## The inside of a literal -/

theorem endsEscaping_append {front : List Char} (complete : endsEscaping front = false)
    (back : List Char) : endsEscaping (front ++ back) = endsEscaping back := by
  rw [endsEscaping, List.foldl_append, ← endsEscaping, complete]
  rfl

theorem endsEscaping_of_inert {text : List Char} (inert : ∀ c ∈ text, IsInert c) :
    endsEscaping text = false := by
  induction text with
  | nil => rfl
  | cons c rest ih =>
      have single : endsEscaping [c] = false := by
        simpa [endsEscaping] using (inert c List.mem_cons_self).notBackslash
      rw [← List.singleton_append, endsEscaping_append single]
      exact ih fun d listed => inert d (List.mem_cons_of_mem c listed)

section Quoting

variable {visible : Char → Bool} (hides : HidesControls visible)
include hides

/-- **A character is read back** whatever follows it. -/
theorem readFrom_quoteCharBy (c : Char) (rest : List Char) :
    readFrom .between (quoteCharBy visible c ++ rest) =
      (readFrom .between rest).map (Prod.map (c :: ·) id) := by
  rcases quoteCharBy_cases visible c with ⟨letter, listed, named, written⟩ |
    ⟨seen, notQuote, notBackslash, written⟩ | written
  · have notMark := (escapeLetters_facts listed).1
    rw [written]
    show readFrom .escape (letter :: rest) = _
    rw [readFrom, if_neg notMark, named, Option.bind_some]
  · have other : ∀ mark, isControl mark = true → c ≠ mark := by
      rintro mark control rfl
      rw [hides c seen] at control
      cases control
    have unbroken : ¬ (c = '\n' ∨ c = '\r') :=
      not_or.mpr ⟨other '\n' (by decide), other '\r' (by decide)⟩
    rw [written, List.singleton_append, readFrom, if_neg notQuote, if_neg notBackslash,
      if_neg unbroken]
  · have count : 1 ≤ (hexDigits c.toNat).length ∧ (hexDigits c.toNat).length ≤ 6 ∧
        c.toNat.isValidChar :=
      ⟨Nat.length_toDigits_pos, length_hexDigits_toNat c, c.valid⟩
    rw [written, List.append_assoc, List.append_assoc]
    show readFrom (.digits 0 0) (hexDigits c.toNat ++ '\x7d' :: rest) = _
    rw [readFrom_hexDigits, readFrom, if_pos rfl, if_pos count, Char.ofNat_toNat]

/-- A literal is read back from any of its characters on, up to its closing quote. -/
theorem readFrom_quoted (chars rest : List Char) :
    readFrom .between (chars.flatMap (quoteCharBy visible) ++ '"' :: rest) =
      some (chars, rest) := by
  induction chars with
  | nil => rfl
  | cons c further ih =>
      rw [List.flatMap_cons, List.append_assoc, readFrom_quoteCharBy hides, ih]
      rfl

/-- What is written for a character: a backslash and the character that it escapes, and then, or
else alone, characters that stand for themselves. -/
theorem quoteCharBy_shape (c : Char) :
    (∃ letter tail, quoteCharBy visible c = '\\' :: letter :: tail ∧ isControl letter = false ∧
      ∀ d ∈ tail, IsInert d) ∨
    quoteCharBy visible c = [c] ∧ IsInert c := by
  rcases quoteCharBy_cases visible c with ⟨letter, listed, _, written⟩ |
    ⟨seen, notQuote, notBackslash, written⟩ | written
  · refine .inl ⟨letter, [], written, (escapeLetters_facts listed).2, ?_⟩
    intro d inTail
    cases inTail
  · exact .inr ⟨written, notQuote, notBackslash, hides c seen⟩
  · refine .inl ⟨'u', '\x7b' :: (hexDigits c.toNat ++ ['\x7d']), written, rfl, ?_⟩
    intro d inTail
    rcases List.mem_cons.mp inTail with rfl | further
    · decide
    · rcases List.mem_append.mp further with inDigits | closing
      · obtain ⟨digit, small, rfl⟩ := exists_digit_of_mem inDigits
        exact (digitChar_facts digit small).2.2
      · rw [List.mem_singleton.mp closing]
        decide

/-- No control character is written. -/
theorem isControl_of_mem_quoteCharBy {c d : Char} (listed : d ∈ quoteCharBy visible c) :
    isControl d = false := by
  rcases quoteCharBy_shape hides c with
    ⟨letter, tail, written, notControl, inert⟩ | ⟨written, inert⟩
  · rw [written] at listed
    rcases List.mem_cons.mp listed with rfl | further
    · rfl
    · rcases List.mem_cons.mp further with rfl | inTail
      · exact notControl
      · exact (inert d inTail).notControl
  · rw [written, List.mem_singleton] at listed
    rw [listed]
    exact inert.notControl

/-- No escape is left open after a character. -/
theorem endsEscaping_quoteCharBy (c : Char) : endsEscaping (quoteCharBy visible c) = false := by
  rcases quoteCharBy_shape hides c with ⟨letter, tail, written, _, inert⟩ | ⟨written, inert⟩
  · have complete : endsEscaping ['\\', letter] = false := rfl
    rw [written]
    exact (endsEscaping_append complete tail).trans (endsEscaping_of_inert inert)
  · rw [written]
    refine endsEscaping_of_inert fun d listed => ?_
    rwa [List.mem_singleton.mp listed]

/-- A quote in what is written for a character is escaped. -/
theorem endsEscaping_of_quoteCharBy_eq {c : Char} {front back : List Char}
    (split : quoteCharBy visible c = front ++ '"' :: back) : endsEscaping front = true := by
  rcases quoteCharBy_shape hides c with ⟨letter, tail, written, _, inert⟩ | ⟨written, inert⟩
  · rw [written] at split
    cases front with
    | nil => cases (List.cons.inj split).1
    | cons first further =>
        obtain ⟨rfl, onward⟩ := List.cons.inj split
        cases further with
        | nil => rfl
        | cons second rest =>
            have inTail : '"' ∈ tail := by
              rw [(List.cons.inj onward).2]
              simp
            exact absurd rfl (inert _ inTail).notQuote
  · have listed : '"' ∈ [c] := by
      rw [← written, split]
      simp
    exact absurd (List.mem_singleton.mp listed).symm inert.notQuote

/-- Just the closing quote is not escaped. -/
theorem endsEscaping_iff_inside {chars front back : List Char}
    (split : chars.flatMap (quoteCharBy visible) ++ ['"'] = front ++ '"' :: back) :
    endsEscaping front = true ↔ back ≠ [] := by
  induction chars generalizing front with
  | nil =>
      have short := congrArg List.length split
      simp only [List.flatMap_nil, List.nil_append, List.length_append, List.length_cons,
        List.length_nil] at short
      have noFront : front = [] := List.length_eq_zero_iff.mp (by omega)
      have noBack : back = [] := List.length_eq_zero_iff.mp (by omega)
      rw [noFront, noBack]
      decide
  | cons c rest ih =>
      rw [List.flatMap_cons, List.append_assoc] at split
      rcases List.append_eq_append_iff.mp split with
        ⟨further, beyond, tail⟩ | ⟨further, within, tail⟩
      · -- The quote stands beyond the first character.
        rw [beyond, endsEscaping_append (endsEscaping_quoteCharBy hides c)]
        exact ih tail
      · cases further with
        | nil =>
            rw [List.append_nil] at within
            rw [← within, endsEscaping_quoteCharBy hides]
            have next : rest.flatMap (quoteCharBy visible) ++ ['"'] = [] ++ '"' :: back := tail.symm
            exact ih next
        | cons quote others =>
            obtain ⟨rfl, behind⟩ := List.cons.inj tail
            rw [endsEscaping_of_quoteCharBy_eq hides within, behind]
            simp

/-- **A quoted text is a literal for the text.** -/
theorem quotedBy_isLiteral (value : String) : IsLiteral value (quotedBy visible value) where
  delimited := by
    refine ⟨value.toList.flatMap (quoteCharBy visible), ?_, ?_⟩
    · rw [quotedBy, String.toList_ofList]
      rfl
    · intro front back split
      exact endsEscaping_iff_inside hides split
  visible := by
    intro c listed
    rw [quotedBy, String.toList_ofList] at listed
    rcases List.mem_append.mp listed with opened | closing
    · rcases List.mem_cons.mp opened with rfl | inside
      · rfl
      · obtain ⟨d, _, written⟩ := List.mem_flatMap.mp inside
        exact isControl_of_mem_quoteCharBy hides written
    · rw [List.mem_singleton.mp closing]
      rfl
  readBack := by
    intro rest
    rw [quotedBy, String.toList_ofList, List.append_assoc, List.singleton_append]
    show readFrom .between _ = _
    exact readFrom_quoted hides value.toList rest

/-- Different texts are quoted differently. -/
theorem quotedBy_inj {value other : String} :
    quotedBy visible value = quotedBy visible other ↔ value = other := by
  constructor
  · intro same
    have alsoLiteral := quotedBy_isLiteral hides other
    rw [← same] at alsoLiteral
    exact (quotedBy_isLiteral hides value).value_eq alsoLiteral
  · exact congrArg (quotedBy visible)

end Quoting

/-! ## The characters that are seen -/

theorem isVisible_hidesControls : HidesControls isVisible := by
  intro c seen
  rw [← Bool.not_eq_true]
  intro control
  simp only [isControl, Bool.or_eq_true, Bool.and_eq_true, decide_eq_true_eq] at control
  rw [isVisible] at seen
  split at seen
  · have printable : 0x20 ≤ c.toNat := of_decide_eq_true seen
    omega
  · -- Beyond ASCII the first run of the blanks holds all control characters.
    have blank : inRuns blankRuns c = true := by
      refine List.any_eq_true.mpr ⟨⟨0x7F, 0xA0, 1⟩, List.mem_cons_self, ?_⟩
      simp only [Run.contains, Bool.and_eq_true, decide_eq_true_eq, beq_iff_eq]
      omega
    simp [blank] at seen

theorem quoted_isLiteral (value : String) : IsLiteral value (quoted value) :=
  quotedBy_isLiteral isVisible_hidesControls value

example : quoted "a\"\\\n\x07" = "\"a\\\"\\\\\\n\\u\x7b7\x7d\"" := by decide

theorem quoted_inj {value other : String} : quoted value = quoted other ↔ value = other :=
  quotedBy_inj isVisible_hidesControls

end ContractCompiler.Text
