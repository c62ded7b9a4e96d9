/-!
# Tokens of a JSON text

A JSON text is a sequence of tokens with blanks between them. `Token.text` writes a token and
`tokens` splits a text into its tokens. Splitting never gives up silently: where the text is not
lexically well-formed the list ends in `Token.bad`, and the tokens before it are those that stand
before the flaw.

A string may spell a character as a pair of surrogate escapes. A surrogate without its partner
spells no character at all; such a string is still a token, but one without a text.
-/

namespace ContractCompiler.Json

set_option autoImplicit false

/-- A token of a JSON text. -/
inductive Token where
  | openBrace
  | closeBrace
  | openBracket
  | closeBracket
  | colon
  | comma
  | null
  | bool (value : Bool)
  /-- A number, as it is spelled. -/
  | num (literal : String)
  /-- A string; without a text if it holds an unpaired surrogate. -/
  | str (text : Option String)
  /-- The place at which the text stops being well-formed. -/
  | bad
  deriving DecidableEq, Repr

/-! ## Writing -/

/-- The digit of a value below sixteen. -/
def hexDigit (n : Nat) : Char :=
  if n < 10 then Char.ofNat (n + '0'.toNat) else Char.ofNat (n - 10 + 'a'.toNat)

/-- One character inside a written string. Only the quote, the backslash and the control
characters below the space are escaped. -/
def escapeChar (c : Char) : List Char :=
  if c = '"' then ['\\', '"']
  else if c = '\\' then ['\\', '\\']
  else if c = '\n' then ['\\', 'n']
  else if c = '\r' then ['\\', 'r']
  else if c = '\t' then ['\\', 't']
  else if c = '\x08' then ['\\', 'b']
  else if c = '\x0c' then ['\\', 'f']
  else if c.toNat < 0x20 then ['\\', 'u', '0', '0', hexDigit (c.toNat / 16), hexDigit (c.toNat % 16)]
  else [c]

/-- A string between its quotes. -/
def escaped (text : String) : List Char :=
  '"' :: text.toList.flatMap escapeChar ++ ['"']

/-- The spelling of a token. A string without a text and a flaw have none. -/
def Token.text : Token → List Char
  | .openBrace => ['\x7b']
  | .closeBrace => ['\x7d']
  | .openBracket => ['[']
  | .closeBracket => [']']
  | .colon => [':']
  | .comma => [',']
  | .null => "null".toList
  | .bool true => "true".toList
  | .bool false => "false".toList
  | .num literal => literal.toList
  | .str (some text) => escaped text
  | .str none => []
  | .bad => []

/-! ## Splitting -/

/-- The blanks that may stand between tokens. -/
def isBlank (c : Char) : Bool :=
  c == ' ' || c == '\t' || c == '\n' || c == '\r'

/-- The value of a hexadecimal digit of either case. -/
def hexValue? (c : Char) : Option Nat :=
  if '0' ≤ c ∧ c ≤ '9' then some (c.toNat - '0'.toNat)
  else if 'a' ≤ c ∧ c ≤ 'f' then some (c.toNat - 'a'.toNat + 10)
  else if 'A' ≤ c ∧ c ≤ 'F' then some (c.toNat - 'A'.toNat + 10)
  else none

/-- How far a number has been read. -/
inductive NumberPart where
  /-- After the minus sign: a digit must follow. -/
  | sign
  /-- After a leading zero, which no digit may follow. -/
  | zero
  /-- Among the digits before the point. -/
  | whole
  /-- After the point: a digit must follow. -/
  | point
  /-- Among the digits after the point. -/
  | fraction
  /-- After the exponent mark: a sign or a digit must follow. -/
  | mark
  /-- After the sign of the exponent: a digit must follow. -/
  | markSign
  /-- Among the digits of the exponent. -/
  | exponent
  deriving DecidableEq, Repr

/-- Whether a number may end here. -/
def NumberPart.complete : NumberPart → Bool
  | .zero | .whole | .fraction | .exponent => true
  | .sign | .point | .mark | .markSign => false

/-- The part in which a number goes on with the given character, if it does. -/
def NumberPart.next? (part : NumberPart) (c : Char) : Option NumberPart :=
  match part with
  | .sign => if c = '0' then some .zero else if c.isDigit then some .whole else none
  | .zero =>
      if c = '.' then some .point else if c = 'e' ∨ c = 'E' then some .mark else none
  | .whole =>
      if c.isDigit then some .whole
      else if c = '.' then some .point
      else if c = 'e' ∨ c = 'E' then some .mark
      else none
  | .point => if c.isDigit then some .fraction else none
  | .fraction =>
      if c.isDigit then some .fraction else if c = 'e' ∨ c = 'E' then some .mark else none
  | .mark =>
      if c = '+' ∨ c = '-' then some .markSign else if c.isDigit then some .exponent else none
  | .markSign => if c.isDigit then some .exponent else none
  | .exponent => if c.isDigit then some .exponent else none

/-- A string of which the opening quote has been read. -/
structure OpenString where
  /-- The characters so far, last one first. -/
  read : List Char := []
  /-- A leading surrogate that waits for its partner. -/
  lead : Option Nat := none
  /-- Whether every surrogate so far has found its partner. -/
  paired : Bool := true

/-- Adds a character that stands for itself. -/
def OpenString.push (s : OpenString) (c : Char) : OpenString :=
  { read := c :: s.read, lead := none, paired := s.paired && s.lead.isNone }

/-- Adds the sixteen-bit unit of a numeric escape. -/
def OpenString.pushUnit (s : OpenString) (unit : Nat) : OpenString :=
  if 0xDC00 ≤ unit ∧ unit ≤ 0xDFFF then
    match s.lead with
    | some lead =>
        { s with
          read := Char.ofNat (0x10000 + (lead - 0xD800) * 0x400 + (unit - 0xDC00)) :: s.read
          lead := none }
    | none => { s with paired := false }
  else if 0xD800 ≤ unit ∧ unit ≤ 0xDBFF then
    { s with lead := some unit, paired := s.paired && s.lead.isNone }
  else s.push (Char.ofNat unit)

/-- The token of a string whose closing quote has been read. -/
def OpenString.close (s : OpenString) : Token :=
  .str (if s.paired && s.lead.isNone then some (String.ofList s.read.reverse) else none)

/-- The character that a one-letter escape stands for. -/
def namedEscape? (c : Char) : Option Char :=
  if c = '"' ∨ c = '\\' ∨ c = '/' then some c
  else if c = 'b' then some '\x08'
  else if c = 'f' then some '\x0c'
  else if c = 'n' then some '\n'
  else if c = 'r' then some '\r'
  else if c = 't' then some '\t'
  else none

/-- What the splitter is in the middle of. -/
inductive Within where
  /-- Between two tokens. -/
  | blanks
  /-- In a word of which these letters are still to come. -/
  | word (left : List Char) (token : Token)
  /-- In a number, whose characters stand here last one first. -/
  | number (part : NumberPart) (read : List Char)
  /-- In a string. -/
  | string (s : OpenString)
  /-- After a backslash in a string. -/
  | escape (s : OpenString)
  /-- In a numeric escape: digits still to come and the value of those read. -/
  | unit (s : OpenString) (left : Nat) (value : Nat)
  /-- After a flaw; nothing is read any more. -/
  | flaw

/-- The state of the splitter: where it stands, and its tokens, last one first. -/
structure Splitter where
  within : Within := .blanks
  out : List Token := []

/-- Ends the tokens at a flaw. -/
def Splitter.fail (s : Splitter) : Splitter :=
  { within := .flaw, out := .bad :: s.out }

/-- Adds a finished token. -/
def Splitter.emit (s : Splitter) (token : Token) : Splitter :=
  { within := .blanks, out := token :: s.out }

/-- Reads a character between two tokens. -/
def Splitter.start (s : Splitter) (c : Char) : Splitter :=
  if isBlank c then { s with within := .blanks }
  else if c = '\x7b' then s.emit .openBrace
  else if c = '\x7d' then s.emit .closeBrace
  else if c = '[' then s.emit .openBracket
  else if c = ']' then s.emit .closeBracket
  else if c = ':' then s.emit .colon
  else if c = ',' then s.emit .comma
  else if c = '"' then { s with within := .string {} }
  else if c = 'n' then { s with within := .word ['u', 'l', 'l'] .null }
  else if c = 't' then { s with within := .word ['r', 'u', 'e'] (.bool true) }
  else if c = 'f' then { s with within := .word ['a', 'l', 's', 'e'] (.bool false) }
  else if c = '-' then { s with within := .number .sign [c] }
  else if c = '0' then { s with within := .number .zero [c] }
  else if c.isDigit then { s with within := .number .whole [c] }
  else s.fail

/-- The token of a number whose characters stand here last one first. -/
def numberToken (read : List Char) : Token :=
  .num (String.ofList read.reverse)

/-- Reads one character. -/
def Splitter.step (s : Splitter) (c : Char) : Splitter :=
  match s.within with
  | .blanks => s.start c
  | .word left token =>
      match left with
      | [] => s.fail
      | [last] => if c = last then s.emit token else s.fail
      | first :: more => if c = first then { s with within := .word more token } else s.fail
  | .number part read =>
      match part.next? c with
      | some part => { s with within := .number part (c :: read) }
      | none => if part.complete then (s.emit (numberToken read)).start c else s.fail
  | .string str =>
      if c = '"' then s.emit str.close
      else if c = '\\' then { s with within := .escape str }
      else if c.toNat < 0x20 then s.fail
      else { s with within := .string (str.push c) }
  | .escape str =>
      if c = 'u' then { s with within := .unit str 4 0 }
      else
        match namedEscape? c with
        | some c => { s with within := .string (str.push c) }
        | none => s.fail
  | .unit str left value =>
      match hexValue? c with
      | none => s.fail
      | some digit =>
          let value := value * 16 + digit
          if left ≤ 1 then { s with within := .string (str.pushUnit value) }
          else { s with within := .unit str (left - 1) value }
  | .flaw => s

/-- The end of the text: a number may end here, a word or a string may not. -/
def Splitter.finish (s : Splitter) : List Token :=
  match s.within with
  | .blanks | .flaw => s.out.reverse
  | .number part read => if part.complete then (s.emit (numberToken read)).out.reverse
      else s.fail.out.reverse
  | .word .. | .string .. | .escape .. | .unit .. => s.fail.out.reverse

/-- The tokens of a text, ending in `Token.bad` if the text is flawed. -/
def tokens (text : List Char) : List Token :=
  (text.foldl Splitter.step {}).finish

end ContractCompiler.Json
