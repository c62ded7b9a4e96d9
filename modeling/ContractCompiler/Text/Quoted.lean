import ContractCompiler.Text.Visible

/-!
# Quoted text

The form in which a string literal stands in generated code and in diagnostics: between double
quotes, on one line. A quote and a backslash are preceded by a backslash, a single quote is not;
line feed, carriage return, tab and NUL have short names; every other character that cannot be
seen standing alone is written as its code point in hexadecimal, between braces.
-/

namespace ContractCompiler.Text

set_option autoImplicit false

/-- The hexadecimal digits of a number, lower-case and without leading zeros. -/
def hexDigits (n : Nat) : List Char :=
  Nat.toDigits 16 n

/-- One character inside a quoted text, where `visible` tells which characters can be seen. -/
def quoteCharBy (visible : Char → Bool) (c : Char) : List Char :=
  if c = '"' then ['\\', '"']
  else if c = '\\' then ['\\', '\\']
  else if c = '\n' then ['\\', 'n']
  else if c = '\r' then ['\\', 'r']
  else if c = '\t' then ['\\', 't']
  else if c = Char.ofNat 0 then ['\\', '0']
  else if visible c then [c]
  else ['\\', 'u', '\x7b'] ++ hexDigits c.toNat ++ ['\x7d']

/-- A text between double quotes, where `visible` tells which characters can be seen. -/
def quotedBy (visible : Char → Bool) (text : String) : String :=
  String.ofList ('"' :: text.toList.flatMap (quoteCharBy visible) ++ ['"'])

/-- A text between double quotes. -/
def quoted (text : String) : String :=
  quotedBy isVisible text

end ContractCompiler.Text
