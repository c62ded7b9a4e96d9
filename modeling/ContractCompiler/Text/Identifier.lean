import ContractCompiler.Text.Letter
import ContractCompiler.Text.CaseMap

/-!
# Identifiers of generated code

The names of a contract reappear in generated code as words joined by underscores: in small letters
for modules and functions, in capitals for constants. A capital letter begins a new word if a small
letter or a digit stands directly before it. Verification uses the same conversions, so that it
finds the names that become alike.
-/

namespace ContractCompiler.Text

set_option autoImplicit false

/-- What a change of case goes by: which characters are capital and which are small letters, and the
small and the capital form of a character. -/
structure Casing where
  isUpper : Char → Bool
  isLower : Char → Bool
  toLower : Char → List Char
  toUpper : Char → List Char

namespace Casing

/-- The casing of all letters. -/
def unicode : Casing where
  isUpper := isUppercase
  isLower := isLowercase
  toLower := lowercase
  toUpper := uppercase

/-- The words of a name in small letters. `wordEnd` tells whether the character before is one that
a capital letter may begin a new word after. -/
def snakeFrom (casing : Casing) (wordEnd : Bool) : List Char → List Char
  | [] => []
  | c :: rest =>
      if casing.isUpper c then
        (if wordEnd then ['_'] else []) ++ casing.toLower c ++ casing.snakeFrom false rest
      else c :: casing.snakeFrom (casing.isLower c || c.isDigit) rest

/-- A name in small letters. -/
def snakeCase (casing : Casing) (name : String) : String :=
  String.ofList (casing.snakeFrom false name.toList)

/-- A name in capitals. -/
def screamingCase (casing : Casing) (name : String) : String :=
  String.ofList ((casing.snakeCase name).toList.flatMap casing.toUpper)

end Casing

/-- A name in small letters, such as `balance_of`. -/
def snakeCase (name : String) : String :=
  Casing.unicode.snakeCase name

/-- A name in capitals, such as `BALANCE_OF`. -/
def screamingCase (name : String) : String :=
  Casing.unicode.screamingCase name

end ContractCompiler.Text
