/-!
# What can be wrong with a document

Reading a value from a JSON text stops at the first thing that is wrong. Three kinds of flaw can be
named to the author of the text: a field is missing, a field is given twice, or a word is not among
those allowed. Everything else, from a stray comma to a number in the place of a text, only makes
the text malformed.
-/

namespace ContractCompiler.Json

set_option autoImplicit false

/-- The first thing that is wrong with a text. -/
inductive Problem where
  | malformed
  | missing (field : String)
  | duplicate (field : String)
  | unknownVariant (found : String) (expected : List String)
  deriving DecidableEq, Repr

/-- A word between backticks. -/
def ticked (word : String) : String :=
  "`" ++ word ++ "`"

/-- The words among which one had to be chosen. -/
def choiceText : List String → String
  | [only] => ticked only
  | [first, second] => ticked first ++ " or " ++ ticked second
  | words => "one of " ++ ", ".intercalate (words.map ticked)

/-- The wording of a problem that can be named. -/
def Problem.detail? : Problem → Option String
  | .malformed => none
  | .missing field => some ("missing field " ++ ticked field)
  | .duplicate field => some ("duplicate field " ++ ticked field)
  | .unknownVariant found expected =>
      some ("unknown variant " ++ ticked found ++ ", expected " ++ choiceText expected)

/-- The wording of any problem. -/
def Problem.message (problem : Problem) : String :=
  problem.detail?.getD "malformed document"

end ContractCompiler.Json
