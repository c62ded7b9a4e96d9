/-!
# Indentation

Generated code is indented by a unit for every block that is open, either one tab or a fixed number
of spaces, which may be zero.
-/

namespace ContractCompiler

set_option autoImplicit false

/-- How a block is indented. -/
inductive IndentStyle where
  | spaces (count : Nat)
  | tabs
  deriving DecidableEq, Repr

/-- One unit of indentation. -/
def IndentStyle.unit : IndentStyle → String
  | .spaces count => String.ofList (List.replicate count ' ')
  | .tabs => "\t"

/-- An indentation: its unit and how many units deep it is. -/
structure Indentation where
  unit : String
  level : Nat := 0
  deriving DecidableEq, Repr

namespace Indentation

/-- No indentation, in the given style. -/
def ofStyle (style : IndentStyle) : Indentation :=
  { unit := style.unit }

/-- One level deeper. -/
def deeper (indentation : Indentation) : Indentation :=
  { indentation with level := indentation.level + 1 }

/-- One level less deep; the outermost level stays. -/
def shallower (indentation : Indentation) : Indentation :=
  { indentation with level := indentation.level - 1 }

/-- The blanks at the start of a line. -/
def text (indentation : Indentation) : String :=
  String.join (List.replicate indentation.level indentation.unit)

end Indentation

end ContractCompiler
