/-!
# Lines of a text

A text is a sequence of lines, each ended by a line feed; the last one may lack its line feed. A
carriage return directly before a line feed belongs to the line ending. A text that ends in a line
feed has no further, empty line after it, and the empty text has no lines.
-/

namespace ContractCompiler.Text

set_option autoImplicit false

/-- A line that a line feed ended, without the carriage return that may stand before it. -/
def chomp (line : List Char) : List Char :=
  if line.getLast? = some '\r' then line.dropLast else line

/-- The lines of a text, given in reverse the part of the current line already read. -/
def linesFrom (current : List Char) : List Char → List (List Char)
  | [] => if current.isEmpty then [] else [current.reverse]
  | c :: rest =>
      if c = '\n' then chomp current.reverse :: linesFrom [] rest
      else linesFrom (c :: current) rest

/-- The lines of a text without their endings. -/
def lines (text : String) : List String :=
  (linesFrom [] text.toList).map String.ofList

end ContractCompiler.Text
