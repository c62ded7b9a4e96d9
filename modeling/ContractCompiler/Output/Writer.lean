import ContractCompiler.Output.Indent
import ContractCompiler.Text.Lines

/-!
# Writing generated code

A writer adds lines at its current indentation. Text that was generated on its own, and therefore
starts at the margin, is embedded line by line and so moves to the current indentation. Empty lines
are never indented.

`Writing` is for writers that may give up half way. What was written by then stays, and so does the
indentation.
-/

namespace ContractCompiler

set_option autoImplicit false

/-- The text so far, and the indentation of the next line. -/
structure Writer where
  text : String := ""
  indentation : Indentation

namespace Writer

/-- Nothing written yet, in the given style. -/
def ofStyle (style : IndentStyle) : Writer :=
  { indentation := .ofStyle style }

/-- Adds a line. -/
def line (writer : Writer) (content : String) : Writer :=
  if content = "" then { writer with text := writer.text ++ "\n" }
  else { writer with text := writer.text ++ writer.indentation.text ++ content ++ "\n" }

/-- Adds an empty line. -/
def blank (writer : Writer) : Writer :=
  { writer with text := writer.text ++ "\n" }

/-- Adds every line of a text. -/
def embed (writer : Writer) (content : String) : Writer :=
  (Text.lines content).foldl line writer

/-- Goes one level deeper. -/
def indent (writer : Writer) : Writer :=
  { writer with indentation := writer.indentation.deeper }

/-- Comes back from the last level. -/
def dedent (writer : Writer) : Writer :=
  { writer with indentation := writer.indentation.shallower }

/-- Writes one level deeper. -/
def indented (writer : Writer) (body : Writer → Writer) : Writer :=
  (body writer.indent).dedent

/-- The first line of a block. -/
def openBlock (writer : Writer) (header : String) : Writer :=
  writer.line (header ++ " \x7b")

/-- The last line of a block. -/
def closeBlock (writer : Writer) : Writer :=
  writer.line "\x7d"

/-- Writes a block: a header that opens a brace, the body one level deeper, and the closing
brace. -/
def block (writer : Writer) (header : String) (body : Writer → Writer) : Writer :=
  ((writer.openBlock header).indented body).closeBlock

end Writer

/-- A computation that writes and may give up; what it has written stays. -/
abbrev Writing (ε : Type) := EStateM ε Writer

/-- Writes a block whose body may give up. -/
def Writing.block {ε : Type} (header : String) (body : Writing ε Unit) : Writing ε Unit := do
  modify fun writer => (writer.openBlock header).indent
  body
  modify fun writer => writer.dedent.closeBlock

end ContractCompiler
