/-!
# Coloured output

On a terminal, some of the command's output is coloured. A coloured text stands between a sequence
that switches its style on and one that switches all styles off; if the text itself holds the
latter, the style is switched on again after it.
-/

namespace ContractCompiler.Command

set_option autoImplicit false

/-- The colours in use. -/
inductive Color where
  | yellow
  | brightRed
  | brightGreen
  | brightYellow
  | brightBlue
  | brightCyan
  deriving DecidableEq, Repr

/-- The code of a colour. -/
def Color.code : Color → String
  | .yellow => "33"
  | .brightRed => "91"
  | .brightGreen => "92"
  | .brightYellow => "93"
  | .brightBlue => "94"
  | .brightCyan => "96"

/-- A colour, in bold or not. -/
structure Style where
  color : Color
  bold : Bool := false
  deriving DecidableEq, Repr

/-- The sequence that switches all styles off. -/
def styleOff : List Char :=
  ['\x1b', '[', '0', 'm']

/-- The sequence that switches a style on. -/
def Style.on (style : Style) : List Char :=
  ['\x1b', '['] ++ (if style.bold then ['1', ';'] else []) ++ style.color.code.toList ++ ['m']

/-- A text in which the style is switched on again wherever it is switched off. -/
def restyled (on : List Char) : List Char → List Char
  | '\x1b' :: '[' :: '0' :: 'm' :: rest => styleOff ++ on ++ restyled on rest
  | c :: rest => c :: restyled on rest
  | [] => []

/-- A text in the given style, if colours are wanted. -/
def Style.paint (style : Style) (colored : Bool) (text : String) : String :=
  if colored then String.ofList (style.on ++ restyled style.on text.toList ++ styleOff) else text

end ContractCompiler.Command
