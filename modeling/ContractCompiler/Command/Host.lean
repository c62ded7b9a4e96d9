import ContractCompiler.Command.Style
import ContractCompiler.Json.Problem

/-!
# What the command needs from its surroundings

The command is written against a `Host`: it finds and reads files, writes a file, and prints. The
command line supplies a host that acts on the real file system; `World` supplies one that acts on
files held in memory.
-/

namespace ContractCompiler.Command

set_option autoImplicit false

/-- The surroundings of the command. -/
structure Host (m : Type → Type) where
  /-- The files below a directory, in any order, each as the names that lead to it; nothing if the
  path is not a directory. -/
  filesBelow : String → m (Option (List (List String)))
  /-- The text of a file, or why it cannot be read. -/
  read : String → m (Except String String)
  /-- Replaces the text of a file, or tells why that cannot be done. -/
  write : String → String → m (Except String Unit)
  /-- Prints to the standard output. -/
  print : String → m Unit
  /-- How long the command has been running, in words. -/
  elapsed : m String
  /-- Whether output is coloured. -/
  colored : Bool
  /-- The wording of a problem with a text. -/
  explain : Json.Problem → String

/-- A failure: what could not be done, and why, each reason followed by the reason for it. -/
structure Trouble where
  what : String
  reasons : List String := []
  deriving DecidableEq, Repr

/-- A failure on one line. -/
def Trouble.inline (trouble : Trouble) : String :=
  ": ".intercalate (trouble.what :: trouble.reasons)

/-- The text with `gap` put after each of its line feeds. -/
def hanging (gap : String) (text : String) : String :=
  String.ofList (text.toList.flatMap fun c => if c = '\n' then c :: gap.toList else [c])

/-- A number flushed right in five columns. -/
def rightFlushed (n : Nat) : String :=
  let digits := Nat.toDigits 10 n
  String.ofList (List.replicate (5 - digits.length) ' ' ++ digits)

/-- The reasons of a failure as a numbered list, beginning with the given number. -/
def numberedReasons (number : Nat) : List String → String
  | [] => ""
  | reason :: rest =>
      "\n" ++ rightFlushed number ++ ": " ++ hanging "       " reason ++
        numberedReasons (number + 1) rest

/-- A failure with its reasons listed below it. Reasons are numbered if there are several. -/
def Trouble.report (trouble : Trouble) : String :=
  trouble.what ++
    match trouble.reasons with
    | [] => ""
    | [reason] => "\n\nCaused by:\n    " ++ hanging "    " reason
    | reasons => "\n\nCaused by:" ++ numberedReasons 0 reasons

/-- How a run of the command ended. -/
structure Ending where
  /-- The exit status. -/
  status : Nat := 0
  /-- What is printed to the standard error output. -/
  complaint : String := ""
  deriving DecidableEq, Repr

/-- A run that ended in failure. -/
def Trouble.ending (trouble : Trouble) : Ending where
  status := 1
  complaint := "Error: " ++ trouble.report ++ "\n"

/-- A step of the command, which may fail. -/
abbrev Act (m : Type → Type) := ExceptT Trouble m

variable {m : Type → Type} [Monad m]

/-- Prints a line. -/
def Host.say (host : Host m) (text : String) : Act m Unit :=
  ExceptT.lift (host.print (text ++ "\n"))

/-- Prints a line in the given style. -/
def Host.saySo (host : Host m) (style : Style) (text : String) : Act m Unit :=
  host.say (style.paint host.colored text)

end ContractCompiler.Command
