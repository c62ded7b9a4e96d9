import ContractCompiler.Options

/-!
# Command-line arguments

The command has three subcommands, each with one operand and a few options. Options may stand before
or after the operand; `--` ends them. The value of an option follows it as the next argument, after
an equals sign, or, for an option of one letter, directly. Letters may be joined after one dash. No
option may be given twice and no value may be empty.
-/

namespace ContractCompiler.Command

set_option autoImplicit false

/-- What the command is asked to do. -/
inductive Request where
  | compile (input : String) (output : Option String) (options : Options) (verbose : Bool)
  | check (input : String) (fallback : Fallback) (verbose : Bool)
  | inspect (input : String) (verbose : Bool)
  | version
  | help
  deriving DecidableEq, Repr

/-- Why arguments do not amount to a run of a subcommand. -/
inductive Refusal where
  /-- They ask for help. -/
  | help
  /-- They make no sense. -/
  | misuse
  deriving DecidableEq, Repr

/-- The options of a subcommand: long names, with the letter of those that have one. -/
structure Grammar where
  /-- Options that stand for themselves. -/
  switches : List (String × Option Char)
  /-- Options that take a value. -/
  valued : List (String × Option Char)

/-- What has been met among the arguments. -/
structure Given where
  operand : Option String := none
  switches : List String := []
  values : List (String × String) := []

/-- Takes in the operand. -/
def Given.addOperand (given : Given) (text : String) : Except Refusal Given :=
  if given.operand.isSome || text = "" then .error .misuse
  else .ok { given with operand := some text }

/-- Takes in a switch. -/
def Given.addSwitch (given : Given) (name : String) : Except Refusal Given :=
  if given.switches.contains name then .error .misuse
  else .ok { given with switches := name :: given.switches }

/-- Takes in an option with its value. -/
def Given.addValue (given : Given) (name value : String) : Except Refusal Given :=
  if (given.values.lookup name).isSome || value = "" then .error .misuse
  else .ok { given with values := (name, value) :: given.values }

/-- Whether an argument looks like an option. A single dash does not. -/
def looksLikeOption (argument : String) : Bool :=
  match argument.toList with
  | '-' :: _ :: _ => true
  | _ => false

/-- The long name of the option that has the given letter. -/
def nameOfLetter? (options : List (String × Option Char)) (letter : Char) : Option String :=
  (options.find? (·.2 = some letter)).map (·.1)

/-- Splits an option at its first equals sign. -/
def splitValue (text : List Char) : String × Option String :=
  let name := String.ofList (text.takeWhile (· ≠ '='))
  match text.dropWhile (· ≠ '=') with
  | [] => (name, none)
  | _ :: value => (name, some (String.ofList value))

/-- What an argument with options comes to: done, or waiting for the value of an option. -/
inductive Step where
  | done (given : Given)
  | awaiting (given : Given) (name : String)

/-- Reads an option given by its long name. -/
def Grammar.long (grammar : Grammar) (given : Given) (text : List Char) : Except Refusal Step :=
  match splitValue text with
  | (name, none) =>
      if name = "help" then .error .help
      else if (grammar.switches.lookup name).isSome then (given.addSwitch name).map .done
      else if (grammar.valued.lookup name).isSome then .ok (.awaiting given name)
      else .error .misuse
  | (name, some value) =>
      if (grammar.valued.lookup name).isSome then (given.addValue name value).map .done
      else .error .misuse

/-- Reads options given by their letters. -/
def Grammar.letters (grammar : Grammar) (given : Given) : List Char → Except Refusal Step
  | [] => .ok (.done given)
  | letter :: rest =>
      match nameOfLetter? grammar.switches letter, nameOfLetter? grammar.valued letter with
      | some name, _ => do
          let given ← given.addSwitch name
          grammar.letters given rest
      | none, some name =>
          match rest with
          | [] => .ok (.awaiting given name)
          | '=' :: value => (given.addValue name (String.ofList value)).map .done
          | value => (given.addValue name (String.ofList value)).map .done
      | none, none => .error (if letter = 'h' then .help else .misuse)

/-- Reads one argument in a place where options are allowed. -/
def Grammar.argument (grammar : Grammar) (given : Given) (argument : String) :
    Except Refusal Step :=
  match argument.toList with
  | '-' :: '-' :: name => grammar.long given name
  | '-' :: letter :: more => grammar.letters given (letter :: more)
  | _ => (given.addOperand argument).map .done

/-- Reads the arguments of a subcommand. -/
def Grammar.read (grammar : Grammar) (given : Given) : List String → Except Refusal Given
  | [] => .ok given
  | "--" :: operands => operands.foldlM Given.addOperand given
  | argument :: rest => do
      match ← grammar.argument given argument with
      | .done given => grammar.read given rest
      | .awaiting given name =>
          match rest with
          | [] => throw .misuse
          | value :: rest =>
              if looksLikeOption value then throw .misuse
              else do
                let given ← given.addValue name value
                grammar.read given rest

/-- The switch for telling what is done. -/
def verboseSwitch : String × Option Char := ("verbose", some 'v')

/-- The options of compiling. -/
def compileGrammar : Grammar where
  switches := [("strict", none), ("bindings", none), ("tabs", none), ("no-header", none),
    verboseSwitch]
  valued := [("output", some 'o')]

/-- The options of checking. -/
def checkGrammar : Grammar where
  switches := [("strict", none), verboseSwitch]
  valued := []

/-- The options of inspecting. -/
def inspectGrammar : Grammar where
  switches := [verboseSwitch]
  valued := []

/-- Whether a switch was given. -/
def Given.has (given : Given) (name : String) : Bool :=
  given.switches.contains name

/-- The fallback that was asked for. -/
def Given.fallback (given : Given) : Fallback :=
  if given.has "strict" then .strict else .permissive

/-- The options of a compilation that were asked for. -/
def Given.options (given : Given) : Options where
  generation := { fallback := given.fallback }
  layout :=
    { indentStyle := if given.has "tabs" then .tabs else .spaces 4
      header := !given.has "no-header" }
  dumpBindings := given.has "bindings"

/-- Reads the arguments of a subcommand and makes a request of them and the operand. -/
def Grammar.request (grammar : Grammar) (arguments : List String)
    (make : Given → String → Request) : Except Refusal Request := do
  let given ← grammar.read {} arguments
  match given.operand with
  | none => throw .misuse
  | some input => return make given input

/-- The names of the subcommands. -/
def subcommands : List String :=
  ["compile", "check", "inspect"]

/-- Reads the arguments that follow the name of a subcommand. -/
def readSubcommand (name : String) (arguments : List String) : Except Refusal Request :=
  if name = "compile" then
    compileGrammar.request arguments fun given input =>
      .compile input (given.values.lookup "output") given.options (given.has "verbose")
  else if name = "check" then
    checkGrammar.request arguments fun given input =>
      .check input given.fallback (given.has "verbose")
  else if name = "inspect" then
    inspectGrammar.request arguments fun given input => .inspect input (given.has "verbose")
  else .error .misuse

/-- Reads all arguments of the command. Nothing is returned if they make no sense. -/
def Request.ofArguments? : List String → Option Request
  | [] => none
  | "--version" :: _ => some .version
  | "--help" :: _ => some .help
  | ["help"] => some .help
  | ["help", name] => if subcommands.contains name || name = "help" then some .help else none
  | first :: arguments =>
      match first.toList with
      | '-' :: 'V' :: _ => some .version
      | '-' :: 'h' :: _ => some .help
      | _ =>
          match readSubcommand first arguments with
          | .ok request => some request
          | .error .help => some .help
          | .error .misuse => none

end ContractCompiler.Command
