import ContractCompiler.Command.Arguments
import ContractCompiler.Command.Host

/-!
# Running the command

* `compile` compiles the syntax trees of one file, or of all files of a directory, and writes the
  generated code to a file or to the standard output once all of them have been compiled.
* `check` compiles them to bindings only and reports every contract that fails.
* `inspect` lists the contracts with their state and their handlers.
-/

namespace ContractCompiler.Command

set_option autoImplicit false

variable {m : Type → Type} [Monad m]

/-! ## Input files -/

/-- Whether the name of a file ends in `.json` and has something before it. -/
def isTreeFile (name : String) : Bool :=
  let suffix := ".json".toList
  name.toList.length > suffix.length && suffix.isSuffixOf name.toList

/-- Whether one file comes before another: directories are walked in the order of names, and what
is below a directory comes where the directory stands. -/
def precedes : List String → List String → Bool
  | [], _ => true
  | _ :: _, [] => false
  | a :: as, b :: bs => if a = b then precedes as bs else a < b

/-- The path of a file below a directory. -/
def pathBelow (directory : String) (names : List String) : String :=
  directory ++ (if directory.toList.getLast? = some '/' then "" else "/") ++ "/".intercalate names

/-- Of the files below a directory, the paths of those that hold syntax trees, in order. -/
def treePaths (directory : String) (files : List (List String)) : List String :=
  ((files.filter fun names => names.getLast?.any isTreeFile).mergeSort precedes).map
    (pathBelow directory)

/-- The input files: the input itself, or all syntax trees below it if it is a directory. -/
def Host.inputs (host : Host m) (input : String) : Act m (List String) := do
  match ← ExceptT.lift (host.filesBelow input) with
  | none => return [input]
  | some files => return treePaths input files

/-- Reads the syntax tree in a file. -/
def Host.load (host : Host m) (path : String) : Act m Program := do
  match ← ExceptT.lift (host.read path) with
  | .error reason => throw { what := "failed to read " ++ path, reasons := [reason] }
  | .ok text =>
      match Program.parse text with
      | .ok program => return program
      | .error problem =>
          throw
            { what := "in " ++ path
              reasons := ["input is not a valid CWScript syntax tree", host.explain problem] }

/-! ## Compiling -/

/-- A line of the given character. -/
def rule (c : Char) (width : Nat) : String :=
  String.ofList (List.replicate width c)

/-- The word for a fallback in the banner. -/
def fallbackWord : Fallback → String
  | .permissive => "Permissive"
  | .strict => "Strict"

/-- Tells what is going to be compiled. -/
def Host.compileBanner (host : Host m) (input : String) (output : Option String)
    (options : Options) : Act m Unit := do
  host.saySo ⟨.brightBlue, true⟩ " CWScript Compiler"
  host.saySo ⟨.brightBlue, false⟩ (rule '=' 50)
  host.say (" Input: " ++ input)
  match output with
  | some path => host.say (" Output: " ++ path)
  | none => pure ()
  host.say (" Fallback: " ++ fallbackWord options.generation.fallback)
  if options.dumpBindings then host.say " Mode: template bindings (JSON)"
  host.say ""

/-- The trouble with a file that does not compile. -/
def compileTrouble (path : String) (fault : Fault) : Trouble where
  what := "failed to compile " ++ path
  reasons := [fault.message, fault.cause.message]

/-- Compiles one file. -/
def Host.compileFile (host : Host m) (options : Options) (verbose : Bool) (path : String) :
    Act m String := do
  if verbose then host.say (" Compiling " ++ path ++ "...")
  let program ← host.load path
  if verbose && program.contracts.isEmpty then
    host.saySo ⟨.yellow, false⟩ "  No contracts found"
  match options.compile program with
  | .ok code => return code
  | .error fault => throw (compileTrouble path fault)

/-- Compiles files in order and joins their code. The first failure ends it. -/
def Host.compileFiles (host : Host m) (options : Options) (verbose : Bool) :
    List String → Act m String
  | [] => return ""
  | path :: rest => do
      let code ← host.compileFile options verbose path
      let others ← host.compileFiles options verbose rest
      return code ++ others

/-- Tells that the code has been written. -/
def Host.compileSummary (host : Host m) (files : Nat) (output : String) : Act m Unit := do
  host.say ""
  host.say (" " ++ Style.paint ⟨.brightGreen, true⟩ host.colored "SUCCESS:" ++
    " Compilation successful!")
  host.say ("   Files: " ++ decimal files)
  let elapsed ← ExceptT.lift host.elapsed
  host.say ("   Time: " ++ elapsed)
  host.say ("   Output: " ++ output)

/-- Puts generated code where it belongs. -/
def Host.deliver (host : Host m) (output : Option String) (verbose : Bool) (files : Nat)
    (code : String) : Act m Unit := do
  match output with
  | none => ExceptT.lift (host.print code)
  | some path =>
      match ← ExceptT.lift (host.write path code) with
      | .error reason => throw { what := "failed to write " ++ path, reasons := [reason] }
      | .ok () => if verbose then host.compileSummary files path

/-- Compiles the input. -/
def Host.compile (host : Host m) (input : String) (output : Option String) (options : Options)
    (verbose : Bool) : Act m Unit := do
  if verbose then host.compileBanner input output options
  let files ← host.inputs input
  if files.isEmpty then host.saySo ⟨.yellow, false⟩ "  No syntax trees found in input"
  else
    let code ← host.compileFiles options verbose files
    host.deliver output verbose files.length code

/-! ## Checking -/

/-- The contracts that fail, with their faults. -/
def faults (results : List (Contract × Compilation String)) : List (String × Fault) :=
  results.filterMap fun (contract, compilation) =>
    match compilation.outcome with
    | .ok _ => none
    | .error fault => some (contract.name, fault)

/-- Tells that a file failed the check. -/
def Host.sayFailed (host : Host m) (path : String) : Act m Unit :=
  host.say (Style.paint ⟨.brightRed, true⟩ host.colored "FAILED" ++ " " ++ path)

/-- Lists the contracts that failed. -/
def Host.sayFaults (host : Host m) : List (String × Fault) → Act m Unit
  | [] => return ()
  | (name, fault) :: rest => do
      host.say ("   " ++ Style.paint ⟨.brightYellow, false⟩ host.colored name ++ ": " ++
        fault.message)
      host.sayFaults rest

/-- Checks one file and tells whether it passed. -/
def Host.checkFile (host : Host m) (fallback : Fallback) (verbose : Bool) (path : String) :
    Act m Bool := do
  match ← ExceptT.lift (host.load path).run with
  | .error trouble =>
      host.sayFailed path
      host.say ("   " ++ trouble.inline)
      return false
  | .ok program =>
      let results := program.compileEach dump fallback
      match faults results with
      | [] =>
          host.say (Style.paint ⟨.brightGreen, true⟩ host.colored "OK" ++ " " ++ path)
          if verbose then host.say ("   Checked " ++ decimal results.length ++ " contract(s)")
          return true
      | found =>
          host.sayFailed path
          host.sayFaults found
          return false

/-- Checks files in order and counts those that fail. -/
def Host.checkFiles (host : Host m) (fallback : Fallback) (verbose : Bool) :
    List String → Act m Nat
  | [] => return 0
  | path :: rest => do
      let passed ← host.checkFile fallback verbose path
      let failed ← host.checkFiles fallback verbose rest
      return if passed then failed else failed + 1

/-- Checks the input. -/
def Host.check (host : Host m) (input : String) (fallback : Fallback) (verbose : Bool) :
    Act m Unit := do
  if verbose then
    host.saySo ⟨.brightCyan, true⟩ " Checking CWScript"
    host.saySo ⟨.brightCyan, false⟩ (rule '=' 50)
    host.say (" Input: " ++ input)
    host.say ""
  let files ← host.inputs input
  let failed ← host.checkFiles fallback verbose files
  if failed > 0 then throw { what := decimal failed ++ " file(s) failed the check" }

/-! ## Inspecting -/

/-- A state declaration as it is listed. -/
def declLine (decl : StateDecl) : String :=
  "    " ++ decl.name ++
    (if decl.isMap then "[" ++ "][".intercalate (decl.keys.map (·.text)) ++ "]" else "") ++
    ": " ++ decl.type.text

/-- A handler of a contract. -/
structure Handler where
  name : String
  params : List Param
  body : List Node

/-- The handler that a node defines. -/
def handlerOf? : Node → Option Handler
  | .exec name params body => some ⟨name, params, body⟩
  | _ => none

/-- A handler as it is listed. -/
def Handler.line (handler : Handler) : String :=
  " exec " ++ handler.name ++ "(" ++
    ", ".intercalate (handler.params.map fun param => param.name ++ ": " ++ param.type.text) ++ ")"

/-- Prints lines in order. -/
def Host.sayAll (host : Host m) : List String → Act m Unit
  | [] => return ()
  | text :: rest => do
      host.say text
      host.sayAll rest

/-- Lists handlers. -/
def Host.listHandlers (host : Host m) (verbose : Bool) : List Handler → Act m Unit
  | [] => return ()
  | handler :: rest => do
      host.say ""
      host.say ("  " ++ Style.paint ⟨.brightYellow, false⟩ host.colored handler.line)
      if verbose then host.say ("     Statements: " ++ decimal handler.body.length)
      host.listHandlers verbose rest

/-- Lists a contract with its state and its handlers. -/
def Host.listContract (host : Host m) (verbose : Bool) (index : Nat) (contract : Contract) :
    Act m Unit := do
  host.saySo ⟨.brightGreen, true⟩ (" Contract " ++ decimal index ++ ": " ++ contract.name)
  host.saySo ⟨.brightGreen, false⟩ (rule '-' 60)
  let decls := stateDecls contract.body
  let handlers := contract.body.filterMap handlerOf?
  host.say ("State: " ++ decimal decls.length)
  host.say ("Handlers: " ++ decimal handlers.length)
  if !decls.isEmpty then
    host.say ""
    host.say "  State:"
    host.sayAll (decls.map declLine)
  host.listHandlers verbose handlers
  host.say ""

/-- Lists contracts, numbered from the given index. -/
def Host.listContracts (host : Host m) (verbose : Bool) (index : Nat) :
    List Contract → Act m Unit
  | [] => return ()
  | contract :: rest => do
      host.listContract verbose index contract
      host.listContracts verbose (index + 1) rest

/-- Lists the contracts of a file. -/
def Host.inspectFile (host : Host m) (verbose : Bool) (path : String) : Act m Unit := do
  let program ← host.load path
  let contracts := program.contracts
  if verbose then host.saySo ⟨.brightCyan, true⟩ path
  if contracts.isEmpty then host.say "  No contracts found"
  else
    host.say (" Found " ++ decimal contracts.length ++ " contract(s)")
    host.say ""
    host.listContracts verbose 0 contracts

/-- Lists the contracts of files in order. -/
def Host.inspectFiles (host : Host m) (verbose : Bool) : List String → Act m Unit
  | [] => return ()
  | path :: rest => do
      host.inspectFile verbose path
      host.inspectFiles verbose rest

/-- Lists the contracts of the input. -/
def Host.inspect (host : Host m) (input : String) (verbose : Bool) : Act m Unit := do
  let files ← host.inputs input
  host.inspectFiles verbose files

/-! ## The command -/

/-- The version of the command. -/
def versionText : String := "cwscript 0.1.0"

/-- How the command is used. -/
def usageText : String :=
  "Usage: cwscript <COMMAND>\n\n" ++
  "Commands:\n" ++
  "  compile [-o FILE] [--strict] [--bindings] [--tabs] [--no-header] [-v] INPUT\n" ++
  "  check [--strict] [-v] INPUT\n" ++
  "  inspect [-v] INPUT\n"

/-- Carries out a request. -/
def Host.act (host : Host m) : Request → Act m Unit
  | .compile input output options verbose => host.compile input output options verbose
  | .check input fallback verbose => host.check input fallback verbose
  | .inspect input verbose => host.inspect input verbose
  | .version => host.say versionText
  | .help => ExceptT.lift (host.print usageText)

/-- Runs the command. -/
def Host.run (host : Host m) (arguments : List String) : m Ending := do
  match Request.ofArguments? arguments with
  | none => return { status := 2, complaint := usageText }
  | some request =>
      match ← (host.act request).run with
      | .ok () => return {}
      | .error trouble => return trouble.ending

end ContractCompiler.Command
