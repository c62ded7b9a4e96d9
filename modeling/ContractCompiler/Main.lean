import ContractCompiler.Command.Run

/-!
# The command line

Runs the command on the real file system.
-/

open ContractCompiler.Command

namespace ContractCompiler.Main

set_option autoImplicit false

/-- The wording of a failed access to a file. -/
def wording : IO.Error → String
  | .noFileOrDirectory .. => "No such file or directory (os error 2)"
  | error => toString error

/-- Tries an access to a file. -/
def attempt {α : Type} (action : IO α) : IO (Except String α) :=
  try
    return .ok (← action)
  catch error =>
    return .error (wording error)

/-- A duration with three places after the point. -/
def seconds (milliseconds : Nat) : String :=
  let places := decimal (milliseconds % 1000 + 1000)
  decimal (milliseconds / 1000) ++ "." ++ String.ofList (places.toList.drop 1) ++ "s"

/-- The files below a directory. -/
partial def filesBelow (path : String) : IO (List (List String)) := do
  let entries ← ((← IO.currentDir) / path).readDir
  let mut found := []
  for entry in entries do
    let below := path ++ "/" ++ entry.fileName
    if ← entry.path.isDir then
      found := found ++ (← filesBelow below).map (entry.fileName :: ·)
    else
      found := found ++ [[entry.fileName]]
  return found

/-- The host that acts on the real file system. -/
def host (colored : Bool) (start : Nat) : Host IO where
  filesBelow path := do
    if ← ((← IO.currentDir) / path).isDir then return some (← filesBelow path) else return none
  read path := attempt (IO.FS.readFile path)
  write path text := attempt (IO.FS.writeFile path text)
  print text := do (← IO.getStdout).putStr text
  elapsed := do return seconds ((← IO.monoMsNow) - start)
  colored
  explain problem := problem.message

end ContractCompiler.Main

/-- Runs the command with the given arguments. -/
def main (arguments : List String) : IO UInt32 := do
  let start ← IO.monoMsNow
  let forced ← IO.getEnv "CLICOLOR_FORCE"
  let colored := forced.any (· ≠ "0") || (← (← IO.getStdout).isTty)
  let ending ← (ContractCompiler.Main.host colored start).run arguments
  (← IO.getStderr).putStr ending.complaint
  return ending.status.toUInt32
