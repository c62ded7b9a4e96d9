import ContractCompiler.Command.Run

/-!
# Files in memory

A `World` holds a directory tree and what has been printed. `World.host` lets the command run in
it. Paths are resolved name by name from the root of the tree, which is also the directory that the
command runs in.
-/

namespace ContractCompiler.Command

set_option autoImplicit false

/-- A file or a directory. -/
inductive Entry where
  | file (text : String)
  | directory (entries : List (String × Entry))

/-- Why a path leads nowhere. -/
inductive PathError where
  | notFound
  | notDirectory
  | isDirectory
  deriving DecidableEq, Repr

/-- The wording of a path error. -/
def PathError.message : PathError → String
  | .notFound => "No such file or directory (os error 2)"
  | .notDirectory => "Not a directory (os error 20)"
  | .isDirectory => "Is a directory (os error 21)"

/-- The names of a path. A doubled or final slash leaves an empty name. -/
def pathNames (path : String) : List String :=
  go [] path.toList
where
  /-- The names, given in reverse the part of the current name already read. -/
  go (current : List Char) : List Char → List String
    | [] => [String.ofList current.reverse]
    | c :: rest =>
        if c = '/' then String.ofList current.reverse :: go [] rest else go (c :: current) rest

/-- The names of a path within the tree. The empty path and paths that begin with a slash lead
nowhere. -/
def relativeNames (path : String) : Except PathError (List String) :=
  match path.toList with
  | [] | '/' :: _ => .error .notFound
  | _ => .ok (pathNames path)

/-- Where a path leads, as the names from the root. -/
abbrev Location := List String

/-- The entry of the given name. -/
def Entry.child? : Entry → String → Option Entry
  | .directory entries, name => entries.lookup name
  | .file _, _ => none

/-- The entry at a location. -/
def Entry.at? (entry : Entry) : Location → Option Entry
  | [] => some entry
  | name :: rest => (entry.child? name).bind (·.at? rest)

/-- Follows names from a location, which must be a directory for each of them. -/
def Entry.follow (root : Entry) (location : Location) : List String → Except PathError Location
  | [] => .ok location
  | name :: rest =>
      match root.at? location with
      | none => .error .notFound
      | some (.file _) => .error .notDirectory
      | some (.directory entries) =>
          if name = "" ∨ name = "." then root.follow location rest
          else if name = ".." then root.follow location.dropLast rest
          else if (entries.lookup name).isSome then root.follow (location ++ [name]) rest
          else .error .notFound

/-- Resolves a path. What lies outside of the tree is not found. -/
def Entry.resolve (root : Entry) (path : String) : Except PathError Entry := do
  let names ← relativeNames path
  let location ← root.follow [] names
  match root.at? location with
  | some entry => return entry
  | none => throw .notFound

mutual

/-- The files below an entry, each as the names that lead to it. -/
def Entry.files : Entry → List (List String)
  | .file _ => [[]]
  | .directory entries => Entry.filesOf entries

/-- The files below the entries of a directory. -/
def Entry.filesOf : List (String × Entry) → List (List String)
  | [] => []
  | (name, entry) :: rest => (entry.files.map (name :: ·)) ++ Entry.filesOf rest

end

/-- Puts an entry under a name, replacing the one that is there. -/
def putEntry (name : String) (entry : Entry) : List (String × Entry) → List (String × Entry)
  | [] => [(name, entry)]
  | (other, old) :: rest =>
      if other = name then (name, entry) :: rest else (other, old) :: putEntry name entry rest

/-- Puts an entry at a location, making the directories that lead to it. -/
def Entry.put (root : Entry) (location : Location) (entry : Entry) : Entry :=
  match location with
  | [] => entry
  | name :: rest =>
      let entries := match root with
        | .directory entries => entries
        | .file _ => []
      let child := (entries.lookup name).getD (.directory [])
      .directory (putEntry name (child.put rest entry) entries)

/-- Writes a file. Its directory must exist. A path that leads to a directory, or ends in a slash as
if it did, is refused. -/
def Entry.write (root : Entry) (path text : String) : Except PathError Entry := do
  let names ← relativeNames path
  let proper := (names.reverse.dropWhile (· = "")).reverse
  let name := proper.getLast?.getD ""
  let directory ← root.follow [] proper.dropLast
  match root.at? directory with
  | none => throw .notFound
  | some (.file _) => throw .notDirectory
  | some (.directory entries) =>
      if proper ≠ names ∨ name = "." ∨ name = ".." then throw .isDirectory
      match entries.lookup name with
      | some (.directory _) => throw .isDirectory
      | _ => return root.put (directory ++ [name]) (.file text)

/-- A directory tree and what has been printed. -/
structure World where
  root : Entry := .directory []
  printed : String := ""

/-- The text of a file, or why it cannot be read. -/
def World.read (world : World) (path : String) : Except PathError String := do
  match ← world.root.resolve path with
  | .file text => return text
  | .directory _ => throw .isDirectory

/-- The host that acts on a world. -/
def World.host (colored : Bool) (elapsed : String) (explain : Json.Problem → String) :
    Host (StateM World) where
  filesBelow path := do
    match (← get).root.resolve path with
    | .ok (.directory entries) => return some (Entry.filesOf entries)
    | _ => return none
  read path := do
    return ((← get).read path).mapError PathError.message
  write path text := do
    match (← get).root.write path text with
    | .ok root =>
        modify fun world => { world with root }
        return .ok ()
    | .error reason => return .error reason.message
  print text := modify fun world => { world with printed := world.printed ++ text }
  elapsed := return elapsed
  colored
  explain

end ContractCompiler.Command
