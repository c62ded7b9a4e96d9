import ContractCompiler.Command.World

/-!
# The surroundings of a run

The command finds, reads and writes files and prints, all through its host. What a host has to keep
to for that is `Host.Lawful`: what is found and read is what the files hold, looking at files and
printing does not change them, printed texts are appended to one another, and a text that was
written to a file is what is read from it. Nothing is said about what else a write changes, since
two paths may lead to the same file.

`Reports` says what becomes of a step of the command in surroundings with given files, as long as it
writes no file. Steps that do so one after the other are taken together with `Reports.bind`, up to
one that fails (`Reports.bind_error`).

Files held in memory are lawful surroundings (`World.host_lawful`).
-/

namespace ContractCompiler.Command

set_option autoImplicit false

/-! ## Lawful hosts -/

/-- What files there are. -/
structure Files where
  /-- The files below a directory, if the path leads to one. -/
  below : String → Option (List (List String))
  /-- The text of a file, or why it cannot be read. -/
  read : String → Except String String
  /-- Whether any text can be written to the path. -/
  writable : String → Prop

/-- What a run can see and change: the files, and what has been printed. -/
structure Surroundings where
  files : Files
  printed : String

/-- A host that acts on its surroundings in the way the command relies on. -/
structure Host.Lawful {σ : Type} (host : Host (StateM σ)) (view : σ → Surroundings) : Prop where
  filesBelow : ∀ path state, ∃ left,
    (host.filesBelow path).run state = ((view state).files.below path, left) ∧
      view left = view state
  read : ∀ path state, ∃ left,
    (host.read path).run state = ((view state).files.read path, left) ∧ view left = view state
  elapsed : ∀ state, ∃ time left,
    host.elapsed.run state = (time, left) ∧ view left = view state
  print : ∀ text state, ∃ left,
    (host.print text).run state = ((), left) ∧
      view left = ⟨(view state).files, (view state).printed ++ text⟩
  write : ∀ path text state, (view state).files.writable path → ∃ left,
    (host.write path text).run state = (.ok (), left) ∧
      (view left).files.read path = .ok text ∧ (view left).printed = (view state).printed

/-! ## Steps that write no file -/

/-- Lines as they are printed. -/
def linesText (lines : List String) : String :=
  String.join (lines.map (· ++ "\n"))

theorem linesText_cons (line : String) (rest : List String) :
    linesText (line :: rest) = line ++ "\n" ++ linesText rest := by
  rw [linesText, List.map_cons, String.join_cons, linesText]

theorem linesText_append (lines more : List String) :
    linesText (lines ++ more) = linesText lines ++ linesText more := by
  induction lines with
  | nil => exact String.empty_append.symm
  | cons line rest ih =>
      rw [List.cons_append, linesText_cons, linesText_cons, ih, String.append_assoc,
        String.append_assoc, String.append_assoc]

section Reports

variable {σ α β : Type} {view : σ → Surroundings} {files : Files}

/-- In surroundings with the given files, the step comes to the result, prints the text and leaves
the files as they are. -/
def Reports (view : σ → Surroundings) (files : Files) (step : Act (StateM σ) α)
    (result : Except Trouble α) (text : String) : Prop :=
  ∀ state, (view state).files = files → ∃ left,
    step.run.run state = (result, left) ∧ view left = ⟨files, (view state).printed ++ text⟩

theorem run_bind_ok {step : Act (StateM σ) α} {next : α → Act (StateM σ) β} {state left : σ}
    {value : α} (ran : step.run.run state = (.ok value, left)) :
    (step >>= next).run.run state = (next value).run.run left := by
  simp only [ExceptT.run_bind, StateT.run_bind, ran]
  rfl

theorem run_bind_error {step : Act (StateM σ) α} {next : α → Act (StateM σ) β} {state left : σ}
    {trouble : Trouble} (ran : step.run.run state = (.error trouble, left)) :
    (step >>= next).run.run state = (.error trouble, left) := by
  simp only [ExceptT.run_bind, StateT.run_bind, ran]
  rfl

theorem Reports.pure (value : α) :
    Reports view files (Pure.pure value : Act (StateM σ) α) (.ok value) "" := by
  intro state same
  refine ⟨state, rfl, ?_⟩
  rw [String.append_empty, ← same]

theorem Reports.throw (trouble : Trouble) :
    Reports view files (MonadExcept.throw trouble : Act (StateM σ) α) (.error trouble) "" := by
  intro state same
  refine ⟨state, rfl, ?_⟩
  rw [String.append_empty, ← same]

/-- One step after another. -/
theorem Reports.bind {step : Act (StateM σ) α} {next : α → Act (StateM σ) β} {value : α}
    {result : Except Trouble β} {text further : String}
    (first : Reports view files step (.ok value) text)
    (second : Reports view files (next value) result further) :
    Reports view files (step >>= next) result (text ++ further) := by
  intro state same
  obtain ⟨middle, ran, seen⟩ := first state same
  obtain ⟨left, continued, seenLast⟩ := second middle (by rw [seen])
  refine ⟨left, (run_bind_ok ran).trans continued, ?_⟩
  rw [seenLast, seen, String.append_assoc]

/-- A step that prints nothing goes before another one. -/
theorem Reports.bind_quiet {step : Act (StateM σ) α} {next : α → Act (StateM σ) β} {value : α}
    {result : Except Trouble β} {text : String} (first : Reports view files step (.ok value) "")
    (second : Reports view files (next value) result text) :
    Reports view files (step >>= next) result text := by
  rw [← String.empty_append (s := text)]
  exact first.bind second

/-- After a step that fails nothing is done. -/
theorem Reports.bind_error {step : Act (StateM σ) α} (next : α → Act (StateM σ) β)
    {trouble : Trouble} {text : String} (first : Reports view files step (.error trouble) text) :
    Reports view files (step >>= next) (.error trouble) text := by
  intro state same
  obtain ⟨left, ran, seen⟩ := first state same
  exact ⟨left, run_bind_error ran, seen⟩

/-- A step whose failure is a result. -/
theorem Reports.attempt {step : Act (StateM σ) α} {result : Except Trouble α} {text : String}
    (reports : Reports view files step result text) :
    Reports view files (ExceptT.lift step.run : Act (StateM σ) (Except Trouble α)) (.ok result)
      text := by
  intro state same
  obtain ⟨left, ran, seen⟩ := reports state same
  refine ⟨left, ?_, seen⟩
  simp only [ExceptT.run_lift, StateT.run_map, ran]
  rfl

end Reports

namespace Host.Lawful

variable {σ : Type} {host : Host (StateM σ)} {view : σ → Surroundings} (lawful : host.Lawful view)
  (files : Files)
include lawful

theorem reports_print (text : String) :
    Reports view files (ExceptT.lift (host.print text)) (.ok ()) text := by
  intro state same
  obtain ⟨left, ran, seen⟩ := lawful.print text state
  refine ⟨left, ?_, ?_⟩
  · simp only [ExceptT.run_lift, StateT.run_map, ran]
    rfl
  · rw [seen, same]

theorem reports_say (line : String) :
    Reports view files (host.say line) (.ok ()) (linesText [line]) := by
  rw [linesText_cons, show linesText [] = "" from rfl, String.append_empty]
  exact lawful.reports_print files (line ++ "\n")

/-- A line is printed before what comes after it. -/
theorem reports_say_bind {α : Type} {line : String} {lines : List String}
    {next : Unit → Act (StateM σ) α} {result : Except Trouble α}
    (rest : Reports view files (next ()) result (linesText lines)) :
    Reports view files (host.say line >>= next) result (linesText (line :: lines)) := by
  have both := (lawful.reports_say files line).bind rest
  rwa [← linesText_append] at both

theorem reports_filesBelow (path : String) :
    Reports view files (ExceptT.lift (host.filesBelow path)) (.ok (files.below path)) "" := by
  intro state same
  obtain ⟨left, ran, seen⟩ := lawful.filesBelow path state
  refine ⟨left, ?_, ?_⟩
  · simp only [ExceptT.run_lift, StateT.run_map, ran, same]
    rfl
  · rw [seen, String.append_empty, ← same]

theorem reports_read (path : String) :
    Reports view files (ExceptT.lift (host.read path)) (.ok (files.read path)) "" := by
  intro state same
  obtain ⟨left, ran, seen⟩ := lawful.read path state
  refine ⟨left, ?_, ?_⟩
  · simp only [ExceptT.run_lift, StateT.run_map, ran, same]
    rfl
  · rw [seen, String.append_empty, ← same]

end Host.Lawful

/-! ## Files in memory -/

/-- An entry that was put under a name is found there. -/
theorem lookup_putEntry (name : String) (entry : Entry) (entries : List (String × Entry)) :
    (putEntry name entry entries).lookup name = some entry := by
  induction entries with
  | nil => simp [putEntry]
  | cons first rest ih =>
      obtain ⟨other, old⟩ := first
      rw [putEntry]
      by_cases same : other = name
      · simp [same]
      · have differs : (name == other) = false := by simpa using fun equal => same equal.symm
        rw [if_neg same, List.lookup_cons, differs]
        exact ih

/-- Under other names nothing changes. -/
theorem lookup_putEntry_of_ne {name other : String} (differs : other ≠ name) (entry : Entry)
    (entries : List (String × Entry)) :
    (putEntry name entry entries).lookup other = entries.lookup other := by
  induction entries with
  | nil =>
      have apart : (other == name) = false := by simpa using differs
      simp [putEntry, List.lookup_cons, apart]
  | cons first rest ih =>
      obtain ⟨label, old⟩ := first
      rw [putEntry]
      by_cases same : label = name
      · have apart : (other == name) = false := by simpa using differs
        simp [same, List.lookup_cons, apart]
      · rw [if_neg same, List.lookup_cons, List.lookup_cons, ih]

namespace Entry

theorem at?_append (entry : Entry) (location further : Location) :
    entry.at? (location ++ further) = (entry.at? location).bind (·.at? further) := by
  induction location generalizing entry with
  | nil => rfl
  | cons name rest ih =>
      rw [List.cons_append, at?, at?]
      cases entry.child? name with
      | none => rfl
      | some child => exact ih child

/-- What is put at a location is there. -/
theorem at?_put (root : Entry) (location : Location) (entry : Entry) :
    (root.put location entry).at? location = some entry := by
  induction location generalizing root with
  | nil => rfl
  | cons name rest ih =>
      simp only [put, at?, child?, lookup_putEntry, Option.bind_some]
      exact ih _

/-- A file has nothing below it. -/
theorem at?_file {text : String} {location : Location} {entry : Entry}
    (found : (Entry.file text).at? location = some entry) : entry = .file text := by
  cases location with
  | nil => exact (Option.some.inj found).symm
  | cons name rest => cases found

/-- A file that is put into a directory, in the place of a file or of nothing, leaves all
directories where they are, with all of their names. -/
theorem directory_put {root : Entry} {directory : Location} {held : List (String × Entry)}
    {name : String} (text : String) (found : root.at? directory = some (.directory held))
    (free : ∀ entries, held.lookup name ≠ some (.directory entries)) {location : Location}
    {entries : List (String × Entry)} (present : root.at? location = some (.directory entries)) :
    ∃ after, (root.put (directory ++ [name]) (.file text)).at? location = some (.directory after) ∧
      ∀ label, (entries.lookup label).isSome → (after.lookup label).isSome := by
  induction directory generalizing root location with
  | nil =>
      cases found
      cases location with
      | nil =>
          cases present
          refine ⟨_, rfl, fun label there => ?_⟩
          by_cases same : label = name
          · rw [same, lookup_putEntry]
            rfl
          · rwa [lookup_putEntry_of_ne same]
      | cons first rest =>
          rw [at?, child?] at present
          obtain ⟨child, holds, below⟩ := Option.bind_eq_some_iff.mp present
          have apart : first ≠ name := by
            rintro rfl
            cases child with
            | directory inner => exact free inner holds
            | file old => cases at?_file below
          refine ⟨entries, ?_, fun _ there => there⟩
          simp only [List.nil_append, put, at?, child?, lookup_putEntry_of_ne apart]
          exact present
  | cons first rest ih =>
      cases root with
      | file old => cases found
      | directory siblings =>
          rw [at?, child?] at found
          obtain ⟨child, holds, below⟩ := Option.bind_eq_some_iff.mp found
          simp only [List.cons_append, put, holds, Option.getD_some]
          cases location with
          | nil =>
              cases present
              refine ⟨_, rfl, fun label there => ?_⟩
              by_cases same : label = first
              · rw [same, lookup_putEntry]
                rfl
              · rwa [lookup_putEntry_of_ne same]
          | cons other more =>
              rw [at?, child?] at present
              by_cases same : other = first
              · rw [same, holds] at present
                rw [same, at?, child?, lookup_putEntry]
                exact ih below present
              · rw [at?, child?, lookup_putEntry_of_ne same]
                exact ⟨entries, present, fun _ there => there⟩

/-- Where a name leads from a directory with the given entries. -/
def nextLocation? (entries : List (String × Entry)) (location : Location) (name : String) :
    Option Location :=
  if name = "" ∨ name = "." then some location
  else if name = ".." then some location.dropLast
  else if (entries.lookup name).isSome then some (location ++ [name])
  else none

theorem follow_directory {root : Entry} {location : Location} {entries : List (String × Entry)}
    (there : root.at? location = some (.directory entries)) (name : String)
    (rest : List String) :
    root.follow location (name :: rest) =
      match nextLocation? entries location name with
      | some next => root.follow next rest
      | none => .error .notFound := by
  rw [follow, there, nextLocation?]
  by_cases stays : name = "" ∨ name = "."
  · simp only [if_pos stays]
  · by_cases up : name = ".."
    · simp only [if_neg stays, if_pos up]
    · by_cases listed : (entries.lookup name).isSome = true
      · simp only [if_neg stays, if_neg up, if_pos listed]
      · simp only [if_neg stays, if_neg up, if_neg listed]

/-- Names are followed one by one, each from a directory. -/
theorem follow_cons_eq_ok {root : Entry} {location target : Location} {name : String}
    {rest : List String} :
    root.follow location (name :: rest) = .ok target ↔
      ∃ entries next, root.at? location = some (.directory entries) ∧
        nextLocation? entries location name = some next ∧
        root.follow next rest = .ok target := by
  constructor
  · intro follows
    cases there : root.at? location with
    | none => simp [follow, there] at follows
    | some entry =>
        cases entry with
        | file text => simp [follow, there] at follows
        | directory entries =>
            rw [follow_directory there] at follows
            cases leads : nextLocation? entries location name with
            | none => simp [leads] at follows
            | some next =>
                rw [leads] at follows
                exact ⟨entries, next, rfl, leads, follows⟩
  · rintro ⟨entries, next, there, leads, onward⟩
    rw [follow_directory there, leads]
    exact onward

/-- A name that leads somewhere does so in a directory with more entries. -/
theorem nextLocation?_mono {entries after : List (String × Entry)} {location next : Location}
    {name : String} (labels : ∀ label, (entries.lookup label).isSome → (after.lookup label).isSome)
    (leads : nextLocation? entries location name = some next) :
    nextLocation? after location name = some next := by
  unfold nextLocation? at leads ⊢
  by_cases listed : (entries.lookup name).isSome = true
  · rw [if_pos listed] at leads
    rwa [if_pos (labels name listed)]
  · rw [if_neg listed] at leads
    -- A name that is not listed leads somewhere only if it stays or goes up.
    by_cases stays : name = "" ∨ name = "."
    · rwa [if_pos stays] at leads ⊢
    · rw [if_neg stays] at leads ⊢
      by_cases up : name = ".."
      · rwa [if_pos up] at leads ⊢
      · rw [if_neg up] at leads
        cases leads

/-- Names lead to the same location in a tree that has the same directories and more. -/
theorem follow_of_directories {root other : Entry}
    (keeps : ∀ {location entries}, root.at? location = some (.directory entries) →
      ∃ after, other.at? location = some (.directory after) ∧
        ∀ label, (entries.lookup label).isSome → (after.lookup label).isSome)
    {location target : Location} {names : List String}
    (follows : root.follow location names = .ok target) :
    other.follow location names = .ok target := by
  induction names generalizing location with
  | nil => exact follows
  | cons name rest ih =>
      obtain ⟨entries, next, there, leads, onward⟩ := follow_cons_eq_ok.mp follows
      obtain ⟨after, kept, labels⟩ := keeps there
      exact follow_cons_eq_ok.mpr
        ⟨after, next, kept, nextLocation?_mono labels leads, ih onward⟩

theorem follow_append {root : Entry} {location middle target : Location}
    {names further : List String} (first : root.follow location names = .ok middle)
    (second : root.follow middle further = .ok target) :
    root.follow location (names ++ further) = .ok target := by
  induction names generalizing location with
  | nil =>
      cases first
      exact second
  | cons name rest ih =>
      obtain ⟨entries, next, there, leads, onward⟩ := follow_cons_eq_ok.mp first
      exact follow_cons_eq_ok.mpr ⟨entries, next, there, leads, ih onward⟩

/-- What goes well after a first part did so in both. -/
theorem exists_of_bind_eq_ok {ε α β : Type} {first : Except ε α} {next : α → Except ε β}
    {result : β} (ended : (first >>= next) = .ok result) :
    ∃ value, first = .ok value ∧ next value = .ok result := by
  cases first with
  | error reason => cases ended
  | ok value => exact ⟨value, rfl, ended⟩

/-- The names of a path are at least one. -/
theorem pathNames_go_ne_nil (current chars : List Char) : pathNames.go current chars ≠ [] := by
  induction chars generalizing current with
  | nil => exact List.cons_ne_nil _ _
  | cons c rest ih =>
      rw [pathNames.go]
      split
      · exact List.cons_ne_nil _ _
      · exact ih (c :: current)

theorem relativeNames_ne_nil {path : String} {names : List String}
    (relative : relativeNames path = .ok names) : names ≠ [] := by
  unfold relativeNames at relative
  split at relative
  · cases relative
  · cases relative
  · cases relative
    exact pathNames_go_ne_nil [] path.toList

/-- Names that do not end in an empty one have a last name that is not empty. -/
theorem last_ne_empty {names : List String} {name : String}
    (proper : ((names ++ [name]).reverse.dropWhile (· = "")).reverse = names ++ [name]) :
    name ≠ "" := by
  rintro rfl
  have lengths := congrArg List.length proper
  have shorter := (List.dropWhile_sublist (p := (· = "")) (l := names.reverse)).length_le
  simp at lengths shorter
  omega

/-- What a write that succeeds comes to: the path leads to a name in a directory that is not the
name of a directory itself, and the file is put there. -/
theorem write_eq_ok {root after : Entry} {path text : String}
    (written : root.write path text = .ok after) :
    ∃ names name directory held, relativeNames path = .ok (names ++ [name]) ∧
      root.follow [] names = .ok directory ∧ root.at? directory = some (.directory held) ∧
      ¬ (name = "" ∨ name = ".") ∧ name ≠ ".." ∧
      (∀ entries, held.lookup name ≠ some (.directory entries)) ∧
      after = root.put (directory ++ [name]) (.file text) := by
  unfold write at written
  obtain ⟨names, relative, named⟩ := exists_of_bind_eq_ok written
  obtain ⟨directory, follows, ended⟩ := exists_of_bind_eq_ok named
  generalize shortened : (names.reverse.dropWhile (· = "")).reverse = proper at follows ended
  split at ended
  · cases ended
  · cases ended
  · rename_i held found
    by_cases refused : proper ≠ names ∨ proper.getLast?.getD "" = "." ∨
        proper.getLast?.getD "" = ".."
    · rw [if_pos refused] at ended
      cases ended
    · rw [if_neg refused] at ended
      obtain ⟨same, dot, dots⟩ := by simpa only [not_or, ne_eq, Decidable.not_not] using refused
      obtain ⟨init, name, split⟩ :=
        (List.eq_nil_or_concat names).resolve_left (relativeNames_ne_nil relative)
      rw [List.concat_eq_append] at split
      subst same split
      simp only [List.getLast?_concat, Option.getD_some] at dot dots ended
      rw [List.dropLast_concat] at follows
      refine ⟨init, name, directory, held, relative, follows, found,
        not_or.mpr ⟨last_ne_empty shortened, dot⟩, dots, ?_, ?_⟩
      · intro entries taken
        rw [taken] at ended
        cases ended
      · split at ended
        · cases ended
        · exact (Except.ok.inj ended).symm

/-- **A file that was written** is read back. -/
theorem resolve_write {root after : Entry} {path text : String}
    (written : root.write path text = .ok after) : after.resolve path = .ok (.file text) := by
  obtain ⟨names, name, directory, held, relative, follows, found, plain, inside, free, rfl⟩ :=
    write_eq_ok written
  have placed := at?_put root (directory ++ [name]) (.file text)
  obtain ⟨now, kept, _⟩ := directory_put text found free found
  -- The way to the directory is still there, and then the name is found in it.
  have before : (root.put (directory ++ [name]) (.file text)).follow [] names = .ok directory :=
    follow_of_directories (fun present => directory_put text found free present) follows
  have listed : (now.lookup name).isSome := by
    have inDirectory := placed
    rw [at?_append, kept, Option.bind_some, at?] at inDirectory
    obtain ⟨child, holds, _⟩ := Option.bind_eq_some_iff.mp inDirectory
    exact Option.isSome_of_eq_some holds
  have last : (root.put (directory ++ [name]) (.file text)).follow directory [name] =
      .ok (directory ++ [name]) := by
    refine follow_cons_eq_ok.mpr ⟨now, _, kept, ?_, rfl⟩
    rw [nextLocation?, if_neg plain, if_neg inside, if_pos listed]
  simp only [resolve, relative, bind, Except.bind, follow_append before last, placed]
  rfl

end Entry

/-- The files of a tree. -/
def Entry.asFiles (root : Entry) : Files where
  below path :=
    match root.resolve path with
    | .ok (.directory entries) => some (Entry.filesOf entries)
    | _ => none
  read path := (World.read { root } path).mapError PathError.message
  writable path := ∀ text, ∃ after, root.write path text = .ok after

/-- The surroundings that a world makes. -/
def World.surroundings (world : World) : Surroundings where
  files := world.root.asFiles
  printed := world.printed

/-- **Files in memory are lawful surroundings.** -/
theorem World.host_lawful (colored : Bool) (elapsed : String) (explain : Json.Problem → String) :
    (World.host colored elapsed explain).Lawful World.surroundings where
  filesBelow path world := by
    refine ⟨world, ?_, rfl⟩
    simp only [World.host, StateT.run_bind, StateT.run_get, pure_bind, World.surroundings,
      Entry.asFiles]
    cases world.root.resolve path with
    | error reason => rfl
    | ok entry => cases entry <;> rfl
  read path world := ⟨world, rfl, rfl⟩
  elapsed world := ⟨elapsed, world, rfl, rfl⟩
  print text world := ⟨{ world with printed := world.printed ++ text }, rfl, rfl⟩
  write path text world writable := by
    obtain ⟨after, written⟩ := writable text
    refine ⟨{ world with root := after }, ?_, ?_, rfl⟩
    · simp only [World.host, StateT.run_bind, StateT.run_get, pure_bind, written]
      rfl
    · show (World.read { root := after } path).mapError PathError.message = .ok text
      rw [World.read, Entry.resolve_write written]
      rfl

end ContractCompiler.Command
