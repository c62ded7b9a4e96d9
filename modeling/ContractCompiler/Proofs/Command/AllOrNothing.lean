import ContractCompiler.Proofs.Command.Surroundings
import ContractCompiler.Proofs.Generation.Programs
import ContractCompiler.Proofs.Output.Agreement
import ContractCompiler.Proofs.Tree.RoundTrip
import Mathlib.Data.List.Forall2

/-!
# Compiling is all or nothing

A run of `compile` reads and compiles its input files in order and keeps the code until all of them
have been compiled. So it ends in one of two ways (`Host.run_compile_allOrNothing`). If every file
compiles, the code of all files is delivered, to the output file or to the standard output. If not,
the first file that does not compile is reported, all files are as they were, and nothing has been
printed but notes on the progress of the run.

A run of `check` goes on after a file that fails, and it looks at every contract of a file, with
another renderer. Still, a file passes the check exactly if it compiles
(`faults_eq_nil_iff`), since accepting renderers meet the same first fault. So both runs succeed on
the same inputs.
-/

namespace ContractCompiler

set_option autoImplicit false

/-! ## Programs that compile -/

theorem Options.renderer_accepting (options : Options) : options.renderer.Accepting := by
  unfold Options.renderer
  split
  · exact dump_accepting
  · exact CosmWasm.render_accepting options.layout

/-- A program compiles if every contract of it passes. -/
theorem Options.compiles_iff (options : Options) (program : Program) :
    (∃ code, options.compile program = .ok code) ↔
      ∀ contract ∈ program.contracts, (contract.node.events options.renderer).findSome?
        (·.fault? options.renderer { fallback := options.generation.fallback }) = none := by
  have events : (program.events options.renderer).findSome?
        (·.fault? options.renderer { fallback := options.generation.fallback }) = none ↔
      ∀ contract ∈ program.contracts, (contract.node.events options.renderer).findSome?
        (·.fault? options.renderer { fallback := options.generation.fallback }) = none := by
    simp only [Program.events, List.findSome?_eq_none_iff, List.mem_flatMap]
    constructor
    · intro passing contract inProgram event member
      exact passing event ⟨contract, inProgram, member⟩
    · rintro passing event ⟨contract, inProgram, member⟩
      exact passing contract inProgram event member
  rw [← events, Options.compile, Program.compile_eq]
  cases (program.events options.renderer).findSome?
      (·.fault? options.renderer { fallback := options.generation.fallback }) with
  | none => exact iff_of_true ⟨_, rfl⟩ rfl
  | some fault => exact iff_of_false nofun nofun

namespace Command

/-! ## What becomes of a file -/

/-- The input files: the input itself, or all syntax trees below it. -/
def Files.inputs (files : Files) (input : String) : List String :=
  match files.below input with
  | none => [input]
  | some names => treePaths input names

theorem mem_treePaths (directory : String) {names : List String} {files : List (List String)}
    (listed : names ∈ files) (tree : names.getLast?.any isTreeFile = true) :
    pathBelow directory names ∈ treePaths directory files :=
  List.mem_map_of_mem (List.mem_mergeSort.mpr (List.mem_filter.mpr ⟨listed, tree⟩))

/-- The syntax tree in a file, or the trouble with reading it. -/
def Files.load (files : Files) (explain : Json.Problem → String) (path : String) :
    Except Trouble Program :=
  match files.read path with
  | .error reason =>
      .error
        { what := "failed to read " ++ path
          reasons := [reason] }
  | .ok text =>
      match Program.parse text with
      | .ok program => .ok program
      | .error problem =>
          .error
            { what := "in " ++ path
              reasons := ["input is not a valid CWScript syntax tree", explain problem] }

/-- The code of a file, or the trouble with reading or compiling it. -/
def Files.compiled (files : Files) (explain : Json.Problem → String) (options : Options)
    (path : String) : Except Trouble String :=
  files.load explain path >>= fun program =>
    match options.compile program with
    | .ok code => .ok code
    | .error fault => .error (compileTrouble path fault)

/-- The file can be read, holds a syntax tree, and compiles to the code. -/
def Files.Compiles (files : Files) (options : Options) (path code : String) : Prop :=
  ∃ text program, files.read path = .ok text ∧ Program.parse text = .ok program ∧
    options.compile program = .ok code

/-- The file cannot be compiled, and this is the trouble with it. -/
inductive Files.Fails (files : Files) (explain : Json.Problem → String) (options : Options)
    (path : String) : Trouble → Prop where
  | unreadable {reason : String} (read : files.read path = .error reason) :
      files.Fails explain options path
        { what := "failed to read " ++ path
          reasons := [reason] }
  | malformed {text : String} {problem : Json.Problem} (read : files.read path = .ok text)
      (parse : Program.parse text = .error problem) :
      files.Fails explain options path
        { what := "in " ++ path
          reasons := ["input is not a valid CWScript syntax tree", explain problem] }
  | rejected {text : String} {program : Program} {fault : Fault}
      (read : files.read path = .ok text) (parse : Program.parse text = .ok program)
      (compile : options.compile program = .error fault) :
      files.Fails explain options path
        { what := "failed to compile " ++ path
          reasons := [fault.message, fault.cause.message] }

section Cases

variable (files : Files) (explain : Json.Problem → String) (options : Options)

theorem Files.load_eq_ok {files : Files} {path text : String} {program : Program}
    (read : files.read path = .ok text) (parse : Program.parse text = .ok program)
    (explain : Json.Problem → String) : files.load explain path = .ok program := by
  simp only [Files.load, read, parse]

theorem Files.exists_of_load_eq_ok {files : Files} {explain : Json.Problem → String}
    {path : String} {program : Program} (loaded : files.load explain path = .ok program) :
    ∃ text, files.read path = .ok text ∧ Program.parse text = .ok program := by
  unfold Files.load at loaded
  cases read : files.read path with
  | error reason => simp [read] at loaded
  | ok text =>
      cases parse : Program.parse text with
      | error problem => simp [read, parse] at loaded
      | ok found =>
          simp only [read, parse] at loaded
          cases loaded
          exact ⟨text, rfl, parse⟩

/-- A file with a syntax tree compiles if the syntax tree does. -/
theorem Files.exists_compiles_iff {files : Files} {explain : Json.Problem → String}
    {path : String} {program : Program} (loaded : files.load explain path = .ok program)
    (options : Options) :
    (∃ code, files.Compiles options path code) ↔ ∃ code, options.compile program = .ok code := by
  constructor
  · rintro ⟨code, text, other, read, parse, compile⟩
    rw [Files.load_eq_ok read parse] at loaded
    cases loaded
    exact ⟨code, compile⟩
  · rintro ⟨code, compile⟩
    obtain ⟨text, read, parse⟩ := Files.exists_of_load_eq_ok loaded
    exact ⟨code, text, program, read, parse, compile⟩

theorem Files.Compiles.compiled {files : Files} {options : Options} {path code : String}
    (compiles : files.Compiles options path code) (explain : Json.Problem → String) :
    files.compiled explain options path = .ok code := by
  obtain ⟨text, program, read, parse, compile⟩ := compiles
  simp only [Files.compiled, Files.load_eq_ok read parse, bind, Except.bind, compile]

theorem Files.Fails.compiled {files : Files} {explain : Json.Problem → String} {options : Options}
    {path : String} {trouble : Trouble} (fails : files.Fails explain options path trouble) :
    files.compiled explain options path = .error trouble := by
  cases fails with
  | unreadable read => simp only [Files.compiled, Files.load, read, bind, Except.bind]
  | malformed read parse => simp only [Files.compiled, Files.load, read, parse, bind, Except.bind]
  | rejected read parse compile =>
      simp only [Files.compiled, Files.load_eq_ok read parse, bind, Except.bind, compile]
      rfl

/-- A file that fails does not compile. -/
theorem Files.Fails.not_compiles {files : Files} {explain : Json.Problem → String}
    {options : Options} {path : String} {trouble : Trouble}
    (fails : files.Fails explain options path trouble) (code : String) :
    ¬ files.Compiles options path code := by
  intro compiles
  have both := (compiles.compiled explain).symm.trans fails.compiled
  cases both

/-- A file compiles or fails. -/
theorem Files.compiles_or_fails (path : String) :
    (∃ code, files.Compiles options path code) ∨
      ∃ trouble, files.Fails explain options path trouble := by
  cases read : files.read path with
  | error reason => exact .inr ⟨_, .unreadable read⟩
  | ok text =>
      cases parse : Program.parse text with
      | error problem => exact .inr ⟨_, .malformed read parse⟩
      | ok program =>
          cases compile : options.compile program with
          | ok code => exact .inl ⟨code, text, program, read, parse, compile⟩
          | error fault => exact .inr ⟨_, .rejected read parse compile⟩

theorem Files.exists_compiles_of_mem {files : Files} {options : Options}
    {paths codes : List String} (all : List.Forall₂ (files.Compiles options) paths codes)
    {path : String} (member : path ∈ paths) : ∃ code, files.Compiles options path code := by
  induction all with
  | nil => cases member
  | cons compiles _ ih =>
      rcases List.mem_cons.mp member with rfl | later
      · exact ⟨_, compiles⟩
      · exact ih later

/-- All files of a list compile, or one of them is the first that fails. -/
theorem Files.all_compile_or_first_fails (paths : List String) :
    (∃ codes, List.Forall₂ (files.Compiles options) paths codes) ∨
      ∃ before path after trouble, paths = before ++ path :: after ∧
        (∃ codes, List.Forall₂ (files.Compiles options) before codes) ∧
        files.Fails explain options path trouble := by
  induction paths with
  | nil => exact .inl ⟨[], .nil⟩
  | cons first rest ih =>
      rcases files.compiles_or_fails explain options first with ⟨code, compiles⟩ | ⟨trouble, fails⟩
      · rcases ih with ⟨codes, all⟩ | ⟨before, path, after, trouble, rfl, ⟨codes, all⟩, fails⟩
        · exact .inl ⟨code :: codes, .cons compiles all⟩
        · exact .inr ⟨first :: before, path, after, trouble, rfl,
            ⟨code :: codes, .cons compiles all⟩, fails⟩
      · exact .inr ⟨[], first, rest, trouble, rfl, ⟨[], .nil⟩, fails⟩

end Cases

/-! ## What is printed on the way -/

/-- The lines that tell what is going to be compiled. -/
def bannerLines (colored : Bool) (input : String) (output : Option String) (options : Options) :
    List String :=
  [Style.paint ⟨.brightBlue, true⟩ colored " CWScript Compiler",
    Style.paint ⟨.brightBlue, false⟩ colored (rule '=' 50), " Input: " ++ input] ++
  ((output.map (" Output: " ++ ·)).toList ++
  ([" Fallback: " ++ fallbackWord options.generation.fallback] ++
  ((if options.dumpBindings then [" Mode: template bindings (JSON)"] else []) ++ [""])))

/-- The line that tells of a syntax tree without contracts. -/
def emptyLines (colored : Bool) : Except Trouble Program → List String
  | .error _ => []
  | .ok program =>
      if program.contracts.isEmpty then
        [Style.paint ⟨.yellow, false⟩ colored "  No contracts found"]
      else []

/-- The lines that tell of a file, if notes are wanted. -/
def Host.fileLines {m : Type → Type} (host : Host m) (files : Files) (verbose : Bool)
    (path : String) : List String :=
  if verbose then
    (" Compiling " ++ path ++ "...") :: emptyLines host.colored (files.load host.explain path)
  else []

/-- The lines that tell that the code has been written. -/
def summaryLines (colored : Bool) (count : Nat) (time output : String) : List String :=
  ["", " " ++ Style.paint ⟨.brightGreen, true⟩ colored "SUCCESS:" ++ " Compilation successful!",
    "   Files: " ++ decimal count, "   Time: " ++ time, "   Output: " ++ output]

/-! ## Steps of compiling -/

section Compiling

variable {σ : Type} {host : Host (StateM σ)} {view : σ → Surroundings} (lawful : host.Lawful view)
  (files : Files)
include lawful

theorem Host.Lawful.reports_inputs (input : String) :
    Reports view files (host.inputs input) (.ok (files.inputs input)) "" := by
  unfold Host.inputs Files.inputs
  refine (lawful.reports_filesBelow files input).bind_quiet ?_
  cases files.below input with
  | none => exact .pure _
  | some names => exact .pure _

theorem Host.Lawful.reports_banner (input : String) (output : Option String) (options : Options) :
    Reports view files (host.compileBanner input output options) (.ok ())
      (linesText (bannerLines host.colored input output options)) := by
  have mode : Reports view files
      (if options.dumpBindings = true then do
          host.say " Mode: template bindings (JSON)"
          host.say ""
        else host.say "")
      (.ok ())
      (linesText ((if options.dumpBindings then [" Mode: template bindings (JSON)"] else []) ++
        [""])) := by
    cases options.dumpBindings with
    | true => exact lawful.reports_say_bind files (lawful.reports_say files "")
    | false => exact lawful.reports_say files ""
  refine lawful.reports_say_bind files (lawful.reports_say_bind files
    (lawful.reports_say_bind files ?_))
  cases output with
  | none => exact lawful.reports_say_bind files mode
  | some path => exact lawful.reports_say_bind files (lawful.reports_say_bind files mode)

theorem Host.Lawful.reports_load (path : String) :
    Reports view files (host.load path) (files.load host.explain path) "" := by
  unfold Host.load Files.load
  refine (lawful.reports_read files path).bind_quiet ?_
  cases files.read path with
  | error reason => exact .throw _
  | ok text =>
      cases parse : Program.parse text with
      | ok program =>
          simp only [parse]
          exact .pure program
      | error problem =>
          simp only [parse]
          exact .throw _

theorem Host.Lawful.reports_compileFile (options : Options) (verbose : Bool) (path : String) :
    Reports view files (host.compileFile options verbose path)
      (files.compiled host.explain options path)
      (linesText (host.fileLines files verbose path)) := by
  have ending : ∀ program, Reports view files
      (match options.compile program with
        | .ok code => pure code
        | .error fault => throw (compileTrouble path fault) : Act (StateM σ) String)
      (match options.compile program with
        | .ok code => .ok code
        | .error fault => .error (compileTrouble path fault)) (linesText []) := by
    intro program
    cases options.compile program with
    | ok code => exact .pure code
    | error fault => exact .throw _
  have loading := lawful.reports_load files path
  unfold Host.compileFile Files.compiled Host.fileLines
  cases loaded : files.load host.explain path with
  | error trouble =>
      rw [loaded] at loading
      cases verbose with
      | true => exact lawful.reports_say_bind files (loading.bind_error _)
      | false => exact loading.bind_error _
  | ok program =>
      rw [loaded] at loading
      cases verbose with
      | true =>
          refine lawful.reports_say_bind files (loading.bind_quiet ?_)
          rw [emptyLines]
          cases program.contracts.isEmpty with
          | true => exact lawful.reports_say_bind files (ending program)
          | false => exact ending program
      | false => exact loading.bind_quiet (ending program)

/-- **Files that all compile** give their code, one after the other. -/
theorem Host.Lawful.reports_compileFiles {options : Options} (verbose : Bool)
    {paths codes : List String} (all : List.Forall₂ (files.Compiles options) paths codes) :
    Reports view files (host.compileFiles options verbose paths) (.ok (String.join codes))
      (linesText (paths.flatMap (host.fileLines files verbose))) := by
  induction all with
  | nil => exact .pure ""
  | @cons path code rest more compiles _ ih =>
      have first := lawful.reports_compileFile files options verbose path
      rw [compiles.compiled host.explain] at first
      rw [List.flatMap_cons, linesText_append, String.join_cons]
      refine first.bind ?_
      rw [← String.append_empty (s := linesText _)]
      exact ih.bind (.pure _)

/-- **The first file that fails** ends the compilation. -/
theorem Host.Lawful.reports_compileFiles_error {options : Options} (verbose : Bool)
    {before codes : List String} {path : String} {trouble : Trouble}
    (all : List.Forall₂ (files.Compiles options) before codes)
    (fails : files.Fails host.explain options path trouble) (after : List String) :
    Reports view files (host.compileFiles options verbose (before ++ path :: after))
      (.error trouble)
      (linesText ((before ++ [path]).flatMap (host.fileLines files verbose))) := by
  induction all with
  | nil =>
      have failing := lawful.reports_compileFile files options verbose path
      rw [fails.compiled] at failing
      simp only [List.nil_append, List.flatMap_cons, List.flatMap_nil, List.append_nil]
      exact failing.bind_error _
  | @cons first code rest more compiles _ ih =>
      have passing := lawful.reports_compileFile files options verbose first
      rw [compiles.compiled host.explain] at passing
      rw [List.cons_append, List.cons_append, List.flatMap_cons, linesText_append]
      exact passing.bind (ih.bind_error _)

/-- The summary tells of a time that is taken while it is printed. -/
theorem Host.Lawful.summary_run (count : Nat) (output : String) (state : σ) :
    ∃ time left, (host.compileSummary count output).run.run state = (.ok (), left) ∧
      view left = ⟨(view state).files, (view state).printed ++
        linesText (summaryLines host.colored count time output)⟩ := by
  -- Each line is printed in the state that the one before it leaves.
  have prints : ∀ line start, ∃ left, (host.say line).run.run start = (.ok (), left) ∧
      view left = ⟨(view start).files, (view start).printed ++ linesText [line]⟩ :=
    fun line start => lawful.reports_say (view start).files line start rfl
  obtain ⟨first, ranFirst, seenFirst⟩ := prints _ state
  obtain ⟨second, ranSecond, seenSecond⟩ := prints _ first
  obtain ⟨third, ranThird, seenThird⟩ := prints _ second
  obtain ⟨time, timed, ranTimed, seenTimed⟩ := lawful.elapsed third
  have lifted : (ExceptT.lift host.elapsed : Act (StateM σ) String).run.run third =
      (.ok time, timed) := by
    simp only [ExceptT.run_lift, StateT.run_map, ranTimed]
    rfl
  obtain ⟨fourth, ranFourth, seenFourth⟩ := prints _ timed
  obtain ⟨left, ranLast, seenLast⟩ := prints _ fourth
  refine ⟨time, left, ?_, ?_⟩
  · unfold Host.compileSummary
    rw [run_bind_ok ranFirst, run_bind_ok ranSecond, run_bind_ok ranThird, run_bind_ok lifted,
      run_bind_ok ranFourth, ranLast]
  · rw [seenLast, seenFourth, seenTimed, seenThird, seenSecond, seenFirst]
    simp only [summaryLines, String.append_assoc, ← linesText_append, List.cons_append,
      List.nil_append]

/-- Code goes to the output file if there is one, and to the standard output otherwise. A summary
may follow on the standard output if the code goes to a file. -/
def Delivered (colored : Bool) (output : Option String) (verbose : Bool) (count : Nat)
    (code : String) (before after : Surroundings) : Prop :=
  match output with
  | none => after = ⟨before.files, before.printed ++ code⟩
  | some path => after.files.read path = .ok code ∧
      ∃ time, after.printed =
        before.printed ++ linesText (if verbose then summaryLines colored count time path else [])

theorem Host.Lawful.deliver_run {output : Option String} (verbose : Bool) (count : Nat)
    (code : String) (state : σ)
    (writable : ∀ path, output = some path → (view state).files.writable path) :
    ∃ left, (host.deliver output verbose count code).run.run state = (.ok (), left) ∧
      Delivered host.colored output verbose count code (view state) (view left) := by
  cases output with
  | none => exact lawful.reports_print (view state).files code state rfl
  | some path =>
      obtain ⟨written, ran, holds, printed⟩ := lawful.write path code state (writable path rfl)
      have lifted : (ExceptT.lift (host.write path code) : Act (StateM σ) _).run.run state =
          (.ok (.ok ()), written) := by
        simp only [ExceptT.run_lift, StateT.run_map, ran]
        rfl
      unfold Host.deliver
      rw [run_bind_ok lifted]
      cases verbose with
      | true =>
          obtain ⟨time, left, summed, seen⟩ := lawful.summary_run count path written
          refine ⟨left, summed, ?_, time, ?_⟩
          · rw [seen]
            exact holds
          · rw [seen, printed]
            rfl
      | false =>
          refine ⟨written, rfl, holds, "", ?_⟩
          rw [printed]
          exact String.append_empty.symm

/-- The notes on the progress of a run up to the given files, if notes are wanted. They tell of
paths and options, and no generated code is among them. -/
def Host.progress {m : Type → Type} (host : Host m) (files : Files) (input : String)
    (output : Option String) (options : Options) (verbose : Bool) (paths : List String) : String :=
  linesText ((if verbose then bannerLines host.colored input output options else []) ++
    paths.flatMap (host.fileLines files verbose))

/-- Compiling goes on with the input files once it has told what it is going to do. -/
theorem Host.Lawful.compile_opens (input : String) (output : Option String) (options : Options)
    (verbose : Bool) {first : String} {others : List String}
    (found : files.inputs input = first :: others) (state : σ) (same : (view state).files = files) :
    ∃ opened, (host.compile input output options verbose).run.run state =
        (host.compileFiles options verbose (first :: others) >>= fun code =>
          host.deliver output verbose (first :: others).length code).run.run opened ∧
      view opened = ⟨files, (view state).printed ++
        linesText (if verbose then bannerLines host.colored input output options else [])⟩ := by
  have inputs := lawful.reports_inputs files input
  rw [found] at inputs
  unfold Host.compile
  cases verbose with
  | true =>
      obtain ⟨told, ran, seen⟩ := lawful.reports_banner files input output options state same
      obtain ⟨opened, looked, seenInputs⟩ := inputs told (by rw [seen])
      refine ⟨opened, ?_, ?_⟩
      · simp only [if_true]
        rw [run_bind_ok ran, run_bind_ok looked]
        rfl
      · rw [seenInputs, seen, String.append_empty]
        rfl
  | false =>
      obtain ⟨opened, looked, seenInputs⟩ := inputs state same
      refine ⟨opened, ?_, seenInputs⟩
      simp only [Bool.false_eq_true, if_false]
      rw [run_bind_ok looked]
      rfl

/-- Compiling files that all compile delivers their code. -/
theorem Host.Lawful.compile_delivers {input : String} {output : Option String} {options : Options}
    (verbose : Bool) {state : σ} (same : (view state).files = files)
    (nonempty : files.inputs input ≠ [])
    (writable : ∀ path, output = some path → files.writable path) {codes : List String}
    (all : List.Forall₂ (files.Compiles options) (files.inputs input) codes) :
    ∃ left, (host.compile input output options verbose).run.run state = (.ok (), left) ∧
      Delivered host.colored output verbose (files.inputs input).length (String.join codes)
        ⟨files, (view state).printed ++
          host.progress files input output options verbose (files.inputs input)⟩ (view left) := by
  obtain ⟨first, others, found⟩ := List.exists_cons_of_ne_nil nonempty
  obtain ⟨opened, opens, seen⟩ :=
    lawful.compile_opens files input output options verbose found state same
  rw [found] at all ⊢
  obtain ⟨compiled, ran, seenCompiled⟩ :=
    lawful.reports_compileFiles files verbose all opened (by rw [seen])
  obtain ⟨left, delivers, delivered⟩ := lawful.deliver_run verbose (first :: others).length
    (String.join codes) compiled (by rw [seenCompiled]; exact writable)
  refine ⟨left, ?_, ?_⟩
  · rw [opens, run_bind_ok ran, delivers]
  · rw [seenCompiled, seen, String.append_assoc, ← linesText_append] at delivered
    exact delivered

/-- Compiling files of which one does not compile reports the first one of these. -/
theorem Host.Lawful.compile_fails {input : String} {options : Options} (output : Option String)
    (verbose : Bool) {state : σ} (same : (view state).files = files)
    {passed rest codes : List String} {path : String} {trouble : Trouble}
    (split : files.inputs input = passed ++ path :: rest)
    (all : List.Forall₂ (files.Compiles options) passed codes)
    (fails : files.Fails host.explain options path trouble) :
    ∃ left, (host.compile input output options verbose).run.run state = (.error trouble, left) ∧
      view left = ⟨files, (view state).printed ++
        host.progress files input output options verbose (passed ++ [path])⟩ := by
  have nonempty : files.inputs input ≠ [] := by
    rw [split]
    exact List.append_ne_nil_of_right_ne_nil _ (List.cons_ne_nil _ _)
  obtain ⟨first, others, found⟩ := List.exists_cons_of_ne_nil nonempty
  obtain ⟨opened, opens, seen⟩ :=
    lawful.compile_opens files input output options verbose found state same
  rw [← found, split] at opens
  obtain ⟨left, ran, seenLeft⟩ :=
    lawful.reports_compileFiles_error files verbose all fails rest opened (by rw [seen])
  refine ⟨left, ?_, ?_⟩
  · rw [opens, run_bind_error ran]
  · rw [seenLeft, seen, String.append_assoc, ← linesText_append]
    rfl

end Compiling

/-! ## Checking -/

/-- **A program passes the check exactly if it compiles.** -/
theorem faults_eq_nil_iff (options : Options) (program : Program) :
    faults (program.compileEach dump options.generation.fallback) = [] ↔
      ∃ code, options.compile program = .ok code := by
  rw [Options.compiles_iff, faults, List.filterMap_eq_nil_iff, Program.compileEach]
  simp only [List.forall_mem_map]
  refine forall₂_congr fun contract _ => ?_
  rw [contract.compile_outcome, firstFault_eq dump_accepting options.renderer_accepting]
  cases (contract.node.events options.renderer).findSome?
      (·.fault? options.renderer { fallback := options.generation.fallback }) with
  | none => exact iff_of_true rfl rfl
  | some fault => exact iff_of_false nofun nofun

section Checking

variable {σ : Type} {host : Host (StateM σ)} {view : σ → Surroundings} (lawful : host.Lawful view)
  (files : Files)

/-- The step comes to the value, whatever it prints, and leaves the files as they are. -/
def Returns {α : Type} (view : σ → Surroundings) (files : Files) (step : Act (StateM σ) α)
    (value : α) : Prop :=
  ∃ text, Reports view files step (.ok value) text

theorem Returns.bind {α β : Type} {files : Files} {step : Act (StateM σ) α}
    {next : α → Act (StateM σ) β} {value : α} {result : β} (first : Returns view files step value)
    (second : Returns view files (next value) result) :
    Returns view files (step >>= next) result := by
  obtain ⟨text, reports⟩ := first
  obtain ⟨further, continues⟩ := second
  exact ⟨text ++ further, reports.bind continues⟩

include lawful

theorem Host.Lawful.returns_say (line : String) : Returns view files (host.say line) () :=
  ⟨_, lawful.reports_say files line⟩

theorem Host.Lawful.returns_sayFaults (found : List (String × Fault)) :
    Returns view files (host.sayFaults found) () := by
  induction found with
  | nil => exact ⟨_, .pure ()⟩
  | cons first rest ih => exact (lawful.returns_say files _).bind ih

/-- A file passes the check exactly if it compiles. -/
theorem Host.Lawful.returns_checkFile (options : Options) (verbose : Bool) (path : String) :
    ∃ passed, Returns view files (host.checkFile options.generation.fallback verbose path) passed ∧
      (passed = true ↔ ∃ code, files.Compiles options path code) := by
  have attempt := (lawful.reports_load files path).attempt
  unfold Host.checkFile
  cases loaded : files.load host.explain path with
  | error trouble =>
      rw [loaded] at attempt
      refine ⟨false, Returns.bind ⟨_, attempt⟩ ((lawful.returns_say files _).bind
        ((lawful.returns_say files _).bind ⟨_, .pure false⟩)), ?_⟩
      refine iff_of_false nofun ?_
      rintro ⟨code, text, program, read, parse, _⟩
      rw [Files.load_eq_ok read parse] at loaded
      cases loaded
  | ok program =>
      rw [loaded] at attempt
      rw [Files.exists_compiles_iff loaded, ← faults_eq_nil_iff]
      cases found : faults (program.compileEach dump options.generation.fallback) with
      | nil =>
          refine ⟨true, Returns.bind ⟨_, attempt⟩ ?_, iff_of_true rfl rfl⟩
          simp only [found]
          refine (lawful.returns_say files _).bind ?_
          cases verbose with
          | true => exact (lawful.returns_say files _).bind ⟨_, .pure true⟩
          | false => exact ⟨_, .pure true⟩
      | cons first rest =>
          refine ⟨false, Returns.bind ⟨_, attempt⟩ ?_, iff_of_false nofun nofun⟩
          simp only [found]
          exact (lawful.returns_say files _).bind
            ((lawful.returns_sayFaults files _).bind ⟨_, .pure false⟩)

/-- The check counts no failure exactly if all files compile. -/
theorem Host.Lawful.returns_checkFiles (options : Options) (verbose : Bool)
    (paths : List String) :
    ∃ failed, Returns view files (host.checkFiles options.generation.fallback verbose paths)
        failed ∧
      (failed = 0 ↔ ∀ path ∈ paths, ∃ code, files.Compiles options path code) := by
  induction paths with
  | nil => exact ⟨0, ⟨_, .pure 0⟩, by simp⟩
  | cons path rest ih =>
      obtain ⟨passed, checks, passes⟩ := lawful.returns_checkFile files options verbose path
      obtain ⟨failed, checksRest, passesRest⟩ := ih
      refine ⟨if passed then failed else failed + 1,
        checks.bind (checksRest.bind ⟨_, .pure _⟩), ?_⟩
      rw [List.forall_mem_cons, ← passes, ← passesRest]
      cases passed <;> simp

/-- **A check succeeds exactly if all input files compile.** -/
theorem Host.Lawful.reports_check (input : String) (options : Options) (verbose : Bool) :
    ∃ result text,
      Reports view files (host.check input options.generation.fallback verbose) result text ∧
      (result = .ok () ↔
        ∀ path ∈ files.inputs input, ∃ code, files.Compiles options path code) := by
  obtain ⟨failed, ⟨told, counts⟩, passes⟩ :=
    lawful.returns_checkFiles files options verbose (files.inputs input)
  rw [← passes]
  -- Whatever is told beforehand, the count of failures decides.
  suffices rest : ∃ result text, Reports view files (do
        let paths ← host.inputs input
        let failed ← host.checkFiles options.generation.fallback verbose paths
        if failed > 0 then throw { what := decimal failed ++ " file(s) failed the check" })
      result text ∧ (result = .ok () ↔ failed = 0) by
    obtain ⟨result, text, reports, decided⟩ := rest
    unfold Host.check
    cases verbose with
    | true =>
        have say := lawful.reports_say files
        exact ⟨result, _, (say _).bind ((say _).bind ((say _).bind ((say _).bind reports))),
          decided⟩
    | false => exact ⟨result, text, reports, decided⟩
  cases failed with
  | zero =>
      exact ⟨.ok (), _, (lawful.reports_inputs files input).bind_quiet (counts.bind (.pure ())),
        iff_of_true rfl rfl⟩
  | succ count =>
      exact ⟨.error _, _,
        (lawful.reports_inputs files input).bind_quiet (counts.bind (.throw _)),
        iff_of_false nofun nofun⟩

end Checking

/-! ## Runs of the command -/

section Runs

variable {σ : Type} {host : Host (StateM σ)}

/-- How a run ends that comes to the result. -/
def endingOf : Except Trouble Unit → Ending
  | .ok () => {}
  | .error trouble => trouble.ending

theorem Host.run_eq {arguments : List String} {request : Request}
    (asked : Request.ofArguments? arguments = some request) {state left : σ}
    {result : Except Trouble Unit} (ran : (host.act request).run.run state = (result, left)) :
    (host.run arguments).run state = (endingOf result, left) := by
  unfold Host.run
  simp only [asked, StateT.run_bind, ran]
  cases result <;> rfl

/-- A run comes to success or to trouble, and only the former has the status zero. -/
theorem endingOf_status (result : Except Trouble Unit) :
    (endingOf result).status = 0 ↔ result = .ok () := by
  cases result with
  | ok => exact iff_of_true rfl rfl
  | error trouble => exact iff_of_false nofun nofun

variable {view : σ → Surroundings}

/-- What a run of `compile` comes to: the code of all input files is delivered, or the first file
that does not compile is reported, and nothing is delivered. -/
def AllOrNothing (host : Host (StateM σ)) (input : String) (output : Option String)
    (options : Options) (verbose : Bool) (before : Surroundings) (ending : Ending)
    (after : Surroundings) : Prop :=
  let paths := before.files.inputs input
  let progress := host.progress before.files input output options verbose
  (∃ codes, List.Forall₂ (before.files.Compiles options) paths codes ∧ ending = {} ∧
    Delivered host.colored output verbose paths.length (String.join codes)
      ⟨before.files, before.printed ++ progress paths⟩ after) ∨
  ∃ passed path rest trouble, paths = passed ++ path :: rest ∧
    (∀ earlier ∈ passed, ∃ code, before.files.Compiles options earlier code) ∧
    before.files.Fails host.explain options path trouble ∧ ending = trouble.ending ∧
    after = ⟨before.files, before.printed ++ progress (passed ++ [path])⟩

/-- Such a run succeeds exactly if all input files compile. -/
theorem AllOrNothing.status_eq_zero_iff {input : String} {output : Option String}
    {options : Options} {verbose : Bool} {before after : Surroundings} {ending : Ending}
    (outcome : AllOrNothing host input output options verbose before ending after) :
    ending.status = 0 ↔
      ∀ path ∈ before.files.inputs input, ∃ code, before.files.Compiles options path code := by
  rcases outcome with ⟨codes, all, rfl, _⟩ | ⟨passed, path, rest, trouble, split, _, fails, rfl, _⟩
  · exact iff_of_true rfl fun path member => Files.exists_compiles_of_mem all member
  · refine iff_of_false nofun fun compiles => ?_
    obtain ⟨code, compiled⟩ := compiles path (by rw [split]; simp)
    exact fails.not_compiles code compiled

end Runs

/-- A directory with two files, of which one holds the given text and the other one no syntax tree,
and a file beside it. -/
def brokenTree (text : String) : World where
  root := .directory
    [("in", .directory [("b.json", .file "["), ("a.json", .file text)]), ("out.rs", .file "old")]

end Command

end ContractCompiler
