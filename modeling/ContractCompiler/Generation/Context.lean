import ContractCompiler.Template

/-!
# The context of code generation

Code is generated in an environment that knows which constructs are being generated at the moment,
which state the enclosing contract declares, and how the renderer has been called so far. The
frames and the state table are set for the duration of a computation by `within` and `declaring`,
which put back what was there before however the computation ends.
-/

namespace ContractCompiler

set_option autoImplicit false

/-! ## Frames -/

/-- The constructs that code is generated for. -/
inductive Construct where
  | contract
  | exec
  | cond
  | assign
  deriving DecidableEq, Repr

/-- The word for a construct. -/
def Construct.name : Construct → String
  | .contract => "contract"
  | .exec => "exec"
  | .cond => "if"
  | .assign => "assign"

/-- All constructs. -/
def Construct.all : List Construct :=
  [.contract, .exec, .cond, .assign]

/-- A construct that is being generated. -/
structure Frame where
  construct : Construct
  label : String
  deriving DecidableEq, Repr

/-- The frame of a contract. -/
def Frame.contract (name : String) : Frame :=
  ⟨.contract, name⟩

/-- The frame of a handler. -/
def Frame.exec (name : String) : Frame :=
  ⟨.exec, name⟩

/-- The frame of a conditional. -/
def Frame.cond : Frame :=
  ⟨.cond, ""⟩

/-- The frame of an assignment, labelled by its target. -/
def Frame.assign (target : Node) : Frame :=
  ⟨.assign, target.spelling⟩

/-- The construct with its label, if it has one. -/
def Frame.text (frame : Frame) : String :=
  if frame.label = "" then frame.construct.name else frame.construct.name ++ " " ++ frame.label

/-- The frames of a stack whose innermost frame stands first, written from the outermost one. -/
def trail (frames : List Frame) : String :=
  if frames.isEmpty then "<top level>" else " > ".intercalate (frames.reverse.map Frame.text)

/-! ## Declared state -/

/-- The state declared by a contract. -/
structure StateTable where
  decls : List StateDecl
  deriving DecidableEq, Repr

/-- The declaration of a name. The last one wins. -/
def StateTable.get? (table : StateTable) (name : String) : Option StateDecl :=
  table.decls.reverse.find? (·.name = name)

/-! ## The environment -/

/-- What to do with a node that has no lowering. -/
inductive Fallback where
  /-- Leave a placeholder and go on. -/
  | permissive
  /-- Fail. -/
  | strict
  deriving DecidableEq, Repr

/-- A call of the renderer: the binding that was handed over, the constructs being generated,
innermost first, and the state declared in the enclosing contract. -/
structure RenderCall where
  binding : Binding
  frames : List Frame
  table : Option StateTable

/-- The environment of code generation. -/
structure Env where
  fallback : Fallback := .permissive
  /-- The constructs being generated, innermost first. -/
  frames : List Frame := []
  /-- The state of the enclosing contract; unknown outside of contracts. -/
  table : Option StateTable := none
  /-- The calls of the renderer so far, last one first. -/
  calls : List RenderCall := []

/-- A computation that generates code. The environment survives a fault. -/
abbrev Gen := EStateM Fault Env

/-- Fails in the current context. -/
def fail {α : Type} (cause : Cause) : Gen α := fun env =>
  .error ⟨trail env.frames, cause⟩ env

/-- Runs a computation and changes the environment it leaves behind, however it ends. -/
def afterwards {α : Type} (computation : Gen α) (restore : Env → Env) : Gen α := fun env =>
  match computation env with
  | .ok value left => .ok value (restore left)
  | .error fault left => .error fault (restore left)

/-- Runs a computation inside a construct. -/
def within {α : Type} (frame : Frame) (computation : Gen α) : Gen α := fun env =>
  afterwards computation (fun left => { left with frames := left.frames.tail })
    { env with frames := frame :: env.frames }

/-- Runs a computation under the given state declarations. -/
def declaring {α : Type} (decls : List StateDecl) (computation : Gen α) : Gen α := fun env =>
  afterwards computation (fun left => { left with table := env.table })
    { env with table := some ⟨decls⟩ }

/-- Hands a binding to the renderer. -/
def renderBinding (renderer : Renderer) (binding : Binding) : Gen String := fun env =>
  let env := { env with calls := ⟨binding, env.frames, env.table⟩ :: env.calls }
  match renderer binding with
  | .ok text => .ok text env
  | .error failure => fail (.generation failure) env

/-- Passes if a construct violates no rule under the state declarations in force. -/
def checkRules (rules : Option StateTable → Except Violation Unit) : Gen Unit := fun env =>
  match rules env.table with
  | .ok () => .ok () env
  | .error violation => fail (.verification violation) env

end ContractCompiler
