import ContractCompiler.Generation.Lowering

/-!
# Compiling contracts

Every contract of a program is a unit of its own and is generated in a fresh environment, so that
nothing a contract does or fails to do matters to another one. A compilation tells what came out,
and how the renderer was called on the way.
-/

namespace ContractCompiler

set_option autoImplicit false

/-- The outcome of a compilation and the calls of the renderer in it, in order. -/
structure Compilation (α : Type) where
  outcome : Except Fault α
  calls : List RenderCall

/-- Runs a computation in a fresh environment. -/
def Gen.compile {α : Type} (computation : Gen α) (fallback : Fallback) : Compilation α :=
  match computation { fallback } with
  | .ok value env => ⟨.ok value, env.calls.reverse⟩
  | .error fault env => ⟨.error fault, env.calls.reverse⟩

/-- The text of a contract. -/
def Contract.generate (renderer : Renderer) (contract : Contract) : Gen String :=
  ContractCompiler.generate renderer (.contract contract.name)
    (fun _ => contractRules contract.body)
    (bindContract contract.name contract.body
      (Node.lowerExcept renderer Node.isLeftToUnit contract.body))

/-- Compiles one contract. -/
def Contract.compile (renderer : Renderer) (fallback : Fallback) (contract : Contract) :
    Compilation String :=
  Gen.compile (contract.generate renderer) fallback

/-- Compiles every contract of a program, whether or not others fail. -/
def Program.compileEach (renderer : Renderer) (fallback : Fallback) (program : Program) :
    List (Contract × Compilation String) :=
  program.contracts.map fun contract => (contract, contract.compile renderer fallback)

/-- Compiles contracts in order up to the first one that fails, and joins their texts. -/
def compileAll (renderer : Renderer) (fallback : Fallback) : List Contract → Compilation String
  | [] => ⟨.ok "", []⟩
  | contract :: rest =>
      let first := contract.compile renderer fallback
      match first.outcome with
      | .error fault => ⟨.error fault, first.calls⟩
      | .ok text =>
          let others := compileAll renderer fallback rest
          ⟨others.outcome.map (text ++ ·), first.calls ++ others.calls⟩

/-- Compiles a program. -/
def Program.compile (renderer : Renderer) (fallback : Fallback) (program : Program) :
    Compilation String :=
  compileAll renderer fallback program.contracts

end ContractCompiler
