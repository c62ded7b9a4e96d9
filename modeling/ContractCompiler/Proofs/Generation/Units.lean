import ContractCompiler.Generation.Assembly
import ContractCompiler.Proofs.Generation.Walk

/-!
# Contracts as units

A contract that is compiled on its own goes through the events of its definition, from an
environment with nothing in it. What comes out is the fault of the first event that has one, or
else the text of the contract (`Contract.compile_outcome`), and the renderer is called at render
events only (`Contract.compile_calls`). A compilation that succeeds has passed every event and has
called the renderer at all of them (`Contract.compile_passing`).
-/

namespace ContractCompiler

set_option autoImplicit false

/-- A contract as a node. -/
def Contract.node (contract : Contract) : Node :=
  .contract contract.name contract.body

/-- The binding of a contract, if nothing fails in lowering its items. -/
def Contract.binding (renderer : Renderer) (contract : Contract) : Binding :=
  .ofContract contract.name (stateDecls contract.body)
    (Node.valuesExcept renderer Node.isLeftToUnit contract.body)

section Units

variable (renderer : Renderer) (fallback : Fallback) (contract : Contract)

/-- Generating a contract is a replay of the events of its definition. -/
theorem Contract.generate_eq_replay :
    contract.generate renderer =
      replay renderer (textOf renderer (contract.binding renderer))
        (contract.node.events renderer) := by
  unfold Contract.generate
  rw [Node.lowerExcept_eq_replay, bindContract_replay]
  exact (generate_replay renderer (.contract contract.name) contract.node rfl _).trans
    (congrArg _ (by rw [Contract.node, Node.events]))

/-- **The outcome of a unit** is the fault of the first event that has one, or else its text. -/
theorem Contract.compile_outcome :
    (contract.compile renderer fallback).outcome =
      faultOr (textOf renderer (contract.binding renderer))
        ((contract.node.events renderer).findSome? (·.fault? renderer { fallback })) := by
  rw [← replay_returned, ← Contract.generate_eq_replay, Contract.compile, Gen.compile]
  cases contract.generate renderer { fallback } <;> rfl

/-- A unit that succeeds has passed every event and has called the renderer at every render
event. -/
theorem Contract.compile_passing {text : String}
    (compiled : (contract.compile renderer fallback).outcome = .ok text) :
    (∀ event ∈ contract.node.events renderer, event.cause? renderer { fallback } = none) ∧
      (contract.compile renderer fallback).calls =
        renderCalls { fallback } (contract.node.events renderer) := by
  rw [Contract.compile, Gen.compile, Contract.generate_eq_replay] at compiled ⊢
  rcases passing_or_failing renderer { fallback } (contract.node.events renderer) with
    passing | ⟨before, event, after, cause, split, passing, failing⟩
  · refine ⟨passing, ?_⟩
    rw [replay_passing renderer _ _ { fallback } passing]
    simp [Env.called]
  · rw [split, replay_failing renderer _ before event after cause { fallback } passing failing]
      at compiled
    cases compiled

/-- The renderer is called at render events only, whether or not the unit succeeds. -/
theorem Contract.compile_calls {call : RenderCall}
    (made : call ∈ (contract.compile renderer fallback).calls) :
    ∃ event ∈ contract.node.events renderer, event.call? { fallback } = some call := by
  rw [Contract.compile, Gen.compile, Contract.generate_eq_replay] at made
  rcases passing_or_failing renderer { fallback } (contract.node.events renderer) with
    passing | ⟨before, event, after, cause, split, passing, failing⟩
  · rw [replay_passing renderer _ _ { fallback } passing] at made
    simp only [Env.called, List.append_nil, List.reverse_reverse] at made
    exact List.mem_filterMap.mp made
  · rw [split, replay_failing renderer _ before event after cause { fallback } passing failing]
      at made
    simp only [Env.called, List.append_nil, List.reverse_reverse] at made
    obtain ⟨caller, member, calls⟩ := List.mem_filterMap.mp made
    refine ⟨caller, ?_, calls⟩
    rw [split, ← List.singleton_append, ← List.append_assoc]
    exact List.mem_append_left after member

end Units

end ContractCompiler
