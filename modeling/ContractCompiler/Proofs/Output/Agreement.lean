import ContractCompiler.Output.Dump
import ContractCompiler.Proofs.Generation.Rendered
import ContractCompiler.Proofs.Generation.Units
import ContractCompiler.Proofs.Output.Rendering

/-!
# Checking and compiling agree

A program can be checked by writing out its bindings and compiled by writing CosmWasm source. Both
renderers accept the binding of every construct, so a generation fails at a verification or at a
node without a lowering, and never at a rendering. Those events are the same for both renderers,
and with them the first fault (`firstFault_eq`): a contract fails to compile exactly if it fails
the check, with the same fault (`Program.compileEach_agree`).

The texts that the two renderers put into the values of outer constructs have nothing in common. A
text may decide how a member of it is lowered, and so the template of an assignment, but not whether
something is verified, left out or rendered.
-/

namespace ContractCompiler

set_option autoImplicit false

/-- A renderer that rejects no binding of a construct. -/
def Renderer.Accepting (renderer : Renderer) : Prop :=
  ∀ (construct : Node) (binding : Binding), construct.binding? renderer = some binding →
    ∃ text, renderer binding = .ok text

theorem dump_accepting : Renderer.Accepting dump := by
  intro construct binding _
  exact ⟨dumpText binding, rfl⟩

theorem CosmWasm.render_accepting (layout : Layout) : (CosmWasm.render layout).Accepting := by
  intro construct binding bound
  obtain ⟨before, answer⟩ := CosmWasm.render_accepts layout bound
  exact ⟨before ++ "\n", answer⟩

section Accepting

variable {renderer : Renderer} (accepting : renderer.Accepting)
include accepting

/-- A render event of a node does not fail. -/
theorem Renderer.Accepting.renders {node : Node} {event : Event} {binding : Binding}
    (member : event ∈ node.events renderer) (renders : event.step = .render binding) :
    ∃ text, renderer binding = .ok text := by
  obtain ⟨construct, bound, _⟩ :=
    (node.events_verified_and_rendered renderer).verified event member binding renders
  exact accepting construct binding bound

/-- The fault of an event does not depend on its binding. -/
theorem Renderer.Accepting.fault?_blank {node : Node} {event : Event}
    (member : event ∈ node.events renderer) (env : Env) :
    event.fault? renderer env = event.blank.fault? (fun _ => .ok "") env := by
  have frames : event.blank.frames env = event.frames env := rfl
  have table : event.blank.table env = event.table env := rfl
  suffices causes : event.cause? renderer env = event.blank.cause? (fun _ => .ok "") env by
    rw [Event.fault?, Event.fault?, causes, frames]
  unfold Event.cause?
  rw [table]
  cases step : event.step with
  | verify construct =>
      rw [Event.blank, step]
      rfl
  | leaveOut node =>
      rw [Event.blank, step]
      rfl
  | render binding =>
      obtain ⟨text, answer⟩ := accepting.renders member step
      rw [Event.blank, step, Step.cause?, answer]
      rfl

/-- The first fault of a node is the first fault of its events without their bindings. -/
theorem Renderer.Accepting.firstFault (node : Node) (env : Env) :
    (node.events renderer).findSome? (·.fault? renderer env) =
      ((node.events renderer).map Event.blank).findSome? (·.fault? (fun _ => .ok "") env) := by
  have pointwise : ∀ events : List Event, (∀ event ∈ events, event ∈ node.events renderer) →
      events.findSome? (·.fault? renderer env) =
        (events.map Event.blank).findSome? (·.fault? (fun _ => .ok "") env) := by
    intro events
    induction events with
    | nil =>
        intro _
        rfl
    | cons event rest ih =>
        intro members
        rw [List.map_cons, List.findSome?_cons, List.findSome?_cons,
          accepting.fault?_blank (members event List.mem_cons_self) env,
          ih fun later member => members later (List.mem_cons_of_mem _ member)]
  exact pointwise _ fun _ member => member

/-- A fault is a violated rule or, in a strict generation, a node without a lowering. -/
theorem Renderer.Accepting.fault_cause {node : Node} {env : Env} {fault : Fault}
    (found : (node.events renderer).findSome? (·.fault? renderer env) = some fault) :
    (∃ violation, fault.cause = .verification violation) ∨
      env.fallback = .strict ∧
        ∃ description, fault.cause = .generation (.unsupportedNode description) := by
  obtain ⟨event, member, failing⟩ := List.exists_of_findSome?_eq_some found
  obtain ⟨cause, fails, rfl⟩ := Option.map_eq_some_iff.mp failing
  rcases Step.fails_cases fails with ⟨construct, violation, _, _, rfl⟩ |
    ⟨binding, failure, renders, rejected, _⟩ | ⟨omitted, _, strict, rfl⟩
  · exact .inl ⟨violation, rfl⟩
  · obtain ⟨text, answer⟩ := accepting.renders member renders
    rw [answer] at rejected
    cases rejected
  · exact .inr ⟨strict, omitted.describe, rfl⟩

end Accepting

/-- **Accepting renderers meet the same first fault.** -/
theorem firstFault_eq {first second : Renderer} (accepts : first.Accepting)
    (admits : second.Accepting) (node : Node) (env : Env) :
    (node.events first).findSome? (·.fault? first env) =
      (node.events second).findSome? (·.fault? second env) := by
  rw [accepts.firstFault, admits.firstFault, node.events_blank first second]

/-- What a unit comes to, without its text. -/
def Compilation.verdict {α : Type} (compilation : Compilation α) : Except Fault Unit :=
  compilation.outcome.map fun _ => ()

/-- A unit comes to the fault of its first event that has one. -/
theorem Contract.compile_verdict (renderer : Renderer) (fallback : Fallback)
    (contract : Contract) :
    (contract.compile renderer fallback).verdict =
      faultOr () ((contract.node.events renderer).findSome? (·.fault? renderer { fallback })) := by
  rw [Compilation.verdict, contract.compile_outcome]
  cases (contract.node.events renderer).findSome? (·.fault? renderer { fallback }) <;> rfl

/-- **Checking and compiling a program agree.** For every contract the two renderers both succeed or
meet the same fault; the fault is a violated rule or, in a strict generation, a node without a
lowering; and no binding that is handed over is rejected. -/
theorem Program.compileEach_agree (program : Program) (fallback : Fallback) (layout : Layout) :
    ((program.compileEach dump fallback).map fun (contract, unit) => (contract, unit.verdict)) =
      ((program.compileEach (CosmWasm.render layout) fallback).map fun (contract, unit) =>
        (contract, unit.verdict)) ∧
    ∀ renderer, renderer = dump ∨ renderer = CosmWasm.render layout →
      ∀ unit ∈ program.compileEach renderer fallback,
        (∀ fault, unit.2.outcome = .error fault →
          (∃ violation, fault.cause = .verification violation) ∨
          fallback = .strict ∧
            ∃ description, fault.cause = .generation (.unsupportedNode description)) ∧
        ∀ call ∈ unit.2.calls, ∃ text, renderer call.binding = .ok text := by
  refine ⟨?_, ?_⟩
  · unfold Program.compileEach
    rw [List.map_map, List.map_map]
    refine List.map_congr_left fun contract _ => congrArg (Prod.mk contract) ?_
    rw [Contract.compile_verdict, Contract.compile_verdict,
      firstFault_eq dump_accepting (CosmWasm.render_accepting layout)]
  · intro renderer choice unit member
    have accepting : renderer.Accepting := by
      rcases choice with rfl | rfl
      · exact dump_accepting
      · exact CosmWasm.render_accepting layout
    obtain ⟨contract, _, rfl⟩ := List.mem_map.mp member
    refine ⟨?_, ?_⟩
    · intro fault failed
      rw [contract.compile_outcome] at failed
      cases found : (contract.node.events renderer).findSome? (·.fault? renderer { fallback }) with
      | none =>
          rw [found] at failed
          cases failed
      | some first =>
          rw [found] at failed
          cases failed
          exact accepting.fault_cause found
    · intro call made
      obtain ⟨event, inEvents, calls⟩ := contract.compile_calls renderer fallback made
      exact accepting.renders inEvents (Event.call?_eq_some calls).1

/-- A contract with a return. -/
def returning : Contract where
  name := "Returning"
  body := [.exec "f" [] [.ret none]]

/-- A contract with an assignment. -/
def copying : Contract where
  name := "Copying"
  body := [.exec "g" [] [.assign (.ident "a") (.ident "b")]]

/-- In a strict generation both renderers fail on the first contract and pass the second one. The
first one violates no rule: it fails at a node without a lowering, its return. The binding of the
assignment in the second one is handed over and accepted. -/
theorem returning_copying_agree :
    ((Program.compileEach dump .strict ⟨[returning.node, copying.node]⟩).map
        fun (contract, unit) => (contract, unit.verdict)) =
      [(returning, .error ⟨"contract Returning > exec f", .generation (.unsupportedNode "return")⟩),
        (copying, .ok ())] ∧
    (∃ fault, (returning.compile dump .strict).outcome = .error fault ∧
      ∃ description, fault.cause = .generation (.unsupportedNode description)) ∧
    ∃ call ∈ (copying.compile (CosmWasm.render {}) .strict).calls,
      call.binding = .ofAssignment true (.fragment "a") (.fragment "b") ∧
      ∃ text, CosmWasm.render {} call.binding = .ok text := by
  have agree := Program.compileEach_agree ⟨[returning.node, copying.node]⟩ .strict {}
  refine ⟨agree.1.trans rfl, ⟨_, rfl, ?_⟩, _, List.mem_cons_self, rfl, ?_⟩
  · rcases (agree.2 dump (.inl rfl) (returning, returning.compile dump .strict)
      List.mem_cons_self).1 _ rfl with ⟨violation, violated⟩ | ⟨_, unsupported⟩
    · cases violated
    · exact unsupported
  · exact (agree.2 (CosmWasm.render {}) (.inr rfl)
      (copying, copying.compile (CosmWasm.render {}) .strict)
      (List.mem_cons_of_mem _ List.mem_cons_self)).2 _ List.mem_cons_self

end ContractCompiler
