import ContractCompiler.Proofs.Generation.Units

/-!
# Programs as sequences of units

Compiling a program compiles its contracts one after another, up to the first one that fails. The
whole compilation is described by one list of events, those of the units in order
(`Program.events`). Its outcome is the fault of the first event that has one, or else the texts of
the units, joined. The renderer has been called at the render events among those that were met,
which are the events up to the first one that fails (`Program.compile_eq`).
-/

namespace ContractCompiler

set_option autoImplicit false

/-! ## The events that are met -/

/-- The events that a replay goes through: all up to the first one that fails, and that one. -/
def metEvents (renderer : Renderer) (env : Env) : List Event → List Event
  | [] => []
  | event :: rest =>
      if event.Fails renderer env then [event] else event :: metEvents renderer env rest

section Met

variable {renderer : Renderer} {env : Env} {event : Event} {cause : Cause} {events : List Event}

theorem metEvents_cons_of_passing (passes : event.cause? renderer env = none) :
    metEvents renderer env (event :: events) = event :: metEvents renderer env events := by
  rw [metEvents, if_neg fun fails : event.Fails renderer env => fails passes]

theorem metEvents_cons_of_failing (failing : event.cause? renderer env = some cause) :
    metEvents renderer env (event :: events) = [event] := by
  have fails : event.Fails renderer env := by simp [Event.Fails, failing]
  rw [metEvents, if_pos fails]

theorem findSome?_fault?_cons_of_passing (passes : event.cause? renderer env = none) :
    (event :: events).findSome? (·.fault? renderer env) =
      events.findSome? (·.fault? renderer env) := by
  simp [Event.fault?, passes]

theorem findSome?_fault?_cons_of_failing (failing : event.cause? renderer env = some cause) :
    (event :: events).findSome? (·.fault? renderer env) =
      some ⟨trail (event.frames env), cause⟩ := by
  simp [Event.fault?, failing]

/-- There is no fault exactly if every event passes. -/
theorem findSome?_fault?_eq_none :
    events.findSome? (·.fault? renderer env) = none ↔
      ∀ event ∈ events, event.cause? renderer env = none := by
  simp [List.findSome?_eq_none_iff, Event.fault?]

/-- If all events of a list pass, those that follow it are met as well. -/
theorem metEvents_append_of_passing (passing : ∀ event ∈ events, event.cause? renderer env = none)
    (further : List Event) :
    metEvents renderer env (events ++ further) = events ++ metEvents renderer env further := by
  induction events with
  | nil => rfl
  | cons event rest ih =>
      rw [List.cons_append, metEvents_cons_of_passing (passing event List.mem_cons_self),
        List.cons_append, ih fun later inRest => passing later (List.mem_cons_of_mem _ inRest)]

/-- If all events pass, all of them are met. -/
theorem metEvents_of_passing (passing : ∀ event ∈ events, event.cause? renderer env = none) :
    metEvents renderer env events = events := by
  simpa [metEvents] using metEvents_append_of_passing passing []

/-- Nothing is met beyond an event that fails. -/
theorem metEvents_of_failing {before after : List Event}
    (passing : ∀ earlier ∈ before, earlier.cause? renderer env = none)
    (failing : event.cause? renderer env = some cause) :
    metEvents renderer env (before ++ event :: after) = before ++ [event] := by
  rw [metEvents_append_of_passing passing, metEvents_cons_of_failing failing]

/-- If there is a fault in a list of events, nothing after the list is met. -/
theorem metEvents_append_of_fault {fault : Fault}
    (found : events.findSome? (·.fault? renderer env) = some fault) (further : List Event) :
    metEvents renderer env (events ++ further) = metEvents renderer env events := by
  rcases passing_or_failing renderer env events with
    passing | ⟨before, event, after, cause, rfl, passing, failing⟩
  · rw [findSome?_fault?_eq_none.mpr passing] at found
    cases found
  · rw [List.append_assoc, List.cons_append, metEvents_of_failing passing failing,
      metEvents_of_failing passing failing]

/-- The events that are met are the first ones of the list. -/
theorem metEvents_isPrefix : metEvents renderer env events <+: events := by
  rcases passing_or_failing renderer env events with
    passing | ⟨before, event, after, cause, rfl, passing, failing⟩
  · exact ⟨[], by rw [metEvents_of_passing passing, List.append_nil]⟩
  · rw [metEvents_of_failing passing failing, List.append_cons before event after]
    exact List.prefix_append _ _

/-- A replay calls the renderer at the render events that it meets. -/
theorem replay_leftBehind_eq {α : Type} (value : α) :
    leftBehind (replay renderer value events env) =
      env.called (renderCalls env (metEvents renderer env events)) := by
  rcases passing_or_failing renderer env events with
    passing | ⟨before, event, after, cause, rfl, passing, failing⟩
  · rw [replay_passing renderer value events env passing, metEvents_of_passing passing]
    rfl
  · rw [replay_failing renderer value before event after cause env passing failing,
      metEvents_of_failing passing failing]
    rfl

end Met

/-! ## One unit after another -/

section Programs

variable (renderer : Renderer) (fallback : Fallback)

/-- The text of a contract, if nothing fails in generating it. -/
def Contract.text (contract : Contract) : String :=
  textOf renderer (contract.binding renderer)

/-- The events of compiling a program, unit by unit. -/
def Program.events (program : Program) : List Event :=
  program.contracts.flatMap fun contract => contract.node.events renderer

/-- A compilation in terms of a run from a fresh environment. -/
theorem Gen.compile_eq {α : Type} (computation : Gen α) :
    computation.compile fallback =
      { outcome := returned (computation { fallback })
        calls := (leftBehind (computation { fallback })).calls.reverse } := by
  unfold Gen.compile
  cases computation { fallback } <;> rfl

/-- The outcome of a unit and its calls of the renderer. -/
theorem Contract.compile_eq (contract : Contract) :
    contract.compile renderer fallback =
      { outcome := faultOr (contract.text renderer)
          ((contract.node.events renderer).findSome? (·.fault? renderer { fallback }))
        calls := renderCalls { fallback }
          (metEvents renderer { fallback } (contract.node.events renderer)) } := by
  rw [Contract.compile, Gen.compile_eq, Contract.generate_eq_replay, replay_returned,
    replay_leftBehind_eq]
  simp [Env.called, Contract.text]

/-- **The compilation of contracts** goes through the events of their units. -/
theorem compileAll_eq (contracts : List Contract) :
    compileAll renderer fallback contracts =
      { outcome := faultOr (String.join (contracts.map (Contract.text renderer)))
          ((contracts.flatMap fun contract => contract.node.events renderer).findSome?
            (·.fault? renderer { fallback }))
        calls := renderCalls { fallback } (metEvents renderer { fallback }
          (contracts.flatMap fun contract => contract.node.events renderer)) } := by
  induction contracts with
  | nil => rfl
  | cons contract rest ih =>
      rw [compileAll, contract.compile_eq, ih, List.flatMap_cons, List.findSome?_append]
      cases found : (contract.node.events renderer).findSome? (·.fault? renderer { fallback }) with
      | some fault =>
          rw [metEvents_append_of_fault found]
          rfl
      | none =>
          rw [metEvents_append_of_passing (findSome?_fault?_eq_none.mp found),
            metEvents_of_passing (findSome?_fault?_eq_none.mp found), Option.none_or,
            List.map_cons, String.join_cons, renderCalls, renderCalls, renderCalls,
            List.filterMap_append]
          cases (rest.flatMap fun contract => contract.node.events renderer).findSome?
            (·.fault? renderer { fallback }) <;> rfl

/-- **The compilation of a program** goes through the events of its units. -/
theorem Program.compile_eq (program : Program) :
    program.compile renderer fallback =
      { outcome := faultOr (String.join (program.contracts.map (Contract.text renderer)))
          ((program.events renderer).findSome? (·.fault? renderer { fallback }))
        calls := renderCalls { fallback }
          (metEvents renderer { fallback } (program.events renderer)) } :=
  compileAll_eq renderer fallback program.contracts

/-- A compilation of a program that succeeds has passed every event, has called the renderer at
every render event, and gives the texts of the units, joined. -/
theorem Program.compile_passing {program : Program} {text : String}
    (compiled : (program.compile renderer fallback).outcome = .ok text) :
    (∀ event ∈ program.events renderer, event.cause? renderer { fallback } = none) ∧
      (program.compile renderer fallback).calls =
        renderCalls { fallback } (program.events renderer) ∧
      text = String.join (program.contracts.map (Contract.text renderer)) := by
  rw [Program.compile_eq] at compiled ⊢
  cases found : (program.events renderer).findSome? (·.fault? renderer { fallback }) with
  | some fault =>
      rw [found] at compiled
      cases compiled
  | none =>
      rw [found] at compiled
      have passing := findSome?_fault?_eq_none.mp found
      refine ⟨passing, ?_, (Except.ok.inj compiled).symm⟩
      rw [metEvents_of_passing passing]

end Programs

end ContractCompiler
