import ContractCompiler.Proofs.Generation.Programs

/-!
# Strict and permissive generation

A permissive generation leaves a placeholder where a node has no lowering and goes on; a strict one
fails there. Both go through the same events. An event that leaves out no node passes or fails alike
in both, so the two runs are the same up to the first event that leaves one out
(`strict_run_cases`). If there is none, they do not differ at all; otherwise the strict run ends at
that event and names its node, however the permissive run goes on from there.

For a program this gives the three ways in which its strict and its permissive compilation can
compare (`Program.compile_strict_permissive`).
-/

namespace ContractCompiler

set_option autoImplicit false

/-! ## Omissions -/

/-- The node that an event leaves out, if it leaves out one. -/
def Event.omitted? (event : Event) : Option Node :=
  match event.step with
  | .leaveOut node => some node
  | .verify _ | .render _ => none

/-- The nodes that events leave out, in order. -/
def omissions (events : List Event) : List Node :=
  events.filterMap Event.omitted?

/-- The nodes that a permissive compilation leaves a placeholder for before it ends, in the order in
which they are lowered. -/
def Program.omitted (renderer : Renderer) (program : Program) : List Node :=
  omissions (metEvents renderer { fallback := .permissive } (program.events renderer))

/-- The environment, if nodes without a lowering make a generation fail. -/
def Env.strict (env : Env) : Env :=
  { env with fallback := .strict }

/-- The environment, if nodes without a lowering give way to placeholders. -/
def Env.permissive (env : Env) : Env :=
  { env with fallback := .permissive }

/-- The first node that is left out, if the event that leaves it out is known. -/
theorem omissions_append_cons {before after : List Event} {event : Event} {node : Node}
    (nothing : omissions before = []) (leaves : event.omitted? = some node) :
    omissions (before ++ event :: after) = node :: omissions after := by
  unfold omissions at nothing ⊢
  rw [List.filterMap_append, nothing, List.filterMap_cons_some leaves, List.nil_append]

section Events

variable {renderer : Renderer} {env : Env} {event : Event}

/-- An event that leaves out nothing passes or fails alike in both. -/
theorem Event.cause?_strict (lowered : event.omitted? = none) :
    event.cause? renderer env.strict = event.cause? renderer env.permissive := by
  cases step : event.step with
  | leaveOut node => simp [Event.omitted?, step] at lowered
  | verify construct =>
      simp only [Event.cause?, step]
      rfl
  | render binding =>
      simp only [Event.cause?, step]
      rfl

/-- An event that leaves out a node passes a permissive generation. -/
theorem Event.cause?_permissive_of_omitted {node : Node} (omitted : event.omitted? = some node) :
    event.cause? renderer env.permissive = none := by
  cases step : event.step with
  | leaveOut other =>
      simp only [Event.cause?, step]
      rfl
  | verify construct => simp [Event.omitted?, step] at omitted
  | render binding => simp [Event.omitted?, step] at omitted

/-- An event that leaves out a node fails a strict generation and names the node. -/
theorem Event.cause?_strict_of_omitted {node : Node} (omitted : event.omitted? = some node) :
    event.cause? renderer env.strict =
      some (.generation (.unsupportedNode node.describe)) := by
  cases step : event.step with
  | leaveOut other =>
      simp only [Event.omitted?, step, Option.some.injEq] at omitted
      subst omitted
      simp only [Event.cause?, step]
      rfl
  | verify construct => simp [Event.omitted?, step] at omitted
  | render binding => simp [Event.omitted?, step] at omitted

/-- **The strict run beside the permissive one.** They are the same if the permissive run leaves out
nothing. Otherwise the strict run ends at the first event that leaves out a node, with a fault that
names the node. -/
theorem strict_run_cases (renderer : Renderer) (env : Env) (events : List Event) :
    (omissions (metEvents renderer env.permissive events) = [] ∧
      metEvents renderer env.strict events = metEvents renderer env.permissive events ∧
      events.findSome? (·.fault? renderer env.strict) =
        events.findSome? (·.fault? renderer env.permissive)) ∨
    ∃ before event after node,
      metEvents renderer env.permissive events = before ++ event :: after ∧
      omissions before = [] ∧ event.omitted? = some node ∧
      metEvents renderer env.strict events = before ++ [event] ∧
      events.findSome? (·.fault? renderer env.strict) =
        some ⟨trail (event.frames env), .generation (.unsupportedNode node.describe)⟩ := by
  induction events with
  | nil => exact .inl ⟨rfl, rfl, rfl⟩
  | cons event rest ih =>
      cases omitted : event.omitted? with
      | some node =>
          have passes := @Event.cause?_permissive_of_omitted renderer env event node omitted
          have failing := @Event.cause?_strict_of_omitted renderer env event node omitted
          exact .inr ⟨[], event, metEvents renderer env.permissive rest, node,
            metEvents_cons_of_passing passes, rfl, omitted, metEvents_cons_of_failing failing,
            findSome?_fault?_cons_of_failing failing⟩
      | none =>
          have alike := @Event.cause?_strict renderer env event omitted
          cases verdict : event.cause? renderer env.permissive with
          | some cause =>
              rw [verdict] at alike
              rw [metEvents_cons_of_failing verdict, metEvents_cons_of_failing alike,
                findSome?_fault?_cons_of_failing verdict, findSome?_fault?_cons_of_failing alike]
              exact .inl ⟨List.filterMap_cons_none omitted, rfl, rfl⟩
          | none =>
              rw [verdict] at alike
              rw [metEvents_cons_of_passing verdict, metEvents_cons_of_passing alike,
                findSome?_fault?_cons_of_passing verdict, findSome?_fault?_cons_of_passing alike]
              have onward : ∀ later, omissions (event :: later) = omissions later :=
                fun later => List.filterMap_cons_none omitted
              rcases ih with ⟨nothing, sameMet, sameRest⟩ |
                ⟨before, first, after, node, met, nothing, leaves, metStrict, fault⟩
              · exact .inl ⟨(onward _).trans nothing, congrArg (event :: ·) sameMet, sameRest⟩
              · exact .inr ⟨event :: before, first, after, node, congrArg (event :: ·) met,
                  (onward _).trans nothing, leaves, congrArg (event :: ·) metStrict, fault⟩

end Events

/-! ## Programs -/

section Programs

variable {renderer : Renderer} {program : Program}

/-- If the permissive compilation leaves out nothing, the strict one is the same. -/
theorem Program.compile_strict_of_nil (nothing : program.omitted renderer = []) :
    program.compile renderer .strict = program.compile renderer .permissive := by
  rw [Program.compile_eq, Program.compile_eq]
  rcases strict_run_cases renderer {} (program.events renderer) with
    ⟨_, sameMet, sameFault⟩ | ⟨before, event, after, node, met, clear, leaves, _, _⟩
  · rw [Compilation.mk.injEq]
    exact ⟨congrArg (faultOr _) sameFault, congrArg (renderCalls {}) sameMet⟩
  · have listed : program.omitted renderer = node :: omissions after :=
      (congrArg omissions met).trans (omissions_append_cons clear leaves)
    rw [nothing] at listed
    cases listed

/-- If the permissive compilation leaves out a node, the strict one fails at the first such node. -/
theorem Program.compile_strict_of_cons {node : Node} {rest : List Node}
    (first : program.omitted renderer = node :: rest) :
    ∃ context, (program.compile renderer .strict).outcome =
      .error ⟨context, .generation (.unsupportedNode node.describe)⟩ := by
  rcases strict_run_cases renderer {} (program.events renderer) with
    ⟨nothing, _, _⟩ | ⟨before, event, after, found, met, clear, leaves, _, fault⟩
  · cases first.symm.trans nothing
  · have listed : program.omitted renderer = found :: omissions after :=
      (congrArg omissions met).trans (omissions_append_cons clear leaves)
    obtain ⟨rfl, _⟩ := List.cons.inj (listed.symm.trans first)
    refine ⟨trail (event.frames {}), ?_⟩
    rw [Program.compile_eq]
    exact congrArg (faultOr _) fault

/-- The strict compilation calls the renderer as the permissive one does, as far as it comes. -/
theorem Program.strict_calls_isPrefix (renderer : Renderer) (program : Program) :
    (program.compile renderer .strict).calls <+: (program.compile renderer .permissive).calls := by
  suffices met : metEvents renderer { fallback := .strict } (program.events renderer) <+:
      metEvents renderer { fallback := .permissive } (program.events renderer) by
    rw [Program.compile_eq, Program.compile_eq]
    exact met.filterMap _
  rcases strict_run_cases renderer {} (program.events renderer) with
    ⟨_, sameMet, _⟩ | ⟨before, event, after, node, met, _, _, metStrict, _⟩
  · exact sameMet ▸ List.prefix_rfl
  · have joined : (before ++ [event]) ++ after = before ++ event :: after := by simp
    exact ⟨after, (congrArg (· ++ after) metStrict).trans (joined.trans met.symm)⟩

end Programs

/-- **Strict and permissive compilations.** If the strict compilation succeeds, the permissive one
gives the same text and leaves out nothing. If the permissive one succeeds and leaves out something,
the strict one fails and names the first node that is left out. If the permissive one fails, the
strict one fails with the same fault, or at a node that the permissive one has left out before. In
all cases the strict one has called the renderer as the permissive one did up to its end. -/
theorem Program.compile_strict_permissive (renderer : Renderer) (program : Program) :
    (∀ text, (program.compile renderer .strict).outcome = .ok text →
      (program.compile renderer .permissive).outcome = .ok text ∧
        program.omitted renderer = []) ∧
    (∀ text node rest, (program.compile renderer .permissive).outcome = .ok text →
      program.omitted renderer = node :: rest →
        ∃ context, (program.compile renderer .strict).outcome =
          .error ⟨context, .generation (.unsupportedNode node.describe)⟩) ∧
    (∀ fault, (program.compile renderer .permissive).outcome = .error fault →
      (program.compile renderer .strict).outcome = .error fault ∨
        ∃ node rest context, program.omitted renderer = node :: rest ∧
          (program.compile renderer .strict).outcome =
            .error ⟨context, .generation (.unsupportedNode node.describe)⟩) ∧
    (program.compile renderer .strict).calls <+: (program.compile renderer .permissive).calls := by
  refine ⟨?_, ?_, ?_, program.strict_calls_isPrefix renderer⟩
  · intro text compiled
    cases omitted : program.omitted renderer with
    | nil =>
        rw [Program.compile_strict_of_nil omitted] at compiled
        exact ⟨compiled, rfl⟩
    | cons node rest =>
        obtain ⟨context, failed⟩ := Program.compile_strict_of_cons omitted
        rw [compiled] at failed
        cases failed
  · intro text node rest _ omitted
    exact Program.compile_strict_of_cons omitted
  · intro fault failed
    cases omitted : program.omitted renderer with
    | nil =>
        rw [Program.compile_strict_of_nil omitted]
        exact .inl failed
    | cons node rest =>
        obtain ⟨context, atNode⟩ := Program.compile_strict_of_cons omitted
        exact .inr ⟨node, rest, context, rfl, atNode⟩

/-- A contract with a handler of the given statements. -/
def singleHandler (body : List Node) : Program where
  items := [.contract "T" [.exec "f" [] body]]

/-- An assignment is compiled alike by both; a return and an emit are left out by the permissive
compilation, and the strict one names the return; and where an assignment to the message makes the
permissive compilation fail, the strict one fails at the emit before it. -/
theorem singleHandler_strict_permissive :
    ((singleHandler [.assign (.ident "a") (.ident "b")]).compile nameTemplate .permissive).outcome =
      .ok "contract" ∧
    (∃ context, ((singleHandler [.ret none, .emit (.ident "e")]).compile nameTemplate
        .strict).outcome = .error ⟨context, .generation (.unsupportedNode "return")⟩) ∧
    ((singleHandler [.emit (.ident "e"), .assign (.message "m") (.ident "b")]).compile nameTemplate
        .permissive).outcome =
      .error ⟨"contract T > exec f > assign $msg.m", .verification (.readOnlyTarget "$msg.m")⟩ ∧
    ∃ node rest context,
      (singleHandler [.emit (.ident "e"), .assign (.message "m") (.ident "b")]).omitted
        nameTemplate = node :: rest ∧
      ((singleHandler [.emit (.ident "e"), .assign (.message "m") (.ident "b")]).compile
        nameTemplate .strict).outcome =
          .error ⟨context, .generation (.unsupportedNode node.describe)⟩ := by
  refine ⟨?_, ?_, rfl, ?_⟩
  · exact ((Program.compile_strict_permissive nameTemplate _).1 "contract" rfl).1
  · exact (Program.compile_strict_permissive nameTemplate _).2.1 "contract" (.ret none)
      [.emit (.ident "e")] rfl rfl
  · rcases (Program.compile_strict_permissive nameTemplate
      (singleHandler [.emit (.ident "e"), .assign (.message "m") (.ident "b")])).2.2.1 _ rfl with
      same | found
    · cases same
    · exact found

end ContractCompiler
