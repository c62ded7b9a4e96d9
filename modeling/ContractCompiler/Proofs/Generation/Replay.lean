import ContractCompiler.Generation.Lowering

/-!
# Generation as a sequence of events

A generation fails at three kinds of places: where a construct is verified, where a binding is
rendered, and where a node without a lowering is met. An `Event` is such a place together with the
constructs entered since the start of the generation and the state that the innermost contract
among them declares. Nothing in an event refers to the environment that the generation starts in.

`replay` goes through a list of events. It stops at the first event that fails and otherwise gives
a fixed value. The computations of this library are replays: the empty one is `pure`, one after the
other is concatenation (`bind_replay`), and a scope is an event transformer
(`within_replay`, `declaring_replay`). Two statements say what a replay does to its environment,
`replay_passing` where no event fails and `replay_failing` at the first event that does.
-/

namespace ContractCompiler

set_option autoImplicit false

/-! ## Events -/

/-- What can fail in a generation. -/
inductive Step where
  /-- The rules for a construct are checked. -/
  | verify (construct : Node)
  /-- A binding is handed to the renderer. -/
  | render (binding : Binding)
  /-- A node that has no lowering is met. -/
  | leaveOut (node : Node)

/-- The reason why a step fails under the given state declarations, if it does. -/
def Step.cause? (renderer : Renderer) (fallback : Fallback) (table : Option StateTable) :
    Step → Option Cause
  | .verify construct =>
      match construct.rules table with
      | .ok () => none
      | .error violation => some (.verification violation)
  | .render binding =>
      match renderer binding with
      | .ok _ => none
      | .error failure => some (.generation failure)
  | .leaveOut node =>
      match fallback with
      | .permissive => none
      | .strict => some (.generation (.unsupportedNode node.describe))

/-- How a step can fail: a rule is violated, a binding is rejected, or a node has no lowering in a
strict generation. -/
theorem Step.fails_cases {renderer : Renderer} {fallback : Fallback} {table : Option StateTable}
    {step : Step} {cause : Cause} (fails : step.cause? renderer fallback table = some cause) :
    (∃ construct violation, step = .verify construct ∧ construct.rules table = .error violation ∧
      cause = .verification violation) ∨
    (∃ binding failure, step = .render binding ∧ renderer binding = .error failure ∧
      cause = .generation failure) ∨
    ∃ node, step = .leaveOut node ∧ fallback = .strict ∧
      cause = .generation (.unsupportedNode node.describe) := by
  cases step with
  | verify construct =>
      cases kept : construct.rules table with
      | ok => simp [Step.cause?, kept] at fails
      | error violation =>
          refine .inl ⟨construct, violation, rfl, kept, ?_⟩
          simpa [Step.cause?, kept] using fails.symm
  | render binding =>
      cases answer : renderer binding with
      | ok text => simp [Step.cause?, answer] at fails
      | error failure =>
          refine .inr (.inl ⟨binding, failure, rfl, answer, ?_⟩)
          simpa [Step.cause?, answer] using fails.symm
  | leaveOut node =>
      cases fallback with
      | permissive => simp [Step.cause?] at fails
      | strict =>
          refine .inr (.inr ⟨node, rfl, rfl, ?_⟩)
          simpa [Step.cause?] using fails.symm

/-- A step, the constructs entered since the start of the generation, innermost first, and the
state declared by the innermost contract among them. -/
structure Event where
  step : Step
  opened : List Frame := []
  declared : Option StateTable := none

namespace Event

/-- A step at the start of a generation, inside of nothing. -/
def here (step : Step) : Event :=
  { step }

/-- The event within a further construct around it. -/
def inside (frame : Frame) (event : Event) : Event :=
  { event with opened := event.opened ++ [frame] }

/-- The event under the state declarations of a contract around it, unless an inner contract has
declarations of its own. -/
def under (decls : List StateDecl) (event : Event) : Event :=
  { event with declared := event.declared.or (some ⟨decls⟩) }

/-- The constructs that are being generated at an event. -/
def frames (env : Env) (event : Event) : List Frame :=
  event.opened ++ env.frames

/-- The state declarations in force at an event. -/
def table (env : Env) (event : Event) : Option StateTable :=
  event.declared.or env.table

/-- The reason why an event fails, if it does. -/
def cause? (renderer : Renderer) (env : Env) (event : Event) : Option Cause :=
  event.step.cause? renderer env.fallback (event.table env)

/-- Whether an event fails. -/
def Fails (renderer : Renderer) (env : Env) (event : Event) : Prop :=
  event.cause? renderer env ≠ none

instance (renderer : Renderer) (env : Env) (event : Event) :
    Decidable (event.Fails renderer env) :=
  inferInstanceAs (Decidable (event.cause? renderer env ≠ none))

/-- The fault that ends a generation at an event, if the event fails. -/
def fault? (renderer : Renderer) (env : Env) (event : Event) : Option Fault :=
  (event.cause? renderer env).map fun cause => ⟨trail (event.frames env), cause⟩

/-- The call of the renderer at an event, if there is one. -/
def call? (env : Env) (event : Event) : Option RenderCall :=
  match event.step with
  | .render binding => some ⟨binding, event.frames env, event.table env⟩
  | .verify _ | .leaveOut _ => none

end Event

/-- The calls of the renderer in a list of events, in order. -/
def renderCalls (env : Env) (events : List Event) : List RenderCall :=
  events.filterMap (·.call? env)

/-- The environment after further calls of the renderer. -/
def Env.called (env : Env) (calls : List RenderCall) : Env :=
  { env with calls := calls.reverse ++ env.calls }

/-- Goes through events in order. The first one that fails ends the generation with its cause, in
the constructs open at that event; if there is none, the generation gives the value. -/
def replay {α : Type} (renderer : Renderer) (value : α) : List Event → Gen α
  | [] => fun env => .ok value env
  | event :: rest => fun env =>
      match event.cause? renderer env with
      | some cause => .error ⟨trail (event.frames env), cause⟩ (env.called (event.call? env).toList)
      | none => replay renderer value rest (env.called (event.call? env).toList)

/-- What a run returned. -/
def returned {α : Type} : EStateM.Result Fault Env α → Except Fault α
  | .ok value _ => .ok value
  | .error fault _ => .error fault

/-- What a run returns that meets the given fault, if any. -/
def faultOr {α : Type} (value : α) : Option Fault → Except Fault α
  | some fault => .error fault
  | none => .ok value

/-- The environment that a run left behind. -/
def leftBehind {α : Type} : EStateM.Result Fault Env α → Env
  | .ok _ left => left
  | .error _ left => left

/-! ## The environment of an event -/

namespace Env

variable (env : Env) (calls more : List RenderCall)

@[simp] theorem called_called : (env.called calls).called more = env.called (calls ++ more) := by
  simp [called]

end Env

namespace Event

variable (event : Event) (env : Env)

@[simp] theorem frames_called (calls : List RenderCall) :
    event.frames (env.called calls) = event.frames env := rfl

@[simp] theorem call?_called (calls : List RenderCall) :
    event.call? (env.called calls) = event.call? env := rfl

/-- An event in a construct, seen from outside and from inside of the construct. -/
theorem frames_inside (frame : Frame) :
    (event.inside frame).frames env = event.frames { env with frames := frame :: env.frames } := by
  simp [frames, inside]

/-- An event under declarations, seen from outside and from inside of the contract. -/
theorem table_under (decls : List StateDecl) :
    (event.under decls).table env = event.table { env with table := some ⟨decls⟩ } := by
  cases declared : event.declared <;> simp [table, under, declared]

theorem cause?_inside (renderer : Renderer) (frame : Frame) :
    (event.inside frame).cause? renderer env =
      event.cause? renderer { env with frames := frame :: env.frames } := rfl

theorem cause?_under (renderer : Renderer) (decls : List StateDecl) :
    (event.under decls).cause? renderer env =
      event.cause? renderer { env with table := some ⟨decls⟩ } := by
  simp only [cause?, table_under]
  rfl

theorem call?_inside (frame : Frame) :
    (event.inside frame).call? env = event.call? { env with frames := frame :: env.frames } := by
  unfold call?
  rw [frames_inside]
  rfl

theorem call?_under (decls : List StateDecl) :
    (event.under decls).call? env = event.call? { env with table := some ⟨decls⟩ } := by
  unfold call?
  rw [table_under]
  rfl

variable {event env}

/-- The renderer is called with a binding to render, in the place of the event. -/
theorem call?_eq_some {call : RenderCall} (calls : event.call? env = some call) :
    event.step = .render call.binding ∧ call.frames = event.frames env ∧
      call.table = event.table env := by
  cases step : event.step with
  | render binding =>
      rw [call?, step] at calls
      cases calls
      exact ⟨rfl, rfl, rfl⟩
  | verify construct =>
      rw [call?, step] at calls
      cases calls
  | leaveOut node =>
      rw [call?, step] at calls
      cases calls

end Event

/-! ## What a replay does -/

section Replay

variable {α β : Type} (renderer : Renderer)

theorem renderCalls_called (env : Env) (calls : List RenderCall) (events : List Event) :
    renderCalls (env.called calls) events = renderCalls env events := rfl

theorem renderCalls_cons (env : Env) (event : Event) (rest : List Event) :
    renderCalls env (event :: rest) = (event.call? env).toList ++ renderCalls env rest := by
  cases called : event.call? env <;> simp [renderCalls, called]

/-- A replay at its first event, if that one fails. -/
theorem replay_cons_failing {value : α} {event : Event} {rest : List Event} {env : Env}
    {cause : Cause} (failing : event.cause? renderer env = some cause) :
    replay renderer value (event :: rest) env =
      .error ⟨trail (event.frames env), cause⟩ (env.called (event.call? env).toList) := by
  simp only [replay, failing]

/-- A replay at its first event, if that one passes. -/
theorem replay_cons_passing {value : α} {event : Event} {rest : List Event} {env : Env}
    (passing : event.cause? renderer env = none) :
    replay renderer value (event :: rest) env =
      replay renderer value rest (env.called (event.call? env).toList) := by
  simp only [replay, passing]

/-- **Events that all pass.** The replay gives its value, and has called the renderer for each of
its render events. -/
theorem replay_passing (value : α) (events : List Event) :
    ∀ env : Env, (∀ event ∈ events, event.cause? renderer env = none) →
      replay renderer value events env = .ok value (env.called (renderCalls env events)) := by
  induction events with
  | nil =>
      intro env _
      rfl
  | cons event rest ih =>
      intro env passing
      have restPassing : ∀ later ∈ rest,
          later.cause? renderer (env.called (event.call? env).toList) = none :=
        fun later member => passing later (List.mem_cons_of_mem _ member)
      rw [replay_cons_passing renderer (passing event List.mem_cons_self), ih _ restPassing,
        Env.called_called, renderCalls_called, renderCalls_cons]

/-- **The first event that fails.** The replay ends with its cause in the constructs open at it,
and has called the renderer for the render events up to it. -/
theorem replay_failing (value : α) (before : List Event) (event : Event) (after : List Event)
    (cause : Cause) :
    ∀ env : Env, (∀ earlier ∈ before, earlier.cause? renderer env = none) →
      event.cause? renderer env = some cause →
      replay renderer value (before ++ event :: after) env =
        .error ⟨trail (event.frames env), cause⟩
          (env.called (renderCalls env (before ++ [event]))) := by
  induction before with
  | nil =>
      intro env _ failing
      rw [List.nil_append, replay_cons_failing renderer failing, List.nil_append, renderCalls_cons]
      simp [renderCalls]
  | cons earlier rest ih =>
      intro env passing failing
      have restPassing : ∀ later ∈ rest,
          later.cause? renderer (env.called (earlier.call? env).toList) = none :=
        fun later member => passing later (List.mem_cons_of_mem _ member)
      rw [List.cons_append, replay_cons_passing renderer (passing earlier List.mem_cons_self),
        ih _ restPassing failing, Env.called_called, renderCalls_called, List.cons_append,
        renderCalls_cons, Event.frames_called]

/-- Events either all pass or have a first one that fails. -/
theorem passing_or_failing (env : Env) (events : List Event) :
    (∀ event ∈ events, event.cause? renderer env = none) ∨
      ∃ before event after cause, events = before ++ event :: after ∧
        (∀ earlier ∈ before, earlier.cause? renderer env = none) ∧
        event.cause? renderer env = some cause := by
  induction events with
  | nil => exact .inl (by simp)
  | cons event rest ih =>
      cases failing : event.cause? renderer env with
      | some cause => exact .inr ⟨[], event, rest, cause, rfl, by simp, failing⟩
      | none =>
          rcases ih with passing | ⟨before, later, after, cause, rfl, passing, laterFails⟩
          · refine .inl fun other member => ?_
            rcases List.mem_cons.mp member with rfl | inRest
            · exact failing
            · exact passing other inRest
          · refine .inr ⟨event :: before, later, after, cause, rfl, ?_, laterFails⟩
            intro other member
            rcases List.mem_cons.mp member with rfl | inBefore
            · exact failing
            · exact passing other inBefore

/-- **What a replay returns** is the fault of the first event that has one, or else its value. -/
theorem replay_returned (value : α) (events : List Event) (env : Env) :
    returned (replay renderer value events env) =
      faultOr value (events.findSome? (·.fault? renderer env)) := by
  rcases passing_or_failing renderer env events with
    passing | ⟨before, event, after, cause, rfl, passing, failing⟩
  · have nothing : events.findSome? (·.fault? renderer env) = none := by
      rw [List.findSome?_eq_none_iff]
      intro event member
      rw [Event.fault?, passing event member, Option.map_none]
    rw [replay_passing renderer value events env passing, nothing]
    rfl
  · have nothing : before.findSome? (·.fault? renderer env) = none := by
      rw [List.findSome?_eq_none_iff]
      intro earlier member
      rw [Event.fault?, passing earlier member, Option.map_none]
    have first : event.fault? renderer env = some ⟨trail (event.frames env), cause⟩ := by
      rw [Event.fault?, failing, Option.map_some]
    rw [replay_failing renderer value before event after cause env passing failing,
      List.findSome?_append, nothing, Option.none_or, List.findSome?_cons, first]
    rfl

/-- A replay that succeeds has passed every event, gives its value, and has called the renderer for
each of its render events. -/
theorem replay_eq_ok {value result : α} {events : List Event} {env left : Env}
    (passed : replay renderer value events env = .ok result left) :
    (∀ event ∈ events, event.cause? renderer env = none) ∧ result = value ∧
      left = env.called (renderCalls env events) := by
  rcases passing_or_failing renderer env events with
    passing | ⟨before, event, after, cause, rfl, passing, failing⟩
  · rw [replay_passing renderer value events env passing] at passed
    cases passed
    exact ⟨passing, rfl, rfl⟩
  · rw [replay_failing renderer value before event after cause env passing failing] at passed
    cases passed

/-- A replay that fails has met the fault at one of its events. -/
theorem exists_fault_of_replay {value : α} {events : List Event} {env left : Env} {fault : Fault}
    (failed : replay renderer value events env = .error fault left) :
    ∃ event ∈ events, event.fault? renderer env = some fault := by
  have answer := replay_returned renderer value events env
  rw [failed] at answer
  cases found : events.findSome? (·.fault? renderer env) with
  | none =>
      rw [found] at answer
      cases answer
  | some first =>
      rw [found] at answer
      cases answer
      exact List.exists_of_findSome?_eq_some found

/-- **What a replay leaves behind** is its environment after further calls of the renderer. -/
theorem replay_leftBehind (value : α) (events : List Event) (env : Env) :
    ∃ calls, leftBehind (replay renderer value events env) = env.called calls := by
  rcases passing_or_failing renderer env events with
    passing | ⟨before, event, after, cause, rfl, passing, failing⟩
  · rw [replay_passing renderer value events env passing]
    exact ⟨_, rfl⟩
  · rw [replay_failing renderer value before event after cause env passing failing]
    exact ⟨_, rfl⟩

/-! ## Computations as replays -/

/-- One replay after another goes through the events of both. -/
theorem bind_replay {value : α} {events : List Event} {next : α → Gen β} {result : β}
    {further : List Event} (continues : next value = replay renderer result further) :
    (replay renderer value events >>= next) = replay renderer result (events ++ further) := by
  funext env
  induction events generalizing env with
  | nil => exact congrFun continues env
  | cons event rest ih =>
      show EStateM.bind _ _ _ = _
      cases verdict : event.cause? renderer env with
      | some cause =>
          rw [List.cons_append, replay_cons_failing renderer verdict, EStateM.bind,
            replay_cons_failing renderer verdict]
      | none =>
          rw [List.cons_append, replay_cons_passing renderer verdict, EStateM.bind,
            replay_cons_passing renderer verdict]
          exact ih _

/-- A replay followed by a pure function of its value. -/
theorem map_replay (f : α → β) (value : α) (events : List Event) :
    (f <$> replay renderer value events) = replay renderer (f value) events := by
  have after : (replay renderer value events >>= fun result => pure (f result)) =
      replay renderer (f value) (events ++ []) := bind_replay renderer rfl
  rw [List.append_nil] at after
  exact (map_eq_pure_bind f _).trans after

/-- Replaying events in an inner environment is replaying changed events in the outer one, if each
event is the same seen from either side and leaving gives back the outer environment. -/
theorem afterwards_replay (outer inner : Env) {leave : Env → Env} {change : Event → Event}
    (causes : ∀ event, event.cause? renderer inner = (change event).cause? renderer outer)
    (calls : ∀ event, event.call? inner = (change event).call? outer)
    (frames : ∀ event, event.frames inner = (change event).frames outer)
    (leaves : ∀ made, leave (inner.called made) = outer.called made)
    (value : α) (events : List Event) (made : List RenderCall) :
    afterwards (replay renderer value events) leave (inner.called made) =
      replay renderer value (events.map change) (outer.called made) := by
  induction events generalizing made with
  | nil =>
      show EStateM.Result.ok value (leave (inner.called made)) = .ok value (outer.called made)
      rw [leaves]
  | cons event rest ih =>
      cases verdict : (change event).cause? renderer outer with
      | some cause =>
          have outside : (change event).cause? renderer (outer.called made) = some cause := verdict
          have failing : event.cause? renderer (inner.called made) = some cause :=
            (causes event).trans verdict
          rw [List.map_cons, afterwards, replay_cons_failing renderer failing,
            replay_cons_failing renderer outside]
          simp only [Env.called_called, Event.frames_called, Event.call?_called, leaves, calls,
            frames]
      | none =>
          have outside : (change event).cause? renderer (outer.called made) = none := verdict
          have passing : event.cause? renderer (inner.called made) = none :=
            (causes event).trans verdict
          rw [List.map_cons, afterwards, replay_cons_passing renderer passing,
            replay_cons_passing renderer outside, Env.called_called, Env.called_called,
            Event.call?_called, Event.call?_called, ← calls]
          exact ih _

/-- **A replay inside a construct** is the replay of its events inside that construct. -/
theorem within_replay (frame : Frame) (value : α) (events : List Event) :
    within frame (replay renderer value events) =
      replay renderer value (events.map (.inside frame)) := by
  funext env
  exact afterwards_replay renderer env { env with frames := frame :: env.frames }
    (fun event => (event.cause?_inside env renderer frame).symm)
    (fun event => (event.call?_inside env frame).symm)
    (fun event => (event.frames_inside env frame).symm) (fun _ => rfl) value events []

/-- **A replay under state declarations** is the replay of its events under them. -/
theorem declaring_replay (decls : List StateDecl) (value : α) (events : List Event) :
    declaring decls (replay renderer value events) =
      replay renderer value (events.map (.under decls)) := by
  funext env
  exact afterwards_replay renderer env { env with table := some ⟨decls⟩ }
    (fun event => (event.cause?_under env renderer decls).symm)
    (fun event => (event.call?_under env decls).symm)
    (fun _ => rfl) (fun _ => rfl) value events []

/-- The text for a binding. It matters only where the renderer does not fail. -/
def textOf (binding : Binding) : String :=
  match renderer binding with
  | .ok text => text
  | .error _ => ""

theorem pure_eq_replay (value : α) : (pure value : Gen α) = replay renderer value [] := rfl

theorem checkRules_eq_replay (construct : Node) :
    checkRules construct.rules = replay renderer () [.here (.verify construct)] := by
  funext env
  have verdict : (Event.here (.verify construct)).cause? renderer env =
      match construct.rules env.table with
      | .ok () => none
      | .error violation => some (.verification violation) := rfl
  cases kept : construct.rules env.table with
  | ok =>
      rw [kept] at verdict
      rw [checkRules, kept, replay_cons_passing renderer verdict]
      rfl
  | error violation =>
      rw [kept] at verdict
      rw [checkRules, kept, replay_cons_failing renderer verdict]
      rfl

theorem renderBinding_eq_replay (binding : Binding) :
    renderBinding renderer binding =
      replay renderer (textOf renderer binding) [.here (.render binding)] := by
  funext env
  have verdict : (Event.here (.render binding)).cause? renderer env =
      match renderer binding with
      | .ok _ => none
      | .error failure => some (.generation failure) := rfl
  cases answer : renderer binding with
  | ok text =>
      rw [answer] at verdict
      rw [renderBinding, answer, replay_cons_passing renderer verdict, textOf, answer]
      rfl
  | error failure =>
      rw [answer] at verdict
      rw [renderBinding, answer, replay_cons_failing renderer verdict]
      rfl

theorem leaveOut_eq_replay (node : Node) :
    leaveOut node = replay renderer (placeholder node) [.here (.leaveOut node)] := by
  funext env
  have verdict : (Event.here (.leaveOut node)).cause? renderer env =
      match env.fallback with
      | .permissive => none
      | .strict => some (.generation (.unsupportedNode node.describe)) := rfl
  cases mode : env.fallback with
  | permissive =>
      rw [mode] at verdict
      rw [leaveOut, mode, replay_cons_passing renderer verdict]
      rfl
  | strict =>
      rw [mode] at verdict
      rw [leaveOut, mode, replay_cons_failing renderer verdict]
      rfl

end Replay

end ContractCompiler
