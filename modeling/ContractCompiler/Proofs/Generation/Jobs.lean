import ContractCompiler.Proofs.Generation.Walk

/-!
# One environment for many jobs

An environment can be asked to lower nodes and to bind or generate constructs, one job after
another. A job opens constructs and installs state declarations, and it may fail at any depth.
Every job is a replay (`Job.perform_eq_replay`), so whatever it returns, it leaves the open
constructs, the state declarations and the treatment of unknown nodes as it found them. A later
job therefore returns what it would have returned at the start (`performAll_undisturbed`).
-/

namespace ContractCompiler

set_option autoImplicit false

/-- What an environment can be asked for. -/
inductive Job where
  /-- Lower a node. -/
  | lower (node : Node)
  /-- Lower a list of nodes. -/
  | lowerAll (nodes : List Node)
  /-- Generate the text of a construct. -/
  | generate (construct : Node)
  /-- Bind a construct, without verification and without a frame. -/
  | bind (construct : Node)

/-- What a job gives. -/
inductive Answer where
  | value (value : Value)
  | values (values : List Value)
  | text (text : String)
  | binding (binding : Binding)
  /-- The node that should be bound or generated is no construct. -/
  | noConstruct

/-- Does a job. -/
def Job.perform (renderer : Renderer) : Job → Gen Answer
  | .lower node => Answer.value <$> node.lower renderer
  | .lowerAll nodes => Answer.values <$> Node.lowerAll renderer nodes
  | .generate construct =>
      match construct.generate? renderer with
      | some text => Answer.text <$> text
      | none => pure .noConstruct
  | .bind construct =>
      match construct.bind? renderer with
      | some binding => Answer.binding <$> binding
      | none => pure .noConstruct

/-- Does jobs one after another in the same environment. For each job there is what it returned
and the environment that it left to the next one. -/
def performAll (renderer : Renderer) : List Job → Env → List (Except Fault Answer × Env)
  | [], _ => []
  | job :: rest, env =>
      let run := job.perform renderer env
      (returned run, leftBehind run) :: performAll renderer rest (leftBehind run)

/-! ## Jobs are replays -/

section Jobs

variable (renderer : Renderer)

/-- Binding a construct is a replay of the events of its parts. -/
theorem Node.bind?_eq_replay : ∀ construct : Node,
    construct.bind? renderer =
      (construct.binding? renderer).map fun binding =>
        replay renderer binding (construct.partEvents renderer)
  | .contract name body => by
      simp only [Node.bind?, Node.binding?, Node.partEvents, Node.lowerExcept_eq_replay,
        bindContract_replay, Option.map_some]
  | .exec name params body => by
      simp only [Node.bind?, Node.binding?, Node.partEvents, Node.lowerAll,
        Node.lowerExcept_eq_replay, bindFunction_replay, Option.map_some]
  | .cond first elseIfs otherwise => by
      simp only [Node.bind?, Node.binding?, Node.partEvents, Clause.lower_eq_replay,
        Clause.lowerAll_eq_replay, Node.lowerOtherwise_eq_replay, bindConditional_replay,
        Option.map_some]
  | .assign lhs rhs => by
      simp only [Node.bind?, Node.binding?, Node.partEvents, Node.lower_eq_replay,
        bindAssignment_replay, Option.map_some]
  | .stateItem .. | .stateMap .. | .lookup .. | .member .. | .ident _ | .literal _ | .binary ..
  | .call .. | .emit _ | .ret _ => rfl

/-- Generating a construct is a replay of its events. -/
theorem Node.generate?_eq_replay (construct : Node) :
    construct.generate? renderer =
      construct.frame?.bind fun frame =>
        (construct.binding? renderer).map fun binding =>
          replay renderer (textOf renderer binding)
            (constructEvents renderer frame construct (construct.partEvents renderer)) := by
  unfold Node.generate?
  rw [Node.bind?_eq_replay]
  cases construct.frame? with
  | none => rfl
  | some frame =>
      cases bound : construct.binding? renderer with
      | none => rfl
      | some binding =>
          exact congrArg some
            (generate_replay renderer frame construct bound (construct.partEvents renderer))

/-- **Every job is a replay.** -/
theorem Job.perform_eq_replay (job : Job) :
    ∃ answer events, job.perform renderer = replay renderer answer events := by
  cases job with
  | lower node =>
      refine ⟨.value (node.value renderer), node.events renderer, ?_⟩
      rw [Job.perform, Node.lower_eq_replay, map_replay]
  | lowerAll nodes =>
      refine ⟨.values (Node.valuesExcept renderer Node.isContract nodes),
        Node.eventsExcept renderer Node.isContract nodes, ?_⟩
      rw [Job.perform, Node.lowerAll, Node.lowerExcept_eq_replay, map_replay]
  | generate construct =>
      simp only [Job.perform, Node.generate?_eq_replay]
      cases construct.frame? with
      | none => exact ⟨.noConstruct, [], rfl⟩
      | some frame =>
          cases construct.binding? renderer with
          | none => exact ⟨.noConstruct, [], rfl⟩
          | some binding => exact ⟨_, _, map_replay renderer _ _ _⟩
  | bind construct =>
      simp only [Job.perform, Node.bind?_eq_replay]
      cases construct.binding? renderer with
      | none => exact ⟨.noConstruct, [], rfl⟩
      | some binding => exact ⟨_, _, map_replay renderer _ _ _⟩

/-- A job leaves its environment as it was, but for further calls of the renderer. -/
theorem Job.perform_leftBehind (job : Job) (env : Env) :
    ∃ calls, leftBehind (job.perform renderer env) = env.called calls := by
  obtain ⟨answer, events, replays⟩ := job.perform_eq_replay renderer
  rw [replays]
  exact replay_leftBehind renderer answer events env

/-- What a job returns does not depend on the calls of the renderer before it. -/
theorem Job.perform_returned (job : Job) (env : Env) (calls : List RenderCall) :
    returned (job.perform renderer (env.called calls)) = returned (job.perform renderer env) := by
  obtain ⟨answer, events, replays⟩ := job.perform_eq_replay renderer
  rw [replays, replay_returned, replay_returned]
  rfl

/-- **Jobs do not disturb each other.** However the jobs of a sequence end, each of them leaves the
open constructs, the state declarations and the fallback as they were at the start, and returns
what it returns if it is the first one. -/
theorem performAll_undisturbed (jobs : List Job) (env : Env) :
    (performAll renderer jobs env).map (fun (result, left) =>
        (result, left.frames, left.table, left.fallback)) =
      jobs.map fun job =>
        (returned (job.perform renderer env), env.frames, env.table, env.fallback) := by
  -- The environment at any point is the first one after some calls of the renderer.
  suffices later : ∀ calls, (performAll renderer jobs (env.called calls)).map (fun (result, left) =>
        (result, left.frames, left.table, left.fallback)) =
      jobs.map fun job =>
        (returned (job.perform renderer env), env.frames, env.table, env.fallback) from later []
  induction jobs with
  | nil =>
      intro calls
      rfl
  | cons job rest ih =>
      intro calls
      obtain ⟨further, left⟩ := job.perform_leftBehind renderer (env.called calls)
      rw [Env.called_called] at left
      simp only [performAll, List.map_cons]
      rw [left, ih, job.perform_returned]
      rfl

end Jobs

end ContractCompiler
