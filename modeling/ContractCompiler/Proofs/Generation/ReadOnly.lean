import ContractCompiler.Proofs.Generation.Jobs
import ContractCompiler.Proofs.Generation.Places

/-!
# What may not be assigned

An access starts at a root and goes on by members and lookups, in any order (`Node.reach`). What is
reached from `$msg` is the context of the current message, and the rules for assignments refuse it
as a target.

An assignment is refused as read-only, before anything is rendered for it, exactly if its target is
a message access in the sense of the rules (`assignment_readOnly_iff`). A refusal of an assignment
within a key or on the right-hand side is another one: it is met inside of further constructs, so
its trail is longer. For an access that starts at `$msg` the first step decides. If it goes to a
member, the access is refused, whatever follows; if it is a lookup, as in `$msg[0]`, the access is
taken for one to a variable (`messageTarget_refused_iff`).
-/

namespace ContractCompiler

set_option autoImplicit false

/-! ## Accesses -/

/-- A step of an access: to a member, or to what stands under a key. -/
inductive Access where
  | member (name : String)
  | lookup (key : Node)

/-- Whether the step goes to a member. -/
def Access.isMember : Access → Bool
  | .member _ => true
  | .lookup _ => false

/-- Goes one step further than a node. -/
def Node.access (item : Node) : Access → Node
  | .member name => .member item name
  | .lookup key => .lookup item key

/-- What is reached from a root by steps in order. -/
def Node.reach (root : Node) (steps : List Access) : Node :=
  steps.foldl Node.access root

@[simp] theorem Node.isIdent_access (item : Node) (step : Access) :
    (item.access step).isIdent = false := by
  cases step <;> rfl

/-- Beyond the first step an access to the message stays one, and another access does not become
one. -/
theorem Node.isMessageAccess_access {item : Node} (further : item.isIdent = false)
    (step : Access) : (item.access step).isMessageAccess = item.isMessageAccess := by
  cases step with
  | member name =>
      cases item with
      | ident root => cases further
      | _ => simp only [Node.access, Node.isMessageAccess]
  | lookup key => simp only [Node.access, Node.isMessageAccess]

theorem Node.isMessageAccess_reach (steps : List Access) :
    ∀ {item : Node}, item.isIdent = false →
      (item.reach steps).isMessageAccess = item.isMessageAccess := by
  induction steps with
  | nil =>
      intro item _
      rfl
  | cons step rest ih =>
      intro item further
      have onward : ((item.access step).reach rest).isMessageAccess =
          (item.access step).isMessageAccess := ih (item.isIdent_access step)
      exact onward.trans (Node.isMessageAccess_access further step)

/-- The first step from `$msg` decides whether the rules see an access to the message. -/
theorem Node.isMessageAccess_reach_messageRoot (first : Access) (rest : List Access) :
    ((Node.ident messageRoot).reach (first :: rest)).isMessageAccess = first.isMember := by
  have onward := Node.isMessageAccess_reach rest
    ((Node.ident messageRoot).isIdent_access first)
  refine Eq.trans onward ?_
  cases first with
  | member name => simp [Node.access, Node.isMessageAccess, Access.isMember]
  | lookup key => simp [Node.access, Node.isMessageAccess, Access.isMember]

/-! ## The rule -/

/-- Whether the violation is about the way in which state is used. -/
def Violation.isUseOfState : Violation → Bool
  | .typeMismatch .. | .undeclaredState _ | .shapeMismatch .. | .keyArity .. => true
  | .readOnlyTarget _ | .duplicateState _ | .duplicateHandler _ | .duplicateParam _
  | .nameClash .. => false

section Rules

variable {table : StateTable} {violation : Violation}

theorem checkAccess_error_isUseOfState {target : StateTarget}
    (refused : checkAccess table target = .error violation) : violation.isUseOfState = true := by
  grind [checkAccess, Violation.isUseOfState]

/-- Accesses are refused for one of them. -/
theorem checkAccesses_error {targets : List StateTarget}
    (refused : checkAccesses table targets = .error violation) :
    ∃ target ∈ targets, checkAccess table target = .error violation := by
  induction targets with
  | nil => cases refused
  | cons target rest ih =>
      rw [checkAccesses] at refused
      cases verdict : checkAccess table target with
      | error found =>
          rw [verdict] at refused
          cases refused
          exact ⟨target, List.mem_cons_self, verdict⟩
      | ok =>
          rw [verdict] at refused
          obtain ⟨later, inRest, found⟩ := ih refused
          exact ⟨later, List.mem_cons_of_mem _ inRest, found⟩

theorem checkAccesses_error_isUseOfState {targets : List StateTarget}
    (refused : checkAccesses table targets = .error violation) : violation.isUseOfState = true := by
  obtain ⟨_, _, found⟩ := checkAccesses_error refused
  exact checkAccess_error_isUseOfState found

theorem checkTypes_error_isUseOfState {lhs rhs : Node}
    (refused : checkTypes table lhs rhs = .error violation) : violation.isUseOfState = true := by
  grind [checkTypes, Violation.isUseOfState]

end Rules

/-- The rules for an assignment object to a target that is read-only, or else to the way in which
state is used. -/
theorem assignmentRules_error {lhs rhs : Node} {table : Option StateTable} {violation : Violation}
    (refused : assignmentRules lhs rhs table = .error violation) :
    lhs.isMessageAccess = true ∧ violation = .readOnlyTarget lhs.spelling ∨
      violation.isUseOfState = true := by
  unfold assignmentRules at refused
  split at refused
  · next message =>
      cases refused
      exact .inl ⟨message, rfl⟩
  · refine .inr ?_
    cases table with
    | none => cases refused
    | some table =>
        change (checkAccesses table (lhs.stateAccesses ++ rhs.stateAccesses) >>=
          fun _ => checkTypes table lhs rhs) = _ at refused
        cases verdict : checkAccesses table (lhs.stateAccesses ++ rhs.stateAccesses) with
        | error found =>
            rw [verdict] at refused
            cases refused
            exact checkAccesses_error_isUseOfState verdict
        | ok =>
            rw [verdict] at refused
            exact checkTypes_error_isUseOfState refused

/-- The rules for an assignment object to a read-only target exactly if the target is a message
access, whatever state is declared. -/
theorem assignmentRules_readOnly_iff {lhs rhs : Node} {table : Option StateTable} {name : String} :
    assignmentRules lhs rhs table = .error (.readOnlyTarget name) ↔
      lhs.isMessageAccess = true ∧ name = lhs.spelling := by
  constructor
  · intro refused
    rcases assignmentRules_error refused with ⟨message, same⟩ | useOfState
    · exact ⟨message, Violation.readOnlyTarget.inj same⟩
    · cases useOfState
  · rintro ⟨message, rfl⟩
    unfold assignmentRules
    rw [if_pos message]

/-! ## Refusals within a construct and of the construct itself -/

/-- The trail of further constructs within open ones. -/
theorem trail_append {inner outer : List Frame} (deeper : inner ≠ []) (opened : outer ≠ []) :
    trail (inner ++ outer) = trail outer ++ " > " ++ trail inner := by
  simp only [trail, List.isEmpty_iff, List.append_eq_nil_iff, deeper, opened, and_self, if_false,
    List.reverse_append, List.map_append]
  exact String.intercalate_append_of_ne_nil (by simpa using opened) (by simpa using deeper)

/-- Inside of further constructs the trail is another one. -/
theorem trail_append_ne {inner outer : List Frame} (deeper : inner ≠ []) (opened : outer ≠ []) :
    trail (inner ++ outer) ≠ trail outer := by
  intro same
  have longer := congrArg String.length same
  rw [trail_append deeper opened, String.length_append, String.length_append] at longer
  have separator : " > ".length = 3 := by decide
  omega

/-- What is verified stands inside of its own frame at least. -/
theorem Node.opened_ne_nil_of_verify {renderer : Renderer} {node : Node} {event : Event}
    (inEvents : event ∈ node.events renderer) {construct : Node}
    (verifies : event.step = .verify construct) : event.opened ≠ [] := by
  obtain ⟨binding, bound, _⟩ :=
    (node.events_verified_and_rendered renderer).rendered event inEvents construct verifies
  obtain ⟨frames, owner, _, opened, _⟩ := node.events_located inEvents verifies
  rw [opened]
  cases construct with
  | contract | exec | cond | assign => exact List.cons_ne_nil _ _
  | stateItem | stateMap | lookup | member | ident | literal | binary | call | emit | ret =>
      cases bound

/-- Generating a construct on its own goes through its events. -/
theorem Job.perform_generate (renderer : Renderer) {construct : Node} {frame : Frame}
    {binding : Binding} (framed : construct.frame? = some frame)
    (bound : construct.binding? renderer = some binding) :
    (Job.generate construct).perform renderer =
      replay renderer (.text (textOf renderer binding))
        (constructEvents renderer frame construct (construct.partEvents renderer)) := by
  simp only [Job.perform, Node.generate?_eq_replay, framed, bound, Option.bind_some,
    Option.map_some, map_replay]

/-- **An assignment is refused as read-only** in its own place, with nothing rendered, exactly if
its target is a message access. -/
theorem assignment_readOnly_iff (renderer : Renderer) (lhs rhs : Node) (env : Env) :
    (Job.generate (.assign lhs rhs)).perform renderer env =
        .error ⟨trail (.assign lhs :: env.frames), .verification (.readOnlyTarget lhs.spelling)⟩
          env ↔
      lhs.isMessageAccess = true := by
  rw [@Job.perform_generate renderer (.assign lhs rhs) _ _ rfl rfl]
  constructor
  · intro refused
    obtain ⟨event, inEvents, met⟩ := exists_fault_of_replay renderer refused
    obtain ⟨cause, fails, same⟩ := Option.map_eq_some_iff.mp met
    obtain ⟨context, rfl⟩ := Fault.mk.inj same
    rcases Step.fails_cases fails with
      ⟨construct, violation, verifies, broken, named⟩ | ⟨_, _, _, _, named⟩ | ⟨_, _, _, named⟩
    · cases named
      rcases mem_constructEvents.mp inEvents with rfl | ⟨part, inParts, rfl⟩ | ⟨binding, _, rfl⟩
      · cases verifies
        exact (assignmentRules_readOnly_iff.mp broken).1
      · -- A refusal within the operands has a longer trail.
        obtain ⟨child, _, inner, inChild, rfl⟩ := Node.mem_partEvents inParts
        have deeper : inner.opened ≠ [] := Node.opened_ne_nil_of_verify inChild verifies
        have longer := trail_append_ne deeper (List.cons_ne_nil (Frame.assign lhs) env.frames)
        refine absurd ?_ longer
        rw [← context, Event.frames, Event.inside, List.append_assoc]
        rfl
      · cases verifies
    · cases named
    · cases named
  · intro message
    have broken : assignmentRules lhs rhs env.table = .error (.readOnlyTarget lhs.spelling) :=
      assignmentRules_readOnly_iff.mpr ⟨message, rfl⟩
    have failing : ((Event.here (.verify (.assign lhs rhs))).inside (.assign lhs)).cause?
        renderer env = some (.verification (.readOnlyTarget lhs.spelling)) := by
      show Step.cause? renderer env.fallback env.table (.verify (.assign lhs rhs)) = _
      simp only [Step.cause?, Node.rules, broken]
    exact replay_cons_failing renderer failing

/-- **Targets within the message.** An assignment to what is reached from `$msg` by one or more
steps is refused as read-only, with the spelling of the target and with nothing rendered, exactly
if the first step goes to a member. -/
theorem messageTarget_refused_iff (renderer : Renderer) (first : Access) (rest : List Access)
    (rhs : Node) (env : Env) :
    (Job.generate (.assign ((Node.ident messageRoot).reach (first :: rest)) rhs)).perform renderer
        env =
        .error
          ⟨trail (.assign ((Node.ident messageRoot).reach (first :: rest)) :: env.frames),
            .verification
              (.readOnlyTarget ((Node.ident messageRoot).reach (first :: rest)).spelling)⟩
          env ↔
      first.isMember = true := by
  rw [assignment_readOnly_iff, Node.isMessageAccess_reach_messageRoot]

/-- **A lookup on the message itself can be assigned.** The assignment `$msg[0] = 1` is rendered as
one to a variable. -/
theorem messageLookup_assigned :
    (Job.generate (.assign ((Node.ident messageRoot).reach [.lookup (.literal (.int "0"))])
        (.literal (.int "1")))).perform nameTemplate {} =
      .ok (.text "set-variable")
        { calls := [⟨.ofAssignment false (.lookup (.fragment messageRoot) (.fragment "0"))
            (.fragment "1"), [⟨.assign, "$msg[0]"⟩], none⟩] } :=
  rfl

end ContractCompiler
