import ContractCompiler.Proofs.Output.Names

/-!
# The order of declarations

The declarations of a contract may stand anywhere in its body, before or after what uses them, and
in any order (`Rearranged`). Verification compares each name with all the others, and so it does not
matter where they stand. Lowering leaves declarations out and looks them up by name. A contract that
passes declares every name once, and then a name is found wherever its declaration stands
(`StateTable.get?_eq_of_perm`).

So the rules for what stands in the contract have the same verdict (`Node.rules_eq_of_get?`), the
items are lowered to the same values or fail with the same fault, and the binding of the contract
differs in the order of its state only (`Contract.declarations_rearranged`).
-/

namespace ContractCompiler

set_option autoImplicit false

/-! ## Tables that find the same declarations -/

/-- In a list without repeated keys a search by the key does not depend on the order. -/
theorem find?_eq_of_perm {α κ : Type} {key : α → κ} {items others : List α}
    (perm : items.Perm others) (nodup : (items.map key).Nodup) {asks : α → Bool}
    (only : ∀ item other, asks item = true → asks other = true → key other = key item) :
    items.find? asks = others.find? asks := by
  cases found : items.find? asks with
  | some item =>
      have asked := List.find?_some found
      have listed := perm.mem_iff.mp (List.mem_of_find?_eq_some found)
      have nodupOthers := (perm.map key).nodup_iff.mp nodup
      exact (find?_of_nodup_keys nodupOthers listed asked (only item · asked)).symm
  | none =>
      rw [List.find?_eq_none] at found
      exact (List.find?_eq_none.mpr fun other listed => found other (perm.mem_iff.mpr listed)).symm

/-- A table without repeated names finds the same declarations in any order of them. -/
theorem StateTable.get?_eq_of_perm {decls others : List StateDecl} (perm : decls.Perm others)
    (nodup : (decls.map StateDecl.name).Nodup) :
    (StateTable.mk decls).get? = (StateTable.mk others).get? := by
  funext name
  have reversed : decls.reverse.Perm others.reverse :=
    decls.reverse_perm.trans (perm.trans others.reverse_perm.symm)
  have nodupReversed : (decls.reverse.map StateDecl.name).Nodup := by
    rw [List.map_reverse, List.nodup_reverse]
    exact nodup
  refine find?_eq_of_perm reversed nodupReversed fun decl other named alsoNamed => ?_
  exact (of_decide_eq_true alsoNamed).trans (of_decide_eq_true named).symm

section Tables

variable {table other : StateTable} (same : table.get? = other.get?)
include same

theorem checkAccesses_eq_of_get? (targets : List StateTarget) :
    checkAccesses table targets = checkAccesses other targets := by
  have single : ∀ target, checkAccess table target = checkAccess other target := by
    intro target
    unfold checkAccess
    rw [same]
  induction targets with
  | nil => rfl
  | cons target rest ih => rw [checkAccesses, checkAccesses, single, ih]

theorem checkTypes_eq_of_get? (lhs rhs : Node) :
    checkTypes table lhs rhs = checkTypes other lhs rhs := by
  unfold checkTypes addressed? addressedItem?
  rw [same]

/-- **Rules ask a table for declarations by name only.** -/
theorem Node.rules_eq_of_get? (construct : Node) :
    construct.rules (some table) = construct.rules (some other) := by
  cases construct with
  | cond first elseIfs otherwise => exact checkAccesses_eq_of_get? same _
  | assign lhs rhs =>
      simp only [Node.rules, assignmentRules, checkAccesses_eq_of_get? same,
        checkTypes_eq_of_get? same]
  | contract | exec | stateItem | stateMap | lookup | member | ident | literal | binary | call
  | emit | ret => rfl

end Tables

section Declarations

variable {decls others : List StateDecl}
  (same : (StateTable.mk decls).get? = (StateTable.mk others).get?)
include same

/-- An event has the same fault under declarations that are found alike. -/
theorem Event.fault?_under_eq (renderer : Renderer) (env : Env) (event : Event) :
    (event.under decls).fault? renderer env = (event.under others).fault? renderer env := by
  have causes : (event.under decls).cause? renderer env =
      (event.under others).cause? renderer env := by
    unfold Event.cause? Event.table Event.under
    cases event.declared with
    | some declared => rfl
    | none =>
        cases event.step with
        | verify construct =>
            show Step.cause? renderer env.fallback (some ⟨decls⟩) _ =
              Step.cause? renderer env.fallback (some ⟨others⟩) _
            rw [Step.cause?, Step.cause?, construct.rules_eq_of_get? same]
        | render binding => rfl
        | leaveOut node => rfl
  rw [Event.fault?, Event.fault?, causes]
  rfl

/-- The first fault is the same under declarations that are found alike. -/
theorem firstFault_under_eq (renderer : Renderer) (env : Env) (events : List Event) :
    (events.map (Event.under decls)).findSome? (Event.fault? renderer env) =
      (events.map (Event.under others)).findSome? (Event.fault? renderer env) := by
  rw [List.findSome?_map, List.findSome?_map]
  congr 1
  funext event
  exact event.fault?_under_eq same renderer env

/-- A replay returns the same under declarations that are found alike. -/
theorem returned_declaring_eq {α : Type} (renderer : Renderer) (value : α) (events : List Event)
    (env : Env) :
    returned (declaring decls (replay renderer value events) env) =
      returned (declaring others (replay renderer value events) env) := by
  rw [declaring_replay, declaring_replay, replay_returned, replay_returned,
    firstFault_under_eq same]

end Declarations

/-! ## Rearranged contracts -/

/-- The second contract has the items of the first one in an order in which those that declare no
state follow each other as before. -/
structure Rearranged (contract other : Contract) : Prop where
  name : other.name = contract.name
  perm : contract.body.Perm other.body
  kept : contract.body.filter (!·.isStateDecl) = other.body.filter (!·.isStateDecl)

/-- What lowering the items of a contract under its own declarations returns. -/
def Contract.loweredItems (renderer : Renderer) (env : Env) (contract : Contract) :
    Except Fault (List Value) :=
  returned (declaring (stateDecls contract.body)
    (Node.lowerExcept renderer Node.isLeftToUnit contract.body) env)

/-- What binding a contract for its template returns. -/
def Contract.bound (renderer : Renderer) (env : Env) (contract : Contract) : Except Fault Binding :=
  returned (bindContract contract.name contract.body
    (Node.lowerExcept renderer Node.isLeftToUnit contract.body) env)

/-- A contract is bound with its name, its declarations in order and its lowered items. -/
theorem Contract.bound_eq_map (renderer : Renderer) (env : Env) (contract : Contract) :
    contract.bound renderer env = (contract.loweredItems renderer env).map
      (.ofContract contract.name (stateDecls contract.body)) := by
  unfold Contract.bound Contract.loweredItems
  rw [Node.lowerExcept_eq_replay, bindContract_replay, declaring_replay, replay_returned,
    replay_returned]
  cases List.findSome? _ _ with
  | none => rfl
  | some fault => rfl

/-- Nodes that are skipped can be taken out before. -/
theorem Node.lowerExcept_filter (renderer : Renderer) {skip keep : Node → Bool}
    (skipped : ∀ node, keep node = false → skip node = true) (nodes : List Node) :
    Node.lowerExcept renderer skip (nodes.filter keep) = Node.lowerExcept renderer skip nodes := by
  induction nodes with
  | nil => rfl
  | cons node rest ih =>
      rw [List.filter_cons]
      by_cases keeps : keep node = true
      · rw [if_pos keeps, Node.lowerExcept, ih, ← Node.lowerExcept]
      · have skips := skipped node (Bool.eq_false_iff.mpr keeps)
        rw [if_neg keeps, ih, Node.lowerExcept, if_pos skips]

namespace Rearranged

variable {contract other : Contract} (rearranged : Rearranged contract other)
include rearranged

theorem stateDecls_perm : (stateDecls contract.body).Perm (stateDecls other.body) :=
  rearranged.perm.filterMap _

/-- Names that are apart stay so. -/
theorem namesApart {naming : Naming} (apart : NamesApart naming contract.body) :
    NamesApart naming other.body where
  constants := (rearranged.stateDecls_perm.map _).nodup_iff.mp apart.constants
  handlers := ((rearranged.perm.filterMap Node.handlerName?).map _).nodup_iff.mp apart.handlers

/-- What is lowered of the two bodies is the same. -/
theorem lowerExcept_eq (renderer : Renderer) :
    Node.lowerExcept renderer Node.isLeftToUnit contract.body =
      Node.lowerExcept renderer Node.isLeftToUnit other.body := by
  have declared : ∀ node : Node, (!node.isStateDecl) = false → node.isLeftToUnit = true := by
    intro node undeclared
    have declares : node.isStateDecl = true := by simpa using undeclared
    rw [Node.isLeftToUnit, declares, Bool.or_true]
  rw [← Node.lowerExcept_filter renderer declared contract.body, rearranged.kept,
    Node.lowerExcept_filter renderer declared other.body]

/-- If the names are apart, both contracts have the same declaration for each name. -/
theorem get?_eq {naming : Naming} (apart : NamesApart naming contract.body) :
    (StateTable.mk (stateDecls contract.body)).get? =
      (StateTable.mk (stateDecls other.body)).get? := by
  -- The constants are the names in another case: distinct constants have distinct names.
  have constants :
      (((stateDecls contract.body).map StateDecl.name).map (naming .state)).Nodup := by
    rw [List.map_map]
    exact apart.constants
  exact StateTable.get?_eq_of_perm rearranged.stateDecls_perm constants.of_map

theorem loweredItems_eq {naming : Naming} (apart : NamesApart naming contract.body)
    (renderer : Renderer) (env : Env) :
    contract.loweredItems renderer env = other.loweredItems renderer env := by
  unfold Contract.loweredItems
  rw [rearranged.lowerExcept_eq, Node.lowerExcept_eq_replay]
  exact returned_declaring_eq (rearranged.get?_eq apart) renderer _ _ env

end Rearranged

/-- **The order of declarations does not matter.** If a contract passes, so does one with its items
rearranged. In every environment the items of both are lowered to the same values or fail with the
same fault. The bindings for the template have the same name and items, and a permutation of the
declarations as their state. -/
theorem Contract.declarations_rearranged (contract other : Contract)
    (rearranged : Rearranged contract other) (table : Option StateTable)
    (passes : contract.node.rules table = .ok ()) :
    other.node.rules table = .ok () ∧
      (stateDecls contract.body).Perm (stateDecls other.body) ∧
      ∀ (renderer : Renderer) (env : Env),
        contract.loweredItems renderer env = other.loweredItems renderer env ∧
        contract.bound renderer env = (contract.loweredItems renderer env).map
          (.ofContract contract.name (stateDecls contract.body)) ∧
        other.bound renderer env = (contract.loweredItems renderer env).map
          (.ofContract contract.name (stateDecls other.body)) := by
  have apart : NamesApart .generated contract.body := contractRulesBy_eq_ok_iff.mp passes
  refine ⟨contractRulesBy_of_apart (rearranged.namesApart apart), rearranged.stateDecls_perm, ?_⟩
  intro renderer env
  have items := rearranged.loweredItems_eq apart renderer env
  refine ⟨items, contract.bound_eq_map renderer env, ?_⟩
  rw [other.bound_eq_map renderer env, items, rearranged.name]

/-- A handler that uses the item `total` and the map `votes`. -/
def addVotes : Node :=
  .exec "add" [⟨"who", ⟨"Addr"⟩⟩]
    [.assign (.lookup (.state "votes") (.ident "who")) (.state "total")]

/-- The handler between the declarations it uses. -/
def votesLast : Contract where
  name := "Tally"
  body := [.stateItem "total" ⟨"u64"⟩, addVotes, .stateMap "votes" [⟨none, ⟨"Addr"⟩⟩] ⟨"u64"⟩]

/-- The handler after the declarations. -/
def votesFirst : Contract where
  name := "Tally"
  body := [.stateMap "votes" [⟨none, ⟨"Addr"⟩⟩] ⟨"u64"⟩, .stateItem "total" ⟨"u64"⟩, addVotes]

/-- The handler is lowered to the same text in both contracts. -/
theorem votes_rearranged :
    votesFirst.node.rules none = .ok () ∧
    (votesLast.loweredItems (CosmWasm.render {}) {}).isOk = true ∧
    votesLast.loweredItems (CosmWasm.render {}) {} =
      votesFirst.loweredItems (CosmWasm.render {}) {} := by
  have rearranged : Rearranged votesLast votesFirst :=
    { name := rfl, perm := List.perm_append_singleton _ [_, _], kept := rfl }
  have alike := votesLast.declarations_rearranged votesFirst rearranged none rfl
  exact ⟨alike.1, rfl, (alike.2.2 (CosmWasm.render {}) {}).1⟩

end ContractCompiler
