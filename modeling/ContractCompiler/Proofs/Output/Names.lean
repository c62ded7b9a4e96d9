import ContractCompiler.Proofs.Output.Texts
import Mathlib.Data.List.Induction
import Mathlib.Data.List.Nodup

/-!
# Names that generated code keeps apart

The state and the handlers of a contract become constants and functions of generated code, under
names that are made from those in the source. Different names may become alike. Verification of a
contract goes through the items of its body and passes exactly if no two names of a class become
alike; otherwise the first item that takes a name again decides what is reported. This does not
depend on how names are spelled in generated code, and so it is shown for any spelling
(`contractRulesBy_eq_ok_iff`, `contractRulesBy_eq_error_iff`).

A contract that passes has one declaration for every name of its state, so that the table of its
state loses none of them. Its text has one constant for every declaration and one function for every
handler (`CosmWasm.contract_text_eq`). These have names of their own, since they are made in the way
in which verification has compared them (`Contract.rules_keep_names_apart`).
-/

namespace ContractCompiler

set_option autoImplicit false

/-- In a list without repeated keys a search finds the item that it asks for by its key. -/
theorem find?_of_nodup_keys {α κ : Type} {key : α → κ} {items : List α}
    (nodup : (items.map key).Nodup) {asks : α → Bool} {item : α} (listed : item ∈ items)
    (asked : asks item = true) (only : ∀ other, asks other = true → key other = key item) :
    items.find? asks = some item := by
  cases found : items.find? asks with
  | none => exact absurd asked (List.find?_eq_none.mp found item listed)
  | some other =>
      have same : key other = key item := only other (List.find?_some found)
      rw [List.inj_on_of_nodup_map nodup (List.mem_of_find?_eq_some found) listed same]

/-! ## Names in a list of claims -/

namespace Claim

/-- The identifier that a name becomes, together with its class. -/
def identifier (naming : Naming) (claim : Claim) : NameClass × String :=
  (claim.nameClass, claim.host naming)

/-- No two names of the list become the same identifier. -/
def Apart (naming : Naming) (claims : List Claim) : Prop :=
  (claims.map (identifier naming)).Nodup

variable {naming : Naming} {earlier rest : List Claim}

theorem clashes_iff {earlier later : Claim} :
    earlier.clashes naming later = true ↔ earlier.identifier naming = later.identifier naming := by
  simp [clashes, identifier]

/-- A name that stays apart from the earlier ones clashes with none of them. -/
theorem find?_clashes_of_apart {claim : Claim} (apart : Apart naming (earlier ++ claim :: rest)) :
    earlier.find? (·.clashes naming claim) = none := by
  rw [Apart, List.map_append, List.nodup_append] at apart
  obtain ⟨_, _, disjoint⟩ := apart
  rw [List.find?_eq_none]
  intro other listed clashes
  exact disjoint _ (List.mem_map_of_mem listed) _ (by simp) (clashes_iff.mp clashes)

/-- A name that clashes with one of the earlier ones clashes with that one only. -/
theorem find?_clashes_of_clash (apart : Apart naming earlier) {first later : Claim}
    (listed : first ∈ earlier) (clashes : first.clashes naming later = true) :
    earlier.find? (·.clashes naming later) = some first := by
  refine find?_of_nodup_keys apart listed clashes ?_
  intro other alsoClashes
  exact (clashes_iff.mp alsoClashes).trans (clashes_iff.mp clashes).symm

/-- As long as names stay apart, they are added to the earlier ones. -/
theorem checkClaims_append (earlier : List Claim) {before : List Claim}
    (apart : Apart naming (earlier ++ before)) (rest : List Claim) :
    checkClaims naming earlier (before ++ rest) = checkClaims naming (earlier ++ before) rest := by
  induction before generalizing earlier with
  | nil => rw [List.nil_append, List.append_nil]
  | cons claim further ih =>
      have onward : earlier ++ claim :: further = earlier ++ [claim] ++ further := by simp
      rw [List.cons_append, checkClaims, find?_clashes_of_apart apart, onward]
      exact ih _ (onward ▸ apart)

/-- Names that are apart pass. -/
theorem checkClaims_of_apart {claims : List Claim} (apart : Apart naming claims) :
    checkClaims naming [] claims = .ok () := by
  have whole := checkClaims_append [] apart []
  rwa [List.append_nil] at whole

/-- The first name that takes an identifier again is reported with the name that has it. -/
theorem checkClaims_of_clash (apart : Apart naming earlier) {first later : Claim}
    (listed : first ∈ earlier) (clashes : first.clashes naming later = true) (after : List Claim) :
    checkClaims naming [] (earlier ++ later :: after) = .error (first.clash naming later) := by
  rw [checkClaims_append [] apart, List.nil_append, checkClaims,
    find?_clashes_of_clash apart listed clashes]

end Claim

/-! ## Names in a body -/

/-- The name of a handler. -/
def Node.handlerName? : Node → Option String
  | .exec name _ _ => some name
  | _ => none

/-- The names of the handlers directly in a contract body, in source order. -/
def handlerNames (body : List Node) : List String :=
  body.filterMap Node.handlerName?

/-- The constant that a state becomes. -/
def StateDecl.constant (decl : StateDecl) : String :=
  Text.screamingCase decl.name

/-- The constants of a body, and the functions of its handlers, have different names. -/
structure NamesApart (naming : Naming) (body : List Node) : Prop where
  constants : ((stateDecls body).map fun decl => naming .state decl.name).Nodup
  handlers : ((handlerNames body).map (naming .handler)).Nodup

/-- What is reported about an item that takes a name again after the given items: a name that is
spelled the same is a duplicate, and a name that only becomes the same in generated code clashes. -/
inductive NameTaken (naming : Naming) (before : List Node) (item : Node) : Violation → Prop where
  | sameState {earlier decl : StateDecl} (declares : item.stateDecl? = some decl)
      (listed : earlier ∈ stateDecls before) (same : earlier.name = decl.name) :
      NameTaken naming before item (.duplicateState decl.name)
  | alikeState {earlier decl : StateDecl} (declares : item.stateDecl? = some decl)
      (listed : earlier ∈ stateDecls before) (differs : earlier.name ≠ decl.name)
      (alike : naming .state earlier.name = naming .state decl.name) :
      NameTaken naming before item
        (.nameClash earlier.name decl.name (naming .state decl.name))
  | sameHandler {name : String} (named : item.handlerName? = some name)
      (listed : name ∈ handlerNames before) :
      NameTaken naming before item (.duplicateHandler name)
  | alikeHandler {earlier name : String} (named : item.handlerName? = some name)
      (listed : earlier ∈ handlerNames before) (differs : earlier ≠ name)
      (alike : naming .handler earlier = naming .handler name) :
      NameTaken naming before item (.nameClash earlier name (naming .handler name))

/-- A declaration introduces the name of its state, a handler its own name, and nothing else
introduces a name. -/
theorem Node.claim?_eq_some_iff {node : Node} {claim : Claim} :
    node.claim? = some claim ↔
      (∃ decl, node.stateDecl? = some decl ∧ claim = ⟨.state, decl.name⟩) ∨
      ∃ name, node.handlerName? = some name ∧ claim = ⟨.handler, name⟩ := by
  cases node with
  | stateItem | stateMap | exec => simp [Node.claim?, Node.stateDecl?, Node.handlerName?, eq_comm]
  | contract | cond | assign | lookup | member | ident | literal | binary | call | emit | ret =>
      simp [Node.claim?, Node.stateDecl?, Node.handlerName?]

theorem mem_claims_iff {body : List Node} {claim : Claim} :
    claim ∈ body.filterMap Node.claim? ↔
      (∃ decl ∈ stateDecls body, claim = ⟨.state, decl.name⟩) ∨
      ∃ name ∈ handlerNames body, claim = ⟨.handler, name⟩ := by
  simp only [stateDecls, handlerNames, List.mem_filterMap, Node.claim?_eq_some_iff]
  grind

/-- The names of a body stay apart exactly if those of each class do. -/
theorem apart_claims_iff (naming : Naming) (body : List Node) :
    Claim.Apart naming (body.filterMap Node.claim?) ↔ NamesApart naming body := by
  have both : NamesApart naming body ↔
      ((stateDecls body).map fun decl => naming .state decl.name).Nodup ∧
        ((handlerNames body).map (naming .handler)).Nodup :=
    ⟨fun apart => ⟨apart.constants, apart.handlers⟩, fun apart => ⟨apart.1, apart.2⟩⟩
  rw [both]
  simp only [Claim.Apart, List.Nodup, stateDecls, handlerNames, List.pairwise_map,
    List.pairwise_filterMap, ← List.pairwise_and_iff]
  refine List.Pairwise.iff fun earlier later => ?_
  simp only [Node.claim?_eq_some_iff]
  constructor
  · intro apart
    refine ⟨?_, ?_⟩
    · intro decl declares other alsoDeclares same
      exact apart _ (.inl ⟨decl, declares, rfl⟩) _ (.inl ⟨other, alsoDeclares, rfl⟩)
        (congrArg (Prod.mk NameClass.state) same)
    · intro name named other alsoNamed same
      exact apart _ (.inr ⟨name, named, rfl⟩) _ (.inr ⟨other, alsoNamed, rfl⟩)
        (congrArg (Prod.mk NameClass.handler) same)
  · rintro ⟨constants, handlers⟩ claim introduces other alsoIntroduces same
    rcases introduces with ⟨decl, declares, rfl⟩ | ⟨name, named, rfl⟩
    · rcases alsoIntroduces with ⟨second, alsoDeclares, rfl⟩ | ⟨name, _, rfl⟩
      · exact constants decl declares second alsoDeclares (Prod.mk.inj same).2
      · cases (Prod.mk.inj same).1
    · rcases alsoIntroduces with ⟨decl, _, rfl⟩ | ⟨second, alsoNamed, rfl⟩
      · cases (Prod.mk.inj same).1
      · exact handlers name named second alsoNamed (Prod.mk.inj same).2

/-! ## The verdict on a body -/

section Verdict

variable {naming : Naming} {before body : List Node} {item : Node} {violation : Violation}

theorem contractRulesBy_of_apart (apart : NamesApart naming body) :
    contractRulesBy naming body = .ok () :=
  Claim.checkClaims_of_apart ((apart_claims_iff naming body).mpr apart)

/-- The first item that takes a name again decides the verdict. -/
theorem contractRulesBy_of_taken (apart : NamesApart naming before)
    (taken : NameTaken naming before item violation) (after : List Node) :
    contractRulesBy naming (before ++ item :: after) = .error violation := by
  have apartBefore := (apart_claims_iff naming before).mpr apart
  have decides : ∀ {first later : Claim}, first ∈ before.filterMap Node.claim? →
      item.claim? = some later → first.clashes naming later = true →
      contractRulesBy naming (before ++ item :: after) = .error (first.clash naming later) := by
    intro first later listed introduces clashes
    rw [contractRulesBy, List.filterMap_append, List.filterMap_cons_some introduces]
    exact Claim.checkClaims_of_clash apartBefore listed clashes _
  cases taken with
  | @sameState earlier decl declares listed same =>
      have verdict := decides (mem_claims_iff.mpr (.inl ⟨earlier, listed, rfl⟩))
        (Node.claim?_eq_some_iff.mpr (.inl ⟨decl, declares, rfl⟩))
        (Claim.clashes_iff.mpr (congrArg (fun name => (NameClass.state, naming .state name)) same))
      rw [verdict, Claim.clash, if_pos same]
  | @alikeState earlier decl declares listed differs alike =>
      have verdict := decides (mem_claims_iff.mpr (.inl ⟨earlier, listed, rfl⟩))
        (Node.claim?_eq_some_iff.mpr (.inl ⟨decl, declares, rfl⟩))
        (Claim.clashes_iff.mpr (congrArg (Prod.mk NameClass.state) alike))
      rw [verdict, Claim.clash, if_neg differs]
      rfl
  | @sameHandler name named listed =>
      have verdict := decides (mem_claims_iff.mpr (.inr ⟨name, listed, rfl⟩))
        (Node.claim?_eq_some_iff.mpr (.inr ⟨name, named, rfl⟩)) (Claim.clashes_iff.mpr rfl)
      rw [verdict, Claim.clash, if_pos rfl]
  | @alikeHandler earlier name named listed differs alike =>
      have verdict := decides (mem_claims_iff.mpr (.inr ⟨earlier, listed, rfl⟩))
        (Node.claim?_eq_some_iff.mpr (.inr ⟨name, named, rfl⟩))
        (Claim.clashes_iff.mpr (congrArg (Prod.mk NameClass.handler) alike))
      rw [verdict, Claim.clash, if_neg differs]
      rfl

/-- A name that becomes the same identifier as an earlier one is taken. -/
theorem exists_taken {first later : Claim} (listed : first ∈ before.filterMap Node.claim?)
    (introduces : item.claim? = some later)
    (same : first.identifier naming = later.identifier naming) :
    ∃ violation, NameTaken naming before item violation := by
  have host := (Prod.mk.inj same).2
  rcases mem_claims_iff.mp listed with ⟨earlier, inBefore, rfl⟩ | ⟨earlier, inBefore, rfl⟩
  · rcases Node.claim?_eq_some_iff.mp introduces with ⟨decl, declares, rfl⟩ | ⟨name, _, rfl⟩
    · by_cases spelled : earlier.name = decl.name
      · exact ⟨_, .sameState declares inBefore spelled⟩
      · exact ⟨_, .alikeState declares inBefore spelled host⟩
    · cases (Prod.mk.inj same).1
  · rcases Node.claim?_eq_some_iff.mp introduces with ⟨decl, _, rfl⟩ | ⟨name, named, rfl⟩
    · cases (Prod.mk.inj same).1
    · by_cases spelled : earlier = name
      · exact ⟨_, .sameHandler named (spelled ▸ inBefore)⟩
      · exact ⟨_, .alikeHandler named inBefore spelled host⟩

/-- A further item keeps the names apart or takes one of them. -/
theorem NamesApart.snoc_or_taken (apart : NamesApart naming before) (item : Node) :
    NamesApart naming (before ++ [item]) ∨ ∃ violation, NameTaken naming before item violation := by
  rw [← apart_claims_iff] at apart ⊢
  rw [List.filterMap_append]
  cases introduces : item.claim? with
  | none =>
      rw [List.filterMap_cons_none introduces, List.filterMap_nil, List.append_nil]
      exact .inl apart
  | some claim =>
      rw [List.filterMap_cons_some introduces, List.filterMap_nil]
      by_cases taken : claim.identifier naming ∈
          (before.filterMap Node.claim?).map (Claim.identifier naming)
      · obtain ⟨first, listed, same⟩ := List.mem_map.mp taken
        exact .inr (exists_taken listed introduces same)
      · refine .inl ?_
        rw [Claim.Apart, List.map_append, List.map_singleton, ← List.concat_eq_append]
        exact apart.concat taken

/-- The names of a body are apart, or there is a first item that takes a name again. -/
theorem namesApart_or_taken (naming : Naming) (body : List Node) :
    NamesApart naming body ∨ ∃ before item after violation, body = before ++ item :: after ∧
      NamesApart naming before ∧ NameTaken naming before item violation := by
  induction body using List.reverseRecOn with
  | nil => exact .inl ⟨List.nodup_nil, List.nodup_nil⟩
  | append_singleton front last ih =>
      rcases ih with apart | ⟨before, item, after, violation, rfl, apart, taken⟩
      · rcases apart.snoc_or_taken last with whole | ⟨violation, taken⟩
        · exact .inl whole
        · exact .inr ⟨front, last, [], violation, rfl, apart, taken⟩
      · refine .inr ⟨before, item, after ++ [last], violation, ?_, apart, taken⟩
        rw [List.append_assoc, List.cons_append]

/-- **The rules are kept** exactly if the names are apart, however they are spelled. -/
theorem contractRulesBy_eq_ok_iff :
    contractRulesBy naming body = .ok () ↔ NamesApart naming body := by
  refine ⟨fun passes => ?_, contractRulesBy_of_apart⟩
  rcases namesApart_or_taken naming body with
    apart | ⟨before, item, after, violation, rfl, apart, taken⟩
  · exact apart
  · rw [contractRulesBy_of_taken apart taken] at passes
    cases passes

/-- **A violation is reported** for the first item that takes a name again. -/
theorem contractRulesBy_eq_error_iff :
    contractRulesBy naming body = .error violation ↔
      ∃ before item after, body = before ++ item :: after ∧ NamesApart naming before ∧
        NameTaken naming before item violation := by
  constructor
  · intro fails
    rcases namesApart_or_taken naming body with
      apart | ⟨before, item, after, other, rfl, apart, taken⟩
    · rw [contractRulesBy_of_apart apart] at fails
      cases fails
    · rw [contractRulesBy_of_taken apart taken] at fails
      cases fails
      exact ⟨before, item, after, rfl, apart, taken⟩
  · rintro ⟨before, item, after, rfl, apart, taken⟩
    exact contractRulesBy_of_taken apart taken after

/-- If the constants are apart, every declaration is found under its name. -/
theorem NamesApart.get? (apart : NamesApart naming body) {decl : StateDecl}
    (listed : decl ∈ stateDecls body) :
    (StateTable.mk (stateDecls body)).get? decl.name = some decl := by
  have constants :
      ((stateDecls body).reverse.map fun decl => naming .state decl.name).Nodup := by
    rw [List.map_reverse, List.nodup_reverse]
    exact apart.constants
  refine find?_of_nodup_keys constants (List.mem_reverse.mpr listed) (decide_eq_true rfl) ?_
  intro other named
  exact congrArg (naming .state) (of_decide_eq_true named)

end Verdict

/-! ## The names in the text of a contract -/

/-- The function that a handler becomes. -/
def handlerFunction (name : String) : String :=
  "exec_" ++ Text.snakeCase name

/-- The items of a contract that are written in their place. -/
def Contract.writtenItems (contract : Contract) : List Node :=
  contract.body.filter (!·.isLeftToUnit)

/-- The handlers of a contract are all written. -/
theorem Contract.handlerNames_writtenItems (contract : Contract) :
    handlerNames contract.writtenItems = handlerNames contract.body := by
  unfold handlerNames Contract.writtenItems
  rw [List.filterMap_filter]
  refine List.filterMap_congr fun item _ => ?_
  cases item with
  | exec => rfl
  | contract | stateItem | stateMap | cond | assign | lookup | member | ident | literal | binary
  | call | emit | ret => exact ite_self none

namespace CosmWasm

/-- What a storage constant is, after its name. -/
def storage (decl : StateDecl) : String :=
  if decl.isMap then
    "Map<" ++ keyType decl.keys ++ ", " ++ hostType decl.type ++ "> = Map::new(\"" ++ decl.name ++
      "\");"
  else "Item<" ++ hostType decl.type ++ "> = Item::new(\"" ++ decl.name ++ "\");"

/-- The line of a storage constant. -/
def constantLine (indentation : Indentation) (decl : StateDecl) : String :=
  indentation.text ++ ("pub const " ++ decl.constant ++ ": " ++ storage decl) ++ "\n"

/-- The storage constants of a contract, each on its line. -/
def constantsText (indentation : Indentation) (decls : List StateDecl) : String :=
  if decls.isEmpty then "" else "\n" ++ String.join (decls.map (constantLine indentation))

/-- What a function is, after its name. -/
def functionRest (layout : Layout) (parts : HandlerParts) : String :=
  "(" ++ ", ".intercalate ((hostParams ++ parts.params).map parameter) ++
    ") -> Result<Response, ContractError> \x7b\n" ++ statementsText (inner layout) parts.body ++
    (inner layout).line (response parts.name) ++ "\x7d\n"

/-- An item of a contract: a handler is written as its function, anything else as its value. -/
def itemText (layout : Layout) : Node → String
  | .exec name params body =>
      "\n" ++ (inner layout).embedded ("pub fn " ++ handlerFunction name ++ functionRest layout
        ⟨name, params, Node.valuesExcept (render layout) Node.isContract body⟩)
  | item => "\n" ++ statementText (inner layout) (item.value (render layout))

theorem stateConst_eq (decl : StateDecl) :
    stateConst decl = "pub const " ++ decl.constant ++ ": " ++ storage decl := by
  have map : (": Map<" : String) = ": " ++ "Map<" := rfl
  have item : (": Item<" : String) = ": " ++ "Item<" := rfl
  unfold stateConst storage StateDecl.constant
  split
  · simp only [map, String.append_assoc]
  · simp only [item, String.append_assoc]

theorem declsText_eq (indentation : Indentation) (decls : List StateDecl) :
    declsText indentation decls = constantsText indentation decls := by
  have line : ∀ decl, indentation.line (stateConst decl) = constantLine indentation decl := by
    intro decl
    have filled : stateConst decl ≠ "" := by
      rw [stateConst_eq]
      simp [String.append_eq_empty_iff]
    rw [Indentation.line, if_neg filled, stateConst_eq, constantLine]
  rw [declsText, constantsText, funext line]

theorem handlerText_eq (layout : Layout) (parts : HandlerParts) :
    handlerText layout parts =
      "pub fn " ++ handlerFunction parts.name ++ functionRest layout parts := by
  have opening : ("pub fn exec_" : String) = "pub fn " ++ "exec_" := rfl
  have closing : (") -> Result<Response, ContractError> \x7b\n" : String) =
      ") -> Result<Response, ContractError>" ++ " \x7b\n" := rfl
  unfold handlerText signature handlerFunction functionRest
  simp only [opening, closing, String.append_assoc]

theorem itemText_eq (layout : Layout) (item : Node) :
    itemText layout item = "\n" ++ statementText (inner layout) (item.value (render layout)) := by
  cases item with
  | exec name params body => rw [itemText, value_exec, statementText, handlerText_eq]
  | contract | stateItem | stateMap | cond | assign | lookup | member | ident | literal | binary
  | call | emit | ret => rfl

/-- **The text of a contract**: after its opening there is one constant for each declaration, and
then each item, a handler as one function. -/
theorem contract_text_eq (layout : Layout) (contract : Contract) :
    contract.text (render layout) =
      contractOpening layout contract.name ++
        constantsText (inner layout) (stateDecls contract.body) ++
        String.join (contract.writtenItems.map (itemText layout)) ++ "\x7d\n" := by
  have items : itemsText (inner layout)
        (Node.valuesExcept (render layout) Node.isLeftToUnit contract.body) =
      String.join (contract.writtenItems.map (itemText layout)) := by
    rw [Node.valuesExcept_eq_map, itemsText, List.map_map, funext (itemText_eq layout)]
    rfl
  rw [contract_text, contractText, declsText_eq, items]

end CosmWasm

/-! ## Verification keeps names apart -/

/-- A unit that is compiled gives its text. -/
theorem Contract.text_of_compile {renderer : Renderer} {fallback : Fallback} (contract : Contract)
    {text : String} (compiled : (contract.compile renderer fallback).outcome = .ok text) :
    text = contract.text renderer := by
  rw [Contract.compile_eq] at compiled
  cases found : (contract.node.events renderer).findSome? (·.fault? renderer { fallback }) with
  | some fault =>
      rw [found] at compiled
      cases compiled
  | none =>
      rw [found] at compiled
      exact (Except.ok.inj compiled).symm

/-- **Verification keeps names apart.** The rules for a contract are violated exactly if two
declarations in its body become the same constant, or two of its handlers the same function. The
first item that takes such a name again decides what is reported: a duplicate if the earlier item is
spelled the same, and otherwise a clash of the two spellings. If the rules are kept, each
declaration is found in the table of the state under its name. No two constants and no two functions
of the contract have the same name, and the source that is compiled declares each constant once, and
then each function once. -/
theorem Contract.rules_keep_names_apart (contract : Contract) (table : Option StateTable) :
    ((∃ violation, contract.node.rules table = .error violation) ↔
      ¬ ((stateDecls contract.body).map StateDecl.constant).Nodup ∨
        ¬ ((handlerNames contract.body).map Text.snakeCase).Nodup) ∧
    (∀ violation, contract.node.rules table = .error violation ↔
      ∃ before item after, contract.body = before ++ item :: after ∧
        NamesApart .generated before ∧ NameTaken .generated before item violation) ∧
    (contract.node.rules table = .ok () →
      (∀ decl ∈ stateDecls contract.body,
        (StateTable.mk (stateDecls contract.body)).get? decl.name = some decl) ∧
      ((stateDecls contract.body).map StateDecl.constant).Nodup ∧
      ((handlerNames contract.body).map handlerFunction).Nodup ∧
      handlerNames contract.writtenItems = handlerNames contract.body ∧
      ∀ layout fallback text,
        (contract.compile (CosmWasm.render layout) fallback).outcome = .ok text →
        text = CosmWasm.contractOpening layout contract.name ++
          CosmWasm.constantsText (CosmWasm.inner layout) (stateDecls contract.body) ++
          String.join (contract.writtenItems.map (CosmWasm.itemText layout)) ++ "\x7d\n") := by
  have verdict : contract.node.rules table = contractRulesBy .generated contract.body := rfl
  rw [verdict]
  refine ⟨?_, fun violation => contractRulesBy_eq_error_iff, ?_⟩
  · have fails : (∃ violation, contractRulesBy .generated contract.body = .error violation) ↔
        ¬ contractRulesBy .generated contract.body = .ok () := by
      cases contractRulesBy .generated contract.body <;> simp
    rw [fails, contractRulesBy_eq_ok_iff, ← not_and_or]
    exact not_congr ⟨fun apart => ⟨apart.constants, apart.handlers⟩,
      fun apart => ⟨apart.1, apart.2⟩⟩
  · intro passes
    have apart := contractRulesBy_eq_ok_iff.mp passes
    refine ⟨fun decl listed => apart.get? listed, apart.constants, ?_,
      contract.handlerNames_writtenItems, ?_⟩
    · have injective : Function.Injective fun name : String => "exec_" ++ name :=
        fun _ _ same => (String.append_right_inj "exec_").mp same
      have functions := apart.handlers.map injective
      rwa [List.map_map] at functions
    · intro layout fallback text compiled
      rw [contract.text_of_compile compiled, CosmWasm.contract_text_eq]

/-- A contract with the state `balanceOf`, the handler `balance_of`, and further state. -/
def balanceNames (further : String) : Contract where
  name := "T"
  body := [.stateItem "balanceOf" ⟨"u64"⟩, .exec "balance_of" [] [], .stateItem further ⟨"u64"⟩]

/-- The state `balance_of` clashes with `balanceOf`, while the handler of that name does not. With
the state `total` the contract is compiled, `total` is found in its table, and the text has two
constants and a function. -/
theorem balanceNames_apart :
    (balanceNames "balance_of").node.rules none =
      .error (.nameClash "balanceOf" "balance_of" "BALANCE_OF") ∧
    (StateTable.mk (stateDecls (balanceNames "total").body)).get? "total" =
      some ⟨"total", [], ⟨"u64"⟩⟩ ∧
    ∃ text, ((balanceNames "total").compile (CosmWasm.render {}) .strict).outcome = .ok text ∧
      text = CosmWasm.contractOpening {} "T" ++
        ("\n    pub const BALANCE_OF: Item<u64> = Item::new(\"balanceOf\");\n" ++
          "    pub const TOTAL: Item<u64> = Item::new(\"total\");\n") ++
        ("\n" ++ (CosmWasm.inner {}).embedded
          ("pub fn exec_balance_of" ++ CosmWasm.functionRest {} ⟨"balance_of", [], []⟩)) ++
        "\x7d\n" := by
  have kept := ((balanceNames "total").rules_keep_names_apart none).2.2 rfl
  have taken := @NameTaken.alikeState .generated
    [.stateItem "balanceOf" ⟨"u64"⟩, .exec "balance_of" [] []]
    (.stateItem "balance_of" ⟨"u64"⟩) ⟨"balanceOf", [], ⟨"u64"⟩⟩ ⟨"balance_of", [], ⟨"u64"⟩⟩
    rfl (by decide) (by decide) (by decide +kernel)
  have constants : CosmWasm.constantsText (CosmWasm.inner {})
        (stateDecls (balanceNames "total").body) =
      "\n    pub const BALANCE_OF: Item<u64> = Item::new(\"balanceOf\");\n" ++
        "    pub const TOTAL: Item<u64> = Item::new(\"total\");\n" := by
    decide +kernel
  have function : "pub fn " ++ handlerFunction "balance_of" = "pub fn exec_balance_of" := by
    decide +kernel
  have items : String.join ((balanceNames "total").writtenItems.map (CosmWasm.itemText {})) =
      "\n" ++ (CosmWasm.inner {}).embedded
        ("pub fn exec_balance_of" ++ CosmWasm.functionRest {} ⟨"balance_of", [], []⟩) := by
    show String.join [CosmWasm.itemText {} (.exec "balance_of" [] [])] = _
    rw [String.join_cons, String.join_nil, String.append_empty, CosmWasm.itemText, function,
      Node.valuesExcept]
  refine ⟨?_, kept.1 ⟨"total", [], ⟨"u64"⟩⟩ (by decide), _, rfl, ?_⟩
  · exact (((balanceNames "balance_of").rules_keep_names_apart none).2.1 _).mpr
      ⟨_, _, [], rfl, ⟨by decide, by decide⟩, taken⟩
  · rw [← constants, ← items]
    exact kept.2.2.2.2 {} .strict _ rfl

end ContractCompiler
