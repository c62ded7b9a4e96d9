import ContractCompiler.Proofs.Output.Texts

/-!
# Parameters of generated functions

The function that a handler becomes takes the parameters that the host passes to every handler, and
after them those of the handler, under the names that they have in the source. Verification
compares the names of the handler with each other (`handlerRules_eq_ok_iff`). It does not compare
them with those of the host. So the names in the signature of a handler that passes are distinct
exactly if the handler uses none of the host's (`CosmWasm.signature_distinct_iff`). A handler with a
parameter `env` passes, and its function has two parameters of that name
(`CosmWasm.envParameter_repeated`).
-/

namespace ContractCompiler

set_option autoImplicit false

/-! ## What verification compares -/

/-- No name is reported exactly if the names differ from each other and from those seen before. -/
theorem firstRepeated?_eq_none_iff (seen names : List String) :
    firstRepeated? seen names = none ↔ names.Nodup ∧ ∀ name ∈ names, name ∉ seen := by
  induction names generalizing seen with
  | nil => simp [firstRepeated?]
  | cons name rest ih =>
      rw [firstRepeated?, List.nodup_cons, List.forall_mem_cons]
      by_cases known : name ∈ seen
      · simp [known]
      · rw [if_neg (by simpa using known), ih]
        constructor
        · rintro ⟨distinct, fresh⟩
          have other : name ∉ rest := fun listed => fresh name listed List.mem_cons_self
          refine ⟨⟨other, distinct⟩, known, fun later listed seenBefore => ?_⟩
          exact fresh later listed (List.mem_cons_of_mem _ seenBefore)
        · rintro ⟨⟨other, distinct⟩, _, fresh⟩
          refine ⟨distinct, fun later listed seenBefore => ?_⟩
          rcases List.mem_cons.mp seenBefore with rfl | earlier
          · exact other listed
          · exact fresh later listed earlier

/-- A handler passes exactly if its parameters have different names. -/
theorem handlerRules_eq_ok_iff (params : List Param) :
    handlerRules params = .ok () ↔ (params.map Param.name).Nodup := by
  have fresh : ∀ name ∈ params.map Param.name, name ∉ ([] : List String) := by simp
  have distinct := firstRepeated?_eq_none_iff [] (params.map Param.name)
  rw [and_iff_left fresh] at distinct
  rw [← distinct, handlerRules]
  cases firstRepeated? [] (params.map Param.name) <;> simp

namespace CosmWasm

/-! ## The names in a signature -/

/-- The names of the parameters in the signature of a handler, those of the host first. -/
def signatureNames (params : List Param) : List String :=
  (hostParams ++ params).map Param.name

/-- The types of these parameters. -/
def signatureTypes (params : List Param) : List String :=
  (hostParams ++ params).map fun param => hostType param.type

/-- The parameters in a signature: names and types, with commas between the parameters. -/
def parameterList (names types : List String) : String :=
  ", ".intercalate (List.zipWith (fun name type => name ++ ": " ++ type) names types)

/-- A signature has its parameters under the names of `signatureNames`, in that order. -/
theorem signature_eq (name : String) (params : List Param) :
    signature name params =
      "pub fn exec_" ++ Text.snakeCase name ++ "(" ++
        parameterList (signatureNames params) (signatureTypes params) ++
        ") -> Result<Response, ContractError>" := by
  have written : (hostParams ++ params).map parameter =
      List.zipWith (fun name type => name ++ ": " ++ type) (signatureNames params)
        (signatureTypes params) := by
    rw [signatureNames, signatureTypes, List.zipWith_map, List.zipWith_self]
    rfl
  rw [parameterList, ← written]
  rfl

/-- If the names of a handler differ from each other, it remains to compare them with those of the
host. -/
theorem signatureNames_nodup_iff {params : List Param} (distinct : (params.map Param.name).Nodup) :
    (signatureNames params).Nodup ↔
      ∀ param ∈ params, param.name ∉ hostParams.map Param.name := by
  have host : (hostParams.map Param.name).Nodup := by decide
  rw [signatureNames, List.map_append, List.nodup_append]
  constructor
  · rintro ⟨_, _, apart⟩ param listed named
    exact apart _ named _ (List.mem_map_of_mem listed) rfl
  · intro apart
    refine ⟨host, distinct, ?_⟩
    rintro ofHost named _ listed rfl
    obtain ⟨param, member, rfl⟩ := List.mem_map.mp listed
    exact apart param member named

/-- The text of a handler that is generated begins with its signature. -/
theorem lower_exec_signature {layout : Layout} {name : String} {params : List Param}
    {body : List Node} {env left : Env} {value : Value}
    (generated : (Node.exec name params body).lower (render layout) env = .ok value left) :
    ∃ rest, value = .fragment (signature name params ++ rest) := by
  rw [Node.lower_eq_replay] at generated
  obtain ⟨_, rfl, _⟩ := replay_eq_ok (render layout) generated
  rw [value_exec, handlerText]
  simp only [String.append_assoc]
  exact ⟨_, rfl⟩

/-- **The parameters of a function have different names** exactly if the handler uses none of the
host's names. A handler passes verification exactly if its own parameters have different names. If
it passes and is generated, its function has the parameters of the host and then those of the
handler, each with its type, and two of them have the same name exactly if a parameter of the
handler is named `deps`, `env` or `info`. -/
theorem signature_distinct_iff (layout : Layout) (name : String) (params : List Param)
    (body : List Node) (env : Env) :
    ((Node.exec name params body).rules env.table = .ok () ↔ (params.map Param.name).Nodup) ∧
    ((Node.exec name params body).rules env.table = .ok () →
      ((signatureNames params).Nodup ↔
        ∀ param ∈ params, param.name ≠ "deps" ∧ param.name ≠ "env" ∧ param.name ≠ "info") ∧
      ∀ value left, (Node.exec name params body).lower (render layout) env = .ok value left →
        ∃ rest, value = .fragment ("pub fn exec_" ++ Text.snakeCase name ++ "(" ++
          parameterList (signatureNames params) (signatureTypes params) ++
          ") -> Result<Response, ContractError>" ++ rest)) := by
  have verdict : (Node.exec name params body).rules env.table = handlerRules params := rfl
  have reserved : ∀ param : Param, param.name ∉ hostParams.map Param.name ↔
      param.name ≠ "deps" ∧ param.name ≠ "env" ∧ param.name ≠ "info" := by
    intro param
    simp [hostParams]
  rw [verdict, handlerRules_eq_ok_iff]
  refine ⟨Iff.rfl, fun distinct => ⟨?_, ?_⟩⟩
  · rw [signatureNames_nodup_iff distinct]
    exact forall₂_congr fun param _ => reserved param
  · intro value left generated
    obtain ⟨rest, rfl⟩ := lower_exec_signature generated
    exact ⟨rest, by rw [signature_eq]⟩

/-- A handler with parameters for an address and an amount. -/
def transfer : Node :=
  .exec "transfer" [⟨"to", ⟨"Addr"⟩⟩, ⟨"amount", ⟨"Uint128?"⟩⟩] []

/-- The parameters of `transfer` and those of the host have five different names. -/
theorem transfer_distinct :
    transfer.rules none = .ok () ∧
    (signatureNames [⟨"to", ⟨"Addr"⟩⟩, ⟨"amount", ⟨"Uint128?"⟩⟩]).Nodup ∧
    ∃ text left rest, transfer.lower (render {}) {} = .ok (.fragment text) left ∧
      text = "pub fn exec_" ++ Text.snakeCase "transfer" ++ "(" ++
        parameterList ["deps", "env", "info", "to", "amount"]
          ["DepsMut", "Env", "MessageInfo", "Addr", "Option<Uint128>"] ++
        ") -> Result<Response, ContractError>" ++ rest := by
  have distinct := (signature_distinct_iff {} "transfer"
    [⟨"to", ⟨"Addr"⟩⟩, ⟨"amount", ⟨"Uint128?"⟩⟩] [] {}).2 rfl
  obtain ⟨rest, text⟩ := distinct.2 _ _ rfl
  have types : signatureTypes [⟨"to", ⟨"Addr"⟩⟩, ⟨"amount", ⟨"Uint128?"⟩⟩] =
      ["DepsMut", "Env", "MessageInfo", "Addr", "Option<Uint128>"] := by
    decide
  rw [types] at text
  exact ⟨rfl, distinct.1.mpr (by decide), _, _, rest, rfl, Value.fragment.inj text⟩

/-- A handler with a parameter that is named like one of the host's. -/
def envParameter : Node :=
  .exec "f" [⟨"env", ⟨"u64"⟩⟩] []

/-- **The name `env` is used twice** in the signature of a handler that passes verification. -/
theorem envParameter_repeated :
    envParameter.rules none = .ok () ∧
    ¬ (signatureNames [⟨"env", ⟨"u64"⟩⟩]).Nodup ∧
    returned (envParameter.lower (render {}) {}) =
      .ok (.fragment
        ("pub fn exec_f(deps: DepsMut, env: Env, info: MessageInfo, env: u64) -> " ++
        "Result<Response, ContractError> \x7b\n" ++
        "    Ok(Response::new().add_attribute(\"action\", \"f\"))\n" ++
        "\x7d\n")) :=
  ⟨rfl, by decide, rfl⟩

end CosmWasm

end ContractCompiler
