import ContractCompiler.Tree.Basic

/-!
# Diagnostics

Compilation fails in two ways. A construct may violate a rule of the language, which is found before
any text is produced for it; or a construct that is in order cannot be turned into text. Either
way the fault tells in which constructs it was met, outermost first.
-/

namespace ContractCompiler

set_option autoImplicit false

/-- The shape of a state. -/
inductive Shape where
  | item
  | map
  deriving DecidableEq, Repr

/-- A shape with its article. -/
def Shape.phrase : Shape → String
  | .item => "an item"
  | .map => "a map"

/-- A rule of the language that a construct violates. -/
inductive Violation where
  | typeMismatch (target : String) (expected found : TypeExpr)
  | undeclaredState (name : String)
  | shapeMismatch (key : String) (declared used : Shape)
  | keyArity (key : String) (expected found : Nat)
  | readOnlyTarget (target : String)
  | duplicateState (name : String)
  | duplicateHandler (name : String)
  | nameClash (first second host : String)
  | duplicateParam (name : String)
  deriving DecidableEq, Repr

/-- A reason why text cannot be produced. -/
inductive Failure where
  | unsupportedNode (description : String)
  | missingBinding (template key : String)
  | bindingShape (template key expected found : String)
  | render (reason : String)
  deriving DecidableEq, Repr

/-- A decimal number. -/
def decimal (n : Nat) : String :=
  String.ofList (Nat.toDigits 10 n)

/-- The wording of a violation. -/
def Violation.message : Violation → String
  | .typeMismatch target expected found =>
      "cannot assign " ++ found.text ++ " to `" ++ target ++ "` of type " ++ expected.text
  | .undeclaredState name => "state `" ++ name ++ "` is not declared in this contract"
  | .shapeMismatch key declared used =>
      "state `" ++ key ++ "` is declared as " ++ declared.phrase ++ " but used as " ++ used.phrase
  | .keyArity key expected found =>
      "state map `" ++ key ++ "` takes " ++ decimal expected ++ " key(s), got " ++ decimal found
  | .readOnlyTarget target => "`" ++ target ++ "` is read-only and cannot be assigned"
  | .duplicateState name => "state `" ++ name ++ "` is declared more than once"
  | .duplicateHandler name => "handler `" ++ name ++ "` is declared more than once"
  | .nameClash first second host =>
      "`" ++ second ++ "` and `" ++ first ++ "` both become `" ++ host ++ "` in generated code"
  | .duplicateParam name => "parameter `" ++ name ++ "` is declared more than once"

/-- The wording of a failure. -/
def Failure.message : Failure → String
  | .unsupportedNode description => "no lowering for " ++ description
  | .missingBinding template key =>
      "template `" ++ template ++ "` is missing binding `" ++ key ++ "`"
  | .bindingShape template key expected found =>
      "template `" ++ template ++ "` expected " ++ expected ++ " for `" ++ key ++ "`, found " ++ found
  | .render reason => "render failed: " ++ reason

/-- What went wrong. -/
inductive Cause where
  | verification (violation : Violation)
  | generation (failure : Failure)
  deriving DecidableEq, Repr

/-- The wording of a cause. -/
def Cause.message : Cause → String
  | .verification violation => violation.message
  | .generation failure => failure.message

/-- Whether a rule of the language was violated. -/
def Cause.isVerification : Cause → Bool
  | .verification _ => true
  | .generation _ => false

/-- What went wrong, and in which constructs. -/
structure Fault where
  context : String
  cause : Cause
  deriving DecidableEq, Repr

/-- The stage that failed. -/
def Cause.stage (cause : Cause) : String :=
  if cause.isVerification then "verification" else "generation"

/-- The wording of a fault. -/
def Fault.message (fault : Fault) : String :=
  fault.cause.stage ++ " failed in " ++ fault.context ++ ": " ++ fault.cause.message

end ContractCompiler
