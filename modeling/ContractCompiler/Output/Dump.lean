import ContractCompiler.Template

/-!
# Binding dumps

Instead of source, the bindings themselves can be written out. Constructs are rendered from the
inside out, so the binding of an outer construct carries the dumps of the inner ones as fragments.
-/

namespace ContractCompiler

set_option autoImplicit false

/-- The binding as JSON, followed by a line feed. -/
def dumpText (binding : Binding) : String :=
  binding.toJson.spread ++ "\n"

/-- The renderer that writes out bindings. It never fails. -/
def dump : Renderer := fun binding =>
  .ok (dumpText binding)

end ContractCompiler
