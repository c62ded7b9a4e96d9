import ContractCompiler.Generation.Assembly
import ContractCompiler.Output.CosmWasm
import ContractCompiler.Output.Dump

/-!
# Options of the compiler

What can be chosen about a compilation, and its JSON form. Every option may be left out. Where
options are written as an array, those at the end may be left off.
-/

namespace ContractCompiler

set_option autoImplicit false

open Json (Reader)

/-- How code is generated. -/
structure GenerationOptions where
  fallback : Fallback := .permissive
  deriving DecidableEq, Repr

/-- Whether a node that has no lowering is an error. -/
def GenerationOptions.isStrict (options : GenerationOptions) : Bool :=
  options.fallback = .strict

/-- All options of a compilation. -/
structure Options where
  generation : GenerationOptions := {}
  layout : Layout := {}
  /-- Write out the bindings instead of source. -/
  dumpBindings : Bool := false
  deriving DecidableEq, Repr

/-- The renderer that the options call for. -/
def Options.renderer (options : Options) : Renderer :=
  if options.dumpBindings then dump else CosmWasm.render options.layout

/-- Compiles a program as the options say. -/
def Options.compile (options : Options) (program : Program) : Except Fault String :=
  (program.compile options.renderer options.generation.fallback).outcome

/-! ## Document form -/

/-- The word for a fallback. -/
def Fallback.name : Fallback → String
  | .permissive => "permissive"
  | .strict => "strict"

/-- The generation options as JSON. -/
def GenerationOptions.toJson (options : GenerationOptions) : Json :=
  .obj [("fallback", .str options.fallback.name)]

/-- The indentation style as JSON. -/
def IndentStyle.toJson : IndentStyle → Json
  | .spaces count => .obj [("spaces", Json.nat count)]
  | .tabs => .str "tabs"

/-- The layout as JSON. -/
def Layout.toJson (layout : Layout) : Json :=
  .obj [("indent_style", layout.indentStyle.toJson), ("emit_header", .bool layout.header)]

/-- All options as JSON. -/
def Options.toJson (options : Options) : Json :=
  .obj [("codegen", options.generation.toJson), ("emitter", options.layout.toJson),
    ("dump_bindings", .bool options.dumpBindings)]

/-- A fallback. -/
def Fallback.reader : Reader Fallback :=
  Json.wordReader [("permissive", .permissive), ("strict", .strict)]

/-- Generation options. -/
def GenerationOptions.reader : Reader GenerationOptions :=
  (Json.recordReader (.cons ⟨"fallback", Fallback.reader, some .permissive⟩ .nil)).map
    fun (fallback, ()) => { fallback }

/-- An indentation style. -/
def IndentStyle.reader : Reader IndentStyle :=
  Json.choiceReader
    [("spaces", .holding (Json.countReader.map .spaces)), ("tabs", .word .tabs)]

/-- A layout. -/
def Layout.reader : Reader Layout :=
  let default : Layout := {}
  (Json.recordReader (.cons ⟨"indent_style", IndentStyle.reader, some default.indentStyle⟩
    (.cons ⟨"emit_header", Json.flagReader, some default.header⟩ .nil))).map
    fun (indentStyle, header, ()) => { indentStyle, header }

/-- All options. -/
def Options.reader : Reader Options :=
  (Json.recordReader (.cons ⟨"codegen", GenerationOptions.reader, some {}⟩
    (.cons ⟨"emitter", Layout.reader, some {}⟩
      (.cons ⟨"dump_bindings", Json.flagReader, some false⟩ .nil)))).map
    fun (generation, layout, dumpBindings, ()) => { generation, layout, dumpBindings }

end ContractCompiler
