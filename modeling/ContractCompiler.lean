import ContractCompiler.Command.World
import ContractCompiler.Main
import ContractCompiler.Proofs.Generation.Replay
import ContractCompiler.Proofs.Generation.Walk
import ContractCompiler.Proofs.Generation.Jobs
import ContractCompiler.Proofs.Generation.Rendered
import ContractCompiler.Proofs.Generation.Units
import ContractCompiler.Proofs.Output.Rendering
import ContractCompiler.Proofs.Output.Agreement
import ContractCompiler.Proofs.Output.Texts
import ContractCompiler.Proofs.State.References
import ContractCompiler.Proofs.Generation.Places
import ContractCompiler.Proofs.State.Declared
import ContractCompiler.Proofs.Generation.ReadOnly
import ContractCompiler.Proofs.Generation.Programs
import ContractCompiler.Proofs.Generation.Fallback
import ContractCompiler.Proofs.Generation.Definitions
import ContractCompiler.Proofs.Json.Written
import ContractCompiler.Proofs.Json.Readers
import ContractCompiler.Proofs.Tree.RoundTrip
import ContractCompiler.Proofs.State.Chains
import ContractCompiler.Proofs.State.Expressions
import ContractCompiler.Proofs.Generation.Exchange
import ContractCompiler.Proofs.Generation.Nesting
import ContractCompiler.Proofs.Command.AllOrNothing
import ContractCompiler.Proofs.Output.Names
import ContractCompiler.Proofs.Output.Borrowing
import ContractCompiler.Proofs.Output.Grouping
import ContractCompiler.Proofs.Output.Comments
import ContractCompiler.Proofs.Generation.Omissions
import ContractCompiler.Proofs.Output.Holes
import ContractCompiler.Proofs.Output.Placeholders
import ContractCompiler.Proofs.Output.Parameters
import ContractCompiler.Proofs.Generation.NormalForms
import ContractCompiler.Proofs.State.DeclarationOrder
import ContractCompiler.Proofs.Output.Margins
import ContractCompiler.Proofs.Output.Styles
import ContractCompiler.Proofs.State.Spellings
import ContractCompiler.Proofs.Output.Dumps
import ContractCompiler.Proofs.Text.Tidy
import ContractCompiler.Proofs.Output.Blocks
import ContractCompiler.Proofs.Output.NestedSource
import ContractCompiler.Proofs.Output.Embedding
import ContractCompiler.Proofs.Output.Substance
import ContractCompiler.Proofs.Json.Forms
import ContractCompiler.Proofs.Json.FormReaders
import ContractCompiler.Proofs.Tree.Respellings
