import SyscallTables.Command.Args
import SyscallTables.Command.Manifest
import SyscallTables.Command.Run
import SyscallTables.Constant.File
import SyscallTables.Constant.Literal
import SyscallTables.Constant.Loader
import SyscallTables.Constant.Table
import SyscallTables.Decimal.Shortest
import SyscallTables.Description.Ast
import SyscallTables.Description.Reader
import SyscallTables.Description.TypeExpr
import SyscallTables.Digest.Sha256
import SyscallTables.Emit.Artifacts
import SyscallTables.Emit.CTable
import SyscallTables.Emit.DataDefinition
import SyscallTables.Files.Path
import SyscallTables.Files.Pattern
import SyscallTables.Files.Tree
import SyscallTables.Generator.Config
import SyscallTables.Generator.Error
import SyscallTables.Generator.Job
import SyscallTables.Generator.Run
import SyscallTables.Generator.Writer
import SyscallTables.Json.Reader
import SyscallTables.Json.Value
import SyscallTables.Json.Writer
import SyscallTables.Main
import SyscallTables.Program.Basic
import SyscallTables.Program.Compile
import SyscallTables.Proofs.Compile.Dependencies
import SyscallTables.Proofs.Compile.Reachable
import SyscallTables.Proofs.Compile.Resolve
import SyscallTables.Source.Position
import SyscallTables.Target.Basic
import SyscallTables.Target.Catalog
import SyscallTables.Target.File
import SyscallTables.Target.Validate
import SyscallTables.Text.Blank
import SyscallTables.Text.CodeRanges
import SyscallTables.Text.GraphemeExtend
import SyscallTables.Text.Lines
import SyscallTables.Text.Printable
import SyscallTables.Text.Quote
import SyscallTables.Text.Similarity
import SyscallTables.Text.Wildcard
import SyscallTables.Toml.Decode
import SyscallTables.Toml.Document
import SyscallTables.Toml.Error
import SyscallTables.Toml.Parse
import SyscallTables.Toml.Reader
import SyscallTables.Proofs.Compile.Layout
import SyscallTables.Proofs.Compile.Missing
import SyscallTables.Proofs.Compile.Phases
import SyscallTables.Proofs.Compile.Supported
import SyscallTables.Proofs.Description.Reading
import SyscallTables.Proofs.Generator.Decision
import SyscallTables.Proofs.Json.Scalars
import SyscallTables.Proofs.Json.ReadBack
import SyscallTables.Proofs.Emit.Document
import SyscallTables.Proofs.Compile.Monotone
import SyscallTables.Proofs.Generator.Paths
import SyscallTables.Proofs.Constant.Contents
import SyscallTables.Proofs.Emit.Revision
import SyscallTables.Proofs.Files.Frame
import SyscallTables.Proofs.Generator.Storing
import SyscallTables.Proofs.Program.Names
import SyscallTables.Proofs.Generator.Unsupported
import SyscallTables.Proofs.Compile.Recursion
import SyscallTables.Proofs.Emit.Blocks
import SyscallTables.Proofs.Generator.TableFile
import SyscallTables.Proofs.Generator.TableFile
import SyscallTables.Proofs.Compile.Alignment
import SyscallTables.Proofs.Text.WildcardLanguage
import SyscallTables.Proofs.Constant.FirstDefinition
import SyscallTables.Proofs.Constant.LiteralValues
import SyscallTables.Proofs.Description.TypeGrammar
import SyscallTables.Proofs.Description.Duplicates
import SyscallTables.Proofs.Target.Catalog
import SyscallTables.Proofs.Text.Utf8Order
import SyscallTables.Proofs.Emit.Fragment
import SyscallTables.Proofs.Compile.Termination
import SyscallTables.Proofs.Description.TypeErrors
import SyscallTables.Proofs.Compile.SafeSteps
import SyscallTables.Proofs.Files.Components
import SyscallTables.Proofs.Files.Expansion
import SyscallTables.Proofs.Source.LineColumn
