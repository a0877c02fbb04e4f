import CodegenRun.Codec.Violations
import CodegenRun.Main
import CodegenRun.Options.Wire
import CodegenRun.Proofs.Codec.Pruning
import CodegenRun.Proofs.Config.Published
import CodegenRun.Proofs.Import.Rendering
import CodegenRun.Proofs.Inspect.Outcome
import CodegenRun.Proofs.Session.Failure
import CodegenRun.Proofs.Session.Interleaving
import CodegenRun.Proofs.Session.Setup
import CodegenRun.Proofs.Session.Snapshots
import CodegenRun.Proofs.Codec.Swapping
import CodegenRun.Proofs.Config.Verbosity
import CodegenRun.Proofs.Session.Verbosity
import CodegenRun.Proofs.Log.Records
import CodegenRun.Proofs.Session.Accounting
import CodegenRun.Proofs.Json.Writing
import CodegenRun.Proofs.Json.Reading
import CodegenRun.Proofs.Config.Writing
import CodegenRun.Proofs.Inspect.Log
import CodegenRun.Proofs.Inspect.Report
import CodegenRun.Proofs.Json.Lines
import CodegenRun.Proofs.Json.Extent
import CodegenRun.Proofs.Inspect.Written
import CodegenRun.Proofs.Context.Rebuilding
import CodegenRun.Proofs.Config.Grouping
import CodegenRun.Proofs.Config.MessageLines
import CodegenRun.Proofs.Codec.Elements
import CodegenRun.Proofs.Codec.FirstFault
import CodegenRun.Proofs.Datamodel.Declaration
import CodegenRun.Proofs.Import.Extension
import CodegenRun.Proofs.Datamodel.Query
