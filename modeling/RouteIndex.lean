import RouteIndex.Log.Line
import RouteIndex.Main
import RouteIndex.Files.Store
import RouteIndex.Syntax.Build
import RouteIndex.Token
import RouteIndex.Proofs.Generation.Events
import RouteIndex.Proofs.Generation.Joining
import RouteIndex.Proofs.Generation.Names
import RouteIndex.Proofs.Generation.Retry
import RouteIndex.Proofs.Provider.Lexing
import RouteIndex.Proofs.Syntax.TreeText
import RouteIndex.Proofs.Json.Fields
import RouteIndex.Proofs.Json.Kept
import RouteIndex.Proofs.RetryText
import RouteIndex.Proofs.MetadataText
import RouteIndex.Proofs.Syntax.Alike
import RouteIndex.Proofs.Generation.Relevance
import RouteIndex.Proofs.Token
import RouteIndex.Proofs.Generation.Promptness
import RouteIndex.Proofs.Provider.Scope
import RouteIndex.Proofs.Namespace
import RouteIndex.Proofs.Interval.Refusal
import RouteIndex.Proofs.Command.Generate
import RouteIndex.Proofs.Provider.BindingLiteral
import RouteIndex.Proofs.Namespace.Grammar
import RouteIndex.Proofs.Settings.Resolution
import RouteIndex.Proofs.Layers
import RouteIndex.Proofs.Command.Layering
import RouteIndex.Proofs.Syntax.Calls
import RouteIndex.Proofs.Command.Convergence
import RouteIndex.Proofs.Report.Document
import RouteIndex.Proofs.PropertiesFile
