import ClusterPlan.ApiEndpoint
import ClusterPlan.Attachment
import ClusterPlan.Attachment.Call
import ClusterPlan.Cluster.Assembly
import ClusterPlan.Cluster.Basic
import ClusterPlan.Cluster.Build
import ClusterPlan.Cluster.Descriptor
import ClusterPlan.CommandLine.Basic
import ClusterPlan.CommandLine.Reader
import ClusterPlan.Duration.Basic
import ClusterPlan.Duration.Reader
import ClusterPlan.Duration.Rounding
import ClusterPlan.Engine.Basic
import ClusterPlan.Engine.Recording
import ClusterPlan.Files
import ClusterPlan.Filter.Basic
import ClusterPlan.Filter.Flag
import ClusterPlan.Filter.Selection
import ClusterPlan.Image
import ClusterPlan.Json.Reader
import ClusterPlan.Json.Token
import ClusterPlan.Json.Writer
import ClusterPlan.Main
import ClusterPlan.Mount
import ClusterPlan.Name
import ClusterPlan.Network
import ClusterPlan.Node
import ClusterPlan.Notice
import ClusterPlan.Notice.Filter
import ClusterPlan.Notice.Line
import ClusterPlan.Options.Basic
import ClusterPlan.Options.Document
import ClusterPlan.Options.Key
import ClusterPlan.Options.Reader
import ClusterPlan.Options.Tree
import ClusterPlan.Options.Yaml
import ClusterPlan.Plan
import ClusterPlan.PortMapping
import ClusterPlan.Program
import ClusterPlan.Proofs.ApiEndpoint
import ClusterPlan.Proofs.ApiEndpoint.Grammar
import ClusterPlan.Proofs.Attachment
import ClusterPlan.Proofs.Attachment.Entries
import ClusterPlan.Proofs.Attachment.Ordered
import ClusterPlan.Proofs.Attachment.Repeats
import ClusterPlan.Proofs.Cluster.Assembly
import ClusterPlan.Proofs.Cluster.Beyond
import ClusterPlan.Proofs.Cluster.Descriptor
import ClusterPlan.Proofs.Cluster.Failure
import ClusterPlan.Proofs.Cluster.Order
import ClusterPlan.Proofs.Cluster.Placement
import ClusterPlan.Proofs.Cluster.Ports
import ClusterPlan.Proofs.Cluster.Skeleton
import ClusterPlan.Proofs.Cluster.Timeout
import ClusterPlan.Proofs.Cluster.Volumes
import ClusterPlan.Proofs.Cluster.Warnings
import ClusterPlan.Proofs.CommandLine.Argument
import ClusterPlan.Proofs.CommandLine.Environment
import ClusterPlan.Proofs.CommandLine.Reader
import ClusterPlan.Proofs.Duration.Exact
import ClusterPlan.Proofs.Duration.Grammar
import ClusterPlan.Proofs.Duration.Millisecond
import ClusterPlan.Proofs.Duration.Rounding
import ClusterPlan.Proofs.Duration.Second
import ClusterPlan.Proofs.Duration.Small
import ClusterPlan.Proofs.Duration.Sum
import ClusterPlan.Proofs.Duration.Term
import ClusterPlan.Proofs.Duration.Whole
import ClusterPlan.Proofs.Engine.Rollback
import ClusterPlan.Proofs.Engine.Runs
import ClusterPlan.Proofs.Filter.Denotation
import ClusterPlan.Proofs.Filter.Flag
import ClusterPlan.Proofs.Filter.Grammar
import ClusterPlan.Proofs.Filter.Range
import ClusterPlan.Proofs.Filter.Recognition
import ClusterPlan.Proofs.Filter.Selection
import ClusterPlan.Proofs.Filter.Union
import ClusterPlan.Proofs.Json.RoundTrip
import ClusterPlan.Proofs.Json.Token
import ClusterPlan.Proofs.Mount
import ClusterPlan.Proofs.Mount.Normal
import ClusterPlan.Proofs.Name
import ClusterPlan.Proofs.Notice
import ClusterPlan.Proofs.Options.Document
import ClusterPlan.Proofs.Options.Layers
import ClusterPlan.Proofs.Options.Tree
import ClusterPlan.Proofs.Options.Value
import ClusterPlan.Proofs.Outcome
import ClusterPlan.Proofs.Plan
import ClusterPlan.Proofs.Plan.Rules
import ClusterPlan.Proofs.Plan.Soundness
import ClusterPlan.Proofs.PortMapping
import ClusterPlan.Proofs.PortMapping.Grammar
import ClusterPlan.Proofs.Program
import ClusterPlan.Proofs.Program.Warnings
import ClusterPlan.Proofs.Report.Table
import ClusterPlan.Proofs.Text.Casing
import ClusterPlan.Proofs.Text.Numeral
import ClusterPlan.Report.Summary
import ClusterPlan.Report.Table
import ClusterPlan.Text.Blank
import ClusterPlan.Text.Casing
import ClusterPlan.Text.Decimal
import ClusterPlan.Text.DigitClass
import ClusterPlan.Text.Hexadecimal
import ClusterPlan.Text.Quoted
import ClusterPlan.Text.Split
import ClusterPlan.Tree.Basic
import ClusterPlan.Yaml.Block
import ClusterPlan.Yaml.Cell
import ClusterPlan.Yaml.Document
import ClusterPlan.Yaml.Gap
import ClusterPlan.Yaml.Lexer
import ClusterPlan.Yaml.Meaning
import ClusterPlan.Yaml.Node
import ClusterPlan.Yaml.Plain
import ClusterPlan.Yaml.Property
import ClusterPlan.Yaml.Quoted
import ClusterPlan.Yaml.Token
import ClusterPlan.Yaml.Writer
