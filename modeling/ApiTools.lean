import ApiTools.Main
import ApiTools.Proofs.Spec.Read
import ApiTools.Proofs.Tool.Enhanced
import ApiTools.Proofs.Document.Writing
import ApiTools.Proofs.JsonPath.Reading
import ApiTools.Proofs.Overlay.Skipped
import ApiTools.Proofs.Overlay.Assisted
import ApiTools.Proofs.Project.Modules
import ApiTools.Proofs.Project.Registrations
import ApiTools.Proofs.Compliance.Normalized
import ApiTools.Proofs.Project.Written
import ApiTools.Proofs.Enhancement.Kept
import ApiTools.Proofs.Compliance.Converted
import ApiTools.Proofs.Compliance.Verdict
import ApiTools.Proofs.JsonPath.Display
import ApiTools.Proofs.Overlay.Readable
import ApiTools.Proofs.Tool.BodyKeys
import ApiTools.Proofs.Audit.Emitted
import ApiTools.Proofs.Overlay.Removed
import ApiTools.Proofs.Overlay.RoundTrip
import ApiTools.Proofs.Enhancement.DryRun
import ApiTools.Proofs.JsonPath.DepthFirst
import ApiTools.Proofs.Document.Overwriting
import ApiTools.Proofs.Overlay.Overwritten
import ApiTools.Proofs.Document.Created
import ApiTools.Proofs.Document.Kinds
import ApiTools.Proofs.Overlay.Found
import ApiTools.Proofs.Tool.Whole
import ApiTools.Proofs.Tool.FormattedPath
import ApiTools.Proofs.Tool.Ordered
import ApiTools.Proofs.Tool.Nested
import ApiTools.Proofs.Tool.Composed
import ApiTools.Proofs.Spec.Parameters
import ApiTools.Proofs.Tool.HintText
import ApiTools.Proofs.Tool.Recursive
import ApiTools.Proofs.Tool.Alternatives
import ApiTools.Proofs.Template.Literals
import ApiTools.Proofs.Overlay.Limited
import ApiTools.Proofs.Project.Usage
import ApiTools.Proofs.Project.Seen
import ApiTools.Proofs.Audit.Discovery
import ApiTools.Proofs.Project.Unwritten
import ApiTools.Proofs.Prompts.Slots
import ApiTools.Proofs.Naming.Functions
import ApiTools.Proofs.Project.Stems
import ApiTools.Proofs.Text.DoubleQuoted
import ApiTools.Proofs.Spec.References
import ApiTools.Proofs.Text.Collapsed
import ApiTools.Proofs.Number.Grouped
