import SvgComponent.Main
import SvgComponent.Proofs.Component.Determination
import SvgComponent.Proofs.Delivery
import SvgComponent.Proofs.Markup.RoundTrip
import SvgComponent.Proofs.Output
import SvgComponent.Proofs.Query.RoundTrip
import SvgComponent.Proofs.Transform
import SvgComponent.Proofs.FileTree.WellFormed
import SvgComponent.Proofs.Output.Placement
import SvgComponent.Proofs.Command.Conversion
import SvgComponent.Proofs.Command.Preservation
import SvgComponent.Proofs.Command.Batch
import SvgComponent.Proofs.Command.Agreement
import SvgComponent.Proofs.Command.Independence
import SvgComponent.Proofs.Delivery.Switch
import SvgComponent.Proofs.Query.Literal
import SvgComponent.Proofs.Component.Readability
import SvgComponent.Proofs.Markup.Transparency
import SvgComponent.Proofs.Query.Resolution
import SvgComponent.Proofs.Markup.Occurrence
import SvgComponent.Proofs.Markup.Spacing
import SvgComponent.Proofs.Markup.Agreement
import SvgComponent.Proofs.Markup.Blankness
import SvgComponent.Proofs.Component.Damage
import SvgComponent.Proofs.Query.Decoding
import SvgComponent.Proofs.Markup.Representation
import SvgComponent.Proofs.Component.LineEnds
import SvgComponent.Proofs.Markup.Style.Writing
import SvgComponent.Proofs.Transform.Optimization
import SvgComponent.Proofs.Mapping.Entries
import SvgComponent.Proofs.Component.Script
import SvgComponent.Proofs.Value.Delimited
import SvgComponent.Proofs.Markup.Progress
