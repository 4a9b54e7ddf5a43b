import SelectorPreview.Main
import SelectorPreview.Proofs.Assembly
import SelectorPreview.Proofs.FrameSwitch
import SelectorPreview.Proofs.OutOfFlow
import SelectorPreview.Proofs.TagSafety
import SelectorPreview.Proofs.Appending
import SelectorPreview.Proofs.RuleOrder
import SelectorPreview.Proofs.Delivery
import SelectorPreview.Proofs.DocumentRoot
import SelectorPreview.Proofs.Declarations
import SelectorPreview.Proofs.FrameMonotonicity
import SelectorPreview.Proofs.DrawingPass
import SelectorPreview.Proofs.DocumentLog
import SelectorPreview.Proofs.LogMerging
import SelectorPreview.Proofs.Diagnostics
import SelectorPreview.Proofs.FrameReading
import SelectorPreview.Proofs.SafeText
import SelectorPreview.Proofs.SelectorScan
import SelectorPreview.Proofs.TagStack
import SelectorPreview.Proofs.Nesting
import SelectorPreview.Proofs.SegmentGrammar
import SelectorPreview.Proofs.AttributeLists
import SelectorPreview.Proofs.Cascade
import SelectorPreview.Proofs.FlatRegistry
import SelectorPreview.Proofs.Grouping
import SelectorPreview.Proofs.WrittenNames
import SelectorPreview.Proofs.RegistryOrder
import SelectorPreview.Proofs.Operands
import SelectorPreview.Proofs.ShownRules
