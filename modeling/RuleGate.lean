import RuleGate.Main
import RuleGate.Proofs.Acceptance
import RuleGate.Proofs.BareValues
import RuleGate.Proofs.ByteOrder
import RuleGate.Proofs.DecisionText
import RuleGate.Proofs.Dictionary
import RuleGate.Proofs.DocumentParts
import RuleGate.Proofs.HeaderLines
import RuleGate.Proofs.JsonOutcomes
import RuleGate.Proofs.JsonReading
import RuleGate.Proofs.JsonRoundTrip
import RuleGate.Proofs.JsonSkipping
import RuleGate.Proofs.JsonSyntax
import RuleGate.Proofs.KeptValues
import RuleGate.Proofs.LineSpacing
import RuleGate.Proofs.LoadingOrder
import RuleGate.Proofs.MetadataBlocks
import RuleGate.Proofs.MetadataRoundTrip
import RuleGate.Proofs.ProjectFiles
import RuleGate.Proofs.PureJudgement
import RuleGate.Proofs.RecordOutcomes
import RuleGate.Proofs.RecordReading
import RuleGate.Proofs.RuleFiles
import RuleGate.Proofs.RuleRoundTrip
import RuleGate.Proofs.SearchSession
import RuleGate.Proofs.TextCutting
import RuleGate.Proofs.TextEntries
import RuleGate.Proofs.ToolHooks
import RuleGate.Proofs.Verdict
import RuleGate.Proofs.WinningRules
import RuleGate.Proofs.EventText
import RuleGate.Proofs.BrokenRules
import RuleGate.Proofs.BatchEdits
import RuleGate.Proofs.EventMembers
