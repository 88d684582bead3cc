import GroupLint.Main
import GroupLint.Proofs.Position
import GroupLint.Proofs.Walk
import GroupLint.Proofs.OutermostGroups
import GroupLint.Proofs.RulePatterns
import GroupLint.Proofs.Offenses
import GroupLint.Proofs.LoweredCalls
import GroupLint.Proofs.Linting
import GroupLint.Proofs.LoweredOffenses
import GroupLint.Proofs.PatternMeaning
import GroupLint.Proofs.PatternAlgebra
import GroupLint.Proofs.CaptureArity
import GroupLint.Proofs.Recording
import GroupLint.Proofs.CaptureOrder
import GroupLint.Proofs.EntryLists
import GroupLint.Proofs.MetadataTable
import GroupLint.Proofs.Likeness
import GroupLint.Proofs.Layout
import GroupLint.Proofs.SourceOrder
import GroupLint.Proofs.Nesting
import GroupLint.Proofs.SlotLayout
import GroupLint.Proofs.Trivia
import GroupLint.Proofs.OffenseOrder
import GroupLint.Proofs.Monotonicity
import GroupLint.Proofs.Accounting
import GroupLint.Proofs.GroupCover
import GroupLint.Proofs.SettingsFaults
import GroupLint.Proofs.FirstMistake
import GroupLint.Proofs.LineBounds
import GroupLint.Proofs.ConstantLines
import GroupLint.Proofs.ByteOffsets
import GroupLint.Proofs.SpanText
import GroupLint.Proofs.PlainConsole
import GroupLint.Proofs.Excerpts
import GroupLint.Proofs.Underlines
import GroupLint.Proofs.GlobMeaning
import GroupLint.Proofs.FileTree
import GroupLint.Proofs.Discovery
import GroupLint.Proofs.DiscoveredFiles
import GroupLint.Proofs.KeywordRuns
import GroupLint.Proofs.SettingsLayers
import GroupLint.Proofs.SettingsLookup
