import CallConsole.Main
import CallConsole.Program
import CallConsole.Proofs.Hashing
import CallConsole.Proofs.NumericOrder
import CallConsole.Proofs.RangeElements
import CallConsole.Proofs.KeyClasses
import CallConsole.Proofs.ComparisonLaws
import CallConsole.Proofs.StableSort
import CallConsole.Proofs.Unfolding
import CallConsole.Proofs.Rendering
import CallConsole.Proofs.Scanning
import CallConsole.Proofs.Evaluation
import CallConsole.Proofs.Parsing
import CallConsole.Proofs.RoundTrip
import CallConsole.Proofs.ConsistentOrder
import CallConsole.Proofs.Numerals
import CallConsole.Proofs.Grammar
import CallConsole.Proofs.Recognition
import CallConsole.Proofs.Growth
import CallConsole.Proofs.Traversal
import CallConsole.Proofs.Traits
import CallConsole.Proofs.ProperTraversal
import CallConsole.Proofs.SafeBuiltins
import CallConsole.Proofs.SafeRuns
import CallConsole.Proofs.Changes
import CallConsole.Proofs.SafeMachines
import CallConsole.Proofs.CursorRuns
import CallConsole.Proofs.TokenEnds
import CallConsole.Proofs.Layout
import CallConsole.Proofs.Lossless
import CallConsole.Proofs.NodeSpans
import CallConsole.Proofs.Frames
import CallConsole.Proofs.WellFormed
import CallConsole.Proofs.Scripts
import CallConsole.Proofs.ZipRows
import CallConsole.Proofs.EvaluationOrder
import CallConsole.Proofs.Faultless
import CallConsole.Proofs.Blame
import CallConsole.Proofs.KeySearch
import CallConsole.Proofs.CycleMarks
import CallConsole.Proofs.ContainerStacks
import CallConsole.Proofs.FailurePlaces
import CallConsole.Proofs.ComparisonsMade
import CallConsole.Proofs.RankingCalls
import CallConsole.Proofs.IncomparableItems
import CallConsole.Proofs.Extremes
import CallConsole.Proofs.Progressions
import CallConsole.Proofs.ExactOrder
import CallConsole.Proofs.QuotedTexts
import CallConsole.Proofs.Subscripts
import CallConsole.Proofs.Reversal
import CallConsole.Proofs.ComparisonDepth
import CallConsole.Proofs.NearestMultiples
import CallConsole.Proofs.ExactIntegers
import CallConsole.Proofs.NearestDoubles
import CallConsole.Proofs.DecimalRounding
import CallConsole.Proofs.Sums
import CallConsole.Proofs.SignRuns
import CallConsole.Proofs.TextConversions
import CallConsole.Proofs.IntegerTexts
import CallConsole.Proofs.DecimalTexts
import CallConsole.Proofs.FloatTexts
import CallConsole.Proofs.LineBreaks
import CallConsole.Proofs.Numbering
import CallConsole.Proofs.Copies
import CallConsole.Proofs.Reevaluation
import CallConsole.Proofs.AlikeDicts
import CallConsole.Proofs.DictBuilding
