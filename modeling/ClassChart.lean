import ClassChart.Main
import ClassChart.Trace
import ClassChart.Proofs.Parsing
import ClassChart.Proofs.Tiling
import ClassChart.Proofs.Recovery
import ClassChart.Proofs.SourceText
import ClassChart.Proofs.TokenPrinting
import ClassChart.Proofs.Lookahead
import ClassChart.Proofs.Obstacles
import ClassChart.Proofs.Blocks
import ClassChart.Proofs.Verdicts
import ClassChart.Proofs.Appending
import ClassChart.Proofs.EndMarker
import ClassChart.Proofs.LineBreakPlaces
import ClassChart.Proofs.LineEnds
import ClassChart.Proofs.Ranking
import ClassChart.Proofs.MarkupReading
import ClassChart.Proofs.MarkupRoundTrip
import ClassChart.Proofs.Showing
import ClassChart.Proofs.Routing
import ClassChart.Proofs.Renaming
import ClassChart.Proofs.BreakingOff
import ClassChart.Proofs.ExitStatus
import ClassChart.Proofs.Writing
import ClassChart.Proofs.Observing
import ClassChart.Proofs.LongestMatch
import ClassChart.Proofs.Lines
import ClassChart.Proofs.Trimming
import ClassChart.Proofs.FreeText
import ClassChart.Proofs.Reprinting
import ClassChart.Proofs.Violations
import ClassChart.Proofs.Placement
import ClassChart.Proofs.FirstDeclarations
import ClassChart.Proofs.Rearrangement
import ClassChart.Proofs.Baselines
import ClassChart.Proofs.WholeNumbers
import ClassChart.Proofs.WholeCoordinates
import ClassChart.Proofs.WrittenRows
import ClassChart.Proofs.Unescaping
import ClassChart.Proofs.JsonReading
import ClassChart.Proofs.Lossless
import ClassChart.Proofs.Headway
import ClassChart.Proofs.FirstEnd
