import AsmCheck.CommandLine.Run
import AsmCheck.Documentation
import AsmCheck.Main
import AsmCheck.Proofs.Layout
import AsmCheck.Proofs.Trimming
import AsmCheck.Proofs.Decomposition
import AsmCheck.Proofs.StatementSpans
import AsmCheck.Proofs.FirstToken
import AsmCheck.Proofs.LineReading
import AsmCheck.Proofs.DocumentOrder
import AsmCheck.Proofs.ReportOrder
import AsmCheck.Proofs.Addresses
import AsmCheck.Proofs.CleanReport
import AsmCheck.Proofs.Placement
import AsmCheck.Proofs.Coordinates
import AsmCheck.Proofs.Division
import AsmCheck.Proofs.Shifting
import AsmCheck.Proofs.Concatenation
import AsmCheck.Proofs.WordCount
import AsmCheck.Proofs.Acceptance
import AsmCheck.Proofs.OperandShapes
import AsmCheck.Proofs.DocumentationPages
import AsmCheck.Proofs.ExitStatus
import AsmCheck.Proofs.LineAccounts
import AsmCheck.Proofs.LineEndings
import AsmCheck.Proofs.InertComments
import AsmCheck.Proofs.Recomposition
import AsmCheck.Proofs.RelatedStatements
import AsmCheck.Proofs.Tokens
import AsmCheck.Proofs.GivenFamily
import AsmCheck.Proofs.Destinations
import AsmCheck.Proofs.OperandGrammar
import AsmCheck.Proofs.InstructionGrammar
import AsmCheck.Proofs.MoveGrammar
import AsmCheck.Proofs.MemoryPacking
import AsmCheck.Proofs.LabelPass
import AsmCheck.Proofs.Tips
import AsmCheck.Proofs.WrittenLines
import AsmCheck.Proofs.SectionPartition
import AsmCheck.Proofs.WordRoundTrip
import AsmCheck.Proofs.KindPrecedence
import AsmCheck.Proofs.OperandParts
import AsmCheck.Proofs.ImmediateValues
import AsmCheck.Proofs.CommentedMarkers
import AsmCheck.Proofs.LineTable
import AsmCheck.Proofs.MemoryLoop
