import Lexis.Files.Tree
import Lexis.Main
import Lexis.Source.Script
import Lexis.Proofs.BareFiles
import Lexis.Proofs.Comments
import Lexis.Proofs.Composition
import Lexis.Proofs.Dumps
import Lexis.Proofs.EndTokens
import Lexis.Proofs.ExitCodes
import Lexis.Proofs.FileReports
import Lexis.Proofs.FullDevices
import Lexis.Proofs.Histories
import Lexis.Proofs.Iteration
import Lexis.Proofs.KnownTexts
import Lexis.Proofs.Lifecycle
import Lexis.Proofs.LineEnds
import Lexis.Proofs.LineNumbers
import Lexis.Proofs.LiteralShapes
import Lexis.Proofs.Logs
import Lexis.Proofs.Progress
import Lexis.Proofs.Recognition
import Lexis.Proofs.ReportedPlaces
import Lexis.Proofs.Requests
import Lexis.Proofs.Respelling
import Lexis.Proofs.ShownPlaces
import Lexis.Proofs.Spans
import Lexis.Proofs.Strictness
import Lexis.Proofs.Turns
