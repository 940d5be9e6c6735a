import Workbench.Main
import Workbench.Proofs.Analysis.Complexity
import Workbench.Proofs.Analysis.DataFlow
import Workbench.Proofs.Analysis.Docstring
import Workbench.Proofs.Analysis.Exclusion
import Workbench.Proofs.Analysis.Hint
import Workbench.Proofs.Analysis.Import
import Workbench.Proofs.Analysis.ImportName
import Workbench.Proofs.Analysis.Parameters
import Workbench.Proofs.Llm.Usage
import Workbench.Proofs.Measure.Plateau
import Workbench.Proofs.Monitor.Address
import Workbench.Proofs.Monitor.Listed
import Workbench.Proofs.Platform
import Workbench.Proofs.Portal.Metrics
import Workbench.Proofs.Portal.PassedOver
import Workbench.Proofs.Portal.Session
import Workbench.Proofs.Quality.Dependency
import Workbench.Proofs.Quality.Validity
import Workbench.Proofs.Setup.Version
import Workbench.Proofs.Snippet.Attribute
import Workbench.Proofs.Snippet.Command
import Workbench.Proofs.Snippet.Detection
import Workbench.Proofs.Snippet.LetterCase
import Workbench.Proofs.Snippet.Routing
import Workbench.Proofs.Template
import Workbench.Proofs.TestCase.Answer
import Workbench.Proofs.TestCase.Validation
import Workbench.Proofs.Web.Element
import Workbench.Proofs.Web.Reach
import Workbench.Proofs.Web.Suite
import Workbench.Proofs.Web.Survey
import Workbench.Snippet.Guide
import Workbench.Spark.Job
