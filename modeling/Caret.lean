import Caret.Main
import Caret.Proofs.Automation.Resolution
import Caret.Proofs.Automation.Tasks
import Caret.Proofs.Building
import Caret.Proofs.CommandLine.Arguments
import Caret.Proofs.CommandLine.Mistakes
import Caret.Proofs.CommandLine.Precedence
import Caret.Proofs.CommandLine.Reports
import Caret.Proofs.CommandLine.Setting
import Caret.Proofs.CommandLine.Sources
import Caret.Proofs.Drawing.Extension
import Caret.Proofs.Drawing.Fallback
import Caret.Proofs.Drawing.Palettes
import Caret.Proofs.Drawing.Recovery
import Caret.Proofs.Log.History
import Caret.Proofs.Settings.Projects
import Caret.Proofs.Settings.Strangers
import Caret.Proofs.Usage.Alignment
import Caret.Proofs.Usage.Cursor
import Caret.Proofs.Usage.Echo
import Caret.Proofs.Usage.Offsets
import Caret.Proofs.Usage.Styling
import Caret.Proofs.Validation
