import Caret.Proofs.CommandLine.Endings
import Caret.Proofs.CommandLine.Live

namespace Caret.CommandLine
open Usage Drawing

section
variable {d : Diagnostic}

end

end Caret.CommandLine
