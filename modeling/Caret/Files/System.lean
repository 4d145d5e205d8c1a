import Caret.Files.Path
import Caret.Text.Break
import Caret.Text.Quoted

/-!
The files that a run can see. A file system answers one question: what is at a path, or why nothing
can be found there. Reading a file and asking whether a path is a regular file are both defined
from that answer.
-/
namespace Caret.Files

inductive Entry where
  | file (bytes : ByteArray)
  | directory
  | unreadable

inductive Problem where
  | missing
  | denied
  | notDirectory
  | isDirectory
  | nameTooLong
  | nulCharacter
  deriving DecidableEq, Repr

def Problem.report : Problem → String
  | .missing => "[Errno 2] No such file or directory"
  | .denied => "[Errno 13] Permission denied"
  | .notDirectory => "[Errno 20] Not a directory"
  | .isDirectory => "[Errno 21] Is a directory"
  | .nameTooLong => "[Errno 36] File name too long"
  | .nulCharacter => "embedded null byte"

def Problem.message (p : Problem) (path : Path) : String :=
  match p with
  | .nulCharacter => p.report
  | _ => p.report ++ ": " ++ Text.quote path.toText

structure System where
  workingDirectory : Except Problem Path
  find : Path → Except Problem Entry

namespace System

def readBytes (s : System) (path : Path) : Except Problem ByteArray :=
  match s.find path with
  | .error e => .error e
  | .ok (.file bytes) => .ok bytes
  | .ok .directory => .error .isDirectory
  | .ok .unreadable => .error .denied

/-- Whether a path is a regular file. What is not there is no file; a name that is too long cannot
even be asked about. -/
def isFile (s : System) (path : Path) : Except Problem Bool :=
  match s.find path with
  | .ok (.file _) => .ok true
  | .ok .unreadable => .ok true
  | .ok .directory => .ok false
  | .error .nameTooLong => .error .nameTooLong
  | .error .denied => .error .denied
  | .error _ => .ok false

end System

/-- Text in UTF-8, with every line end read as a line feed. A byte order mark is kept. -/
def decode? (bytes : ByteArray) : Option (List Char) :=
  (String.fromUTF8? bytes).map fun s => Text.unifyBreaks s.toList

end Caret.Files
