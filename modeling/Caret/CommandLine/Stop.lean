import Caret.Drawing.Course
import Caret.Settings.File
import Caret.Usage.Request

namespace Caret.CommandLine

inductive Fault where
  | general (message : String)
  | settings (message : String)
  | usage (report : Diagnostic)
  deriving DecidableEq, Repr

def alarm (message : String) : String := "\x1b[91m\x1b[1merror: " ++ message ++ "\x1b[0m"

namespace Fault

def exitCode : Fault → Nat
  | .general _ => 1
  | .settings _ => 78
  | .usage _ => 1

def message : Fault → String
  | .general m => m
  | .settings m => m
  | .usage d => d.message

/-- A report is drawn in the built-in colours. -/
def shown : Fault → Traced (Except Drawing.Obstacle String)
  | .general m => pure (.ok (alarm m))
  | .settings m => pure (.ok (alarm m))
  | .usage d => d.drawn {}

end Fault

inductive Crash where
  | level (cause : Text.NumeralError)
  | line (cause : Line.Error)
  | load (cause : Settings.LoadError)
  | drawing (obstacle : Drawing.Obstacle)
  deriving DecidableEq, Repr

inductive Stop where
  | fault (f : Fault)
  | refused (page : String)
  | crash (c : Crash)
  deriving DecidableEq, Repr

def stopWith (f : Usage.Failure) : Stop :=
  match f with
  | .usage d => .fault (.usage d)
  | .line e => .crash (.line e)

/-- Faults of the configuration are reported; other failures to load settings are not. -/
def stopLoading (e : Settings.LoadError) : Stop :=
  match e with
  | .rejected _ _ => .crash (.load e)
  | .nulCharacter => .crash (.load e)
  | .notUtf8 => .crash (.load e)
  | .undiscoverable _ _ => .crash (.load e)
  | .nowhere _ => .crash (.load e)
  | e => .fault (.settings e.message)

end Caret.CommandLine
