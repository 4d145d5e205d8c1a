import Caret.CommandLine.Example
import Caret.CommandLine.Manual
import Caret.CommandLine.Toolkit

/-!
A whole run of the program as a function from its arguments and its surroundings to what it prints
and how it ends. A run that fails prints nothing to the standard output.
-/
namespace Caret.CommandLine

structure Surroundings where
  files : Files.System
  logLevel : Option String := none

structure Outcome where
  exitCode : Nat
  stdout : String := ""
  stderr : String := ""
  crash : Option Crash := none
  deriving DecidableEq, Repr

/-- The end of a run whose records a session writes. A report that cannot be drawn is none. -/
def conclude (look : Log.Look) (s : Log.Session) (t : Traced (Except Stop String)) : Outcome :=
  let logged := s.writtenAll look t.records
  match t.value with
  | .ok out => { exitCode := 0, stdout := out, stderr := logged }
  | .error (.fault f) =>
    let logged := logged ++ s.writtenAll look f.shown.records
    match f.shown.value with
    | .ok text => { exitCode := f.exitCode, stderr := logged ++ text ++ "\n" }
    | .error o => { exitCode := 1, stderr := logged, crash := some (.drawing o) }
  | .error (.refused page) => { exitCode := 2, stderr := logged ++ page }
  | .error (.crash c) => { exitCode := 1, stderr := logged, crash := some c }

def complain (c : Usage.Complaint) : Traced (Except Stop String) := do
  return .error (stopWith (← c.fail 1))

def loadSettings (reader : Document.TableReader) (files : Files.System) (config : Option String) :
    Traced (Except Settings.LoadError Settings) :=
  match config with
  | some path => Settings.load reader files (Files.Path.ofText path)
  | none => Settings.discover reader files none

def sourceName (s : Settings) : String :=
  match s.source with
  | some p => p.toText
  | none => "built-in defaults"

def generate (isError : Bool) (common : Common) (words : List String) :
    Traced (Except Stop String) := do
  match ← Usage.parse isError common.path common.line common.settings.markers words with
  | .error f => return .error (stopWith f)
  | .ok d =>
    match ← d.drawn common.settings.palette with
    | .error o => return .error (.crash (.drawing o))
    | .ok text => return .ok (text ++ "\n")

def showExample (s : Settings) : Traced (Except Stop String) := do
  match ← generate true ⟨s, defaultPath, defaultLine⟩ exampleWords with
  | .error e => return .error e
  | .ok out => return .ok (exampleLine ++ "\n\n" ++ out)

def Command.run (c : Command) (common : Common) (words : List String) :
    Traced (Except Stop String) :=
  match c with
  | .help => pure (.ok (manual ++ "\n"))
  | .example => showExample common.settings
  | .error => generate true common words
  | .warning => generate false common words

def Command.take (c : Command) (common : Common) : Reading → Traced (Except Stop String)
  | .given words => c.run common words
  | .listed text => pure (.ok text)
  | .refused page => pure (.error (.refused page))

section
variable (lib : Libraries)

/-- Everything after logging is set up. -/
def serve (files : Files.System) (o : Options) (command : Option Command) :
    Traced (Except Stop String) := do
  match ← loadSettings lib.reader files o.config with
  | .error e => return .error (stopLoading e)
  | .ok s =>
    Traced.emit Log.debug ("Using configuration from " ++ sourceName s)
    match command with
    | none => complain Usage.missingCommand
    | some c => c.take ⟨s, o.place, o.number⟩ (lib.kit.reading c (o.rest.drop 1))

def startLevel (verbose : Int) (setting : Option String) : Except Text.NumeralError Int :=
  match Log.requestedLevel verbose setting with
  | .error e => .error e
  | .ok level => Log.Session.resolve level setting

/-- The stages of a run up to the one that fails, and the session that writes what they log. -/
def stages (around : Surroundings) (argv : List String) :
    Log.Session × Traced (Except Stop String) :=
  match lib.kit.opening argv with
  | .mistaken message => (mute, complain (Usage.invalidInvocation message argv))
  | .answered text => (mute, pure (.ok text))
  | .opened o =>
    match commandWord o.rest with
    | .error word => (mute, complain (Usage.invalidCommand word))
    | .ok command =>
      match startLevel o.verbose around.logLevel with
      | .error e => (mute, pure (.error (.crash (.level e))))
      | .ok level => (.ofLevel level, serve lib around.files o command)

def run (around : Surroundings) (argv : List String) : Outcome :=
  conclude lib.look (stages lib around argv).1 (stages lib around argv).2

end
end Caret.CommandLine
