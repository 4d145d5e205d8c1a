import Caret.CommandLine.Run
import Caret.Drawing.Press

/-!
A run as it happens. Texts are printed and records written one after another while the toolkit calls
the hooks, and a hook that fails ends the run where it stands: what has been printed is not taken
back. Diagnostics are drawn by the programs for unchecked ones, and nothing is assumed here about how
far they get.
-/
namespace Caret.CommandLine

/-- What leaves the program without a report. -/
inductive Escaped where
  | crash (c : Crash)
  | color (cause : Style.ColorError)
  deriving DecidableEq, Repr

structure Ending where
  exitCode : Nat
  console : Console := {}
  escaped : Option Escaped := none
  deriving DecidableEq, Repr

def Halt.ofDrawing : Drawing.Stop Empty → Halt
  | .color cause => .color cause
  | .obstacle o => .stop (.crash (.drawing o))

def Escaped.ofDrawing : Drawing.Stop Empty → Escaped
  | .color cause => .color cause
  | .obstacle o => .crash (.drawing o)

namespace Live
section
variable (look : Log.Look) {ε : Type}

def printError (text : String) (newline : Bool) : Live ε Unit :=
  modify fun p => { p with console := p.console.error text newline }

def log (r : Log.Record) : Live ε Unit :=
  modify fun p => { p with console := p.console.error (p.session.written look r) false }

def listen {α : Type} (t : Traced α) : Live ε α := do
  t.records.forM (log look)
  return t.value

def draw (gaveUp : Drawing.Stop Empty → ε) (palette : Option PaletteDraft)
    (d : Unchecked.Diagnostic) : Live ε String :=
  match Drawing.Press.writePart Drawing.buffer palette false (.diagnostic d) { sink := "" } with
  | .ok _ desk => listen look ⟨desk.records, desk.sink⟩
  | .error stop desk => do
    listen look ⟨desk.records, ()⟩
    throw (gaveUp stop)

def fail {α : Type} (c : Usage.Complaint) : Live Halt α := do
  let failure ← listen look (c.fail 1)
  give (stopWith failure)

def setUp (verbose : Int) (setting : Option String) : Live Halt Unit :=
  match Log.requestedLevel verbose setting with
  | .error e => give (.crash (.level e))
  | .ok level => do
    let p ← get
    match p.session.setup level setting with
    | .error e => give (.crash (.level e))
    | .ok session => set { p with session }

def generate (isError : Bool) (common : Common) (words : List String) : Live Halt Unit := do
  match ← listen look
    (Usage.parse isError common.path common.line common.settings.markers words) with
  | .error f => give (stopWith f)
  | .ok d =>
    let text ← draw look .ofDrawing (some common.settings.palette.draft) d.unchecked
    print text true

def showExample (s : Settings) : Live Halt Unit := do
  match ← listen look (Usage.parse true defaultPath defaultLine s.markers exampleWords) with
  | .error f => give (stopWith f)
  | .ok d =>
    print exampleLine true
    print "" true
    let text ← draw look .ofDrawing (some s.palette.draft) d.unchecked
    print text true

end

section
variable (lib : Libraries) (around : Surroundings)

def resolve (word : String) : Live Halt Command :=
  match Command.ofWord? word with
  | some c => return c
  | none => fail lib.look (Usage.invalidCommand word)

/-- Load the settings; without a command there is nothing to go on with. -/
def prepare (o : Options) (word : Option Command) : Live Halt Common := do
  match ← listen lib.look (loadSettings lib.reader around.files o.config) with
  | .error e => give (stopLoading e)
  | .ok s =>
    log lib.look ⟨Log.debug, "Using configuration from " ++ sourceName s⟩
    match word with
    | none => fail lib.look Usage.missingCommand
    | some _ => return ⟨s, o.place, o.number⟩

def start (o : Options) (word : Option Command) : Live Halt Common := do
  setUp o.verbose around.logLevel
  prepare lib around o word

def command (c : Command) (common : Common) (words : List String) : Live Halt Unit :=
  match c with
  | .help => print manual true
  | .example => showExample lib.look common.settings
  | .error => generate lib.look true common words
  | .warning => generate lib.look false common words

def hooks : Hooks where
  mistaken message argv := fail lib.look (Usage.invalidInvocation message argv)
  resolve := resolve lib
  start := start lib around
  command := command lib

end

section
variable (look : Log.Look)

/-- Faults are reported on the error stream. Reports are drawn like any diagnostic. -/
def present (f : Fault) : Live Escaped Unit := do
  match f with
  | .general m => printError (alarm m) true
  | .settings m => printError (alarm m) true
  | .usage d =>
    let text ← draw look .ofDrawing none d.unchecked
    printError text true

def settle : Halt → Live Escaped (Nat × Option Escaped)
  | .stop (.fault f) => do
    present look f
    return (f.exitCode, none)
  | .stop (.refused page) => do
    printError page false
    return (2, none)
  | .stop (.crash c) => return (1, some (.crash c))
  | .color cause => return (1, some (.color cause))

def finish : EStateM.Result Halt Progress Unit → Ending
  | .ok _ p => { exitCode := 0, console := p.console }
  | .error halt p =>
    match settle look halt p with
    | .ok (code, escaped) p => { exitCode := code, console := p.console, escaped }
    | .error escaped p => { exitCode := 1, console := p.console, escaped := some escaped }

end
end Live

def perform (lib : Libraries) (around : Surroundings) (argv : List String) : Ending :=
  Live.finish lib.look (lib.kit.main (Live.hooks lib around) argv {})

end Caret.CommandLine
