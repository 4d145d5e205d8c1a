import Caret.CommandLine.Manual
import Caret.CommandLine.Toolkit
import Caret.Document.Loose.Outline
import Caret.Log.Paint
import Caret.Text.Quoted

/-!
The toolkit that the program runs with. A value may be attached to an option with an equals sign;
otherwise the next word is taken, whatever it looks like. A word with a single dash that is no option
by itself is a cluster of one-letter options. Mistakes are found from left to right; the line number
is converted only afterwards, so that a request for help or the version is answered before it.
-/
namespace Caret.CommandLine.Standard

inductive Eager where
  | version
  | help
  deriving DecidableEq, Repr

/-- Options as they are split off: the last occurrence of a value counts. -/
structure Draft where
  verbose : Nat := 0
  line : Option String := none
  path : Option String := none
  config : Option String := none
  eager : List Eager := []
  rest : List String := []
  deriving DecidableEq, Repr

inductive Mistake where
  | unknown (name : String)
  | valueMissing (name : String)
  | valueSuperfluous (name : String)
  | notInteger (text : String)
  | belowOne (value : Int)
  deriving DecidableEq, Repr

def Mistake.message : Mistake → String
  | .unknown name => "No such option " ++ Text.quote name ++ "."
  | .valueMissing name => "Option " ++ Text.quote name ++ " requires an argument."
  | .valueSuperfluous name => "Option " ++ Text.quote name ++ " does not take a value."
  | .notInteger text =>
    "Invalid value for '--line': " ++ Text.quote text ++ " is not a valid integer range."
  | .belowOne value =>
    "Invalid value for '--line': " ++ toString value ++ " is not in the range x>=1."

inductive Kind where
  | flag (set : Draft → Draft)
  | value (set : String → Draft → Draft)

def askVerbose (o : Draft) : Draft := { o with verbose := o.verbose + 1 }
def askVersion (o : Draft) : Draft := { o with eager := o.eager ++ [.version] }
def askHelp (o : Draft) : Draft := { o with eager := o.eager ++ [.help] }

def longOption : String → Option Kind
  | "--version" => some (.flag askVersion)
  | "--verbose" => some (.flag askVerbose)
  | "--help" => some (.flag askHelp)
  | "--line" => some (.value fun v o => { o with line := some v })
  | "--path" => some (.value fun v o => { o with path := some v })
  | "--config" => some (.value fun v o => { o with config := some v })
  | _ => none

def letterOption : Char → Option (Draft → Draft)
  | 'v' => some askVerbose
  | 'h' => some askHelp
  | _ => none

def isOption (word : String) : Bool :=
  match word.toList with
  | '-' :: _ :: _ => true
  | _ => false

def splitWord (word : String) : String × Option String :=
  let cs := word.toList
  match cs.dropWhile (· != '=') with
  | [] => (word, none)
  | _ :: value => (String.ofList (cs.takeWhile (· != '=')), some (String.ofList value))

def applyLetters (letter : Char → Option (σ → σ)) : List Char → σ → Except Mistake σ
  | [], o => .ok o
  | c :: rest, o =>
    match letter c with
    | none => .error (.unknown (String.ofList ['-', c]))
    | some set => applyLetters letter rest (set o)

def applyCluster (letter : Char → Option (σ → σ)) (word name : String) (o : σ) :
    Except Mistake σ :=
  match word.toList with
  | '-' :: '-' :: _ => .error (.unknown name)
  | _ :: letters => applyLetters letter letters o
  | [] => .ok o

def split : List String → Draft → Except Mistake Draft
  | [], o => .ok o
  | word :: rest, o =>
    if word == "--" then .ok { o with rest := rest }
    else if isOption word then
      let (name, attached) := splitWord word
      match longOption name with
      | none =>
        match applyCluster letterOption word name o with
        | .error e => .error e
        | .ok o => split rest o
      | some (.flag set) =>
        match attached with
        | some _ => .error (.valueSuperfluous name)
        | none => split rest (set o)
      | some (.value set) =>
        match attached, rest with
        | some v, rest => split rest (set v o)
        | none, v :: rest => split rest (set v o)
        | none, [] => .error (.valueMissing name)
    else .ok { o with rest := word :: rest }

def Draft.read (words : List String) : Except Mistake Draft := split words {}

def Draft.lineNumber (d : Draft) : Except Mistake (Option Int) :=
  match d.line with
  | none => .ok none
  | some text =>
    match Text.readInteger? text.toList with
    | none => .error (.notInteger text)
    | some n => if n < 1 then .error (.belowOne n) else .ok (some n)

/-- The arguments of a command that has no options but the one for help. -/
structure Plain where
  help : Bool := false
  words : List String := []
  deriving DecidableEq, Repr

inductive PlainError where
  | option (cause : Mistake)
  | extra (words : List String)
  deriving DecidableEq, Repr

def PlainError.message : PlainError → String
  | .option cause => cause.message
  | .extra [word] => "Got unexpected extra argument (" ++ word ++ ")"
  | .extra words => "Got unexpected extra arguments (" ++ String.intercalate " " words ++ ")"

def plainLetter : Char → Option (Plain → Plain)
  | 'h' => some fun p => { p with help := true }
  | _ => none

/-- Here options may follow other words. -/
def splitPlain : List String → Plain → Except Mistake Plain
  | [], p => .ok p
  | word :: rest, p =>
    if word == "--" then .ok { p with words := p.words ++ rest }
    else if isOption word then
      let (name, attached) := splitWord word
      if name == "--help" then
        match attached with
        | some _ => .error (.valueSuperfluous name)
        | none => splitPlain rest { p with help := true }
      else
        match applyCluster plainLetter word name p with
        | .error e => .error e
        | .ok p => splitPlain rest p
    else splitPlain rest { p with words := p.words ++ [word] }

def Plain.read (words : List String) : Except PlainError Bool :=
  match splitPlain words {} with
  | .error e => .error (.option e)
  | .ok p =>
    if p.help then .ok true
    else if p.words.isEmpty then .ok false
    else .error (.extra p.words)

def rawWords (words : List String) : List String :=
  words.takeWhile (· != "--") ++ (words.dropWhile (· != "--")).drop 1

def listing : String :=
  unlines
    ["Usage: frack [OPTIONS] [COMMAND] [ARGS]...",
      "",
      "  Generate rustc-style error and warning messages.",
      "",
      "Options:",
      "  --version             Show the version and exit.",
      "  -v, --verbose         Log what frack is doing. Repeat for more detail.",
      "  --line INTEGER RANGE  Line number of the location and of the code lines.",
      "                        [default: 7; x>=1]",
      "  --path TEXT           File path shown in the location line.  [default:",
      "                        src/main.rs]",
      "  --config FILE         Read colors and symbols from this TOML file (default:",
      "                        frack.toml or [tool.frack] in pyproject.toml).",
      "  -h, --help            Show this message and exit.",
      "",
      "Commands:",
      "  error    Print an error: <code> <message> <code-line> <start>-<end>...",
      "  example  Show an example invocation and its output.",
      "  help     Show how to build diagnostics from the command line.",
      "  warning  Print a warning: <message> <code-line> <start>-<end>..."]

def plainListing (command purpose : String) : String :=
  unlines
    ["Usage: frack " ++ command ++ " [OPTIONS]",
      "",
      "  " ++ purpose,
      "",
      "Options:",
      "  -h, --help  Show this message and exit."]

def plainRefusal (command message : String) : String :=
  unlines
    ["Usage: frack " ++ command ++ " [OPTIONS]",
      "Try 'frack " ++ command ++ " --help' for help.",
      "",
      "Error: " ++ Style.strip message]

def versionLine : String := "frack, version 0.1.0\n"

def Eager.answer : Eager → String
  | .version => versionLine
  | .help => listing

def opening (words : List String) : Opening :=
  match Draft.read words with
  | .error e => .mistaken e.message
  | .ok d =>
    match d.eager with
    | first :: _ => .answered first.answer
    | [] =>
      match d.lineNumber with
      | .error e => .mistaken e.message
      | .ok line => .opened ⟨d.verbose, line, d.path, d.config, d.rest⟩

def plainReading (command purpose : String) (words : List String) : Reading :=
  match Plain.read words with
  | .error e => .refused (plainRefusal command e.message)
  | .ok true => .listed (plainListing command purpose)
  | .ok false => .given []

def reading : Command → List String → Reading
  | .help => plainReading "help" "Show how to build diagnostics from the command line."
  | .example => plainReading "example" "Show an example invocation and its output."
  | .error => fun words => .given (rawWords words)
  | .warning => fun words => .given (rawWords words)

def call (hooks : Hooks) (o : Options) : Live Halt Unit :=
  match o.rest with
  | [] => do
    let _ ← hooks.start o none
  | word :: words => do
    let c ← hooks.resolve word
    let common ← hooks.start o (some c)
    hooks.hand c common (reading c words)

def main (hooks : Hooks) (argv : List String) : Live Halt Unit :=
  match opening argv with
  | .mistaken message => hooks.mistaken message argv
  | .answered text => Live.print text false
  | .opened o => call hooks o

def toolkit : Toolkit := { opening, reading, main }

/-- All that the program runs with, but for what is said about malformed documents and about where
records come from. -/
def libraries (describe : List Char → String) (place : Log.Record → Log.Place) : Libraries where
  kit := toolkit
  reader := Document.Loose.reader describe
  look := { paint := Log.Tint.paint, place }

end Caret.CommandLine.Standard
