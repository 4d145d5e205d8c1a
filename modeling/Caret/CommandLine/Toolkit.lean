import Caret.CommandLine.Options
import Caret.CommandLine.Stop
import Caret.Console
import Caret.Document.Rejection
import Caret.Log.Session

/-!
What the program takes from others: a toolkit for command lines, a reader of documents, and the look
of a log. The toolkit reads words and calls the hooks of the program; what it is known to do is
stated here and taken for granted wherever a toolkit occurs.
-/
namespace Caret.CommandLine

/-- Before logging is set up nothing is logged. -/
def mute : Log.Session := ⟨Log.critical, [.silent]⟩

structure Progress where
  console : Console := {}
  session : Log.Session := mute
  deriving DecidableEq, Repr

inductive Halt where
  | stop (s : Stop)
  | color (cause : Style.ColorError)
  deriving DecidableEq, Repr

abbrev Live (ε : Type) := EStateM ε Progress

namespace Live

def print {ε : Type} (text : String) (newline : Bool) : Live ε Unit :=
  modify fun p => { p with console := p.console.print text newline }

def give {α : Type} (stop : Stop) : Live Halt α := throw (.stop stop)

end Live

structure Common where
  settings : Settings
  path : String
  line : Int
  deriving DecidableEq, Repr

structure Hooks where
  mistaken : String → List String → Live Halt Unit
  resolve : String → Live Halt Command
  start : Options → Option Command → Live Halt Common
  command : Command → Common → List String → Live Halt Unit

def Hooks.hand (hooks : Hooks) (c : Command) (common : Common) : Reading → Live Halt Unit
  | .given words => hooks.command c common words
  | .listed text => Live.print text false
  | .refused page => Live.give (.refused page)

structure Toolkit where
  opening : List String → Opening
  reading : Command → List String → Reading
  main : Hooks → List String → Live Halt Unit

namespace Options

def louder (k : Nat) (o : Options) : Options := { o with verbose := o.verbose + k }

end Options

/-- Some requests to say more in front of the words are counted, and nothing else is changed by them
but the wording of a mistake. -/
inductive Opening.Louder (k : Nat) : Opening → Opening → Prop
  | mistaken (message message' : String) : Louder k (.mistaken message) (.mistaken message')
  | answered (text : String) : Louder k (.answered text) (.answered text)
  | opened (o : Options) : Louder k (.opened o) (.opened (o.louder k))

namespace Toolkit

/-- The contract of a toolkit. A mistake in the options goes to one hook and nowhere else. Otherwise
the command word is resolved first, then the program is started, and only then are the words of the
command read. A word that is no option ends the options, and the commands that draw are given all
their words but the first double dash. -/
structure Documented (kit : Toolkit) : Prop where
  mistaken : ∀ {hooks argv message}, kit.opening argv = .mistaken message →
    kit.main hooks argv = hooks.mistaken message argv
  answered : ∀ {hooks argv text}, kit.opening argv = .answered text →
    kit.main hooks argv = Live.print text false
  alone : ∀ {hooks argv o}, kit.opening argv = .opened o → o.rest = [] →
    kit.main hooks argv = do
      let _ ← hooks.start o none
  called : ∀ {hooks argv o word words}, kit.opening argv = .opened o → o.rest = word :: words →
    kit.main hooks argv = do
      let c ← hooks.resolve word
      let common ← hooks.start o (some c)
      hooks.hand c common (kit.reading c words)
  positive : ∀ {argv o line}, kit.opening argv = .opened o → o.line = some line → 1 ≤ line
  counted : ∀ argv k,
    Opening.Louder k (kit.opening argv) (kit.opening (List.replicate k "-v" ++ argv))
  followed : ∀ {front o}, kit.opening front = .opened o → o.rest = [] → ∀ (c : Command) args,
    kit.opening (front ++ c.word :: args) = .opened { o with rest := c.word :: args }
  raw : ∀ {c : Command} {words}, c.draws = true → "--" ∉ words →
    kit.reading c words = .given words
  dashed : ∀ {c : Command} {before after}, c.draws = true → "--" ∉ before →
    kit.reading c (before ++ "--" :: after) = .given (before ++ after)

/-- No mistake is worded with a line break, whatever has been typed. -/
def Flat (kit : Toolkit) : Prop :=
  ∀ argv message, kit.opening argv = .mistaken message → Text.hasBreak message = false

end Toolkit

structure Libraries where
  kit : Toolkit
  reader : Document.TableReader
  look : Log.Look

end Caret.CommandLine
